import Mathlib
import RpcProxy.Proofs.ByteLetters

/-!
# Unexported names in one pass

The pass for an unexported name keeps in mind what the letter before says about the case of the next
one, and nothing else. It writes the same over the characters of a name and over its bytes. Of a
name only the ASCII letters and digits are left, in their order, and whether one of the letters is a
capital is decided by the byte before it.
-/

namespace RpcProxy.GoName

theorem endsWord_iff {letter : Char} :
    endsWord letter = true ↔ letter.isDigit = true ∨ letter ∈ ['_', ' ', '-', '.'] := by
  simp only [endsWord, Bool.or_eq_true, beq_iff_eq, List.mem_cons, List.not_mem_nil, or_false]
  grind

private theorem endsWord_eq_false {test : Char → Bool}
    (digits : ∀ letter, test letter = true → letter.isDigit = false)
    (separators : ['_', ' ', '-', '.'].any test = false)
    {letter : Char} (passes : test letter = true) : endsWord letter = false := by
  rw [Bool.eq_false_iff, Ne, endsWord_iff]
  rintro (digit | separator)
  · rw [digits letter passes] at digit
    exact Bool.noConfusion digit
  · exact List.any_eq_false.mp separators letter separator passes

theorem endsWord_of_isAlpha {letter : Char} (alphabetic : letter.isAlpha = true) :
    endsWord letter = false :=
  endsWord_eq_false (fun _ => isDigit_of_isAlpha) rfl alphabetic

/-- Whether a pass is behind a letter, or before the first one. -/
structure CasePass.Follows (pass : CasePass) (before : Option Char) : Prop where
  place : pass.place = 0 ↔ before = none
  raises : pass.raises = before.any endsWord
  afterCapital : pass.afterCapital = before.any Char.isUpper

namespace CasePass

variable {pass : CasePass} {before : Option Char}

theorem follows_start : start.Follows none where
  place := ⟨fun _ => rfl, fun _ => rfl⟩
  raises := rfl
  afterCapital := rfl

/-- Behind a letter, the pass knows of it what it needs to know. -/
theorem follows_next (pass : CasePass) (letter : Char) :
    (pass.next letter).Follows (some letter) where
  place := by simp [next]
  raises := by
    rw [Option.any_some, next]
    by_cases alphabetic : (letter.isUpper || letter.isLower) = true
    · rw [if_pos alphabetic, endsWord_of_isAlpha alphabetic]
    · by_cases digit : letter.isDigit = true
      · simp [alphabetic, digit, endsWord]
      · simp only [alphabetic, digit, endsWord]
        grind
  afterCapital := rfl

/-- What is written for the next letter depends on the letter before. -/
theorem Follows.written_eq (follows : pass.Follows before) (letter : Char) :
    pass.written letter = unexportedLetter before letter := by
  have first : decide (pass.place = 0) = decide (before = none) :=
    decide_eq_decide.mpr follows.place
  rw [written, unexportedLetter, turned, follows.raises, follows.afterCapital, first]
  by_cases alphabetic : (letter.isUpper || letter.isLower) = true
  · rw [alphabetic, Bool.true_or, if_pos rfl, if_pos rfl]
    split
    · rfl
    · split <;> rfl
  · have caseless : letter.isUpper = false ∧ letter.isLower = false := by simpa using alphabetic
    have upper := Char.toUpper_eq_of_not_isLower (Bool.eq_false_iff.mp caseless.2)
    have lower := Char.toLower_eq_of_not_isUpper (Bool.eq_false_iff.mp caseless.1)
    by_cases digit : letter.isDigit = true <;> simp [caseless, digit, upper, lower]

/-- The pass writes what the letters to come contribute. -/
theorem Follows.run_eq (follows : pass.Follows before) (letters : List Char) :
    pass.run letters = unexportedAfter before letters := by
  induction letters generalizing pass before with
  | nil => rfl
  | cons letter rest induction =>
      rw [run, unexportedAfter, follows.written_eq, induction (pass.follows_next letter)]

end CasePass

section Bytes

variable {letter : Char}

theorem endsWord_of_isBeyondAscii (beyond : isBeyondAscii letter = true) :
    endsWord letter = false :=
  endsWord_eq_false (fun _ => isDigit_of_isBeyondAscii) rfl beyond

theorem unexportedLetter_of_isBeyondAscii (beyond : isBeyondAscii letter = true)
    (before : Option Char) : unexportedLetter before letter = [] := by
  simp [unexportedLetter, isUpper_of_isBeyondAscii beyond, isLower_of_isBeyondAscii beyond,
    isDigit_of_isBeyondAscii beyond]

/-- A letter is written in the same case behind letters that are the same to it. -/
theorem unexportedAfter_congr {before other : Option Char} (alike : SeenAlike before other) :
    unexportedAfter before = unexportedAfter other := by
  funext letters
  cases letters with
  | nil => rfl
  | cons letter rest =>
      have first : decide (before = none) = decide (other = none) :=
        decide_eq_decide.mpr alike.eq_none_iff
      rw [unexportedAfter, unexportedAfter, unexportedLetter, unexportedLetter, first,
        alike.any_eq fun _ => endsWord_of_isBeyondAscii,
        alike.any_eq fun _ => isUpper_of_isBeyondAscii]

/-- Over the bytes of letters the same is written as over the letters. -/
theorem unexportedAfter_flatMap_letterBytes (before : Option Char) (letters : List Char) :
    unexportedAfter before (letters.flatMap letterBytes) = unexportedAfter before letters := by
  induction letters generalizing before with
  | nil => rfl
  | cons letter rest induction =>
      rw [List.flatMap_cons, unexportedAfter]
      by_cases beyond : isBeyondAscii letter = true
      · have step (other : Char) (otherBeyond : isBeyondAscii other = true) (before : Option Char)
            (rest : List Char) :
            unexportedAfter before (other :: rest) = [] ++ unexportedAfter (some other) rest := by
          rw [unexportedAfter, unexportedLetter_of_isBeyondAscii otherBeyond]
        rw [scan_letterBytes_append (fun _ _ => unexportedAfter_congr) step beyond,
          unexportedLetter_of_isBeyondAscii beyond, induction, List.flatMap_eq_nil_iff.mpr]
        exact fun _ _ => rfl
      · rw [letterBytes_of_ascii (Bool.eq_false_iff.mpr beyond), List.singleton_append,
          unexportedAfter, induction]

end Bytes

section Kept

variable {before : Option Char} {letter : Char}

/-- In which case a letter is written: it is a capital behind a digit or a separator, and elsewhere
if it was one, but for the first letter and for one behind a capital. -/
theorem unexportedLetter_of_isAlpha (alphabetic : letter.isAlpha = true) (before : Option Char) :
    ∃ written, unexportedLetter before letter = [written] ∧ written.toLower = letter.toLower ∧
      (written.isUpper = true ↔ before.any endsWord = true ∨
        letter.isUpper = true ∧ before ≠ none ∧ before.any Char.isUpper = false) := by
  have cased : (letter.isUpper || letter.isLower) = true := alphabetic
  rw [unexportedLetter, if_pos cased]
  split
  · rename_i raised
    refine ⟨letter.toUpper, rfl, Char.toLower_toUpper_eq_toLower letter, ?_⟩
    simp [raised, Char.isUpper_toUpper_eq_isAlpha, alphabetic]
  · rename_i notRaised
    split
    · rename_i lowered
      refine ⟨letter.toLower, rfl, Char.toLower_toLower_eq_toLower letter, ?_⟩
      rw [Char.isUpper_toLower_eq_false]
      grind
    · rename_i kept
      refine ⟨letter, rfl, rfl, ?_⟩
      grind

/-- Of the letters the ASCII letters and digits are left, and nothing but their case is changed. -/
theorem map_toLower_unexportedAfter (before : Option Char) (letters : List Char) :
    (unexportedAfter before letters).map Char.toLower =
      (letters.filter Char.isAlphanum).map Char.toLower := by
  induction letters generalizing before with
  | nil => rfl
  | cons letter rest induction =>
      rw [unexportedAfter, List.map_append, induction]
      by_cases alphabetic : letter.isAlpha = true
      · obtain ⟨written, contributes, same, _⟩ := unexportedLetter_of_isAlpha alphabetic before
        have alphanumeric : letter.isAlphanum = true := Bool.or_eq_true_iff.mpr (.inl alphabetic)
        rw [contributes, List.filter_cons_of_pos alphanumeric, List.map_singleton, same,
          List.map_cons, List.singleton_append]
      · have uncased : ¬(letter.isUpper || letter.isLower) = true := alphabetic
        rw [unexportedLetter, if_neg uncased]
        by_cases digit : letter.isDigit = true
        · have alphanumeric : letter.isAlphanum = true := Bool.or_eq_true_iff.mpr (.inr digit)
          rw [if_pos digit, List.filter_cons_of_pos alphanumeric, List.map_singleton, List.map_cons,
            List.singleton_append]
        · have neither : ¬letter.isAlphanum = true := by
            rw [Char.isAlphanum, Bool.or_eq_true]
            exact not_or.mpr ⟨alphabetic, digit⟩
          rw [if_neg digit, List.filter_cons_of_neg neither, List.map_nil, List.nil_append]

theorem unexportedAfter_append (before : Option Char) (front back : List Char) :
    unexportedAfter before (front ++ back) =
      unexportedAfter before front ++ unexportedAfter (front.getLast?.or before) back := by
  induction front generalizing before with
  | nil => rfl
  | cons letter rest induction =>
      have last : rest.getLast?.or (some letter) = (letter :: rest).getLast?.or before := by
        rw [List.getLast?_cons, Option.some_or]
        cases rest.getLast? <;> rfl
      rw [List.cons_append, unexportedAfter, unexportedAfter, induction, last, List.append_assoc]

theorem filter_trimBlanks (letters : List Char) :
    (Text.trimBlanks letters).filter Char.isAlphanum = letters.filter Char.isAlphanum := by
  have kept (letters : List Char) :
      (letters.dropWhile Text.isBlank).filter Char.isAlphanum = letters.filter Char.isAlphanum := by
    have none : (letters.takeWhile Text.isBlank).filter Char.isAlphanum = [] := by
      rw [List.filter_eq_nil_iff]
      intro letter member alphanumeric
      have blank : Text.isBlank letter = true := List.mem_takeWhile_imp member
      rw [isBlank_of_isAlphanum alphanumeric] at blank
      exact Bool.noConfusion blank
    conv_rhs => rw [← List.takeWhile_append_dropWhile (p := Text.isBlank) (l := letters)]
    rw [List.filter_append, none, List.nil_append]
  rw [Text.trimBlanks, List.filter_reverse, kept, List.filter_reverse, List.reverse_reverse, kept]

end Kept

/-- An unexported name is what the pass makes of the bytes of a name without the blanks around it.
Its letters and digits are the ASCII letters and digits of the name, in their order, up to their
case. For each letter there is one in its place, and that is a capital exactly if the byte before
the letter is a digit or a separator, or if the letter is a capital that is neither the first byte
nor behind a capital. -/
theorem unexported_in_one_pass (name : String) :
    unexported name = String.ofList
      (CasePass.start.run (byteLetters (String.ofList (Text.trimBlanks name.toList)))) ∧
    (unexported name).toList.map Char.toLower =
      (name.toList.filter Char.isAlphanum).map Char.toLower ∧
    ∀ front letter back,
      byteLetters (String.ofList (Text.trimBlanks name.toList)) = front ++ letter :: back →
      letter.isAlpha = true →
      ∃ written, (unexported name).toList[(front.filter Char.isAlphanum).length]? = some written ∧
        written.toLower = letter.toLower ∧
        (written.isUpper = true ↔
          (∃ before, front.getLast? = some before ∧
            (before.isDigit = true ∨ before ∈ ['_', ' ', '-', '.'])) ∨
          letter.isUpper = true ∧ front ≠ [] ∧ front.getLast?.any Char.isUpper = false) := by
  have bytes : unexportedAfter none (byteLetters (String.ofList (Text.trimBlanks name.toList))) =
      (unexported name).toList := by
    rw [byteLetters_eq, String.toList_ofList, unexportedAfter_flatMap_letterBytes, unexported,
      String.toList_ofList]
  refine ⟨?_, ?_, fun front letter back parts alphabetic => ?_⟩
  · rw [CasePass.follows_start.run_eq, bytes, String.ofList_toList]
  · rw [unexported, String.toList_ofList, map_toLower_unexportedAfter, filter_trimBlanks]
  · obtain ⟨written, contributes, same, capital⟩ :=
      unexportedLetter_of_isAlpha alphabetic front.getLast?
    have place : (unexportedAfter none front).length = (front.filter Char.isAlphanum).length := by
      simpa using congrArg List.length (map_toLower_unexportedAfter none front)
    refine ⟨written, ?_, same, ?_⟩
    · rw [← bytes, parts, unexportedAfter_append, Option.or_none, unexportedAfter, contributes,
        ← place, List.getElem?_append_right (Nat.le_refl _), Nat.sub_self]
      rfl
    · rw [capital, Ne, List.getLast?_eq_none_iff, Option.any_eq_true]
      simp only [endsWord_iff]

/-- A name between blanks beyond ASCII, at a letter behind a digit and at a capital behind another.
-/
theorem unexported_in_one_pass_blanks :
    unexported "\u00A0Ä2goHTTP\u3000" = "2GoHttp" ∧
    (byteLetters (String.ofList (Text.trimBlanks "\u00A0Ä2goHTTP\u3000".toList)) =
        ['\u00C3', '\u0084', '2'] ++ 'g' :: ['o', 'H', 'T', 'T', 'P'] ∧
      ∃ written, "2GoHttp".toList[1]? = some written ∧ written.toLower = 'g' ∧
        written.isUpper = true) ∧
    byteLetters (String.ofList (Text.trimBlanks "\u00A0Ä2goHTTP\u3000".toList)) =
        ['\u00C3', '\u0084', '2', 'g', 'o', 'H'] ++ 'T' :: ['T', 'P'] ∧
      ∃ written, "2GoHttp".toList[4]? = some written ∧ written.toLower = 't' ∧
        written.isUpper = false := by
  obtain ⟨_, _, letters⟩ := unexported_in_one_pass "\u00A0Ä2goHTTP\u3000"
  have isUnexported : unexported "\u00A0Ä2goHTTP\u3000" = "2GoHttp" := by decide +kernel
  have behindDigit : byteLetters (String.ofList (Text.trimBlanks "\u00A0Ä2goHTTP\u3000".toList)) =
      ['\u00C3', '\u0084', '2'] ++ 'g' :: ['o', 'H', 'T', 'T', 'P'] := by decide +kernel
  have behindCapital : byteLetters (String.ofList (Text.trimBlanks "\u00A0Ä2goHTTP\u3000".toList)) =
      ['\u00C3', '\u0084', '2', 'g', 'o', 'H'] ++ 'T' :: ['T', 'P'] := by decide +kernel
  obtain ⟨first, inPlace, same, capital⟩ := letters _ _ _ behindDigit rfl
  obtain ⟨second, nextInPlace, nextSame, nextCapital⟩ := letters _ _ _ behindCapital rfl
  rw [isUnexported] at inPlace nextInPlace
  refine ⟨isUnexported, ⟨behindDigit, first, inPlace, same, ?_⟩,
    behindCapital, second, nextInPlace, nextSame, ?_⟩
  · exact capital.mpr (.inl ⟨'2', rfl, .inl rfl⟩)
  · rw [Bool.eq_false_iff]
    intro upper
    rcases nextCapital.mp upper with ⟨before, last, separates⟩ | ⟨_, _, notBehind⟩
    · obtain rfl := Option.some.inj last
      exact absurd separates (by decide)
    · exact absurd notBehind (by decide)

end RpcProxy.GoName

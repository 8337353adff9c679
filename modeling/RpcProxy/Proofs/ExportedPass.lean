import Mathlib
import RpcProxy.Proofs.ByteLetters
import RpcProxy.Proofs.Wire

/-!
# Exported names in one pass

The pass for an exported name takes words along whole, and what it writes is what each letter
contributes by its neighbours. A letter does not tell one neighbour beyond ASCII from another, so
the pass writes the same over the characters of a name and over its bytes: no character is cut, and
what is beyond ASCII stays as it is.
-/

namespace RpcProxy.GoName

section Pass

variable {letter : Char}

private theorem exportedAfter_of_not_raisesAfter (keeps : raisesAfter (some letter) = false)
    (rest : List Char) :
    exportedAfter (some letter) rest =
      rest.takeWhile Char.isLower ++ exportedAfter (letter :: rest.takeWhile Char.isLower).getLast?
        (rest.dropWhile Char.isLower) := by
  induction rest generalizing letter with
  | nil => rfl
  | cons next rest induction =>
      by_cases lower : next.isLower = true
      · have notDot : next ≠ '.' := ne_of_apply_ne Char.isLower (by simp [lower])
        have notUnderscore : next ≠ '_' := ne_of_apply_ne Char.isLower (by simp [lower])
        have kept : exportedLetter (some letter) next rest.head? = [next] := by
          simp [exportedLetter, notDot, notUnderscore, keeps]
        have keepsNext : raisesAfter (some next) = false := by
          simp [raisesAfter, notDot, notUnderscore, isDigit_of_isLower lower]
        rw [List.takeWhile_cons_of_pos lower, List.dropWhile_cons_of_pos lower, exportedAfter, kept,
          induction keepsNext, List.getLast?_cons_cons, List.singleton_append, List.cons_append]
      · rw [List.takeWhile_cons_of_neg lower, List.dropWhile_cons_of_neg lower]
        rfl

private theorem isLower_head?_dropWhile (letters : List Char) :
    (letters.dropWhile Char.isLower).head?.any Char.isLower = false := by
  have stops := List.head?_dropWhile_not Char.isLower letters
  cases first : (letters.dropWhile Char.isLower).head? with
  | none => rfl
  | some letter => rwa [first] at stops

theorem isLowerAt_append (front : List Char) (letter : Char) (back : List Char) :
    isLowerAt (front ++ letter :: back) (front.length + 1) = back.head?.any Char.isLower := by
  rw [isLowerAt, List.getElem?_append_right (Nat.le_add_right _ 1), Nat.add_sub_cancel_left,
    List.getElem?_cons_succ, List.head?_eq_getElem?]

/-- Behind some letters the place is the first one, or the letter before it is their last. -/
theorem startsPart_append (front back : List Char) :
    (front.length = 0 || (front ++ back)[front.length - 1]? = some '.' : Bool) =
      (front.getLast? = none || front.getLast? = some '.' : Bool) := by
  by_cases empty : front = []
  · simp [empty]
  · have inside : front.length - 1 < front.length := by
      have positive := List.length_pos_iff.mpr empty
      omega
    have nonempty : front.length ≠ 0 ∧ front.getLast? ≠ none := by simpa using empty
    rw [List.getElem?_append_left inside, ← List.getLast?_eq_getElem?, decide_eq_false nonempty.1,
      decide_eq_false nonempty.2]

private theorem takeWhile_eq_nil {rest : List Char}
    (stops : ¬rest.head?.any Char.isLower = true) : rest.takeWhile Char.isLower = [] := by
  cases rest with
  | nil => rfl
  | cons next rest => exact List.takeWhile_cons_of_neg stops

/-- At a separator or a digit the pass writes what that contributes and takes no word along. -/
theorem exportedAt_of_raisesAfter (raises : raisesAfter (some letter) = true)
    (front rest : List Char) :
    exportedAt (front ++ letter :: rest) front.length letter =
      (exportedLetter front.getLast? letter rest.head?, 0) := by
  rw [exportedAt, isLowerAt_append, startsPart_append, exportedLetter]
  by_cases dot : letter = '.'
  · by_cases vanishes : rest.head?.any Char.isLower = true <;> simp [dot, vanishes]
  by_cases underscore : letter = '_'
  · by_cases first : (front.getLast? = none || front.getLast? = some '.' : Bool) = true
    · simp only [underscore, first]
      simp
    by_cases vanishes : rest.head?.any Char.isLower = true
    · simp only [underscore, first, vanishes]
      simp
    · have back : (front ++ letter :: rest).drop (front.length + 1) = rest := by simp
      simp only [first, vanishes, back, takeWhile_eq_nil vanishes]
      simp [underscore]
  have digit : letter.isDigit = true := by simpa [raisesAfter, dot, underscore] using raises
  have notLower : ¬letter.isLower = true := by
    intro lower
    rw [isDigit_of_isLower lower] at digit
    exact Bool.noConfusion digit
  simp [dot, underscore, digit, notLower]

/-- At any other letter the pass writes what that contributes and takes the word behind it along. -/
theorem exportedAt_of_not_raisesAfter (keeps : raisesAfter (some letter) = false)
    {front : List Char} (rest : List Char)
    (raised : letter.isLower = true → raisesAfter front.getLast? = true) :
    exportedAt (front ++ letter :: rest) front.length letter =
      (exportedLetter front.getLast? letter rest.head? ++ rest.takeWhile Char.isLower,
        (rest.takeWhile Char.isLower).length) := by
  have back : (front ++ letter :: rest).drop (front.length + 1) = rest := by simp
  have plain : letter ≠ '.' ∧ letter ≠ '_' ∧ letter.isDigit = false := by
    simpa [raisesAfter, and_assoc] using keeps
  have contributes : exportedLetter front.getLast? letter rest.head? = [letter.toUpper] := by
    rw [exportedLetter, if_neg plain.1, if_neg plain.2.1]
    split
    · rfl
    · rename_i kept
      have notLower : ¬letter.isLower = true := fun lower => kept (by simp [lower, raised lower])
      rw [Char.toUpper_eq_of_not_isLower notLower]
  rw [contributes]
  simp [exportedAt, plain, back]

/-- One turn of the pass: it writes what the letter contributes and takes along a word, whose
letters contribute themselves. It never stops before a lower-case letter that is not raised. -/
theorem exists_turn {front : List Char} (rest : List Char)
    (raised : letter.isLower = true → raisesAfter front.getLast? = true) :
    ∃ word later, rest = word ++ later ∧
      exportedAt (front ++ letter :: rest) front.length letter =
        (exportedLetter front.getLast? letter rest.head? ++ word, word.length) ∧
      exportedAfter (some letter) rest = word ++ exportedAfter (letter :: word).getLast? later ∧
      (later.head?.any Char.isLower = true → raisesAfter (letter :: word).getLast? = true) := by
  by_cases raises : raisesAfter (some letter) = true
  · refine ⟨[], rest, rfl, ?_, rfl, fun _ => raises⟩
    rw [exportedAt_of_raisesAfter raises, List.append_nil, List.length_nil]
  · have keeps := Bool.eq_false_iff.mpr raises
    refine ⟨rest.takeWhile Char.isLower, rest.dropWhile Char.isLower,
      List.takeWhile_append_dropWhile.symm, exportedAt_of_not_raisesAfter keeps rest raised,
      exportedAfter_of_not_raisesAfter keeps rest, fun lower => ?_⟩
    rw [isLower_head?_dropWhile] at lower
    exact Bool.noConfusion lower

/-- From a place where it may go on, the pass writes what the letters to come contribute. -/
theorem exportedFrom_append {front back : List Char}
    (raised : back.head?.any Char.isLower = true → raisesAfter front.getLast? = true) :
    exportedFrom (front ++ back) front.length = exportedAfter front.getLast? back := by
  -- A turn takes a word along, so the induction is on how many letters are left and not on `back`.
  induction size : back.length using Nat.strong_induction_on generalizing front back with
  | _ count induction =>
      rw [exportedFrom]
      cases back with
      | nil => simp [exportedAfter]
      | cons letter rest =>
          have inside : front.length < (front ++ letter :: rest).length := by simp
          have here : (front ++ letter :: rest)[front.length] = letter := by simp
          obtain ⟨word, later, rfl, turn, writes, raisedLater⟩ := exists_turn rest raised
          have last : (front ++ letter :: word).getLast? = (letter :: word).getLast? :=
            List.getLast?_append_of_ne_nil _ (List.cons_ne_nil _ _)
          have shorter : later.length < count := by
            rw [List.length_cons, List.length_append] at size
            omega
          have goesOn := induction later.length shorter (last ▸ raisedLater) rfl
          have place : (front ++ letter :: word).length = front.length + 1 + word.length := by
            rw [List.length_append, List.length_cons]
            omega
          rw [place, last, List.append_assoc, List.cons_append] at goesOn
          rw [dif_pos inside, here, turn, exportedAfter, writes, ← List.append_assoc, ← goesOn]

theorem exportedFrom_zero (letters : List Char) :
    exportedFrom letters 0 = exportedAfter none letters :=
  @exportedFrom_append [] letters fun _ => rfl

end Pass

section Beyond

variable {letter : Char}

theorem ne_separator_of_isBeyondAscii (beyond : isBeyondAscii letter = true) :
    letter ≠ '.' ∧ letter ≠ '_' :=
  ⟨ne_of_isBeyondAscii beyond (by decide), ne_of_isBeyondAscii beyond (by decide)⟩

theorem raisesAfter_of_isBeyondAscii (beyond : isBeyondAscii letter = true) :
    raisesAfter (some letter) = false := by
  have plain := ne_separator_of_isBeyondAscii beyond
  simp [raisesAfter, plain, isDigit_of_isBeyondAscii beyond]

/-- What a letter contributes is the same with neighbours that are the same to it. -/
theorem exportedLetter_congr {before otherBefore after otherAfter : Option Char}
    (alikeBefore : SeenAlike before otherBefore) (alikeAfter : SeenAlike after otherAfter)
    (letter : Char) :
    exportedLetter before letter after = exportedLetter otherBefore letter otherAfter := by
  have lower : after.any Char.isLower = otherAfter.any Char.isLower :=
    alikeAfter.any_eq fun _ => isLower_of_isBeyondAscii
  rcases alikeBefore with rfl | ⟨beyond, otherBeyond⟩
  · rw [exportedLetter, exportedLetter, lower]
  · obtain ⟨before, rfl, beyond⟩ := (Option.any_eq_true _ _).mp beyond
    obtain ⟨other, rfl, otherBeyond⟩ := (Option.any_eq_true _ _).mp otherBeyond
    have notDot : before ≠ '.' ∧ other ≠ '.' :=
      ⟨(ne_separator_of_isBeyondAscii beyond).1, (ne_separator_of_isBeyondAscii otherBeyond).1⟩
    simp [exportedLetter, lower, notDot, raisesAfter_of_isBeyondAscii beyond,
      raisesAfter_of_isBeyondAscii otherBeyond]

theorem exportedLetter_of_isBeyondAscii (beyond : isBeyondAscii letter = true)
    (before after : Option Char) : exportedLetter before letter after = [letter] := by
  have plain := ne_separator_of_isBeyondAscii beyond
  simp [exportedLetter, plain, isLower_of_isBeyondAscii beyond]

/-- What an ASCII character contributes is ASCII. -/
theorem isBeyondAscii_of_mem_exportedLetter {before after : Option Char} {other : Char}
    (ascii : isBeyondAscii letter = false) (member : other ∈ exportedLetter before letter after) :
    isBeyondAscii other = false := by
  rw [exportedLetter] at member
  split at member
  · split at member
    · simp at member
    · exact List.mem_singleton.mp member ▸ rfl
  · split at member
    · split at member
      · exact List.mem_singleton.mp member ▸ rfl
      · split at member
        · simp at member
        · exact List.mem_singleton.mp member ▸ rfl
    · split at member
      · rename_i raised
        rw [List.mem_singleton.mp member]
        have lower := (Bool.and_eq_true _ _ ▸ raised).1
        have alphabetic : letter.isAlpha = true := isAlpha_iff.mpr (.inr (isLower_iff.mp lower))
        exact isBeyondAscii_eq_false (Bool.or_eq_true_iff.mpr (.inl (isAlpha_toUpper alphabetic)))
      · exact List.mem_singleton.mp member ▸ ascii

theorem exportedAfter_congr {before other : Option Char} (alike : SeenAlike before other) :
    exportedAfter before = exportedAfter other := by
  funext letters
  cases letters with
  | nil => rfl
  | cons letter rest =>
      rw [exportedAfter, exportedAfter, exportedLetter_congr alike (.inl rfl)]

/-- Over the bytes of letters the bytes are written of what is written over the letters. -/
theorem exportedAfter_flatMap_letterBytes (before : Option Char) (letters : List Char) :
    exportedAfter before (letters.flatMap letterBytes) =
      (exportedAfter before letters).flatMap letterBytes := by
  induction letters generalizing before with
  | nil => rfl
  | cons letter rest induction =>
      rw [List.flatMap_cons, exportedAfter, List.flatMap_append, ← induction]
      by_cases beyond : isBeyondAscii letter = true
      · have step (other : Char) (otherBeyond : isBeyondAscii other = true) (before : Option Char)
            (rest : List Char) :
            exportedAfter before (other :: rest) = [other] ++ exportedAfter (some other) rest := by
          rw [exportedAfter, exportedLetter_of_isBeyondAscii otherBeyond]
        rw [scan_letterBytes_append (fun _ _ => exportedAfter_congr) step beyond,
          List.flatMap_singleton', exportedLetter_of_isBeyondAscii beyond, List.flatMap_singleton]
      · have ascii := Bool.eq_false_iff.mpr beyond
        rw [letterBytes_of_ascii ascii, List.singleton_append, exportedAfter,
          exportedLetter_congr (.inl rfl) (seenAlike_head?_letterBytes rest),
          flatMap_letterBytes_of_ascii fun _ member =>
            isBeyondAscii_of_mem_exportedLetter ascii member]

/-- The letters beyond ASCII are kept, in their order. -/
theorem filter_exportedAfter (before : Option Char) (letters : List Char) :
    (exportedAfter before letters).filter isBeyondAscii = letters.filter isBeyondAscii := by
  induction letters generalizing before with
  | nil => rfl
  | cons letter rest induction =>
      rw [exportedAfter, List.filter_append, induction]
      by_cases beyond : isBeyondAscii letter = true
      · rw [exportedLetter_of_isBeyondAscii beyond, List.filter_cons_of_pos beyond,
          List.filter_cons_of_pos beyond, List.filter_nil, List.singleton_append]
      · have ascii := Bool.eq_false_iff.mpr beyond
        have none : (exportedLetter before letter rest.head?).filter isBeyondAscii = [] := by
          rw [List.filter_eq_nil_iff]
          intro other member
          rw [isBeyondAscii_of_mem_exportedLetter ascii member]
          exact Bool.false_ne_true
        rw [none, List.filter_cons_of_neg beyond, List.nil_append]

end Beyond

/-- The pass over the bytes of a name writes the bytes of the exported name. -/
theorem exportedBytes_utf8 (name : String) :
    exportedBytes (Wire.utf8 name) = Wire.utf8 (exported name) := by
  have letters : (Wire.utf8 name).map Char.ofUInt8 = name.toList.flatMap letterBytes :=
    byteLetters_eq name
  rw [exportedBytes, letters, exportedFrom_zero, exportedAfter_flatMap_letterBytes,
    map_toUInt8_flatMap_letterBytes, Wire.utf8_eq_flatMap, exported, String.toList_ofList]

/-- What the pass for an exported name makes of the bytes of a name are the bytes of a text, and it
is read without gaps. It is the exported name, which the same pass over the characters writes too.
The characters beyond ASCII are those of the name, in their order. -/
theorem exported_in_one_pass (name : String) :
    Wire.text? (exportedBytes (Wire.utf8 name)) = some (exported name) ∧
    none ∉ Wire.lossyLetters (exportedBytes (Wire.utf8 name)) ∧
    Wire.lossyText (exportedBytes (Wire.utf8 name)) = exported name ∧
    exported name = String.ofList (exportedFrom name.toList 0) ∧
    (exported name).toList.filter isBeyondAscii = name.toList.filter isBeyondAscii := by
  rw [exportedBytes_utf8]
  refine ⟨Wire.text?_utf8 _, ?_, Wire.lossyText_utf8 _, ?_, ?_⟩
  · rw [Wire.lossyLetters_utf8]
    simp
  · rw [exportedFrom_zero, exported]
  · rw [exported, String.toList_ofList, filter_exportedAfter]

/-- Lower-case letters beyond ASCII do not count as lower case, so the dot before one is written. -/
example : Wire.lossyText (exportedBytes (Wire.utf8 "größe.öl_x2é_y")) = "Größe_ölX2éY" := by
  decide +kernel

end RpcProxy.GoName

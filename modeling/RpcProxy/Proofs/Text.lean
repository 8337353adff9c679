import Mathlib.Data.List.Basic
import Mathlib.Data.List.TakeWhile
import RpcProxy.Text.Split

/-!
# Laws of cutting texts

A text that is put together from parts with a separator between them is cut apart into the same
parts, as long as no part holds the separator on the side from which the cut comes.
-/

namespace RpcProxy.Text

theorem dropBeginning?_eq_some_iff {beginning text rest : String} :
    dropBeginning? beginning text = some rest ↔ text = beginning ++ rest := by
  rw [dropBeginning?, Option.map_eq_some_iff]
  simp only [List.isPrefixOf?_eq_some_iff_append_eq]
  constructor
  · rintro ⟨letters, split, rfl⟩
    rw [← String.toList_inj, String.toList_append, String.toList_ofList, split]
  · rintro rfl
    exact ⟨rest.toList, (String.toList_append ..).symm, String.ofList_toList ..⟩

theorem dropEnding?_eq_some_iff {ending text rest : String} :
    dropEnding? ending text = some rest ↔ text = rest ++ ending := by
  rw [dropEnding?, Option.map_eq_some_iff]
  simp only [List.isSuffixOf?_eq_some_iff_append_eq]
  constructor
  · rintro ⟨letters, split, rfl⟩
    rw [← String.toList_inj, String.toList_append, String.toList_ofList, split]
  · rintro rfl
    exact ⟨rest.toList, (String.toList_append ..).symm, String.ofList_toList ..⟩

theorem dropEnding?_eq_none_iff {ending text : String} :
    dropEnding? ending text = none ↔ ¬∃ rest, text = rest ++ ending := by
  simp only [Option.eq_none_iff_forall_not_mem, Option.mem_def, dropEnding?_eq_some_iff, not_exists]

@[simp] theorem dropBeginning?_append (beginning rest : String) :
    dropBeginning? beginning (beginning ++ rest) = some rest :=
  dropBeginning?_eq_some_iff.mpr rfl

@[simp] theorem dropEnding?_append (ending rest : String) :
    dropEnding? ending (rest ++ ending) = some rest :=
  dropEnding?_eq_some_iff.mpr rfl

variable {separator : Char} {before after text : String}

private theorem passed_of_notMem {letters : List Char} (absent : separator ∉ letters) :
    ∀ letter ∈ letters, (letter != separator) = true := by
  intro letter member
  exact bne_iff_ne.mpr fun equal => absent (equal ▸ member)

private theorem cutFirstLetters_append {front back : List Char} (absent : separator ∉ front) :
    cutFirstLetters separator (front ++ separator :: back) = some (front, back) := by
  have passed := passed_of_notMem absent
  rw [cutFirstLetters, List.dropWhile_append_of_pos passed, List.takeWhile_append_of_pos passed]
  simp

private theorem cutFirstLetters_eq_none {letters : List Char} (absent : separator ∉ letters) :
    cutFirstLetters separator letters = none := by
  have passed : letters.dropWhile (· != separator) = [] :=
    List.dropWhile_eq_nil_iff.mpr (passed_of_notMem absent)
  rw [cutFirstLetters, passed]

theorem cutFirst_append (absent : separator ∉ before.toList) (after : String) :
    cutFirst separator (before ++ String.singleton separator ++ after) = some (before, after) := by
  have letters : (before ++ String.singleton separator ++ after).toList =
      before.toList ++ separator :: after.toList := by
    simp
  rw [cutFirst, letters, cutFirstLetters_append absent]
  simp

/-- A text with a separator has one beginning before the first one, and one ending behind it. -/
theorem append_separator_inj {other otherAfter : String} (absent : separator ∉ before.toList)
    (otherAbsent : separator ∉ other.toList)
    (equal : before ++ (String.singleton separator ++ after) =
      other ++ (String.singleton separator ++ otherAfter)) :
    before = other ∧ after = otherAfter := by
  rw [← String.append_assoc, ← String.append_assoc] at equal
  have cut := (cutFirst_append absent after).symm.trans
    (equal ▸ cutFirst_append otherAbsent otherAfter)
  exact Prod.mk.inj (Option.some.inj cut)

/-- A text is cut inside a mark that starts with the separator. -/
theorem cutFirst_append_mark {mark rest : String}
    (marks : mark = String.singleton separator ++ rest)
    (absent : separator ∉ before.toList) (after : String) :
    cutFirst separator (before ++ (mark ++ after)) = some (before, rest ++ after) := by
  have cut := cutFirst_append absent (rest ++ after)
  rw [marks]
  simpa only [String.append_assoc] using cut

theorem cutLast_append (before : String) (absent : separator ∉ after.toList) :
    cutLast separator (before ++ String.singleton separator ++ after) = some (before, after) := by
  have letters : (before ++ String.singleton separator ++ after).toList.reverse =
      after.toList.reverse ++ separator :: before.toList.reverse := by
    simp
  rw [cutLast, letters, cutFirstLetters_append (by simpa using absent)]
  simp

theorem cutLast_eq_none (absent : separator ∉ text.toList) : cutLast separator text = none := by
  rw [cutLast, cutFirstLetters_eq_none (by simpa using absent), Option.map_none]

/-- A text has no separator, or it is cut at the first one. -/
theorem exists_first_separator (separator : Char) (text : String) :
    separator ∉ text.toList ∨ ∃ before after,
      text = before ++ String.singleton separator ++ after ∧ separator ∉ before.toList := by
  by_cases member : separator ∈ text.toList
  · right
    obtain ⟨front, back, equal, absent⟩ := List.eq_append_cons_of_mem member
    refine ⟨String.ofList front, String.ofList back, ?_, by simpa using absent⟩
    rw [← String.toList_inj, equal]
    simp
  · exact .inl member

theorem cutFirst_eq_none (absent : separator ∉ text.toList) : cutFirst separator text = none := by
  rw [cutFirst, cutFirstLetters_eq_none absent, Option.map_none]

/-- A text has no separator, or it is cut at the last one. -/
theorem exists_last_separator (separator : Char) (text : String) :
    separator ∉ text.toList ∨ ∃ before after,
      text = before ++ String.singleton separator ++ after ∧ separator ∉ after.toList := by
  by_cases member : separator ∈ text.toList
  · right
    obtain ⟨back, front, equal, absent⟩ :=
      List.eq_append_cons_of_mem (List.mem_reverse.mpr member)
    refine ⟨String.ofList front.reverse, String.ofList back.reverse, ?_, by simpa using absent⟩
    have letters : text.toList = front.reverse ++ separator :: back.reverse := by
      simpa using congrArg List.reverse equal
    rw [← String.toList_inj, letters]
    simp
  · exact .inl member

theorem split_append (before after : String) :
    split separator (before ++ String.singleton separator ++ after) =
      split separator before ++ split separator after := by
  have letters : (before ++ String.singleton separator ++ after).toList =
      before.toList ++ separator :: after.toList := by
    simp
  rw [split, letters, List.splitOn_append_cons_self, List.map_append, split, split]

theorem split_eq_singleton (absent : separator ∉ text.toList) : split separator text = [text] := by
  rw [split, List.splitOn_eq_singleton absent, List.map_singleton, String.ofList_toList]

theorem split_ne_nil (separator : Char) (text : String) : split separator text ≠ [] := by
  simp [split, List.splitOn_ne_nil]

theorem intercalate_split (separator : Char) (text : String) :
    String.intercalate (String.singleton separator) (split separator text) = text := by
  have letters : (String.intercalate (String.singleton separator) (split separator text)).toList =
      text.toList := by
    rw [String.toList_intercalate, split, List.map_map]
    simp [Function.comp_def]
  exact String.toList_inj.mp letters

/-- Pieces without separators are what their text is split into. -/
theorem split_intercalate {pieces : List String} (nonempty : pieces ≠ [])
    (whole : ∀ piece ∈ pieces, separator ∉ piece.toList) :
    split separator (String.intercalate (String.singleton separator) pieces) = pieces := by
  have letters : List.splitOn separator
      (String.intercalate (String.singleton separator) pieces).toList =
        pieces.map String.toList := by
    rw [String.toList_intercalate, String.toList_singleton]
    apply List.splitOn_intercalate
    · simpa using whole
    · simpa using nonempty
  rw [split, letters]
  simp [Function.comp_def]

theorem notMem_of_mem_split {piece : String} (member : piece ∈ split separator text) :
    separator ∉ piece.toList := by
  induction length : text.length using Nat.strong_induction_on generalizing text with
  | _ length induction =>
      rcases exists_first_separator separator text with absent | ⟨before, after, rfl, absent⟩
      · rw [split_eq_singleton absent, List.mem_singleton] at member
        exact member ▸ absent
      · rw [split_append, split_eq_singleton absent, List.singleton_append, List.mem_cons] at member
        rcases member with rfl | later
        · exact absent
        · refine induction after.length ?_ later rfl
          simp only [String.length_append, String.length_singleton] at length
          omega

/-- The pieces of a text have no separators, and the text is theirs with separators in between. -/
theorem split_eq_iff {pieces : List String} :
    split separator text = pieces ↔
      pieces ≠ [] ∧ (∀ piece ∈ pieces, separator ∉ piece.toList) ∧
        text = String.intercalate (String.singleton separator) pieces := by
  constructor
  · rintro rfl
    exact ⟨split_ne_nil separator text, fun _ => notMem_of_mem_split,
      (intercalate_split separator text).symm⟩
  · rintro ⟨nonempty, whole, rfl⟩
    exact split_intercalate nonempty whole

/-- A text is what is left of it and slashes, and what is left does not end in a slash. -/
theorem dropTrailingSlashes_eq_iff {path : String} :
    dropTrailingSlashes text = path ↔
      path.toList.getLast? ≠ some '/' ∧
        ∃ count, text = path ++ String.ofList (List.replicate count '/') := by
  constructor
  · rintro rfl
    have split := List.takeWhile_append_dropWhile (p := (· == '/')) (l := text.toList.reverse)
    have slashes : text.toList.reverse.takeWhile (· == '/') =
        List.replicate (text.toList.reverse.takeWhile (· == '/')).length '/' := by
      rw [List.eq_replicate_iff]
      exact ⟨rfl, fun letter member => by simpa using List.mem_takeWhile_imp member⟩
    refine ⟨?_, (text.toList.reverse.takeWhile (· == '/')).length, ?_⟩
    · rw [dropTrailingSlashes, String.toList_ofList, List.getLast?_reverse]
      intro slash
      have passed := List.head?_dropWhile_not (p := (· == '/')) text.toList.reverse
      rw [slash] at passed
      simp at passed
    · rw [← String.toList_inj, String.toList_append, dropTrailingSlashes, String.toList_ofList,
        String.toList_ofList, ← List.reverse_inj, List.reverse_append, List.reverse_reverse,
        List.reverse_replicate, ← slashes, split]
  · rintro ⟨opened, count, rfl⟩
    have passed : ∀ letter ∈ List.replicate count '/', (letter == '/') = true := by
      intro letter member
      rw [(List.mem_replicate.mp member).2]
      rfl
    have kept : path.toList.reverse.dropWhile (· == '/') = path.toList.reverse := by
      cases letters : path.toList.reverse with
      | nil => rfl
      | cons letter rest =>
          have last : path.toList.getLast? = some letter := by
            rw [← List.head?_reverse, letters, List.head?_cons]
          have differs : ¬(letter == '/') = true := by
            intro slash
            exact opened (last.trans (congrArg some (eq_of_beq slash)))
          rw [List.dropWhile_cons, if_neg differs]
    rw [dropTrailingSlashes, String.toList_append, String.toList_ofList, List.reverse_append,
      List.reverse_replicate, List.dropWhile_append_of_pos passed, kept, List.reverse_reverse,
      String.ofList_toList]

theorem lastElement_append (path : String) {ending : String} (absent : '/' ∉ ending.toList) :
    lastElement (path ++ ending) = lastElement path ++ ending := by
  have passed : ∀ letter ∈ ending.toList.reverse, (letter != '/') = true :=
    passed_of_notMem (by simpa using absent)
  rw [lastElement, lastElement, String.toList_append, List.reverse_append,
    List.takeWhile_append_of_pos passed, List.reverse_append, List.reverse_reverse,
    String.ofList_append, String.ofList_toList]

theorem lastElement_of_notMem {path : String} (absent : '/' ∉ path.toList) :
    lastElement path = path := by
  simpa [lastElement] using lastElement_append "" absent

theorem lastElement_inside (directory : String) {base : String} (absent : '/' ∉ base.toList) :
    lastElement (directory ++ "/" ++ base) = base := by
  rw [lastElement_append _ absent, lastElement]
  simp

private theorem dropRepeated_eq_iff {beginning : List Char} (nonempty : beginning ≠ [])
    {times : Nat} {letters rest : List Char} (enough : letters.length ≤ times) :
    dropRepeated beginning times letters = rest ↔
      beginning.isPrefixOf? rest = none ∧
        ∃ count, letters = (List.replicate count beginning).flatten ++ rest := by
  induction times generalizing letters with
  | zero =>
      obtain rfl := List.length_eq_zero_iff.mp (Nat.le_zero.mp enough)
      constructor
      · rintro rfl
        cases beginning with
        | nil => exact absurd rfl nonempty
        | cons letter beginning => exact ⟨rfl, 0, rfl⟩
      · rintro ⟨_, count, equal⟩
        exact (List.append_eq_nil_iff.mp equal.symm).2.symm
  | succ times induction =>
      rw [dropRepeated]
      split
      · rename_i shorter begins
        obtain rfl := List.isPrefixOf?_eq_some_iff_append_eq.mp begins
        have bound : shorter.length ≤ times := by
          have := List.length_pos_iff.mpr nonempty
          rw [List.length_append] at enough
          omega
        rw [induction bound]
        refine and_congr_right fun ends => ?_
        constructor
        · rintro ⟨count, rfl⟩
          exact ⟨count + 1, by simp [List.replicate_succ]⟩
        · rintro ⟨count, equal⟩
          cases count with
          | zero =>
              obtain rfl : beginning ++ shorter = rest := by simpa using equal
              rw [begins] at ends
              exact absurd ends (Option.some_ne_none _)
          | succ count => exact ⟨count, by simpa [List.replicate_succ] using equal⟩
      · rename_i ends
        constructor
        · rintro rfl
          exact ⟨ends, 0, rfl⟩
        · rintro ⟨_, count, rfl⟩
          cases count with
          | zero => rfl
          | succ count =>
              rw [List.replicate_succ, List.flatten_cons, List.append_assoc,
                List.isPrefixOf?_eq_some_iff_append_eq.mpr rfl] at ends
              exact absurd ends (Option.some_ne_none _)

/-- A text is what is left of it and the ending, repeated, and what is left does not end so. -/
theorem dropEndings_eq_iff {ending rest : String} (nonempty : ending ≠ "") :
    dropEndings ending text = rest ↔
      dropEnding? ending rest = none ∧
        ∃ count, text = rest ++ String.join (List.replicate count ending) := by
  have letters : ending.toList.reverse ≠ [] := by simpa using nonempty
  have reversed (count : Nat) : text.toList.reverse =
      (List.replicate count ending.toList.reverse).flatten ++ rest.toList.reverse ↔
        text = rest ++ String.join (List.replicate count ending) := by
    rw [← String.toList_inj, String.toList_append, String.toList_join, List.flatMap_def,
      List.map_replicate, ← List.reverse_inj, List.reverse_reverse, List.reverse_append,
      List.reverse_reverse, List.reverse_flatten, List.map_replicate, List.reverse_replicate,
      List.reverse_reverse]
  have ends : ending.toList.reverse.isPrefixOf? rest.toList.reverse = none ↔
      dropEnding? ending rest = none := by
    rw [dropEnding?, Option.map_eq_none_iff, List.isSuffixOf?, Option.map_eq_none_iff]
  have inverted : String.ofList (dropRepeated ending.toList.reverse text.toList.reverse.length
        text.toList.reverse).reverse = rest ↔
      dropRepeated ending.toList.reverse text.toList.reverse.length text.toList.reverse =
        rest.toList.reverse := by
    rw [← String.toList_inj, String.toList_ofList, List.reverse_eq_iff]
  rw [dropEndings, inverted, dropRepeated_eq_iff letters (Nat.le_refl _), ends]
  simp only [reversed]

/-- Nothing is left of a text without its endings exactly if it is the ending, repeated. -/
theorem dropEndings_eq_empty_iff {ending : String} (nonempty : ending ≠ "") :
    dropEndings ending text = "" ↔ ∃ count, text = String.join (List.replicate count ending) := by
  have ends : dropEnding? ending "" = none := by
    rw [dropEnding?_eq_none_iff]
    rintro ⟨rest, parts⟩
    exact nonempty (String.append_eq_empty_iff.mp parts.symm).2
  rw [dropEndings_eq_iff nonempty, and_iff_right ends]
  simp only [String.empty_append]

end RpcProxy.Text

import Mathlib.Tactic.SplitIfs
import RpcProxy.GoName.Pass
import RpcProxy.Proofs.Bytes
import RpcProxy.Proofs.GoName

/-!
# Letters beyond ASCII

The bytes of a name, read as letters, are its ASCII characters and some letters beyond ASCII for
each character beyond it. The rules for Go names see no difference between letters beyond ASCII, and
leave them as they are or leave them out.
-/

namespace RpcProxy.GoName

open String (utf8EncodeChar)

def isBeyondAscii (letter : Char) : Bool := 128 ≤ letter.toNat

section Letters

variable {letter other : Char}

theorem isBeyondAscii_iff : isBeyondAscii letter = true ↔ 128 ≤ letter.val := by
  rw [isBeyondAscii, decide_eq_true_iff, UInt32.le_iff_toNat_le]
  rfl

theorem isAlphanum_of_isBeyondAscii (beyond : isBeyondAscii letter = true) :
    letter.isAlphanum = false := by
  rw [isBeyondAscii_iff] at beyond
  rw [Char.isAlphanum, Bool.or_eq_false_iff, Bool.eq_false_iff, Ne, isAlpha_iff, Char.isDigit]
  grind

theorem isDigit_of_isBeyondAscii (beyond : isBeyondAscii letter = true) :
    letter.isDigit = false :=
  (Bool.or_eq_false_iff.mp (isAlphanum_of_isBeyondAscii beyond)).2

theorem isUpper_of_isBeyondAscii (beyond : isBeyondAscii letter = true) :
    letter.isUpper = false :=
  (Bool.or_eq_false_iff.mp (Bool.or_eq_false_iff.mp (isAlphanum_of_isBeyondAscii beyond)).1).1

theorem isLower_of_isBeyondAscii (beyond : isBeyondAscii letter = true) :
    letter.isLower = false :=
  (Bool.or_eq_false_iff.mp (Bool.or_eq_false_iff.mp (isAlphanum_of_isBeyondAscii beyond)).1).2

theorem ne_of_isBeyondAscii (beyond : isBeyondAscii letter = true)
    (ascii : isBeyondAscii other = false) : letter ≠ other :=
  ne_of_apply_ne isBeyondAscii (by rw [beyond, ascii]; exact Bool.noConfusion)

theorem isBeyondAscii_eq_false (alphanumeric : letter.isAlphanum = true) :
    isBeyondAscii letter = false := by
  rw [Bool.eq_false_iff]
  intro beyond
  rw [isAlphanum_of_isBeyondAscii beyond] at alphanumeric
  exact Bool.noConfusion alphanumeric

end Letters

/-- The bytes of a letter, each read as the letter of its number. -/
def letterBytes (letter : Char) : List Char := (utf8EncodeChar letter).map Char.ofUInt8

theorem byteLetters_eq (text : String) : byteLetters text = text.toList.flatMap letterBytes := by
  rw [byteLetters, Wire.utf8_eq_flatMap, List.map_flatMap]
  rfl

theorem map_toUInt8_flatMap_letterBytes (letters : List Char) :
    (letters.flatMap letterBytes).map Char.toUInt8 = letters.flatMap utf8EncodeChar := by
  have undone : Char.toUInt8 ∘ Char.ofUInt8 = id := funext UInt8.toUInt8_toUInt32
  simp only [List.map_flatMap, letterBytes, List.map_map, undone, List.map_id]

theorem letterBytes_ne_nil (letter : Char) : letterBytes letter ≠ [] := by
  rw [letterBytes, Ne, List.map_eq_nil_iff]
  exact String.utf8EncodeChar_ne_nil

/-- An ASCII character is one byte, which is read as the character. -/
theorem letterBytes_of_ascii {letter : Char} (ascii : isBeyondAscii letter = false) :
    letterBytes letter = [letter] := by
  have small : letter.toNat < 128 := by simpa [isBeyondAscii] using ascii
  have single : letter.utf8Size = 1 := by
    rw [Char.utf8Size_eq_one_iff, UInt32.le_iff_toNat_le]
    exact Nat.le_of_lt_succ small
  have same : letter.val.toUInt8.toUInt32 = letter.val := by
    rw [← UInt32.toNat_inj, UInt8.toNat_toUInt32, UInt32.toNat_toUInt8]
    exact Nat.mod_eq_of_lt (Nat.lt_trans small (by decide))
  rw [letterBytes, String.utf8EncodeChar_eq_singleton single, List.map_singleton]
  exact congrArg (fun letter => [letter]) (Char.ext same)

/-- The bytes of a character beyond ASCII are beyond it, the first one and those behind it. -/
theorem isBeyondAscii_of_mem_letterBytes {letter byte : Char} (beyond : isBeyondAscii letter = true)
    (member : byte ∈ letterBytes letter) : isBeyondAscii byte = true := by
  have large : ¬letter.toNat ≤ 127 := by
    have number : 128 ≤ letter.toNat := by simpa [isBeyondAscii] using beyond
    omega
  obtain ⟨byte, encoded, rfl⟩ := List.mem_map.mp member
  have number : (Char.ofUInt8 byte).toNat = byte.toNat := UInt8.toNat_toUInt32 byte
  rw [isBeyondAscii, decide_eq_true_iff, number]
  simp only [utf8EncodeChar, Char.toNat_val, if_neg large] at encoded
  split_ifs at encoded <;> simp only [List.mem_cons, List.not_mem_nil, or_false] at encoded
  · rcases encoded with rfl | rfl <;> rw [UInt8.toNat_ofNat'] <;> omega
  · rcases encoded with rfl | rfl | rfl <;> rw [UInt8.toNat_ofNat'] <;> omega
  · rcases encoded with rfl | rfl | rfl | rfl <;> rw [UInt8.toNat_ofNat'] <;> omega

theorem flatMap_letterBytes_of_ascii {letters : List Char}
    (ascii : ∀ letter ∈ letters, isBeyondAscii letter = false) :
    letters.flatMap letterBytes = letters := by
  induction letters with
  | nil => rfl
  | cons letter rest induction =>
      rw [List.forall_mem_cons] at ascii
      rw [List.flatMap_cons, letterBytes_of_ascii ascii.1, induction ascii.2, List.singleton_append]

/-- Whether two neighbours of a letter are the same to it: they are the same, or both are letters
beyond ASCII. -/
def SeenAlike (left right : Option Char) : Prop :=
  left = right ∨ left.any isBeyondAscii = true ∧ right.any isBeyondAscii = true

theorem SeenAlike.beyond {left right : Char} (leftBeyond : isBeyondAscii left = true)
    (rightBeyond : isBeyondAscii right = true) : SeenAlike (some left) (some right) :=
  .inr ⟨leftBeyond, rightBeyond⟩

/-- A test that no letter beyond ASCII passes has one result for neighbours that are the same. -/
theorem SeenAlike.any_eq {left right : Option Char} (alike : SeenAlike left right)
    {test : Char → Bool} (ascii : ∀ letter, isBeyondAscii letter = true → test letter = false) :
    left.any test = right.any test := by
  rcases alike with rfl | ⟨leftBeyond, rightBeyond⟩
  · rfl
  · obtain ⟨left, rfl, leftBeyond⟩ := (Option.any_eq_true _ _).mp leftBeyond
    obtain ⟨right, rfl, rightBeyond⟩ := (Option.any_eq_true _ _).mp rightBeyond
    rw [Option.any_some, Option.any_some, ascii left leftBeyond, ascii right rightBeyond]

theorem SeenAlike.eq_none_iff {left right : Option Char} (alike : SeenAlike left right) :
    left = none ↔ right = none := by
  rcases alike with rfl | ⟨leftBeyond, rightBeyond⟩
  · rfl
  · obtain ⟨left, rfl, _⟩ := (Option.any_eq_true _ _).mp leftBeyond
    obtain ⟨right, rfl, _⟩ := (Option.any_eq_true _ _).mp rightBeyond
    simp

/-- The first byte of some letters is the same as their first letter. -/
theorem seenAlike_head?_letterBytes (letters : List Char) :
    SeenAlike (letters.flatMap letterBytes).head? letters.head? := by
  cases letters with
  | nil => exact .inl rfl
  | cons letter rest =>
      rw [List.flatMap_cons, List.head?_cons]
      by_cases beyond : isBeyondAscii letter = true
      · obtain ⟨byte, bytes, encoded⟩ := List.exists_cons_of_ne_nil (letterBytes_ne_nil letter)
        have byteBeyond : isBeyondAscii byte = true :=
          isBeyondAscii_of_mem_letterBytes beyond (encoded ▸ List.mem_cons_self)
        rw [encoded, List.cons_append, List.head?_cons]
        exact .beyond byteBeyond beyond
      · rw [letterBytes_of_ascii (Bool.eq_false_iff.mpr beyond)]
        exact .inl rfl

section Scan

variable {scan : Option Char → List Char → List Char} {written : Char → List Char}
  (alike : ∀ before other, SeenAlike before other → scan before = scan other)
  (step : ∀ letter, isBeyondAscii letter = true →
    ∀ before rest, scan before (letter :: rest) = written letter ++ scan (some letter) rest)

include alike step

private theorem scan_append {block : List Char} (nonempty : block ≠ [])
    (allBeyond : ∀ other ∈ block, isBeyondAscii other = true) {letter : Char}
    (beyond : isBeyondAscii letter = true) (before : Option Char) (rest : List Char) :
    scan before (block ++ rest) = block.flatMap written ++ scan (some letter) rest := by
  induction block generalizing before with
  | nil => exact absurd rfl nonempty
  | cons first block induction =>
      rw [List.forall_mem_cons] at allBeyond
      rw [List.cons_append, step first allBeyond.1, List.flatMap_cons, List.append_assoc]
      -- The letter before what comes next is `first` only at the end of the block.
      by_cases single : block = []
      · rw [single, List.nil_append, List.flatMap_nil, List.nil_append,
          alike _ _ (.beyond allBeyond.1 beyond)]
      · rw [induction single allBeyond.2]

/-- Behind the bytes of a character beyond ASCII a scan goes on as behind the character. -/
theorem scan_letterBytes_append {letter : Char} (beyond : isBeyondAscii letter = true)
    (before : Option Char) (rest : List Char) :
    scan before (letterBytes letter ++ rest) =
      (letterBytes letter).flatMap written ++ scan (some letter) rest :=
  scan_append alike step (letterBytes_ne_nil letter)
    (fun _ member => isBeyondAscii_of_mem_letterBytes beyond member) beyond before rest

end Scan

end RpcProxy.GoName

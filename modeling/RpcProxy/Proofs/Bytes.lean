import Mathlib.Tactic.SplitIfs
import RpcProxy.Wire.Lossy
import RpcProxy.Wire.Writer

/-!
# Laws of the bytes of texts

Comparing texts character by character and comparing their bytes is the same. The bytes of two
different characters differ before either of them ends, and there the greater character has the
greater byte. The bytes of a text are the only ones that are read without gaps.
-/

namespace RpcProxy.Wire

open String (utf8EncodeChar)

theorem utf8_eq_flatMap (text : String) : utf8 text = text.toList.flatMap utf8EncodeChar := by
  have bytes : text.toByteArray = text.toList.utf8Encode := by
    rw [← String.toByteArray_ofList, String.ofList_toList]
  rw [utf8, String.toUTF8, bytes, List.utf8Encode, List.data_toByteArray]

theorem utf8_append (left right : String) : utf8 (left ++ right) = utf8 left ++ utf8 right := by
  simp only [utf8_eq_flatMap, String.toList_append, List.flatMap_append]

private theorem utf8EncodeChar_append_lt {left right : Char} (less : left < right)
    (behind later : List UInt8) :
    utf8EncodeChar left ++ behind < utf8EncodeChar right ++ later := by
  have numbers : left.toNat < right.toNat := less
  have bound : right.toNat < 0x110000 := by
    rcases right.valid with low | high
    · exact Nat.lt_trans low (by decide)
    · exact high.2
  have digits (number : Nat) : number / 4096 = number / 64 / 64 ∧
      number / 262144 = number / 64 / 64 / 64 := by omega
  -- A mark in front of some bits of a number makes no more than a byte.
  have marked (number : Nat) : (number % 64 + 128) % 256 = number % 64 + 128 ∧
      (number % 32 + 192) % 256 = number % 32 + 192 ∧
      (number % 16 + 224) % 256 = number % 16 + 224 ∧
      (number % 8 + 240) % 256 = number % 8 + 240 := by omega
  simp only [utf8EncodeChar, Char.toNat_val, digits]
  split_ifs <;>
    simp only [List.cons_append, List.nil_append, List.cons_lt_cons_iff, UInt8.lt_iff_toNat_lt,
      ← UInt8.toNat_inj, UInt8.toNat_ofNat', marked] <;>
    omega

private theorem flatMap_lt_flatMap {left right : List Char} (less : left < right) :
    left.flatMap utf8EncodeChar < right.flatMap utf8EncodeChar := by
  induction less with
  | @nil letter rest =>
      obtain ⟨first, bytes, encoded⟩ :=
        List.exists_cons_of_ne_nil (String.utf8EncodeChar_ne_nil (c := letter))
      rw [List.flatMap_cons, encoded]
      exact List.nil_lt_cons first _
  | rel less =>
      rw [List.flatMap_cons, List.flatMap_cons]
      exact utf8EncodeChar_append_lt less _ _
  | cons _ induction =>
      rw [List.flatMap_cons, List.flatMap_cons]
      exact List.append_left_lt induction

theorem utf8_lt_utf8 {left right : String} (less : left < right) : utf8 left < utf8 right := by
  rw [utf8_eq_flatMap, utf8_eq_flatMap]
  exact flatMap_lt_flatMap less

/-- The first bytes are the character that they are read as. -/
theorem firstLetter?_eq_some_iff {bytes : List UInt8} {letter : Char} :
    firstLetter? bytes = some letter ↔ ∃ rest, bytes = utf8EncodeChar letter ++ rest := by
  rw [firstLetter?]
  constructor
  · intro first
    obtain ⟨rest, split⟩ := ByteArray.exists_of_utf8DecodeChar?_eq_some first
    refine ⟨rest.data.toList, ?_⟩
    simpa using congrArg (fun array => array.data.toList) split
  · rintro ⟨rest, rfl⟩
    rw [List.toByteArray_append]
    exact ByteArray.utf8DecodeChar?_utf8EncodeChar_append

/-- Bytes are read as characters without gaps exactly if they are the bytes of these. -/
theorem lossyLetters_eq_map_some_iff {bytes : List UInt8} {letters : List Char} :
    lossyLetters bytes = letters.map some ↔ bytes = letters.flatMap utf8EncodeChar := by
  induction letters generalizing bytes with
  | nil =>
      cases bytes with
      | nil => simp [lossyLetters]
      | cons byte rest =>
          rw [lossyLetters]
          split <;> simp
  | cons letter letters induction =>
      rw [List.map_cons, List.flatMap_cons]
      constructor
      · intro read
        cases bytes with
        | nil => simp [lossyLetters] at read
        | cons byte rest =>
            rw [lossyLetters] at read
            split at read
            · rename_i other first
              obtain ⟨later, split⟩ := firstLetter?_eq_some_iff.mp first
              rw [List.cons.injEq, Option.some.injEq, split, ← String.length_utf8EncodeChar,
                List.drop_left, induction] at read
              rw [split, read.1, read.2]
            · simp at read
      · rintro rfl
        have first : firstLetter? (utf8EncodeChar letter ++ letters.flatMap utf8EncodeChar) =
            some letter := firstLetter?_eq_some_iff.mpr ⟨_, rfl⟩
        obtain ⟨byte, bytes, encoded⟩ :=
          List.exists_cons_of_ne_nil (String.utf8EncodeChar_ne_nil (c := letter))
        rw [encoded, List.cons_append] at first ⊢
        rw [lossyLetters, first]
        simp only
        rw [← List.cons_append, ← encoded, ← String.length_utf8EncodeChar, List.drop_left,
          induction.mpr rfl]

/-- Three bytes of a character that has four are one gap, and so is its last byte alone. -/
example : lossyLetters [0x61, 0xF0, 0x9F, 0x98, 0x41, 0x80] = [some 'a', none, some 'A', none] := by
  decide +kernel

/-- The bytes of a text are read without gaps. -/
theorem lossyLetters_utf8 (text : String) : lossyLetters (utf8 text) = text.toList.map some :=
  lossyLetters_eq_map_some_iff.mpr (utf8_eq_flatMap text)

theorem lossyText_utf8 (text : String) : lossyText (utf8 text) = text := by
  rw [lossyText, lossyLetters_utf8, List.map_map]
  simp [Function.comp_def]

end RpcProxy.Wire

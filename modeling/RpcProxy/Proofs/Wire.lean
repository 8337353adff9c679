import Mathlib.Algebra.Group.Nat.Defs
import RpcProxy.Proofs.Except
import RpcProxy.Wire.Reader
import RpcProxy.Wire.Writer

/-!
# Laws of the wire format

What is written can be read again, whatever bytes follow it. Fields are read one after another, each
leading from one record to the next, so a record is restored by the row of its fields. A length has
64 bits, and nothing is said of rows of bytes that are longer than that.
-/

namespace RpcProxy.Wire

variable {number : Nat} {wire : WireType}

private theorem readDigits_writeDigits {places : Nat} (fits : number < 2 * 128 ^ places)
    (rest : List UInt8) :
    readDigits (places + 1) (writeDigits (places + 1) number ++ rest) = some (number, rest) := by
  induction places generalizing number with
  | zero =>
      have bit : number = 0 ∨ number = 1 := by omega
      rcases bit with rfl | rfl <;> rfl
  | succ places induction =>
      rw [writeDigits]
      split
      · rename_i last
        have byte : (UInt8.ofNat number).toNat = number := by
          rw [UInt8.toNat_ofNat']
          omega
        have ends : UInt8.ofNat number < 128 := by
          rw [UInt8.lt_iff_toNat_lt, byte]
          exact last
        rw [List.singleton_append, readDigits, if_pos ends, byte]
      · have byte : (UInt8.ofNat (number % 128 + 128)).toNat = number % 128 + 128 := by
          rw [UInt8.toNat_ofNat']
          omega
        have continues : ¬UInt8.ofNat (number % 128 + 128) < 128 := by
          rw [UInt8.lt_iff_toNat_lt, byte]
          exact Nat.not_lt.mpr (Nat.le_add_left 128 _)
        have higher : number / 128 < 2 * 128 ^ places := by
          rw [Nat.pow_succ] at fits
          omega
        have whole : (number % 128 + 128) % 128 + 128 * (number / 128) = number := by omega
        rw [List.cons_append, readDigits, if_neg continues, induction higher, Option.map_some, byte]
        dsimp only
        rw [whole]

theorem readVarint_writeVarint (fits : number < UInt64.size) (rest : List UInt8) :
    readVarint (writeVarint number ++ rest) = .ok (number, rest) := by
  have bound : number < 2 * 128 ^ 9 := fits
  rw [readVarint, readVarint?, writeVarint, readDigits_writeDigits bound]

theorem writeVarint_ne_nil (number : Nat) : writeVarint number ≠ [] := by
  rw [writeVarint, writeDigits]
  split <;> simp

/-- Whether a number can be that of a field. -/
def IsFieldNumber (number : Nat) : Prop := number ≠ 0 ∧ number < 2 ^ 29

instance : DecidablePred IsFieldNumber := fun number =>
  inferInstanceAs (Decidable (number ≠ 0 ∧ number < 2 ^ 29))

theorem readKey_writeKey (valid : IsFieldNumber number) (wire : WireType) (rest : List UInt8) :
    readKey (writeKey number wire ++ rest) = .ok (⟨number, wire⟩, rest) := by
  obtain ⟨positive, small⟩ := valid
  have code : wire.code < 8 := by cases wire <;> decide
  have whole : 8 * number + wire.code < UInt32.size := by
    change _ < 2 ^ 32
    omega
  have fits : 8 * number + wire.code < UInt64.size := Nat.lt_trans whole (by decide)
  have back : WireType.ofCode? ((8 * number + wire.code) % 8) = some wire := by
    rw [Nat.mul_add_mod, Nat.mod_eq_of_lt code]
    cases wire <;> rfl
  have quotient : (8 * number + wire.code) / 8 = number := by omega
  rw [readKey, writeKey, readVarint_writeVarint fits]
  simp only [bind, Except.bind, Nat.not_le.mpr whole, if_false, back, quotient, positive]

private theorem int32OfNat_natOfInt32 (value : Int32) : int32OfNat (natOfInt32 value) = value := by
  have divides : value.toInt % UInt64.size % Int32.size = value.toInt % Int32.size :=
    Int.emod_emod_of_dvd _ (by decide)
  rw [← Int32.toInt_inj, int32OfNat, natOfInt32, Int32.toInt_ofInt,
    Int.toNat_of_nonneg (Int.emod_nonneg _ (by decide)), Int.bmod_def, divides, ← Int.bmod_def,
    Int32.toInt_bmod_size]

private theorem natOfInt32_lt (value : Int32) : natOfInt32 value < UInt64.size := by
  have below := Int.emod_lt_of_pos value.toInt (b := UInt64.size) (by decide)
  exact (Int.toNat_lt (Int.emod_nonneg _ (by decide))).mpr below

theorem readInt32_writeVarint (value : Int32) (rest : List UInt8) :
    readInt32 .varint (writeVarint (natOfInt32 value) ++ rest) = .ok (value, rest) := by
  rw [readInt32, readVarint_writeVarint (natOfInt32_lt value)]
  simp only [expect, if_pos, bind, Except.bind, pure, Except.pure, int32OfNat_natOfInt32]

theorem readUInt64_writeVarint (value : UInt64) (rest : List UInt8) :
    readUInt64 .varint (writeVarint value.toNat ++ rest) = .ok (value, rest) := by
  rw [readUInt64, readVarint_writeVarint value.toNat_lt]
  simp only [expect, if_pos, bind, Except.bind, pure, Except.pure, UInt64.ofNat_toNat]

theorem readBool_writeVarint (value : Bool) (rest : List UInt8) :
    readBool .varint (writeVarint value.toNat ++ rest) = .ok (value, rest) := by
  have fits : value.toNat < UInt64.size := by cases value <;> decide
  rw [readBool, readVarint_writeVarint fits]
  cases value <;> rfl

theorem text?_utf8 (text : String) : text? (utf8 text) = some text := by
  have bytes : (⟨(utf8 text).toArray⟩ : ByteArray) = text.toByteArray := rfl
  rw [text?, bytes, String.fromUTF8?, dif_pos text.isValidUTF8, String.fromUTF8]

theorem not_length_append_lt (front rest : List UInt8) :
    ¬(front ++ rest).length < front.length := by
  rw [List.length_append]
  omega

theorem readText_utf8 {text : String} (fits : (utf8 text).length < UInt64.size)
    (rest : List UInt8) :
    readText .lengthDelimited (writeVarint (utf8 text).length ++ (utf8 text ++ rest)) =
      .ok (text, rest) := by
  rw [readText, readVarint_writeVarint fits]
  simp only [expect, if_pos, bind, Except.bind, not_length_append_lt, if_false, List.take_left,
    List.drop_left, text?_utf8]

variable {α β : Type}

/-- Steps that take exactly the given bytes, whatever follows them, and lead from one value to
another. -/
inductive Takes (step : Step α) : α → List UInt8 → α → Prop
  | nil {value : α} : Takes step value [] value
  | cons {start next finish : α} {bytes later : List UInt8} : bytes ≠ [] →
      (∀ rest, step start (bytes ++ rest) = .ok (next, rest)) → Takes step next later finish →
      Takes step start (bytes ++ later) finish

namespace Takes

variable {step : Step α} {start middle finish : α} {front back bytes : List UInt8}

theorem append (first : Takes step start front middle) (second : Takes step middle back finish) :
    Takes step start (front ++ back) finish := by
  induction first with
  | nil => exact second
  | cons nonempty taken _ induction =>
      rw [List.append_assoc]
      exact .cons nonempty taken (induction second)

/-- A row of steps is what is repeated as long as its bytes are there. Each of them takes a byte, so
there are no more steps than bytes. -/
theorem readWhile_eq (takes : Takes step start bytes finish) (rest : List UInt8) {steps : Nat}
    (enough : bytes.length ≤ steps) :
    readWhile step rest.length steps start (bytes ++ rest) = .ok (finish, rest) := by
  induction takes generalizing steps with
  | nil =>
      cases steps with
      | zero => rfl
      | succ steps => simp [readWhile]
  | @cons start next finish bytes later nonempty taken _ induction =>
      have positive := List.length_pos_of_ne_nil nonempty
      rw [List.length_append] at enough
      obtain ⟨steps, rfl⟩ : ∃ fewer, steps = fewer + 1 := ⟨steps - 1, by omega⟩
      have more : ¬(bytes ++ later ++ rest).length ≤ rest.length := by
        simp only [List.length_append]
        omega
      rw [readWhile, if_neg more, List.append_assoc, taken]
      exact induction (by omega)

end Takes

/-- Reading the fields in the bytes leads from one record to another, if a length can count the
bytes. -/
structure Restores (field : FieldReader α) (start : α) (bytes : List UInt8) (result : α) :
    Prop where
  takes : bytes.length < UInt64.size → Takes (readField field) start bytes result

theorem readAll_of_restores {field : FieldReader α} {start result : α} {bytes : List UInt8}
    (restores : Restores field start bytes result) (countable : bytes.length < UInt64.size) :
    readAll field start bytes = .ok result := by
  have read := (restores.takes countable).readWhile_eq [] (Nat.le_refl _)
  rw [List.append_nil, List.length_nil] at read
  rw [readAll, read]
  rfl

/-- A message inside another one is read by its fields. -/
theorem readMessage_of_restores {inside : FieldReader α} {start result : α} {bytes : List UInt8}
    (restores : Restores inside start bytes result) (countable : bytes.length < UInt64.size)
    (rest : List UInt8) :
    readMessage (some inside) .lengthDelimited start
      (writeVarint bytes.length ++ (bytes ++ rest)) = .ok (result, rest) := by
  have limit : (bytes ++ rest).length - bytes.length = rest.length := by
    rw [List.length_append, Nat.add_sub_cancel_left]
  have read := (restores.takes countable).readWhile_eq rest (Nat.le_refl _)
  rw [readMessage, expect, if_pos rfl]
  simp only [bind, Except.bind, readDelimited, readVarint_writeVarint countable,
    not_length_append_lt, if_false, limit, read, if_true]

namespace Restores

variable {field : FieldReader α} {start middle result : α} {front back : List UInt8}

theorem nil : Restores field start [] start := ⟨fun _ => .nil⟩

theorem append (first : Restores field start front middle)
    (second : Restores field middle back result) :
    Restores field start (front ++ back) result := by
  refine ⟨fun countable => ?_⟩
  rw [List.length_append] at countable
  exact (first.takes (by omega)).append (second.takes (by omega))

end Restores

/-- How the value of a field is read. -/
abbrev ValueReader (β : Type) := WireType → List UInt8 → Decoded (β × List UInt8)

/-- A field in the bytes whose value is read as the given one, whatever follows it. -/
def FieldReads (number : Nat) (wire : WireType) (read : ValueReader β) (bytes : List UInt8)
    (value : β) : Prop :=
  ∃ content, bytes = writeKey number wire ++ content ∧
    (content.length < UInt64.size → ∀ rest, read wire (content ++ rest) = .ok (value, rest))

namespace FieldReads

theorem int32 (number : Nat) (value : Int32) :
    FieldReads number .varint readInt32 (writeInt32 number value) value :=
  ⟨_, rfl, fun _ => readInt32_writeVarint value⟩

theorem uint64 (number : Nat) (value : UInt64) :
    FieldReads number .varint readUInt64 (writeNumber number value.toNat) value :=
  ⟨_, rfl, fun _ => readUInt64_writeVarint value⟩

theorem bool (number : Nat) (value : Bool) :
    FieldReads number .varint readBool (writeBool number value) value :=
  ⟨_, rfl, fun _ => readBool_writeVarint value⟩

theorem text (number : Nat) (text : String) :
    FieldReads number .lengthDelimited readText (writeText number text) text := by
  refine ⟨_, List.append_assoc _ _ _, fun countable rest => ?_⟩
  rw [List.length_append] at countable
  rw [List.append_assoc, readText_utf8 (by omega)]

theorem message (number : Nat) {inside : FieldReader β} {start result : β} {bytes : List UInt8}
    (restores : Restores inside start bytes result) :
    FieldReads number .lengthDelimited
      (fun wire bytes => readMessage (some inside) wire start bytes)
      (writeBytes number bytes) result := by
  refine ⟨_, List.append_assoc _ _ _, fun countable rest => ?_⟩
  rw [List.length_append] at countable
  dsimp only
  rw [List.append_assoc, readMessage_of_restores restores (by omega)]

/-- A message that may be entered if the budget is above its depth. -/
theorem entered (number : Nat) {inside : Nat → FieldReader β} {start result : β}
    {bytes : List UInt8} {depth budget : Nat} (shallow : depth < budget)
    (restores : ∀ fewer < budget, depth ≤ fewer → Restores (inside fewer) start bytes result) :
    FieldReads number .lengthDelimited
      (fun wire bytes => readMessage (enter inside budget) wire start bytes)
      (writeBytes number bytes) result := by
  obtain ⟨fewer, rfl⟩ : ∃ fewer, budget = fewer + 1 := ⟨budget - 1, by omega⟩
  exact .message number (restores fewer (Nat.lt_add_one fewer) (Nat.le_of_lt_succ shallow))

end FieldReads

namespace Restores

variable {field : FieldReader α} {start result : α} {place : String} {read : ValueReader β}
  {write : β → List UInt8}

/-- A field is restored by a record that it leads to. -/
theorem step (valid : IsFieldNumber number) {bytes : List UInt8}
    (reads : FieldReads number wire (fun wire => field ⟨number, wire⟩ start) bytes result) :
    Restores field start bytes result := by
  obtain ⟨content, rfl, reads⟩ := reads
  refine ⟨fun countable => ?_⟩
  rw [List.length_append] at countable
  have nonempty : writeKey number wire ++ content ≠ [] :=
    List.append_ne_nil_of_left_ne_nil (writeVarint_ne_nil _) _
  rw [← List.append_nil (writeKey number wire ++ content)]
  refine .cons nonempty (fun rest => ?_) .nil
  rw [readField, List.append_assoc, readKey_writeKey valid]
  exact reads (by omega) rest

/-- A field is restored by a record that stores what is read. -/
theorem single (valid : IsFieldNumber number) (store : β → α) {bytes : List UInt8} {value : β}
    (reads : FieldReads number wire read bytes value)
    (known : ∀ bytes, field ⟨number, wire⟩ start bytes = storeField place store (read wire bytes)) :
    Restores field start bytes (store value) := by
  obtain ⟨content, rfl, reads⟩ := reads
  have leads : FieldReads number wire (fun wire => field ⟨number, wire⟩ start)
      (writeKey number wire ++ content) (store value) := by
    refine ⟨content, rfl, fun countable rest => ?_⟩
    dsimp only
    rw [known, reads countable]
    rfl
  exact step valid leads

/-- A field that may be unset. -/
theorem option (valid : IsFieldNumber number) (field : FieldReader α) (value : Option β)
    (store : Option β → α)
    (reads : ∀ content, value = some content → FieldReads number wire read (write content) content)
    (known : ∀ bytes, field ⟨number, wire⟩ (store none) bytes =
      storeField place (fun content => store (some content)) (read wire bytes)) :
    Restores field (store none) (writeOption write value) (store value) := by
  cases value with
  | none => exact nil
  | some content =>
      exact single valid (fun content => store (some content)) (reads content rfl) known

/-- The fields of a list, entry by entry. -/
theorem list (valid : IsFieldNumber number) (field : FieldReader α) (values : List β)
    (store : List β → α)
    (reads : ∀ value ∈ values, FieldReads number wire read (write value) value)
    (known : ∀ earlier bytes, field ⟨number, wire⟩ (store earlier) bytes =
      storeField place (fun value => store (earlier ++ [value])) (read wire bytes)) :
    Restores field (store []) (values.flatMap write) (store values) := by
  suffices after : ∀ earlier,
      Restores field (store earlier) (values.flatMap write) (store (earlier ++ values)) from
    after []
  induction values with
  | nil =>
      intro earlier
      rw [List.append_nil]
      exact nil
  | cons value later induction =>
      intro earlier
      rw [List.forall_mem_cons] at reads
      have first := single valid (fun value => store (earlier ++ [value])) reads.1 (known earlier)
      have rest := induction reads.2 (earlier ++ [value])
      rw [List.append_assoc, List.singleton_append] at rest
      exact first.append rest

/-- The fields of a list of numbers, each written on its own. -/
theorem int32s (valid : IsFieldNumber number) (field : FieldReader α) (values : List Int32)
    (store : List Int32 → α)
    (known : ∀ earlier bytes, field ⟨number, .varint⟩ (store earlier) bytes =
      storeField place store (readInt32s .varint earlier bytes)) :
    Restores field (store []) (values.flatMap (writeInt32 number)) (store values) := by
  have stored : ∀ earlier bytes, field ⟨number, .varint⟩ (store earlier) bytes =
      storeField place (fun value => store (earlier ++ [value])) (readInt32 .varint bytes) := by
    intro earlier bytes
    have single : readInt32s .varint earlier bytes = readInt32Onto earlier bytes := rfl
    rw [known, single, readInt32Onto]
    cases readInt32 .varint bytes <;> rfl
  exact list valid field values store (fun value _ => .int32 number value) stored

end Restores

variable {holds : α → Prop}

/-- A step that leads from values of a kind to values of this kind only. -/
def Keeps (holds : α → Prop) (step : Step α) : Prop :=
  ∀ ⦃start finish : α⦄ ⦃bytes rest : List UInt8⦄,
    holds start → step start bytes = .ok (finish, rest) → holds finish

namespace Keeps

theorem readWhile {step : Step α} (keeps : Keeps holds step) (limit steps : Nat) :
    Keeps holds (readWhile step limit steps) := by
  intro start finish bytes rest initial read
  induction steps generalizing start bytes with
  | zero =>
      rw [Wire.readWhile, Except.ok.injEq, Prod.mk.injEq] at read
      exact read.1 ▸ initial
  | succ steps induction =>
      rw [Wire.readWhile] at read
      split at read
      · rw [Except.ok.injEq, Prod.mk.injEq] at read
        exact read.1 ▸ initial
      · obtain ⟨⟨next, behind⟩, stepped, later⟩ := Except.bind_eq_ok_iff.mp read
        exact induction (keeps initial stepped) later

theorem readDelimited {step : Step α} (keeps : Keeps holds step) :
    Keeps holds (readDelimited step) := by
  intro start finish bytes rest initial read
  obtain ⟨⟨length, content⟩, _, read⟩ := Except.bind_eq_ok_iff.mp read
  dsimp only at read
  split at read
  · cases read
  · obtain ⟨⟨value, behind⟩, repeated, ends⟩ := Except.bind_eq_ok_iff.mp read
    dsimp only at ends
    split at ends
    · rw [Except.ok.injEq, Prod.mk.injEq] at ends
      exact ends.1 ▸ keeps.readWhile _ _ initial repeated
    · cases ends

theorem readField {field : FieldReader α} (keeps : ∀ key, Keeps holds (field key)) :
    Keeps holds (readField field) := by
  intro start finish bytes rest initial read
  obtain ⟨⟨key, content⟩, _, read⟩ := Except.bind_eq_ok_iff.mp read
  exact keeps key initial read

theorem readAll {field : FieldReader α} (keeps : ∀ key, Keeps holds (field key)) {start finish : α}
    {bytes : List UInt8} (initial : holds start) (read : readAll field start bytes = .ok finish) :
    holds finish := by
  obtain ⟨⟨value, rest⟩, repeated, rfl⟩ := Except.map_eq_ok_iff.mp read
  exact (readField keeps).readWhile _ _ initial repeated

/-- Reading a message keeps what reading its fields keeps, and takes one from the budget. -/
theorem readMessage {inside : Nat → FieldReader β} {kept : Nat → β → Prop} {budget : Nat}
    (keeps : ∀ fewer < budget, ∀ key, Keeps (kept fewer) (inside fewer key)) {wire : WireType}
    {start finish : β} (initial : ∀ fewer, kept fewer start) {bytes rest : List UInt8}
    (read : readMessage (enter inside budget) wire start bytes = .ok (finish, rest)) :
    ∃ fewer < budget, kept fewer finish := by
  obtain ⟨_, _, read⟩ := Except.bind_eq_ok_iff.mp read
  cases budget with
  | zero => cases read
  | succ fewer =>
      have within := keeps fewer (Nat.lt_add_one fewer)
      exact ⟨fewer, Nat.lt_add_one fewer, (readField within).readDelimited (initial fewer) read⟩

end Keeps

theorem storeField_eq_ok {place : String} {store : β → α} {read : Decoded (β × List UInt8)}
    {result : α} {rest : List UInt8} (stored : storeField place store read = .ok (result, rest)) :
    ∃ value, read = .ok (value, rest) ∧ store value = result := by
  cases read with
  | error => cases stored
  | ok found =>
      obtain ⟨value, behind⟩ := found
      cases stored
      exact ⟨value, rfl, rfl⟩

theorem skipField_eq_ok {budget : Nat} {key : Key} {value result : α} {bytes rest : List UInt8}
    (skipped : skipField budget key value bytes = .ok (result, rest)) : value = result := by
  obtain ⟨_, _, same⟩ := Except.map_eq_ok_iff.mp skipped
  exact congrArg Prod.fst same

end RpcProxy.Wire

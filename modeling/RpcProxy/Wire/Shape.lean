import RpcProxy.Wire.Reader
import RpcProxy.Wire.Writer

/-!
# Messages read by a shape

A message can also be read without a record type for it, by a shape that says for each number what
the field holds. What has been read is kept as a list of slots in ascending order of their numbers
and can be written again: numbers in their shortest form, packed lists packed, values that are the
same as none left out, and fields without a shape as they came.
-/

namespace RpcProxy.Wire

/-! ### Shapes -/

/-- What is kept of a number. -/
inductive VarintShape
  | whole
  /-- The low 32 bits. -/
  | unsigned32
  /-- The low 32 bits, extended by their sign. -/
  | signed32
  /-- Only whether it is zero. -/
  | truth
deriving DecidableEq, Repr

/-- The part of a number that is kept. -/
def VarintShape.keep : VarintShape → Nat → Nat
  | whole, number => number
  | unsigned32, number => number % UInt32.size
  | signed32, number => natOfInt32 (int32OfNat number)
  | truth, number => (number != 0).toNat

/-- A value without fields of its own. -/
inductive ScalarShape
  | varint (shape : VarintShape)
  | fixed32
  | fixed64
  | text
  | bytes
deriving DecidableEq, Repr

namespace ScalarShape

def wire : ScalarShape → WireType
  | varint _ => .varint
  | fixed32 => .thirtyTwoBit
  | fixed64 => .sixtyFourBit
  | text => .lengthDelimited
  | bytes => .lengthDelimited

/-- Whether many such values can stand packed in one. -/
def packs (shape : ScalarShape) : Bool := shape.wire != .lengthDelimited

end ScalarShape

/-- What a field holds. Messages and groups are known by their names. -/
inductive ValueShape
  | scalar (shape : ScalarShape)
  | message (name : String)
  | group (name : String)
deriving DecidableEq, Repr

/-- The shape of a field. -/
structure FieldShape where
  value : ValueShape
  /-- Whether the field holds a list. -/
  many : Bool
  /-- Whether a list is written packed. -/
  packed : Bool
  /-- The value that is left out. -/
  omitted : Option (List UInt8)
deriving DecidableEq, Repr

/-- The shapes of the fields of messages, by the name of the message and the number of the field. -/
abbrev Shapes := String → Nat → Option FieldShape

/-! ### Slots -/

/-- What has been read of the fields of one number. -/
inductive Slot
  /-- Whole fields, as they will be written. -/
  | fields (bytes : List UInt8)
  /-- Values to be packed into one field. -/
  | values (bytes : List UInt8)
  | message (slots : List (Nat × Slot))
  | group (slots : List (Nat × Slot))

/-- What has been read of a message, in ascending order of the numbers. -/
abbrev Slots := List (Nat × Slot)

namespace Slots

def find? (slots : Slots) (number : Nat) : Option Slot :=
  (List.find? (fun entry => entry.1 == number) slots).map (·.2)

/-- Takes out the slot of a number. -/
def erase (slots : Slots) (number : Nat) : Slots := slots.filter fun entry => entry.1 != number

/-- Puts a slot in its place, over the one of its number. -/
def put (slots : Slots) (number : Nat) (slot : Slot) : Slots :=
  let others := slots.erase number
  others.takeWhile (fun entry => entry.1 < number) ++ (number, slot) ::
    others.dropWhile (fun entry => entry.1 < number)

/-- Adds whole fields to those of a number. -/
def addFields (slots : Slots) (number : Nat) (bytes : List UInt8) : Slots :=
  match slots.find? number with
  | some (.fields earlier) => slots.put number (.fields (earlier ++ bytes))
  | _ => slots.put number (.fields bytes)

/-- Adds values to those to be packed under a number. -/
def addValues (slots : Slots) (number : Nat) (bytes : List UInt8) : Slots :=
  match slots.find? number with
  | some (.values earlier) => slots.put number (.values (earlier ++ bytes))
  | _ => slots.put number (.values bytes)

/-- What has been read of a message or a group inside this one. -/
def inside (slots : Slots) (number : Nat) : Slots :=
  match slots.find? number with
  | some (.message slots) => slots
  | some (.group slots) => slots
  | _ => []

end Slots

/-- A group with the given fields. -/
def writeGroup (number : Nat) (content : List UInt8) : List UInt8 :=
  writeKey number .startGroup ++ content ++ writeKey number .endGroup

mutual

def Slot.write (number : Nat) : Slot → List UInt8
  | .fields bytes => bytes
  | .values bytes => if bytes = [] then [] else writeBytes number bytes
  | .message slots => writeBytes number (writeSlots slots)
  | .group slots => writeGroup number (writeSlots slots)

def writeSlots : List (Nat × Slot) → List UInt8
  | [] => []
  | (number, slot) :: rest => slot.write number ++ writeSlots rest

end

/-! ### Reading -/

def takeBytes (count : Nat) (bytes : List UInt8) : Decoded (List UInt8 × List UInt8) :=
  if bytes.length < count then fail .shortInput else .ok (bytes.take count, bytes.drop count)

/-- Takes a length and as many bytes. -/
def takeDelimited (bytes : List UInt8) : Decoded (List UInt8 × List UInt8) := do
  let (length, rest) ← readVarint bytes
  takeBytes length rest

/-- Reads a value and returns it as it will be written. -/
def readScalar (shape : ScalarShape) (wire : WireType) (bytes : List UInt8) :
    Decoded (List UInt8 × List UInt8) := do
  expect shape.wire wire
  match shape with
  | .varint kept =>
    let (number, rest) ← readVarint bytes
    return (writeVarint (kept.keep number), rest)
  | .fixed32 => takeBytes 4 bytes
  | .fixed64 => takeBytes 8 bytes
  | .text =>
    let (content, rest) ← takeDelimited bytes
    if (text? content).isNone then fail .text
    else return (writeVarint content.length ++ content, rest)
  | .bytes =>
    let (content, rest) ← takeDelimited bytes
    return (writeVarint content.length ++ content, rest)

/-- Reads one of packed values onto the end of those before it. -/
def readPacked (shape : ScalarShape) : Step (List (List UInt8)) := fun values bytes => do
  let (value, rest) ← readScalar shape shape.wire bytes
  return (values ++ [value], rest)

/-- Reads the values of one field of a list: one value, or several packed into one. -/
def readValues (shape : ScalarShape) (wire : WireType) (bytes : List UInt8) :
    Decoded (List (List UInt8) × List UInt8) :=
  if wire = .lengthDelimited ∧ shape.packs then readDelimited (readPacked shape) [] bytes
  else (readScalar shape wire bytes).map fun (value, rest) => ([value], rest)

/-- Reads the fields of a group up to its end, at most `steps` of them. -/
def readGroupFields {α : Type} (field : FieldReader α) (number : Nat) : (steps : Nat) → Step α
  | 0, _, _ => fail .varint
  | steps + 1, value, bytes => do
    let (key, rest) ← readKey bytes
    if key.wire = .endGroup then
      if key.number = number then .ok (value, rest) else fail .groupEnd
    else
      let (value, rest) ← field key value rest
      readGroupFields field number steps value rest

/-- Reads a group, if it may be entered. -/
def readGroup {α : Type} (inside : Option (FieldReader α)) (key : Key) (start : α)
    (bytes : List UInt8) : Decoded (α × List UInt8) := do
  expect .startGroup key.wire
  match inside with
  | none => fail .depth
  | some field => readGroupFields field key.number (bytes.length + 1) start bytes

/-- Reads a field without a shape onto the end of the fields before it. -/
def readShapelessWith (inside : Option (FieldReader (List UInt8))) : FieldReader (List UInt8) :=
  fun key fields bytes => do
    match key.wire with
    | .varint =>
      let (number, rest) ← readVarint bytes
      return (fields ++ writeNumber key.number number, rest)
    | .thirtyTwoBit =>
      let (content, rest) ← takeBytes 4 bytes
      return (fields ++ writeKey key.number .thirtyTwoBit ++ content, rest)
    | .sixtyFourBit =>
      let (content, rest) ← takeBytes 8 bytes
      return (fields ++ writeKey key.number .sixtyFourBit ++ content, rest)
    | .lengthDelimited =>
      let (content, rest) ← takeDelimited bytes
      return (fields ++ writeBytes key.number content, rest)
    | .startGroup =>
      let (content, rest) ← readGroup inside key [] bytes
      return (fields ++ writeGroup key.number content, rest)
    | .endGroup => fail .groupEnd

/-- Reads a field without a shape. Groups are read with one less in the budget. -/
def readShapeless : (budget : Nat) → FieldReader (List UInt8)
  | 0 => readShapelessWith none
  | budget + 1 => readShapelessWith (some (readShapeless budget))

/-- Reads a field that holds a scalar or a list of scalars. -/
def readScalarField (shape : FieldShape) (scalar : ScalarShape) : FieldReader Slots :=
  fun key slots bytes => do
    let writeValue := fun value => writeKey key.number scalar.wire ++ value
    if shape.many then
      let (values, rest) ← readValues scalar key.wire bytes
      if shape.packed then return (slots.addValues key.number values.flatten, rest)
      else return (slots.addFields key.number (values.flatMap writeValue), rest)
    else
      let (value, rest) ← readScalar scalar key.wire bytes
      if shape.omitted = some value then return (slots.erase key.number, rest)
      else return (slots.put key.number (.fields (writeValue value)), rest)

/-- Reads a field that holds a message. One that comes again is merged unless it is part of a list.
-/
def readMessageField (shape : FieldShape) (inside : Option (FieldReader Slots)) :
    FieldReader Slots := fun key slots bytes => do
  if shape.many then
    let (inner, rest) ← readMessage inside key.wire [] bytes
    return (slots.addFields key.number (writeBytes key.number (writeSlots inner)), rest)
  else
    let (inner, rest) ← readMessage inside key.wire (slots.inside key.number) bytes
    return (slots.put key.number (.message inner), rest)

/-- Reads a field that holds a group. One that comes again is merged unless it is part of a list. -/
def readGroupField (shape : FieldShape) (inside : Option (FieldReader Slots)) :
    FieldReader Slots := fun key slots bytes => do
  if shape.many then
    let (inner, rest) ← readGroup inside key [] bytes
    return (slots.addFields key.number (writeGroup key.number (writeSlots inner)), rest)
  else
    let (inner, rest) ← readGroup inside key (slots.inside key.number) bytes
    return (slots.put key.number (.group inner), rest)

/-- Reads a field of a message with the given name, given the reader for what is inside it. -/
def readShapedWith (shapes : Shapes) (inside : Option (String → FieldReader Slots)) (budget : Nat)
    (name : String) : FieldReader Slots := fun key slots bytes =>
  match shapes name key.number with
  | none => do
    let (field, rest) ← readShapeless budget key [] bytes
    return (slots.addFields key.number field, rest)
  | some shape =>
    match shape.value with
    | .scalar scalar => readScalarField shape scalar key slots bytes
    | .message inner => readMessageField shape (inside.map (· inner)) key slots bytes
    | .group inner => readGroupField shape (inside.map (· inner)) key slots bytes

/-- Reads a field of a message with the given name. What is inside it is read with one less in the
budget. -/
def readShaped (shapes : Shapes) : (budget : Nat) → (name : String) → FieldReader Slots
  | 0 => readShapedWith shapes none 0
  | budget + 1 => readShapedWith shapes (some (readShaped shapes budget)) (budget + 1)

end RpcProxy.Wire

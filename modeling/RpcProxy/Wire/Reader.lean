import RpcProxy.Wire.Key
import RpcProxy.Wire.Varint

/-!
# Reading messages

A reader takes the bytes that are left of the whole input and returns a value with the bytes after
it. A message inside another one has a length, but its fields are read from the whole rest of the
input: a field that reads past the end of its message is noticed when it is done. The budget counts
how many more messages may be entered.
-/

namespace RpcProxy.Wire

/-- A result of reading. -/
abbrev Decoded := Except DecodeError

/-- Reads one more part into the value read so far and returns the bytes after it. -/
abbrev Step (α : Type) := α → List UInt8 → Decoded (α × List UInt8)

/-- Reads one field with the given key into the record read so far. -/
abbrev FieldReader (α : Type) := Key → Step α

def readVarint (bytes : List UInt8) : Decoded (Nat × List UInt8) :=
  match readVarint? bytes with
  | some found => .ok found
  | none => fail .varint

def readKey (bytes : List UInt8) : Decoded (Key × List UInt8) := do
  let (value, rest) ← readVarint bytes
  if UInt32.size ≤ value then fail (.key value)
  else
    match WireType.ofCode? (value % 8) with
    | none => fail (.wireCode (value % 8))
    | some wire => if value / 8 = 0 then fail .numberZero else .ok (⟨value / 8, wire⟩, rest)

/-- Refuses a field whose wire type is not the one its values have. -/
def expect (expected actual : WireType) : Decoded Unit :=
  if actual = expected then .ok () else fail (.wireType actual expected)

/-- Leaves out the given number of bytes. -/
def skipBytes (count : Nat) (bytes : List UInt8) : Decoded (List UInt8) :=
  if bytes.length < count then fail .shortInput else .ok (bytes.drop count)

/-- Repeats a step as long as more bytes are left than the limit, at most `steps` times. -/
def readWhile {α : Type} (step : Step α) (limit : Nat) : (steps : Nat) → Step α
  | 0, value, bytes => .ok (value, bytes)
  | steps + 1, value, bytes =>
    if bytes.length ≤ limit then .ok (value, bytes)
    else do
      let (value, rest) ← step value bytes
      readWhile step limit steps value rest

/-- Reads a length and repeats a step over that many bytes. Every step takes at least one byte, so
the length bounds the number of steps. -/
def readDelimited {α : Type} (step : Step α) (start : α) (bytes : List UInt8) :
    Decoded (α × List UInt8) := do
  let (length, rest) ← readVarint bytes
  if rest.length < length then fail .shortInput
  else
    let limit := rest.length - length
    let (value, rest) ← readWhile step limit length start rest
    if rest.length = limit then .ok (value, rest) else fail .overrun

/-- Reads a key and its field. -/
def readField {α : Type} (field : FieldReader α) (value : α) (bytes : List UInt8) :
    Decoded (α × List UInt8) := do
  let (key, rest) ← readKey bytes
  field key value rest

/-- Reads fields to the end of the input. -/
def readAll {α : Type} (field : FieldReader α) (start : α) (bytes : List UInt8) :
    Decoded α :=
  (readWhile (readField field) 0 bytes.length start bytes).map (·.1)

/-- The reader for what is inside a message, if the budget allows to enter it. -/
def enter {α : Type} (inside : Nat → FieldReader α) : (budget : Nat) → Option (FieldReader α)
  | 0 => none
  | budget + 1 => some (inside budget)

/-- Reads a message inside another one. Its length is not looked at if it may not be entered. -/
def readMessage {α : Type} (inside : Option (FieldReader α)) (wire : WireType) (start : α)
    (bytes : List UInt8) : Decoded (α × List UInt8) := do
  expect .lengthDelimited wire
  match inside with
  | none => fail .depth
  | some field => readDelimited (readField field) start bytes

def text? (bytes : List UInt8) : Option String := String.fromUTF8? ⟨bytes.toArray⟩

def readText (wire : WireType) (bytes : List UInt8) : Decoded (String × List UInt8) := do
  expect .lengthDelimited wire
  let (length, rest) ← readVarint bytes
  if rest.length < length then fail .shortInput
  else
    match text? (rest.take length) with
    | some text => .ok (text, rest.drop length)
    | none => fail .text

/-- The low 32 bits of a number, as a signed number. -/
def int32OfNat (number : Nat) : Int32 := Int32.ofInt number

/-- Reads a signed number of 32 bits. -/
def readInt32 (wire : WireType) (bytes : List UInt8) : Decoded (Int32 × List UInt8) := do
  expect .varint wire
  let (number, rest) ← readVarint bytes
  return (int32OfNat number, rest)

def readUInt64 (wire : WireType) (bytes : List UInt8) : Decoded (UInt64 × List UInt8) := do
  expect .varint wire
  let (number, rest) ← readVarint bytes
  return (UInt64.ofNat number, rest)

def readBool (wire : WireType) (bytes : List UInt8) : Decoded (Bool × List UInt8) := do
  expect .varint wire
  let (number, rest) ← readVarint bytes
  return (number != 0, rest)

/-- Reads one signed number onto the end of a list. -/
def readInt32Onto (numbers : List Int32) (bytes : List UInt8) :
    Decoded (List Int32 × List UInt8) := do
  let (number, rest) ← readInt32 .varint bytes
  return (numbers ++ [number], rest)

/-- Reads a field of many signed numbers onto the end of a list: one number, or several packed into
one value. -/
def readInt32s (wire : WireType) (numbers : List Int32) (bytes : List UInt8) :
    Decoded (List Int32 × List UInt8) := do
  if wire = .lengthDelimited then readDelimited readInt32Onto numbers bytes
  else
    expect .varint wire
    readInt32Onto numbers bytes

/-- Skips the fields of a group up to its end, at most `steps` of them. -/
def skipGroup (skip : Key → List UInt8 → Decoded (List UInt8)) (number : Nat) :
    (steps : Nat) → List UInt8 → Decoded (List UInt8)
  | 0, _ => fail .varint
  | steps + 1, bytes => do
    let (key, rest) ← readKey bytes
    if key.wire = .endGroup then
      if key.number = number then .ok rest else fail .groupEnd
    else
      let rest ← skip key rest
      skipGroup skip number steps rest

/-- Skips the value of an unknown field. A group is entered like a message. -/
def skipValue : (budget : Nat) → Key → List UInt8 → Decoded (List UInt8)
  | 0, _, _ => fail .depth
  | budget + 1, key, bytes =>
    match key.wire with
    | .varint => (readVarint bytes).map (·.2)
    | .thirtyTwoBit => skipBytes 4 bytes
    | .sixtyFourBit => skipBytes 8 bytes
    | .lengthDelimited => do
      let (length, rest) ← readVarint bytes
      skipBytes length rest
    | .startGroup => skipGroup (skipValue budget) key.number (bytes.length + 1) bytes
    | .endGroup => fail .groupEnd

/-- Reads over a field that the record does not have. -/
def skipField {α : Type} (budget : Nat) : FieldReader α := fun key value bytes =>
  (skipValue budget key bytes).map fun rest => (value, rest)

/-- Reads the value of a known field and stores it in the record. -/
def storeField {α β : Type} (place : String) (store : β → α)
    (read : Decoded (β × List UInt8)) : Decoded (α × List UInt8) :=
  within place (read.map fun (value, rest) => (store value, rest))

end RpcProxy.Wire

/-!
# Keys of fields, and what can be wrong with a message

Before every field stands its key: the number of the field and the wire type, which says how many
bytes the value has. Reading a message stops at the first thing that is wrong with it. The error
keeps the way to that place, as the names of the fields that were being read, innermost first.
-/

namespace RpcProxy.Wire

/-- How the end of a field's value is found. -/
inductive WireType
  | varint
  | sixtyFourBit
  | lengthDelimited
  | startGroup
  | endGroup
  | thirtyTwoBit
deriving DecidableEq, Repr

namespace WireType

def code : WireType → Nat
  | varint => 0
  | sixtyFourBit => 1
  | lengthDelimited => 2
  | startGroup => 3
  | endGroup => 4
  | thirtyTwoBit => 5

/-- The wire type of a number. Two of the eight numbers have none. -/
def ofCode? : Nat → Option WireType
  | 0 => some varint
  | 1 => some sixtyFourBit
  | 2 => some lengthDelimited
  | 3 => some startGroup
  | 4 => some endGroup
  | 5 => some thirtyTwoBit
  | _ => none

def name : WireType → String
  | varint => "Varint"
  | sixtyFourBit => "SixtyFourBit"
  | lengthDelimited => "LengthDelimited"
  | startGroup => "StartGroup"
  | endGroup => "EndGroup"
  | thirtyTwoBit => "ThirtyTwoBit"

end WireType

/-- The number and the wire type of a field. -/
structure Key where
  number : Nat
  wire : WireType
deriving DecidableEq, Repr

/-- What is wrong with a message. -/
inductive Malformation
  /-- A varint without end, or above the largest number. -/
  | varint
  /-- A key that needs more than 32 bits. -/
  | key (value : Nat)
  /-- A key with a number that is no wire type. -/
  | wireCode (code : Nat)
  /-- A key with field number zero. -/
  | numberZero
  /-- A field with another wire type than its own. -/
  | wireType (actual expected : WireType)
  /-- A value longer than the input. -/
  | shortInput
  /-- A value longer than the message it stands in. -/
  | overrun
  /-- A text that is not in UTF-8. -/
  | text
  /-- The end of a group that was not started. -/
  | groupEnd
  /-- More messages inside one another than are allowed. -/
  | depth
deriving DecidableEq, Repr

def Malformation.message : Malformation → String
  | varint => "invalid varint"
  | key value => "invalid key value: " ++ toString value
  | wireCode code => "invalid wire type value: " ++ toString code
  | numberZero => "invalid tag value: 0"
  | wireType actual expected =>
    "invalid wire type: " ++ actual.name ++ " (expected " ++ expected.name ++ ")"
  | shortInput => "buffer underflow"
  | overrun => "delimited length exceeded"
  | text => "invalid string value: data is not UTF-8 encoded"
  | groupEnd => "unexpected end group tag"
  | depth => "recursion limit reached"

/-- A malformation and the fields around it, innermost first. -/
structure DecodeError where
  trail : List String
  cause : Malformation
deriving DecidableEq, Repr

def DecodeError.message (error : DecodeError) : String :=
  "failed to decode Protobuf message: "
    ++ String.join (error.trail.map (· ++ ": ")) ++ error.cause.message

/-- A failure at the place the reader has reached. -/
def fail {α : Type} (cause : Malformation) : Except DecodeError α := .error ⟨[], cause⟩

/-- Adds the field that was being read to the way to an error. -/
def within {α : Type} (place : String) : Except DecodeError α → Except DecodeError α
  | .ok value => .ok value
  | .error error => .error { error with trail := error.trail ++ [place] }

end RpcProxy.Wire

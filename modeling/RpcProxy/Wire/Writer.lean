import RpcProxy.Wire.Key
import RpcProxy.Wire.Varint

/-!
# Writing messages

A field is written as its key and its value. A field that is not set is not written, and a set field
is written also when its value is empty or zero. Negative numbers of 32 bits are extended to 64.
-/

namespace RpcProxy.Wire

def writeKey (number : Nat) (wire : WireType) : List UInt8 := writeVarint (8 * number + wire.code)

/-- A field whose value is a number. -/
def writeNumber (number value : Nat) : List UInt8 := writeKey number .varint ++ writeVarint value

/-- A field whose value is a row of bytes. -/
def writeBytes (number : Nat) (content : List UInt8) : List UInt8 :=
  writeKey number .lengthDelimited ++ writeVarint content.length ++ content

/-- The bytes of a text in UTF-8. -/
def utf8 (text : String) : List UInt8 := text.toUTF8.data.toList

/-- A field whose value is a text. -/
def writeText (number : Nat) (text : String) : List UInt8 := writeBytes number (utf8 text)

/-- The number of 64 bits that is congruent to a signed one. -/
def natOfInt32 (value : Int32) : Nat := (value.toInt % UInt64.size).toNat

/-- A field whose value is a signed number of 32 bits. -/
def writeInt32 (number : Nat) (value : Int32) : List UInt8 := writeNumber number (natOfInt32 value)

def writeBool (number : Nat) (value : Bool) : List UInt8 := writeNumber number value.toNat

/-- A field that may be unset. -/
def writeOption {α : Type} (write : α → List UInt8) : Option α → List UInt8
  | none => []
  | some value => write value

end RpcProxy.Wire

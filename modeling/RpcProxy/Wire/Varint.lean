/-!
# Variable-length numbers

A varint holds a number below `2 ^ 64` in base 128, least significant digit first. Every byte but
the last has its high bit set, so a varint says itself where it ends. It has at most ten bytes.
-/

namespace RpcProxy.Wire

/-- The digits of a number, as many as it needs and at most the given count. -/
def writeDigits : (places : Nat) → Nat → List UInt8
  | 0, _ => []
  | places + 1, number =>
    if number < 128 then [UInt8.ofNat number]
    else UInt8.ofNat (number % 128 + 128) :: writeDigits places (number / 128)

/-- The varint of a number below `2 ^ 64`. -/
def writeVarint (number : Nat) : List UInt8 := writeDigits 10 number

/-- Reads digits up to the first byte without its high bit. The last place has room for one bit
only. -/
def readDigits : (places : Nat) → List UInt8 → Option (Nat × List UInt8)
  | 0, _ | _, [] => none
  | 1, byte :: rest => if byte < 2 then some (byte.toNat, rest) else none
  | places + 2, byte :: rest =>
    if byte < 128 then some (byte.toNat, rest)
    else (readDigits (places + 1) rest).map fun (higher, rest) =>
      (byte.toNat % 128 + 128 * higher, rest)

/-- The number of the varint that the bytes start with, and what follows it. -/
def readVarint? (bytes : List UInt8) : Option (Nat × List UInt8) := readDigits 10 bytes

end RpcProxy.Wire

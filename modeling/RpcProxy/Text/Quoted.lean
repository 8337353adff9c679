import RpcProxy.Text.Unprintable

/-!
# Quoted text in messages

Messages show a text between double quotes. The quote and the backslash get a backslash, four
controls have an escape of one letter, and every other character that needs an escape is written by
its code point in hexadecimal digits between braces.
-/

namespace RpcProxy.Text

/-- The lower-case hexadecimal digits of a number, without leading zeros. -/
def hexDigits (number : Nat) : List Char := Nat.toDigits 16 number

/-- One character as it stands inside a quotation. -/
def quoteLetter (letter : Char) : List Char :=
  if letter = '"' then ['\\', '"']
  else if letter = '\\' then ['\\', '\\']
  else if letter = '\t' then ['\\', 't']
  else if letter = '\r' then ['\\', 'r']
  else if letter = '\n' then ['\\', 'n']
  else if letter = '\x00' then ['\\', '0']
  else if needsEscape letter then
    ['\\', 'u', '\x7b'] ++ hexDigits letter.toNat ++ ['\x7d']
  else [letter]

/-- The text between double quotes, with its special characters escaped. -/
def quote (text : String) : String :=
  String.ofList (['"'] ++ text.toList.flatMap quoteLetter ++ ['"'])

end RpcProxy.Text

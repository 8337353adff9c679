import RpcProxy.GoName
import RpcProxy.Wire.Writer

/-!
# Go names in one pass

A Go name can be written in one pass over a name, from its first letter to its last. The pass does
not need to know what the characters are: it goes over the bytes of the name as well, each of them
read as the letter of its number, and a character beyond ASCII is then a few letters beyond ASCII.
-/

namespace RpcProxy.GoName

/-- The bytes of a text, each read as the letter of its number. -/
def byteLetters (text : String) : List Char := (Wire.utf8 text).map Char.ofUInt8

/-- Whether there is a lower-case letter at a place. -/
def isLowerAt (letters : List Char) (place : Nat) : Bool := letters[place]?.any Char.isLower

/-- What the pass for an exported name writes at a place, and how many letters it takes along from
behind it. A letter that is neither a separator nor a digit is raised, and the lower-case letters
behind it are taken along as they are. -/
def exportedAt (letters : List Char) (place : Nat) (letter : Char) : List Char × Nat :=
  if letter = '.' && isLowerAt letters (place + 1) then ([], 0)
  else if letter = '.' then (['_'], 0)
  else if letter = '_' && (place = 0 || letters[place - 1]? = some '.') then (['X'], 0)
  else if letter = '_' && isLowerAt letters (place + 1) then ([], 0)
  else if letter.isDigit then ([letter], 0)
  else
    let word := (letters.drop (place + 1)).takeWhile Char.isLower
    (letter.toUpper :: word, word.length)

/-- What the pass for an exported name writes from a place on. -/
def exportedFrom (letters : List Char) (place : Nat) : List Char :=
  if inside : place < letters.length then
    let (written, taken) := exportedAt letters place letters[place]
    written ++ exportedFrom letters (place + 1 + taken)
  else []
termination_by letters.length - place

/-- What the pass for an exported name makes of the bytes of the name. -/
def exportedBytes (bytes : List UInt8) : List UInt8 :=
  (exportedFrom (bytes.map Char.ofUInt8) 0).map Char.toUInt8

/-- What the pass for an unexported name keeps in mind of the letters before a place. -/
structure CasePass where
  /-- The place of the next letter. -/
  place : Nat
  /-- Whether the next letter is raised. -/
  raises : Bool
  /-- Whether the letter before is a capital. -/
  afterCapital : Bool

namespace CasePass

def start : CasePass where
  place := 0
  raises := false
  afterCapital := false

/-- The next letter in the case that it is written in. -/
def turned (pass : CasePass) (letter : Char) : Char :=
  if pass.raises then letter.toUpper
  else if pass.place = 0 || (pass.afterCapital && letter.isUpper) then letter.toLower
  else letter

/-- What is written for the next letter. -/
def written (pass : CasePass) (letter : Char) : List Char :=
  if letter.isUpper || letter.isLower || letter.isDigit then [pass.turned letter] else []

def next (pass : CasePass) (letter : Char) : CasePass where
  place := pass.place + 1
  raises :=
    if letter.isUpper || letter.isLower then false
    else if letter.isDigit then true
    else letter == '_' || letter == ' ' || letter == '-' || letter == '.'
  afterCapital := letter.isUpper

/-- What is written for all letters that are still to come. -/
def run (pass : CasePass) : List Char → List Char
  | [] => []
  | letter :: rest => pass.written letter ++ (pass.next letter).run rest

end CasePass

end RpcProxy.GoName

import RpcProxy.Text.Alphabetic
import RpcProxy.Text.Blank

/-!
# Go names of schema names

Three conversions lead from the names of a schema to Go identifiers. `exported` gives the exported
name under which generated Go code declares a message, service or method. `unexported` gives an
unexported name. `identifier` makes a package name out of any text. The first two are local: what a
letter becomes is decided by the letter and its neighbours.
-/

namespace RpcProxy.GoName

/-- Whether the letter before another one makes it the start of a word: an ASCII digit or one of the
separators `_`, `.`, `-` and the space. -/
def endsWord (letter : Char) : Bool :=
  letter.isDigit || letter == '_' || letter == '.' || letter == '-' || letter == ' '

/-- Whether a lower-case letter is raised after the given letter: at the start of the name, after a
dot or underscore, and after a digit. -/
def raisesAfter : Option Char → Bool
  | none => true
  | some before => before == '.' || before == '_' || before.isDigit

/-- What one letter of a schema name contributes to the exported name, by its neighbours. -/
def exportedLetter (before : Option Char) (letter : Char) (after : Option Char) : List Char :=
  if letter = '.' then
    if after.any Char.isLower then [] else ['_']
  else if letter = '_' then
    if before = none || before = some '.' then ['X']
    else if after.any Char.isLower then [] else ['_']
  else if letter.isLower && raisesAfter before then [letter.toUpper]
  else [letter]

/-- The exported name of the letters that follow a given letter. -/
def exportedAfter (before : Option Char) : List Char → List Char
  | [] => []
  | letter :: rest => exportedLetter before letter rest.head? ++ exportedAfter (some letter) rest

/-- The exported Go name of a schema name. Dots between nested declarations become underscores, and
separators before lower-case letters vanish while the letter is raised. -/
def exported (name : String) : String := String.ofList (exportedAfter none name.toList)

/-- What one letter contributes to the unexported name, by the letter before it. Only ASCII letters
and digits remain; a letter after a digit or separator is raised, and the first letter and capitals
behind a capital are lowered. -/
def unexportedLetter (before : Option Char) (letter : Char) : List Char :=
  if letter.isUpper || letter.isLower then
    if before.any endsWord then [letter.toUpper]
    else if before = none || (before.any Char.isUpper && letter.isUpper) then [letter.toLower]
    else [letter]
  else if letter.isDigit then [letter]
  else []

/-- The unexported name of the letters that follow a given letter. -/
def unexportedAfter (before : Option Char) : List Char → List Char
  | [] => []
  | letter :: rest => unexportedLetter before letter ++ unexportedAfter (some letter) rest

/-- The unexported Go name of a name, without the blanks around it. -/
def unexported (name : String) : String :=
  String.ofList (unexportedAfter none (Text.trimBlanks name.toList))

def reservedWords : List String :=
  ["break", "case", "chan", "const", "continue", "default", "defer", "else", "fallthrough", "for",
   "func", "go", "goto", "if", "import", "interface", "map", "package", "range", "return", "select",
   "struct", "switch", "type", "var"]

/-- A package name made of any text: what is not alphanumeric becomes an underscore, and a text that
starts with no alphabetic character or is a reserved word gets an underscore in front. -/
def identifier (text : String) : String :=
  let letters := text.toList.map fun letter => if Text.isAlphanumeric letter then letter else '_'
  let name := String.ofList letters
  if letters.head?.any Text.isAlphabetic && !reservedWords.contains name then name else "_" ++ name

end RpcProxy.GoName

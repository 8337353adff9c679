/-!
# Cutting texts apart

Parameters, paths and dotted names are read by cutting them at separators and by taking off fixed
beginnings and endings. Each cut is one function on the list of letters, with a wrapper on texts.
-/

namespace RpcProxy.Text

/-- The pieces of a text between the occurrences of a separator; there is always at least one. -/
def split (separator : Char) (text : String) : List String :=
  (text.toList.splitOn separator).map String.ofList

/-- The letters before and after the first separator, if there is one. -/
def cutFirstLetters (separator : Char) (letters : List Char) : Option (List Char × List Char) :=
  match letters.dropWhile (· != separator) with
  | [] => none
  | _ :: after => some (letters.takeWhile (· != separator), after)

/-- The texts before and after the first separator, if there is one. -/
def cutFirst (separator : Char) (text : String) : Option (String × String) :=
  (cutFirstLetters separator text.toList).map fun (before, after) =>
    (String.ofList before, String.ofList after)

/-- The texts before and after the last separator, if there is one. -/
def cutLast (separator : Char) (text : String) : Option (String × String) :=
  (cutFirstLetters separator text.toList.reverse).map fun (after, before) =>
    (String.ofList before.reverse, String.ofList after.reverse)

/-- The last element of a path: what follows its last slash, or all of it. -/
def lastElement (path : String) : String :=
  String.ofList (path.toList.reverse.takeWhile (· != '/')).reverse

/-- What is left of a text after a given beginning, if it begins so. -/
def dropBeginning? (beginning text : String) : Option String :=
  (beginning.toList.isPrefixOf? text.toList).map String.ofList

/-- What is left of a text before a given ending, if it ends so. -/
def dropEnding? (ending text : String) : Option String :=
  (ending.toList.isSuffixOf? text.toList).map String.ofList

/-- Takes a beginning off the letters as often as it occurs there, at most `times` times. -/
def dropRepeated (beginning : List Char) : (times : Nat) → List Char → List Char
  | 0, letters => letters
  | times + 1, letters =>
    match beginning.isPrefixOf? letters with
    | some rest => dropRepeated beginning times rest
    | none => letters

/-- The text without every occurrence of an ending at its end. A text of `n` letters ends at most
`n` times in a text that is not empty. -/
def dropEndings (ending text : String) : String :=
  let letters := text.toList.reverse
  String.ofList (dropRepeated ending.toList.reverse letters.length letters).reverse

/-- The text without the slashes at its end. -/
def dropTrailingSlashes (text : String) : String :=
  String.ofList (text.toList.reverse.dropWhile (· == '/')).reverse

/-- The beginnings of a name that end before a dot, shortest first, and the name itself; `before`
holds the letters already passed, last first. -/
def beginningsAfter (before : List Char) : List Char → List (List Char)
  | [] => [before.reverse]
  | letter :: rest =>
    if letter = '.' then before.reverse :: beginningsAfter (letter :: before) rest
    else beginningsAfter (letter :: before) rest

/-- The beginnings of a name that end before a dot, shortest first, and the name itself. -/
def dottedBeginnings (name : String) : List String :=
  (beginningsAfter [] name.toList).map String.ofList

end RpcProxy.Text

import RpcProxy.Text.Split

/-!
# What keeps schemas from being linked

Every rule that linking checks has one constructor. Names and file names appear in the messages
between single quotes as they are.
-/

namespace RpcProxy.Linking

/-- Why a set of schema files cannot be linked. -/
inductive LinkError
  /-- Two files have one name. -/
  | duplicateFile (file : String)
  /-- A file imports one that is not there. -/
  | missingImport (file : String)
  /-- A public or weak import is no position in the list of imports. -/
  | importPosition
  /-- A file declares a name twice. -/
  | definedTwice (name : String)
  /-- Another file has declared the name. -/
  | definedElsewhere (name file : String)
  /-- Two fields of a message differ only in underscores and case. -/
  | similarFields (earlier later : String)
  | emptyEnum
  | firstEnumNumber
  | fieldNumber (number : Int32)
  /-- The field at the given place in its file names no type although it needs one. -/
  | missingType (path : List Nat)
  | fieldNumberUsed (number : Int32)
  | jsonNameUsed
  | enumNumberUsed (number : Int32)
  | undefinedName (name : String)
  /-- The first part of a name leads to a scope that does not hold the rest of it. -/
  | undefinedInScope (name candidate : String)
  | notMessage (name : String)
  | notMessageOrEnum (name : String)
  /-- A declaration for the options of files does not fit the options of a file. -/
  | unfitOptions
deriving DecidableEq, Repr

namespace LinkError

def named (text : String) : String := "'" ++ text ++ "'"

def message : LinkError → String
  | duplicateFile file => "a different file named " ++ named file ++ " has already been added"
  | missingImport file => "imported file " ++ named file ++ " has not been added"
  | importPosition => "invalid import index"
  | definedTwice name => "name " ++ named name ++ " is defined twice"
  | definedElsewhere name file =>
    "name " ++ named name ++ " is already defined in file " ++ named file
  | similarFields earlier later =>
    "camel-case name of field " ++ named earlier ++ " conflicts with field " ++ named later
  | emptyEnum => "enums must have at least one value"
  | firstEnumNumber => "the first value for proto3 enums must be 0"
  | fieldNumber number => "invalid field number " ++ named (toString number.toInt)
  | missingType path =>
    "missing required field at [" ++ String.intercalate ", " (path.map toString) ++ "]"
  | fieldNumberUsed number => "field number " ++ named (toString number.toInt) ++ " is already used"
  | jsonNameUsed => "a field with JSON name " ++ named "" ++ " is already defined"
  | enumNumberUsed number =>
    "enum number " ++ named (toString number.toInt) ++ " has already been used"
  | undefinedName name => "name " ++ named name ++ " is not defined"
  | undefinedInScope name candidate =>
    named name ++ " resolves to " ++ named candidate ++ ", which is not defined"
  | notMessage name => named name ++ " is not a message type"
  | notMessageOrEnum name => named name ++ " is not a message or enum type"
  | unfitOptions => "failed to decode file descriptor set"

end LinkError

end RpcProxy.Linking

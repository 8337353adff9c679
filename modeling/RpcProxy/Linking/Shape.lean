import RpcProxy.Linking.Pool
import RpcProxy.Wire.Shape

/-!
# Shapes of declared messages

Linked files say how the bytes of every message they declare are to be read. The type of a field
fixes its values, the label whether it is a list, and the dialect of the file whether lists are
packed and whether a field that holds zero is the same as one that is not set.
-/

namespace RpcProxy.Linking

open Wire

mutual

/-- A message and the messages inside it, by their full names. -/
def messagesIn (scope : String) : MessageDecl → List (String × MessageDecl)
  | ⟨name, fields, messages, enums⟩ =>
    let inside := qualified scope (name.getD "")
    (inside, ⟨name, fields, messages, enums⟩) :: messagesInEach inside messages

def messagesInEach (scope : String) : List MessageDecl → List (String × MessageDecl)
  | [] => []
  | message :: rest => messagesIn scope message ++ messagesInEach scope rest

end

/-- The messages a file declares, by their full names. -/
def messagesOf (decl : FileDecl) : List (String × MessageDecl) :=
  messagesInEach (decl.package.getD "") decl.messages

/-- Enums of a scope, by their full names. -/
def enumsIn (scope : String) (enums : List EnumDecl) : List (String × EnumDecl) :=
  enums.map fun enum => (qualified scope (enum.name.getD ""), enum)

def enumsOf (decl : FileDecl) : List (String × EnumDecl) :=
  enumsIn (decl.package.getD "") decl.enums
    ++ (messagesOf decl).flatMap fun (name, message) => enumsIn name message.enums

namespace Pool

/-- The message of a full name, with the file that declares it. -/
def message? (pool : Pool) (fullName : String) : Option (FileDecl × MessageDecl) :=
  pool.decls.findSome? fun decl =>
    ((messagesOf decl).find? fun entry => entry.1 == fullName).map fun entry => (decl, entry.2)

def enum? (pool : Pool) (fullName : String) : Option EnumDecl :=
  pool.decls.findSome? fun decl =>
    ((enumsOf decl).find? fun entry => entry.1 == fullName).map (·.2)

/-- The first number of the enum of a full name. -/
def firstNumber (pool : Pool) (fullName : String) : Int32 :=
  (((pool.enum? fullName).bind fun enum => enum.values.head?).bind (·.number)).getD 0

end Pool

/-- The values of a type that is not declared. Numbers that stand for no type stand for the first.
-/
def scalarOf (kind : Option Int32) : ScalarShape :=
  match kind.map Int32.toInt with
  | some 2 => .fixed32
  | some 3 => .varint .whole
  | some 4 => .varint .whole
  | some 5 => .varint .signed32
  | some 6 => .fixed64
  | some 7 => .fixed32
  | some 8 => .varint .truth
  | some 9 => .text
  | some 12 => .bytes
  | some 13 => .varint .unsigned32
  | some 15 => .fixed32
  | some 16 => .fixed64
  | some 17 => .varint .unsigned32
  | some 18 => .varint .whole
  | _ => .fixed64

/-- The number of the type that holds a message as a group. -/
def groupKind : Int32 := 10

/-- The label of a list. -/
def listLabel : Int32 := 3

/-- A zero among the values of a scalar, as it is written. -/
def zeroOf : ScalarShape → List UInt8
  | .varint _ => [0]
  | .fixed32 => List.replicate 4 0
  | .fixed64 => List.replicate 8 0
  | .text => [0]
  | .bytes => [0]

/-- What a field holds, and the value that stands for nothing if there is one. -/
def valueShape (pool : Pool) (view : View) (scope : String) (field : FieldDecl) :
    ValueShape × Option (List UInt8) :=
  match field.typeName.filter (· ≠ "") with
  | none =>
    let scalar := scalarOf field.kind
    (.scalar scalar, some (zeroOf scalar))
  | some name =>
    match view.resolve .messageOrEnum scope name with
    | .ok ⟨fullName, .enum, _⟩ =>
      (.scalar (.varint .signed32), some (writeVarint (natOfInt32 (pool.firstNumber fullName))))
    | .ok symbol =>
      if field.kind = some groupKind then (.group symbol.fullName, none)
      else (.message symbol.fullName, none)
    | .error _ => (.scalar .bytes, none)

/-- The shape of a field of a message. The strict dialect packs lists and leaves out zeros. -/
def fieldShape (pool : Pool) (decl : FileDecl) (message : String) (field : FieldDecl) :
    FieldShape :=
  let strict := decl.dialect == some "proto3"
  let (value, zero) :=
    valueShape pool (pool.viewFrom decl) (qualified message (field.name.getD "")) field
  let many := field.label == some listLabel
  { value, many
    packed := many && strict && match value with
      | .scalar scalar => scalar.packs
      | _ => false
    omitted := if strict then zero else none }

namespace Pool

/-- The shapes of the messages that the files of a pool declare. -/
def shapes (pool : Pool) : Shapes := fun name number => do
  let (decl, message) ← pool.message? name
  let field ← message.fields.find? fun field => (field.number.getD 0).toInt == Int.ofNat number
  return fieldShape pool decl name field

end Pool

end RpcProxy.Linking

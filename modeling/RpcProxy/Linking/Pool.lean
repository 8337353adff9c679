import RpcProxy.Linking.Lookup

/-!
# Linked files

Linking first builds the table of names and then goes through the files once more: imports must
exist, numbers and names of fields must differ, and every type name must resolve. The result keeps
for each method which messages it takes and returns, and the files that declare them.
-/

namespace RpcProxy.Linking

/-- A message by its full name, with the file that declares it. -/
structure ResolvedMessage where
  fullName : String
  file : String
deriving DecidableEq, Repr

/-- A method whose types are resolved. -/
structure LinkedMethod where
  name : String
  input : ResolvedMessage
  output : ResolvedMessage
  clientStreaming : Bool
  serverStreaming : Bool
deriving DecidableEq, Repr

structure LinkedService where
  name : String
  fullName : String
  methods : List LinkedMethod
deriving DecidableEq, Repr

/-- A file with its linked services. -/
structure LinkedFile where
  decl : FileDecl
  services : List LinkedService
deriving Repr

/-- The files of a request in their order, linked, and the table of their names. -/
structure Pool where
  table : Table
  files : List LinkedFile
deriving Repr

/-- The dependency at a position, if there is one. -/
def importAt? (decl : FileDecl) (position : Int32) : Option String :=
  if position.toInt < 0 then none else decl.dependencies[position.toInt.toNat]?

/-- The files a file passes on to those that import it: its public dependencies in the order of its
dependencies, however often the list of positions repeats one. -/
def passedOn (decl : FileDecl) : List String :=
  (decl.dependencies.zipIdx.filter fun dependency =>
    decl.publicDependencies.any fun position => position.toInt == dependency.2).map (·.1)

/-- Adds to the visible files what an imported file passes on. A file that is visible already is
looked into instead, which ends after as many steps as there are files. -/
def addPassedOn (files : List FileDecl) : (depth : Nat) → List String → String → List String
  | 0, visible, _ => visible
  | depth + 1, visible, file =>
    match files.find? fun decl => decl.name.getD "" == file with
    | none => visible
    | some decl =>
      (passedOn decl).foldl (fun visible next =>
        if visible.contains next then addPassedOn files depth visible next
        else next :: visible) visible

/-- Adds to the visible files a dependency and then what it passes on. -/
def addDependency (files : List FileDecl) (visible : List String) (file : String) : List String :=
  addPassedOn files files.length (visible.insert file) file

/-- The files whose names a file can use: itself, its dependencies and what these pass on. The
dependencies count one after another, so a file that an earlier one passes on is no news when its
own turn comes. -/
def visibleFrom (files : List FileDecl) (decl : FileDecl) : List String :=
  decl.dependencies.foldl (addDependency files) [decl.name.getD ""]

/-- Checks that every import is there and every public or weak import is an import. -/
def checkImports (files : List FileDecl) (decl : FileDecl) : Except LinkError Unit :=
  match decl.dependencies.find? fun name => !files.any fun other => other.name.getD "" == name with
  | some name => .error (.missingImport name)
  | none =>
    if (decl.publicDependencies ++ decl.weakDependencies).all fun position =>
        (importAt? decl position).isSome then .ok ()
    else .error .importPosition

/-- The name of a field in JSON: underscores vanish and raise the letter after them. -/
def jsonLetters (raised : Bool) : List Char → List Char
  | [] => []
  | letter :: rest =>
    if letter = '_' then jsonLetters true rest
    else (if raised then letter.toUpper else letter) :: jsonLetters false rest

def jsonName (name : String) : String := String.ofList (jsonLetters false name.toList)

/-- Whether a number may be the number of a field. -/
def isFieldNumber (number : Int32) : Bool :=
  1 ≤ number.toInt && number.toInt ≤ 536870911
    && !(19000 ≤ number.toInt && number.toInt ≤ 19999)

/-- The numbers of the field types that hold a message or an enum. -/
def typedKinds : List Int32 := [10, 11, 14]

/-- Checks the type of a field, which is used in the scope of the field's own name. -/
def checkFieldType (view : View) (scope : String) (path : List Nat) (field : FieldDecl) :
    Except LinkError Unit :=
  match field.typeName.filter (· ≠ "") with
  | some name => do
    let _ ← view.resolve .messageOrEnum scope name
  | none =>
    if field.kind.any typedKinds.contains then .error (.missingType (path ++ [6])) else .ok ()

/-- Checks fields from a position on, given the fields before it. -/
def checkFields (view : View) (scope : String) (path : List Nat) (position : Nat)
    (earlier : List FieldDecl) : List FieldDecl → Except LinkError Unit
  | [] => .ok ()
  | field :: rest => do
    let name := field.name.getD ""
    let number := field.number.getD 0
    if !isFieldNumber number then throw (.fieldNumber number)
    checkFieldType view (qualified scope name) (path ++ [2, position]) field
    if earlier.any fun other => other.number.getD 0 == number then
      throw (.fieldNumberUsed number)
    if earlier.any fun other => jsonName (other.name.getD "") == jsonName name then
      throw .jsonNameUsed
    checkFields view scope path (position + 1) (field :: earlier) rest

/-- Checks that the numbers of an enum differ from each other and from those seen. -/
def checkEnumNumbers (seen : List Int32) : List EnumValueDecl → Except LinkError Unit
  | [] => .ok ()
  | value :: rest =>
    let number := value.number.getD 0
    if seen.contains number then .error (.enumNumberUsed number)
    else checkEnumNumbers (number :: seen) rest

def checkEnums : List EnumDecl → Except LinkError Unit
  | [] => .ok ()
  | enum :: rest => do
    checkEnumNumbers [] enum.values
    checkEnums rest

mutual

/-- Checks a message: its fields, then the messages and the enums inside it. -/
def checkMessage (view : View) (scope : String) (path : List Nat) :
    MessageDecl → Except LinkError Unit
  | ⟨name, fields, messages, enums⟩ => do
    let inside := qualified scope (name.getD "")
    checkFields view inside path 0 [] fields
    checkMessages view inside (path ++ [3]) 0 messages
    checkEnums enums

/-- Checks messages from a position on. -/
def checkMessages (view : View) (scope : String) (path : List Nat) (position : Nat) :
    List MessageDecl → Except LinkError Unit
  | [] => .ok ()
  | message :: rest => do
    checkMessage view scope (path ++ [position]) message
    checkMessages view scope path (position + 1) rest

end

/-- Resolves the type of one side of a method. -/
def linkType (view : View) (scope : String) (name : Option String) :
    Except LinkError ResolvedMessage := do
  let symbol ← view.resolve .message scope (name.getD "")
  return ⟨symbol.fullName, symbol.file⟩

/-- Links a method, whose types are used in the scope of its own name. -/
def linkMethod (view : View) (scope : String) (method : MethodDecl) :
    Except LinkError LinkedMethod := do
  let inside := qualified scope (method.name.getD "")
  let input ← linkType view inside method.inputType
  let output ← linkType view inside method.outputType
  return {
    name := method.name.getD ""
    input, output
    clientStreaming := method.clientStreaming.getD false
    serverStreaming := method.serverStreaming.getD false }

def linkMethods (view : View) (scope : String) :
    List MethodDecl → Except LinkError (List LinkedMethod)
  | [] => .ok []
  | method :: rest => do
    let linked ← linkMethod view scope method
    return linked :: (← linkMethods view scope rest)

def linkServices (view : View) (scope : String) :
    List ServiceDecl → Except LinkError (List LinkedService)
  | [] => .ok []
  | service :: rest => do
    let name := service.name.getD ""
    let fullName := qualified scope name
    let methods ← linkMethods view fullName service.methods
    return ⟨name, fullName, methods⟩ :: (← linkServices view scope rest)

/-- What can be seen from a file. -/
def viewFrom (table : Table) (files : List FileDecl) (decl : FileDecl) : View :=
  ⟨table, visibleFrom files decl⟩

/-- Links a file with the table of all names. -/
def linkFile (table : Table) (files : List FileDecl) (decl : FileDecl) :
    Except LinkError LinkedFile := do
  checkImports files decl
  let view := viewFrom table files decl
  let package := decl.package.getD ""
  checkMessages view package [4] 0 decl.messages
  checkEnums decl.enums
  let services ← linkServices view package decl.services
  return ⟨decl, services⟩

/-- Links files one after another. -/
def linkEach (table : Table) (files : List FileDecl) :
    List FileDecl → Except LinkError (List LinkedFile)
  | [] => .ok []
  | decl :: rest => do
    let linked ← linkFile table files decl
    return linked :: (← linkEach table files rest)

def link (files : List FileDecl) : Except LinkError Pool := do
  let table ← Table.ofFiles files
  return ⟨table, ← linkEach table files files⟩

namespace Pool

def decls (pool : Pool) : List FileDecl := pool.files.map (·.decl)

/-- What can be seen from a file of a pool. -/
def viewFrom (pool : Pool) (decl : FileDecl) : View := Linking.viewFrom pool.table pool.decls decl

/-- The service of a full name. A dot in front only marks the name as a full one. -/
def service? (pool : Pool) (fullName : String) : Option LinkedService :=
  let name := (Text.dropBeginning? "." fullName).getD fullName
  pool.files.findSome? fun file => file.services.find? fun service => service.fullName == name

end Pool

end RpcProxy.Linking

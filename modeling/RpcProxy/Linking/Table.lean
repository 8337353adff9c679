import RpcProxy.Descriptor
import RpcProxy.Linking.Error

/-!
# The table of names

All files of a request share one table of full names. A file contributes a list of entries in the
order of its declarations: names to be put into the table, and flaws that are found on the way. The
table is built entry by entry, and the first entry that fails decides.
-/

namespace RpcProxy.Linking

/-- The full name of a name in a scope. -/
def qualified (scope name : String) : String := if scope = "" then name else scope ++ "." ++ name

/-- What a name stands for. -/
inductive SymbolKind
  | package
  | message
  | enum
  | service
  /-- A field, an enum value or a method. -/
  | member
deriving DecidableEq, Repr

/-- A full name with the file that first declared it. -/
structure Symbol where
  fullName : String
  kind : SymbolKind
  file : String
deriving DecidableEq, Repr

/-- One step in building the table. -/
inductive Entry
  | symbol (symbol : Symbol)
  | flaw (error : LinkError)
deriving DecidableEq, Repr

/-- A name without underscores and in lower case, by which fields must differ. -/
def looseName (name : String) : String :=
  String.ofList ((name.toList.filter (· != '_')).map Char.toLower)

/-- The first name that is loosely equal to an earlier one, after that earlier one. -/
def similar? (earlier : List String) : List String → Option (String × String)
  | [] => none
  | name :: rest =>
    match earlier.find? fun other => looseName other == looseName name with
    | some other => some (other, name)
    | none => similar? (earlier ++ [name]) rest

/-- The entry of a declaration that is neither a type nor a scope. -/
def memberEntry (file scope : String) (name : Option String) : Entry :=
  .symbol ⟨qualified scope (name.getD ""), .member, file⟩

def fieldEntries (file : String) (strict : Bool) (scope : String) (fields : List FieldDecl) :
    List Entry :=
  let names := fields.map fun field => field.name.getD ""
  let flaws :=
    match if strict then similar? [] names else none with
    | some (earlier, later) => [.flaw (.similarFields earlier later)]
    | none => []
  flaws ++ fields.map fun field => memberEntry file scope field.name

/-- What is wrong with the values of an enum. The strict dialect wants the first number to be zero.
-/
def enumFlaws (strict : Bool) : List EnumValueDecl → List Entry
  | [] => [.flaw .emptyEnum]
  | value :: _ => if strict && value.number.getD 0 != 0 then [.flaw .firstEnumNumber] else []

/-- The entries of an enum. Its values are names of the scope around it. -/
def enumEntries (file : String) (strict : Bool) (scope : String) (enum : EnumDecl) : List Entry :=
  .symbol ⟨qualified scope (enum.name.getD ""), .enum, file⟩ ::
    enumFlaws strict enum.values ++ enum.values.map fun value => memberEntry file scope value.name

mutual

/-- The entries of a message: its name, its fields, and the messages and enums inside it. -/
def messageEntries (file : String) (strict : Bool) (scope : String) : MessageDecl → List Entry
  | ⟨name, fields, messages, enums⟩ =>
    let inside := qualified scope (name.getD "")
    .symbol ⟨inside, .message, file⟩ ::
      fieldEntries file strict inside fields
        ++ nestedEntries file strict inside messages
        ++ enums.flatMap (enumEntries file strict inside)

def nestedEntries (file : String) (strict : Bool) (scope : String) : List MessageDecl → List Entry
  | [] => []
  | message :: rest =>
    messageEntries file strict scope message ++ nestedEntries file strict scope rest

end

/-- The entries of a service: its name and its methods inside it. -/
def serviceEntries (file scope : String) (service : ServiceDecl) : List Entry :=
  let inside := qualified scope (service.name.getD "")
  .symbol ⟨inside, .service, file⟩ ::
    service.methods.map fun method => memberEntry file inside method.name

/-- The entries of a package: it and every package around it. -/
def packageEntries (file package : String) : List Entry :=
  if package = "" then []
  else (Text.dottedBeginnings package).map fun name => .symbol ⟨name, .package, file⟩

def fileEntries (decl : FileDecl) : List Entry :=
  let file := decl.name.getD ""
  let package := decl.package.getD ""
  let strict := decl.dialect == some "proto3"
  packageEntries file package
    ++ nestedEntries file strict package decl.messages
    ++ decl.enums.flatMap (enumEntries file strict package)
    ++ decl.services.flatMap (serviceEntries file package)

/-- Full names, each once, with what they stand for. -/
abbrev Table := List Symbol

namespace Table

def find? (table : Table) (fullName : String) : Option Symbol :=
  List.find? (fun symbol => symbol.fullName == fullName) table

/-- Takes one more entry into the table. Only packages may be named again. -/
def enter (table : Table) : Entry → Except LinkError Table
  | .flaw error => .error error
  | .symbol symbol =>
    match table.find? symbol.fullName with
    | none => .ok (symbol :: table)
    | some first =>
      if symbol.kind = .package ∧ first.kind = .package then .ok table
      else if first.file = symbol.file then .error (.definedTwice symbol.fullName)
      else .error (.definedElsewhere symbol.fullName first.file)

/-- Takes entries into the table up to the first that fails. -/
def enterAll (table : Table) : List Entry → Except LinkError Table
  | [] => .ok table
  | entry :: rest => do
    let table ← table.enter entry
    enterAll table rest

/-- Takes the entries of files into the table. No file may have a name that has been seen. -/
def enterFiles (table : Table) (seen : List String) : List FileDecl → Except LinkError Table
  | [] => .ok table
  | decl :: rest => do
    let file := decl.name.getD ""
    if seen.contains file then throw (.duplicateFile file)
    let table ← table.enterAll (fileEntries decl)
    enterFiles table (file :: seen) rest

def ofFiles (files : List FileDecl) : Except LinkError Table := enterFiles [] [] files

end Table

end RpcProxy.Linking

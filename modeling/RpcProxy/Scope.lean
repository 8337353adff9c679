import RpcProxy.ImportTable
import RpcProxy.Schema

/-!
# How a generated file refers to Go identifiers

Identifiers of the file's own package stand alone, all others behind the alias of their package. The
empty message of the standard library of messages is always referred to in one way, so that no
message of the same short name can take its place.
-/

namespace RpcProxy

/-- A Go name, with or without the alias of a package in front. -/
structure Reference where
  qualifier : Option String
  name : String
deriving DecidableEq, Repr

def Reference.text (reference : Reference) : String :=
  match reference.qualifier with
  | some qualifier => qualifier ++ "." ++ reference.name
  | none => reference.name

/-- The full name of the well-known empty message. -/
def wellKnownEmpty : String := "google.protobuf.Empty"

def Message.isEmpty (message : Message) : Bool := message.fullName == wellKnownEmpty

/-- What a generated file can refer to. -/
structure Scope where
  /-- The import path whose identifiers stand alone. -/
  localPath : String
  imports : ImportTable
deriving DecidableEq

namespace Scope

/-- The reference to an identifier. -/
def refer (scope : Scope) (ident : Identifier) : Reference :=
  if ident.importPath = scope.localPath then ⟨none, ident.name⟩
  else ⟨scope.imports.aliasOf? ident.importPath, ident.name⟩

/-- An identifier as it is written in the file. -/
def spell (scope : Scope) (ident : Identifier) : String := (scope.refer ident).text

/-- The reference to the type of a message. -/
def typeOf (scope : Scope) (message : Message) : Reference :=
  if message.isEmpty then ⟨some "emptypb", "Empty"⟩ else scope.refer message.identifier

end Scope

end RpcProxy

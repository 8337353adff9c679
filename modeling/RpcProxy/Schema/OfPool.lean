import RpcProxy.Package
import RpcProxy.Linking.Pool
import RpcProxy.Options
import RpcProxy.Schema

/-!
# Go schemas of linked files

Every name gets its Go form, and every message the Go package of the file that declares it. The
mapping from files to Go packages in the options goes before the files' own option. The services of
a file are those that its pool knows by their full names.
-/

namespace RpcProxy

open Linking

structure UnknownDialect where
  file : String
  dialect : String
deriving DecidableEq, Repr

def UnknownDialect.message (unknown : UnknownDialect) : String :=
  unknown.file ++ ": unsupported syntax " ++ Text.quote unknown.dialect

/-- Why a file cannot be brought into Go terms. -/
inductive SchemaError
  | dialect (unknown : UnknownDialect)
  /-- No service is known by the full name. -/
  | service (fullName : String)
deriving DecidableEq, Repr

/-- The option of a file that names its Go package. -/
def FileDecl.goPackageOption (decl : FileDecl) : Option String :=
  decl.options.map fun options => options.goPackage.getD ""

/-- The Go package of a file under a mapping from file names. -/
def FileDecl.goPackage (packageOf : Registry String) (decl : FileDecl) : Package :=
  let file := decl.name.getD ""
  Package.ofFile file (decl.package.getD "")
    ((packageOf.find? file).or decl.goPackageOption)

/-- The part of a message's full name inside its package. -/
def nameInPackage (package fullName : String) : String :=
  if package = "" then fullName
  else (Text.dropBeginning? (package ++ ".") fullName).getD fullName

namespace Schema

/-- The declaration of a file by its name. -/
def declOf (pool : Pool) (file : String) : FileDecl :=
  (pool.decls.find? fun decl => decl.name.getD "" == file).getD {}

def message (packageOf : Registry String) (pool : Pool) (resolved : ResolvedMessage) : Message :=
  let decl := declOf pool resolved.file
  let package := decl.goPackage packageOf
  { fullName := resolved.fullName
    identifier :=
      { name := GoName.exported (nameInPackage (decl.package.getD "") resolved.fullName)
        importPath := package.importPath }
    packageName := package.name }

def method (packageOf : Registry String) (pool : Pool) (linked : LinkedMethod) : Method where
  name := GoName.exported linked.name
  input := message packageOf pool linked.input
  output := message packageOf pool linked.output
  clientStreaming := linked.clientStreaming
  serverStreaming := linked.serverStreaming

def service (packageOf : Registry String) (pool : Pool) (linked : LinkedService) : Service where
  name := GoName.exported linked.name
  methods := linked.methods.map (method packageOf pool)

/-- Services of a file in Go terms, each as the pool knows it. -/
def services (packageOf : Registry String) (pool : Pool) :
    List LinkedService → Except SchemaError (List Service)
  | [] => .ok []
  | linked :: rest =>
    match pool.service? linked.fullName with
    | none => .error (.service linked.fullName)
    | some known => do
      return service packageOf pool known :: (← services packageOf pool rest)

def file (packageOf : Registry String) (wanted : List String) (pool : Pool) (linked : LinkedFile) :
    Except SchemaError ProtoFile :=
  let name := linked.decl.name.getD ""
  let dialectName := linked.decl.dialect.getD ""
  match Dialect.ofName? dialectName with
  | none => .error (.dialect ⟨name, dialectName⟩)
  | some dialect => do
    let package := linked.decl.goPackage packageOf
    return {
      name, dialect
      packageName := package.name
      importPath := package.importPath
      generate := wanted.contains name
      services := ← services packageOf pool linked.services }

def files (packageOf : Registry String) (wanted : List String) (pool : Pool) :
    List LinkedFile → Except SchemaError (List ProtoFile)
  | [] => .ok []
  | linked :: rest => do
    let first ← file packageOf wanted pool linked
    return first :: (← files packageOf wanted pool rest)

/-- The files of a pool in Go terms, in the order of the pool. Code is wanted for the named files.
-/
def ofPool (packageOf : Registry String) (wanted : List String) (pool : Pool) :
    Except SchemaError (List ProtoFile) :=
  files packageOf wanted pool pool.files

end Schema

end RpcProxy

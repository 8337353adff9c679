import RpcProxy.GoName
import RpcProxy.Text.Split

/-!
# The Go package of a schema file

A file names the Go package of its generated code in its option: by the path under which the package
is imported, or by the path and a package name with a semicolon between them. Without the option
both are derived from the name of the file and its schema package.
-/

namespace RpcProxy

/-- The package name and the import path of generated Go code. -/
structure Package where
  name : String
  importPath : String
deriving DecidableEq, Repr

namespace Package

/-- The last element of a file name, without its extensions. -/
def stem (file : String) : String := Text.dropEndings ".proto" (Text.lastElement file)

/-- The package that an option names. The package name is the one after the first semicolon, or the
last element of the path. -/
def ofOption (option : String) : Package :=
  match Text.cutFirst ';' option with
  | some (path, name) => ⟨GoName.identifier name, path⟩
  | none => ⟨GoName.identifier (Text.lastElement option), option⟩

/-- The schema package with underscores for its dots. -/
def underscored (schemaPackage : String) : String :=
  String.ofList (schemaPackage.toList.map fun letter => if letter = '.' then '_' else letter)

/-- The package of a file without the option: its directory is the import path and its schema
package the name. The stem of the file stands in for a missing directory and for an empty schema
package. -/
def withoutOption (file schemaPackage : String) : Package where
  name := GoName.identifier (if schemaPackage = "" then stem file else underscored schemaPackage)
  importPath :=
    match Text.cutLast '/' file with
    | some (directory, _) => directory
    | none => stem file

/-- The package of a file. An empty option counts as none. -/
def ofFile (file schemaPackage : String) : Option String → Package
  | some option => if option = "" then withoutOption file schemaPackage else ofOption option
  | none => withoutOption file schemaPackage

end Package

end RpcProxy

/-!
# Requests and the schemas in them

The compiler hands a plugin the schemas it has parsed, with the names of the files to generate code
for and the parameter. Every scalar may be unset, which is not the same as empty or zero. Fields of
the schema language that no rule here looks at are left out.
-/

namespace RpcProxy

structure FieldDecl where
  name : Option String := none
  number : Option Int32 := none
  label : Option Int32 := none
  /-- The number of the field's type. -/
  kind : Option Int32 := none
  /-- The message or enum the field holds, as the schema names it. -/
  typeName : Option String := none
deriving DecidableEq, Repr

structure EnumValueDecl where
  name : Option String := none
  number : Option Int32 := none
deriving DecidableEq, Repr

structure EnumDecl where
  name : Option String := none
  values : List EnumValueDecl := []
deriving DecidableEq, Repr

/-- A message, which may declare further messages and enums inside it. -/
structure MessageDecl where
  name : Option String := none
  fields : List FieldDecl := []
  messages : List MessageDecl := []
  enums : List EnumDecl := []
deriving Repr

instance : Inhabited MessageDecl := ⟨{}⟩

structure MethodDecl where
  name : Option String := none
  inputType : Option String := none
  outputType : Option String := none
  clientStreaming : Option Bool := none
  serverStreaming : Option Bool := none
deriving DecidableEq, Repr

structure ServiceDecl where
  name : Option String := none
  methods : List MethodDecl := []
deriving DecidableEq, Repr

structure FileOptions where
  goPackage : Option String := none
deriving DecidableEq, Repr

structure FileDecl where
  name : Option String := none
  package : Option String := none
  dependencies : List String := []
  /-- Positions of dependencies that are passed on to importers. -/
  publicDependencies : List Int32 := []
  weakDependencies : List Int32 := []
  messages : List MessageDecl := []
  enums : List EnumDecl := []
  services : List ServiceDecl := []
  options : Option FileOptions := none
  /-- The name of the schema language's version; a file of the second version leaves it unset. -/
  dialect : Option String := none
deriving Repr

structure CompilerVersion where
  major : Option Int32 := none
  minor : Option Int32 := none
  patch : Option Int32 := none
  suffix : Option String := none
deriving DecidableEq, Repr

/-- What the compiler asks a plugin to do. -/
structure Request where
  filesToGenerate : List String := []
  parameter : Option String := none
  compilerVersion : Option CompilerVersion := none
  files : List FileDecl := []
deriving Repr

end RpcProxy

import RpcProxy.Options
import RpcProxy.ProxySource

/-!
# Generating proxies

Each file that declares a service gives one output file. Its name follows from the layout, its
imports from the signatures it spells out. A run over many files stops at the first failure and
keeps what it has generated before.
-/

namespace RpcProxy

structure OutputFile where
  name : String
  content : String
deriving DecidableEq, Repr

/-- The import path of the package with the empty message. -/
def emptyPath : String := "google.golang.org/protobuf/types/known/emptypb"

namespace ProtoFile

/-- The Go package of a proxy that has a package of its own. -/
def standalonePackage (file : ProtoFile) : String := file.packageName ++ "proxy"

/-- The directory of the import path below the module that is the root of the output. -/
def directoryInModule (file : ProtoFile) (moduleRoot : String) : Except GenerationError String :=
  if file.importPath = moduleRoot then .ok ""
  else
    match Text.dropBeginning? (moduleRoot ++ "/") file.importPath with
    | some directory => .ok directory
    | none => .error (.outsideModule file.name file.importPath moduleRoot)

/-- The directory and the last element of the file's own name without its extension. -/
def source (file : ProtoFile) : String × String :=
  let stem := (Text.dropEnding? ".proto" file.name).getD file.name
  (Text.cutLast '/' stem).getD ("", stem)

/-- The directory of the output file; an empty one is none. -/
def outputDirectory (file : ProtoFile) (options : Options) : Except GenerationError String :=
  match options.outputRoot, options.layout, options.moduleRoot with
  | some directory, _, _ => .ok directory
  | none, .sourceRelative, _ => .ok file.source.1
  | none, .importPath, none => .ok file.importPath
  | none, .importPath, some moduleRoot => file.directoryInModule moduleRoot

def outputName (file : ProtoFile) (options : Options) : Except GenerationError String := do
  let directory ← file.outputDirectory options
  return String.intercalate "/" (
    (if directory = "" then [] else [directory])
      ++ (if options.standalone then [file.standalonePackage] else [])
      ++ [file.source.2 ++ "_proxy.pb.go"])

/-- The import path whose identifiers stand alone. A proxy in a package of its own has none of the
file's identifiers in reach. -/
def localPath (file : ProtoFile) (options : Options) : String :=
  if options.standalone then "" else file.importPath

/-- The packages of the spelled messages that have to be imported, with the names the messages give
them. Among messages of one package the last one decides. -/
def referencedPackages (file : ProtoFile) (options : Options) : Registry String :=
  let foreign := file.spelled.filter fun message =>
    !message.isEmpty && message.identifier.importPath != file.localPath options
  Registry.ofList (foreign.map fun message => (message.identifier.importPath, message.packageName))

/-- What a file imports, in the order in which aliases are given: packages with a fixed alias, the
file's own package, and the packages of the messages by ascending path. -/
def importRequests (file : ProtoFile) (options : Options) : List (String × String) :=
  (if file.methods.any Method.isUnary then [("context", "context")] else [])
    ++ [("errors", "errors"), ("net", "net"), ("google.golang.org/grpc", "grpc")]
    ++ (if file.spelled.any Message.isEmpty then [(emptyPath, "emptypb")] else [])
    ++ (if options.standalone then [(file.importPath, file.packageName)] else [])
    ++ (file.referencedPackages options).entries

def scope (file : ProtoFile) (options : Options) : Scope where
  localPath := file.localPath options
  imports := (file.importRequests options).foldl
    (fun table (path, name) => table.add path name) .empty

/-- The name of a service's proxy. A service that is alone in its file needs no name of its own. -/
def proxyName (file : ProtoFile) (service : Service) : String :=
  if file.services.length = 1 then "Proxy" else service.name ++ "Proxy"

/-- What is declared for a service. -/
def serviceProxy (file : ProtoFile) (scope : Scope) (service : Service) :
    Except GenerationError ServiceProxy := do
  let own (name : String) : Identifier := ⟨name, file.importPath⟩
  let methods ← service.signatures scope (own service.name)
  return {
    serviceName := service.name
    proxyName := file.proxyName service
    register := scope.refer (own ("Register" ++ service.name ++ "Server"))
    unimplemented := scope.refer (own ("Unimplemented" ++ service.name ++ "Server"))
    methods }

def serviceProxies (file : ProtoFile) (scope : Scope) :
    List Service → Except GenerationError (List ServiceProxy)
  | [] => .ok []
  | service :: rest => do
    let proxy ← file.serviceProxy scope service
    return proxy :: (← file.serviceProxies scope rest)

/-- The Go file for a schema file. -/
def proxySource (file : ProtoFile) (options : Options) : Except GenerationError ProxySource := do
  let scope := file.scope options
  let services ← file.serviceProxies scope file.services
  return {
    packageName := if options.standalone then file.standalonePackage else file.packageName
    imports := scope.imports.imports
    services }

/-- The output file for a schema file, if it declares a service. -/
def output (file : ProtoFile) (options : Options) : Except GenerationError (Option OutputFile) :=
  if file.services.isEmpty then .ok none
  else do
    let name ← file.outputName options
    let source ← file.proxySource options
    return some ⟨name, source.text⟩

end ProtoFile

/-- Generates the files that are marked for it, in order, and hands each output over to a sink as
soon as it is there; `count` outputs have been handed over before. The first failure ends it, and
what the sink has taken by then stays. -/
def handOver {σ : Type} (take : σ → OutputFile → σ) (options : Options) (count : Nat) (sink : σ) :
    List ProtoFile → σ × Except GenerationError Nat
  | [] => (sink, .ok count)
  | file :: rest =>
    if file.generate then
      match file.output options with
      | .error error => (sink, .error error)
      | .ok none => handOver take options count sink rest
      | .ok (some output) => handOver take options (count + 1) (take sink output) rest
    else handOver take options count sink rest

/-- Generates files into a sink. The result is the number of outputs, or the first failure. -/
def generateInto {σ : Type} (take : σ → OutputFile → σ) (options : Options) (sink : σ)
    (files : List ProtoFile) : σ × Except GenerationError Nat :=
  handOver take options 0 sink files

/-- The output of a run over a list of files, complete or up to a failure. -/
structure Run where
  outputs : List OutputFile
  failure : Option GenerationError
deriving DecidableEq, Repr

namespace Run

/-- The run of a list of outputs and what has been returned with it. -/
def ofOutcome : List OutputFile × Except GenerationError Nat → Run
  | (outputs, .ok _) => ⟨outputs, none⟩
  | (outputs, .error error) => ⟨outputs, some error⟩

/-- The run that collects the outputs of files in a list. -/
def ofFiles (options : Options) (files : List ProtoFile) : Run :=
  .ofOutcome (generateInto (fun outputs output => outputs ++ [output]) options [] files)

/-- The outputs of a run without failure. -/
def result (run : Run) : Except GenerationError (List OutputFile) :=
  match run.failure with
  | none => .ok run.outputs
  | some error => .error error

end Run

end RpcProxy

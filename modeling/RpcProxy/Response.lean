import RpcProxy.Generate
import RpcProxy.Linking.FileOptions
import RpcProxy.Schema.OfPool
import RpcProxy.Wire.Key

/-!
# Answering requests

A request is linked, its parameter read, its files brought into Go terms and the wanted ones
generated. The first of these stages that fails decides the error of the response, which then has no
files. The capabilities are declared in every response. A few requests are beyond linking, and get
no response at all.
-/

namespace RpcProxy

structure ResponseFile where
  name : Option String := none
  content : Option String := none
deriving DecidableEq, Repr

/-- What a plugin answers to the compiler. -/
structure Response where
  error : Option String := none
  /-- The features the plugin supports, one bit for each. -/
  supportedFeatures : Option UInt64 := none
  minimumEdition : Option Int32 := none
  maximumEdition : Option Int32 := none
  files : List ResponseFile := []
deriving DecidableEq, Repr

/-- The response that only declares capabilities: optional fields and editions as features, and the
editions from that of the second version of the schema language to the one of 2023. -/
def Response.capabilities : Response where
  supportedFeatures := some 3
  minimumEdition := some 998
  maximumEdition := some 1000

/-- Why a run ends without a response. -/
inductive Breakdown
  /-- Linking knows two dialects by name, and this file has another. -/
  | dialect (unknown : UnknownDialect)
  /-- The options of the file are unusable when the request's own declaration has read them. -/
  | options (file : String)
  /-- No service is known by the full name. -/
  | service (fullName : String)
deriving DecidableEq, Repr

def Breakdown.message : Breakdown → String
  | dialect unknown => unknown.message
  | options file => file ++ ": unusable options"
  | service fullName => "unknown service " ++ Text.quote fullName

/-- Why a request has no generated files. -/
inductive Failure
  | decode (error : Wire.DecodeError)
  | link (error : Linking.LinkError)
  | dialect (unknown : UnknownDialect)
  | parameter (error : ParameterError)
  | generation (error : GenerationError)
  | breakdown (cause : Breakdown)
deriving DecidableEq, Repr

namespace Failure

/-- The failure for options of files. -/
def ofOptionsError : Linking.OptionsError → Failure
  | .unfit => link .unfitOptions
  | .unusable file => breakdown (.options file)

/-- The failure to bring files into Go terms. -/
def ofSchemaError : SchemaError → Failure
  | .dialect unknown => dialect unknown
  | .service fullName => breakdown (.service fullName)

def message : Failure → String
  | decode error =>
    "Parse error: Failed to decode CodeGeneratorRequest (is this running as a protoc plugin?): "
      ++ error.message
  | link error => "Parse error: Failed to create DescriptorPool: " ++ error.message
  | dialect unknown => "Parse error: " ++ unknown.message
  | parameter error => "Invalid plugin parameter: " ++ error.message
  | generation error => "Generation error: " ++ error.message
  | breakdown cause => cause.message

end Failure

namespace Request

/-- The first file whose dialect linking does not know. -/
def unknownDialect? (request : Request) : Option UnknownDialect :=
  (request.files.find? fun decl =>
      decl.dialect.any fun name => name != "proto2" && name != "proto3").map fun decl =>
    ⟨decl.name.getD "", decl.dialect.getD ""⟩

def pool (request : Request) : Except Failure Linking.Pool := do
  if let some unknown := request.unknownDialect? then throw (.breakdown (.dialect unknown))
  let pool ← (Linking.link request.files).mapError .link
  pool.readOptions.mapError .ofOptionsError

/-- The parameter of a request as it is given. -/
def parameterText (request : Request) : String := request.parameter.getD ""

def options (request : Request) : Except Failure Options :=
  (Options.ofParameter request.parameterText).mapError .parameter

/-- The files of a linked request in Go terms, under a mapping from files to Go packages. -/
def schema (request : Request) (packageOf : Registry String) (pool : Linking.Pool) :
    Except Failure (List ProtoFile) :=
  (Schema.ofPool packageOf request.filesToGenerate pool).mapError .ofSchemaError

/-- The options and the files of a request in Go terms. -/
def parse (request : Request) : Except Failure (Options × List ProtoFile) := do
  let pool ← request.pool
  let options ← request.options
  let files ← request.schema options.packageOf pool
  return (options, files)

def outputs (request : Request) : Except Failure (List OutputFile) := do
  let (options, files) ← request.parse
  (Run.ofFiles options files).result.mapError .generation

/-- The response that carries generated files, or the text of a failure. -/
def responseTo : Except Failure (List OutputFile) → Except Breakdown Response
  | .ok outputs =>
    .ok { Response.capabilities with
      files := outputs.map fun output => ⟨some output.name, some output.content⟩ }
  | .error (.breakdown cause) => .error cause
  | .error failure => .ok { Response.capabilities with error := some failure.message }

def respond (request : Request) : Except Breakdown Response := responseTo request.outputs

end Request

end RpcProxy

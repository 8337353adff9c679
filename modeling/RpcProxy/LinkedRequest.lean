import RpcProxy.Descriptor.Read
import RpcProxy.Response

/-!
# Linked requests

A caller that is no plugin reads the parts of a request one by one: it links the request, takes the
parameter or the options in it, and brings the files into Go terms under options of its choice.
-/

namespace RpcProxy

structure LinkedRequest where
  pool : Linking.Pool
  filesToGenerate : List String
  /-- The parameter as it is given. -/
  parameterText : String

namespace LinkedRequest

def ofRequest (request : Request) : Except Failure LinkedRequest := do
  let pool ← request.pool
  return ⟨pool, request.filesToGenerate, request.parameterText⟩

/-- Reads and links a request. -/
def ofBytes (bytes : List UInt8) : Except Failure LinkedRequest := do
  let request ← (Request.decode bytes).mapError .decode
  ofRequest request

def options (linked : LinkedRequest) : Except Failure Options :=
  (Options.ofParameter linked.parameterText).mapError .parameter

def files (linked : LinkedRequest) (options : Options) : Except Failure (List ProtoFile) :=
  (Schema.ofPool options.packageOf linked.filesToGenerate linked.pool).mapError .ofSchemaError

/-- The options that the parameter asks for, and the files in Go terms under them. -/
def parse (linked : LinkedRequest) : Except Failure (Options × List ProtoFile) := do
  let options ← linked.options
  let files ← linked.files options
  return (options, files)

end LinkedRequest

/-- The options and the files in Go terms of the request that the bytes encode. -/
def Request.parseBytes (bytes : List UInt8) : Except Failure (Options × List ProtoFile) := do
  let linked ← LinkedRequest.ofBytes bytes
  linked.parse

end RpcProxy

import RpcProxy.Scope
import RpcProxy.Text.Quoted

/-!
# Signatures of methods

A method becomes a function type in Go. Its parameters and results depend on the shape of the method
alone; the messages and the stream type are referred to in the scope of the generated file.
-/

namespace RpcProxy

/-- A parameter or result type. -/
inductive GoType
  | plain (reference : Reference)
  | pointer (reference : Reference)
deriving DecidableEq, Repr

namespace GoType

/-- The name a type is written with. -/
def reference : GoType → Reference
  | plain reference | pointer reference => reference

/-- The type as it is written. -/
def text : GoType → String
  | plain reference => reference.text
  | pointer reference => "*" ++ reference.text

def error : GoType := plain ⟨none, "error"⟩

def context : GoType := plain ⟨some "context", "Context"⟩

end GoType

/-- The error that a method without an implementation returns. -/
def sentinel : String := "errNotSupported"

/-- The function type of a method under the name of the method. -/
structure Signature where
  name : String
  parameters : List (String × GoType)
  results : List GoType
deriving DecidableEq, Repr

namespace Signature

def parameterText (signature : Signature) : String :=
  String.intercalate ", " (signature.parameters.map fun (name, type) => name ++ " " ++ type.text)

/-- The results as they are written, with parentheses unless there is exactly one. -/
def resultText (signature : Signature) : String :=
  match signature.results with
  | [type] => type.text
  | types => "(" ++ String.intercalate ", " (types.map GoType.text) ++ ")"

/-- The function type as it is written behind a name. -/
def text (signature : Signature) : String :=
  "(" ++ signature.parameterText ++ ") " ++ signature.resultText

/-- The arguments that pass the parameters on. -/
def arguments (signature : Signature) : String :=
  String.intercalate ", " (signature.parameters.map (·.1))

/-- The values returned without an implementation: one for every result, the last one the error. -/
def notSupported (signature : Signature) : String :=
  String.intercalate ", " ((signature.results.dropLast.map fun _ => "nil") ++ [sentinel])

/-- The type of the stream of a method, which the package of the service declares. -/
def streamOf (scope : Scope) (service : Identifier) (method : Method) : GoType :=
  .plain (scope.refer
    { name := service.name ++ "_" ++ method.name ++ "Server", importPath := service.importPath })

/-- The signature of a method of the service that Go knows by the identifier. -/
def ofMethod (scope : Scope) (service : Identifier) (method : Method) : Signature where
  name := method.name
  parameters :=
    match method.shape with
    | .unary => [("ctx", .context), ("req", .pointer (scope.typeOf method.input))]
    | .serverStream =>
      [("req", .pointer (scope.typeOf method.input)),
       ("stream", streamOf scope service method)]
    | .clientStream => [("stream", streamOf scope service method)]
  results :=
    match method.shape with
    | .unary => [.pointer (scope.typeOf method.output), .error]
    | .serverStream | .clientStream => [.error]

end Signature

/-- The first name that has occurred before. -/
def firstRepeated? (seen : List String) : List String → Option String
  | [] => none
  | name :: rest =>
    if seen.contains name then some name else firstRepeated? (name :: seen) rest

/-- Why no code can be generated for a file. -/
inductive GenerationError
  /-- Two methods of a service have one Go name. -/
  | repeatedMethod (service method : String)
  /-- The Go package of the file is not inside the module that is the root of the output. -/
  | outsideModule (file importPath moduleRoot : String)
deriving DecidableEq, Repr

def GenerationError.message : GenerationError → String
  | repeatedMethod service method =>
    "service " ++ service ++ " declares method " ++ method ++ " more than once"
  | outsideModule file importPath moduleRoot =>
    file ++ ": import path " ++ Text.quote importPath ++ " does not match module prefix "
      ++ Text.quote moduleRoot

/-- The signatures of the methods of a service, by ascending name. -/
def Service.signatures (service : Service) (scope : Scope) (ident : Identifier) :
    Except GenerationError (List Signature) :=
  match firstRepeated? [] (service.methods.map (·.name)) with
  | some method => .error (.repeatedMethod service.name method)
  | none =>
    .ok (Registry.ofList (service.methods.map fun method =>
      (method.name, Signature.ofMethod scope ident method))).values

end RpcProxy

/-!
# Schemas in Go terms

What the generator works on: the services of a file with the Go names and Go packages of everything
they mention. Nothing here depends on how a schema was written down or linked.
-/

namespace RpcProxy

/-- The version of the schema language. -/
inductive Dialect
  | proto2
  | proto3
  | editions
deriving DecidableEq, Repr

/-- The dialect of a name in a file. Files of the second version give no name. -/
def Dialect.ofName? (name : String) : Option Dialect :=
  if name = "" ∨ name = "proto2" then some .proto2
  else if name = "proto3" then some .proto3
  else if name = "editions" then some .editions
  else none

/-- A Go identifier and the import path of the package that declares it. -/
structure Identifier where
  name : String
  importPath : String
deriving DecidableEq, Repr

/-- A message as a method mentions it. -/
structure Message where
  /-- The name in the schema, package included. -/
  fullName : String
  identifier : Identifier
  /-- The Go package name of the file that declares the message. -/
  packageName : String
deriving DecidableEq, Repr

/-- A method with its Go name. -/
structure Method where
  name : String
  input : Message
  output : Message
  clientStreaming : Bool
  serverStreaming : Bool
deriving DecidableEq, Repr

/-- How a method appears in Go. A client that sends a stream hides both messages behind the stream,
whatever the server sends. -/
inductive CallShape
  | unary
  | serverStream
  | clientStream
deriving DecidableEq, Repr

namespace Method

def shape (method : Method) : CallShape :=
  if method.clientStreaming then .clientStream
  else if method.serverStreaming then .serverStream
  else .unary

/-- Whether nothing is streamed. -/
def isUnary (method : Method) : Bool := method.shape == .unary

/-- The messages that the signature of a method spells out. -/
def spelled (method : Method) : List Message :=
  match method.shape with
  | .unary => [method.input, method.output]
  | .serverStream => [method.input]
  | .clientStream => []

end Method

/-- A service with its Go name and its methods in the order of their declaration. -/
structure Service where
  name : String
  methods : List Method
deriving DecidableEq, Repr

structure ProtoFile where
  name : String
  dialect : Dialect
  packageName : String
  importPath : String
  /-- Whether code is wanted for the file. -/
  generate : Bool
  services : List Service
deriving DecidableEq, Repr

namespace ProtoFile

def methods (file : ProtoFile) : List Method := file.services.flatMap (·.methods)

/-- The messages spelled out in the signatures of all methods. -/
def spelled (file : ProtoFile) : List Message := file.methods.flatMap Method.spelled

end ProtoFile

end RpcProxy

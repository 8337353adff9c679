import RpcProxy.Signature

/-!
# Go files with proxies

For every service a generated file declares a proxy, which is a struct with one function field for
each method, and an adapter, which implements the server interface of the service by calling these
functions. A field that is not set answers with an error that all services of the file share. The
file is described by its parts first and written line by line.
-/

namespace RpcProxy

/-- What is declared for one service. -/
structure ServiceProxy where
  /-- The Go name of the service. -/
  serviceName : String
  /-- The type with the function fields. -/
  proxyName : String
  /-- The function that registers a server. -/
  register : Reference
  /-- The type that the adapter embeds. -/
  unimplemented : Reference
  methods : List Signature
deriving DecidableEq, Repr

structure ProxySource where
  packageName : String
  imports : List Import
  services : List ServiceProxy
deriving DecidableEq, Repr

namespace ServiceProxy

/-- The type that implements the server interface. -/
def adapterName (service : ServiceProxy) : String :=
  GoName.unexported service.serviceName ++ "Server"

def proxyLines (service : ServiceProxy) : List String :=
  ["// " ++ service.proxyName ++ " allows to create " ++ service.serviceName ++ " proxy servers.",
   "type " ++ service.proxyName ++ " struct \x7b"]
    ++ (service.methods.map fun method => "\t" ++ method.name ++ " func" ++ method.text)
    ++ ["\x7d"]

/-- The method that runs a server. -/
def serveLines (service : ServiceProxy) : List String :=
  ["// Serve starts serving the proxy server on the given listener with the specified options.",
   "func (p *" ++ service.proxyName
     ++ ") Serve(l net.Listener, opts ...grpc.ServerOption) error \x7b",
   "\tsrv := grpc.NewServer(opts...)",
   "\t" ++ service.register.text ++ "(srv, &" ++ service.adapterName ++ "\x7bproxy: p\x7d)",
   "",
   "\treturn srv.Serve(l)",
   "\x7d"]

def adapterLines (service : ServiceProxy) : List String :=
  ["type " ++ service.adapterName ++ " struct \x7b",
   "\t" ++ service.unimplemented.text,
   "",
   "\tproxy *" ++ service.proxyName,
   "\x7d"]

/-- The adapter's method for a method of the service. -/
def methodLines (service : ServiceProxy) (method : Signature) : List String :=
  ["func (s *" ++ service.adapterName ++ ") " ++ method.name ++ method.text ++ " \x7b",
   "\tfn := s.proxy." ++ method.name,
   "\tif fn == nil \x7b",
   "\t\treturn " ++ method.notSupported,
   "\t\x7d",
   "",
   "\treturn fn(" ++ method.arguments ++ ")",
   "\x7d"]

/-- The declaration of the shared error. -/
def sentinelLines : List String :=
  ["var " ++ sentinel ++ " = errors.New(\"operation not supported\")"]

/-- The declarations of a service, each a block of lines. The first service of a file also declares
the shared error. -/
def blocks (service : ServiceProxy) (isFirst : Bool) : List (List String) :=
  [service.proxyLines, service.serveLines]
    ++ (if isFirst then [sentinelLines] else [])
    ++ [service.adapterLines]
    ++ service.methods.map service.methodLines

end ServiceProxy

namespace ProxySource

def headerLines : List String :=
  ["// Code generated by protoc-gen-grpcproxy. DO NOT EDIT."]

def packageLines (source : ProxySource) : List String := ["package " ++ source.packageName]

def importLines (source : ProxySource) : List String :=
  ["import ("]
    ++ (source.imports.map fun line => "\t" ++ line.qualifier ++ " \"" ++ line.path ++ "\"")
    ++ [")"]

def serviceBlocks : List ServiceProxy → List (List String)
  | [] => []
  | first :: rest => first.blocks true ++ rest.flatMap fun service => service.blocks false

/-- The blocks of a file. -/
def blocks (source : ProxySource) : List (List String) :=
  [headerLines, source.packageLines, source.importLines] ++ serviceBlocks source.services

/-- Blocks one after another, with an empty line between neighbours. -/
def spaced : List (List String) → List String
  | [] => []
  | [block] => block
  | block :: next :: rest => block ++ "" :: spaced (next :: rest)

def lines (source : ProxySource) : List String := spaced source.blocks

/-- The text of a file. Every line ends with a line feed. -/
def text (source : ProxySource) : String := String.join (source.lines.map (· ++ "\n"))

end ProxySource

end RpcProxy

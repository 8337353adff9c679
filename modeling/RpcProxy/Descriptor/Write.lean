import RpcProxy.Descriptor
import RpcProxy.Wire.Writer

/-!
# Writing requests

The canonical bytes of a request: the fields of each record in ascending order of their numbers, and
lists entry by entry.
-/

namespace RpcProxy

open Wire

def FieldDecl.encode (field : FieldDecl) : List UInt8 :=
  writeOption (writeText 1) field.name
    ++ writeOption (writeInt32 3) field.number
    ++ writeOption (writeInt32 4) field.label
    ++ writeOption (writeInt32 5) field.kind
    ++ writeOption (writeText 6) field.typeName

def EnumValueDecl.encode (value : EnumValueDecl) : List UInt8 :=
  writeOption (writeText 1) value.name ++ writeOption (writeInt32 2) value.number

def EnumDecl.encode (enum : EnumDecl) : List UInt8 :=
  writeOption (writeText 1) enum.name
    ++ enum.values.flatMap fun value => writeBytes 2 value.encode

mutual

def MessageDecl.encode : MessageDecl → List UInt8
  | ⟨name, fields, messages, enums⟩ =>
    writeOption (writeText 1) name
      ++ (fields.flatMap fun field => writeBytes 2 field.encode)
      ++ MessageDecl.encodeNested messages
      ++ enums.flatMap fun enum => writeBytes 4 enum.encode

/-- The messages declared inside a message. -/
def MessageDecl.encodeNested : List MessageDecl → List UInt8
  | [] => []
  | message :: rest => writeBytes 3 message.encode ++ MessageDecl.encodeNested rest

end

def MethodDecl.encode (method : MethodDecl) : List UInt8 :=
  writeOption (writeText 1) method.name
    ++ writeOption (writeText 2) method.inputType
    ++ writeOption (writeText 3) method.outputType
    ++ writeOption (writeBool 5) method.clientStreaming
    ++ writeOption (writeBool 6) method.serverStreaming

def ServiceDecl.encode (service : ServiceDecl) : List UInt8 :=
  writeOption (writeText 1) service.name
    ++ service.methods.flatMap fun method => writeBytes 2 method.encode

def FileOptions.encode (options : FileOptions) : List UInt8 :=
  writeOption (writeText 11) options.goPackage

def FileDecl.encode (file : FileDecl) : List UInt8 :=
  writeOption (writeText 1) file.name
    ++ writeOption (writeText 2) file.package
    ++ file.dependencies.flatMap (writeText 3)
    ++ (file.messages.flatMap fun message => writeBytes 4 message.encode)
    ++ (file.enums.flatMap fun enum => writeBytes 5 enum.encode)
    ++ (file.services.flatMap fun service => writeBytes 6 service.encode)
    ++ writeOption (fun options => writeBytes 8 options.encode) file.options
    ++ file.publicDependencies.flatMap (writeInt32 10)
    ++ file.weakDependencies.flatMap (writeInt32 11)
    ++ writeOption (writeText 12) file.dialect

def CompilerVersion.encode (version : CompilerVersion) : List UInt8 :=
  writeOption (writeInt32 1) version.major
    ++ writeOption (writeInt32 2) version.minor
    ++ writeOption (writeInt32 3) version.patch
    ++ writeOption (writeText 4) version.suffix

/-- The canonical bytes of a request. -/
def Request.encode (request : Request) : List UInt8 :=
  request.filesToGenerate.flatMap (writeText 1)
    ++ writeOption (writeText 2) request.parameter
    ++ writeOption (fun version => writeBytes 3 version.encode) request.compilerVersion
    ++ request.files.flatMap fun file => writeBytes 15 file.encode

end RpcProxy

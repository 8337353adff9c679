import RpcProxy.Descriptor
import RpcProxy.Wire.Reader

/-!
# Reading requests

Each kind of record has one function that reads a field of it by the field's number. A scalar that
comes again takes the later value, a list grows at its end, and the options of a file and the
version of the compiler are merged. Fields of other numbers are skipped.
-/

namespace RpcProxy

open Wire

def FieldDecl.readField (budget : Nat) : FieldReader FieldDecl := fun key field bytes =>
  match key.number with
  | 1 => storeField "FieldDescriptorProto.name" (fun name => { field with name := some name })
      (readText key.wire bytes)
  | 3 => storeField "FieldDescriptorProto.number"
      (fun number => { field with number := some number }) (readInt32 key.wire bytes)
  | 4 => storeField "FieldDescriptorProto.label" (fun label => { field with label := some label })
      (readInt32 key.wire bytes)
  | 5 => storeField "FieldDescriptorProto.r#type" (fun kind => { field with kind := some kind })
      (readInt32 key.wire bytes)
  | 6 => storeField "FieldDescriptorProto.type_name"
      (fun name => { field with typeName := some name }) (readText key.wire bytes)
  | _ => skipField budget key field bytes

def EnumValueDecl.readField (budget : Nat) : FieldReader EnumValueDecl := fun key value bytes =>
  match key.number with
  | 1 => storeField "EnumValueDescriptorProto.name" (fun name => { value with name := some name })
      (readText key.wire bytes)
  | 2 => storeField "EnumValueDescriptorProto.number"
      (fun number => { value with number := some number }) (readInt32 key.wire bytes)
  | _ => skipField budget key value bytes

def EnumDecl.readField (budget : Nat) : FieldReader EnumDecl := fun key enum bytes =>
  match key.number with
  | 1 => storeField "EnumDescriptorProto.name" (fun name => { enum with name := some name })
      (readText key.wire bytes)
  | 2 => storeField "EnumDescriptorProto.value"
      (fun value => { enum with values := enum.values ++ [value] })
      (readMessage (enter EnumValueDecl.readField budget) key.wire {} bytes)
  | _ => skipField budget key enum bytes

/-- Reads a field of a message, given the reader for the messages declared inside it. -/
def MessageDecl.readFieldWith (inside : Option (FieldReader MessageDecl)) (budget : Nat) :
    FieldReader MessageDecl := fun key message bytes =>
  match key.number with
  | 1 => storeField "DescriptorProto.name" (fun name => { message with name := some name })
      (readText key.wire bytes)
  | 2 => storeField "DescriptorProto.field"
      (fun field => { message with fields := message.fields ++ [field] })
      (readMessage (enter FieldDecl.readField budget) key.wire {} bytes)
  | 3 => storeField "DescriptorProto.nested_type"
      (fun nested => { message with messages := message.messages ++ [nested] })
      (readMessage inside key.wire {} bytes)
  | 4 => storeField "DescriptorProto.enum_type"
      (fun enum => { message with enums := message.enums ++ [enum] })
      (readMessage (enter EnumDecl.readField budget) key.wire {} bytes)
  | _ => skipField budget key message bytes

/-- Reads a field of a message. Messages declared inside it are read with one less in the budget. -/
def MessageDecl.readField : (budget : Nat) → FieldReader MessageDecl
  | 0 => readFieldWith none 0
  | budget + 1 => readFieldWith (some (readField budget)) (budget + 1)

def MethodDecl.readField (budget : Nat) : FieldReader MethodDecl := fun key method bytes =>
  match key.number with
  | 1 => storeField "MethodDescriptorProto.name" (fun name => { method with name := some name })
      (readText key.wire bytes)
  | 2 => storeField "MethodDescriptorProto.input_type"
      (fun name => { method with inputType := some name }) (readText key.wire bytes)
  | 3 => storeField "MethodDescriptorProto.output_type"
      (fun name => { method with outputType := some name }) (readText key.wire bytes)
  | 5 => storeField "MethodDescriptorProto.client_streaming"
      (fun streaming => { method with clientStreaming := some streaming })
      (readBool key.wire bytes)
  | 6 => storeField "MethodDescriptorProto.server_streaming"
      (fun streaming => { method with serverStreaming := some streaming })
      (readBool key.wire bytes)
  | _ => skipField budget key method bytes

def ServiceDecl.readField (budget : Nat) : FieldReader ServiceDecl := fun key service bytes =>
  match key.number with
  | 1 => storeField "ServiceDescriptorProto.name" (fun name => { service with name := some name })
      (readText key.wire bytes)
  | 2 => storeField "ServiceDescriptorProto.method"
      (fun method => { service with methods := service.methods ++ [method] })
      (readMessage (enter MethodDecl.readField budget) key.wire {} bytes)
  | _ => skipField budget key service bytes

def FileOptions.readField (budget : Nat) : FieldReader FileOptions := fun key options bytes =>
  match key.number with
  | 11 => storeField "FileOptions.go_package"
      (fun option => { options with goPackage := some option }) (readText key.wire bytes)
  | _ => skipField budget key options bytes

def FileDecl.readField (budget : Nat) : FieldReader FileDecl := fun key file bytes =>
  match key.number with
  | 1 => storeField "FileDescriptorProto.name" (fun name => { file with name := some name })
      (readText key.wire bytes)
  | 2 => storeField "FileDescriptorProto.package" (fun name => { file with package := some name })
      (readText key.wire bytes)
  | 3 => storeField "FileDescriptorProto.dependency"
      (fun name => { file with dependencies := file.dependencies ++ [name] })
      (readText key.wire bytes)
  | 4 => storeField "FileDescriptorProto.message_type"
      (fun message => { file with messages := file.messages ++ [message] })
      (readMessage (enter MessageDecl.readField budget) key.wire {} bytes)
  | 5 => storeField "FileDescriptorProto.enum_type"
      (fun enum => { file with enums := file.enums ++ [enum] })
      (readMessage (enter EnumDecl.readField budget) key.wire {} bytes)
  | 6 => storeField "FileDescriptorProto.service"
      (fun service => { file with services := file.services ++ [service] })
      (readMessage (enter ServiceDecl.readField budget) key.wire {} bytes)
  | 8 => storeField "FileDescriptorProto.options"
      (fun options => { file with options := some options })
      (readMessage (enter FileOptions.readField budget) key.wire (file.options.getD {}) bytes)
  | 10 => storeField "FileDescriptorProto.public_dependency"
      (fun positions => { file with publicDependencies := positions })
      (readInt32s key.wire file.publicDependencies bytes)
  | 11 => storeField "FileDescriptorProto.weak_dependency"
      (fun positions => { file with weakDependencies := positions })
      (readInt32s key.wire file.weakDependencies bytes)
  | 12 => storeField "FileDescriptorProto.syntax"
      (fun name => { file with dialect := some name }) (readText key.wire bytes)
  | _ => skipField budget key file bytes

def CompilerVersion.readField (budget : Nat) : FieldReader CompilerVersion :=
  fun key version bytes =>
    match key.number with
    | 1 => storeField "Version.major" (fun number => { version with major := some number })
        (readInt32 key.wire bytes)
    | 2 => storeField "Version.minor" (fun number => { version with minor := some number })
        (readInt32 key.wire bytes)
    | 3 => storeField "Version.patch" (fun number => { version with patch := some number })
        (readInt32 key.wire bytes)
    | 4 => storeField "Version.suffix" (fun text => { version with suffix := some text })
        (readText key.wire bytes)
    | _ => skipField budget key version bytes

def Request.readField (budget : Nat) : FieldReader Request := fun key request bytes =>
  match key.number with
  | 1 => storeField "CodeGeneratorRequest.file_to_generate"
      (fun name => { request with filesToGenerate := request.filesToGenerate ++ [name] })
      (readText key.wire bytes)
  | 2 => storeField "CodeGeneratorRequest.parameter"
      (fun text => { request with parameter := some text }) (readText key.wire bytes)
  | 3 => storeField "CodeGeneratorRequest.compiler_version"
      (fun version => { request with compilerVersion := some version })
      (readMessage (enter CompilerVersion.readField budget) key.wire
        (request.compilerVersion.getD {}) bytes)
  | 15 => storeField "CodeGeneratorRequest.proto_file"
      (fun file => { request with files := request.files ++ [file] })
      (readMessage (enter FileDecl.readField budget) key.wire {} bytes)
  | _ => skipField budget key request bytes

/-- How many messages may stand inside one another below a request. -/
def Request.depthLimit : Nat := 100

def Request.decode (bytes : List UInt8) : Except DecodeError Request :=
  readAll (readField depthLimit) {} bytes

end RpcProxy

import RpcProxy.Response
import RpcProxy.Wire.Reader
import RpcProxy.Wire.Writer

/-!
# Responses as bytes

The fields of a response are written in ascending order of their numbers. Reading takes the fields
in any order and skips those with other numbers.
-/

namespace RpcProxy

open Wire

def ResponseFile.encode (file : ResponseFile) : List UInt8 :=
  writeOption (writeText 1) file.name ++ writeOption (writeText 15) file.content

def Response.encode (response : Response) : List UInt8 :=
  writeOption (writeText 1) response.error
    ++ writeOption (fun features => writeNumber 2 features.toNat) response.supportedFeatures
    ++ writeOption (writeInt32 3) response.minimumEdition
    ++ writeOption (writeInt32 4) response.maximumEdition
    ++ response.files.flatMap fun file => writeBytes 15 file.encode

def ResponseFile.readField (budget : Nat) : FieldReader ResponseFile := fun key file bytes =>
  match key.number with
  | 1 => storeField "File.name" (fun name => { file with name := some name })
      (readText key.wire bytes)
  | 15 => storeField "File.content" (fun content => { file with content := some content })
      (readText key.wire bytes)
  | _ => skipField budget key file bytes

def Response.readField (budget : Nat) : FieldReader Response := fun key response bytes =>
  match key.number with
  | 1 => storeField "CodeGeneratorResponse.error"
      (fun error => { response with error := some error }) (readText key.wire bytes)
  | 2 => storeField "CodeGeneratorResponse.supported_features"
      (fun features => { response with supportedFeatures := some features })
      (readUInt64 key.wire bytes)
  | 3 => storeField "CodeGeneratorResponse.minimum_edition"
      (fun edition => { response with minimumEdition := some edition }) (readInt32 key.wire bytes)
  | 4 => storeField "CodeGeneratorResponse.maximum_edition"
      (fun edition => { response with maximumEdition := some edition }) (readInt32 key.wire bytes)
  | 15 => storeField "CodeGeneratorResponse.file"
      (fun file => { response with files := response.files ++ [file] })
      (readMessage (enter ResponseFile.readField budget) key.wire {} bytes)
  | _ => skipField budget key response bytes

def Response.decode (bytes : List UInt8) : Except DecodeError Response :=
  readAll (readField 100) {} bytes

end RpcProxy

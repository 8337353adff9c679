import RpcProxy.Descriptor.Read
import RpcProxy.Descriptor.Write
import RpcProxy.Linking.Shape

/-!
# Options of files under a declaration of their own

The options of a file are a message like any other. If the linked files declare that message
themselves, the options of every file are read by this declaration and written again before anything
is taken from them.
-/

namespace RpcProxy.Linking

open Wire

/-- The full name of the message that holds the options of a file. -/
def fileOptionsName : String := "google.protobuf.FileOptions"

/-- Why options cannot be kept under a declaration of their own. -/
inductive OptionsError
  /-- The declaration does not fit the options. -/
  | unfit
  /-- What the declaration makes of the options of a file are no options. -/
  | unusable (file : String)
deriving DecidableEq, Repr

/-- The bytes of options as a declaration reads and writes them. -/
def reshapeOptions (shapes : Shapes) (options : FileOptions) : Except OptionsError (List UInt8) :=
  match readAll (readShaped shapes Request.depthLimit fileOptionsName) [] options.encode with
  | .ok slots => .ok (writeSlots slots)
  | .error _ => .error .unfit

/-- The options of a file that are left in the bytes a declaration has written. -/
def optionsLeft (file : String) (bytes : List UInt8) : Except OptionsError FileOptions :=
  match readAll (FileOptions.readField Request.depthLimit) {} bytes with
  | .ok options => .ok options
  | .error _ => .error (.unusable file)

namespace LinkedFile

/-- The bytes of a file's options, if it has any, as a declaration reads and writes them. -/
def reshapedOptions (shapes : Shapes) (file : LinkedFile) :
    Except OptionsError (Option (List UInt8)) :=
  match file.decl.options with
  | some options => (reshapeOptions shapes options).map some
  | none => .ok none

/-- A file with the options that are left in the bytes a declaration has written. -/
def withOptionsLeft (file : LinkedFile) : Option (List UInt8) → Except OptionsError LinkedFile
  | some bytes => do
    let options ← optionsLeft (file.decl.name.getD "") bytes
    return { file with decl := { file.decl with options := some options } }
  | none => .ok file

end LinkedFile

/-- The files of a pool with their options as far as the pool itself declares how to read them. The
declaration has to fit the options of all files before those of one can be unusable. -/
def Pool.readOptions (pool : Pool) : Except OptionsError Pool := do
  if (pool.message? fileOptionsName).isNone then return pool
  let reshaped ← pool.files.mapM fun file => do
    return (file, ← file.reshapedOptions pool.shapes)
  let files ← reshaped.mapM fun (file, bytes) => file.withOptionsLeft bytes
  return { pool with files }

end RpcProxy.Linking

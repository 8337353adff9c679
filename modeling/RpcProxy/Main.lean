import RpcProxy.CommandLine

/-!
# The program

The operations of the system that it runs on, and the call that is made on them.
-/

namespace RpcProxy.CommandLine

/-- The error of a file system in the words of the library. -/
def systemError : IO.Error → SystemError
  | .noFileOrDirectory .. => .notFound
  | .alreadyExists .. => .alreadyExists
  | .inappropriateType _ code _ => if code = 21 then .isDirectory else .notDirectory
  | .invalidArgument _ code _ => if code = 22 then .nulByte else .nameTooLong
  | error => .other (toString error)

def attempt {α : Type} (operation : IO α) : ExceptT SystemError IO α := .mk do
  try return .ok (← operation)
  catch error => return .error (systemError error)

/-- The file system of the computer. A directory is what cannot be read for being one. -/
def computer : FileSystem IO where
  makeDirectory path := attempt (IO.FS.createDir path.text)
  isDirectory path := do
    match ← (attempt (IO.FS.readBinFile path.text)).run with
    | .error .isDirectory => return true
    | _ => return false
  writeFile path content := attempt (IO.FS.writeBinFile path.text ⟨content.toArray⟩)
  readFile path := return (← attempt (IO.FS.readBinFile path.text)).data.toList

def standardInput : IO (List UInt8) := return (← (← IO.getStdin).readBinToEnd).data.toList

end RpcProxy.CommandLine

open RpcProxy.CommandLine in
def main (arguments : List String) : IO UInt32 := do
  let report ← call computer standardInput arguments
  let output ← IO.getStdout
  output.write ⟨report.output.toArray⟩
  output.flush
  IO.eprint (report.errorText.getD (report.remark ++ "\n"))
  return report.exitCode.toUInt32

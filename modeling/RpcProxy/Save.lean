import RpcProxy.FileTree
import RpcProxy.Response

/-!
# Saving responses

The files of a response are written below a directory, one after another. A name that could lead out
of the directory is refused before anything is written for it; what was written before stays.
-/

namespace RpcProxy

/-- Why a file of a response is not saved. -/
inductive SaveError
  | refusedName (name : String)
  | system (error : SystemError)
deriving DecidableEq, Repr

def SaveError.message : SaveError → String
  | refusedName name =>
    "Generation error: refusing to write invalid output path " ++ Text.quote name
  | system error => "IO error: " ++ error.message

/-- Whether the name of a file is empty, absolute, or goes up from some directory. -/
def ResponseFile.isRefused (file : ResponseFile) : Bool :=
  let name := file.name.getD ""
  name == "" || name.toList.head? == some '/' || (Text.split '/' name).contains ".."

namespace FileSystem

variable {m : Type → Type} [Monad m] (system : FileSystem m)

/-- Saves one file of a response below a directory. What is not set is empty. -/
def saveFile (directory : String) (file : ResponseFile) : ExceptT SaveError m Unit :=
  if file.isRefused then throw (.refusedName (file.name.getD ""))
  else
    let path := Path.below directory (file.name.getD "")
    (system.save path (Wire.utf8 (file.content.getD ""))).adapt .system

/-- Saves files below a directory, up to the first that fails, and returns the names written. -/
def saveFiles (directory : String) : List ResponseFile → ExceptT SaveError m (List String)
  | [] => return []
  | file :: rest => do
    system.saveFile directory file
    return file.name.getD "" :: (← saveFiles directory rest)

end FileSystem

/-- Saves files below a directory of a tree, up to the first that fails, and returns what the tree
has become and the names written. -/
def FileTree.saveFiles (tree : FileTree) (directory : String) (files : List ResponseFile) :
    FileTree × Except SaveError (List String) :=
  ((system.saveFiles directory files).run.run tree).swap

end RpcProxy

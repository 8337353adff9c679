import RpcProxy.Text.Split
import RpcProxy.Wire.Writer

/-!
# File systems

What a program asks of a file system is a few operations on paths, in whatever surroundings it runs.
Making the directories around a file and saving the file are composed of them here, once for all
surroundings.
-/

namespace RpcProxy

/-- What a file system answers when it refuses. -/
inductive SystemError
  | notFound
  | alreadyExists
  | notDirectory
  | isDirectory
  | nameTooLong
  | nulByte
  | other (text : String)
deriving DecidableEq, Repr

def SystemError.message : SystemError → String
  | notFound => "No such file or directory (os error 2)"
  | alreadyExists => "File exists (os error 17)"
  | notDirectory => "Not a directory (os error 20)"
  | isDirectory => "Is a directory (os error 21)"
  | nameTooLong => "File name too long (os error 36)"
  | nulByte => "file name contained an unexpected NUL byte"
  | other text => text

/-- A path, which is its text: names between slashes, from the root if it starts with one. -/
structure Path where
  text : String
deriving DecidableEq, Repr

namespace Path

/-- The pieces of a path between its slashes, of which some may be empty. -/
def pieces (path : Path) : List String := Text.split '/' path.text

def below (directory name : String) : Path :=
  if directory = "" ∨ directory.toList.getLast? = some '/' then ⟨directory ++ name⟩
  else ⟨directory ++ "/" ++ name⟩

def isAbsolute (path : Path) : Bool := path.text.toList.head? == some '/'

/-- Whether the path ends in a slash, which only a directory allows. -/
def isClosed (path : Path) : Bool := path.text.toList.getLast? == some '/'

/-- The names of a path. Repeated slashes count once. -/
def names (path : Path) : List String := path.pieces.filter (· ≠ "")

def size (path : Path) : Nat := (Wire.utf8 path.text).length

/-- Whether a piece leads nowhere, given those before it, innermost first. Nothing between two
slashes leads nowhere, and neither does a dot, but for one at the start of a relative path. -/
def isIdle (piece : String) (outer : List String) : Bool :=
  piece == "" || piece == "." && !outer.isEmpty

/-- Drops the innermost pieces that lead nowhere. -/
def dropIdle : List String → List String
  | [] => []
  | piece :: outer => if isIdle piece outer then dropIdle outer else piece :: outer

/-- The directory that has to be there for what a path leads to. It is empty if that is where the
path starts. -/
def parent (path : Path) : Path :=
  ⟨String.intercalate "/" (dropIdle (dropIdle path.pieces.reverse).tail).reverse⟩

end Path

structure FileSystem (m : Type → Type) where
  /-- Makes a directory in one that is there. -/
  makeDirectory : Path → ExceptT SystemError m Unit
  isDirectory : Path → m Bool
  /-- Writes a file in a directory that is there, over the file of that name. -/
  writeFile : Path → List UInt8 → ExceptT SystemError m Unit
  readFile : Path → ExceptT SystemError m (List UInt8)

namespace FileSystem

variable {m : Type → Type} [Monad m] (system : FileSystem m)

/-- Makes a directory, unless there is one already. -/
def ensureDirectory (path : Path) : ExceptT SystemError m Unit :=
  tryCatch (system.makeDirectory path) fun error => do
    if ← system.isDirectory path then return () else throw error

/-- Makes the directory that pieces lead to, innermost first, and those around it as far as they are
missing. It is tried itself before those around it. -/
def makeAround : List String → ExceptT SystemError m Unit
  | [] => return ()
  | piece :: outer =>
    if Path.isIdle piece outer then makeAround outer
    else
      let path : Path := ⟨String.intercalate "/" (piece :: outer).reverse⟩
      tryCatch (system.ensureDirectory path) fun error =>
        if error = .notFound then do
          makeAround outer
          system.ensureDirectory path
        else throw error

/-- Makes a directory and those around it, as far as they are missing. -/
def makeDirectories (path : Path) : ExceptT SystemError m Unit :=
  system.makeAround path.pieces.reverse

/-- Writes a file and makes the directories around it that are missing. -/
def save (path : Path) (content : List UInt8) : ExceptT SystemError m Unit := do
  system.makeDirectories path.parent
  system.writeFile path content

end FileSystem

end RpcProxy

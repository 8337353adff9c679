import RpcProxy.FileSystem

/-!
# Trees of files

A tree of directories and files, with a directory that relative paths start from. Nodes are kept
under the list of names that leads to them from the root, which itself is always there. The
operations refuse what a file system refuses, with its numbers of errors. What is composed of them
leaves what it has done before it was refused.
-/

namespace RpcProxy

/-- A directory or a file with its content. -/
inductive Node
  | directory
  | file (content : List UInt8)
deriving DecidableEq, Repr

structure FileTree where
  /-- The directory that relative paths start from. -/
  here : List String
  nodes : List (List String × Node)
deriving DecidableEq, Repr

/-- Why a change of a tree has ended early, and the tree as it has left it. -/
structure Stop (ε : Type) where
  error : ε
  tree : FileTree
deriving DecidableEq, Repr

namespace FileTree

/-- The tree with an empty directory to start from. -/
def empty : FileTree := ⟨["work"], [(["work"], .directory)]⟩

/-- The node at a place. -/
def at? (tree : FileTree) (place : List String) : Option Node :=
  if place = [] then some .directory
  else (tree.nodes.find? fun node => node.1 == place).map (·.2)

/-- Puts a node at a place, over the one there. -/
def put (tree : FileTree) (place : List String) (node : Node) : FileTree :=
  { tree with nodes := (place, node) :: tree.nodes.filter fun other => other.1 != place }

/-- The most bytes a name may have. -/
def nameLimit : Nat := 255

/-- The most bytes the text of a path may have. -/
def pathLimit : Nat := 4095

/-- Goes one step from a place, which has to be a directory. What the step leads to need not be
there. -/
def step (tree : FileTree) (place : List String) (name : String) :
    Except SystemError (List String) :=
  match tree.at? place with
  | none => .error .notFound
  | some (.file _) => .error .notDirectory
  | some .directory =>
    if name = "." then .ok place
    else if name = ".." then .ok place.dropLast
    else if nameLimit < (Wire.utf8 name).length then .error .nameTooLong
    else .ok (place ++ [name])

/-- Goes along names from a place. -/
def walk (tree : FileTree) (place : List String) : List String → Except SystemError (List String)
  | [] => .ok place
  | name :: rest => do
    let place ← tree.step place name
    walk tree place rest

/-- The place that a path starts from: the root or the starting directory. A text that no path can
have is refused. -/
def start (tree : FileTree) (path : Path) : Except SystemError (List String) :=
  if path.text.toList.contains '\x00' then .error .nulByte
  else if pathLimit < path.size then .error .nameTooLong
  else .ok (if path.isAbsolute then [] else tree.here)

def locate (tree : FileTree) (path : Path) : Except SystemError (List String) := do
  let place ← tree.start path
  tree.walk place path.names

def makeDirectory (tree : FileTree) (path : Path) : Except SystemError FileTree := do
  let place ← tree.locate path
  match tree.at? place with
  | none => return tree.put place .directory
  | some _ => throw .alreadyExists

def isDirectory (tree : FileTree) (path : Path) : Bool :=
  match tree.locate path with
  | .ok place => tree.at? place == some .directory
  | .error _ => false

def writeFile (tree : FileTree) (path : Path) (content : List UInt8) :
    Except SystemError FileTree := do
  let place ← tree.locate path
  if path.isClosed then throw .isDirectory
  match tree.at? place with
  | some .directory => throw .isDirectory
  | _ => return tree.put place (.file content)

def readFile (tree : FileTree) (path : Path) : Except SystemError (List UInt8) := do
  let place ← tree.locate path
  match tree.at? place with
  | none => throw .notFound
  | some .directory => throw .isDirectory
  | some (.file content) => if path.isClosed then throw .notDirectory else return content

/-- A change of a tree as a step of a program. A change that is refused leaves the tree. -/
def change (operation : FileTree → Except SystemError FileTree) :
    ExceptT SystemError (StateM FileTree) Unit := .mk fun tree =>
  match operation tree with
  | .ok later => (.ok (), later)
  | .error error => (.error error, tree)

/-- The file system that a tree is. -/
def system : FileSystem (StateM FileTree) where
  makeDirectory path := change (·.makeDirectory path)
  isDirectory path := fun tree => (tree.isDirectory path, tree)
  writeFile path content := change (·.writeFile path content)
  readFile path := .mk fun tree => (tree.readFile path, tree)

/-- What a program that changes a tree makes of it. -/
def after {ε : Type} (program : ExceptT ε (StateM FileTree) Unit) (tree : FileTree) :
    Except (Stop ε) FileTree :=
  match program.run.run tree with
  | (.ok (), later) => .ok later
  | (.error error, later) => .error ⟨error, later⟩

/-- Writes a file and makes the directories around it that are missing. -/
def save (tree : FileTree) (path : Path) (content : List UInt8) :
    Except (Stop SystemError) FileTree :=
  after (system.save path content) tree

/-- The files below the starting directory, by their paths from there. -/
def files (tree : FileTree) : List (String × List UInt8) :=
  tree.nodes.filterMap fun (place, node) =>
    match tree.here.isPrefixOf? place, node with
    | some names, .file content => some (String.intercalate "/" names, content)
    | _, _ => none

end FileTree

end RpcProxy

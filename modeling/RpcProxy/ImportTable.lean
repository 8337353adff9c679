import RpcProxy.GoName
import RpcProxy.Registry
import RpcProxy.Text.Split

/-!
# Import tables

A Go file imports each package once, under an alias. The table gives aliases to import paths in the
order in which they are asked for. A path keeps its first alias. A new path gets the name it comes
with, made an identifier, or if that is taken the name with the least number from one that is free.
-/

namespace RpcProxy

/-- The aliases of import paths, with a set of their own for the aliases in use. -/
structure ImportTable where
  aliases : Registry String
  /-- The aliases in use, in order. -/
  used : Registry Unit
  /-- In use are the aliases of paths and no others. -/
  mem_used_iff : ∀ qualifier, qualifier ∈ used.names ↔ qualifier ∈ aliases.values
deriving DecidableEq

structure Import where
  /-- The alias. -/
  qualifier : String
  path : String
deriving DecidableEq, Repr

namespace ImportTable

def empty : ImportTable := ⟨∅, ∅, fun _ => Iff.rfl⟩

/-- The aliases that cannot be given any more. -/
def taken (table : ImportTable) : List String := table.used.names

def aliasOf? (table : ImportTable) (path : String) : Option String := table.aliases.find? path

/-- The name with the first number from the given one that is not taken. Among one number more than
there are taken names, one is free. -/
def numbered (taken : List String) (name : String) (number : Nat) : (tries : Nat) → String
  | 0 => name ++ toString number
  | tries + 1 =>
    if taken.contains (name ++ toString number) then numbered taken name (number + 1) tries
    else name ++ toString number

/-- A name that is not taken: the given one or the first numbered one. -/
def freeAlias (taken : List String) (name : String) : String :=
  if taken.contains name then numbered taken name 1 taken.length else name

/-- Imports a path, under an identifier or a numbered form of it if the path has no alias yet. -/
def addAs (table : ImportTable) (path identifier : String) : ImportTable :=
  if hbound : table.aliases.binds path then table
  else
    let qualifier := freeAlias table.taken identifier
    { aliases := table.aliases.insert path qualifier
      used := table.used.insert qualifier ()
      mem_used_iff := fun other => by
        rw [Registry.mem_names_insert_iff, table.mem_used_iff,
          Registry.mem_values_insert_iff (by simpa using hbound)] }

/-- Imports a path, under an alias made of the name if it has none yet. -/
def add (table : ImportTable) (path name : String) : ImportTable :=
  table.addAs path (GoName.identifier name)

/-- Imports a path under its last element. -/
def addPath (table : ImportTable) (path : String) : ImportTable :=
  table.add path (Text.lastElement path)

/-- The import lines, by ascending path. -/
def imports (table : ImportTable) : List Import :=
  table.aliases.entries.map fun (path, qualifier) => ⟨qualifier, path⟩

end ImportTable

end RpcProxy

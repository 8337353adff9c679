import RpcProxy.Linking.Table

/-!
# Finding what a type name means

A type name with a dot in front is a full name. Any other name is searched for in the scope it is
used in and then in each scope around it. Names of one part take the first scope that has a fitting
meaning; of a name with dots the first part alone chooses the scope. A name is visible in a file if
the file that first declared it is.
-/

namespace RpcProxy.Linking

/-- The names a file can see. -/
structure View where
  table : Table
  /-- The files whose names are visible. -/
  visible : List String

/-- What kind of type is looked for. -/
inductive Wanted
  | message
  | messageOrEnum
deriving DecidableEq, Repr

namespace Wanted

/-- Whether a name of the given kind is such a type. -/
def admits : Wanted → SymbolKind → Bool
  | _, .message => true
  | messageOrEnum, .enum => true
  | _, _ => false

/-- The error for a name that is no such type. -/
def mismatch : Wanted → String → LinkError
  | message => .notMessage
  | messageOrEnum => .notMessageOrEnum

end Wanted

/-- Why a full name is not the type that is looked for. -/
inductive LookupFailure
  | absent
  | unfit (error : LinkError)
deriving DecidableEq, Repr

namespace View

/-- The type of a full name, which has to be visible and of the kind that is looked for. -/
def lookup (view : View) (wanted : Wanted) (fullName : String) : Except LookupFailure Symbol :=
  match view.table.find? fullName with
  | none => .error .absent
  | some symbol =>
    if ¬ view.visible.contains symbol.file then .error (.unfit (.undefinedName fullName))
    else if wanted.admits symbol.kind then .ok symbol
    else .error (.unfit (wanted.mismatch fullName))

/-- The scopes a name is searched for in, innermost first. -/
def scopesOf (scope : String) : List String := (Text.dottedBeginnings scope).reverse ++ [""]

/-- Resolves a name of one part. If no scope has a fitting meaning, the first unfit one decides the
error. -/
def resolvePlain (view : View) (wanted : Wanted) (name : String) (unfit : Option LinkError) :
    List String → Except LinkError Symbol
  | [] => .error (unfit.getD (.undefinedName name))
  | scope :: rest =>
    match view.lookup wanted (qualified scope name) with
    | .ok symbol => .ok symbol
    | .error .absent => resolvePlain view wanted name unfit rest
    | .error (.unfit error) => resolvePlain view wanted name (some (unfit.getD error)) rest

/-- Whether a full name is one that further names can stand inside. -/
def isScope (view : View) (fullName : String) : Bool :=
  (view.table.find? fullName).any fun symbol => symbol.kind != .member

/-- Resolves a name with dots, whose first part is given too. -/
def resolveDotted (view : View) (wanted : Wanted) (first name : String) :
    List String → Except LinkError Symbol
  | [] => .error (.undefinedName name)
  | scope :: rest =>
    if view.isScope (qualified scope first) then
      match view.lookup wanted (qualified scope name) with
      | .ok symbol => .ok symbol
      | .error .absent => .error (.undefinedInScope name (qualified scope name))
      | .error (.unfit error) => .error error
    else resolveDotted view wanted first name rest

/-- Resolves a full name that was written with a dot in front. -/
def resolveFull (view : View) (wanted : Wanted) (name fullName : String) :
    Except LinkError Symbol :=
  match view.lookup wanted fullName with
  | .ok symbol => .ok symbol
  | .error .absent => .error (.undefinedName name)
  | .error (.unfit error) => .error error

/-- Resolves a type name used in a scope. -/
def resolve (view : View) (wanted : Wanted) (scope name : String) : Except LinkError Symbol :=
  match Text.cutFirst '.' name with
  | none => view.resolvePlain wanted name none (scopesOf scope)
  | some (first, rest) =>
    if first = "" then view.resolveFull wanted name rest
    else view.resolveDotted wanted first name (scopesOf scope)

end View

end RpcProxy.Linking

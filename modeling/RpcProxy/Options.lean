import RpcProxy.Registry
import RpcProxy.Text.Quoted
import RpcProxy.Text.Split

/-!
# Options of a run

The compiler passes the options of a run as one text, the parameter: entries between commas, each a
key with or without a value. Every entry is read on its own into a setting, and the settings are
applied in order, so that the last one of a key decides.
-/

namespace RpcProxy

/-- Which directory generated files go to. -/
inductive Layout
  /-- The import path of the Go package. -/
  | importPath
  /-- The directory of the schema file. -/
  | sourceRelative
deriving DecidableEq, Repr

/-- Why a parameter is refused. -/
inductive ParameterError
  | unknownKey (key : String)
  | badFlag (key value : String)
  | badLayout (value : String)
  | moduleWithSourceRelative
deriving DecidableEq, Repr

def ParameterError.message : ParameterError → String
  | unknownKey key => "unknown parameter " ++ Text.quote key
  | badFlag key value => "invalid boolean value " ++ Text.quote value ++ " for " ++ key
  | badLayout value =>
    "unknown path type " ++ Text.quote value ++ ": want \"import\" or \"source_relative\""
  | moduleWithSourceRelative => "cannot use module= with paths=source_relative"

/-- What a run is asked to do beside its request. -/
structure Options where
  /-- Proxies go to Go packages of their own. -/
  standalone : Bool := false
  /-- A directory in place of the one the layout gives. -/
  outputRoot : Option String := none
  layout : Layout := .importPath
  /-- An import path whose directory is the root of the output. -/
  moduleRoot : Option String := none
  /-- Go packages of schema files, over the files' own option. -/
  packageOf : Registry String := ∅
deriving DecidableEq

/-- What one entry of a parameter says. -/
inductive Setting
  | nothing
  | standalone (value : Bool)
  | annotateCode (value : Bool)
  | outputRoot (directory : Option String)
  | layout (value : Layout)
  | moduleRoot (path : Option String)
  | packageOf (file option : String)
deriving DecidableEq, Repr

namespace Setting

/-- The truth value of one of the twelve spellings Go has for it. -/
def truth? (value : String) : Option Bool :=
  if value ∈ ["1", "t", "T", "TRUE", "true", "True"] then some true
  else if value ∈ ["0", "f", "F", "FALSE", "false", "False"] then some false
  else none

/-- The value of a flag, which is true when it is given bare. -/
def readFlag (key : String) : Option String → Except ParameterError Bool
  | none => .ok true
  | some value =>
    match truth? value with
    | some flag => .ok flag
    | none => .error (.badFlag key value)

/-- The path of a value without slashes at its end, if anything is left of it. -/
def readPath (value : Option String) : Option String :=
  (value.map Text.dropTrailingSlashes).filter (· ≠ "")

def readLayout (value : String) : Except ParameterError Layout :=
  if value = "import" then .ok .importPath
  else if value = "source_relative" then .ok .sourceRelative
  else .error (.badLayout value)

/-- The file name in a key that maps a file to a Go package: an `M` and at least one more letter. -/
def mappedFile? (key : String) : Option String :=
  match key.toList with
  | 'M' :: letter :: rest => some (String.ofList (letter :: rest))
  | _ => none

/-- The setting of a key and its value. -/
def ofEntry (key : String) (value : Option String) : Except ParameterError Setting :=
  if key = "" then .ok .nothing
  else if key = "standalone" then (readFlag key value).map .standalone
  else if key = "annotate_code" then (readFlag key value).map .annotateCode
  else if key = "out_gopath" then .ok (.outputRoot (readPath value))
  else if key = "module" then .ok (.moduleRoot (readPath value))
  else if key = "paths" then (readLayout (value.getD "")).map .layout
  else
    match mappedFile? key with
    | some file => .ok (.packageOf file (value.getD ""))
    | none => .error (.unknownKey key)

/-- The setting of one entry, which is cut at its first equals sign. -/
def read (entry : String) : Except ParameterError Setting :=
  match Text.cutFirst '=' entry with
  | some (key, value) => ofEntry key (some value)
  | none => ofEntry entry none

end Setting

namespace Options

def apply (options : Options) : Setting → Options
  | .nothing | .annotateCode _ => options
  | .standalone value => { options with standalone := value }
  | .outputRoot directory => { options with outputRoot := directory }
  | .layout value => { options with layout := value }
  | .moduleRoot path => { options with moduleRoot := path }
  | .packageOf file option => { options with packageOf := options.packageOf.insert file option }

/-- The settings of a list of entries, or the refusal of the first bad one. -/
def readSettings : List String → Except ParameterError (List Setting)
  | [] => .ok []
  | entry :: rest => do
    let setting ← Setting.read entry
    let settings ← readSettings rest
    return setting :: settings

/-- The options of a parameter. A module root makes no sense beside files that stay at their
sources. -/
def ofParameter (parameter : String) : Except ParameterError Options := do
  let settings ← readSettings (Text.split ',' parameter)
  let options := settings.foldl apply {}
  if options.moduleRoot.isSome && options.layout == .sourceRelative then
    throw .moduleWithSourceRelative
  return options

end Options

end RpcProxy

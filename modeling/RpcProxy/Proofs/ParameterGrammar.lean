import RpcProxy.Options
import RpcProxy.Proofs.Text

/-!
# The grammar of parameters

A parameter is a list of entries with commas in between, and an entry is a key with or without a
value. The grammar says what an entry asks for, or else why it is refused, and every entry is read
so.
-/

namespace RpcProxy

namespace Parameter

/-- An entry of a parameter: a key, and a value if the entry has an equals sign. -/
structure Entry where
  key : String
  value : Option String
deriving DecidableEq, Repr

def Entry.text : Entry → String
  | ⟨key, none⟩ => key
  | ⟨key, some value⟩ => key ++ "=" ++ value

/-- The entry of a text. Its key ends before the first equals sign. -/
def Entry.ofText (text : String) : Entry :=
  match Text.cutFirst '=' text with
  | some (key, value) => ⟨key, some value⟩
  | none => ⟨text, none⟩

/-- A parameter is written as a list of entries: keys have no equals signs, entries no commas, and
the text of the parameter is that of the entries with commas in between. -/
structure Written (parameter : String) (entries : List Entry) : Prop where
  nonempty : entries ≠ []
  key : ∀ entry ∈ entries, '=' ∉ entry.key.toList
  whole : ∀ entry ∈ entries, ',' ∉ entry.text.toList
  text : parameter = String.intercalate "," (entries.map Entry.text)

def entries (parameter : String) : List Entry := (Text.split ',' parameter).map Entry.ofText

theorem Entry.ofText_text {entry : Entry} (key : '=' ∉ entry.key.toList) :
    Entry.ofText entry.text = entry := by
  obtain ⟨name, value⟩ := entry
  cases value with
  | none => rw [Entry.text, Entry.ofText, Text.cutFirst_eq_none key]
  | some value =>
      have cut : Text.cutFirst '=' (name ++ "=" ++ value) = some (name, value) :=
        Text.cutFirst_append key value
      rw [Entry.text, Entry.ofText, cut]

theorem Entry.ofText_spec (text : String) :
    '=' ∉ (Entry.ofText text).key.toList ∧ (Entry.ofText text).text = text := by
  rcases Text.exists_first_separator '=' text with absent | ⟨before, after, rfl, absent⟩
  · rw [Entry.ofText, Text.cutFirst_eq_none absent]
    exact ⟨absent, rfl⟩
  · rw [Entry.ofText, Text.cutFirst_append absent]
    exact ⟨absent, rfl⟩

/-- A parameter is written as one list of entries only. -/
theorem written_iff {parameter : String} {list : List Entry} :
    Written parameter list ↔ entries parameter = list := by
  constructor
  · intro written
    have pieces : Text.split ',' parameter = list.map Entry.text := by
      rw [Text.split_eq_iff]
      exact ⟨by simpa using written.nonempty, by simpa using written.whole, written.text⟩
    have each : ∀ entry ∈ list, (Entry.ofText ∘ Entry.text) entry = entry := by
      intro entry member
      exact Entry.ofText_text (written.key entry member)
    rw [entries, pieces, List.map_map, List.map_congr_left each, List.map_id']
  · rintro rfl
    have texts : (entries parameter).map Entry.text = Text.split ',' parameter := by
      have each : Entry.text ∘ Entry.ofText = id := funext fun text => (Entry.ofText_spec text).2
      rw [entries, List.map_map, each, List.map_id]
    refine ⟨?_, ?_, ?_, ?_⟩
    · simpa [entries] using Text.split_ne_nil ',' parameter
    · simp only [entries, List.forall_mem_map]
      exact fun text _ => (Entry.ofText_spec text).1
    · intro entry member
      have inTexts := List.mem_map_of_mem (f := Entry.text) member
      rw [texts] at inTexts
      exact Text.notMem_of_mem_split inTexts
    · rw [texts]
      exact (Text.intercalate_split ',' parameter).symm

/-- The value of a flag: true if there is none, else one of the spellings of a truth value. -/
inductive IsFlag : Option String → Bool → Prop
  | bare : IsFlag none true
  | yes {text : String} : text ∈ ["1", "t", "T", "TRUE", "true", "True"] → IsFlag (some text) true
  | no {text : String} : text ∈ ["0", "f", "F", "FALSE", "false", "False"] →
      IsFlag (some text) false

/-- What is left of the value for a path without the slashes at its end. -/
inductive LeavesPath : Option String → Option String → Prop
  | bare : LeavesPath none none
  | slashes (count : Nat) : LeavesPath (some (String.ofList (List.replicate count '/'))) none
  | path {path : String} (count : Nat) : path ≠ "" → path.toList.getLast? ≠ some '/' →
      LeavesPath (some (path ++ String.ofList (List.replicate count '/'))) (some path)

theorem IsFlag.eq_true_iff {value : Option String} {flag : Bool} (isFlag : IsFlag value flag) :
    IsFlag value true ↔ flag = true := by
  constructor
  · intro isTrue
    cases isFlag with
    | bare => rfl
    | yes _ => rfl
    | no member =>
        cases isTrue with
        | yes other =>
            simp only [List.mem_cons, List.not_mem_nil, or_false] at member other
            rcases member with rfl | rfl | rfl | rfl | rfl | rfl <;> simp at other
  · rintro rfl
    exact isFlag

/-- What an accepted entry asks for. -/
inductive Entry.Asks : Entry → Setting → Prop
  | nothing (value : Option String) : Asks ⟨"", value⟩ .nothing
  | standalone {value : Option String} {flag : Bool} : IsFlag value flag →
      Asks ⟨"standalone", value⟩ (.standalone flag)
  | annotateCode {value : Option String} {flag : Bool} : IsFlag value flag →
      Asks ⟨"annotate_code", value⟩ (.annotateCode flag)
  | outputRoot {value path : Option String} : LeavesPath value path →
      Asks ⟨"out_gopath", value⟩ (.outputRoot path)
  | importPath : Asks ⟨"paths", some "import"⟩ (.layout .importPath)
  | sourceRelative : Asks ⟨"paths", some "source_relative"⟩ (.layout .sourceRelative)
  | moduleRoot {value path : Option String} : LeavesPath value path →
      Asks ⟨"module", value⟩ (.moduleRoot path)
  | packageOf {file : String} (value : Option String) : file ≠ "" →
      Asks ⟨"M" ++ file, value⟩ (.packageOf file (value.getD ""))

/-- An entry that the grammar has. -/
def Entry.Accepted (entry : Entry) : Prop := ∃ setting, entry.Asks setting

/-- The keys with a meaning of their own. -/
def fixedKeys : List String := ["", "standalone", "annotate_code", "out_gopath", "module", "paths"]

/-- No key with a meaning of its own stands for a file. -/
theorem ne_of_mem_fixedKeys (key : String) (fixed : key ∈ fixedKeys) (file : String) :
    key ≠ "M" ++ file := by
  have other : ∀ key ∈ fixedKeys, key.toList.head? ≠ some 'M' := by decide
  intro mapped
  apply other key fixed
  rw [mapped, String.toList_append]
  rfl

/-- Why an entry is refused. -/
inductive Entry.Refuses : Entry → ParameterError → Prop
  | flag {key text : String} : key = "standalone" ∨ key = "annotate_code" →
      (∀ flag, ¬IsFlag (some text) flag) → Refuses ⟨key, some text⟩ (.badFlag key text)
  | layout {value : Option String} : value ≠ some "import" → value ≠ some "source_relative" →
      Refuses ⟨"paths", value⟩ (.badLayout (value.getD ""))
  | unknown {key : String} (value : Option String) : key ∉ fixedKeys →
      (∀ file, key = "M" ++ file → file = "") → Refuses ⟨key, value⟩ (.unknownKey key)

def Entry.setting (entry : Entry) : Except ParameterError Setting :=
  Setting.ofEntry entry.key entry.value

theorem Entry.setting_ofText (text : String) :
    (Entry.ofText text).setting = Setting.read text := by
  rw [Entry.setting, Entry.ofText, Setting.read]
  cases Text.cutFirst '=' text <;> rfl

private theorem truth?_eq_some_iff {text : String} {flag : Bool} :
    Setting.truth? text = some flag ↔ IsFlag (some text) flag := by
  rw [Setting.truth?]
  constructor
  · intro read
    split at read
    · rename_i member
      exact Option.some.inj read ▸ .yes member
    · split at read
      · rename_i member
        exact Option.some.inj read ▸ .no member
      · simp at read
  · intro isFlag
    cases isFlag with
    | yes member => rw [if_pos member]
    | no member =>
        have others : text ∉ ["1", "t", "T", "TRUE", "true", "True"] := by
          simp only [List.mem_cons, List.not_mem_nil, or_false] at member
          rcases member with rfl | rfl | rfl | rfl | rfl | rfl <;> decide
        rw [if_neg others, if_pos member]

private theorem readFlag_eq_ok_iff {key : String} {value : Option String} {flag : Bool} :
    Setting.readFlag key value = .ok flag ↔ IsFlag value flag := by
  cases value with
  | none =>
      constructor
      · intro read
        exact Except.ok.inj read ▸ .bare
      · intro isFlag
        cases isFlag
        rfl
  | some text =>
      rw [← truth?_eq_some_iff, Setting.readFlag]
      cases Setting.truth? text <;> simp

private theorem readFlag_of_not {key text : String} (other : ∀ flag, ¬IsFlag (some text) flag) :
    Setting.readFlag key (some text) = .error (.badFlag key text) := by
  have unread : Setting.truth? text = none := by
    rw [Option.eq_none_iff_forall_ne_some]
    exact fun flag read => other flag (truth?_eq_some_iff.mp read)
  rw [Setting.readFlag, unread]

private theorem leavesPath_some_iff {text path : String} :
    LeavesPath (some text) (some path) ↔ Text.dropTrailingSlashes text = path ∧ path ≠ "" := by
  rw [Text.dropTrailingSlashes_eq_iff]
  constructor
  · intro leaves
    cases leaves with
    | path count nonempty opened => exact ⟨⟨opened, count, rfl⟩, nonempty⟩
  · rintro ⟨⟨opened, count, rfl⟩, nonempty⟩
    exact .path count nonempty opened

private theorem leavesPath_none_iff {text : String} :
    LeavesPath (some text) none ↔ Text.dropTrailingSlashes text = "" := by
  rw [Text.dropTrailingSlashes_eq_iff]
  constructor
  · intro leaves
    cases leaves with
    | slashes count => exact ⟨by simp, count, (String.empty_append ..).symm⟩
  · rintro ⟨_, count, rfl⟩
    rw [String.empty_append]
    exact .slashes count

private theorem readPath_eq_iff {value path : Option String} :
    Setting.readPath value = path ↔ LeavesPath value path := by
  cases value with
  | none =>
      constructor
      · rintro rfl
        exact .bare
      · intro leaves
        cases leaves
        rfl
  | some text =>
      rw [Setting.readPath, Option.map_some]
      cases path with
      | none => simp [leavesPath_none_iff]
      | some path => simp [leavesPath_some_iff, Option.filter_eq_some_iff]

/-- Of a value one path is left only. -/
theorem LeavesPath.eq_some_iff {value left : Option String} {path : String}
    (leaves : LeavesPath value left) : LeavesPath value (some path) ↔ left = some path := by
  rw [← readPath_eq_iff] at leaves ⊢
  rw [leaves]

private theorem readLayout_of_not {value : Option String} (notImport : value ≠ some "import")
    (notRelative : value ≠ some "source_relative") :
    Setting.readLayout (value.getD "") = .error (.badLayout (value.getD "")) := by
  cases value with
  | none => rfl
  | some text =>
      rw [Option.getD_some, Setting.readLayout, if_neg fun equal => notImport (congrArg some equal),
        if_neg fun equal => notRelative (congrArg some equal)]

private theorem mappedFile?_eq_some_iff {key file : String} :
    Setting.mappedFile? key = some file ↔ file ≠ "" ∧ key = "M" ++ file := by
  rw [Setting.mappedFile?]
  constructor
  · intro found
    split at found
    · rename_i letter rest letters
      obtain rfl := Option.some.inj found
      refine ⟨by simp, ?_⟩
      rw [← String.toList_inj, letters]
      simp
    · simp at found
  · rintro ⟨nonempty, rfl⟩
    obtain ⟨letter, rest, letters⟩ : ∃ letter rest, file.toList = letter :: rest :=
      List.exists_cons_of_ne_nil (by simpa using nonempty)
    have written : ("M" ++ file).toList = 'M' :: letter :: rest := by
      rw [String.toList_append, letters]
      rfl
    rw [written]
    exact congrArg some (by rw [← letters, String.ofList_toList])

private theorem setting_of_notMem {key : String} (value : Option String)
    (other : key ∉ fixedKeys) :
    Entry.setting ⟨key, value⟩ =
      match Setting.mappedFile? key with
      | some file => .ok (.packageOf file (value.getD ""))
      | none => .error (.unknownKey key) := by
  simp only [fixedKeys, List.mem_cons, List.not_mem_nil, or_false, not_or] at other
  obtain ⟨notEmpty, notStandalone, notAnnotate, notRoot, notModule, notPaths⟩ := other
  change Setting.ofEntry key value = _
  rw [Setting.ofEntry, if_neg notEmpty, if_neg notStandalone, if_neg notAnnotate, if_neg notRoot,
    if_neg notModule]
  refine (if_neg notPaths).trans ?_
  cases Setting.mappedFile? key <;> rfl

/-! The settings of the fixed keys, each by its own reader. -/

private theorem setting_standalone (value : Option String) :
    Entry.setting ⟨"standalone", value⟩ =
      (Setting.readFlag "standalone" value).map .standalone := rfl

private theorem setting_annotateCode (value : Option String) :
    Entry.setting ⟨"annotate_code", value⟩ =
      (Setting.readFlag "annotate_code" value).map .annotateCode := rfl

private theorem setting_outputRoot (value : Option String) :
    Entry.setting ⟨"out_gopath", value⟩ = .ok (.outputRoot (Setting.readPath value)) := rfl

private theorem setting_moduleRoot (value : Option String) :
    Entry.setting ⟨"module", value⟩ = .ok (.moduleRoot (Setting.readPath value)) := rfl

private theorem setting_layout (value : Option String) :
    Entry.setting ⟨"paths", value⟩ = (Setting.readLayout (value.getD "")).map .layout := rfl

theorem setting_of_asks {entry : Entry} {setting : Setting} (asks : entry.Asks setting) :
    entry.setting = .ok setting := by
  cases asks with
  | nothing value => rfl
  | standalone isFlag => rw [setting_standalone, readFlag_eq_ok_iff.mpr isFlag, Except.map]
  | annotateCode isFlag => rw [setting_annotateCode, readFlag_eq_ok_iff.mpr isFlag, Except.map]
  | outputRoot leaves => rw [setting_outputRoot, readPath_eq_iff.mpr leaves]
  | importPath => rfl
  | sourceRelative => rfl
  | moduleRoot leaves => rw [setting_moduleRoot, readPath_eq_iff.mpr leaves]
  | @packageOf file value nonempty =>
      have other : "M" ++ file ∉ fixedKeys := fun fixed => ne_of_mem_fixedKeys _ fixed file rfl
      rw [setting_of_notMem value other, mappedFile?_eq_some_iff.mpr ⟨nonempty, rfl⟩]

theorem setting_of_refuses {entry : Entry} {error : ParameterError}
    (refuses : entry.Refuses error) : entry.setting = .error error := by
  cases refuses with
  | flag keys other =>
      rcases keys with rfl | rfl
      · rw [setting_standalone, readFlag_of_not other, Except.map]
      · rw [setting_annotateCode, readFlag_of_not other, Except.map]
  | layout notImport notRelative =>
      rw [setting_layout, readLayout_of_not notImport notRelative, Except.map]
  | unknown value other unmapped =>
      rw [setting_of_notMem value other]
      cases mapped : Setting.mappedFile? _ with
      | none => rfl
      | some file =>
          obtain ⟨nonempty, key⟩ := mappedFile?_eq_some_iff.mp mapped
          exact absurd (unmapped file key) nonempty

/-- The grammar leaves no entry undecided. -/
theorem asks_or_refuses (entry : Entry) :
    (∃ setting, entry.Asks setting) ∨ ∃ error, entry.Refuses error := by
  obtain ⟨key, value⟩ := entry
  have flag {key : String} (isKey : key = "standalone" ∨ key = "annotate_code") :
      (∃ flag, IsFlag value flag) ∨ ∃ error, Entry.Refuses ⟨key, value⟩ error := by
    cases value with
    | none => exact .inl ⟨true, .bare⟩
    | some text =>
        by_cases known : ∃ flag, IsFlag (some text) flag
        · exact .inl known
        · exact .inr ⟨_, .flag isKey (not_exists.mp known)⟩
  by_cases fixed : key ∈ fixedKeys
  · simp only [fixedKeys, List.mem_cons, List.not_mem_nil, or_false] at fixed
    rcases fixed with rfl | rfl | rfl | rfl | rfl | rfl
    · exact .inl ⟨_, .nothing value⟩
    · rcases flag (.inl rfl) with ⟨_, isFlag⟩ | refused
      · exact .inl ⟨_, .standalone isFlag⟩
      · exact .inr refused
    · rcases flag (.inr rfl) with ⟨_, isFlag⟩ | refused
      · exact .inl ⟨_, .annotateCode isFlag⟩
      · exact .inr refused
    · exact .inl ⟨_, .outputRoot (readPath_eq_iff.mp rfl)⟩
    · exact .inl ⟨_, .moduleRoot (readPath_eq_iff.mp rfl)⟩
    · by_cases isImport : value = some "import"
      · subst isImport
        exact .inl ⟨_, .importPath⟩
      · by_cases isRelative : value = some "source_relative"
        · subst isRelative
          exact .inl ⟨_, .sourceRelative⟩
        · exact .inr ⟨_, .layout isImport isRelative⟩
  · by_cases mapped : ∃ file, file ≠ "" ∧ key = "M" ++ file
    · obtain ⟨file, nonempty, rfl⟩ := mapped
      exact .inl ⟨_, .packageOf value nonempty⟩
    · refine .inr ⟨_, .unknown value fixed ?_⟩
      intro file isKey
      by_contra nonempty
      exact mapped ⟨file, nonempty, isKey⟩

theorem setting_eq_ok_iff {entry : Entry} {setting : Setting} :
    entry.setting = .ok setting ↔ entry.Asks setting := by
  refine ⟨fun read => ?_, setting_of_asks⟩
  rcases asks_or_refuses entry with ⟨asked, asks⟩ | ⟨error, refuses⟩
  · have same := Except.ok.inj ((setting_of_asks asks).symm.trans read)
    exact same ▸ asks
  · simp [setting_of_refuses refuses] at read

theorem setting_eq_error_iff {entry : Entry} {error : ParameterError} :
    entry.setting = .error error ↔ entry.Refuses error := by
  refine ⟨fun read => ?_, setting_of_refuses⟩
  rcases asks_or_refuses entry with ⟨asked, asks⟩ | ⟨cause, refuses⟩
  · simp [setting_of_asks asks] at read
  · have same := Except.error.inj ((setting_of_refuses refuses).symm.trans read)
    exact same ▸ refuses

end Parameter

end RpcProxy

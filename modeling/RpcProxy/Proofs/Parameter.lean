import RpcProxy.Proofs.Except
import RpcProxy.Proofs.ParameterGrammar
import RpcProxy.Proofs.Registry

/-!
# What parameters ask for

Each option is decided by the last entry of its key. A parameter is refused for its first bad entry,
and only if there is none for what its entries ask for together. Entries of different keys may
change places.
-/

namespace RpcProxy

open Parameter

variable {entries others : List Entry} {entry : Entry} {key : String} {value : Option String}
  {options : Options} {parameter : String}

namespace Parameter

/-- The last entry of a key has the value. -/
def LastOf (entries : List Entry) (key : String) (value : Option String) : Prop :=
  ∃ before after, entries = before ++ ⟨key, value⟩ :: after ∧ ∀ later ∈ after, later.key ≠ key

theorem not_lastOf_nil : ¬LastOf [] key value := by
  rintro ⟨before, after, split, _⟩
  simp at split

theorem lastOf_concat_iff :
    LastOf (entries ++ [entry]) key value ↔
      if entry.key = key then entry.value = value else LastOf entries key value := by
  constructor
  · rintro ⟨before, after, split, differ⟩
    rcases List.eq_nil_or_concat after with rfl | ⟨middle, last, rfl⟩
    · obtain ⟨_, same⟩ := List.append_inj' split rfl
      obtain rfl := List.singleton_inj.mp same
      rw [if_pos rfl]
    · have cut : entries ++ [entry] = (before ++ ⟨key, value⟩ :: middle) ++ [last] := by
        simpa using split
      obtain ⟨rfl, same⟩ := List.append_inj' cut rfl
      obtain rfl := List.singleton_inj.mp same
      rw [if_neg (differ entry (by simp))]
      exact ⟨before, middle, rfl, fun later member => differ later (by simp [member])⟩
  · intro last
    split at last
    · rename_i same
      subst same last
      exact ⟨entries, [], rfl, by simp⟩
    · rename_i differs
      obtain ⟨before, after, rfl, differ⟩ := last
      refine ⟨before, after ++ [entry], by simp, ?_⟩
      intro later member
      rcases List.mem_append.mp member with earlier | isLast
      · exact differ later earlier
      · exact List.mem_singleton.mp isLast ▸ differs

/-- A condition on the value of a key asks the entry at the end if it has the key. -/
theorem exists_lastOf_concat_iff {holds : Option String → Prop} :
    (∃ value, LastOf (entries ++ [entry]) key value ∧ holds value) ↔
      if entry.key = key then holds entry.value
      else ∃ value, LastOf entries key value ∧ holds value := by
  simp only [lastOf_concat_iff]
  by_cases same : entry.key = key <;> simp [same]

def ofKey (entries : List Entry) (key : String) : List Entry :=
  entries.filter fun entry => entry.key = key

theorem lastOf_iff_getLast? :
    LastOf entries key value ↔ (ofKey entries key).getLast? = some ⟨key, value⟩ := by
  induction entries using List.reverseRecOn with
  | nil => simp [not_lastOf_nil, ofKey]
  | append_singleton entries entry induction =>
      obtain ⟨name, text⟩ := entry
      rw [lastOf_concat_iff, induction, ofKey, ofKey, List.filter_append]
      by_cases same : name = key
      · simp [same]
      · simp [same]

/-- The same entries for each key, in the same order, but for entries without a key. -/
def SameOrder (entries others : List Entry) : Prop :=
  ∀ key, key ≠ "" → ofKey entries key = ofKey others key

theorem SameOrder.lastOf_iff (same : SameOrder entries others) (named : key ≠ "") :
    LastOf entries key value ↔ LastOf others key value := by
  rw [lastOf_iff_getLast?, lastOf_iff_getLast?, same key named]

theorem SameOrder.accepted (same : SameOrder entries others)
    (accepted : ∀ entry ∈ entries, entry.Accepted) : ∀ entry ∈ others, entry.Accepted := by
  intro entry member
  obtain ⟨key, value⟩ := entry
  by_cases named : key = ""
  · subst named
    exact ⟨.nothing, .nothing value⟩
  · have inOthers : ⟨key, value⟩ ∈ ofKey others key := List.mem_filter.mpr ⟨member, by simp⟩
    rw [← same key named] at inOthers
    exact accepted _ (List.mem_filter.mp inOthers).1

theorem SameOrder.symm (same : SameOrder entries others) : SameOrder others entries :=
  fun key named => (same key named).symm

/-- Only the keys that occur have to be looked at. -/
theorem sameOrder_iff :
    SameOrder entries others ↔
      ∀ entry ∈ entries ++ others, entry.key ≠ "" →
        ofKey entries entry.key = ofKey others entry.key := by
  constructor
  · exact fun same entry _ named => same entry.key named
  · intro same key named
    by_cases occurs : ∃ entry ∈ entries ++ others, entry.key = key
    · obtain ⟨entry, member, rfl⟩ := occurs
      exact same entry member named
    · have absent : ∀ entry ∈ entries ++ others, ¬entry.key = key := by simpa using occurs
      rw [List.forall_mem_append] at absent
      have left : ofKey entries key = [] := by simpa [ofKey] using absent.1
      have right : ofKey others key = [] := by simpa [ofKey] using absent.2
      rw [left, right]

instance (entries others : List Entry) : Decidable (SameOrder entries others) :=
  decidable_of_iff _ sameOrder_iff.symm

/-- Every entry with a key is the only one of its key. -/
def DistinctKeys (entries : List Entry) : Prop :=
  ∀ entry ∈ entries, entry.key ≠ "" → ofKey entries entry.key = [entry]

instance (entries : List Entry) : Decidable (DistinctKeys entries) :=
  inferInstanceAs (Decidable (∀ entry ∈ entries, _))

/-- Entries of different keys keep their order whatever places they change. -/
theorem sameOrder_of_perm (distinct : DistinctKeys entries) (perm : others.Perm entries) :
    SameOrder others entries := by
  intro key named
  have ofKeys : (ofKey others key).Perm (ofKey entries key) := perm.filter _
  cases here : ofKey entries key with
  | nil => exact List.perm_nil.mp (here ▸ ofKeys)
  | cons entry rest =>
      have member : entry ∈ ofKey entries key := here ▸ List.mem_cons_self
      obtain ⟨inEntries, isKey⟩ := List.mem_filter.mp member
      obtain rfl := of_decide_eq_true isKey
      have only := distinct entry inEntries named
      rw [only] at here ofKeys
      rw [← here]
      exact List.perm_singleton.mp ofKeys

/-- The first entry that is not accepted is refused so. -/
def FirstRefusal (entries : List Entry) (error : ParameterError) : Prop :=
  ∃ before entry after, entries = before ++ entry :: after ∧ entry.Refuses error ∧
    ∀ earlier ∈ before, earlier.Accepted

theorem firstRefusal_iff {error : ParameterError} :
    FirstRefusal entries error ↔ entries.mapM Entry.setting = .error error := by
  simp only [Except.mapM_eq_error_iff, Except.FirstFailure, setting_eq_error_iff,
    setting_eq_ok_iff]
  rfl

theorem forall_accepted_iff :
    (∀ entry ∈ entries, entry.Accepted) ↔
      ∃ settings, entries.mapM Entry.setting = .ok settings := by
  simp only [Except.exists_mapM_eq_ok_iff, setting_eq_ok_iff]
  rfl

end Parameter

namespace Options

/-- Each option is decided by the last entry of its key, and as it is by default without one. -/
structure DecidedBy (options : Options) (entries : List Entry) : Prop where
  standalone : options.standalone = true ↔
    ∃ value, LastOf entries "standalone" value ∧ IsFlag value true
  outputRoot : ∀ path, options.outputRoot = some path ↔
    ∃ value, LastOf entries "out_gopath" value ∧ LeavesPath value (some path)
  layout : options.layout = .sourceRelative ↔ LastOf entries "paths" (some "source_relative")
  moduleRoot : ∀ path, options.moduleRoot = some path ↔
    ∃ value, LastOf entries "module" value ∧ LeavesPath value (some path)
  packageOf : ∀ file option, options.packageOf.find? file = some option ↔
    ∃ value, LastOf entries ("M" ++ file) value ∧ option = value.getD ""

/-- Options that make no sense together. -/
def Conflicts (options : Options) : Prop :=
  options.moduleRoot ≠ none ∧ options.layout = .sourceRelative

instance (options : Options) : Decidable options.Conflicts := inferInstanceAs (Decidable (_ ∧ _))

theorem decidedBy_nil : ({} : Options).DecidedBy [] := by
  refine ⟨?_, ?_, ?_, ?_, ?_⟩ <;> simp [not_lastOf_nil]
  exact fun file option => Registry.find?_empty file ▸ by simp

theorem DecidedBy.unique {other : Options} (decided : options.DecidedBy entries)
    (otherDecided : other.DecidedBy entries) : options = other := by
  have standalone : options.standalone = other.standalone :=
    Bool.eq_iff_iff.mpr (decided.standalone.trans otherDecided.standalone.symm)
  have outputRoot : options.outputRoot = other.outputRoot := Option.ext fun path =>
    (decided.outputRoot path).trans (otherDecided.outputRoot path).symm
  have moduleRoot : options.moduleRoot = other.moduleRoot := Option.ext fun path =>
    (decided.moduleRoot path).trans (otherDecided.moduleRoot path).symm
  have packageOf : options.packageOf = other.packageOf := Registry.ext_find? fun file =>
    Option.ext fun option =>
      (decided.packageOf file option).trans (otherDecided.packageOf file option).symm
  have relative := decided.layout.trans otherDecided.layout.symm
  have layout : options.layout = other.layout := by
    cases here : options.layout <;> cases there : other.layout <;> simp_all
  obtain ⟨_, _, _, _, _⟩ := options
  obtain ⟨_, _, _, _, _⟩ := other
  simp_all

theorem DecidedBy.of_sameOrder (decided : options.DecidedBy entries)
    (same : SameOrder entries others) : options.DecidedBy others := by
  have lastOf (key : String) (named : key ≠ "") (value : Option String) :
      LastOf others key value ↔ LastOf entries key value := (same.lastOf_iff named).symm
  have mapped (file : String) : "M" ++ file ≠ "" := by simp
  refine ⟨?_, ?_, ?_, ?_, ?_⟩
  · simpa only [lastOf "standalone" (by decide)] using decided.standalone
  · simpa only [lastOf "out_gopath" (by decide)] using decided.outputRoot
  · simpa only [lastOf "paths" (by decide)] using decided.layout
  · simpa only [lastOf "module" (by decide)] using decided.moduleRoot
  · simpa only [lastOf _ (mapped _)] using decided.packageOf

variable {setting : Setting}

private theorem standalone_apply (asks : entry.Asks setting) :
    (options.apply setting).standalone = true ↔
      if entry.key = "standalone" then IsFlag entry.value true else options.standalone = true := by
  cases asks with
  | standalone isFlag => simp [Options.apply, isFlag.eq_true_iff]
  | @packageOf file value nonempty =>
      have other := ne_of_mem_fixedKeys "standalone" (by decide) file
      simp [Options.apply, other.symm]
  | _ => simp [Options.apply]

private theorem outputRoot_apply (asks : entry.Asks setting) (path : String) :
    (options.apply setting).outputRoot = some path ↔
      if entry.key = "out_gopath" then LeavesPath entry.value (some path)
      else options.outputRoot = some path := by
  cases asks with
  | outputRoot leaves => simp [Options.apply, leaves.eq_some_iff]
  | @packageOf file value nonempty =>
      have other := ne_of_mem_fixedKeys "out_gopath" (by decide) file
      simp [Options.apply, other.symm]
  | _ => simp [Options.apply]

private theorem layout_apply (asks : entry.Asks setting) :
    (options.apply setting).layout = .sourceRelative ↔
      if entry.key = "paths" then entry.value = some "source_relative"
      else options.layout = .sourceRelative := by
  cases asks with
  | @packageOf file value nonempty =>
      have other := ne_of_mem_fixedKeys "paths" (by decide) file
      simp [Options.apply, other.symm]
  | _ => simp [Options.apply]

private theorem moduleRoot_apply (asks : entry.Asks setting) (path : String) :
    (options.apply setting).moduleRoot = some path ↔
      if entry.key = "module" then LeavesPath entry.value (some path)
      else options.moduleRoot = some path := by
  cases asks with
  | moduleRoot leaves => simp [Options.apply, leaves.eq_some_iff]
  | @packageOf file value nonempty =>
      have other := ne_of_mem_fixedKeys "module" (by decide) file
      simp [Options.apply, other.symm]
  | _ => simp [Options.apply]

private theorem packageOf_apply (asks : entry.Asks setting) (file option : String) :
    (options.apply setting).packageOf.find? file = some option ↔
      if entry.key = "M" ++ file then option = entry.value.getD ""
      else options.packageOf.find? file = some option := by
  have others := fun key fixed => ne_of_mem_fixedKeys key fixed file
  simp only [fixedKeys, List.forall_mem_cons] at others
  cases asks with
  | packageOf value nonempty =>
      simp only [Options.apply, Registry.find?_insert, String.append_right_inj, eq_comm (a := file)]
      split <;> simp [eq_comm]
  | _ => simp [Options.apply, others]

/-- An entry decides the option of its key and leaves the others. -/
theorem DecidedBy.apply (decided : options.DecidedBy entries) (asks : entry.Asks setting) :
    (options.apply setting).DecidedBy (entries ++ [entry]) where
  standalone := by rw [standalone_apply asks, exists_lastOf_concat_iff, decided.standalone]
  outputRoot path := by
    rw [outputRoot_apply asks, exists_lastOf_concat_iff, decided.outputRoot]
  layout := by rw [layout_apply asks, lastOf_concat_iff, decided.layout]
  moduleRoot path := by
    rw [moduleRoot_apply asks, exists_lastOf_concat_iff, decided.moduleRoot]
  packageOf file option := by
    rw [packageOf_apply asks, exists_lastOf_concat_iff, decided.packageOf]

/-- Entries decide the options that their settings make one after another. -/
theorem decidedBy_foldl {settings : List Setting} (all : List.Forall₂ Entry.Asks others settings)
    (decided : options.DecidedBy entries) :
    (settings.foldl apply options).DecidedBy (entries ++ others) := by
  induction all generalizing options entries with
  | nil => simpa using decided
  | cons asks _ induction =>
      rw [List.foldl_cons, List.append_cons]
      exact induction (decided.apply asks)

private theorem readSettings_eq_mapM (texts : List String) :
    readSettings texts = (texts.map Entry.ofText).mapM Entry.setting := by
  induction texts with
  | nil => rfl
  | cons text rest induction =>
      rw [readSettings, induction, List.map_cons, List.mapM_cons, Entry.setting_ofText]

private theorem ofParameter_of_error {error : ParameterError}
    (refused : (Parameter.entries parameter).mapM Entry.setting = .error error) :
    ofParameter parameter = .error error := by
  rw [ofParameter, readSettings_eq_mapM, ← Parameter.entries, refused]
  rfl

private theorem ofParameter_of_ok {settings : List Setting}
    (read : (Parameter.entries parameter).mapM Entry.setting = .ok settings) :
    ofParameter parameter =
      if (settings.foldl apply {}).Conflicts then .error .moduleWithSourceRelative
      else .ok (settings.foldl apply {}) := by
  have test (options : Options) :
      (options.moduleRoot.isSome && options.layout == .sourceRelative) = true ↔
        options.Conflicts := by
    rw [Bool.and_eq_true, Option.isSome_iff_ne_none, beq_iff_eq, Conflicts]
  rw [ofParameter, readSettings_eq_mapM, ← Parameter.entries, read]
  simp only [bind, Except.bind, test]
  split <;> rfl

private theorem exists_decided (accepted : ∀ entry ∈ Parameter.entries parameter, entry.Accepted) :
    ∃ decided : Options, decided.DecidedBy (Parameter.entries parameter) ∧
      ofParameter parameter =
        if decided.Conflicts then .error .moduleWithSourceRelative else .ok decided := by
  obtain ⟨settings, read⟩ := forall_accepted_iff.mp accepted
  have all := Except.mapM_eq_ok_iff.mp read
  simp only [setting_eq_ok_iff] at all
  exact ⟨_, by simpa using decidedBy_foldl all decidedBy_nil, ofParameter_of_ok read⟩

private theorem exists_firstRefusal
    (refused : ¬∀ entry ∈ Parameter.entries parameter, entry.Accepted) :
    ∃ error, ∀ other, FirstRefusal (Parameter.entries parameter) other ↔ other = error := by
  rw [forall_accepted_iff] at refused
  cases read : (Parameter.entries parameter).mapM Entry.setting with
  | ok settings => exact absurd ⟨settings, read⟩ refused
  | error error =>
      exact ⟨error, fun other => by rw [firstRefusal_iff, read, Except.error.injEq, eq_comm]⟩

/-- A parameter is accepted exactly if its entries are and make sense together. -/
theorem ofParameter_eq_ok_iff :
    ofParameter parameter = .ok options ↔
      (∀ entry ∈ Parameter.entries parameter, entry.Accepted) ∧
        options.DecidedBy (Parameter.entries parameter) ∧ ¬options.Conflicts := by
  by_cases accepted : ∀ entry ∈ Parameter.entries parameter, entry.Accepted
  · obtain ⟨decided, byEntries, outcome⟩ := exists_decided accepted
    rw [outcome]
    constructor
    · intro result
      split at result
      · simp at result
      · rename_i agrees
        obtain rfl := Except.ok.inj result
        exact ⟨accepted, byEntries, agrees⟩
    · rintro ⟨_, others, agrees⟩
      obtain rfl := byEntries.unique others
      rw [if_neg agrees]
  · obtain ⟨error, refused⟩ := exists_firstRefusal accepted
    have outcome := ofParameter_of_error (firstRefusal_iff.mp ((refused error).mpr rfl))
    simp [outcome, accepted]

/-- A parameter is refused for its first bad entry, or for a conflict if there is none. -/
theorem ofParameter_eq_error_iff {error : ParameterError} :
    ofParameter parameter = .error error ↔
      FirstRefusal (Parameter.entries parameter) error ∨
        (∀ entry ∈ Parameter.entries parameter, entry.Accepted) ∧
          error = .moduleWithSourceRelative ∧
            ∃ options : Options, options.DecidedBy (Parameter.entries parameter) ∧
              options.Conflicts := by
  by_cases accepted : ∀ entry ∈ Parameter.entries parameter, entry.Accepted
  · obtain ⟨decided, byEntries, outcome⟩ := exists_decided accepted
    have notRefused : ¬FirstRefusal (Parameter.entries parameter) error := by
      obtain ⟨settings, read⟩ := forall_accepted_iff.mp accepted
      simp [firstRefusal_iff, read]
    have conflict : (∃ options : Options, options.DecidedBy (Parameter.entries parameter) ∧
        options.Conflicts) ↔ decided.Conflicts := by
      constructor
      · rintro ⟨options, others, conflicts⟩
        exact byEntries.unique others ▸ conflicts
      · exact fun conflicts => ⟨decided, byEntries, conflicts⟩
    rw [outcome, conflict, or_iff_right notRefused, and_iff_right accepted]
    split
    · rename_i conflicts
      simp [conflicts, eq_comm]
    · rename_i agrees
      simp [agrees]
  · obtain ⟨cause, refused⟩ := exists_firstRefusal accepted
    have outcome := ofParameter_of_error (firstRefusal_iff.mp ((refused cause).mpr rfl))
    simp [outcome, refused, accepted, eq_comm]

/-- Parameters whose entries keep their order for each key ask for the same. -/
theorem ofParameter_sameOrder {other : String}
    (same : SameOrder (Parameter.entries other) (Parameter.entries parameter)) :
    ofParameter other = .ok options ↔ ofParameter parameter = .ok options := by
  have acceptable : (∀ entry ∈ Parameter.entries other, entry.Accepted) ↔
      ∀ entry ∈ Parameter.entries parameter, entry.Accepted := ⟨same.accepted, same.symm.accepted⟩
  have decided : options.DecidedBy (Parameter.entries other) ↔
      options.DecidedBy (Parameter.entries parameter) :=
    ⟨fun here => here.of_sameOrder same, fun there => there.of_sameOrder same.symm⟩
  rw [ofParameter_eq_ok_iff, ofParameter_eq_ok_iff, acceptable, decided]

/-- A parameter is read by the grammar of its entries, the last of each key deciding. -/
theorem parameter_follows_grammar (parameter : String) :
    (∀ list, Written parameter list ↔ Parameter.entries parameter = list) ∧
    (∀ options, ofParameter parameter = .ok options ↔
      (∀ entry ∈ Parameter.entries parameter, entry.Accepted) ∧
        options.DecidedBy (Parameter.entries parameter) ∧ ¬options.Conflicts) ∧
    (∀ error, ofParameter parameter = .error error ↔
      FirstRefusal (Parameter.entries parameter) error ∨
        (∀ entry ∈ Parameter.entries parameter, entry.Accepted) ∧
          error = .moduleWithSourceRelative ∧
            ∃ options : Options, options.DecidedBy (Parameter.entries parameter) ∧
              options.Conflicts) ∧
    (∀ other, SameOrder (Parameter.entries other) (Parameter.entries parameter) →
      ∀ options, ofParameter other = .ok options ↔ ofParameter parameter = .ok options) ∧
    (DistinctKeys (Parameter.entries parameter) →
      ∀ other, (Parameter.entries other).Perm (Parameter.entries parameter) →
        ∀ options, ofParameter other = .ok options ↔ ofParameter parameter = .ok options) := by
  refine ⟨fun _ => written_iff, fun _ => ofParameter_eq_ok_iff, fun _ => ofParameter_eq_error_iff,
    fun _ same _ => ofParameter_sameOrder same, ?_⟩
  intro distinct other perm options
  exact ofParameter_sameOrder (sameOrder_of_perm distinct perm)

/-- Entries of different keys change places, and the last module root leaves nothing. -/
theorem parameter_follows_grammar_reordered :
    SameOrder (Parameter.entries "Mb=c,module=a,module=/,standalone")
      (Parameter.entries "module=a,,standalone,Mb=c,module=/") ∧
    (∃ options, ofParameter "module=a,,standalone,Mb=c,module=/" = .ok options ∧
      ofParameter "Mb=c,module=a,module=/,standalone" = .ok options ∧
      options.DecidedBy (Parameter.entries "module=a,,standalone,Mb=c,module=/") ∧
      options.standalone = true ∧ options.moduleRoot = none ∧
      options.packageOf.find? "b" = some "c") ∧
    DistinctKeys (Parameter.entries "standalone,Mb=c") ∧
    (Parameter.entries "Mb=c,standalone").Perm (Parameter.entries "standalone,Mb=c") ∧
    ∃ options, ofParameter "standalone,Mb=c" = .ok options ∧
      ofParameter "Mb=c,standalone" = .ok options := by
  have crowded : Parameter.entries "module=a,,standalone,Mb=c,module=/" =
      [⟨"module", some "a"⟩, ⟨"", none⟩, ⟨"standalone", none⟩, ⟨"Mb", some "c"⟩,
        ⟨"module", some "/"⟩] := by decide +kernel
  have moved : Parameter.entries "Mb=c,module=a,module=/,standalone" =
      [⟨"Mb", some "c"⟩, ⟨"module", some "a"⟩, ⟨"module", some "/"⟩, ⟨"standalone", none⟩] := by
    decide +kernel
  have short : Parameter.entries "standalone,Mb=c" =
      [⟨"standalone", none⟩, ⟨"Mb", some "c"⟩] := by decide +kernel
  have swapped : Parameter.entries "Mb=c,standalone" =
      [⟨"Mb", some "c"⟩, ⟨"standalone", none⟩] := by decide +kernel
  obtain ⟨_, accepted, _, reordered, _⟩ :=
    parameter_follows_grammar "module=a,,standalone,Mb=c,module=/"
  obtain ⟨_, _, _, _, permuted⟩ := parameter_follows_grammar "standalone,Mb=c"
  have same : SameOrder (Parameter.entries "Mb=c,module=a,module=/,standalone")
      (Parameter.entries "module=a,,standalone,Mb=c,module=/") := by
    rw [crowded, moved]
    decide +kernel
  have distinct : DistinctKeys (Parameter.entries "standalone,Mb=c") := by
    rw [short]
    decide +kernel
  have perm : (Parameter.entries "Mb=c,standalone").Perm (Parameter.entries "standalone,Mb=c") := by
    rw [short, swapped]
    decide +kernel
  obtain ⟨options, read, standalone, moduleRoot, mapped⟩ :
      ∃ options, ofParameter "module=a,,standalone,Mb=c,module=/" = .ok options ∧
        options.standalone = true ∧ options.moduleRoot = none ∧
        options.packageOf.find? "b" = some "c" := Except.exists_eq_ok_and (by decide +kernel)
  obtain ⟨flags, flagsRead, _⟩ : ∃ options, ofParameter "standalone,Mb=c" = .ok options ∧
      options.standalone = true := Except.exists_eq_ok_and (by decide +kernel)
  exact ⟨same, ⟨options, read, (reordered _ same options).mpr read,
    ((accepted options).mp read).2.1, standalone, moduleRoot, mapped⟩, distinct, perm, flags,
    flagsRead, (permuted distinct _ perm flags).mpr flagsRead⟩

end Options

end RpcProxy

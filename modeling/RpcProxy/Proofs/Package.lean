import RpcProxy.Package
import RpcProxy.Proofs.Text

/-!
# Names and import paths of Go packages

The name of a Go package is made of one text: the one that the option gives, or else the schema
package or the stem of the file. A file comes to a Go package with an empty import path in three
ways: its option names a package only, or without an option it stands in the root directory or is
named by extensions alone.
-/

namespace RpcProxy.Package

variable {file base option schemaPackage : String}

/-- The last element of a file name is the stem with extensions behind it, and the stem does not end
with one. -/
theorem stem_spec (file : String) :
    Text.dropEnding? ".proto" (stem file) = none ∧
      ∃ count, Text.lastElement file = stem file ++ String.join (List.replicate count ".proto") :=
  (Text.dropEndings_eq_iff (by decide)).mp rfl

/-- The text that the name of a file's Go package is made of. -/
def givenName (file schemaPackage : String) (option : Option String) : String :=
  let named := option.getD ""
  if named = "" then if schemaPackage = "" then stem file else underscored schemaPackage
  else ((Text.cutFirst ';' named).map Prod.snd).getD (Text.lastElement named)

theorem ofFile_eq_withoutOption {option : Option String} (absent : option.getD "" = "") :
    ofFile file schemaPackage option = withoutOption file schemaPackage := by
  cases option with
  | none => rfl
  | some option =>
      have empty : option = "" := absent
      rw [ofFile, if_pos empty]

theorem name_ofFile (file schemaPackage : String) (option : Option String) :
    (ofFile file schemaPackage option).name =
      GoName.identifier (givenName file schemaPackage option) := by
  by_cases absent : option.getD "" = ""
  · rw [ofFile_eq_withoutOption absent, withoutOption, givenName, if_pos absent]
  · cases option with
    | none => exact absurd rfl absent
    | some option =>
        have present : option ≠ "" := absent
        rw [ofFile, if_neg present, ofOption, givenName, Option.getD_some, if_neg present]
        cases Text.cutFirst ';' option with
        | none => rw [Option.map_none, Option.getD_none]
        | some cut => rw [Option.map_some, Option.getD_some]

/-- Whether a file with an option is in a Go package without an import path. -/
inductive Pathless (file : String) (option : Option String) : Prop
  | named {name : String} : option = some (";" ++ name) → Pathless file option
  | root {base : String} : option.getD "" = "" → file = "/" ++ base → '/' ∉ base.toList →
      Pathless file option
  | extensions {count : Nat} : option.getD "" = "" →
      file = String.join (List.replicate count ".proto") → Pathless file option

theorem importPath_ofOption_eq_empty_iff (nonempty : option ≠ "") :
    (ofOption option).importPath = "" ↔ ∃ name, option = ";" ++ name := by
  rcases Text.exists_first_separator ';' option with absent | ⟨path, name, rfl, absent⟩
  · rw [ofOption, Text.cutFirst_eq_none absent]
    refine iff_of_false nonempty ?_
    rintro ⟨name, rfl⟩
    simp at absent
  · rw [ofOption, Text.cutFirst_append absent]
    constructor
    · rintro rfl
      exact ⟨name, by simp⟩
    · rintro ⟨other, equal⟩
      have cut : Text.cutFirst ';' ("" ++ String.singleton ';' ++ other) = some ("", other) :=
        Text.cutFirst_append (by simp) other
      have start : "" ++ String.singleton ';' ++ other = ";" ++ other := by simp
      rw [start, ← equal, Text.cutFirst_append absent] at cut
      exact congrArg Prod.fst (Option.some.inj cut)

private theorem notMem_join_extensions (count : Nat) :
    '/' ∉ (String.join (List.replicate count ".proto")).toList := by
  rw [String.toList_join, List.mem_flatMap]
  rintro ⟨extension, member, slash⟩
  rw [List.eq_of_mem_replicate member] at slash
  exact absurd slash (by decide)

theorem importPath_withoutOption_eq_empty_iff :
    (withoutOption file schemaPackage).importPath = "" ↔
      (∃ base, file = "/" ++ base ∧ '/' ∉ base.toList) ∨
      ∃ count, file = String.join (List.replicate count ".proto") := by
  rcases Text.exists_last_separator '/' file with absent | ⟨directory, base, rfl, absent⟩
  · have noRoot : ¬∃ base, file = "/" ++ base ∧ '/' ∉ base.toList := by
      rintro ⟨base, rfl, _⟩
      simp at absent
    rw [withoutOption, Text.cutLast_eq_none absent, or_iff_right noRoot, stem,
      Text.lastElement_of_notMem absent, Text.dropEndings_eq_empty_iff (by decide)]
  · have noExtensions : ¬∃ count, directory ++ String.singleton '/' ++ base =
        String.join (List.replicate count ".proto") := by
      rintro ⟨count, equal⟩
      refine notMem_join_extensions count ?_
      rw [← equal]
      simp
    rw [withoutOption, Text.cutLast_append _ absent, or_iff_left noExtensions]
    constructor
    · rintro rfl
      exact ⟨base, by simp, absent⟩
    · rintro ⟨other, equal, otherAbsent⟩
      have cut := Text.cutLast_append "" otherAbsent
      have start : "" ++ String.singleton '/' ++ other = "/" ++ other := by simp
      rw [start, ← equal, Text.cutLast_append _ absent] at cut
      exact congrArg Prod.fst (Option.some.inj cut)

/-- The import path of a file's Go package is empty in the three ways only. -/
theorem importPath_ofFile_eq_empty_iff {option : Option String} :
    (ofFile file schemaPackage option).importPath = "" ↔ Pathless file option := by
  by_cases none : option.getD "" = ""
  · rw [ofFile_eq_withoutOption none, importPath_withoutOption_eq_empty_iff]
    constructor
    · rintro (⟨base, isRoot, absent⟩ | ⟨count, repeats⟩)
      · exact .root none isRoot absent
      · exact .extensions none repeats
    · rintro (@⟨name, rfl⟩ | ⟨_, isRoot, absent⟩ | ⟨_, repeats⟩)
      · simp at none
      · exact .inl ⟨_, isRoot, absent⟩
      · exact .inr ⟨_, repeats⟩
  · cases option with
    | none => exact absurd rfl none
    | some option =>
        have nonempty : option ≠ "" := none
        rw [ofFile, if_neg nonempty, importPath_ofOption_eq_empty_iff nonempty]
        constructor
        · rintro ⟨name, rfl⟩
          exact .named rfl
        · rintro (named | ⟨empty, _, _⟩ | ⟨empty, _⟩)
          · exact ⟨_, Option.some.inj named⟩
          · exact absurd empty nonempty
          · exact absurd empty nonempty

end RpcProxy.Package

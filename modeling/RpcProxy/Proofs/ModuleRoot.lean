import RpcProxy.Proofs.OutputName
import RpcProxy.Proofs.Parameter
import RpcProxy.Response

/-!
# Output below a module root

A module root takes a beginning off the import path, up to the end of one of its elements. Below the
root, the output stands where it would stand without one.
-/

namespace RpcProxy

namespace Text

/-- The letters with one slash in place of several in a row. -/
def mergeSlashes : List Char → List Char
  | [] => []
  | letter :: rest =>
    if letter = '/' ∧ rest.head? = some '/' then mergeSlashes rest
    else letter :: mergeSlashes rest

/-- Two paths that differ at most in how often slashes are repeated. -/
def SamePath (left right : String) : Prop := mergeSlashes left.toList = mergeSlashes right.toList

instance (left right : String) : Decidable (SamePath left right) :=
  inferInstanceAs (Decidable (_ = _))

private theorem mergeSlashes_append (front back : List Char) :
    mergeSlashes (front ++ '/' :: '/' :: back) = mergeSlashes (front ++ '/' :: back) := by
  induction front with
  | nil => rw [List.nil_append, mergeSlashes, if_pos ⟨rfl, rfl⟩, List.nil_append]
  | cons letter rest induction =>
      have head : (rest ++ '/' :: '/' :: back).head? = (rest ++ '/' :: back).head? := by
        cases rest <;> rfl
      rw [List.cons_append, List.cons_append, mergeSlashes, mergeSlashes, head, induction]

theorem samePath_double (front back : String) :
    SamePath (front ++ "/" ++ back) (front ++ "/" ++ "/" ++ back) := by
  have once : (front ++ "/" ++ back).toList = front.toList ++ '/' :: back.toList := by simp
  have twice : (front ++ "/" ++ "/" ++ back).toList =
      front.toList ++ '/' :: '/' :: back.toList := by simp
  rw [SamePath, once, twice, mergeSlashes_append]

end Text

namespace ProtoFile

variable {file : ProtoFile} {options : Options} {moduleRoot name directory : String}

/-- Whether the Go package of a file is that of the module root or below it. -/
def IsInside (file : ProtoFile) (moduleRoot : String) : Prop :=
  file.importPath = moduleRoot ∨ ∃ rest, file.importPath = moduleRoot ++ "/" ++ rest

theorem directoryInModule_eq_ok_iff :
    file.directoryInModule moduleRoot = .ok directory ↔
      file.importPath = moduleRoot ∧ directory = "" ∨
        file.importPath = moduleRoot ++ "/" ++ directory := by
  have longer (rest : String) : moduleRoot ≠ moduleRoot ++ "/" ++ rest := by
    intro equal
    have lengths := congrArg String.length equal
    simp only [String.length_append] at lengths
    have slash : "/".length = 1 := rfl
    omega
  rw [directoryInModule]
  by_cases same : file.importPath = moduleRoot
  · simp [same, longer, eq_comm]
  · rw [if_neg same]
    cases below : Text.dropBeginning? (moduleRoot ++ "/") file.importPath with
    | none =>
        have outside : file.importPath ≠ moduleRoot ++ "/" ++ directory := by
          intro inside
          simp [Text.dropBeginning?_eq_some_iff.mpr inside] at below
        simp [same, outside]
    | some rest =>
        rw [Text.dropBeginning?_eq_some_iff] at below
        rw [or_iff_right fun inside => same inside.1, below]
        simp [eq_comm]

theorem isInside_iff :
    file.IsInside moduleRoot ↔ ∃ directory, file.directoryInModule moduleRoot = .ok directory := by
  simp only [directoryInModule_eq_ok_iff, IsInside]
  constructor
  · rintro (same | ⟨rest, below⟩)
    · exact ⟨"", .inl ⟨same, rfl⟩⟩
    · exact ⟨rest, .inr below⟩
  · rintro ⟨directory, ⟨same, _⟩ | below⟩
    · exact .inl same
    · exact .inr ⟨directory, below⟩

theorem directoryInModule_eq_error (outside : ¬file.IsInside moduleRoot) :
    file.directoryInModule moduleRoot =
      .error (.outsideModule file.name file.importPath moduleRoot) := by
  rw [IsInside, not_or] at outside
  rw [directoryInModule, if_neg outside.1]
  cases below : Text.dropBeginning? (moduleRoot ++ "/") file.importPath with
  | none => rfl
  | some rest => exact absurd ⟨rest, Text.dropBeginning?_eq_some_iff.mp below⟩ outside.2

private theorem behind_directory (standalone : Bool) {package element : String}
    (named : package ≠ "") (some : directory ≠ "") :
    inDirectory (if standalone then inDirectory directory package else directory) element =
      directory ++ "/" ++
        inDirectory (if standalone then inDirectory "" package else "") element := by
  cases standalone with
  | false => simp [inDirectory, some]
  | true =>
      have inside : inDirectory directory package ≠ "" := by simp [inDirectory, some]
      have alone : inDirectory "" package = package := by simp [inDirectory]
      rw [if_pos rfl, if_pos rfl, alone, inDirectory, if_neg inside, inDirectory, if_neg some,
        inDirectory, if_neg named]
      simp only [String.append_assoc]

private theorem samePath_behind (standalone : Bool) {package : String} (element : String)
    (named : package ≠ "") (rooted : moduleRoot ≠ "")
    (located : file.directoryInModule moduleRoot = .ok directory) :
    Text.SamePath
      (moduleRoot ++ "/" ++
        inDirectory (if standalone then inDirectory directory package else directory) element)
      (inDirectory
        (if standalone then inDirectory file.importPath package else file.importPath) element) := by
  rcases directoryInModule_eq_ok_iff.mp located with ⟨same, rfl⟩ | below
  · rw [same, behind_directory standalone named rooted]
    rfl
  · have nonempty : file.importPath ≠ "" := by simp [below]
    rw [behind_directory standalone named nonempty, below]
    by_cases none : directory = ""
    · subst none
      rw [String.append_empty]
      exact Text.samePath_double _ _
    · rw [behind_directory standalone named none]
      simp only [String.append_assoc]
      rfl

end ProtoFile

theorem Options.moduleRoot_ne_empty {options : Options} {parameter moduleRoot : String}
    (read : ofParameter parameter = .ok options) (rooted : options.moduleRoot = some moduleRoot) :
    moduleRoot ≠ "" := by
  obtain ⟨_, decided, _⟩ := ofParameter_eq_ok_iff.mp read
  obtain ⟨_, _, leaves⟩ := (decided.moduleRoot moduleRoot).mp rooted
  cases leaves with
  | path _ nonempty _ => exact nonempty

namespace ProtoFile

/-- A file without services whose Go package is at an import path. -/
def fileAt (importPath : String) : ProtoFile where
  name := "p/x.proto"
  dialect := .proto3
  packageName := "x"
  importPath := importPath
  generate := true
  services := []

end ProtoFile

end RpcProxy

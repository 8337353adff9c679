import RpcProxy.Generate
import RpcProxy.Proofs.Except
import RpcProxy.Proofs.Text

/-!
# Names of output files

The name of an output file is a directory, a directory for the package if that is the file's own,
and the last element of the schema file's name. Nothing of these is lost in the name, so two files
share a name exactly if they agree in all three.
-/

namespace RpcProxy

/-- A name in a directory; an empty directory is none. -/
def inDirectory (directory name : String) : String :=
  if directory = "" then name else directory ++ "/" ++ name

private theorem cutLast_inDirectory {directory name : String} (element : '/' ∉ name.toList) :
    Text.cutLast '/' (inDirectory directory name) =
      if directory = "" then none else some (directory, name) := by
  rw [inDirectory]
  split
  · exact Text.cutLast_eq_none element
  · exact Text.cutLast_append directory element

theorem lastElement_inDirectory (directory : String) {name : String} (element : '/' ∉ name.toList) :
    Text.lastElement (inDirectory directory name) = name := by
  rw [inDirectory]
  split
  · exact Text.lastElement_of_notMem element
  · exact Text.lastElement_inside directory element

/-- A name in a directory keeps both apart. -/
theorem inDirectory_eq_iff {left right directory other : String} (element : '/' ∉ left.toList)
    (otherElement : '/' ∉ right.toList) :
    inDirectory directory left = inDirectory other right ↔ directory = other ∧ left = right := by
  constructor
  · intro equal
    have cuts := congrArg (Text.cutLast '/') equal
    rw [cutLast_inDirectory element, cutLast_inDirectory otherElement] at cuts
    by_cases none : directory = ""
    · have otherNone : other = "" := by
        by_contra some
        simp [none, some] at cuts
      refine ⟨none.trans otherNone.symm, ?_⟩
      simpa [inDirectory, none, otherNone] using equal
    · have otherSome : other ≠ "" := by
        intro otherNone
        simp [none, otherNone] at cuts
      simpa [none, otherSome] using cuts
  · rintro ⟨rfl, rfl⟩
    rfl

namespace ProtoFile

variable {file left right : ProtoFile} {options : Options}

def stem (file : ProtoFile) : String := (Text.dropEnding? ".proto" file.name).getD file.name

/-- The stem is cut at its last slash, if it has one. -/
theorem source_spec (file : ProtoFile) :
    '/' ∉ file.source.2.toList ∧
      (file.stem = file.source.1 ++ "/" ++ file.source.2 ∨
        file.source.1 = "" ∧ file.stem = file.source.2) := by
  have source : file.source = (Text.cutLast '/' file.stem).getD ("", file.stem) := rfl
  rcases Text.exists_last_separator '/' file.stem with absent | ⟨before, after, equal, absent⟩
  · rw [source, Text.cutLast_eq_none absent]
    exact ⟨absent, .inr ⟨rfl, rfl⟩⟩
  · rw [source, equal, Text.cutLast_append before absent]
    exact ⟨absent, .inl rfl⟩

theorem outputName_eq_ok_iff {name : String} :
    file.outputName options = .ok name ↔
      ∃ directory, file.outputDirectory options = .ok directory ∧
        name = inDirectory
          (if options.standalone then inDirectory directory file.standalonePackage else directory)
          (file.source.2 ++ "_proxy.pb.go") := by
  have ownDirectory (directory : String) : inDirectory directory file.standalonePackage ≠ "" := by
    rw [inDirectory, standalonePackage]
    split <;> simp
  have written (directory : String) : String.intercalate "/"
      ((if directory = "" then [] else [directory])
        ++ (if options.standalone then [file.standalonePackage] else [])
        ++ [file.source.2 ++ "_proxy.pb.go"]) =
      inDirectory
        (if options.standalone then inDirectory directory file.standalonePackage else directory)
        (file.source.2 ++ "_proxy.pb.go") := by
    cases options.standalone with
    | false => by_cases none : directory = "" <;> simp [inDirectory, none]
    | true =>
        rw [if_pos rfl, if_pos rfl, inDirectory, if_neg (ownDirectory directory), inDirectory]
        by_cases none : directory = "" <;> simp [none, String.append_assoc]
  rw [outputName, Except.bind_eq_ok_iff]
  simp only [pure, Except.pure, Except.ok.injEq, written]
  exact exists_congr fun directory => and_congr_right fun _ => eq_comm

/-- Two files give output files of one name: in one directory, with one last element, and in
packages of one name if these have directories of their own. -/
structure SharesOutput (left right : ProtoFile) (options : Options) : Prop where
  directory : left.outputDirectory options = right.outputDirectory options
  element : left.source.2 = right.source.2
  package : options.standalone = true → left.packageName = right.packageName

theorem outputName_eq_iff {leftName rightName : String} (leftPlain : '/' ∉ left.packageName.toList)
    (rightPlain : '/' ∉ right.packageName.toList)
    (leftNamed : left.outputName options = .ok leftName)
    (rightNamed : right.outputName options = .ok rightName) :
    leftName = rightName ↔ left.SharesOutput right options := by
  obtain ⟨directory, leftDirectory, rfl⟩ := outputName_eq_ok_iff.mp leftNamed
  obtain ⟨other, rightDirectory, rfl⟩ := outputName_eq_ok_iff.mp rightNamed
  have element (file : ProtoFile) : '/' ∉ (file.source.2 ++ "_proxy.pb.go").toList := by
    simpa using (source_spec file).1
  have ownPackage {file : ProtoFile} (plain : '/' ∉ file.packageName.toList) :
      '/' ∉ file.standalonePackage.toList := by
    simpa [standalonePackage] using plain
  have directories : left.outputDirectory options = right.outputDirectory options ↔
      directory = other := by
    simp [leftDirectory, rightDirectory]
  rw [inDirectory_eq_iff (element left) (element right), String.append_left_inj]
  cases standalone : options.standalone with
  | false =>
      constructor
      · exact fun equal => ⟨directories.mpr equal.1, equal.2, by simp [standalone]⟩
      · exact fun shares => ⟨directories.mp shares.directory, shares.element⟩
  | true =>
      rw [if_pos rfl, if_pos rfl, inDirectory_eq_iff (ownPackage leftPlain) (ownPackage rightPlain),
        standalonePackage, standalonePackage, String.append_left_inj]
      constructor
      · exact fun equal => ⟨directories.mpr equal.1.1, equal.2, fun _ => equal.1.2⟩
      · exact fun shares =>
          ⟨⟨directories.mp shares.directory, shares.package standalone⟩, shares.element⟩

/-- The name of a schema file that has the extension and does not start at the root. -/
def IsSourceName (name : String) : Prop :=
  ∃ stem, name = stem ++ ".proto" ∧ stem.toList.head? ≠ some '/'

private theorem name_eq_of_isSourceName (source : IsSourceName file.name) :
    file.name = inDirectory file.source.1 file.source.2 ++ ".proto" := by
  obtain ⟨stem, name, relative⟩ := source
  have isStem : file.stem = stem := by
    rw [ProtoFile.stem, Text.dropEnding?_eq_some_iff.mpr name, Option.getD_some]
  rw [name, String.append_left_inj, ← isStem]
  rcases (source_spec file).2 with inside | ⟨none, equal⟩
  · have some : file.source.1 ≠ "" := by
      intro none
      rw [← isStem, inside, none] at relative
      simp at relative
    rw [inDirectory, if_neg some, inside]
  · rw [inDirectory, if_pos none, equal]

/-- Output files beside their sources have one name only if the sources have. -/
theorem name_eq_of_sharesOutput (beside : options.outputRoot = none)
    (layout : options.layout = .sourceRelative) (leftSource : IsSourceName left.name)
    (rightSource : IsSourceName right.name) (shares : left.SharesOutput right options) :
    left.name = right.name := by
  have directory (file : ProtoFile) : file.outputDirectory options = .ok file.source.1 := by
    rw [outputDirectory, beside, layout]
  have directories : left.source.1 = right.source.1 := by
    simpa [directory] using shares.directory
  rw [name_eq_of_isSourceName leftSource, name_eq_of_isSourceName rightSource, directories,
    shares.element]

end ProtoFile

end RpcProxy

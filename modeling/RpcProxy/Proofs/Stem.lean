import RpcProxy.Proofs.OutputName
import RpcProxy.Proofs.Package

/-!
# Stems of schema files

Without an option a Go package is named after the stem of its file, and a file in no directory has
it as its import path. The output file is named after the file's own name without its extension.
Both are beginnings of the last element of the name: the stem lacks all extensions at its end, the
output file only the last one.
-/

namespace RpcProxy

/-- Whether the last element of a file name ends with its extension twice. -/
def RepeatsExtension (file : String) : Prop :=
  ∃ rest, Text.lastElement file = rest ++ ".proto.proto"

namespace ProtoFile

variable {file : ProtoFile}

/-- What the output file is named after is the last element of the file's name without one
extension. -/
theorem source_snd (file : ProtoFile) :
    file.source.2 = (Text.dropEnding? ".proto" (Text.lastElement file.name)).getD
      (Text.lastElement file.name) := by
  obtain ⟨element, isStem⟩ := file.source_spec
  have last : Text.lastElement file.stem = file.source.2 := by
    rcases isStem with inside | ⟨_, whole⟩
    · rw [inside, Text.lastElement_inside _ element]
    · rw [whole, Text.lastElement_of_notMem element]
  cases ends : Text.dropEnding? ".proto" file.name with
  | some stem =>
      have isStem : file.stem = stem := by rw [ProtoFile.stem, ends, Option.getD_some]
      rw [Text.dropEnding?_eq_some_iff.mp ends, Text.lastElement_append _ (by simp), ← isStem, last,
        Text.dropEnding?_append, Option.getD_some]
  | none =>
      have whole : file.stem = file.name := by rw [ProtoFile.stem, ends, Option.getD_none]
      -- An ending of the last element would be one of the name.
      have elementEnds : Text.dropEnding? ".proto" file.source.2 = none := by
        rw [Text.dropEnding?_eq_none_iff] at ends ⊢
        rintro ⟨rest, base⟩
        rcases isStem with inside | ⟨_, equal⟩
        · refine ends ⟨file.source.1 ++ "/" ++ rest, ?_⟩
          rw [← whole, inside, base]
          simp only [String.append_assoc]
        · exact ends ⟨rest, by rw [← whole, equal, base]⟩
      rw [← whole, last, elementEnds, Option.getD_none]

/-- The output file is named after the stem with all extensions but one behind it. -/
theorem exists_source_snd_eq (file : ProtoFile) :
    ∃ count, file.source.2 =
      Package.stem file.name ++ String.join (List.replicate count ".proto") := by
  obtain ⟨ends, count, last⟩ := Package.stem_spec file.name
  rw [source_snd, last]
  cases count with
  | zero =>
      refine ⟨0, ?_⟩
      rw [List.replicate_zero, String.join_nil, String.append_empty, ends, Option.getD_none]
  | succ count =>
      refine ⟨count, ?_⟩
      rw [List.replicate_succ', String.join_append, ← String.append_assoc]
      simp

/-- The stem is what the output file is named after, unless the extension is repeated. -/
theorem stem_eq_source_snd_iff :
    Package.stem file.name = file.source.2 ↔ ¬RepeatsExtension file.name := by
  rw [Package.stem, Text.dropEndings_eq_iff (by decide), source_snd, RepeatsExtension]
  cases ends : Text.dropEnding? ".proto" (Text.lastElement file.name) with
  | none =>
      rw [Option.getD_none, and_iff_left ⟨0, by simp⟩, iff_true_left ends]
      rw [Text.dropEnding?_eq_none_iff] at ends
      rintro ⟨rest, last⟩
      exact ends ⟨rest ++ ".proto", by rw [last, String.append_assoc]; rfl⟩
  | some base =>
      have last := Text.dropEnding?_eq_some_iff.mp ends
      rw [Option.getD_some, and_iff_left ⟨1, by simpa using last⟩, Text.dropEnding?_eq_none_iff,
        last]
      refine not_congr (exists_congr fun rest => ?_)
      have twice : rest ++ ".proto.proto" = rest ++ ".proto" ++ ".proto" := by
        rw [String.append_assoc]
        rfl
      rw [twice, String.append_left_inj]

/-- The output file is named after the last element of the file's name without one extension. A Go
package without an option is named after the stem in no schema package, and has it as its import
path in no directory. What the output file is named after is the stem with extensions behind it. It
is the stem itself exactly if the last element does not end with its extension twice. -/
theorem stems_agree_iff (file : ProtoFile) :
    file.source.2 = (Text.dropEnding? ".proto" (Text.lastElement file.name)).getD
      (Text.lastElement file.name) ∧
    (∀ options name, file.outputName options = .ok name →
      Text.lastElement name = file.source.2 ++ "_proxy.pb.go") ∧
    (∀ option : Option String, option.getD "" = "" →
      (Package.ofFile file.name "" option).name = GoName.identifier (Package.stem file.name) ∧
      ('/' ∉ file.name.toList → ∀ schemaPackage,
        (Package.ofFile file.name schemaPackage option).importPath = Package.stem file.name)) ∧
    (∃ count, file.source.2 =
      Package.stem file.name ++ String.join (List.replicate count ".proto")) ∧
    (Package.stem file.name = file.source.2 ↔ ¬RepeatsExtension file.name) := by
  refine ⟨source_snd file, fun options name named => ?_, fun option absent => ⟨?_, ?_⟩,
    exists_source_snd_eq file, stem_eq_source_snd_iff⟩
  · obtain ⟨directory, _, rfl⟩ := outputName_eq_ok_iff.mp named
    exact lastElement_inDirectory _ (by simpa using (source_spec file).1)
  · rw [Package.name_ofFile, Package.givenName, if_pos absent, if_pos rfl]
  · intro element schemaPackage
    rw [Package.ofFile_eq_withoutOption absent, Package.withoutOption, Text.cutLast_eq_none element]

/-- A file without an option and a schema package. -/
def unpackaged (name : String) : ProtoFile where
  name := name
  dialect := .proto3
  packageName := (Package.ofFile name "" none).name
  importPath := (Package.ofFile name "" none).importPath
  generate := true
  services := []

theorem stems_agree_iff_dotted :
    (unpackaged "greeter.v1.proto").outputName {} = .ok "greeter.v1/greeter.v1_proxy.pb.go" ∧
    Text.lastElement "greeter.v1/greeter.v1_proxy.pb.go" =
      (unpackaged "greeter.v1.proto").source.2 ++ "_proxy.pb.go" ∧
    (none : Option String).getD "" = "" ∧ '/' ∉ "greeter.v1.proto".toList ∧
    (Package.ofFile "greeter.v1.proto" "" none).importPath = "greeter.v1" ∧
    ¬RepeatsExtension "greeter.v1.proto" := by
  obtain ⟨_, output, package, _, agree⟩ := stems_agree_iff (unpackaged "greeter.v1.proto")
  have named : (unpackaged "greeter.v1.proto").outputName {} =
      .ok "greeter.v1/greeter.v1_proxy.pb.go" := by decide +kernel
  have element : '/' ∉ "greeter.v1.proto".toList := by decide
  have path := (package none rfl).2 element ""
  have stem : Package.stem "greeter.v1.proto" = "greeter.v1" := by decide +kernel
  exact ⟨named, output {} _ named, rfl, element, path.trans stem, agree.mp (by decide +kernel)⟩

/-- A file whose name repeats the extension has two stems. -/
theorem stems_differ :
    (Package.ofFile "a.proto.proto" "" none).importPath = "a" ∧
    (Package.ofFile "a.proto.proto" "" none).name = "a" ∧
    (unpackaged "a.proto.proto").source.2 = "a.proto" ∧
    (unpackaged "a.proto.proto").outputName {} = .ok "a/a.proto_proxy.pb.go" := by
  decide +kernel

end ProtoFile

end RpcProxy

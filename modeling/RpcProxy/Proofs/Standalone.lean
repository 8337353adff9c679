import RpcProxy.LinkedRequest
import RpcProxy.Proofs.Declarations
import RpcProxy.Proofs.Package
import RpcProxy.Proofs.References

/-!
# Proxies in packages of their own

A proxy in a package of its own has nothing of its file's package in reach and refers to it by an
alias. That no path is local there is expressed by the empty path, and this path is taken at its
word: a file whose Go package has no import path still finds its identifiers written alone, and
nothing uses the alias of the package.
-/

namespace RpcProxy

/-- Whether a reference is one of the file and stands in a line of its body, not counting comments.
-/
def ProxySource.Writes (source : ProxySource) (reference : Reference) : Prop :=
  reference ∈ source.references ∧ ∃ line ∈ source.body, ¬IsComment line ∧ reference.StandsIn line

theorem ProxySource.writes_iff {source : ProxySource} {reference : Reference} :
    source.Writes reference ↔ reference ∈ source.references :=
  and_iff_left_of_imp exists_line_of_mem_references

/-- The identifiers that a file refers to in its own package. -/
def ProtoFile.RefersToOwn (file : ProtoFile) (ident : Identifier) : Prop :=
  file.RefersTo ident ∧ ident.importPath = file.importPath

/-- Whether everything that a generated file refers to in the package of its schema file is written
behind the qualifier, and nothing of it alone. -/
structure ProxySource.Qualifies (source : ProxySource) (file : ProtoFile) (qualifier : String) :
    Prop where
  writes : ∀ ident, file.RefersToOwn ident → source.Writes ⟨some qualifier, ident.name⟩
  uses : source.Uses qualifier
  notAlone : ∀ ident, file.RefersToOwn ident → ¬source.Writes ⟨none, ident.name⟩

namespace ProtoFile

variable {file : ProtoFile} {options : Options} {source : ProxySource} {ident : Identifier}

theorem exists_refersToOwn (declares : file.services ≠ []) : ∃ ident, file.RefersToOwn ident := by
  obtain ⟨service, member⟩ := List.exists_mem_of_ne_nil _ declares
  exact ⟨_, .register member, rfl⟩

/-- No identifier of the package of a file is named like the type of errors, if the messages have
exported names. -/
theorem RefersTo.name_ne_error
    (exported : ∀ message ∈ file.spelled, ∃ name, message.identifier.name = GoName.exported name)
    (refersTo : file.RefersTo ident) : ident.name ≠ "error" := by
  cases refersTo with
  | register | unimplemented =>
      intro equal
      have first := congrArg (fun name => name.toList.head?) equal
      simp at first
  | stream =>
      intro equal
      have underscore := congrArg (fun name => '_' ∈ name.toList) equal
      simp at underscore
  | message spells =>
      obtain ⟨name, isExported⟩ := exported _ (mem_spelled_iff.mpr spells)
      intro equal
      have first : (GoName.exported name).toList.head? = some 'e' := by
        rw [← isExported, equal]
        rfl
      exact absurd (GoName.isLower_head?_exported first) (by decide)

private theorem refer_of_standalone (standalone : options.standalone = true) :
    (file.scope options).refer ident =
      if ident.importPath = "" then ⟨none, ident.name⟩
      else ⟨(file.scope options).imports.aliasOf? ident.importPath, ident.name⟩ := by
  have localPath : (file.scope options).localPath = "" := if_pos standalone
  rw [Scope.refer, localPath]

/-- What stands alone in a file with a package of its own is the type of errors and what is in
packages without an import path. -/
theorem mem_references_alone_iff (standalone : options.standalone = true)
    (generated : file.proxySource options = .ok source) {name : String} :
    ⟨none, name⟩ ∈ source.references ↔
      (file.methods ≠ [] ∧ name = "error") ∨
        ∃ ident, file.RefersTo ident ∧ ident.importPath = "" ∧ ident.name = name := by
  rw [mem_references_iff generated]
  constructor
  · rintro (⟨ident, refersTo, equal⟩ | ⟨_, equal⟩ | ⟨_, equal⟩ | ⟨⟨method, member⟩, equal⟩)
    · rw [refer_of_standalone standalone] at equal
      split at equal
      · rename_i pathless
        exact .inr ⟨ident, refersTo, pathless, (congrArg Reference.name equal).symm⟩
      · rename_i path
        obtain ⟨qualifier, found⟩ := (refersTo.reached options).resolve_left
          fun isLocal => path (isLocal.trans (if_pos standalone))
        rw [found] at equal
        simp at equal
    · simp [GoType.context, GoType.reference] at equal
    · simp [Reference.emptyMessage] at equal
    · exact .inl ⟨List.ne_nil_of_mem member, congrArg Reference.name equal⟩
  · rintro (⟨declares, rfl⟩ | ⟨ident, refersTo, pathless, rfl⟩)
    · exact .inr (.inr (.inr ⟨List.exists_mem_of_ne_nil _ declares, rfl⟩))
    · exact .inl ⟨ident, refersTo, by rw [refer_of_standalone standalone, if_pos pathless]⟩

/-- Nothing is referred to by the alias of the empty path. -/
theorem qualifier_ne_of_pathless (standalone : options.standalone = true)
    (generated : file.proxySource options = .ok source) {qualifier : String}
    (found : (file.scope options).imports.aliasOf? "" = some qualifier) {reference : Reference}
    (refers : reference ∈ source.references) : reference.qualifier ≠ some qualifier := by
  intro behind
  have path {path : String} (bound : (file.scope options).imports.aliasOf? path = some qualifier) :
      path = "" := distinct_scope file options bound found
  rcases (mem_references_iff generated).mp refers with
    ⟨ident, _, rfl⟩ | ⟨⟨method, member, unary⟩, rfl⟩ | ⟨⟨message, spells, empty⟩, rfl⟩ | ⟨_, rfl⟩
  · rw [refer_of_standalone standalone] at behind
    split at behind
    · simp at behind
    · rename_i hasPath
      exact hasPath (path behind)
  · obtain rfl : "context" = qualifier := Option.some.inj behind
    exact absurd (path (aliasOf?_context member unary)) (by decide)
  · obtain rfl : "emptypb" = qualifier := Option.some.inj behind
    exact absurd (path (aliasOf?_emptyPath spells empty)) (by decide)
  · simp [GoType.error, GoType.reference] at behind

/-- A file with a package of its own keeps to the qualifier of its schema file's package exactly if
this package has an import path and what has none is named otherwise. -/
theorem qualifies_iff (standalone : options.standalone = true)
    (generated : file.proxySource options = .ok source) (declares : file.services ≠ [])
    (exported : ∀ message ∈ file.spelled, ∃ name, message.identifier.name = GoName.exported name)
    {qualifier : String}
    (found : (file.scope options).imports.aliasOf? file.importPath = some qualifier) :
    source.Qualifies file qualifier ↔
      file.importPath ≠ "" ∧
        ∀ own, file.RefersToOwn own → ∀ other, file.RefersTo other → other.importPath = "" →
          own.name ≠ other.name := by
  obtain ⟨first, isOwn⟩ := exists_refersToOwn declares
  constructor
  · intro qualifies
    have apart : ∀ own, file.RefersToOwn own → ∀ other, file.RefersTo other →
        other.importPath = "" → own.name ≠ other.name := by
      intro own isOwn other refersTo pathless same
      refine qualifies.notAlone own isOwn (ProxySource.writes_iff.mpr ?_)
      exact (mem_references_alone_iff standalone generated).mpr
        (.inr ⟨other, refersTo, pathless, same.symm⟩)
    exact ⟨fun pathless => apart first isOwn first isOwn.1 (isOwn.2.trans pathless) rfl, apart⟩
  · rintro ⟨path, apart⟩
    have refers {own : Identifier} (isOwn : file.RefersToOwn own) :
        ⟨some qualifier, own.name⟩ ∈ source.references := by
      refine (mem_references_iff generated).mpr (.inl ⟨own, isOwn.1, ?_⟩)
      rw [refer_of_standalone standalone, if_neg (isOwn.2 ▸ path), isOwn.2, found]
    refine ⟨fun own isOwn => ProxySource.writes_iff.mpr (refers isOwn),
      ProxySource.uses_of_mem_references (refers isOwn), fun own isOwn writes => ?_⟩
    have refersAlone := ProxySource.writes_iff.mp writes
    rcases (mem_references_alone_iff standalone generated).mp refersAlone with
      ⟨_, isError⟩ | ⟨other, refersTo, pathless, same⟩
    · exact isOwn.1.name_ne_error exported isError
    · exact apart own isOwn other refersTo pathless same.symm

end ProtoFile

namespace LinkedRequest

variable {linked : LinkedRequest} {parsedWith options : Options} {files : List ProtoFile}
  {file : ProtoFile} {output : OutputFile}

theorem parse_eq_ok_iff :
    linked.parse = .ok (options, files) ↔
      linked.options = .ok options ∧ linked.files options = .ok files := by
  simp only [parse, Except.bind_eq_ok_iff, pure, Except.pure, Except.ok.injEq, Prod.mk.injEq]
  constructor
  · rintro ⟨_, read, _, made, rfl, rfl⟩
    exact ⟨read, made⟩
  · rintro ⟨read, made⟩
    exact ⟨_, read, _, made, rfl, rfl⟩

/-- The import path of a parsed file is empty exactly if its declaration, with what the options say
instead of its own option, gives its Go package none. -/
theorem exists_decl_pathless_iff (parsed : linked.files parsedWith = .ok files)
    (member : file ∈ files) :
    ∃ decl ∈ linked.pool.decls, decl.name.getD "" = file.name ∧
      (file.importPath = "" ↔ Package.Pathless file.name
        ((parsedWith.packageOf.find? file.name).or decl.goPackageOption)) := by
  have made := Schema.ofPool_eq_ok_iff.mp (Except.mapError_eq_ok_iff.mp parsed)
  obtain ⟨linkedFile, inPool, made⟩ := made.flip.exists_of_mem member
  obtain ⟨_, _, _, _, rfl⟩ := Schema.file_eq_ok_iff.mp made
  exact ⟨linkedFile.decl, List.mem_map_of_mem inPool, rfl, Package.importPath_ofFile_eq_empty_iff⟩

/-- A parsed file that gets a proxy in a package of its own finds the identifiers of its own package
behind the alias of its import path, and not alone, exactly if this path is not empty and nothing
from a package without one has a name of theirs. With an empty path all of them are written alone,
and nothing is referred to by the alias. -/
theorem standalone_qualifies_own (parsed : linked.files parsedWith = .ok files)
    (member : file ∈ files) (standalone : options.standalone = true)
    (written : file.output options = .ok (some output)) :
    ∃ source qualifier, file.proxySource options = .ok source ∧ source.text = output.content ∧
      ⟨qualifier, file.importPath⟩ ∈ source.imports ∧
      (source.Qualifies file qualifier ↔
        file.importPath ≠ "" ∧
          ∀ own, file.RefersToOwn own → ∀ other, file.RefersTo other → other.importPath = "" →
            own.name ≠ other.name) ∧
      (file.importPath = "" →
        (∀ own, file.RefersToOwn own → source.Writes ⟨none, own.name⟩) ∧
          ∀ reference ∈ source.references, reference.qualifier ≠ some qualifier) ∧
      ∃ decl ∈ linked.pool.decls, decl.name.getD "" = file.name ∧
        (file.importPath = "" ↔ Package.Pathless file.name
          ((parsedWith.packageOf.find? file.name).or decl.goPackageOption)) := by
  obtain ⟨declares, _, source, generated, text⟩ := ProtoFile.output_eq_ok_some_iff.mp written
  obtain ⟨qualifier, found⟩ : ∃ qualifier,
      (file.scope options).imports.aliasOf? file.importPath = some qualifier :=
    Option.isSome_iff_exists.mp (ProtoFile.isSome_aliasOf?_scope_iff.mpr (.own standalone))
  have made := Except.mapError_eq_ok_iff.mp parsed
  have exported : ∀ message ∈ file.spelled,
      ∃ name, message.identifier.name = GoName.exported name :=
    fun message spelled => Schema.exists_exported made member spelled
  refine ⟨source, qualifier, generated, text, ?_,
    ProtoFile.qualifies_iff standalone generated declares exported found, fun pathless => ⟨?_, ?_⟩,
    exists_decl_pathless_iff parsed member⟩
  · rw [ProtoFile.imports_of_proxySource generated]
    exact ImportTable.mem_imports_iff.mpr found
  · intro own isOwn
    rw [ProxySource.writes_iff, ProtoFile.mem_references_alone_iff standalone generated]
    exact .inr ⟨own, isOwn.1, isOwn.2.trans pathless, rfl⟩
  · rw [pathless] at found
    exact fun reference => ProtoFile.qualifier_ne_of_pathless standalone generated found

/-- A request for a proxy in a package of its own, with the option that names the Go package of the
file. -/
def greeterIn (goPackage : String) : Request where
  filesToGenerate := ["greeter.proto"]
  parameter := some "standalone"
  files :=
    [{ name := some "greeter.proto", package := some "greeter", dialect := some "proto3"
       messages := [{ name := some "Word" }]
       services :=
        [{ name := some "Greeter", methods :=
            [{ name := some "Chat", inputType := some "Word", outputType := some "Word"
               clientStreaming := some true },
             { name := some "Greet", inputType := some "Word", outputType := some "Word" }] }]
       options := some { goPackage := some goPackage } }]

theorem standalone_qualifies_own_greeter :
    ∃ linked options files, ofRequest (greeterIn "example.com/greeter") = .ok linked ∧
      linked.parse = .ok (options, files) ∧ options.standalone = true ∧
      ∃ file ∈ files, ∃ source, file.proxySource options = .ok source ∧
        ∃ qualifier, source.Qualifies file qualifier := by
  have runs : (ofRequest (greeterIn "example.com/greeter") >>= parse).toOption.any (fun parsed =>
      parsed.1.standalone = true ∧ ∃ file ∈ parsed.2,
        (file.output parsed.1).toOption.any (fun output => output.isSome = true) = true ∧
        file.importPath ≠ "" ∧ ∀ message ∈ file.spelled, message.identifier.importPath ≠ "") =
      true := by
    decide +kernel
  obtain ⟨⟨options, files⟩, result, standalone, file, member, output, path, paths⟩ :=
    Except.exists_eq_ok_and runs
  obtain ⟨linked, links, parsed⟩ := Except.bind_eq_ok_iff.mp result
  obtain ⟨_, written, isSome⟩ := Except.exists_eq_ok_and output
  obtain ⟨output, rfl⟩ := Option.isSome_iff_exists.mp isSome
  obtain ⟨source, qualifier, generated, _, _, qualifies, _⟩ :=
    standalone_qualifies_own (parse_eq_ok_iff.mp parsed).2 member standalone written
  refine ⟨linked, options, files, links, parsed, standalone, file, member, source, generated,
    qualifier, qualifies.mpr ⟨path, fun _ _ other refersTo pathless => ?_⟩⟩
  cases refersTo with
  | register | unimplemented | stream => exact absurd pathless path
  | message spells => exact absurd pathless (paths _ (ProtoFile.mem_spelled_iff.mpr spells))

/-- A file whose option names a package only is imported by the empty path under an alias that
nothing is written behind. -/
theorem greeter_written_alone :
    ∃ linked options files, ofRequest (greeterIn ";greeter") = .ok linked ∧
      linked.parse = .ok (options, files) ∧ options.standalone = true ∧
      ∃ file ∈ files, ∃ output source, file.output options = .ok (some output) ∧
        file.proxySource options = .ok source ∧ ⟨"greeter", file.importPath⟩ ∈ source.imports ∧
        ⟨none, "RegisterGreeterServer"⟩ ∈ source.references ∧
        (∀ reference ∈ source.references, reference.qualifier ≠ some "greeter") ∧
        ∀ qualifier, ¬source.Qualifies file qualifier := by
  have runs : (ofRequest (greeterIn ";greeter") >>= parse).toOption.any (fun parsed =>
      parsed.1.standalone = true ∧ ∃ file ∈ parsed.2,
        (file.output parsed.1).toOption.any (fun output => output.isSome = true) = true ∧
        (file.proxySource parsed.1).toOption.any (fun source =>
          ⟨"greeter", file.importPath⟩ ∈ source.imports ∧
          ⟨none, "RegisterGreeterServer"⟩ ∈ source.references ∧
          ∀ reference ∈ source.references, reference.qualifier ≠ some "greeter") = true ∧
        ∃ service ∈ file.services, service.name = "Greeter") = true := by
    decide +kernel
  obtain ⟨⟨options, files⟩, result, standalone, file, member, output, source, service, declared,
    named⟩ := Except.exists_eq_ok_and runs
  obtain ⟨linked, links, parsed⟩ := Except.bind_eq_ok_iff.mp result
  obtain ⟨_, written, isSome⟩ := Except.exists_eq_ok_and output
  obtain ⟨output, rfl⟩ := Option.isSome_iff_exists.mp isSome
  obtain ⟨source, generated, imported, alone, unused⟩ := Except.exists_eq_ok_and source
  refine ⟨linked, options, files, links, parsed, standalone, file, member, output, source, written,
    generated, imported, alone, unused, fun qualifier qualifies => ?_⟩
  refine qualifies.notAlone _ ⟨.register declared, rfl⟩ (ProxySource.writes_iff.mpr ?_)
  rw [named]
  exact alone

end LinkedRequest

end RpcProxy

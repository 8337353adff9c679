import RpcProxy.Proofs.Generate
import RpcProxy.Proofs.ProxySource
import RpcProxy.Proofs.Scope

/-!
# The order of methods

The proxies of a file do not depend on the order in which its services declare their methods, except
for the aliases of imported packages. If messages of one package come with different package names,
the last one that is spelled names the package, and another order can make it a different one.
-/

namespace RpcProxy

/-- A service with the methods of another one in any order. -/
structure Service.Reordered (service other : Service) : Prop where
  name : service.name = other.name
  methods : service.methods.Perm other.methods

/-- A file with the services of another one, each with its methods in any order. -/
structure ProtoFile.Reordered (file other : ProtoFile) : Prop where
  name : file.name = other.name
  dialect : file.dialect = other.dialect
  packageName : file.packageName = other.packageName
  importPath : file.importPath = other.importPath
  generate : file.generate = other.generate
  services : List.Forall₂ Service.Reordered file.services other.services

theorem Service.Reordered.symm {service other : Service} (reordered : service.Reordered other) :
    other.Reordered service :=
  ⟨reordered.name.symm, reordered.methods.symm⟩

namespace ProtoFile.Reordered

variable {file other : ProtoFile} {options : Options}

theorem symm (reordered : file.Reordered other) : other.Reordered file where
  name := reordered.name.symm
  dialect := reordered.dialect.symm
  packageName := reordered.packageName.symm
  importPath := reordered.importPath.symm
  generate := reordered.generate.symm
  services := (reordered.services.imp fun _ _ => Service.Reordered.symm).flip

private theorem flatMap_methods {services others : List Service}
    (reordered : List.Forall₂ Service.Reordered services others) :
    (services.flatMap (·.methods)).Perm (others.flatMap (·.methods)) := by
  induction reordered with
  | nil => exact .refl _
  | cons first _ induction =>
      rw [List.flatMap_cons, List.flatMap_cons]
      exact first.methods.append induction

theorem methods (reordered : file.Reordered other) : file.methods.Perm other.methods :=
  flatMap_methods reordered.services

theorem spells_iff (reordered : file.Reordered other) {message : Message} :
    file.Spells message ↔ other.Spells message := by
  simp only [Spells, reordered.methods.mem_iff]

theorem localPath (reordered : file.Reordered other) (options : Options) :
    file.localPath options = other.localPath options := by
  rw [ProtoFile.localPath, ProtoFile.localPath, reordered.importPath]

theorem outputName (reordered : file.Reordered other) (options : Options) :
    file.outputName options = other.outputName options :=
  outputName_congr reordered.name reordered.packageName reordered.importPath options

theorem fixedRequests (reordered : file.Reordered other) :
    file.fixedRequests = other.fixedRequests := by
  have unary : file.methods.any Method.isUnary = other.methods.any Method.isUnary :=
    reordered.methods.any_eq
  have empty : file.spelled.any Message.isEmpty = other.spelled.any Message.isEmpty :=
    (reordered.methods.flatMap_right Method.spelled).any_eq
  rw [ProtoFile.fixedRequests, ProtoFile.fixedRequests, unary, empty]

theorem services_eq_nil_iff (reordered : file.Reordered other) :
    file.services = [] ↔ other.services = [] := by
  rw [← List.length_eq_zero_iff, ← List.length_eq_zero_iff, reordered.services.length_eq]

private theorem serviceProxy (reordered : file.Reordered other) {scope : Scope}
    {service otherService : Service} (sameService : service.Reordered otherService)
    {proxy : ServiceProxy} (declared : file.serviceProxy scope service = .ok proxy) :
    other.serviceProxy scope otherService = .ok proxy := by
  obtain ⟨signatures, result, rfl⟩ := serviceProxy_eq_ok_iff.mp declared
  have ident : file.identifierOf service = other.identifierOf otherService := by
    rw [identifierOf, identifierOf, sameService.name, reordered.importPath]
  have proxyName : file.proxyName service = other.proxyName otherService :=
    proxyName_congr reordered.services.length_eq sameService.name
  refine serviceProxy_eq_ok_iff.mpr ⟨signatures, ?_, ?_⟩
  · rw [← ident]
    exact Service.signatures_perm sameService.methods result
  · rw [proxyName, sameService.name, reordered.importPath]

private theorem serviceProxies (reordered : file.Reordered other) {scope : Scope}
    {proxies : List ServiceProxy}
    (declared : file.serviceProxies scope file.services = .ok proxies) :
    other.serviceProxies scope other.services = .ok proxies := by
  rw [serviceProxies_eq_ok_iff] at declared ⊢
  exact reordered.symm.services.compose declared fun _ _ _ sameService proxy =>
    reordered.serviceProxy sameService.symm proxy

/-- In one scope the order of the methods does not matter. -/
theorem proxySource (reordered : file.Reordered other)
    (scope : file.scope options = other.scope options) {source : ProxySource}
    (generated : file.proxySource options = .ok source) :
    other.proxySource options = .ok source := by
  obtain ⟨proxies, declared, rfl⟩ := proxySource_eq_ok_iff.mp generated
  refine proxySource_eq_ok_iff.mpr ⟨proxies, ?_, ?_⟩
  · rw [← scope]
    exact reordered.serviceProxies declared
  · rw [standalonePackage, standalonePackage, reordered.packageName, scope]

end ProtoFile.Reordered

namespace ProtoFile

variable {file other : ProtoFile} {options : Options}

/-- Two files give the package of every message that has to be imported the same alias. -/
def SameAliases (file other : ProtoFile) (options : Options) : Prop :=
  ∀ message, file.Spells message → message.isEmpty = false →
    message.identifier.importPath ≠ file.localPath options →
    (file.scope options).imports.aliasOf? message.identifier.importPath =
      (other.scope options).imports.aliasOf? message.identifier.importPath

/-- Messages that are imported from one path come with package names that make one identifier. -/
def NamesPackagesOnce (file : ProtoFile) (options : Options) : Prop :=
  ∀ left right, file.Spells left → file.Spells right → left.isEmpty = false →
    right.isEmpty = false → left.identifier.importPath ≠ file.localPath options →
    left.identifier.importPath = right.identifier.importPath →
    GoName.identifier left.packageName = GoName.identifier right.packageName

namespace Reordered

theorem imports_iff (reordered : file.Reordered other) {path : String} :
    file.Imports options path ↔ other.Imports options path := by
  have transfer {file other : ProtoFile} (reordered : file.Reordered other)
      (imports : file.Imports options path) : other.Imports options path := by
    cases imports with
    | context member unary => exact .context (reordered.methods.mem_iff.mp member) unary
    | errors => exact .errors
    | net => exact .net
    | grpc => exact .grpc
    | empty spells empty => exact .empty (reordered.spells_iff.mp spells) empty
    | own standalone => exact reordered.importPath ▸ .own standalone
    | message spells notEmpty foreign =>
        exact .message (reordered.spells_iff.mp spells) notEmpty
          (reordered.localPath options ▸ foreign)
  exact ⟨transfer reordered, transfer reordered.symm⟩

private theorem scope_eq (reordered : file.Reordered other)
    (imports : (file.scope options).imports = (other.scope options).imports) :
    file.scope options = other.scope options := by
  have localPath : (file.scope options).localPath = (other.scope options).localPath :=
    reordered.localPath options
  rw [Scope.mk.injEq]
  exact ⟨localPath, imports⟩

/-- Reordered files with the same aliases for messages have the same scope. -/
theorem scope_of_sameAliases (reordered : file.Reordered other)
    (same : file.SameAliases other options) : file.scope options = other.scope options := by
  refine reordered.scope_eq (ImportTable.ext_aliasOf? fun path => ?_)
  by_cases imports : file.Imports options path
  · cases imports with
    | context member unary =>
        rw [aliasOf?_context member unary,
          aliasOf?_context (reordered.methods.mem_iff.mp member) unary]
    | errors => rw [aliasOf?_errors, aliasOf?_errors]
    | net => rw [aliasOf?_net, aliasOf?_net]
    | grpc => rw [aliasOf?_grpc, aliasOf?_grpc]
    | empty spells empty =>
        rw [aliasOf?_emptyPath spells empty,
          aliasOf?_emptyPath (reordered.spells_iff.mp spells) empty]
    | own standalone =>
        rw [aliasOf?_own standalone, reordered.importPath, aliasOf?_own standalone,
          reordered.fixedRequests, reordered.packageName]
    | message spells notEmpty foreign => exact same _ spells notEmpty foreign
  · have unbound := mt isSome_aliasOf?_scope_iff.mp imports
    have otherUnbound := mt isSome_aliasOf?_scope_iff.mp (mt reordered.imports_iff.mpr imports)
    rw [Option.not_isSome_iff_eq_none] at unbound otherUnbound
    rw [unbound, otherUnbound]

private theorem map_find?_referencedPackages (reordered : file.Reordered other)
    (once : file.NamesPackagesOnce options) (path : String) :
    ((file.referencedPackages options).find? path).map GoName.identifier =
      ((other.referencedPackages options).find? path).map GoName.identifier := by
  have sameBound : ((file.referencedPackages options).find? path).isSome ↔
      ((other.referencedPackages options).find? path).isSome := by
    simp only [isSome_find?_referencedPackages_iff, reordered.spells_iff,
      reordered.localPath options]
  cases found : (file.referencedPackages options).find? path with
  | none =>
      have unbound : ¬((other.referencedPackages options).find? path).isSome := by
        simp [← sameBound, found]
      rw [Option.not_isSome_iff_eq_none.mp unbound]
  | some name =>
      obtain ⟨otherName, otherFound⟩ :=
        Option.isSome_iff_exists.mp (sameBound.mp (Option.isSome_of_eq_some found))
      obtain ⟨left, spellsLeft, leftNotEmpty, leftForeign, rfl, rfl⟩ :=
        exists_of_find?_referencedPackages found
      obtain ⟨right, spellsRight, rightNotEmpty, _, samePath, rfl⟩ :=
        exists_of_find?_referencedPackages otherFound
      have sameName := once left right spellsLeft (reordered.spells_iff.mpr spellsRight)
        leftNotEmpty rightNotEmpty leftForeign samePath.symm
      rw [otherFound, Option.map_some, Option.map_some, sameName]

/-- Reordered files that name every package once have the same scope. -/
theorem scope_of_namesPackagesOnce (reordered : file.Reordered other)
    (once : file.NamesPackagesOnce options) : file.scope options = other.scope options := by
  refine reordered.scope_eq ?_
  rw [scope_imports, scope_imports, reordered.fixedRequests]
  refine ImportTable.addAll_congr _ ?_
  rw [namedRequests, namedRequests, reordered.importPath, reordered.packageName, List.map_append,
    List.map_append, List.map_append, List.map_append,
    Registry.map_entries_eq _ (reordered.map_find?_referencedPackages once)]

theorem exists_output (reordered : file.Reordered other) {result : Option OutputFile}
    (written : file.output options = .ok result) :
    ∃ otherResult, other.output options = .ok otherResult ∧
      otherResult.map (·.name) = result.map (·.name) := by
  cases result with
  | none =>
      rw [output_eq_ok_none_iff] at written
      exact ⟨none, output_eq_ok_none_iff.mpr (reordered.services_eq_nil_iff.mp written), rfl⟩
  | some output =>
      obtain ⟨declares, named, source, generated, _⟩ := output_eq_ok_some_iff.mp written
      have distinct := exists_proxySource_iff.mp ⟨source, generated⟩
      have otherDistinct : ∀ service ∈ other.services, service.methodNames.Nodup := by
        intro service member
        obtain ⟨original, inFile, sameService⟩ := reordered.symm.services.exists_of_mem member
        exact (sameService.methods.symm.map _).nodup (distinct original inFile)
      obtain ⟨otherSource, otherGenerated⟩ := exists_proxySource_iff.mpr otherDistinct
      refine ⟨some ⟨output.name, otherSource.text⟩, output_eq_ok_some_iff.mpr ?_, rfl⟩
      exact ⟨mt reordered.services_eq_nil_iff.mpr declares, reordered.outputName options ▸ named,
        otherSource, otherGenerated, rfl⟩

private theorem toOption_output_eq_none (reordered : file.Reordered other) (options : Options)
    (fails : (file.output options).toOption = none) : (other.output options).toOption = none := by
  refine Option.eq_none_iff_forall_ne_some.mpr fun result found => ?_
  obtain ⟨_, written, _⟩ :=
    reordered.symm.exists_output (Except.toOption_eq_some_iff.mp found)
  rw [Except.toOption_eq_some_iff.mpr written] at fails
  simp at fails

theorem output_of_scope (reordered : file.Reordered other)
    (scope : file.scope options = other.scope options) {result : Option OutputFile}
    (written : file.output options = .ok result) : other.output options = .ok result := by
  cases result with
  | none =>
      rw [output_eq_ok_none_iff] at written ⊢
      exact reordered.services_eq_nil_iff.mp written
  | some output =>
      obtain ⟨declares, named, source, generated, text⟩ := output_eq_ok_some_iff.mp written
      exact output_eq_ok_some_iff.mpr ⟨mt reordered.services_eq_nil_iff.mpr declares,
        reordered.outputName options ▸ named, source, reordered.proxySource scope generated, text⟩

private theorem not_space_mem_qualifier {line : Import}
    (member : line ∈ (file.scope options).imports.imports) : ' ' ∉ line.qualifier.toList := by
  intro space
  have letter := named_scope file options (ImportTable.mem_imports_iff.mp member) ' ' space
  rw [(Reference.isNameLetter_of_mem_marks (by decide)).1] at letter
  exact Bool.noConfusion letter

/-- If reordered files have the same output they have the same aliases, as the output lists them. -/
theorem sameAliases_of_output (reordered : file.Reordered other) {output : OutputFile}
    (written : file.output options = .ok (some output))
    (otherWritten : other.output options = .ok (some output)) : file.SameAliases other options := by
  obtain ⟨declares, _, source, generated, text⟩ := output_eq_ok_some_iff.mp written
  obtain ⟨otherDeclares, _, otherSource, otherGenerated, otherText⟩ :=
    output_eq_ok_some_iff.mp otherWritten
  have proxies := services_ne_nil generated declares
  have otherProxies := services_ne_nil otherGenerated otherDeclares
  obtain ⟨_, _, rfl⟩ := proxySource_eq_ok_iff.mp generated
  obtain ⟨_, _, rfl⟩ := proxySource_eq_ok_iff.mp otherGenerated
  have paths : (file.scope options).imports.imports.map (·.path) =
      (other.scope options).imports.imports.map (·.path) := by
    refine ImportTable.map_path_imports_eq fun path => Bool.eq_iff_iff.mpr ?_
    rw [isSome_aliasOf?_scope_iff, isSome_aliasOf?_scope_iff, reordered.imports_iff]
  have packages : (if options.standalone then file.standalonePackage else file.packageName) =
      if options.standalone then other.standalonePackage else other.packageName := by
    rw [standalonePackage, standalonePackage, reordered.packageName]
  have imports := ProxySource.imports_eq_of_text_eq proxies otherProxies packages paths
    (fun _ => not_space_mem_qualifier) (fun _ => not_space_mem_qualifier)
    (text.trans otherText.symm)
  intro message _ _ _
  apply Option.ext
  intro qualifier
  have lines := congrArg (fun lines => ⟨qualifier, message.identifier.importPath⟩ ∈ lines) imports
  simpa only [eq_iff_iff, ImportTable.mem_imports_iff] using lines

private theorem toOption_output_of_scope (reordered : file.Reordered other)
    (scope : file.scope options = other.scope options) :
    (file.output options).toOption = (other.output options).toOption := by
  apply Option.ext
  intro result
  rw [Except.toOption_eq_some_iff, Except.toOption_eq_some_iff]
  exact ⟨reordered.output_of_scope scope, reordered.symm.output_of_scope scope.symm⟩

end Reordered

/-- Reordering the methods of a file changes neither whether there is an output nor its name, and it
changes the content exactly if it changes the alias of some message's package. A file that names
every package once keeps its output. -/
theorem output_reordered {file other : ProtoFile} (reordered : file.Reordered other)
    (options : Options) :
    (file.output options).toOption.map (Option.map (·.name)) =
      (other.output options).toOption.map (Option.map (·.name)) ∧
    ((file.output options).toOption = (other.output options).toOption ↔
      (file.output options).toOption = none ∨ file.SameAliases other options) ∧
    (file.NamesPackagesOnce options →
      (file.output options).toOption = (other.output options).toOption) := by
  have failing := reordered.toOption_output_eq_none options
  refine ⟨?_, ⟨fun same => ?_, ?_⟩, fun once => ?_⟩
  · cases found : (file.output options).toOption with
    | none => rw [failing found]
    | some result =>
        obtain ⟨_, otherWritten, names⟩ :=
          reordered.exists_output (Except.toOption_eq_some_iff.mp found)
        rw [Except.toOption_eq_some_iff.mpr otherWritten, Option.map_some, Option.map_some, names]
  · cases found : (file.output options).toOption with
    | none => exact .inl rfl
    | some result =>
        right
        have written := Except.toOption_eq_some_iff.mp found
        cases result with
        | none =>
            rintro message ⟨method, member, _⟩
            simp [ProtoFile.methods, output_eq_ok_none_iff.mp written] at member
        | some output =>
            exact reordered.sameAliases_of_output written
              (Except.toOption_eq_some_iff.mp (same ▸ found))
  · rintro (fails | same)
    · rw [fails, failing fails]
    · exact reordered.toOption_output_of_scope (reordered.scope_of_sameAliases same)
  · exact reordered.toOption_output_of_scope (reordered.scope_of_namesPackagesOnce once)

def command (name : String) (input : Message) : Method :=
  ⟨name, input, ⟨wellKnownEmpty, ⟨"Empty", emptyPath⟩, "emptypb"⟩, false, false⟩

/-- A method that takes a key from a package named `keys`. -/
def dropKey : Method := command "Drop" ⟨"store.Key", ⟨"Key", "example.com/entries"⟩, "keys"⟩

/-- A method that takes an entry from the same package, under the name `entries`. -/
def putEntry : Method := command "Put" ⟨"store.Entry", ⟨"Entry", "example.com/entries"⟩, "entries"⟩

def storeOf (methods : List Method) : ProtoFile :=
  ⟨"store.proto", .proto3, "store", "example.com/store", true, [⟨"Store", methods⟩]⟩

theorem storeOf_reordered {methods others : List Method} (perm : methods.Perm others) :
    (storeOf methods).Reordered (storeOf others) :=
  ⟨rfl, rfl, rfl, rfl, rfl, .cons ⟨rfl, perm⟩ .nil⟩

private theorem output_storeOf_ne :
    ((storeOf [dropKey, putEntry]).output {}).toOption ≠
      ((storeOf [putEntry, dropKey]).output {}).toOption := by
  decide +kernel

theorem output_reordered_storeOf :
    (storeOf [dropKey, putEntry]).Reordered (storeOf [putEntry, dropKey]) ∧
      ¬(storeOf [dropKey, putEntry]).SameAliases (storeOf [putEntry, dropKey]) {} := by
  have reordered : (storeOf [dropKey, putEntry]).Reordered (storeOf [putEntry, dropKey]) :=
    storeOf_reordered (.swap _ _ _)
  exact ⟨reordered, fun same =>
    output_storeOf_ne ((output_reordered reordered {}).2.1.mpr (.inr same))⟩

/-- The order of methods can reach the output. -/
theorem method_order_changes_output :
    (storeOf [dropKey, putEntry]).Reordered (storeOf [putEntry, dropKey]) ∧
      ((storeOf [dropKey, putEntry]).output {}).toOption ≠
        ((storeOf [putEntry, dropKey]).output {}).toOption :=
  ⟨storeOf_reordered (.swap _ _ _), output_storeOf_ne⟩

end ProtoFile

end RpcProxy

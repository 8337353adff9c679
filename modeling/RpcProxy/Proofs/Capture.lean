import RpcProxy.Proofs.Declarations
import RpcProxy.Proofs.References

/-!
# Captured aliases

An import table keeps aliases apart from each other and from nothing else. An alias that is made of
a package name can be a name that the file declares, or one that `Serve` declares around its use.
None of these names has a number behind it and none is the alias of a package with a fixed one, so
that the package names alone decide whether an alias is captured.
-/

namespace RpcProxy

/-- The names that the method `Serve` of a proxy declares: its receiver, its parameters and the
server that it runs. -/
def ServiceProxy.serveNames : List String := ["p", "l", "opts", "srv"]

namespace ProtoFile

variable {file : ProtoFile} {options : Options} {source : ProxySource}
  {path name qualifier : String}

/-- The paths that a file imports under an alias made of a name from the schema, with the name. -/
inductive NamesPackage (file : ProtoFile) (options : Options) : String → String → Prop
  | own : options.standalone = true → file.importPath ∉ file.fixedRequests.map (·.1) →
      file.NamesPackage options file.importPath file.packageName
  | referenced {path name : String} : (options.standalone = true → path ≠ file.importPath) →
      path ∉ file.fixedRequests.map (·.1) →
      (file.referencedPackages options).find? path = some name →
      file.NamesPackage options path name

/-- The names that the generated file of a schema file declares at its top level. -/
def declaredNames (file : ProtoFile) : List String :=
  sentinel :: (file.services.map file.proxyName ++
    file.services.map fun service => GoName.unexported service.name ++ "Server")

theorem declaredNames_proxySource (generated : file.proxySource options = .ok source) :
    source.declaredNames = file.declaredNames := by
  obtain ⟨services, proxies⟩ := names_of_proxySource generated
  have adapters : source.services.map (·.adapterName) =
      file.services.map fun service => GoName.unexported service.name ++ "Server" := by
    have named := congrArg (List.map fun name => GoName.unexported name ++ "Server") services
    rw [List.map_map, List.map_map] at named
    exact named
  rw [ProxySource.declaredNames, declaredNames, proxies, adapters]

private theorem lookup_eq_none_iff_notMem {requests : List (String × String)} :
    requests.lookup path = none ↔ path ∉ requests.map (·.1) := by
  rw [List.lookup_eq_none_iff, List.mem_map]
  simp only [bne_iff_ne, ne_eq]
  exact ⟨fun differs ⟨request, member, same⟩ => differs request member same.symm,
    fun absent request member same => absent ⟨request, member, same.symm⟩⟩

private theorem mem_of_lookup {requests : List (String × String)}
    (found : requests.lookup path = some name) : (path, name) ∈ requests := by
  obtain ⟨front, back, rfl, _⟩ := List.lookup_eq_some_iff.mp found
  simp

private theorem lookup_namedRequests :
    (file.namedRequests options).lookup path =
      if options.standalone = true ∧ path = file.importPath then some file.packageName
      else (file.referencedPackages options).find? path := by
  rw [namedRequests, List.lookup_append, Registry.lookup_entries]
  cases options.standalone with
  | false => simp
  | true =>
      by_cases own : path = file.importPath
      · simp [own]
      · simp [own, List.lookup_cons, beq_false_of_ne own]

theorem namesPackage_iff :
    file.NamesPackage options path name ↔
      path ∉ file.fixedRequests.map (·.1) ∧
        (file.namedRequests options).lookup path = some name := by
  rw [lookup_namedRequests]
  constructor
  · rintro (⟨standalone, unfixed⟩ | ⟨foreign, unfixed, found⟩)
    · exact ⟨unfixed, if_pos ⟨standalone, rfl⟩⟩
    · exact ⟨unfixed, (if_neg fun own => foreign own.1 own.2).trans found⟩
  · rintro ⟨unfixed, found⟩
    split at found
    · rename_i own
      obtain ⟨standalone, rfl⟩ := own
      exact Option.some.inj found ▸ .own standalone unfixed
    · rename_i foreign
      exact .referenced (fun standalone own => foreign ⟨standalone, own⟩) unfixed found

/-- An alias without a number that is not fixed is made of the name of a package. -/
theorem mem_taken_scope_iff (unnumbered : ImportTable.Unnumbered qualifier)
    (free : qualifier ∉ fixedPackages.map (·.2)) :
    qualifier ∈ (file.scope options).imports.taken ↔
      ∃ path name, file.NamesPackage options path name ∧ GoName.identifier name = qualifier := by
  rw [scope_imports, ImportTable.mem_taken_addAll_iff unnumbered]
  simp only [namesPackage_iff, List.lookup_append, Option.or_eq_some_iff]
  constructor
  · rintro ⟨path, name, fixed | ⟨unfixed, named⟩, same⟩
    · have member := fixedRequests_sublist.mem (mem_of_lookup fixed)
      rw [identifier_fixedPackages _ member] at same
      exact absurd (List.mem_map.mpr ⟨_, member, same⟩) free
    · exact ⟨path, name, ⟨lookup_eq_none_iff_notMem.mp unfixed, named⟩, same⟩
  · rintro ⟨path, name, ⟨unfixed, named⟩, same⟩
    exact ⟨path, name, .inr ⟨lookup_eq_none_iff_notMem.mpr unfixed, named⟩, same⟩

/-- When the package of a file has an alias without a number that is not fixed. -/
theorem aliasOf?_own_eq_some_iff (standalone : options.standalone = true)
    (unnumbered : ImportTable.Unnumbered qualifier) (free : qualifier ∉ fixedPackages.map (·.2)) :
    (file.scope options).imports.aliasOf? file.importPath = some qualifier ↔
      file.importPath ∉ file.fixedRequests.map (·.1) ∧
        GoName.identifier file.packageName = qualifier := by
  by_cases fixed : file.importPath ∈ file.fixedRequests.map (·.1)
  · obtain ⟨⟨path, name⟩, member, rfl : path = file.importPath⟩ := List.mem_map.mp fixed
    rw [aliasOf?_scope_of_fixed member]
    refine iff_of_false ?_ fun unfixed => unfixed.1 fixed
    rintro ⟨⟩
    exact free (List.mem_map.mpr ⟨_, fixedRequests_sublist.mem member, rfl⟩)
  · have unbound : (ImportTable.empty.addAll file.fixedRequests).aliasOf? file.importPath =
        none := by
      rw [← Option.not_isSome_iff_eq_none, ImportTable.isSome_aliasOf?_addAll]
      simpa using fixed
    have untaken : qualifier ∉ (ImportTable.empty.addAll file.fixedRequests).taken := by
      rw [ImportTable.mem_taken_addAll_iff unnumbered]
      rintro ⟨path, name, found, same⟩
      have member := fixedRequests_sublist.mem (mem_of_lookup found)
      rw [identifier_fixedPackages _ member] at same
      exact free (List.mem_map.mpr ⟨_, member, same⟩)
    rw [aliasOf?_own standalone, ImportTable.addAll_append, ImportTable.addAll_cons,
      ImportTable.addAll_nil, ImportTable.aliasOf?_add, if_pos ⟨rfl, unbound⟩, Option.some.injEq,
      ImportTable.freeAlias_eq_iff unnumbered untaken, and_iff_right fixed]

private theorem free_of_last {ending : Option Char} (last : qualifier.toList.getLast? = ending)
    (apart : ending ∉ [some 't', some 's', some 'c', some 'b']) :
    qualifier ∉ fixedPackages.map (·.2) := by
  have ends : ∀ request ∈ fixedPackages,
      request.2.toList.getLast? ∈ [some 't', some 's', some 'c', some 'b'] := by decide
  intro member
  obtain ⟨request, inFixed, rfl⟩ := List.mem_map.mp member
  exact apart (last ▸ ends request inFixed)

private theorem exists_proxyName (file : ProtoFile) (service : Service) :
    ∃ front, file.proxyName service = front ++ "Proxy" := by
  rw [proxyName]
  split
  · exact ⟨"", rfl⟩
  · exact ⟨service.name, rfl⟩

/-- Names that a file declares have no number and are not fixed aliases. -/
theorem unnumbered_of_mem_declaredNames (member : qualifier ∈ file.declaredNames) :
    ImportTable.Unnumbered qualifier ∧ qualifier ∉ fixedPackages.map (·.2) := by
  obtain ⟨letter, last, noDigit, apart⟩ : ∃ letter, qualifier.toList.getLast? = some letter ∧
      letter.isDigit = false ∧ some letter ∉ [some 't', some 's', some 'c', some 'b'] := by
    rw [declaredNames, List.mem_cons, List.mem_append] at member
    rcases member with rfl | inProxies | inAdapters
    · exact ⟨'d', by decide, by decide, by decide⟩
    · obtain ⟨service, _, rfl⟩ := List.mem_map.mp inProxies
      obtain ⟨front, ending⟩ := file.exists_proxyName service
      exact ⟨'y', by simp [ending], by decide, by decide⟩
    · obtain ⟨service, _, rfl⟩ := List.mem_map.mp inAdapters
      exact ⟨'r', by simp, by decide, by decide⟩
  exact ⟨GoName.ne_numbered last noDigit, free_of_last last apart⟩

/-- Names that `Serve` declares have no number and are not fixed aliases. -/
theorem unnumbered_of_mem_serveNames (member : qualifier ∈ ServiceProxy.serveNames) :
    ImportTable.Unnumbered qualifier ∧ qualifier ∉ fixedPackages.map (·.2) := by
  obtain ⟨letter, last, noDigit⟩ : ∃ letter, qualifier.toList.getLast? = some letter ∧
      letter.isDigit = false := by
    simp only [ServiceProxy.serveNames, List.mem_cons, List.not_mem_nil, or_false] at member
    rcases member with rfl | rfl | rfl | rfl
    · exact ⟨'p', by decide, by decide⟩
    · exact ⟨'l', by decide, by decide⟩
    · exact ⟨'s', by decide, by decide⟩
    · exact ⟨'v', by decide, by decide⟩
  have free : ∀ name ∈ ServiceProxy.serveNames, name ∉ fixedPackages.map (·.2) := by decide
  exact ⟨GoName.ne_numbered last noDigit, free qualifier member⟩

/-- The register function of a service is behind an alias in a file with a package of its own, if
the package of the service has an import path. -/
theorem qualifier_register_eq_some_iff (generated : file.proxySource options = .ok source)
    {proxy : ServiceProxy} (member : proxy ∈ source.services) :
    proxy.register.qualifier = some qualifier ↔
      options.standalone = true ∧ file.importPath ≠ "" ∧
        (file.scope options).imports.aliasOf? file.importPath = some qualifier := by
  obtain ⟨service, _, made⟩ := (mem_services_iff generated).mp member
  obtain ⟨_, _, rfl⟩ := serviceProxy_eq_ok_iff.mp made
  have localPath : (file.scope options).localPath =
      if options.standalone = true then "" else file.importPath := rfl
  rw [Scope.qualifier_refer, localPath]
  cases options.standalone with
  | false => simp
  | true => by_cases pathless : file.importPath = "" <;> simp [pathless]

/-- The import block of a generated file has an alias that the file declares as a name exactly if a
package that it imports under a name from the schema has such a name as its identifier. In `Serve`
the alias of the register function is hidden exactly if the file's own package, imported under a
path that is neither empty nor fixed, has a name of `Serve` as its identifier. -/
theorem aliases_captured_iff {output : OutputFile}
    (written : file.output options = .ok (some output)) :
    ∃ source, file.proxySource options = .ok source ∧ source.text = output.content ∧
      source.declaredNames = file.declaredNames ∧
      ((∃ line ∈ source.imports, line.qualifier ∈ source.declaredNames) ↔
        ∃ path name, file.NamesPackage options path name ∧
          GoName.identifier name ∈ file.declaredNames) ∧
      ∀ proxy ∈ source.services,
        (∃ qualifier ∈ ServiceProxy.serveNames, proxy.register.qualifier = some qualifier) ↔
          options.standalone = true ∧ file.importPath ≠ "" ∧
            file.importPath ∉ file.fixedRequests.map (·.1) ∧
            GoName.identifier file.packageName ∈ ServiceProxy.serveNames := by
  obtain ⟨_, _, source, generated, text⟩ := output_eq_ok_some_iff.mp written
  have declared := declaredNames_proxySource generated
  have imports := imports_of_proxySource generated
  refine ⟨source, generated, text, declared, ?_, fun proxy member => ?_⟩
  · rw [declared, imports]
    constructor
    · rintro ⟨line, inImports, captured⟩
      obtain ⟨unnumbered, free⟩ := unnumbered_of_mem_declaredNames captured
      have taken := ImportTable.mem_taken_iff.mpr ⟨_, ImportTable.mem_imports_iff.mp inImports⟩
      obtain ⟨path, name, names, same⟩ := (mem_taken_scope_iff unnumbered free).mp taken
      exact ⟨path, name, names, same ▸ captured⟩
    · rintro ⟨path, name, names, captured⟩
      obtain ⟨unnumbered, free⟩ := unnumbered_of_mem_declaredNames captured
      have taken := (mem_taken_scope_iff unnumbered free).mpr ⟨path, name, names, rfl⟩
      obtain ⟨bound, found⟩ := ImportTable.mem_taken_iff.mp taken
      exact ⟨⟨_, bound⟩, ImportTable.mem_imports_iff.mpr found, captured⟩
  · simp only [qualifier_register_eq_some_iff generated member]
    constructor
    · rintro ⟨qualifier, hides, standalone, path, found⟩
      obtain ⟨unnumbered, free⟩ := unnumbered_of_mem_serveNames hides
      obtain ⟨unfixed, rfl⟩ := (aliasOf?_own_eq_some_iff standalone unnumbered free).mp found
      exact ⟨standalone, path, unfixed, hides⟩
    · rintro ⟨standalone, path, unfixed, hides⟩
      obtain ⟨unnumbered, free⟩ := unnumbered_of_mem_serveNames hides
      exact ⟨_, hides, standalone, path,
        (aliasOf?_own_eq_some_iff standalone unnumbered free).mpr ⟨unfixed, rfl⟩⟩

/-- No alias of this file is captured. -/
theorem aliases_captured_iff_greeter :
    ∃ output source, greeter.output { standalone := true } = .ok (some output) ∧
      greeter.proxySource { standalone := true } = .ok source ∧
      (∀ line ∈ source.imports, line.qualifier ∉ source.declaredNames) ∧
      ∀ proxy ∈ source.services, ∀ qualifier ∈ ServiceProxy.serveNames,
        proxy.register.qualifier ≠ some qualifier := by
  obtain ⟨output, written⟩ : ∃ output, greeter.output { standalone := true } =
      .ok (some output) := by
    refine ⟨⟨_, _⟩, output_eq_ok_some_iff.mpr ⟨by decide, rfl, _, rfl, rfl⟩⟩
  obtain ⟨source, generated, _, _, captured, hidden⟩ := aliases_captured_iff written
  refine ⟨output, source, written, generated, fun line member declared => ?_,
    fun proxy member qualifier hides behind => ?_⟩
  · obtain ⟨path, name, names, isDeclared⟩ := captured.mp ⟨line, member, declared⟩
    cases names with
    | own => exact absurd isDeclared (by decide +kernel)
    | referenced _ _ found =>
        have apart : ∀ message ∈ greeter.spelled,
            GoName.identifier message.packageName ∉ greeter.declaredNames := by decide +kernel
        obtain ⟨message, spells, _, _, _, rfl⟩ := exists_of_find?_referencedPackages found
        exact apart message (mem_spelled_iff.mpr spells) isDeclared
  · have ownName := ((hidden proxy member).mp ⟨qualifier, hides, behind⟩).2.2.2
    exact absurd ownName (by decide +kernel)

end ProtoFile

namespace Request

/-- A request for a proxy in a package of its own, with the options that name the Go packages of the
messages and of the service. -/
def greetingIn (words greeter : String) : Request where
  filesToGenerate := ["greeter.proto"]
  parameter := some "standalone"
  files :=
    [{ name := some "words.proto", package := some "words", dialect := some "proto3"
       messages := [{ name := some "Word" }]
       options := some { goPackage := some words } },
     { name := some "greeter.proto", package := some "greeter", dialect := some "proto3"
       dependencies := ["words.proto"]
       services :=
        [{ name := some "Greeter", methods :=
            [{ name := some "Greet", inputType := some "words.Word",
               outputType := some "words.Word" }] }]
       options := some { goPackage := some greeter } }]

/-- The alias of the messages is the name of the proxy, and the alias of the register function is
the variable for the server. -/
theorem greetingIn_captured :
    ∃ options files, (greetingIn "example.com/words;Proxy" "example.com/greeter;srv").parse =
        .ok (options, files) ∧
      options.standalone = true ∧ ∃ file ∈ files, ∃ output source,
        file.output options = .ok (some output) ∧ file.proxySource options = .ok source ∧
        source.text = output.content ∧
        (⟨"Proxy", "example.com/words"⟩ ∈ source.imports ∧ "Proxy" ∈ source.declaredNames) ∧
        ∃ proxy ∈ source.services, proxy.register = ⟨some "srv", "RegisterGreeterServer"⟩ ∧
          "srv" ∈ ServiceProxy.serveNames := by
  obtain ⟨⟨options, files⟩, parse, standalone, file, member, check⟩ :
      ∃ parsed, (greetingIn "example.com/words;Proxy" "example.com/greeter;srv").parse =
          .ok parsed ∧
        parsed.1.standalone = true ∧ ∃ file ∈ parsed.2,
          ((file.output parsed.1).toOption.any (fun output => output.isSome = true) = true) ∧
          (file.proxySource parsed.1).toOption.any (fun source =>
            (⟨"Proxy", "example.com/words"⟩ ∈ source.imports ∧ "Proxy" ∈ source.declaredNames) ∧
            ∃ proxy ∈ source.services, proxy.register = ⟨some "srv", "RegisterGreeterServer"⟩ ∧
              "srv" ∈ ServiceProxy.serveNames) = true :=
    Except.exists_eq_ok_and (by decide +kernel)
  obtain ⟨_, written, isSome⟩ := Except.exists_eq_ok_and check.1
  obtain ⟨output, rfl⟩ := Option.isSome_iff_exists.mp isSome
  obtain ⟨source, generated, captured⟩ := Except.exists_eq_ok_and check.2
  obtain ⟨_, _, other, again, text⟩ := ProtoFile.output_eq_ok_some_iff.mp written
  obtain rfl : source = other := Except.ok.inj (generated.symm.trans again)
  exact ⟨options, files, parse, standalone, file, member, output, source, written, generated, text,
    captured⟩

end Request

end RpcProxy

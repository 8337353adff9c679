import RpcProxy.Proofs.Blocks
import RpcProxy.Proofs.Bytes
import RpcProxy.Proofs.ProxySource
import RpcProxy.Proofs.References

/-!
# Proxies and adapters mirror services

A generated file is cut into lines and read back, and what the reader finds mirrors the services of
the schema. For each service, in their order, there is a proxy with one field for each method and an
adapter with one method for each, by ascending name. What a method of the adapter passes on, and
what it returns for a missing function, follow from the type of the field.
-/

namespace RpcProxy

open GoName Reader

namespace ProxySource

variable {source : ProxySource} {lines : List String}

/-- The lines of a file behind the package clause, down to what is behind the last line feed. -/
def behindClause (source : ProxySource) : List String :=
  source.importLines ++ "" :: (source.body ++ [""])

private theorem spaced_append_blank {blocks : List (List String)} (nonempty : blocks ≠ []) :
    spaced blocks ++ [""] = blocks.flatMap (· ++ [""]) := by
  induction blocks with
  | nil => exact absurd rfl nonempty
  | cons block rest induction =>
      cases rest with
      | nil => simp [spaced]
      | cons next rest =>
          rw [List.flatMap_cons, ← induction (List.cons_ne_nil next rest), spaced]
          simp

/-- The body, with an empty line behind it, has one behind each block. -/
theorem body_append_blank (declares : source.services ≠ []) :
    source.body ++ [""] = (serviceBlocks source.services).flatMap (· ++ [""]) := by
  obtain ⟨first, rest, services⟩ := List.exists_cons_of_ne_nil declares
  have nonempty : serviceBlocks source.services ≠ [] := by
    simp [services, serviceBlocks, ServiceProxy.blocks]
  exact spaced_append_blank nonempty

private theorem behindClause_eq (declares : source.services ≠ []) :
    source.behindClause =
      (source.importLines ++ [""]) ++ (serviceBlocks source.services).flatMap (· ++ [""]) := by
  rw [behindClause, body_append_blank declares, List.append_assoc]
  rfl

def importDeclaration (source : ProxySource) : Declaration :=
  .block .imports (source.imports.map importLine)

/-- What is declared for the services of a file. -/
def declared : List ServiceProxy → List Declaration
  | [] => []
  | first :: rest => first.declared true ++ rest.flatMap fun service => service.declared false

/-- The blocks of services declare what the services need. -/
theorem reads_serviceBlocks {services : List ServiceProxy}
    (plain : ∀ service ∈ services, service.Plain) :
    Reads ((serviceBlocks services).flatMap (· ++ [""])) (declared services) := by
  cases services with
  | nil => exact .nil
  | cons first rest =>
      rw [List.forall_mem_cons] at plain
      rw [serviceBlocks, declared, List.flatMap_append, List.flatMap_assoc]
      exact (ServiceProxy.reads_blocks plain.1 true).append
        (.flatMap fun service member => ServiceProxy.reads_blocks (plain.2 service member) false)

private theorem reads_importLines : Reads source.importLines [source.importDeclaration] := by
  have opens : Heading.read? "import (" = some .imports := if_pos rfl
  refine reads_block opens (source.imports.map importLine) fun line member => ?_
  obtain ⟨entry, _, rfl⟩ := List.mem_map.mp member
  exact .inr (by simp [importLine])

/-- The proxy and the adapter of each service. -/
def structPairs : List ServiceProxy → List (StructReading × StructReading)
  | [] => []
  | first :: rest => (first.proxyStruct true, first.adapterStruct) ::
    rest.map fun service => (service.proxyStruct false, service.adapterStruct)

/-- The declarations of services are their proxies and adapters in turn. -/
theorem structs_declared_eq (services : List ServiceProxy) :
    structs (declared services) =
      ([], (structPairs services).flatMap fun pair => [pair.1, pair.2]) := by
  have later (rest : List ServiceProxy) :
      structs (rest.flatMap fun service => service.declared false) =
        ([], rest.flatMap fun service => [service.proxyStruct false, service.adapterStruct]) := by
    induction rest with
    | nil => rfl
    | cons service rest induction =>
        rw [List.flatMap_cons, ServiceProxy.structs_declared service false (by rw [induction]),
          induction]
        rfl
  cases services with
  | nil => rfl
  | cons first rest =>
      rw [declared, ServiceProxy.structs_declared first true (by rw [later]), later, structPairs,
        List.flatMap_cons, List.flatMap_map]
      rfl

/-- What holds of the proxy and the adapter of each service holds of those of a file. -/
theorem forall₂_structPairs {α : Type} {Declares : α → ServiceProxy → Prop}
    {Holds : α → StructReading × StructReading → Prop} {items : List α}
    {services : List ServiceProxy} (each : List.Forall₂ Declares items services)
    (holds : ∀ item service, Declares item service → ∀ isFirst,
      Holds item (service.proxyStruct isFirst, service.adapterStruct)) :
    List.Forall₂ Holds items (structPairs services) := by
  cases each with
  | nil => exact .nil
  | cons first rest =>
      exact .cons (holds _ _ first true)
        (List.forall₂_map_right_iff.mpr (rest.imp fun _ _ later => holds _ _ later false))

private theorem all?_eq_some {readings : List ServiceReading}
    {pairs : List (StructReading × StructReading)}
    (each : List.Forall₂ (fun reading pair =>
      ServiceReading.ofStructs? pair.1 pair.2 = some reading) readings pairs) :
    ServiceReading.all? (pairs.flatMap fun pair => [pair.1, pair.2]) = some readings := by
  induction each with
  | nil => rfl
  | cons read _ induction =>
      rw [List.flatMap_cons, List.cons_append, List.singleton_append, ServiceReading.all?, read,
        induction]
      rfl

private theorem all?_structs_declared {services : List ServiceProxy}
    (plain : ∀ service ∈ services, service.Plain) :
    ServiceReading.all? (structs (declared services)).2 =
      some (services.map ServiceProxy.reading) := by
  have each : List.Forall₂ (fun reading service => service.Plain ∧ reading = service.reading)
      (services.map ServiceProxy.reading) services :=
    List.forall₂_map_left_iff.mpr
      (List.forall₂_same.mpr fun service member => ⟨plain service member, rfl⟩)
  rw [structs_declared_eq]
  refine all?_eq_some (forall₂_structPairs each ?_)
  rintro _ service ⟨isPlain, rfl⟩ isFirst
  exact ServiceProxy.ofStructs?_declared isPlain isFirst

private theorem globals_declared {services : List ServiceProxy} (declares : services ≠ []) :
    (declared services).filterMap Declaration.globalName? = [sentinel] := by
  have ofService (service : ServiceProxy) (isFirst : Bool) :
      (service.declared isFirst).filterMap Declaration.globalName? =
        if isFirst then [sentinel] else [] := by
    have methods : (service.methods.map service.methodDeclaration).filterMap
        Declaration.globalName? = [] := by
      simp [ServiceProxy.methodDeclaration, Declaration.globalName?]
    rw [ServiceProxy.declared, List.filterMap_append, methods, List.append_nil]
    cases isFirst <;> rfl
  obtain ⟨first, rest, rfl⟩ := List.exists_cons_of_ne_nil declares
  rw [declared, List.filterMap_append, ofService, List.filterMap_flatMap]
  simp [ofService]

theorem read?_behindClause (declares : source.services ≠ [])
    (plain : ∀ service ∈ source.services, service.Plain) :
    FileReading.read? source.behindClause = some
      { imports := source.imports.map importLine
        globals := [sentinel]
        services := source.services.map ServiceProxy.reading } := by
  have reads : Reads source.behindClause
      (source.importDeclaration :: declared source.services) := by
    rw [behindClause_eq declares]
    exact (reads_importLines.append reads_blank).append (reads_serviceBlocks plain)
  have read := all?_structs_declared plain
  have ends : (structs (declared source.services)).1 = [] := by
    rw [structs_declared_eq]
  have found : structs (source.importDeclaration :: declared source.services) =
      ([source.importDeclaration], (structs (declared source.services)).2) := by
    rw [← ends]
    rfl
  have globals : (source.importDeclaration :: declared source.services).filterMap
      Declaration.globalName? = [sentinel] := by
    rw [← globals_declared declares]
    rfl
  rw [importDeclaration] at reads found globals
  rw [FileReading.read?, declarations?_of_reads reads]
  simp only [Option.bind_eq_bind, Option.bind_some, found, read, globals, Option.pure_def]

private theorem written_cons (line : String) (lines : List String) :
    written (line :: lines) = line ++ String.singleton '\n' ++ written lines := by
  rw [written, List.map_cons, String.join_cons]
  rfl

/-- Lines that are written one by one are cut apart again. -/
theorem split_written (whole : ∀ line ∈ lines, '\n' ∉ line.toList) :
    Text.split '\n' (written lines) = lines ++ [""] := by
  induction lines with
  | nil => exact Text.split_eq_singleton (by decide)
  | cons line rest induction =>
      rw [List.forall_mem_cons] at whole
      rw [written_cons, Text.split_append, Text.split_eq_singleton whole.1, induction whole.2]
      rfl

private theorem exists_spaced_eq (front : List (List String)) (block : List String) :
    ∃ before, spaced (front ++ [block]) = before ++ block := by
  induction front with
  | nil => exact ⟨[], rfl⟩
  | cons first rest induction =>
      obtain ⟨before, equal⟩ := induction
      cases rest with
      | nil => exact ⟨first ++ [""], by simp [spaced]⟩
      | cons next rest =>
          rw [List.cons_append] at equal
          refine ⟨first ++ "" :: before, ?_⟩
          rw [List.cons_append, List.cons_append, spaced, equal, List.append_assoc]
          rfl

private theorem exists_body_eq (declares : source.services ≠ []) :
    ∃ before, source.body = before ++ ["\x7d"] := by
  obtain ⟨front, inside, equal⟩ : ∃ front inside,
      serviceBlocks source.services = front ++ [inside ++ ["\x7d"]] := by
    obtain ⟨first, rest, services⟩ := List.exists_cons_of_ne_nil declares
    rcases List.eq_nil_or_concat rest with rfl | ⟨others, last, rfl⟩
    · obtain ⟨front, inside, equal⟩ := ServiceProxy.exists_blocks_eq first true
      exact ⟨front, inside, by simp [services, serviceBlocks, equal]⟩
    · obtain ⟨front, inside, equal⟩ := ServiceProxy.exists_blocks_eq last false
      refine ⟨first.blocks true ++ others.flatMap (fun service => service.blocks false) ++ front,
        inside, ?_⟩
      simp [services, serviceBlocks, equal]
  obtain ⟨before, spaced⟩ := exists_spaced_eq front (inside ++ ["\x7d"])
  exact ⟨before ++ inside, by rw [body, equal, spaced, List.append_assoc]⟩

theorem notMem_serviceBlocks {services : List ServiceProxy}
    (plain : ∀ service ∈ services, service.Plain) :
    ∀ block ∈ serviceBlocks services, ∀ line ∈ block, '\n' ∉ line.toList := by
  intro block member
  obtain ⟨service, inServices, isFirst, inService⟩ := exists_of_mem_serviceBlocks member
  exact ServiceProxy.notMem_blocks (plain service inServices) isFirst block inService

private theorem notMem_behindClause (declares : source.services ≠ [])
    (plain : ∀ service ∈ source.services, service.Plain)
    (imports : ∀ entry ∈ source.imports, '\n' ∉ (importLine entry).toList) :
    ∀ line ∈ source.behindClause, '\n' ∉ line.toList := by
  have spaced {block : List String} (whole : ∀ line ∈ block, '\n' ∉ line.toList) :
      ∀ line ∈ block ++ [""], '\n' ∉ line.toList :=
    List.forall_mem_append.mpr ⟨whole, by simp⟩
  have importLines : ∀ line ∈ source.importLines, '\n' ∉ line.toList := by
    rw [importLines_eq, List.forall_mem_append, List.forall_mem_append]
    exact ⟨⟨by simp, List.forall_mem_map.mpr imports⟩, by simp⟩
  intro line member
  rw [behindClause_eq declares, List.mem_append, List.mem_flatMap] at member
  rcases member with inImports | ⟨block, inBlocks, inBlock⟩
  · exact spaced importLines line inImports
  · exact spaced (notMem_serviceBlocks plain block inBlocks) line inBlock

/-- The lines of a file: the comment that marks it as generated, the package clause, which has one
line unless the name of the package has several, and what is behind. -/
theorem split_text (declares : source.services ≠ [])
    (plain : ∀ service ∈ source.services, service.Plain)
    (imports : ∀ entry ∈ source.imports, '\n' ∉ (importLine entry).toList) :
    Text.split '\n' source.text =
      ["// Code generated by protoc-gen-grpcproxy. DO NOT EDIT.", ""]
        ++ Text.split '\n' ("package " ++ source.packageName)
        ++ "" :: source.behindClause := by
  have whole : ∀ line ∈ source.importLines ++ "" :: source.body, '\n' ∉ line.toList := by
    intro line member
    refine notMem_behindClause declares plain imports line ?_
    rw [behindClause, ← List.cons_append, ← List.append_assoc]
    exact List.mem_append_left _ member
  have lines : source.lines = headerLines ++ "" :: source.packageLines ++
      "" :: (source.importLines ++ "" :: source.body) := by
    rw [lines_eq_head_append_body declares, head, importLines_eq]
    simp [headerLines, packageLines]
  have text : source.text = written source.lines := rfl
  have blank : Text.split '\n' "" = [""] := Text.split_eq_singleton (by decide)
  have header : Text.split '\n' "// Code generated by protoc-gen-grpcproxy. DO NOT EDIT." =
      ["// Code generated by protoc-gen-grpcproxy. DO NOT EDIT."] :=
    Text.split_eq_singleton (by decide)
  rw [text, lines, headerLines, packageLines]
  simp only [List.cons_append, List.nil_append, written_cons, Text.split_append, blank, header,
    split_written whole]
  simp [behindClause]

/-- A file ends with one line feed, behind the end of a declaration. -/
theorem exists_text_eq (declares : source.services ≠ []) :
    ∃ front, source.text = front ++ "\x7d\n" := by
  obtain ⟨before, body⟩ := exists_body_eq declares
  have lines : source.lines = (source.head ++ before) ++ ["\x7d"] := by
    rw [lines_eq_head_append_body declares, body, List.append_assoc]
  refine ⟨written (source.head ++ before), ?_⟩
  have text : source.text = written source.lines := rfl
  rw [text, lines, written_append]
  rfl

end ProxySource

/-- Whether a method of an adapter reads the field of its own name, passes its parameters on in
their order, and answers without a function by one value for each of its results, the last one the
shared error. -/
structure MethodReading.Forwards (method : MethodReading) : Prop where
  field : method.field = method.name
  type : ∃ type, TypeReading.read? method.type = some type ∧
    method.arguments = type.parameters.map (·.1) ∧
    method.refusal.length = type.results.length ∧
    ∃ count, method.refusal = List.replicate count "nil" ++ [sentinel]

/-- Whether a proxy and an adapter are those of a service: both have its methods, by ascending bytes
of their names and with equal types, and the adapter forwards them to the proxy. -/
structure ServiceReading.Mirrors (file : ProtoFile) (options : Options) (service : Service)
    (reading : ServiceReading) : Prop where
  proxy : reading.proxy = file.proxyName service
  adapter : reading.adapter = unexported service.name ++ "Server"
  held : reading.held = reading.proxy
  ownMethods : reading.ownMethods = ["Serve"]
  names : (reading.fields.map (·.name)).Perm service.methodNames
  ascending : (reading.fields.map (·.name)).Pairwise fun earlier later =>
    Wire.utf8 earlier < Wire.utf8 later
  types : ∀ method ∈ service.methods, FieldReading.mk method.name
    (Signature.ofMethod (file.scope options) (file.identifierOf service) method).text ∈
      reading.fields
  methods : reading.methods.map (fun method => FieldReading.mk method.name method.type) =
    reading.fields
  forwards : ∀ method ∈ reading.methods, method.Forwards

namespace ProtoFile

/-- Whether what a file mentions has words as names. -/
structure HasWords (file : ProtoFile) : Prop where
  service : ∀ service ∈ file.services, IsWord service.name
  method : ∀ method ∈ file.methods, IsWord method.name
  message : ∀ message ∈ file.spelled, IsWord message.identifier.name

variable {file : ProtoFile} {options : Options} {service : Service} {method : Method}
  {source : ProxySource} {proxy : ServiceProxy}

private theorem isTypeText_refer (file : ProtoFile) (options : Options) {ident : Identifier}
    (word : IsWord ident.name) : IsTypeText ((file.scope options).refer ident).text := by
  have alone : IsTypeText (Reference.text ⟨none, ident.name⟩) := word.isTypeText
  rw [Scope.refer]
  split
  · exact alone
  · cases found : (file.scope options).imports.aliasOf? ident.importPath with
    | none => exact alone
    | some qualifier =>
        have dot : IsTypeText "." := by decide +kernel
        have qualifierWord : IsWord qualifier := named_scope file options found
        exact (qualifierWord.isTypeText.append dot).append word.isTypeText

private theorem isTypeText_typeOf (words : file.HasWords) {message : Message}
    (spelled : message ∈ file.spelled) : IsTypeText ((file.scope options).typeOf message).text := by
  rw [Scope.typeOf]
  split
  · decide +kernel
  · exact isTypeText_refer file options (words.message message spelled)

private theorem isWord_server : IsWord "Server" := by decide +kernel

private theorem plain_ofMethod (words : file.HasWords) (inFile : service ∈ file.services)
    (inService : method ∈ service.methods) :
    (Signature.ofMethod (file.scope options) (file.identifierOf service) method).Plain := by
  have member : method ∈ file.methods := mem_methods_iff.mpr ⟨service, inFile, inService⟩
  have name : IsWord method.name := words.method method member
  constructor
  case name => exact name
  case parameters =>
    cases shape : method.shape <;> simp [Signature.ofMethod, shape]
  case results =>
    cases shape : method.shape <;> simp [Signature.ofMethod, shape]
  case parameter =>
    have parameters : IsWord "ctx" ∧ IsWord "req" ∧ IsWord "stream" := by decide +kernel
    cases shape : method.shape <;> simp [Signature.ofMethod, shape, parameters]
  case reference =>
    intro reference refers
    rcases Signature.mem_references_ofMethod_iff.mp refers with
      ⟨_, rfl⟩ | ⟨message, spells, rfl⟩ | ⟨_, rfl⟩ | rfl
    · decide +kernel
    · exact isTypeText_typeOf words (mem_spelled_iff.mpr ⟨method, member, spells⟩)
    · have underscore : IsWord "_" := by decide +kernel
      have serviceName := words.service service inFile
      exact isTypeText_refer file options
        (((serviceName.append underscore).append name).append isWord_server)
    · decide +kernel

/-- What is declared for a service is made of names and types. -/
theorem plain_serviceProxy (words : file.HasWords) (inFile : service ∈ file.services)
    (made : file.serviceProxy (file.scope options) service = .ok proxy) : proxy.Plain := by
  obtain ⟨signatures, signed, rfl⟩ := serviceProxy_eq_ok_iff.mp made
  have name := words.service service inFile
  have register : IsWord "Register" := by decide +kernel
  have unimplemented : IsWord "Unimplemented" := by decide +kernel
  constructor
  case serviceName => exact name
  case proxyName =>
    have ending : IsWord "Proxy" := by decide +kernel
    change IsWord (file.proxyName service)
    rw [ProtoFile.proxyName]
    split
    · exact ending
    · exact name.append ending
  case register =>
    exact isTypeText_refer file options ((register.append name).append isWord_server)
  case unimplemented =>
    exact isTypeText_refer file options ((unimplemented.append name).append isWord_server)
  case method =>
    intro signature member
    obtain ⟨method, inService, rfl⟩ := (Service.mem_signatures_iff signed).mp member
    exact plain_ofMethod words inFile inService

/-- What is declared for the services of a file is made of names and types. -/
theorem plain_proxySource (words : file.HasWords)
    (generated : file.proxySource options = .ok source) :
    ∀ proxy ∈ source.services, proxy.Plain := by
  intro proxy member
  obtain ⟨service, inFile, made⟩ := (mem_services_iff generated).mp member
  exact plain_serviceProxy words inFile made

/-- Whether what a file mentions has Go identifiers as names and import paths of one line. -/
structure HasGoNames (file : ProtoFile) : Prop where
  service : ∀ service ∈ file.services, isIdentifier service.name = true
  method : ∀ method ∈ file.methods, isIdentifier method.name = true
  message : ∀ message ∈ file.spelled, isIdentifier message.identifier.name = true
  path : '\n' ∉ file.importPath.toList
  messagePath : ∀ message ∈ file.spelled, '\n' ∉ message.identifier.importPath.toList

private theorem HasGoNames.hasWords (named : file.HasGoNames) : file.HasWords where
  service service member := isWord_of_isIdentifier (named.service service member)
  method method member := isWord_of_isIdentifier (named.method method member)
  message message member := isWord_of_isIdentifier (named.message message member)

private theorem notMem_importLine (named : file.HasGoNames)
    (generated : file.proxySource options = .ok source) :
    ∀ entry ∈ source.imports, '\n' ∉ (ProxySource.importLine entry).toList := by
  obtain ⟨_, _, rfl⟩ := proxySource_eq_ok_iff.mp generated
  intro entry member
  have found := ImportTable.mem_imports_iff.mp member
  have word : IsWord entry.qualifier := named_scope file options found
  have qualifier := word.lineFeed_notMem
  have path : '\n' ∉ entry.path.toList := by
    have imports := isSome_aliasOf?_scope_iff.mp (Option.isSome_of_eq_some found)
    generalize entry.path = path at imports
    cases imports with
    | context | errors | net | grpc | empty => decide
    | own => exact named.path
    | message spells => exact named.messagePath _ (mem_spelled_iff.mpr spells)
  simp [ProxySource.importLine, qualifier, path]

private theorem forwards {signature : Signature} (plain : signature.Plain) :
    MethodReading.Forwards ⟨signature.name, signature.text, signature.name, signature.refusal,
      signature.parameters.map (·.1)⟩ where
  field := rfl
  type := by
    refine ⟨_, Signature.read?_typeText plain, ?_, ?_, signature.results.dropLast.length, ?_⟩
    · rw [List.map_map]
      rfl
    · have results := List.length_pos_iff.mpr plain.results
      simp [Signature.refusal]
      omega
    · rw [Signature.refusal, List.map_const']

private theorem mirrors_reading (named : file.HasGoNames) (inFile : service ∈ file.services)
    (made : file.serviceProxy (file.scope options) service = .ok proxy) :
    proxy.reading.Mirrors file options service := by
  have plain := plain_serviceProxy named.hasWords inFile made
  obtain ⟨signatures, signed, rfl⟩ := serviceProxy_eq_ok_iff.mp made
  obtain ⟨ascending, names⟩ := Service.names_of_signatures signed
  have fieldNames : (signatures.map fun signature =>
      FieldReading.mk signature.name signature.text).map (·.name) = signatures.map (·.name) := by
    rw [List.map_map]
    rfl
  constructor
  case proxy | adapter | held | ownMethods => rfl
  case names => exact fieldNames ▸ names
  case ascending =>
    have bytes := ascending.imp Wire.utf8_lt_utf8
    exact fieldNames ▸ bytes
  case types =>
    intro method inService
    exact List.mem_map.mpr
      ⟨_, (Service.mem_signatures_iff signed).mpr ⟨method, inService, rfl⟩, rfl⟩
  case methods =>
    change (signatures.map _).map _ = signatures.map _
    rw [List.map_map]
    rfl
  case forwards =>
    intro method member
    obtain ⟨signature, inSignatures, rfl⟩ := List.mem_map.mp member
    exact forwards (plain.method signature inSignatures)

/-- A generated file mirrors its services. Behind the comment that marks it as generated and the
package clause, a reader finds the import block, the shared error as the only variable, and for each
service, in their order, a proxy and an adapter that mirror it. -/
theorem output_mirrors_services (named : file.HasGoNames) {output : OutputFile}
    (written : file.output options = .ok (some output)) :
    ∃ behind reading,
      Text.split '\n' output.content =
        ["// Code generated by protoc-gen-grpcproxy. DO NOT EDIT.", ""]
          ++ Text.split '\n' ("package " ++
            if options.standalone then file.standalonePackage else file.packageName)
          ++ "" :: behind ∧
      FileReading.read? behind = some reading ∧
      reading.globals = [sentinel] ∧
      List.Forall₂ (ServiceReading.Mirrors file options) file.services reading.services ∧
      ∃ front, output.content = front ++ "\x7d\n" := by
  obtain ⟨declares, _, source, generated, text⟩ := output_eq_ok_some_iff.mp written
  have proxies := services_ne_nil generated declares
  have imports := notMem_importLine named generated
  have plain := plain_proxySource named.hasWords generated
  have mirrors : List.Forall₂ (ServiceReading.Mirrors file options) file.services
      (source.services.map ServiceProxy.reading) := by
    obtain ⟨proxies, made, rfl⟩ := proxySource_eq_ok_iff.mp generated
    rw [List.forall₂_map_right_iff]
    have within := (List.forall₂_and_left _ _).mpr
      ⟨fun service (member : service ∈ file.services) => member, serviceProxies_eq_ok_iff.mp made⟩
    exact within.imp fun _ _ ⟨inFile, made⟩ => mirrors_reading named inFile made
  have package : source.packageName =
      if options.standalone then file.standalonePackage else file.packageName := by
    obtain ⟨_, _, rfl⟩ := proxySource_eq_ok_iff.mp generated
    rfl
  refine ⟨source.behindClause, _, ?_, ProxySource.read?_behindClause proxies plain, rfl, mirrors,
    ?_⟩
  · rw [← text, ← package]
    exact ProxySource.split_text proxies plain imports
  · rw [← text]
    exact ProxySource.exists_text_eq proxies

theorem output_mirrors_services_greeter :
    greeter.HasGoNames ∧ ∃ output reading, greeter.output {} = .ok (some output) ∧
      ((Text.split '\n' output.content)[2]? = some "package greeter") ∧
      FileReading.read? ((Text.split '\n' output.content).drop 4) = some reading ∧
      List.Forall₂ (ServiceReading.Mirrors greeter {}) greeter.services reading.services := by
  have named : greeter.HasGoNames := by
    constructor <;> decide +kernel
  obtain ⟨output, written⟩ : ∃ output, greeter.output {} = .ok (some output) := by
    refine ⟨⟨_, _⟩, output_eq_ok_some_iff.mpr ⟨by decide, rfl, _, rfl, rfl⟩⟩
  obtain ⟨behind, reading, lines, read, _, mirrors, _⟩ := output_mirrors_services named written
  have clause : Text.split '\n' ("package " ++
      if ({} : Options).standalone then greeter.standalonePackage else greeter.packageName) =
        ["package greeter"] := by decide +kernel
  rw [clause] at lines
  refine ⟨named, output, reading, written, ?_, ?_, mirrors⟩
  · rw [lines]
    rfl
  · rw [lines]
    exact read

end ProtoFile

end RpcProxy

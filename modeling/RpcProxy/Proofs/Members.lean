import RpcProxy.Proofs.Mirror

/-!
# Members of generated structs

Go wants the fields and methods of one type to have different names. Beside the names of a service's
methods, which differ from each other, a proxy has its method `Serve`, and an adapter has the server
it embeds and the field `proxy`. An exported name is never `proxy`. The two others are exported
names themselves, and a service that has a method of this name has a struct with two such members.
-/

namespace RpcProxy

open GoName Reader

/-- The name of the member on a line of a struct: a field is named before its type, and an embedded
type has its own name without its package. -/
def memberName? (line : String) : Option String := do
  let member ← Text.dropBeginning? "\t" line
  match Text.cutFirst ' ' member with
  | some (name, _) => return name
  | none => return ((Text.cutLast '.' member).map (·.2)).getD member

/-- The names of the fields and methods of a struct. -/
def StructReading.memberNames (struct : StructReading) : List String :=
  struct.members.filterMap memberName? ++
    struct.behind.filterMap (Declaration.methodOf? struct.name)

theorem memberName?_field {name : String} (unspaced : ' ' ∉ name.toList) (type : String) :
    memberName? ("\t" ++ name ++ " " ++ type) = some name := by
  have cut : Text.cutFirst ' ' (name ++ String.singleton ' ' ++ type) = some (name, type) :=
    Text.cutFirst_append unspaced type
  have line : "\t" ++ name ++ " " ++ type = "\t" ++ (name ++ String.singleton ' ' ++ type) := by
    simp only [String.append_assoc]
    rfl
  rw [line, memberName?, Text.dropBeginning?_append]
  simp only [Option.bind_eq_bind, Option.bind_some, cut, Option.pure_def]

theorem memberName?_embedded {reference : Reference} (plain : IsTypeText reference.text)
    (undotted : '.' ∉ reference.name.toList) :
    memberName? ("\t" ++ reference.text) = some reference.name := by
  have cut : ((Text.cutLast '.' reference.text).map (·.2)).getD reference.text =
      reference.name := by
    obtain ⟨_ | qualifier, name⟩ := reference
    · have text : Reference.text ⟨none, name⟩ = name := rfl
      rw [text, Text.cutLast_eq_none undotted]
      rfl
    · have text : Reference.text ⟨some qualifier, name⟩ =
          qualifier ++ String.singleton '.' ++ name := rfl
      rw [text, Text.cutLast_append qualifier undotted]
      rfl
  have unspaced : Text.cutFirst ' ' reference.text = none :=
    Text.cutFirst_eq_none (plain.notMem (by decide))
  rw [memberName?, Text.dropBeginning?_append]
  simp only [Option.bind_eq_bind, Option.bind_some, unspaced, cut, Option.pure_def]

namespace ServiceProxy

variable {service : ServiceProxy}

/-- A proxy has a field for each method, and `Serve`. -/
theorem memberNames_proxyStruct (plain : service.Plain) (isFirst : Bool) :
    (service.proxyStruct isFirst).memberNames = service.methods.map (·.name) ++ ["Serve"] := by
  have fields : service.fieldLines.filterMap memberName? = service.methods.map (·.name) := by
    rw [fieldLines, List.filterMap_map, ← List.filterMap_eq_map]
    refine List.filterMap_congr fun method member => ?_
    have space : " func" = " " ++ "func" := rfl
    have named := memberName?_field ((plain.method method member).name.notMem (by decide))
      ("func" ++ method.text)
    change memberName? ("\t" ++ method.name ++ " func" ++ method.text) = some method.name
    rw [space]
    simpa only [String.append_assoc] using named
  have own : (service.proxyStruct isFirst).behind.filterMap
      (Declaration.methodOf? (service.proxyStruct isFirst).name) = ["Serve"] :=
    ownMethods_proxyStruct service isFirst
  rw [StructReading.memberNames, own, ← fields]
  rfl

/-- An adapter has the embedded server, the proxy and a method for each method. -/
theorem memberNames_adapterStruct (plain : service.Plain)
    (undotted : '.' ∉ service.unimplemented.name.toList) :
    service.adapterStruct.memberNames =
      service.unimplemented.name :: "proxy" :: service.methods.map (·.name) := by
  have members : service.memberLines.filterMap memberName? =
      [service.unimplemented.name, "proxy"] := by
    have proxy := memberName?_field (by decide : ' ' ∉ "proxy".toList) ("*" ++ service.proxyName)
    have line : "\t" ++ "proxy" ++ " " ++ ("*" ++ service.proxyName) =
        "\tproxy *" ++ service.proxyName := by
      rw [← String.append_assoc]
      rfl
    rw [line] at proxy
    rw [memberLines]
    simp only [List.filterMap_cons, memberName?_embedded plain.unimplemented undotted, proxy,
      List.filterMap_nil]
    rfl
  have methods : (service.methods.map service.methodDeclaration).filterMap
      (Declaration.methodOf? service.adapterName) = service.methods.map (·.name) := by
    rw [List.filterMap_map, ← List.filterMap_eq_map]
    refine List.filterMap_congr fun method _ => ?_
    simp [methodDeclaration, Declaration.methodOf?]
  rw [StructReading.memberNames, adapterStruct, members, methods]
  rfl

end ServiceProxy

namespace ProxySource

variable {source : ProxySource}

theorem declarations?_body (declares : source.services ≠ [])
    (plain : ∀ service ∈ source.services, service.Plain) :
    declarations? (Text.split '\n' (written source.body)) = some (declared source.services) := by
  have blocks := body_append_blank declares
  have whole : ∀ line ∈ source.body, '\n' ∉ line.toList := by
    intro line member
    have inBlocks := blocks ▸ List.mem_append_left [""] member
    obtain ⟨block, isBlock, inBlock⟩ := List.mem_flatMap.mp inBlocks
    rcases List.mem_append.mp inBlock with inBlock | blank
    · exact notMem_serviceBlocks plain block isBlock line inBlock
    · simp [List.mem_singleton.mp blank]
  rw [split_written whole, blocks]
  exact declarations?_of_reads (reads_serviceBlocks plain)

end ProxySource

/-- Whether a proxy and an adapter have the members of a service, and when their names differ. -/
structure Service.HasMembers (file : ProtoFile) (service : Service)
    (structs : StructReading × StructReading) : Prop where
  proxy : structs.1.name = file.proxyName service
  proxyMembers : structs.1.memberNames.Perm ("Serve" :: service.methodNames)
  proxyDistinct : structs.1.memberNames.Nodup ↔ "Serve" ∉ service.methodNames
  adapter : structs.2.name = unexported service.name ++ "Server"
  adapterMembers : structs.2.memberNames.Perm
    (("Unimplemented" ++ service.name ++ "Server") :: "proxy" :: service.methodNames)
  adapterDistinct : structs.2.memberNames.Nodup ↔
    "Unimplemented" ++ service.name ++ "Server" ∉ service.methodNames

namespace ProtoFile

/-- Whether what a file mentions has the exported forms of schema names as names. -/
structure HasSchemaNames (file : ProtoFile) : Prop where
  service : ∀ service ∈ file.services,
    ∃ name, isSchemaIdentifier name = true ∧ service.name = exported name
  method : ∀ method ∈ file.methods,
    ∃ name, isSchemaIdentifier name = true ∧ method.name = exported name
  message : ∀ message ∈ file.spelled,
    ∃ name, IsSchemaName name ∧ message.identifier.name = exported name

variable {file : ProtoFile} {options : Options} {service : Service} {proxy : ServiceProxy}

theorem HasSchemaNames.hasWords (named : file.HasSchemaNames) : file.HasWords where
  service service member := by
    obtain ⟨name, identifier, isExported⟩ := named.service service member
    exact isExported ▸ (IsSchemaName.simple identifier).isWord_exported
  method method member := by
    obtain ⟨name, identifier, isExported⟩ := named.method method member
    exact isExported ▸ (IsSchemaName.simple identifier).isWord_exported
  message message member := by
    obtain ⟨name, schema, isExported⟩ := named.message message member
    exact isExported ▸ schema.isWord_exported

private theorem proxy_notMem_methodNames (named : file.HasSchemaNames)
    (inFile : service ∈ file.services) : "proxy" ∉ service.methodNames := by
  intro member
  obtain ⟨method, inService, isProxy⟩ := List.mem_map.mp member
  obtain ⟨name, _, isExported⟩ :=
    named.method method (mem_methods_iff.mpr ⟨service, inFile, inService⟩)
  have first : (exported name).toList.head? = some 'p' := by
    rw [← isExported, isProxy]
    rfl
  exact absurd (isLower_head?_exported first) (by decide)

private theorem proxy_ne_unimplemented (name : String) :
    "Unimplemented" ++ name ++ "Server" ≠ "proxy" := by
  intro equal
  have first := congrArg (fun name => name.toList.head?) equal
  simp at first

private theorem undotted_unimplemented (named : file.HasSchemaNames)
    (inFile : service ∈ file.services) :
    '.' ∉ ("Unimplemented" ++ service.name ++ "Server").toList := by
  have words : IsWord "Unimplemented" ∧ IsWord "Server" := by decide +kernel
  have word := (words.1.append (named.hasWords.service service inFile)).append words.2
  exact fun dot => absurd (word '.' dot) (by decide +kernel)

private theorem names_of_serviceProxy
    (made : file.serviceProxy (file.scope options) service = .ok proxy) :
    proxy.serviceName = service.name ∧ proxy.proxyName = file.proxyName service ∧
      proxy.unimplemented.name = "Unimplemented" ++ service.name ++ "Server" ∧
      (proxy.methods.map (·.name)).Perm service.methodNames ∧ service.methodNames.Nodup := by
  obtain ⟨signatures, signed, rfl⟩ := serviceProxy_eq_ok_iff.mp made
  exact ⟨rfl, rfl, Scope.name_refer _ _, (Service.names_of_signatures signed).2,
    (Service.signatures_eq_ok_iff.mp signed).1⟩

/-- The proxy and the adapter of a service have its members. -/
theorem hasMembers_of_serviceProxy (named : file.HasSchemaNames) (inFile : service ∈ file.services)
    (made : file.serviceProxy (file.scope options) service = .ok proxy) (isFirst : Bool) :
    service.HasMembers file (proxy.proxyStruct isFirst, proxy.adapterStruct) := by
  have plain := plain_serviceProxy named.hasWords inFile made
  obtain ⟨serviceName, proxyName, unimplemented, names, distinct⟩ := names_of_serviceProxy made
  have proxyMembers : (proxy.proxyStruct isFirst).memberNames.Perm
      ("Serve" :: service.methodNames) := by
    rw [ServiceProxy.memberNames_proxyStruct plain]
    exact (List.perm_append_singleton _ _).trans (names.cons _)
  have adapterMembers : proxy.adapterStruct.memberNames.Perm
      (("Unimplemented" ++ service.name ++ "Server") :: "proxy" :: service.methodNames) := by
    rw [ServiceProxy.memberNames_adapterStruct plain
      (unimplemented ▸ undotted_unimplemented named inFile), unimplemented]
    exact (names.cons _).cons _
  constructor
  case proxy => exact proxyName
  case proxyMembers => exact proxyMembers
  case proxyDistinct => rw [proxyMembers.nodup_iff, List.nodup_cons, and_iff_left distinct]
  case adapter => exact congrArg (fun name => unexported name ++ "Server") serviceName
  case adapterMembers => exact adapterMembers
  case adapterDistinct =>
    have proxy := proxy_notMem_methodNames named inFile
    rw [adapterMembers.nodup_iff, List.nodup_cons, List.nodup_cons, List.mem_cons, not_or,
      and_iff_left ⟨proxy, distinct⟩, and_iff_right (proxy_ne_unimplemented service.name)]

/-- A reader finds in a generated file a proxy and an adapter for each service, in their order, with
the members of the service. The members of a proxy have different names unless a method is named
`Serve`, and those of an adapter unless a method is named like the embedded server. -/
theorem output_has_members (named : file.HasSchemaNames) {output : OutputFile}
    (written : file.output options = .ok (some output)) :
    ∃ source declarations pairs, file.proxySource options = .ok source ∧
      output.content = ProxySource.written source.head ++ ProxySource.written source.body ∧
      declarations? (Text.split '\n' (ProxySource.written source.body)) = some declarations ∧
      structs declarations = ([], pairs.flatMap fun pair => [pair.1, pair.2]) ∧
      List.Forall₂ (Service.HasMembers file) file.services pairs := by
  obtain ⟨declares, _, source, generated, text⟩ := output_eq_ok_some_iff.mp written
  have proxies := services_ne_nil generated declares
  have plain := plain_proxySource named.hasWords generated
  refine ⟨source, _, _, generated, ?_, ProxySource.declarations?_body proxies plain,
    ProxySource.structs_declared_eq source.services, ?_⟩
  · rw [← text, ← ProxySource.written_append, ← ProxySource.lines_eq_head_append_body proxies]
    rfl
  · obtain ⟨_, made, rfl⟩ := proxySource_eq_ok_iff.mp generated
    have each := (List.forall₂_and_left _ _).mpr
      ⟨fun service (member : service ∈ file.services) => member, serviceProxies_eq_ok_iff.mp made⟩
    exact ProxySource.forall₂_structPairs each fun _ _ declared =>
      hasMembers_of_serviceProxy named declared.1 declared.2

/-- The file with one service that has a method of the given name. -/
def greeterWith (method : String) : ProtoFile :=
  { greeter with services := [⟨"Greeter", [{ greet with name := method }]⟩] }

private theorem hasSchemaNames_greeterWith {method : String}
    (identifier : isSchemaIdentifier method = true) (isExported : exported method = method) :
    (greeterWith method).HasSchemaNames where
  service service member := by
    obtain rfl := List.mem_singleton.mp member
    exact ⟨"Greeter", by decide, (by decide : "Greeter" = exported "Greeter")⟩
  method other member := by
    obtain rfl := List.mem_singleton.mp member
    exact ⟨method, identifier, isExported.symm⟩
  message message member := by
    have spelled : message ∈ [greet.input, greet.output] := member
    rcases List.mem_pair.mp spelled with rfl | rfl
    · exact ⟨"Name", .simple (by decide), by decide⟩
    · exact ⟨"Empty", .simple (by decide), by decide⟩

theorem output_has_members_greet :
    ∃ output source declarations, (greeterWith "Greet").output {} = .ok (some output) ∧
      (greeterWith "Greet").proxySource {} = .ok source ∧
      declarations? (Text.split '\n' (ProxySource.written source.body)) = some declarations ∧
      (structs declarations).2.length = 2 ∧
      ∀ struct ∈ (structs declarations).2, struct.memberNames.Nodup := by
  obtain ⟨output, written⟩ : ∃ output, (greeterWith "Greet").output {} = .ok (some output) := by
    refine ⟨⟨_, _⟩, output_eq_ok_some_iff.mpr ⟨by decide, rfl, _, rfl, rfl⟩⟩
  obtain ⟨source, declarations, pairs, generated, _, read, found, members⟩ :=
    output_has_members (hasSchemaNames_greeterWith (by decide) (by decide)) written
  obtain ⟨pair, _, here, others, rfl⟩ := List.forall₂_cons_left_iff.mp members
  obtain rfl := List.forall₂_nil_left_iff.mp others
  have both : (structs declarations).2 = [pair.1, pair.2] := by simp [found]
  refine ⟨output, source, declarations, written, generated, read, by rw [both]; rfl, ?_⟩
  rw [both, List.forall_mem_cons, List.forall_mem_singleton]
  exact ⟨here.proxyDistinct.mpr (by decide), here.adapterDistinct.mpr (by decide)⟩

/-- A method `Serve` gives the proxy a field and a method of one name, and a method that is named
like the embedded server does so for the adapter. -/
theorem members_of_one_name :
    (greeterWith "Serve").HasSchemaNames ∧
    (∃ output source declarations, (greeterWith "Serve").output {} = .ok (some output) ∧
      (greeterWith "Serve").proxySource {} = .ok source ∧ source.text = output.content ∧
      declarations? (Text.split '\n' (ProxySource.written source.body)) = some declarations ∧
      (structs declarations).2.map (·.memberNames) =
        [["Serve", "Serve"], ["UnimplementedGreeterServer", "proxy", "Serve"]]) ∧
    (greeterWith "UnimplementedGreeterServer").HasSchemaNames ∧
    ∃ output source declarations,
      (greeterWith "UnimplementedGreeterServer").output {} = .ok (some output) ∧
      (greeterWith "UnimplementedGreeterServer").proxySource {} = .ok source ∧
      source.text = output.content ∧
      declarations? (Text.split '\n' (ProxySource.written source.body)) = some declarations ∧
      (structs declarations).2.map (·.memberNames) =
        [["UnimplementedGreeterServer", "Serve"],
         ["UnimplementedGreeterServer", "proxy", "UnimplementedGreeterServer"]] := by
  have reads {method : String} {names : List (List String)}
      (named : (greeterWith method).HasSchemaNames)
      (check : ((greeterWith method).proxySource {}).toOption.any (fun source =>
        (structs (ProxySource.declared source.services)).2.map (·.memberNames) = names) = true) :
      ∃ output source declarations, (greeterWith method).output {} = .ok (some output) ∧
        (greeterWith method).proxySource {} = .ok source ∧ source.text = output.content ∧
        declarations? (Text.split '\n' (ProxySource.written source.body)) = some declarations ∧
        (structs declarations).2.map (·.memberNames) = names := by
    obtain ⟨source, generated, same⟩ := Except.exists_eq_ok_and check
    have declares : (greeterWith method).services ≠ [] := List.cons_ne_nil _ _
    exact ⟨⟨_, source.text⟩, source, _,
      output_eq_ok_some_iff.mpr ⟨declares, rfl, source, generated, rfl⟩, generated, rfl,
      ProxySource.declarations?_body (services_ne_nil generated declares)
        (plain_proxySource named.hasWords generated), same⟩
  have serve : (greeterWith "Serve").HasSchemaNames :=
    hasSchemaNames_greeterWith (by decide) (by decide)
  have unimplemented : (greeterWith "UnimplementedGreeterServer").HasSchemaNames :=
    hasSchemaNames_greeterWith (by decide) (by decide)
  exact ⟨serve, reads serve (by decide +kernel), unimplemented,
    reads unimplemented (by decide +kernel)⟩

end ProtoFile

end RpcProxy

import Mathlib.Data.List.Nodup
import RpcProxy.Proofs.GoName
import RpcProxy.Proofs.Response

/-!
# What a generated file declares

A generated file declares a proxy and an adapter for each of its services, and the error they share.
Their endings keep the three kinds apart. Within a kind, names differ if the unexported names of the
services do. Messages of the file's own package have exported names, so that none is taken for the
error or for the adapter of a service whose name starts with a letter.
-/

namespace RpcProxy

/-- The names that a generated file declares at its top level. -/
def ProxySource.declaredNames (source : ProxySource) : List String :=
  sentinel :: (source.services.map (·.proxyName) ++ source.services.map (·.adapterName))

/-- How the names that a generated file declares differ from each other and from the names of
messages that stand alone in it. -/
structure ProxySource.Apart (source : ProxySource) (file : ProtoFile) (options : Options) :
    Prop where
  serviceNames : source.services.map (·.serviceName) = file.services.map (·.name)
  proxyName : ∀ service ∈ source.services, service.proxyName =
    if source.services.length = 1 then "Proxy" else service.serviceName ++ "Proxy"
  proxies : ∀ left ∈ source.services, ∀ right ∈ source.services,
    left.serviceName ≠ right.serviceName → left.proxyName ≠ right.proxyName
  proxy_ne_adapter : ∀ left ∈ source.services, ∀ right ∈ source.services,
    left.proxyName ≠ right.adapterName
  ne_sentinel : ∀ service ∈ source.services,
    service.proxyName ≠ sentinel ∧ service.adapterName ≠ sentinel
  nodup : (file.services.map fun service => GoName.unexported service.name).Nodup →
    source.declaredNames.Nodup
  message : ∀ message ∈ file.spelled, ∀ name,
    (file.scope options).typeOf message = ⟨none, name⟩ → name ∈ source.declaredNames →
    name ∈ source.services.map (·.proxyName) ∨
      ∃ service ∈ source.services, name = service.adapterName ∧
        ∀ letter, service.serviceName.toList.head? = some letter → letter.isAlpha = false

private theorem ne_of_last {left right : String}
    (differ : left.toList.getLast? ≠ right.toList.getLast?) : left ≠ right := by
  rintro rfl
  exact differ rfl

private theorem proxy_ne_server {front back : String} : front ++ "Proxy" ≠ back ++ "Server" :=
  ne_of_last (by simp)

private theorem proxy_ne_sentinel {front : String} : front ++ "Proxy" ≠ sentinel :=
  ne_of_last (by simp [sentinel])

private theorem server_ne_sentinel {front : String} : front ++ "Server" ≠ sentinel :=
  ne_of_last (by simp [sentinel])

namespace ProtoFile

variable {file : ProtoFile} {options : Options} {source : ProxySource}

theorem names_of_proxySource (generated : file.proxySource options = .ok source) :
    source.services.map (·.serviceName) = file.services.map (·.name) ∧
      source.services.map (·.proxyName) = file.services.map file.proxyName := by
  obtain ⟨proxies, declared, rfl⟩ := proxySource_eq_ok_iff.mp generated
  have each := serviceProxies_eq_ok_iff.mp declared
  constructor
  · refine (each.map_eq_map fun service proxy made => ?_).symm
    obtain ⟨_, _, rfl⟩ := serviceProxy_eq_ok_iff.mp made
    rfl
  · refine (each.map_eq_map fun service proxy made => ?_).symm
    obtain ⟨_, _, rfl⟩ := serviceProxy_eq_ok_iff.mp made
    rfl

/-- A proxy is named after its service, if there are several. -/
theorem proxyName_of_proxySource (generated : file.proxySource options = .ok source)
    {proxy : ServiceProxy} (member : proxy ∈ source.services) :
    proxy.proxyName =
      if source.services.length = 1 then "Proxy" else proxy.serviceName ++ "Proxy" := by
  have count := congrArg List.length (names_of_proxySource generated).1
  rw [List.length_map, List.length_map] at count
  obtain ⟨service, _, made⟩ := (mem_services_iff generated).mp member
  obtain ⟨_, _, rfl⟩ := serviceProxy_eq_ok_iff.mp made
  rw [count]
  rfl

private theorem exists_front (generated : file.proxySource options = .ok source)
    {proxy : ServiceProxy} (member : proxy ∈ source.services) :
    ∃ front, proxy.proxyName = front ++ "Proxy" := by
  rw [proxyName_of_proxySource generated member]
  split
  · exact ⟨"", rfl⟩
  · exact ⟨proxy.serviceName, rfl⟩

theorem proxyName_ne (generated : file.proxySource options = .ok source)
    {left right : ServiceProxy} (leftMember : left ∈ source.services)
    (rightMember : right ∈ source.services) (differ : left.serviceName ≠ right.serviceName) :
    left.proxyName ≠ right.proxyName := by
  rw [proxyName_of_proxySource generated leftMember, proxyName_of_proxySource generated rightMember]
  split
  · rename_i alone
    obtain ⟨service, services⟩ := List.length_eq_one_iff.mp alone
    rw [services, List.mem_singleton] at leftMember rightMember
    exact absurd (congrArg _ (leftMember.trans rightMember.symm)) differ
  · exact fun equal => differ ((String.append_left_inj _).mp equal)

private theorem nodup_proxyNames (generated : file.proxySource options = .ok source)
    (distinct : (file.services.map (·.name)).Nodup) :
    (source.services.map (·.proxyName)).Nodup := by
  rw [← (names_of_proxySource generated).1, List.Nodup, List.pairwise_map] at distinct
  rw [List.Nodup, List.pairwise_map]
  exact distinct.imp_of_mem fun leftMember rightMember differ =>
    proxyName_ne generated leftMember rightMember differ

private theorem nodup_adapterNames (generated : file.proxySource options = .ok source)
    (distinct : (file.services.map fun service => GoName.unexported service.name).Nodup) :
    (source.services.map (·.adapterName)).Nodup := by
  have names : source.services.map (·.adapterName) =
      ((source.services.map (·.serviceName)).map GoName.unexported).map (· ++ "Server") := by
    rw [List.map_map, List.map_map]
    rfl
  have injective : Function.Injective fun name : String => name ++ "Server" :=
    fun left right equal => (String.append_left_inj _).mp equal
  rw [names, (names_of_proxySource generated).1]
  refine List.Nodup.map injective ?_
  rwa [List.map_map]

/-- The names a file declares differ if the unexported names of its services do. -/
theorem nodup_declaredNames (generated : file.proxySource options = .ok source)
    (distinct : (file.services.map fun service => GoName.unexported service.name).Nodup) :
    source.declaredNames.Nodup := by
  have exportedDistinct : (file.services.map (·.name)).Nodup := by
    refine List.Nodup.of_map GoName.unexported ?_
    rwa [List.map_map]
  have proxies := nodup_proxyNames generated exportedDistinct
  have adapters := nodup_adapterNames generated distinct
  rw [ProxySource.declaredNames, List.nodup_cons, List.mem_append, not_or, List.nodup_append]
  refine ⟨⟨?_, ?_⟩, proxies, adapters, ?_⟩
  · intro member
    obtain ⟨proxy, inServices, equal⟩ := List.mem_map.mp member
    obtain ⟨front, ending⟩ := exists_front generated inServices
    exact proxy_ne_sentinel (ending ▸ equal)
  · intro member
    obtain ⟨proxy, _, equal⟩ := List.mem_map.mp member
    exact server_ne_sentinel equal
  · intro name inProxies other inAdapters equal
    obtain ⟨proxy, inServices, rfl⟩ := List.mem_map.mp inProxies
    obtain ⟨adapter, _, rfl⟩ := List.mem_map.mp inAdapters
    obtain ⟨front, ending⟩ := exists_front generated inServices
    exact proxy_ne_server (ending ▸ equal)

end ProtoFile

/-- The messages that converted services mention have exported names. -/
theorem Schema.exists_exported {packageOf : Registry String} {wanted : List String}
    {pool : Linking.Pool} {files : List ProtoFile} (made : ofPool packageOf wanted pool = .ok files)
    {file : ProtoFile} (member : file ∈ files) {message : Message}
    (spelled : message ∈ file.spelled) :
    ∃ name, message.identifier.name = GoName.exported name := by
  obtain ⟨linked, _, made⟩ := (ofPool_eq_ok_iff.mp made).flip.exists_of_mem member
  obtain ⟨_, services, _, known, rfl⟩ := file_eq_ok_iff.mp made
  obtain ⟨method, inMethods, inMethod⟩ := List.mem_flatMap.mp spelled
  obtain ⟨service, inServices, inService⟩ := List.mem_flatMap.mp inMethods
  obtain ⟨linkedService, _, result⟩ := known.flip.exists_of_mem inServices
  rw [knownService] at result
  split at result
  · simp at result
  · obtain rfl := Except.ok.inj result
    obtain ⟨linkedMethod, _, rfl⟩ := List.mem_map.mp inService
    cases Method.mem_spelled_iff.mp inMethod with
    | input => exact ⟨_, rfl⟩
    | output => exact ⟨_, rfl⟩

namespace ProtoFile

variable {file : ProtoFile} {options : Options} {source : ProxySource}

private theorem name_of_typeOf {scope : Scope} {message : Message} {name : String}
    (alone : scope.typeOf message = ⟨none, name⟩) : name = message.identifier.name := by
  rw [Scope.typeOf] at alone
  split at alone
  · simp at alone
  · rw [Scope.refer] at alone
    split at alone
    · exact (congrArg Reference.name alone).symm
    · exact (congrArg Reference.name alone).symm

/-- A generated file keeps the names it declares apart if the messages in it have exported names. -/
theorem apart_of_proxySource (generated : file.proxySource options = .ok source)
    (exported : ∀ message ∈ file.spelled,
      ∃ name, message.identifier.name = GoName.exported name) :
    source.Apart file options where
  serviceNames := (names_of_proxySource generated).1
  proxyName _ member := proxyName_of_proxySource generated member
  proxies _ leftMember _ rightMember := proxyName_ne generated leftMember rightMember
  proxy_ne_adapter left inServices right _ equal := by
    obtain ⟨front, ending⟩ := exists_front generated inServices
    exact proxy_ne_server (ending ▸ equal)
  ne_sentinel service inServices := by
    obtain ⟨front, ending⟩ := exists_front generated inServices
    exact ⟨ending ▸ proxy_ne_sentinel, server_ne_sentinel⟩
  nodup := nodup_declaredNames generated
  message message spelled name alone declared := by
    obtain ⟨schemaName, isExported⟩ := exported message spelled
    have named : name = GoName.exported schemaName := (name_of_typeOf alone).trans isExported
    rw [ProxySource.declaredNames, List.mem_cons, List.mem_append] at declared
    rcases declared with isSentinel | inProxies | inAdapters
    · have first : (GoName.exported schemaName).toList.head? = some 'e' := by
        rw [← named, isSentinel]
        rfl
      exact absurd (GoName.isLower_head?_exported first) (by decide)
    · exact .inl inProxies
    · obtain ⟨service, inServices, isAdapter⟩ := List.mem_map.mp inAdapters
      refine .inr ⟨service, inServices, isAdapter.symm, fun letter first => ?_⟩
      by_contra alphabetic
      rw [Bool.not_eq_false] at alphabetic
      obtain ⟨lowered, start, lower⟩ := GoName.exists_head?_unexported first alphabetic
      have same : (GoName.exported schemaName).toList.head? = some lowered := by
        rw [← named, ← isAdapter, ServiceProxy.adapterName, String.toList_append, List.head?_append,
          start]
        rfl
      rw [GoName.isLower_head?_exported same] at lower
      exact Bool.noConfusion lower

end ProtoFile

namespace Request

variable {request : Request} {response : Response}

/-- Every file of a response is the text of a generated file that keeps the names it declares
apart. -/
theorem declared_names_apart (answered : request.respond = .ok response)
    (complete : response.error = none) :
    ∃ options files, request.parse = .ok (options, files) ∧
      List.Forall₂ (fun file entry => ∃ source, file.proxySource options = .ok source ∧
          entry.content = some source.text ∧ source.Apart file options)
        (files.filter Run.wants) response.files := by
  obtain ⟨options, files, parsed, entries⟩ := entries_of_respond answered complete
  obtain ⟨pool, _, _, made⟩ := parse_eq_ok_iff.mp parsed
  have within := (List.forall₂_and_left _ _).mpr
    ⟨fun file (member : file ∈ files.filter Run.wants) => member, entries⟩
  refine ⟨options, files, parsed, within.imp ?_⟩
  rintro file _ ⟨member, output, written, rfl⟩
  obtain ⟨_, _, source, generated, text⟩ := ProtoFile.output_eq_ok_some_iff.mp written
  have exported : ∀ message ∈ file.spelled,
      ∃ name, message.identifier.name = GoName.exported name := fun message spelled =>
    Schema.exists_exported made (List.mem_of_mem_filter member) spelled
  exact ⟨source, generated, congrArg some text.symm,
    ProtoFile.apart_of_proxySource generated exported⟩

/-- A file with two services and a message that the first one takes and returns. -/
def home (message second : String) : Request where
  filesToGenerate := ["home.proto"]
  files :=
    [{ name := some "home.proto", package := some "home", dialect := some "proto3"
       messages := [{ name := some message }]
       services :=
        [{ name := some "FrontDoor", methods :=
            [{ name := some "Open", inputType := some message, outputType := some message }] },
         { name := some second }]
       options := some { goPackage := some "example.com/home" } }]

/-- Two doors that no letter case can confuse. -/
theorem declared_names_apart_home :
    ∃ response, (home "Key" "BackDoor").respond = .ok response ∧ response.error = none ∧
      ∃ options files, (home "Key" "BackDoor").parse = .ok (options, files) ∧
        List.Forall₂ (fun file entry => ∃ source, file.proxySource options = .ok source ∧
            entry.content = some source.text ∧ source.declaredNames.Nodup)
          (files.filter Run.wants) response.files := by
  obtain ⟨response, answered, complete⟩ :
      ∃ response, (home "Key" "BackDoor").respond = .ok response ∧ response.error = none :=
    Except.exists_eq_ok_and (by decide +kernel)
  obtain ⟨parsed, parse, distinct⟩ :
      ∃ parsed, (home "Key" "BackDoor").parse = .ok parsed ∧
        ∀ file ∈ parsed.2.filter Run.wants,
          (file.services.map fun service => GoName.unexported service.name).Nodup :=
    Except.exists_eq_ok_and (by decide +kernel)
  obtain ⟨options, files, parsedSo, apart⟩ := declared_names_apart answered complete
  obtain rfl : (options, files) = parsed := Except.ok.inj (parsedSo.symm.trans parse)
  refine ⟨response, answered, complete, options, files, parse, ?_⟩
  have within := (List.forall₂_and_left _ _).mpr ⟨distinct, apart⟩
  refine within.imp ?_
  rintro file entry ⟨distinct, source, generated, content, apart⟩
  exact ⟨source, generated, content, apart.nodup distinct⟩

/-- Services that differ by an underscore have adapters of one name, and a message can have the name
of a proxy. -/
theorem home_declares_twice :
    (∃ response, (home "FrontDoorProxy" "Front_Door").respond = .ok response ∧
      response.error = none) ∧
    ∃ options files, (home "FrontDoorProxy" "Front_Door").parse = .ok (options, files) ∧
      options.standalone = false ∧ ∃ file ∈ files.filter Run.wants, ∃ source,
        file.proxySource options = .ok source ∧
        source.declaredNames = ["errNotSupported", "FrontDoorProxy", "Front_DoorProxy",
          "frontDoorServer", "frontDoorServer"] ∧
        ¬source.declaredNames.Nodup ∧
        ∃ message ∈ file.spelled,
          (file.scope options).typeOf message = ⟨none, "FrontDoorProxy"⟩ := by
  obtain ⟨⟨options, files⟩, parse, inPlace, file, member, declares, spelled⟩ :
      ∃ parsed, (home "FrontDoorProxy" "Front_Door").parse = .ok parsed ∧
        parsed.1.standalone = false ∧ ∃ file ∈ parsed.2.filter Run.wants,
          (file.proxySource parsed.1).toOption.any (fun source => source.declaredNames =
            ["errNotSupported", "FrontDoorProxy", "Front_DoorProxy", "frontDoorServer",
              "frontDoorServer"]) = true ∧
          ∃ message ∈ file.spelled,
            (file.scope parsed.1).typeOf message = ⟨none, "FrontDoorProxy"⟩ :=
    Except.exists_eq_ok_and (by decide +kernel)
  obtain ⟨source, generated, names⟩ := Except.exists_eq_ok_and declares
  have repeated : ¬source.declaredNames.Nodup := by
    rw [names]
    decide
  exact ⟨Except.exists_eq_ok_and (by decide +kernel), options, files, parse, inPlace, file, member,
    source, generated, names, repeated, spelled⟩

end Request

end RpcProxy

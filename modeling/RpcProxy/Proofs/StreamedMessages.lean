import RpcProxy.Proofs.References

/-!
# Streamed messages

A streamed side of a method is only reached through the type of the stream, so that its message is
not written anywhere. Files that differ in such messages alone have one output: the signatures, the
imports and their aliases, and with them the text are those of the messages that are spelled.
-/

namespace RpcProxy

/-- A method with the same spelled messages as another one, and any messages on the streamed
sides. -/
structure Method.SpellsAlike (method other : Method) : Prop where
  name : method.name = other.name
  clientStreaming : method.clientStreaming = other.clientStreaming
  serverStreaming : method.serverStreaming = other.serverStreaming
  input : method.clientStreaming = false → method.input = other.input
  output : method.clientStreaming = false → method.serverStreaming = false →
    method.output = other.output

/-- A service with the methods of another one, each with any messages on the streamed sides. -/
structure Service.SpellsAlike (service other : Service) : Prop where
  name : service.name = other.name
  methods : List.Forall₂ Method.SpellsAlike service.methods other.methods

/-- A file with any messages on the streamed sides of another one's methods. -/
structure ProtoFile.SpellsAlike (file other : ProtoFile) : Prop where
  name : file.name = other.name
  dialect : file.dialect = other.dialect
  packageName : file.packageName = other.packageName
  importPath : file.importPath = other.importPath
  generate : file.generate = other.generate
  services : List.Forall₂ Service.SpellsAlike file.services other.services

/-- A method with given messages on the streamed sides. -/
def Method.withStreamed (method : Method) (input output : Message) : Method :=
  { method with
    input := if method.clientStreaming then input else method.input
    output := if method.isUnary then method.output else output }

theorem Method.spellsAlike_withStreamed (method : Method) (input output : Message) :
    method.SpellsAlike (method.withStreamed input output) where
  name := rfl
  clientStreaming := rfl
  serverStreaming := rfl
  input client := by simp [withStreamed, client]
  output client server := by simp [withStreamed, isUnary, shape, client, server]

namespace Method.SpellsAlike

variable {method other : Method}

theorem shape (alike : method.SpellsAlike other) : method.shape = other.shape := by
  rw [Method.shape, Method.shape, alike.clientStreaming, alike.serverStreaming]

theorem spelled (alike : method.SpellsAlike other) : method.spelled = other.spelled := by
  rw [Method.spelled, Method.spelled, ← alike.shape, Method.shape]
  cases client : method.clientStreaming with
  | true => rfl
  | false =>
      cases server : method.serverStreaming with
      | true => exact congrArg (fun input => [input]) (alike.input client)
      | false =>
          exact congrArg₂ (fun input output => [input, output]) (alike.input client)
            (alike.output client server)

/-- A signature has no place for a streamed message. -/
theorem ofMethod (alike : method.SpellsAlike other) (scope : Scope) (service : Identifier) :
    Signature.ofMethod scope service method = Signature.ofMethod scope service other := by
  have stream : Signature.streamOf scope service method =
      Signature.streamOf scope service other := by
    rw [Signature.streamOf, Signature.streamOf, alike.name]
  rw [Signature.ofMethod, Signature.ofMethod, ← alike.shape, ← alike.name, ← stream, Method.shape]
  cases client : method.clientStreaming with
  | true => rfl
  | false =>
      rw [← alike.input client]
      cases server : method.serverStreaming with
      | true => rfl
      | false => rw [← alike.output client server]

end Method.SpellsAlike

theorem Service.SpellsAlike.signatures {service other : Service} (alike : service.SpellsAlike other)
    (scope : Scope) (ident : Identifier) :
    service.signatures scope ident = other.signatures scope ident := by
  have names : service.methods.map (·.name) = other.methods.map (·.name) :=
    alike.methods.map_eq_map fun _ _ alike => alike.name
  have named : (service.methods.map fun method =>
      (method.name, Signature.ofMethod scope ident method)) =
        other.methods.map fun method => (method.name, Signature.ofMethod scope ident method) :=
    alike.methods.map_eq_map fun _ _ alike => by rw [alike.name, alike.ofMethod scope ident]
  rw [Service.signatures, Service.signatures, names, named, alike.name]

/-- A file with given messages on the streamed sides of all methods. -/
def ProtoFile.withStreamed (file : ProtoFile) (input output : Message) : ProtoFile :=
  { file with services := file.services.map fun service =>
      { service with methods := service.methods.map (·.withStreamed input output) } }

theorem ProtoFile.spellsAlike_withStreamed (file : ProtoFile) (input output : Message) :
    file.SpellsAlike (file.withStreamed input output) where
  name := rfl
  dialect := rfl
  packageName := rfl
  importPath := rfl
  generate := rfl
  services := by
    refine List.forall₂_map_right_iff.mpr (List.forall₂_same.mpr fun service _ => ⟨rfl, ?_⟩)
    refine List.forall₂_map_right_iff.mpr (List.forall₂_same.mpr fun method _ => ?_)
    exact method.spellsAlike_withStreamed input output

namespace ProtoFile

namespace SpellsAlike

variable {file other : ProtoFile} {options : Options}

private theorem flatMap_methods {services others : List Service}
    (alike : List.Forall₂ Service.SpellsAlike services others) :
    List.Forall₂ Method.SpellsAlike (services.flatMap (·.methods))
      (others.flatMap (·.methods)) := by
  induction alike with
  | nil => exact .nil
  | cons first _ induction => exact List.rel_append first.methods induction

theorem methods (alike : file.SpellsAlike other) :
    List.Forall₂ Method.SpellsAlike file.methods other.methods :=
  flatMap_methods alike.services

theorem spelled (alike : file.SpellsAlike other) : file.spelled = other.spelled := by
  rw [ProtoFile.spelled, ProtoFile.spelled, List.flatMap_def, List.flatMap_def,
    alike.methods.map_eq_map fun _ _ alike => alike.spelled]

theorem scope (alike : file.SpellsAlike other) (options : Options) :
    file.scope options = other.scope options := by
  have shapes : file.methods.map Method.isUnary = other.methods.map Method.isUnary :=
    alike.methods.map_eq_map fun _ _ alike => by rw [Method.isUnary, Method.isUnary, alike.shape]
  have unary : file.methods.any Method.isUnary = other.methods.any Method.isUnary := by
    simpa [List.any_map] using congrArg (fun shapes => shapes.any id) shapes
  have localPath : file.localPath options = other.localPath options := by
    rw [ProtoFile.localPath, ProtoFile.localPath, alike.importPath]
  have requests : file.importRequests options = other.importRequests options := by
    rw [importRequests, importRequests, referencedPackages, referencedPackages, unary,
      alike.spelled, localPath, alike.importPath, alike.packageName]
  rw [ProtoFile.scope, ProtoFile.scope, localPath, requests]

private theorem serviceProxies (alike : file.SpellsAlike other) (scope : Scope)
    {services others : List Service} (each : List.Forall₂ Service.SpellsAlike services others) :
    file.serviceProxies scope services = other.serviceProxies scope others := by
  induction each with
  | nil => rfl
  | @cons service otherService _ _ here _ induction =>
      have proxyName : file.proxyName service = other.proxyName otherService :=
        proxyName_congr alike.services.length_eq here.name
      have proxy : file.serviceProxy scope service = other.serviceProxy scope otherService := by
        rw [serviceProxy, serviceProxy, proxyName, here.signatures, here.name, alike.importPath]
      rw [ProtoFile.serviceProxies, ProtoFile.serviceProxies, induction, proxy]

theorem proxySource (alike : file.SpellsAlike other) (options : Options) :
    file.proxySource options = other.proxySource options := by
  rw [ProtoFile.proxySource, ProtoFile.proxySource, alike.scope options,
    alike.serviceProxies _ alike.services, standalonePackage, standalonePackage, alike.packageName]

theorem outputName (alike : file.SpellsAlike other) (options : Options) :
    file.outputName options = other.outputName options :=
  outputName_congr alike.name alike.packageName alike.importPath options

theorem services_isEmpty (alike : file.SpellsAlike other) :
    file.services.isEmpty = other.services.isEmpty := by
  rw [Bool.eq_iff_iff, List.isEmpty_iff_length_eq_zero, List.isEmpty_iff_length_eq_zero,
    alike.services.length_eq]

end SpellsAlike

/-- Files that differ in streamed messages alone have one output, or fail in one way. -/
theorem output_of_spellsAlike {file other : ProtoFile} (alike : file.SpellsAlike other)
    (options : Options) : file.output options = other.output options := by
  rw [output, output, alike.services_isEmpty, alike.outputName options, alike.proxySource options]

/-- A file of an address book in which every method streams. -/
def book : ProtoFile :=
  let entry : Message := ⟨"book.Entry", ⟨"Entry", "example.com/book"⟩, "book"⟩
  ⟨"book.proto", .proto3, "book", "example.com/book", true,
    [⟨"Book",
      [⟨"Sync", entry, entry, true, true⟩, ⟨"Load", entry, entry, true, false⟩,
       ⟨"List", entry, entry, false, true⟩]⟩]⟩

/-- The address book with the well-known empty message and one of another package where it
streams. -/
def emptiedBook : ProtoFile :=
  book.withStreamed ⟨wellKnownEmpty, ⟨"Empty", emptyPath⟩, "emptypb"⟩
    ⟨"net.Entry", ⟨"Entry", "example.com/net"⟩, "net"⟩

theorem output_of_spellsAlike_book :
    book.SpellsAlike emptiedBook ∧ book ≠ emptiedBook ∧
      (∃ output, book.output {} = .ok (some output)) ∧ book.output {} = emptiedBook.output {} := by
  have alike : book.SpellsAlike emptiedBook := book.spellsAlike_withStreamed _ _
  have written : ∃ output, book.output {} = .ok (some output) := by
    refine ⟨⟨_, _⟩, output_eq_ok_some_iff.mpr ⟨by decide, rfl, _, rfl, rfl⟩⟩
  exact ⟨alike, by decide, written, output_of_spellsAlike alike {}⟩

end ProtoFile

end RpcProxy

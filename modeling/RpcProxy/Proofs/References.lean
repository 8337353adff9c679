import RpcProxy.Proofs.Generate
import RpcProxy.Proofs.ProxySource
import RpcProxy.Proofs.Scope

/-!
# References of generated files

In Go a bare name belongs to the package of the file and a qualified one to the package that is
imported under the qualifier. The main statement is that every name in a generated file belongs to
the package it is meant for: no reference of a file dangles.
-/

namespace RpcProxy

/-- A reference means an identifier in a file of the given package with the given imports. -/
inductive Reference.Means (localPath : String) (imports : List Import) :
    Reference → Identifier → Prop
  | bare (name : String) : Means localPath imports ⟨none, name⟩ ⟨name, localPath⟩
  | qualified (line : Import) (name : String) : line ∈ imports →
      Means localPath imports ⟨some line.qualifier, name⟩ ⟨name, line.path⟩

/-- The reference to the well-known empty message. -/
def Reference.emptyMessage : Reference := ⟨some "emptypb", "Empty"⟩

theorem Scope.typeOf_of_isEmpty (scope : Scope) {message : Message}
    (empty : message.isEmpty = true) : scope.typeOf message = .emptyMessage := by
  simp [typeOf, empty, Reference.emptyMessage]

theorem Scope.typeOf_of_not_isEmpty (scope : Scope) {message : Message}
    (notEmpty : message.isEmpty = false) :
    scope.typeOf message = scope.refer message.identifier := by
  simp [typeOf, notEmpty]

theorem Scope.name_refer (scope : Scope) (ident : Identifier) :
    (scope.refer ident).name = ident.name := by
  rw [refer]
  split <;> rfl

theorem Scope.qualifier_refer (scope : Scope) (ident : Identifier) :
    (scope.refer ident).qualifier =
      if ident.importPath = scope.localPath then none
      else scope.imports.aliasOf? ident.importPath := by
  rw [refer]
  split <;> rfl

/-- A reference to an identifier whose package is local or imported means this identifier. -/
theorem Scope.means_refer {scope : Scope} {ident : Identifier}
    (reached : ident.importPath = scope.localPath ∨
      ∃ qualifier, scope.imports.aliasOf? ident.importPath = some qualifier) :
    (scope.refer ident).Means scope.localPath scope.imports.imports ident := by
  obtain ⟨name, path⟩ := ident
  rw [refer]
  split
  · rename_i isLocal
    obtain rfl : path = scope.localPath := isLocal
    exact .bare name
  · rename_i notLocal
    obtain ⟨qualifier, found⟩ := reached.resolve_left notLocal
    rw [found]
    exact .qualified ⟨qualifier, path⟩ name (ImportTable.mem_imports_iff.mpr found)

namespace ProtoFile

variable {file : ProtoFile} {options : Options} {scope : Scope}

/-- The identifiers that a file refers to by the packages that declare them. -/
inductive RefersTo (file : ProtoFile) : Identifier → Prop
  | register {service : Service} : service ∈ file.services →
      file.RefersTo ⟨"Register" ++ service.name ++ "Server", file.importPath⟩
  | unimplemented {service : Service} : service ∈ file.services →
      file.RefersTo ⟨"Unimplemented" ++ service.name ++ "Server", file.importPath⟩
  | stream {service : Service} {method : Method} : service ∈ file.services →
      method ∈ service.methods → method.isUnary = false →
      file.RefersTo ⟨service.name ++ "_" ++ method.name ++ "Server", file.importPath⟩
  | message {message : Message} : file.Spells message → message.isEmpty = false →
      file.RefersTo message.identifier

theorem mem_references_serviceProxy_iff {service : Service} {proxy : ServiceProxy}
    (declared : file.serviceProxy scope service = .ok proxy) {reference : Reference} :
    reference ∈ proxy.references ↔
      reference = scope.refer ⟨"Register" ++ service.name ++ "Server", file.importPath⟩ ∨
      reference = scope.refer ⟨"Unimplemented" ++ service.name ++ "Server", file.importPath⟩ ∨
      ∃ method ∈ service.methods,
        reference ∈ (Signature.ofMethod scope (file.identifierOf service) method).references := by
  obtain ⟨signatures, result, rfl⟩ := serviceProxy_eq_ok_iff.mp declared
  simp only [ServiceProxy.references, List.mem_cons, List.mem_flatMap,
    Service.mem_signatures_iff result]
  grind

private theorem mem_references_iff_service {source : ProxySource}
    (generated : file.proxySource options = .ok source) {reference : Reference} :
    reference ∈ source.references ↔
      ∃ service ∈ file.services,
        reference = (file.scope options).refer
            ⟨"Register" ++ service.name ++ "Server", file.importPath⟩ ∨
        reference = (file.scope options).refer
            ⟨"Unimplemented" ++ service.name ++ "Server", file.importPath⟩ ∨
        ∃ method ∈ service.methods, reference ∈ (Signature.ofMethod (file.scope options)
          (file.identifierOf service) method).references := by
  rw [ProxySource.references, List.mem_flatMap]
  constructor
  · rintro ⟨proxy, inSource, refers⟩
    obtain ⟨service, inFile, declared⟩ := (mem_services_iff generated).mp inSource
    exact ⟨service, inFile, (mem_references_serviceProxy_iff declared).mp refers⟩
  · rintro ⟨service, inFile, refers⟩
    obtain ⟨proxy, inSource, declared⟩ := exists_mem_services generated inFile
    exact ⟨proxy, inSource, (mem_references_serviceProxy_iff declared).mpr refers⟩

private theorem mem_references_of_method {source : ProxySource}
    (generated : file.proxySource options = .ok source) {method : Method}
    (member : method ∈ file.methods) {reference : Reference}
    (refers : ∀ service,
      reference ∈ (Signature.ofMethod (file.scope options) service method).references) :
    reference ∈ source.references := by
  obtain ⟨service, inFile, inService⟩ := mem_methods_iff.mp member
  exact (mem_references_iff_service generated).mpr
    ⟨service, inFile, .inr (.inr ⟨method, inService, refers _⟩)⟩

private theorem mem_references_of_spells {source : ProxySource}
    (generated : file.proxySource options = .ok source) {message : Message}
    (spells : file.Spells message) : (file.scope options).typeOf message ∈ source.references := by
  obtain ⟨method, member, spells⟩ := spells
  exact mem_references_of_method generated member fun service =>
    Signature.mem_references_ofMethod_iff.mpr (.inr (.inl ⟨message, spells, rfl⟩))

private theorem mem_references_of_refersTo {source : ProxySource}
    (generated : file.proxySource options = .ok source) {ident : Identifier}
    (refersTo : file.RefersTo ident) : (file.scope options).refer ident ∈ source.references := by
  cases refersTo with
  | register inFile =>
      exact (mem_references_iff_service generated).mpr ⟨_, inFile, .inl rfl⟩
  | unimplemented inFile =>
      exact (mem_references_iff_service generated).mpr ⟨_, inFile, .inr (.inl rfl)⟩
  | stream inFile inService notUnary =>
      refine (mem_references_iff_service generated).mpr
        ⟨_, inFile, .inr (.inr ⟨_, inService, ?_⟩)⟩
      exact Signature.mem_references_ofMethod_iff.mpr (.inr (.inr (.inl ⟨notUnary, rfl⟩)))
  | message spells notEmpty =>
      rw [← Scope.typeOf_of_not_isEmpty _ notEmpty]
      exact mem_references_of_spells generated spells

/-- A generated file refers to the identifiers of the file, and beside them to call contexts, to the
well-known empty message and to the type of errors as its methods require. -/
theorem mem_references_iff {source : ProxySource}
    (generated : file.proxySource options = .ok source) {reference : Reference} :
    reference ∈ source.references ↔
      (∃ ident, file.RefersTo ident ∧ reference = (file.scope options).refer ident) ∨
      ((∃ method ∈ file.methods, method.isUnary = true) ∧
        reference = GoType.context.reference) ∨
      ((∃ message, file.Spells message ∧ message.isEmpty = true) ∧ reference = .emptyMessage) ∨
      ((∃ method, method ∈ file.methods) ∧ reference = GoType.error.reference) := by
  constructor
  · intro refers
    obtain ⟨service, inFile, rfl | rfl | ⟨method, inService, refers⟩⟩ :=
      (mem_references_iff_service generated).mp refers
    · exact .inl ⟨_, .register inFile, rfl⟩
    · exact .inl ⟨_, .unimplemented inFile, rfl⟩
    · have member : method ∈ file.methods := mem_methods_iff.mpr ⟨service, inFile, inService⟩
      rcases Signature.mem_references_ofMethod_iff.mp refers with
        ⟨unary, rfl⟩ | ⟨message, spells, rfl⟩ | ⟨notUnary, rfl⟩ | rfl
      · exact .inr (.inl ⟨⟨method, member, unary⟩, rfl⟩)
      · have inFile : file.Spells message := ⟨method, member, spells⟩
        cases empty : message.isEmpty with
        | true =>
            exact .inr (.inr (.inl ⟨⟨message, inFile, empty⟩, Scope.typeOf_of_isEmpty _ empty⟩))
        | false => exact .inl ⟨_, .message inFile empty, Scope.typeOf_of_not_isEmpty _ empty⟩
      · exact .inl ⟨_, .stream inFile inService notUnary, rfl⟩
      · exact .inr (.inr (.inr ⟨⟨method, member⟩, rfl⟩))
  · rintro (⟨ident, refersTo, rfl⟩ | ⟨⟨method, member, unary⟩, rfl⟩ |
      ⟨⟨message, spells, empty⟩, rfl⟩ | ⟨⟨method, member⟩, rfl⟩)
    · exact mem_references_of_refersTo generated refersTo
    · exact mem_references_of_method generated member fun service =>
        Signature.mem_references_ofMethod_iff.mpr (.inl ⟨unary, rfl⟩)
    · rw [← Scope.typeOf_of_isEmpty (file.scope options) empty]
      exact mem_references_of_spells generated spells
    · exact mem_references_of_method generated member fun service =>
        Signature.mem_references_ofMethod_iff.mpr (.inr (.inr (.inr rfl)))

/-- Every identifier that a file refers to is local or in an imported package. -/
theorem RefersTo.reached {ident : Identifier} (refersTo : file.RefersTo ident)
    (options : Options) :
    ident.importPath = (file.scope options).localPath ∨
      ∃ qualifier, (file.scope options).imports.aliasOf? ident.importPath = some qualifier := by
  have own : file.importPath = (file.scope options).localPath ∨
      ∃ qualifier, (file.scope options).imports.aliasOf? file.importPath = some qualifier := by
    cases standalone : options.standalone with
    | false => exact .inl (by simp [scope, localPath, standalone])
    | true =>
        exact .inr (Option.isSome_iff_exists.mp (isSome_aliasOf?_scope_iff.mpr (.own standalone)))
  cases refersTo with
  | register | unimplemented | stream => exact own
  | message spells notEmpty =>
      refine or_iff_not_imp_left.mpr fun foreign => ?_
      exact Option.isSome_iff_exists.mp
        (isSome_aliasOf?_scope_iff.mpr (.message spells notEmpty foreign))

/-- No reference of a file dangles: whatever it refers to by a package is local or has an alias for
exactly this package, the references of the generated file are those that mean these identifiers,
and the qualifiers that are the same in every file are the aliases of their packages. -/
theorem no_reference_dangles (file : ProtoFile) (options : Options) :
    (∀ ident, file.RefersTo ident →
      ident.importPath = (file.scope options).localPath ∨
        ∃ qualifier, (file.scope options).imports.aliasOf? ident.importPath = some qualifier) ∧
    (∀ source, file.proxySource options = .ok source →
      (∀ ident, file.RefersTo ident →
        (file.scope options).refer ident ∈ source.references ∧
          ((file.scope options).refer ident).Means (file.localPath options) source.imports ident) ∧
      ∀ reference ∈ source.references,
        (∃ ident, file.RefersTo ident ∧ reference = (file.scope options).refer ident) ∨
          reference ∈ [GoType.context.reference, .emptyMessage, GoType.error.reference]) ∧
    (file.scope options).imports.aliasOf? "errors" = some "errors" ∧
    (file.scope options).imports.aliasOf? "net" = some "net" ∧
    (file.scope options).imports.aliasOf? "google.golang.org/grpc" = some "grpc" ∧
    (∀ method ∈ file.methods, method.isUnary = true →
      (file.scope options).imports.aliasOf? "context" = some "context") ∧
    (∀ message, file.Spells message → message.isEmpty = true →
      (file.scope options).imports.aliasOf? emptyPath = some "emptypb") := by
  refine ⟨fun _ refersTo => refersTo.reached options, ?_, aliasOf?_errors, aliasOf?_net,
    aliasOf?_grpc, fun _ => aliasOf?_context, fun _ => aliasOf?_emptyPath⟩
  intro source generated
  have imports : source.imports = (file.scope options).imports.imports := by
    obtain ⟨proxies, _, rfl⟩ := proxySource_eq_ok_iff.mp generated
    rfl
  refine ⟨fun ident refersTo => ⟨?_, ?_⟩, fun reference member => ?_⟩
  · exact (mem_references_iff generated).mpr (.inl ⟨ident, refersTo, rfl⟩)
  · rw [imports]
    exact Scope.means_refer (refersTo.reached options)
  · rcases (mem_references_iff generated).mp member with
      meant | ⟨_, rfl⟩ | ⟨_, rfl⟩ | ⟨_, rfl⟩
    · exact .inl meant
    · exact .inr (by simp)
    · exact .inr (by simp)
    · exact .inr (by simp)

/-- A unary method that takes a message of another package and returns the empty one. -/
def greet : Method :=
  ⟨"Greet", ⟨"common.Name", ⟨"Name", "example.com/net"⟩, "net"⟩,
    ⟨wellKnownEmpty, ⟨"Empty", emptyPath⟩, "emptypb"⟩, false, false⟩

/-- A method that streams both ways. -/
def chat : Method :=
  ⟨"Chat", ⟨"greeter.Line", ⟨"Line", "example.com/greeter"⟩, "greeter"⟩,
    ⟨"greeter.Line", ⟨"Line", "example.com/greeter"⟩, "greeter"⟩, true, true⟩

/-- A file with one service of these two methods. -/
def greeter : ProtoFile :=
  ⟨"greeter.proto", .proto3, "greeter", "example.com/greeter", true, [⟨"Greeter", [greet, chat]⟩]⟩

theorem no_reference_dangles_greeter :
    (∃ qualifier, (greeter.scope { standalone := true }).imports.aliasOf? "example.com/net" =
      some qualifier) ∧
    (∃ qualifier, (greeter.scope { standalone := true }).imports.aliasOf? "example.com/greeter" =
      some qualifier) ∧
    (greeter.scope {}).imports.aliasOf? "context" = some "context" ∧
    (greeter.scope {}).imports.aliasOf? emptyPath = some "emptypb" := by
  have standalone := no_reference_dangles greeter { standalone := true }
  have inPlace := no_reference_dangles greeter {}
  have member : greet ∈ greeter.methods := by decide
  refine ⟨?_, ?_, ?_, ?_⟩
  · have refersTo : greeter.RefersTo greet.input.identifier :=
      .message ⟨greet, member, .input rfl⟩ (by decide)
    exact (standalone.1 _ refersTo).resolve_left (by decide)
  · have refersTo : greeter.RefersTo _ := .register List.mem_cons_self
    exact (standalone.1 _ refersTo).resolve_left (by decide)
  · exact inPlace.2.2.2.2.2.1 greet member (by decide)
  · exact inPlace.2.2.2.2.2.2 greet.output ⟨greet, member, .output rfl rfl⟩ (by decide)

end ProtoFile

end RpcProxy

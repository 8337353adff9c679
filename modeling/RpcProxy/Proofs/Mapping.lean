import RpcProxy.LinkedRequest
import RpcProxy.Proofs.Conversion
import RpcProxy.Proofs.Relinking

/-!
# Mapped files and edited files

To map a file to a Go package is to set the option of the file that names its package. Either way
what is made of a request changes in the package of the file and where messages of the file are
mentioned, and nowhere else. Both are cases of one comparison: two runs over linked files that
agree, but for the packages of some of them.
-/

namespace RpcProxy

open Linking

section Agreement

variable {decls : List FileDecl} {exempt : String → Prop}

/-- Two mentions of a message. They may differ in the Go package if an exempt file declares the
message. -/
structure Message.AgreesBut (decls : List FileDecl) (exempt : String → Prop)
    (message other : Message) : Prop where
  fullName : message.fullName = other.fullName
  name : message.identifier.name = other.identifier.name
  package : (message.identifier.importPath = other.identifier.importPath ∧
      message.packageName = other.packageName) ∨
    ∃ decl ∈ decls, exempt (decl.name.getD "") ∧ decl.Declares message.fullName

/-- Two methods that agree but for messages of exempt files. -/
structure Method.AgreesBut (decls : List FileDecl) (exempt : String → Prop)
    (method other : Method) : Prop where
  name : method.name = other.name
  input : method.input.AgreesBut decls exempt other.input
  output : method.output.AgreesBut decls exempt other.output
  clientStreaming : method.clientStreaming = other.clientStreaming
  serverStreaming : method.serverStreaming = other.serverStreaming

/-- Two services that agree but for messages of exempt files. -/
structure Service.AgreesBut (decls : List FileDecl) (exempt : String → Prop)
    (service other : Service) : Prop where
  name : service.name = other.name
  methods : List.Forall₂ (Method.AgreesBut decls exempt) service.methods other.methods

/-- Two files that agree but for their Go package if they are exempt, and for messages of exempt
files. -/
structure ProtoFile.AgreesBut (decls : List FileDecl) (exempt : String → Prop)
    (file other : ProtoFile) : Prop where
  name : file.name = other.name
  dialect : file.dialect = other.dialect
  generate : file.generate = other.generate
  services : List.Forall₂ (Service.AgreesBut decls exempt) file.services other.services
  package : (file.packageName = other.packageName ∧ file.importPath = other.importPath) ∨
    exempt file.name

private theorem eq_of_forall₂ {α : Type} {related : α → α → Prop} {left right : List α}
    (all : List.Forall₂ related left right)
    (same : ∀ one other, related one other → one = other) : left = right := by
  have equal := all.map_eq_map same
  rwa [List.map_id', List.map_id'] at equal

theorem Message.AgreesBut.eq {message other : Message} (unexempt : ∀ name, ¬exempt name)
    (agrees : message.AgreesBut decls exempt other) : message = other := by
  obtain ⟨fullName, name, package⟩ := agrees
  obtain ⟨importPath, packageName⟩ := package.resolve_right fun ⟨_, _, isExempt, _⟩ =>
    unexempt _ isExempt
  obtain ⟨_, ⟨_, _⟩, _⟩ := message
  obtain ⟨_, ⟨_, _⟩, _⟩ := other
  simp_all

theorem Method.AgreesBut.eq {method other : Method} (unexempt : ∀ name, ¬exempt name)
    (agrees : method.AgreesBut decls exempt other) : method = other := by
  obtain ⟨name, input, output, clientStreaming, serverStreaming⟩ := agrees
  have input := input.eq unexempt
  have output := output.eq unexempt
  cases method
  cases other
  simp_all

theorem Service.AgreesBut.eq {service other : Service} (unexempt : ∀ name, ¬exempt name)
    (agrees : service.AgreesBut decls exempt other) : service = other := by
  obtain ⟨name, methods⟩ := agrees
  have methods := eq_of_forall₂ methods fun _ _ => Method.AgreesBut.eq unexempt
  cases service
  cases other
  simp_all

theorem ProtoFile.AgreesBut.eq {file other : ProtoFile} (unexempt : ∀ name, ¬exempt name)
    (agrees : file.AgreesBut decls exempt other) : file = other := by
  obtain ⟨name, dialect, generate, services, package⟩ := agrees
  have services := eq_of_forall₂ services fun _ _ => Service.AgreesBut.eq unexempt
  obtain ⟨packageName, importPath⟩ := package.resolve_right (unexempt _)
  cases file
  cases other
  simp_all

end Agreement

/-- Two linked files that differ in nothing but their options, under two mappings. The options and
the mappings come to the same Go package unless the files are exempt. -/
structure Linking.LinkedFile.AgreesBut (exempt : String → Prop)
    (packageOf otherPackageOf : Registry String) (file other : LinkedFile) : Prop where
  services : file.services = other.services
  declaration : { other.decl with options := file.decl.options } = file.decl
  package : file.decl.goPackage packageOf = other.decl.goPackage otherPackageOf ∨
    exempt (file.decl.name.getD "")

namespace Request

variable {request otherRequest : Request} {packageOf otherPackageOf : Registry String}
  {pool other : Pool} {exempt : String → Prop}

/-- Two requests that are linked to files that agree. -/
structure LinkedAlike (exempt : String → Prop) (packageOf otherPackageOf : Registry String)
    (request otherRequest : Request) (pool other : Pool) : Prop where
  pooled : request.pool = .ok pool
  otherPooled : otherRequest.pool = .ok other
  files : List.Forall₂ (LinkedFile.AgreesBut exempt packageOf otherPackageOf) pool.files other.files

namespace LinkedAlike

variable (alike : LinkedAlike exempt packageOf otherPackageOf request otherRequest pool other)
include alike

private theorem service?_eq (fullName : String) :
    pool.service? fullName = other.service? fullName := by
  have ofServices : ∀ pool : Pool, pool.service? fullName =
      (pool.files.map (·.services)).findSome? fun services => services.find? fun service =>
        service.fullName == (Text.dropBeginning? "." fullName).getD fullName := by
    intro pool
    rw [List.findSome?_map]
    rfl
  rw [ofServices, ofServices, alike.files.map_eq_map fun _ _ agrees => agrees.services]

private theorem message {resolved : ResolvedMessage}
    (declaring : ∃ decl ∈ request.files, decl.name.getD "" = resolved.file ∧
      decl.Declares resolved.fullName) :
    (Schema.message packageOf pool resolved).AgreesBut request.files exempt
      (Schema.message otherPackageOf other resolved) := by
  obtain ⟨decl, inRequest, named, declares⟩ := declaring
  obtain ⟨linked, inPool, comesFrom⟩ := (comesFrom_of_pool alike.pooled).exists_of_mem inRequest
  obtain ⟨partner, inOther, _, declaration, package⟩ := alike.files.exists_of_mem inPool
  have linkedName : linked.decl.name.getD "" = resolved.file := by rw [comesFrom.name, named]
  have partnerName : partner.decl.name.getD "" = resolved.file := by
    rw [← linkedName, ← declaration]
  have schemaPackage : partner.decl.package = linked.decl.package := by rw [← declaration]
  have found : Schema.declOf pool resolved.file = linked.decl :=
    linkedName ▸ declOf_eq alike.pooled inPool
  have otherFound : Schema.declOf other resolved.file = partner.decl :=
    partnerName ▸ declOf_eq alike.otherPooled inOther
  rw [Schema.message, Schema.message, found, otherFound, schemaPackage]
  refine ⟨rfl, rfl, ?_⟩
  rcases package with same | isExempt
  · rw [same]
    exact .inl ⟨rfl, rfl⟩
  · rw [comesFrom.name] at isExempt
    exact .inr ⟨decl, inRequest, isExempt, declares⟩

private theorem service {service : LinkedService} (member : service ∈ pool.services) :
    (Schema.service packageOf pool service).AgreesBut request.files exempt
      (Schema.service otherPackageOf other service) := by
  refine ⟨rfl, ?_⟩
  rw [Schema.service, Schema.service, List.forall₂_map_left_iff, List.forall₂_map_right_iff,
    List.forall₂_same]
  intro method inService
  have input := exists_declaring alike.pooled member inService (.inl rfl)
  have output := exists_declaring alike.pooled member inService (.inr rfl)
  exact ⟨rfl, alike.message input, alike.message output, rfl, rfl⟩

private theorem knownService (linked : LinkedService) :
    Except.Alike (Service.AgreesBut request.files exempt)
      (Schema.knownService packageOf pool linked)
      (Schema.knownService otherPackageOf other linked) := by
  rw [Schema.knownService, Schema.knownService, ← alike.service?_eq]
  cases found : pool.service? linked.fullName with
  | none => exact .error
  | some known => exact .ok (alike.service (Pool.mem_of_service? found).1)

private theorem file (wanted : List String) {file partner : LinkedFile}
    (agrees : LinkedFile.AgreesBut exempt packageOf otherPackageOf file partner) :
    Except.Alike (ProtoFile.AgreesBut request.files exempt)
      (Schema.file packageOf wanted pool file)
      (Schema.file otherPackageOf wanted other partner) := by
  obtain ⟨services, declaration, package⟩ := agrees
  have name : partner.decl.name = file.decl.name := by rw [← declaration]
  have dialect : partner.decl.dialect = file.decl.dialect := by rw [← declaration]
  rw [Schema.file, Schema.file, name, dialect, ← services]
  cases Dialect.ofName? (file.decl.dialect.getD "") with
  | none => exact .error
  | some dialect =>
      have each : Except.Alike (List.Forall₂ (Service.AgreesBut request.files exempt))
          (Schema.services packageOf pool file.services)
          (Schema.services otherPackageOf other file.services) := by
        rw [Schema.services_eq_mapM, Schema.services_eq_mapM]
        refine Except.Alike.mapM (List.forall₂_same.mpr fun _ _ => rfl) ?_
        rintro linked _ rfl
        exact alike.knownService linked
      refine each.bind fun _ _ agreeing => .ok ⟨rfl, rfl, rfl, agreeing, package.imp_left ?_⟩
      exact fun same => ⟨congrArg Package.name same, congrArg Package.importPath same⟩

/-- Files that agree when they are linked agree in Go terms. -/
theorem ofPool (wanted : List String) :
    Except.Alike (List.Forall₂ (ProtoFile.AgreesBut request.files exempt))
      (Schema.ofPool packageOf wanted pool) (Schema.ofPool otherPackageOf wanted other) := by
  rw [Schema.ofPool, Schema.ofPool, Schema.files_eq_mapM, Schema.files_eq_mapM]
  exact Except.Alike.mapM alike.files fun _ _ => alike.file wanted

end LinkedAlike

end Request

variable {file text : String}

/-- A mapping is not seen outside the mapped file. -/
theorem Linking.LinkedFile.agreesBut_self (linked : LinkedFile) (packageOf : Registry String) :
    linked.AgreesBut (· = file) (packageOf.insert file text) (packageOf.erase file) linked := by
  refine ⟨rfl, rfl, ?_⟩
  by_cases named : linked.decl.name.getD "" = file
  · exact .inr named
  · rw [FileDecl.goPackage, FileDecl.goPackage, Registry.find?_insert, Registry.find?_erase,
      if_neg named, if_neg named]
    exact .inl rfl

/-- The options of a file after the option that names the Go package of the given file is set. -/
def FileDecl.optionsNaming (file text : String) (decl : FileDecl) : Option FileOptions :=
  if decl.name.getD "" = file then some { decl.options.getD {} with goPackage := some text }
  else decl.options

/-- A request in which the option that names the Go package of the given file is set. -/
def Request.withGoPackage (request : Request) (file text : String) : Request :=
  { request with files := request.files.map (.withOptions (FileDecl.optionsNaming file text)) }

/-- Linking keeps the option of a file that names its Go package. This asks for something only if
the files themselves declare how options are to be read. -/
def Request.KeepsGoPackage (request : Request) (file text : String) : Prop :=
  ∀ pool, Linking.link request.files = .ok pool → ¬(pool.message? fileOptionsName).isNone →
    ∃ bytes options, reshapeOptions pool.shapes ⟨some text⟩ = .ok bytes ∧
      optionsLeft file bytes = .ok options ∧ options.goPackage.getD "" = text

/-- The option is kept if the files declare it as the schema of the language itself does. -/
theorem Request.keepsGoPackage_of_declared {request : Request} (file : String) {text : String}
    (countable : (FileOptions.encode ⟨some text⟩).length < UInt64.size)
    (declares : ∀ pool, Linking.link request.files = .ok pool →
      pool.shapes fileOptionsName 11 = some optionalText) :
    request.KeepsGoPackage file text := by
  intro pool links _
  have reshape := reshapeOptions_of_optionalText (declares pool links) countable
  exact ⟨_, _, reshape, optionsLeft_encode file countable, rfl⟩

/-- A linked file before and after the option that names the Go package of the given file is set. -/
structure Linking.LinkedFile.Renames (file text : String) (before after : LinkedFile) : Prop where
  services : before.services = after.services
  declaration : { after.decl with options := before.decl.options } = before.decl
  goPackageOption : after.decl.goPackageOption =
    if before.decl.name.getD "" = file then some text else before.decl.goPackageOption

theorem Linking.LinkedFile.Renames.agreesBut {before after : LinkedFile}
    (renames : before.Renames file text after) (packageOf : Registry String) :
    before.AgreesBut (fun _ => False) (packageOf.insert file text) (packageOf.erase file)
      after := by
  obtain ⟨services, declaration, goPackageOption⟩ := renames
  have name : after.decl.name = before.decl.name := by rw [← declaration]
  have package : after.decl.package = before.decl.package := by rw [← declaration]
  refine ⟨services, declaration, .inl ?_⟩
  rw [FileDecl.goPackage, FileDecl.goPackage, name, package, goPackageOption, Registry.find?_insert,
    Registry.find?_erase]
  by_cases named : before.decl.name.getD "" = file
  · rw [if_pos named, if_pos named, if_pos named]
    rfl
  · rw [if_neg named, if_neg named, if_neg named]

namespace Request

variable {request : Request} {pool : Pool}

private theorem renames_withOptions (linked : LinkedFile) :
    linked.Renames file text (linked.withOptions (FileDecl.optionsNaming file text)) := by
  refine ⟨rfl, rfl, ?_⟩
  rw [LinkedFile.withOptions, FileDecl.withOptions, FileDecl.goPackageOption,
    FileDecl.optionsNaming]
  split <;> rfl

private theorem rereads_withOptions (keeps : request.KeepsGoPackage file text)
    (links : Linking.link request.files = .ok pool)
    (declared : ¬(pool.message? fileOptionsName).isNone) {linked kept : LinkedFile}
    (rereads : linked.Rereads pool.shapes kept) :
    ∃ other, (linked.withOptions (FileDecl.optionsNaming file text)).Rereads pool.shapes other ∧
      kept.Renames file text other := by
  obtain ⟨services, declaration⟩ := rereads.otherwise_kept
  have name : kept.decl.name = linked.decl.name := by rw [← declaration]
  by_cases named : linked.decl.name.getD "" = file
  · obtain ⟨bytes, options, reshape, left, same⟩ := keeps pool links declared
    have set : (linked.withOptions (FileDecl.optionsNaming file text)).decl.options =
        some ⟨some text⟩ := if_pos named
    refine ⟨{ linked with decl := { linked.decl with options := some options } },
      ⟨some bytes, ?_, ?_⟩, services, ?_, ?_⟩
    · rw [LinkedFile.reshapedOptions, set]
      dsimp only
      rw [reshape]
      rfl
    · have sameName : (linked.withOptions (FileDecl.optionsNaming file text)).decl.name.getD "" =
          file := named
      rw [LinkedFile.withOptionsLeft, sameName, left]
      rfl
    · rw [← declaration]
    · rw [name, if_pos named, ← same]
      rfl
  · have unset : linked.withOptions (FileDecl.optionsNaming file text) = linked := by
      rw [LinkedFile.withOptions, FileDecl.withOptions, FileDecl.optionsNaming, if_neg named]
    rw [unset]
    refine ⟨kept, rereads, rfl, rfl, ?_⟩
    rw [name, if_neg named]

/-- A request that links does so also with the option set. -/
theorem exists_pool_withGoPackage (keeps : request.KeepsGoPackage file text)
    (pooled : request.pool = .ok pool) :
    ∃ other, (request.withGoPackage file text).pool = .ok other ∧
      List.Forall₂ (LinkedFile.Renames file text) pool.files other.files := by
  obtain ⟨known, first, links, read⟩ := pool_eq_ok_iff.mp pooled
  obtain ⟨other, otherRead, renames⟩ := Pool.exists_readOptions_withOptions read
    (fun _ linked _ => renames_withOptions linked)
    (fun declared linked _ kept rereads => rereads_withOptions keeps links declared rereads)
  refine ⟨other, pool_eq_ok_iff.mpr ⟨List.forall_mem_map.mpr known, _, ?_, otherRead⟩, renames⟩
  rw [withGoPackage, link_withOptions, links]
  rfl

end Request

namespace LinkedRequest

variable {request : Request} {linked : LinkedRequest}

theorem ofRequest_eq_ok_iff :
    ofRequest request = .ok linked ↔ ∃ pool, request.pool = .ok pool ∧
      linked = ⟨pool, request.filesToGenerate, request.parameterText⟩ := by
  simp only [ofRequest, Except.bind_eq_ok_iff, pure, Except.pure, Except.ok.injEq,
    @eq_comm _ linked]

/-- To map a file to a Go package is to set the option of the file that names its package, and
nothing else of the options matters. Against a run without the mapping only the package of the file
itself and that of the messages it declares can differ. -/
theorem mapping_sets_goPackage (links : ofRequest request = .ok linked) (file text : String) :
    (request.KeepsGoPackage file text →
      ∃ edited, ofRequest (request.withGoPackage file text) = .ok edited ∧
        ∀ options : Options,
          linked.files { options with packageOf := options.packageOf.insert file text } =
            edited.files { options with packageOf := options.packageOf.erase file }) ∧
    (∀ options : Options,
      Except.Alike (List.Forall₂ (ProtoFile.AgreesBut request.files (· = file)))
        (linked.files { options with packageOf := options.packageOf.insert file text })
        (linked.files { options with packageOf := options.packageOf.erase file })) ∧
    ∀ options other : Options, options.packageOf = other.packageOf →
      linked.files options = linked.files other := by
  obtain ⟨pool, pooled, rfl⟩ := ofRequest_eq_ok_iff.mp links
  refine ⟨fun keeps => ?_, fun options => ?_, fun options other same => ?_⟩
  · obtain ⟨other, otherPooled, renames⟩ := Request.exists_pool_withGoPackage keeps pooled
    refine ⟨_, ofRequest_eq_ok_iff.mpr ⟨other, otherPooled, rfl⟩, fun options => ?_⟩
    have agree := renames.imp fun _ _ renames => renames.agreesBut options.packageOf
    have alike := Request.LinkedAlike.ofPool ⟨pooled, otherPooled, agree⟩ request.filesToGenerate
    have equal := alike.eq fun _ _ all =>
      eq_of_forall₂ all fun _ _ => ProtoFile.AgreesBut.eq fun _ => not_false
    rw [files, files]
    exact congrArg _ equal
  · have agree : List.Forall₂ (LinkedFile.AgreesBut (· = file)
        (options.packageOf.insert file text) (options.packageOf.erase file)) pool.files
        pool.files := List.forall₂_same.mpr fun linked _ => linked.agreesBut_self options.packageOf
    exact (Request.LinkedAlike.ofPool ⟨pooled, pooled, agree⟩ request.filesToGenerate).mapError
  · rw [files, files, same]

/-- A file with a service, beside the declaration of the options of files. -/
def describedStore : Request where
  filesToGenerate := ["store.proto"]
  files :=
    [{ name := some "descriptor.proto", package := some "google.protobuf"
       messages := [{
         name := some "FileOptions"
         fields := [{ name := some "go_package", number := some 11, label := some 1
                      kind := some 9 }] }]
       options := some { goPackage := some "example.com/descriptorpb" } },
     { name := some "store.proto", package := some "store", dependencies := ["descriptor.proto"]
       messages := [{ name := some "Entry" }]
       services := [{ name := some "Store", methods := [{
         name := some "Describe", inputType := some "Entry"
         outputType := some "google.protobuf.FileOptions" }] }]
       options := some { goPackage := some "example.com/store" } }]

theorem mapping_sets_goPackage_describedStore :
    ∃ linked, ofRequest describedStore = .ok linked ∧
      describedStore.KeepsGoPackage "store.proto" "example.com/new;fresh" ∧
      (∃ edited,
        ofRequest (describedStore.withGoPackage "store.proto" "example.com/new;fresh") =
          .ok edited ∧
        linked.files { packageOf := Registry.insert ∅ "store.proto" "example.com/new;fresh" } =
          edited.files { packageOf := Registry.erase ∅ "store.proto" }) ∧
      ∃ files,
        linked.files { packageOf := Registry.insert ∅ "store.proto" "example.com/new;fresh" } =
          .ok files ∧ files.map (·.packageName) = ["descriptorpb", "fresh"] := by
  have runs : (ofRequest describedStore >>= fun linked => linked.files
      { packageOf := Registry.insert ∅ "store.proto" "example.com/new;fresh" }).toOption.any
        (fun files => files.map (·.packageName) = ["descriptorpb", "fresh"]) = true := by
    decide +kernel
  obtain ⟨files, result, packages⟩ := Except.exists_eq_ok_and runs
  obtain ⟨linked, links, made⟩ := Except.bind_eq_ok_iff.mp result
  have keeps : describedStore.KeepsGoPackage "store.proto" "example.com/new;fresh" := by
    refine Request.keepsGoPackage_of_declared _ (by decide +kernel) fun pool links => ?_
    have check : (Linking.link describedStore.files).toOption.all (fun pool =>
        pool.shapes fileOptionsName 11 = some optionalText) = true := by decide +kernel
    rw [links] at check
    exact of_decide_eq_true check
  obtain ⟨edited, editedLinks, same⟩ := (mapping_sets_goPackage links _ _).1 keeps
  exact ⟨linked, links, keeps, ⟨edited, editedLinks, same {}⟩, files, made, packages⟩

end LinkedRequest

end RpcProxy

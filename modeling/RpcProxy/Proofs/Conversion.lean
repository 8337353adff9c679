import RpcProxy.Proofs.Response

/-!
# Go schemas mirror requests

A schema in Go terms has the files, services and methods of its request, one for one and in order,
and it says the same of a message wherever it is mentioned: the Go package at each mention is the
one of the file that declares the message. Only a service whose full name starts with a dot is
mistaken, for the service that has the rest as its full name.
-/

namespace RpcProxy

open Linking

/-- A message in Go terms that a type name in a scope stands for. Some file declares the message,
and the Go package of every file that does is the package of the message. -/
structure Message.StandsFor (decls : List FileDecl) (files : List ProtoFile) (view : View)
    (scope typeName : String) (message : Message) : Prop where
  resolves : ∃ symbol, view.resolve .message scope typeName = .ok symbol ∧
    symbol.fullName = message.fullName
  declared : ∃ decl ∈ decls, decl.Declares message.fullName
  package : ∀ decl file, (decl, file) ∈ decls.zip files → decl.Declares message.fullName →
    message.identifier.importPath = file.importPath ∧ message.packageName = file.packageName

/-- A method in Go terms of a service with the given full name. -/
structure Method.Mirrors (decls : List FileDecl) (files : List ProtoFile) (view : View)
    (fullName : String) (declared : MethodDecl) (method : Method) : Prop where
  name : method.name = GoName.exported (declared.name.getD "")
  clientStreaming : method.clientStreaming = declared.clientStreaming.getD false
  serverStreaming : method.serverStreaming = declared.serverStreaming.getD false
  input : method.input.StandsFor decls files view (qualified fullName (declared.name.getD ""))
    (declared.inputType.getD "")
  output : method.output.StandsFor decls files view (qualified fullName (declared.name.getD ""))
    (declared.outputType.getD "")

/-- A service in Go terms that a file declares, with its methods in order. -/
structure Service.Mirrors (decls : List FileDecl) (files : List ProtoFile) (table : Table)
    (decl : FileDecl) (declared : ServiceDecl) (service : Service) : Prop where
  name : service.name = GoName.exported (declared.name.getD "")
  methods : List.Forall₂
    (Method.Mirrors decls files (viewFrom table decls decl) (fullNameIn decl declared))
    declared.methods service.methods

/-- A service that stands in the place of a declared one: the declared one itself, unless its full
name starts with a dot, and then the one that has the rest as its full name. -/
structure Service.StandsFor (decls : List FileDecl) (files : List ProtoFile) (table : Table)
    (decl : FileDecl) (declared : ServiceDecl) (service : Service) : Prop where
  plain : (∀ rest, fullNameIn decl declared ≠ "." ++ rest) →
    service.Mirrors decls files table decl declared
  dotted : ∀ rest, fullNameIn decl declared = "." ++ rest →
    ∃ other ∈ decls, ∃ known ∈ other.services, fullNameIn other known = rest ∧
      service.Mirrors decls files table other known

/-- A file in Go terms, with its services in order. -/
structure ProtoFile.Mirrors (decls : List FileDecl) (files : List ProtoFile) (wanted : List String)
    (table : Table) (decl : FileDecl) (file : ProtoFile) : Prop where
  name : file.name = decl.name.getD ""
  dialect : Dialect.ofName? (decl.dialect.getD "") = some file.dialect
  generate : file.generate = true ↔ decl.name.getD "" ∈ wanted
  services : List.Forall₂ (Service.StandsFor decls files table decl) decl.services file.services

namespace Request

variable {request : Request} {packageOf : Registry String} {pool : Pool} {files : List ProtoFile}

/-- A linked file with the declared one before it and the one in Go terms after it. -/
structure Stages (request : Request) (packageOf : Registry String) (pool : Pool) (decl : FileDecl)
    (linked : LinkedFile) (file : ProtoFile) : Prop where
  inPool : linked ∈ pool.files
  links : LinkedFile.Links pool.table request.files decl linked
  made : Schema.file packageOf request.filesToGenerate pool linked = .ok file

private theorem stages_of_schema (pooled : request.pool = .ok pool)
    (made : request.schema packageOf pool = .ok files) :
    List.Forall₂ (fun decl file => ∃ linked, request.Stages packageOf pool decl linked file)
      request.files files := by
  have links := (links_of_pool pooled).2
  have each := Schema.ofPool_eq_ok_iff.mp (Except.mapError_eq_ok_iff.mp made)
  have within := (List.forall₂_and_left _ _).mpr ⟨fun linked member => member, each⟩
  exact links.compose within fun decl linked file links made => ⟨linked, made.1, links, made.2⟩

private theorem nodup_decls (pooled : request.pool = .ok pool) :
    (pool.decls.map fun decl => decl.name.getD "").Nodup := by
  have names : request.files.map (fun decl => decl.name.getD "") =
      pool.decls.map fun decl => decl.name.getD "" := by
    rw [Pool.decls, List.map_map]
    exact (comesFrom_of_pool pooled).map_eq_map fun _ _ comesFrom => by simp [comesFrom.name]
  exact names ▸ Table.nodup_files (links_of_pool pooled).1

theorem declOf_eq (pooled : request.pool = .ok pool) {linked : LinkedFile}
    (member : linked ∈ pool.files) :
    Schema.declOf pool (linked.decl.name.getD "") = linked.decl := by
  have inDecls : linked.decl ∈ pool.decls := List.mem_map_of_mem member
  cases found : pool.decls.find? fun decl => decl.name.getD "" == linked.decl.name.getD "" with
  | none =>
      have absent := List.find?_eq_none.mp found linked.decl inDecls
      simp at absent
  | some first =>
      have named : first.name.getD "" = linked.decl.name.getD "" := by
        simpa using List.find?_some found
      rw [Schema.declOf, found, Option.getD_some]
      exact List.inj_on_of_nodup_map (nodup_decls pooled) (List.mem_of_find?_eq_some found) inDecls
        named

/-- Where a message is declared, its package is the one it has wherever it is mentioned. -/
theorem standsFor_of_linkType (pooled : request.pool = .ok pool)
    (made : request.schema packageOf pool = .ok files) {visible : List String} {scope : String}
    {typeName : Option String} {resolved : ResolvedMessage}
    (linked : linkType ⟨pool.table, visible⟩ scope typeName = .ok resolved) :
    (Schema.message packageOf pool resolved).StandsFor request.files files ⟨pool.table, visible⟩
      scope (typeName.getD "") := by
  have built := (links_of_pool pooled).1
  obtain ⟨symbol, resolves, found, isMessage, rfl⟩ := exists_symbol_of_linkType linked
  obtain ⟨decl, member, _, declares⟩ := Table.exists_declares built found isMessage
  refine ⟨⟨symbol, resolves, rfl⟩, ⟨decl, member, declares⟩, ?_⟩
  intro other file paired alsoDeclares
  have inRequest : other ∈ request.files := (List.of_mem_zip paired).1
  have sameFile : symbol.file = other.name.getD "" := by
    have again := found.symm.trans (Table.find?_of_declares built inRequest alsoDeclares)
    exact congrArg Symbol.file (Option.some.inj again)
  obtain ⟨linked, stages⟩ := List.forall₂_zip (stages_of_schema pooled made) paired
  have declared : Schema.declOf pool symbol.file = linked.decl := by
    rw [sameFile, ← stages.links.comesFrom.name, declOf_eq pooled stages.inPool]
  obtain ⟨_, _, _, _, rfl⟩ := Schema.file_eq_ok_iff.mp stages.made
  rw [Schema.message, declared]
  exact ⟨rfl, rfl⟩

private theorem mirrors_of_method (pooled : request.pool = .ok pool)
    (made : request.schema packageOf pool = .ok files) {visible : List String} {fullName : String}
    {declared : MethodDecl} {linked : LinkedMethod}
    (links : LinkedMethod.Links ⟨pool.table, visible⟩ fullName declared linked) :
    (Schema.method packageOf pool linked).Mirrors request.files files ⟨pool.table, visible⟩ fullName
      declared where
  name := by rw [Schema.method, links.name]
  clientStreaming := links.clientStreaming
  serverStreaming := links.serverStreaming
  input := standsFor_of_linkType pooled made links.input
  output := standsFor_of_linkType pooled made links.output

private theorem mirrors_of_service (pooled : request.pool = .ok pool)
    (made : request.schema packageOf pool = .ok files) {decl : FileDecl} {declared : ServiceDecl}
    {linked : LinkedService}
    (links : LinkedService.Links (viewFrom pool.table request.files decl) (decl.package.getD "")
      declared linked) :
    (Schema.service packageOf pool linked).Mirrors request.files files pool.table decl
      declared := by
  refine ⟨by rw [Schema.service, links.name], ?_⟩
  have fullName : linked.fullName = fullNameIn decl declared := links.fullName
  have methods := links.methods
  rw [fullName] at methods
  rw [Schema.service, List.forall₂_map_right_iff]
  exact methods.imp fun _ _ => mirrors_of_method pooled made

theorem exists_links (pooled : request.pool = .ok pool) {linked : LinkedService}
    (member : linked ∈ pool.services) :
    ∃ decl ∈ request.files, ∃ declared ∈ decl.services,
      LinkedService.Links (viewFrom pool.table request.files decl) (decl.package.getD "") declared
        linked := by
  obtain ⟨file, inPool, inFile⟩ := List.mem_flatMap.mp member
  obtain ⟨decl, inRequest, links⟩ := (links_of_pool pooled).2.flip.exists_of_mem inPool
  obtain ⟨declared, inDecl, links⟩ := links.services.flip.exists_of_mem inFile
  exact ⟨decl, inRequest, declared, inDecl, links⟩

/-- What a linked method mentions is declared in the file it is resolved to. -/
theorem exists_declaring (pooled : request.pool = .ok pool) {service : LinkedService}
    (member : service ∈ pool.services) {method : LinkedMethod}
    (inService : method ∈ service.methods)
    {resolved : ResolvedMessage} (mentioned : resolved = method.input ∨ resolved = method.output) :
    ∃ decl ∈ request.files, decl.name.getD "" = resolved.file ∧
      decl.Declares resolved.fullName := by
  have declared {visible : List String} {scope : String} {typeName : Option String}
      {resolved : ResolvedMessage}
      (linked : linkType ⟨pool.table, visible⟩ scope typeName = .ok resolved) :
      ∃ decl ∈ request.files, decl.name.getD "" = resolved.file ∧
        decl.Declares resolved.fullName := by
    obtain ⟨symbol, _, found, isMessage, rfl⟩ := exists_symbol_of_linkType linked
    exact Table.exists_declares (links_of_pool pooled).1 found isMessage
  obtain ⟨_, _, _, _, links⟩ := exists_links pooled member
  obtain ⟨_, _, methodLinks⟩ := links.methods.flip.exists_of_mem inService
  rcases mentioned with rfl | rfl
  · exact declared methodLinks.input
  · exact declared methodLinks.output

private theorem nodup_services (pooled : request.pool = .ok pool) :
    (pool.services.map (·.fullName)).Nodup := by
  obtain ⟨built, links⟩ := links_of_pool pooled
  have names := links.map_eq_map fun decl file (links : LinkedFile.Links _ _ decl file) =>
    links.services.map_eq_map fun _ _ links => links.fullName.symm
  have distinct := Linking.nodup_services built
  rw [List.flatMap_def] at distinct
  rw [Pool.services, List.map_flatMap, List.flatMap_def, ← names]
  exact distinct

private theorem standsFor_of_known (pooled : request.pool = .ok pool)
    (made : request.schema packageOf pool = .ok files) {decl : FileDecl} {declared : ServiceDecl}
    {linked : LinkedService} {service : Service}
    (links : LinkedService.Links (viewFrom pool.table request.files decl) (decl.package.getD "")
      declared linked) (member : linked ∈ pool.services)
    (known : Schema.knownService packageOf pool linked = .ok service) :
    service.StandsFor request.files files pool.table decl declared := by
  have fullName : linked.fullName = fullNameIn decl declared := links.fullName
  rw [Schema.knownService] at known
  split at known
  · simp at known
  · rename_i found foundBy
    obtain rfl := Except.ok.inj known
    obtain ⟨inPool, named⟩ := Pool.mem_of_service? foundBy
    rw [fullName] at named
    constructor
    · intro plain
      have undropped : Text.dropBeginning? "." (fullNameIn decl declared) = none := by
        rw [Option.eq_none_iff_forall_ne_some]
        exact fun rest dropped => plain rest (Text.dropBeginning?_eq_some_iff.mp dropped)
      rw [undropped, Option.getD_none, ← fullName] at named
      have same : found = linked :=
        List.inj_on_of_nodup_map (nodup_services pooled) inPool member named
      exact same ▸ mirrors_of_service pooled made links
    · intro rest dotted
      rw [Text.dropBeginning?_eq_some_iff.mpr dotted, Option.getD_some] at named
      obtain ⟨other, inRequest, known, inOther, links⟩ := exists_links pooled inPool
      have otherName : found.fullName = fullNameIn other known := links.fullName
      exact ⟨other, inRequest, known, inOther, otherName.symm.trans named,
        mirrors_of_service pooled made links⟩

private theorem mirrors_of_stages (pooled : request.pool = .ok pool)
    (made : request.schema packageOf pool = .ok files) {decl : FileDecl} {linked : LinkedFile}
    {file : ProtoFile} (stages : request.Stages packageOf pool decl linked file) :
    file.Mirrors request.files files request.filesToGenerate pool.table decl := by
  have comesFrom := stages.links.comesFrom
  obtain ⟨dialect, services, ofName, known, rfl⟩ := Schema.file_eq_ok_iff.mp stages.made
  rw [comesFrom.dialect] at ofName
  refine ⟨by rw [comesFrom.name], ofName, ?_, ?_⟩
  · rw [comesFrom.name, List.contains_iff_mem]
  · have inPool : ∀ service ∈ linked.services, service ∈ pool.services := fun service member =>
      List.mem_flatMap.mpr ⟨linked, stages.inPool, member⟩
    have within := (List.forall₂_and_left _ _).mpr ⟨inPool, known⟩
    exact stages.links.services.compose within fun _ _ _ links known =>
      standsFor_of_known pooled made links known.1 known.2

/-- The schema of a request mirrors its files, under every mapping from files to Go packages. -/
theorem schema_mirrors_files (pooled : request.pool = .ok pool)
    (made : request.schema packageOf pool = .ok files) :
    List.Forall₂ (ProtoFile.Mirrors request.files files request.filesToGenerate pool.table)
      request.files files :=
  (stages_of_schema pooled made).imp fun _ _ ⟨_, stages⟩ => mirrors_of_stages pooled made stages

/-- A method that takes and returns the message of another file. -/
def putAll : MethodDecl where
  name := some "put_all"
  inputType := some ".entries.Entry"
  outputType := some "entries.Entry"
  clientStreaming := some true

/-- A file with a message and one with a service that uses it. -/
def stores : Request where
  filesToGenerate := ["store.proto"]
  files :=
    [{ name := some "entry.proto", package := some "entries", messages := [{ name := some "Entry" }]
       options := some { goPackage := some "example.com/entries;entry" } },
     { name := some "store.proto", package := some "store", dependencies := ["entry.proto"]
       services := [{ name := some "Store", methods := [putAll] }]
       options := some { goPackage := some "example.com/store" } }]

theorem schema_mirrors_files_stores :
    ∃ pool files, stores.pool = .ok pool ∧ stores.schema ∅ pool = .ok files ∧
      List.Forall₂ (ProtoFile.Mirrors stores.files files ["store.proto"] pool.table) stores.files
        files := by
  have runs : (stores.pool >>= stores.schema ∅).toOption.isSome := by decide +kernel
  obtain ⟨files, result⟩ := Option.isSome_iff_exists.mp runs
  obtain ⟨pool, pooled, made⟩ :=
    Except.bind_eq_ok_iff.mp (Except.toOption_eq_some_iff.mp result)
  exact ⟨pool, files, pooled, made, schema_mirrors_files pooled made⟩

/-- A service whose name starts with a dot, beside the one that has the rest as its name. -/
def dottedService : Request where
  filesToGenerate := ["a.proto"]
  files := [{ name := some "a.proto", services := [{ name := some ".S" }, { name := some "S" }] }]

/-- A service whose full name starts with a dot is not what stands in its place. -/
theorem dottedService_mistaken :
    ∃ pool file, dottedService.pool = .ok pool ∧ dottedService.schema ∅ pool = .ok [file] ∧
      file.services = [⟨"S", []⟩, ⟨"S", []⟩] ∧
      ∀ decl ∈ dottedService.files, file.services.map (·.name) ≠
        decl.services.map fun declared => GoName.exported (declared.name.getD "") := by
  refine ⟨_, _, rfl, rfl, rfl, ?_⟩
  decide

end Request

end RpcProxy

import RpcProxy.Linking.FileOptions
import RpcProxy.Proofs.Table

/-!
# Laws of linked files

Linking neither adds nor drops files, services or methods, and it keeps their order. It leaves the
names and flags of the declared ones alone and resolves the types of methods in the view of their
file. Options that are read again change nothing else of a file.
-/

namespace RpcProxy.Linking

namespace View

variable {view : View} {wanted : Wanted} {symbol : Symbol} {name fullName : String}

private theorem find?_of_lookup (result : view.lookup wanted fullName = .ok symbol) :
    view.table.find? symbol.fullName = some symbol ∧ wanted.admits symbol.kind = true := by
  rw [lookup] at result
  split at result
  · simp at result
  · rename_i first found
    split at result
    · simp at result
    · split at result
      · rename_i admitted
        obtain rfl : first = symbol := Except.ok.inj result
        rw [(Table.mem_of_find? found).2]
        exact ⟨found, admitted⟩
      · simp at result

private theorem find?_of_resolvePlain {unfit : Option LinkError} {scopes : List String}
    (result : view.resolvePlain wanted name unfit scopes = .ok symbol) :
    view.table.find? symbol.fullName = some symbol ∧ wanted.admits symbol.kind = true := by
  induction scopes generalizing unfit with
  | nil => simp [resolvePlain] at result
  | cons scope rest induction =>
      rw [resolvePlain] at result
      split at result
      · rename_i found
        exact Except.ok.inj result ▸ find?_of_lookup found
      · exact induction result
      · exact induction result

private theorem find?_of_resolveDotted {first : String} {scopes : List String}
    (result : view.resolveDotted wanted first name scopes = .ok symbol) :
    view.table.find? symbol.fullName = some symbol ∧ wanted.admits symbol.kind = true := by
  induction scopes with
  | nil => simp [resolveDotted] at result
  | cons scope rest induction =>
      rw [resolveDotted] at result
      split at result
      · split at result
        · rename_i found
          exact Except.ok.inj result ▸ find?_of_lookup found
        · simp at result
        · simp at result
      · exact induction result

private theorem find?_of_resolveFull
    (result : view.resolveFull wanted name fullName = .ok symbol) :
    view.table.find? symbol.fullName = some symbol ∧ wanted.admits symbol.kind = true := by
  rw [resolveFull] at result
  split at result
  · rename_i found
    exact Except.ok.inj result ▸ find?_of_lookup found
  · simp at result
  · simp at result

/-- What a type name resolves to is in the table and of the kind that is looked for. -/
theorem find?_of_resolve {scope : String} (result : view.resolve wanted scope name = .ok symbol) :
    view.table.find? symbol.fullName = some symbol ∧ wanted.admits symbol.kind = true := by
  rw [resolve] at result
  split at result
  · exact find?_of_resolvePlain result
  · split at result
    · exact find?_of_resolveFull result
    · exact find?_of_resolveDotted result

end View

/-- The type of a side of a method is a message that is in the table. -/
theorem exists_symbol_of_linkType {view : View} {scope : String} {typeName : Option String}
    {resolved : ResolvedMessage} (linked : linkType view scope typeName = .ok resolved) :
    ∃ symbol, view.resolve .message scope (typeName.getD "") = .ok symbol ∧
      view.table.find? symbol.fullName = some symbol ∧ symbol.kind = .message ∧
      resolved = ⟨symbol.fullName, symbol.file⟩ := by
  simp only [linkType, Except.bind_eq_ok_iff, pure, Except.pure, Except.ok.injEq] at linked
  obtain ⟨symbol, resolves, rfl⟩ := linked
  obtain ⟨found, admitted⟩ := View.find?_of_resolve resolves
  have isMessage : symbol.kind = .message := by
    cases kind : symbol.kind <;> simp [kind, Wanted.admits] at admitted
    rfl
  exact ⟨symbol, resolves, found, isMessage, rfl⟩

/-- A linked method with the declared one that it comes from, whose types are resolved. -/
structure LinkedMethod.Links (view : View) (scope : String) (declared : MethodDecl)
    (method : LinkedMethod) : Prop where
  name : method.name = declared.name.getD ""
  input : linkType view (qualified scope (declared.name.getD "")) declared.inputType =
    .ok method.input
  output : linkType view (qualified scope (declared.name.getD "")) declared.outputType =
    .ok method.output
  clientStreaming : method.clientStreaming = declared.clientStreaming.getD false
  serverStreaming : method.serverStreaming = declared.serverStreaming.getD false

/-- A linked service with the declared one that it comes from, method by method. -/
structure LinkedService.Links (view : View) (scope : String) (declared : ServiceDecl)
    (service : LinkedService) : Prop where
  name : service.name = declared.name.getD ""
  fullName : service.fullName = qualified scope (declared.name.getD "")
  methods : List.Forall₂ (LinkedMethod.Links view service.fullName) declared.methods
    service.methods

private theorem linkMethods_eq_mapM (view : View) (scope : String) (methods : List MethodDecl) :
    linkMethods view scope methods = methods.mapM (linkMethod view scope) := by
  induction methods with
  | nil => rfl
  | cons method rest induction => rw [linkMethods, List.mapM_cons, induction]

private theorem links_of_linkMethod {view : View} {scope : String} {declared : MethodDecl}
    {method : LinkedMethod} (result : linkMethod view scope declared = .ok method) :
    LinkedMethod.Links view scope declared method := by
  simp only [linkMethod, Except.bind_eq_ok_iff, pure, Except.pure, Except.ok.injEq] at result
  obtain ⟨input, inputLinked, output, outputLinked, rfl⟩ := result
  exact ⟨rfl, inputLinked, outputLinked, rfl, rfl⟩

private theorem links_of_linkServices {view : View} {scope : String} {services : List ServiceDecl}
    {linked : List LinkedService} (result : linkServices view scope services = .ok linked) :
    List.Forall₂ (LinkedService.Links view scope) services linked := by
  induction services generalizing linked with
  | nil =>
      obtain rfl : [] = linked := Except.ok.inj result
      exact .nil
  | cons service rest induction =>
      simp only [linkServices, linkMethods_eq_mapM, Except.bind_eq_ok_iff, Except.mapM_eq_ok_iff,
        pure, Except.pure, Except.ok.injEq] at result
      obtain ⟨methods, methodsLinked, later, laterResult, rfl⟩ := result
      have links := methodsLinked.imp fun _ _ => links_of_linkMethod
      exact .cons ⟨rfl, rfl, links⟩ (induction laterResult)

/-- A linked file with the declared one that it comes from. Only the options may differ, and the
services are linked in the view of the file. -/
structure LinkedFile.Links (table : Table) (files : List FileDecl) (decl : FileDecl)
    (file : LinkedFile) : Prop where
  declaration : { file.decl with options := decl.options } = decl
  services : List.Forall₂
    (LinkedService.Links (viewFrom table files decl) (decl.package.getD "")) decl.services
    file.services

private theorem links_of_linkFile {table : Table} {files : List FileDecl} {decl : FileDecl}
    {file : LinkedFile} (result : linkFile table files decl = .ok file) :
    LinkedFile.Links table files decl file := by
  simp only [linkFile, Except.bind_eq_ok_iff, pure, Except.pure, Except.ok.injEq] at result
  obtain ⟨_, _, _, _, _, _, services, linked, rfl⟩ := result
  exact ⟨rfl, links_of_linkServices linked⟩

private theorem linkEach_eq_mapM (table : Table) (files decls : List FileDecl) :
    linkEach table files decls = decls.mapM (linkFile table files) := by
  induction decls with
  | nil => rfl
  | cons decl rest induction => rw [linkEach, List.mapM_cons, induction]

theorem links_of_link {files : List FileDecl} {pool : Pool} (result : link files = .ok pool) :
    Table.ofFiles files = .ok pool.table ∧
      List.Forall₂ (LinkedFile.Links pool.table files) files pool.files := by
  simp only [link, linkEach_eq_mapM, Except.bind_eq_ok_iff, Except.mapM_eq_ok_iff, pure,
    Except.pure, Except.ok.injEq] at result
  obtain ⟨table, built, linked, each, rfl⟩ := result
  exact ⟨built, each.imp fun _ _ => links_of_linkFile⟩

private theorem links_of_withOptionsLeft {table : Table} {files : List FileDecl}
    {file kept : LinkedFile} {bytes : Option (List UInt8)} {decl : FileDecl}
    (result : file.withOptionsLeft bytes = .ok kept)
    (links : LinkedFile.Links table files decl file) :
    LinkedFile.Links table files decl kept := by
  cases bytes with
  | none => exact Except.ok.inj result ▸ links
  | some bytes =>
      simp only [LinkedFile.withOptionsLeft, Except.bind_eq_ok_iff, pure, Except.pure,
        Except.ok.injEq] at result
      obtain ⟨options, _, rfl⟩ := result
      exact ⟨links.declaration, links.services⟩

/-- Reading the options of files again keeps everything else of them. -/
theorem links_of_readOptions {files : List FileDecl} {pool kept : Pool}
    (result : pool.readOptions = .ok kept)
    (links : List.Forall₂ (LinkedFile.Links pool.table files) files pool.files) :
    kept.table = pool.table ∧
      List.Forall₂ (LinkedFile.Links pool.table files) files kept.files := by
  rw [Pool.readOptions] at result
  split at result
  · exact Except.ok.inj result ▸ ⟨rfl, links⟩
  · simp only [Except.bind_eq_ok_iff, Except.mapM_eq_ok_iff, pure, Except.pure,
      Except.ok.injEq] at result
    obtain ⟨reshaped, reshape, keptFiles, keep, rfl⟩ := result
    have paired : List.Forall₂ (fun decl (entry : LinkedFile × Option (List UInt8)) =>
        LinkedFile.Links pool.table files decl entry.1) files reshaped := by
      refine links.compose reshape fun decl file entry links read => ?_
      obtain ⟨_, _, rfl⟩ := read
      exact links
    exact ⟨rfl, paired.compose keep fun _ _ _ links result => links_of_withOptionsLeft result links⟩

/-- What a linked file shares with the declared one that it comes from. -/
structure LinkedFile.ComesFrom (file : LinkedFile) (decl : FileDecl) : Prop where
  name : file.decl.name = decl.name
  dialect : file.decl.dialect = decl.dialect
  services : file.services.length = decl.services.length

theorem LinkedFile.Links.comesFrom {table : Table} {files : List FileDecl} {decl : FileDecl}
    {file : LinkedFile} (links : LinkedFile.Links table files decl file) : file.ComesFrom decl where
  name := by rw [← links.declaration]
  dialect := by rw [← links.declaration]
  services := links.services.length_eq.symm

end RpcProxy.Linking

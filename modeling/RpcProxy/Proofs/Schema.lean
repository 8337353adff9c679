import RpcProxy.Proofs.GoName
import RpcProxy.Proofs.Linking
import RpcProxy.Proofs.Text
import RpcProxy.Schema.OfPool

/-!
# Laws of Go schemas

Files of a pool are brought into Go terms one by one. For dialects that linking knows this fails for
one reason only: a service whose full name has a dot in front is looked up without the dot.
-/

namespace RpcProxy

open Linking

/-- Whether linking knows the dialect of a file: it has none, or one of the two with a name. -/
def FileDecl.KnownDialect (decl : FileDecl) : Prop :=
  decl.dialect = none ∨ decl.dialect = some "proto2" ∨ decl.dialect = some "proto3"

namespace Linking.Pool

def services (pool : Pool) : List LinkedService := pool.files.flatMap (·.services)

/-- Whether the pool does not know a service by its full name: without the dot in front, the name is
that of no service. -/
def Loses (pool : Pool) (service : LinkedService) : Prop :=
  ∃ name, service.fullName = "." ++ name ∧ ∀ other ∈ pool.services, other.fullName ≠ name

variable {pool : Pool}

private theorem service?_eq_none_iff_forall {fullName : String} :
    pool.service? fullName = none ↔
      ∀ other ∈ pool.services,
        other.fullName ≠ (Text.dropBeginning? "." fullName).getD fullName := by
  rw [service?, List.findSome?_eq_none_iff]
  simp only [List.find?_eq_none, beq_iff_eq, services, List.mem_flatMap]
  exact ⟨fun absent other ⟨file, inPool, inFile⟩ => absent file inPool other inFile,
    fun absent file inPool other inFile => absent other ⟨file, inPool, inFile⟩⟩

theorem service?_eq_none_iff {service : LinkedService} (member : service ∈ pool.services) :
    pool.service? service.fullName = none ↔ pool.Loses service := by
  rw [service?_eq_none_iff_forall]
  cases dropped : Text.dropBeginning? "." service.fullName with
  | none =>
      constructor
      · exact fun absent => (absent service member rfl).elim
      · rintro ⟨name, dotted, _⟩
        rw [Text.dropBeginning?_eq_some_iff.mpr dotted] at dropped
        simp at dropped
  | some rest =>
      have dotted := Text.dropBeginning?_eq_some_iff.mp dropped
      constructor
      · exact fun absent => ⟨rest, dotted, absent⟩
      · rintro ⟨name, otherDotted, absent⟩
        obtain rfl : rest = name := by
          rwa [dotted, String.append_right_inj] at otherDotted
        exact absent

/-- A service that is found is in the pool, under the name without a dot in front. -/
theorem mem_of_service? {fullName : String} {service : LinkedService}
    (found : pool.service? fullName = some service) :
    service ∈ pool.services ∧
      service.fullName = (Text.dropBeginning? "." fullName).getD fullName := by
  rw [service?, List.findSome?_eq_some_iff] at found
  obtain ⟨before, file, after, split, inFile, _⟩ := found
  have inPool : file ∈ pool.files := by simp [split]
  have named := List.find?_some inFile
  exact ⟨List.mem_flatMap.mpr ⟨file, inPool, List.mem_of_find?_eq_some inFile⟩,
    by simpa using named⟩

end Linking.Pool

/-- What a file in Go terms shares with the declared one, of which the named ones are wanted. -/
structure ProtoFile.ComesFrom (file : ProtoFile) (wanted : List String) (decl : FileDecl) :
    Prop where
  name : file.name = decl.name.getD ""
  generate : file.generate = true ↔ decl.name.getD "" ∈ wanted
  services : file.services.length = decl.services.length

namespace Schema

variable {packageOf : Registry String} {wanted : List String} {pool : Pool}

/-- A service in Go terms as the pool knows it. -/
def knownService (packageOf : Registry String) (pool : Pool) (linked : LinkedService) :
    Except SchemaError Service :=
  match pool.service? linked.fullName with
  | none => .error (.service linked.fullName)
  | some known => .ok (service packageOf pool known)

theorem services_eq_mapM (linked : List LinkedService) :
    services packageOf pool linked = linked.mapM (knownService packageOf pool) := by
  induction linked with
  | nil => rfl
  | cons first rest induction =>
      rw [services, List.mapM_cons, induction, knownService]
      cases pool.service? first.fullName <;> rfl

theorem files_eq_mapM (linked : List LinkedFile) :
    files packageOf wanted pool linked = linked.mapM (file packageOf wanted pool) := by
  induction linked with
  | nil => rfl
  | cons first rest induction => rw [files, List.mapM_cons, induction]

theorem file_eq_ok_iff {linked : LinkedFile} {result : ProtoFile} :
    file packageOf wanted pool linked = .ok result ↔
      ∃ dialect services, Dialect.ofName? (linked.decl.dialect.getD "") = some dialect ∧
        List.Forall₂ (fun known service => knownService packageOf pool known = .ok service)
          linked.services services ∧
        result = ⟨linked.decl.name.getD "", dialect, (linked.decl.goPackage packageOf).name,
          (linked.decl.goPackage packageOf).importPath, wanted.contains (linked.decl.name.getD ""),
          services⟩ := by
  rw [file]
  cases Dialect.ofName? (linked.decl.dialect.getD "") with
  | none => simp
  | some dialect =>
      simp only [Except.bind_eq_ok_iff, services_eq_mapM, Except.mapM_eq_ok_iff, pure, Except.pure,
        Except.ok.injEq, Option.some.injEq]
      constructor
      · rintro ⟨services, known, rfl⟩
        exact ⟨dialect, services, rfl, known, rfl⟩
      · rintro ⟨_, services, rfl, known, rfl⟩
        exact ⟨services, known, rfl⟩

theorem ofPool_eq_ok_iff {results : List ProtoFile} :
    ofPool packageOf wanted pool = .ok results ↔
      List.Forall₂ (fun linked result => file packageOf wanted pool linked = .ok result) pool.files
        results := by
  rw [ofPool, files_eq_mapM, Except.mapM_eq_ok_iff]

private theorem comesFrom_of_file {decl : FileDecl} {linked : LinkedFile} {result : ProtoFile}
    (comesFrom : linked.ComesFrom decl) (made : file packageOf wanted pool linked = .ok result) :
    result.ComesFrom wanted decl := by
  obtain ⟨dialect, services, _, known, rfl⟩ := file_eq_ok_iff.mp made
  refine ⟨by rw [comesFrom.name], ?_, known.length_eq.symm.trans comesFrom.services⟩
  rw [comesFrom.name, List.contains_iff_mem]

/-- A pool has one file in Go terms for each declared file, in their order. -/
theorem comesFrom_of_ofPool {decls : List FileDecl} {results : List ProtoFile}
    (comeFrom : List.Forall₂ (fun decl linked => LinkedFile.ComesFrom linked decl) decls pool.files)
    (made : ofPool packageOf wanted pool = .ok results) :
    List.Forall₂ (fun decl result => ProtoFile.ComesFrom result wanted decl) decls results := by
  exact comeFrom.compose (ofPool_eq_ok_iff.mp made)
    fun _ _ _ comesFrom made => comesFrom_of_file comesFrom made

private theorem knownService_eq_ok_iff {linked : LinkedService} (member : linked ∈ pool.services) :
    (∃ result, knownService packageOf pool linked = .ok result) ↔ ¬pool.Loses linked := by
  rw [← Pool.service?_eq_none_iff member, knownService]
  cases pool.service? linked.fullName <;> simp

private theorem knownService_eq_error_iff {linked : LinkedService}
    (member : linked ∈ pool.services) {error : SchemaError} :
    knownService packageOf pool linked = .error error ↔
      pool.Loses linked ∧ error = .service linked.fullName := by
  rw [← Pool.service?_eq_none_iff member, knownService]
  cases pool.service? linked.fullName <;> simp [eq_comm]

private theorem exists_file_eq (packageOf : Registry String) (wanted : List String) (pool : Pool)
    {linked : LinkedFile} (known : linked.decl.KnownDialect) :
    ∃ make : List Service → ProtoFile, file packageOf wanted pool linked =
      (linked.services.mapM (knownService packageOf pool)).map make := by
  obtain ⟨dialect, ofName⟩ : ∃ dialect, Dialect.ofName? (linked.decl.dialect.getD "") =
      some dialect := by
    rcases known with none | named | named
    · exact ⟨.proto2, by rw [none]; rfl⟩
    · exact ⟨.proto2, by rw [named]; rfl⟩
    · exact ⟨.proto3, by rw [named]; rfl⟩
  let name := linked.decl.name.getD ""
  let package := linked.decl.goPackage packageOf
  refine ⟨fun services =>
    ⟨name, dialect, package.name, package.importPath, wanted.contains name, services⟩, ?_⟩
  rw [file, ofName, ← services_eq_mapM]
  rfl

private theorem files_eq_error_iff {linked : List LinkedFile}
    (known : ∀ file ∈ linked, file.decl.KnownDialect) {error : SchemaError} :
    files packageOf wanted pool linked = .error error ↔
      Except.FirstFailure (knownService packageOf pool) (linked.flatMap (·.services)) error := by
  rw [files_eq_mapM, Except.mapM_eq_error_iff]
  induction linked with
  | nil => simp
  | cons first rest induction =>
      rw [List.forall_mem_cons] at known
      obtain ⟨make, made⟩ := exists_file_eq packageOf wanted pool known.1
      have inFirst : Except.FirstFailure (knownService packageOf pool) first.services error ↔
          first.services.mapM (knownService packageOf pool) = .error error :=
        Except.mapM_eq_error_iff.symm
      rw [Except.firstFailure_cons_iff, List.flatMap_cons, Except.firstFailure_append_iff, inFirst,
        ← Except.exists_mapM_eq_ok_iff, induction known.2, made]
      cases first.services.mapM (knownService packageOf pool) <;> simp [Except.map]

/-- Bringing the files of a pool into Go terms fails with the first service that the pool loses. -/
theorem ofPool_eq_error_iff (known : ∀ linked ∈ pool.files, linked.decl.KnownDialect)
    {error : SchemaError} :
    ofPool packageOf wanted pool = .error error ↔
      ∃ before service after, pool.services = before ++ service :: after ∧ pool.Loses service ∧
        (∀ earlier ∈ before, ¬pool.Loses earlier) ∧ error = .service service.fullName := by
  rw [ofPool, files_eq_error_iff known]
  constructor
  · rintro ⟨before, service, after, split, fails, succeed⟩
    have split : pool.services = before ++ service :: after := split
    obtain ⟨lost, rfl⟩ := (knownService_eq_error_iff (by simp [split])).mp fails
    exact ⟨before, service, after, split, lost, fun earlier member =>
      (knownService_eq_ok_iff (by simp [split, member])).mp (succeed earlier member), rfl⟩
  · rintro ⟨before, service, after, split, lost, kept, rfl⟩
    exact ⟨before, service, after, split,
      (knownService_eq_error_iff (by simp [split])).mpr ⟨lost, rfl⟩, fun earlier member =>
        (knownService_eq_ok_iff (by simp [split, member])).mpr (kept earlier member)⟩

end Schema

end RpcProxy

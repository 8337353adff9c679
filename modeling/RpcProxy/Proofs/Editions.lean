import RpcProxy.Proofs.Response

/-!
# Files in editions

Every response declares editions as a feature. All that follows linking is as good as this word: it
makes the same of files in editions as of files in the third version. Linking is not. It knows no
editions, and a request with one file in editions has no response.
-/

namespace RpcProxy

open Linking

/-- The same declarations in editions. -/
def FileDecl.inEditions (decl : FileDecl) : FileDecl := { decl with dialect := some "editions" }

/-- Whether a file is another one as it is, or the other one in editions. -/
inductive FileDecl.Moves (decl : FileDecl) : FileDecl → Prop
  | stays : decl.Moves decl
  | inEditions : decl.Moves decl.inEditions

/-- Whether a linked file has the services of another one, whose declaration it may have in
editions. -/
structure Linking.LinkedFile.Moves (file moved : LinkedFile) : Prop where
  services : moved.services = file.services
  decl : file.decl.Moves moved.decl

/-- Files in the third version that have moved are the same files if none is in editions. -/
theorem FileDecl.eq_of_forall₂_moves {decls moved : List FileDecl}
    (moves : List.Forall₂ FileDecl.Moves decls moved)
    (none : ∀ decl ∈ moved, decl.dialect ≠ some "editions") : moved = decls := by
  induction moves with
  | nil => rfl
  | cons first _ induction =>
      rw [List.forall_mem_cons] at none
      rw [induction none.2]
      cases first with
      | stays => rfl
      | inEditions => exact absurd rfl none.1

/-- A request breaks down at its first file in editions. -/
theorem Request.respond_of_editions {request : Request} {before after : List FileDecl}
    {decl : FileDecl} (split : request.files = before ++ decl :: after)
    (known : ∀ earlier ∈ before, earlier.KnownDialect) (editions : decl.dialect = some "editions") :
    request.respond = .error (.dialect ⟨decl.name.getD "", "editions"⟩) := by
  have unknown : ¬decl.KnownDialect := by
    rw [FileDecl.KnownDialect, editions]
    decide
  have breaks := BreaksDown.dialect split known unknown
  rw [editions] at breaks
  exact respond_eq_error_iff_breaksDown.mpr breaks

namespace FileDecl.Moves

variable {decl moved : FileDecl} (moves : decl.Moves moved)

include moves

theorem name : moved.name = decl.name := by
  cases moves <;> rfl

theorem package : moved.package = decl.package := by
  cases moves <;> rfl

theorem goPackage (packageOf : Registry String) :
    moved.goPackage packageOf = decl.goPackage packageOf := by
  cases moves <;> rfl

/-- A known dialect or editions are a dialect of the schema language. -/
theorem exists_dialect (known : decl.KnownDialect) :
    ∃ dialect, Dialect.ofName? (moved.dialect.getD "") = some dialect := by
  cases moves with
  | inEditions => exact ⟨.editions, rfl⟩
  | stays =>
      rcases known with none | named | named
      · exact ⟨.proto2, by rw [none]; rfl⟩
      · exact ⟨.proto2, by rw [named]; rfl⟩
      · exact ⟨.proto3, by rw [named]; rfl⟩

end FileDecl.Moves

namespace Schema

variable {packageOf : Registry String} {wanted : List String} {pool moved : Pool}
  (moves : List.Forall₂ LinkedFile.Moves pool.files moved.files)

include moves

theorem declOf_moves (file : String) : (declOf pool file).Moves (declOf moved file) := by
  have found : ∀ {files others : List LinkedFile}, List.Forall₂ LinkedFile.Moves files others →
      FileDecl.Moves
        (((files.map (·.decl)).find? fun decl : FileDecl => decl.name.getD "" == file).getD {})
        (((others.map (·.decl)).find? fun decl : FileDecl => decl.name.getD "" == file).getD {}) :=
      by
    intro files others all
    induction all with
    | nil => exact .stays
    | cons first _ induction =>
        rw [List.map_cons, List.map_cons, List.find?_cons, List.find?_cons, first.decl.name]
        split
        · exact first.decl
        · exact induction
  exact found moves

theorem message_moves (resolved : ResolvedMessage) :
    message packageOf moved resolved = message packageOf pool resolved := by
  have moves := declOf_moves moves resolved.file
  simp only [message, moves.goPackage, moves.package]

theorem service_moves (linked : LinkedService) :
    service packageOf moved linked = service packageOf pool linked := by
  have methods : method packageOf moved = method packageOf pool := by
    funext linked
    simp only [method, message_moves moves]
  simp only [service, methods]

theorem service?_moves (fullName : String) : moved.service? fullName = pool.service? fullName := by
  have found : ∀ {files others : List LinkedFile} {holds : LinkedService → Bool},
      List.Forall₂ LinkedFile.Moves files others →
      (others.findSome? fun file => file.services.find? holds) =
        files.findSome? fun file => file.services.find? holds := by
    intro files others holds all
    induction all with
    | nil => rfl
    | cons first _ induction =>
        rw [List.findSome?_cons, List.findSome?_cons, first.services, induction]
  exact found moves

theorem knownService_moves : knownService packageOf moved = knownService packageOf pool := by
  funext linked
  simp only [knownService, service?_moves moves, service_moves moves]

theorem exists_file_moves {linked other : LinkedFile} (moves : linked.Moves other)
    (known : linked.decl.KnownDialect) {result : ProtoFile}
    (made : file packageOf wanted pool linked = .ok result) :
    ∃ dialect, file packageOf wanted moved other = .ok { result with dialect } := by
  obtain ⟨_, services, _, each, rfl⟩ := file_eq_ok_iff.mp made
  obtain ⟨dialect, named⟩ := moves.decl.exists_dialect known
  refine ⟨dialect, file_eq_ok_iff.mpr ⟨dialect, services, named, ?_, ?_⟩⟩
  · rw [moves.services, knownService_moves ‹_›]
    exact each
  · rw [moves.decl.name, moves.decl.goPackage]

/-- Linked files that have moved are the same in Go terms but for their dialects. -/
theorem exists_ofPool_moves (known : ∀ file ∈ pool.files, file.decl.KnownDialect)
    {results : List ProtoFile} (made : ofPool packageOf wanted pool = .ok results) :
    ∃ others, ofPool packageOf wanted moved = .ok others ∧
      List.Forall₂ (fun result other => ∃ dialect, other = { result with dialect }) results
        others := by
  have within := (List.forall₂_and_left _ _).mpr ⟨known, ofPool_eq_ok_iff.mp made⟩
  have paired : List.Forall₂ (fun other result => ∃ dialect,
      file packageOf wanted moved other = .ok { result with dialect }) moved.files results :=
    moves.flip.compose within fun _ _ _ here there => exists_file_moves moves here there.1 there.2
  have each : ∀ linked ∈ moved.files, ∀ result : ProtoFile,
      (∃ dialect, file packageOf wanted moved linked = .ok { result with dialect }) →
        ∃ other, file packageOf wanted moved linked = .ok other ∧
          ∃ dialect, other = { result with dialect } :=
    fun _ _ _ ⟨dialect, here⟩ => ⟨_, here, dialect, rfl⟩
  obtain ⟨others, makes, same⟩ := paired.exists_forall₂ each
  exact ⟨others, ofPool_eq_ok_iff.mpr makes, same⟩

end Schema

private theorem ProtoFile.serviceProxies_dialect (file : ProtoFile) (dialect : Dialect)
    (scope : Scope) (services : List Service) :
    ProtoFile.serviceProxies { file with dialect } scope services =
      file.serviceProxies scope services := by
  induction services with
  | nil => rfl
  | cons service rest induction =>
      rw [serviceProxies, serviceProxies, induction]
      rfl

theorem ProtoFile.output_dialect (file : ProtoFile) (dialect : Dialect) (options : Options) :
    ProtoFile.output { file with dialect } options = file.output options := by
  have source : ProtoFile.proxySource { file with dialect } options = file.proxySource options := by
    rw [proxySource, proxySource, serviceProxies_dialect]
    rfl
  rw [output, output, source]
  rfl

theorem Run.ofFiles_dialects {options : Options} {files others : List ProtoFile}
    (same : List.Forall₂ (fun file other => ∃ dialect, other = { file with dialect }) files
      others) : Run.ofFiles options others = Run.ofFiles options files := by
  induction same with
  | nil => rfl
  | cons first _ induction =>
      obtain ⟨dialect, rfl⟩ := first
      simp only [Run.ofFiles_cons, ProtoFile.output_dialect, induction]

namespace Request

variable {request : Request} {response : Response}

/-- Whatever of the linked files of an answered request is moved to editions, the steps behind
linking make the files of the same response. -/
theorem response_of_moves (answered : request.respond = .ok response)
    (complete : response.error = none) :
    ∃ pool options, request.pool = .ok pool ∧ request.options = .ok options ∧
      ∀ moved : Pool, List.Forall₂ LinkedFile.Moves pool.files moved.files →
        ∃ schema outputs, request.schema options.packageOf moved = .ok schema ∧
          (Run.ofFiles options schema).result = .ok outputs ∧
          response.files = outputs.map fun output => ⟨some output.name, some output.content⟩ := by
  obtain ⟨outputs, generated, entries⟩ := outputs_of_respond answered complete
  obtain ⟨pool, options, schema, linked, read, made, all⟩ := outputs_eq_ok_iff.mp generated
  refine ⟨pool, options, linked, Except.mapError_eq_ok_iff.mpr read, fun moved moves => ?_⟩
  obtain ⟨others, otherMade, same⟩ :=
    Schema.exists_ofPool_moves moves (knownDialect_of_pool linked) made
  refine ⟨others, outputs, Except.mapError_eq_ok_iff.mpr otherMade, ?_, entries⟩
  rw [Run.ofFiles_dialects same, Run.result_ofFiles_eq_ok_iff]
  exact all

/-- A request for files of the third version that is answered without an error keeps its response
exactly as long as no file is in editions. With one there is none, although the steps behind linking
would make the files of the same response. -/
theorem editions_need_linking (answered : request.respond = .ok response)
    (complete : response.error = none)
    (proto3 : ∀ decl ∈ request.files, decl.dialect = some "proto3") {files : List FileDecl}
    (moves : List.Forall₂ FileDecl.Moves request.files files) :
    (respond { request with files } = .ok response ↔
      ∀ decl ∈ files, decl.dialect ≠ some "editions") ∧
    (∀ before decl after, files = before ++ decl :: after →
      (∀ earlier ∈ before, earlier.dialect ≠ some "editions") → decl.dialect = some "editions" →
      respond { request with files } = .error (.dialect ⟨decl.name.getD "", "editions"⟩)) ∧
    ∃ pool options, request.pool = .ok pool ∧ request.options = .ok options ∧
      ∀ moved : Pool, List.Forall₂ LinkedFile.Moves pool.files moved.files →
        ∃ schema outputs, request.schema options.packageOf moved = .ok schema ∧
          (Run.ofFiles options schema).result = .ok outputs ∧
          response.files = outputs.map fun output => ⟨some output.name, some output.content⟩ := by
  refine ⟨⟨fun again decl member editions => ?_, fun none => ?_⟩, ?_,
    response_of_moves answered complete⟩
  · have unknown : ¬decl.KnownDialect := by simp [FileDecl.KnownDialect, editions]
    obtain ⟨cause, breaks⟩ : ∃ cause, respond { request with files } = .error cause :=
      exists_respond_eq_error member unknown
    rw [again] at breaks
    simp at breaks
  · rw [FileDecl.eq_of_forall₂_moves moves none]
    exact answered
  · intro before decl after split none editions
    refine respond_of_editions split (fun earlier member => ?_) editions
    obtain ⟨original, inRequest, moved⟩ :=
      moves.flip.exists_of_mem (split ▸ List.mem_append_left _ member)
    cases moved with
    | stays => exact .inr (.inr (proto3 earlier inRequest))
    | inEditions => exact absurd rfl (none _ member)

/-- A request for a service whose messages are in a file of their own, with the dialects of both
files. -/
def greeting (messages services : String) : Request where
  filesToGenerate := ["greeter.proto"]
  files :=
    [{ name := some "words.proto", package := some "words", dialect := some messages
       messages := [{ name := some "Word" }]
       options := some { goPackage := some "example.com/words" } },
     { name := some "greeter.proto", package := some "greeter", dialect := some services
       dependencies := ["words.proto"]
       services :=
        [{ name := some "Greeter", methods :=
            [{ name := some "Greet", inputType := some "words.Word",
               outputType := some "words.Word" }] }]
       options := some { goPackage := some "example.com/greeter" } }]

/-- One file in editions is enough, and it need not be a file to generate. -/
theorem editions_need_linking_greeting :
    ∃ response, (greeting "proto3" "proto3").respond = .ok response ∧ response.error = none ∧
      (greeting "editions" "proto3").respond = .error (.dialect ⟨"words.proto", "editions"⟩) ∧
      (greeting "editions" "proto3").respond ≠ .ok response := by
  obtain ⟨response, answered, complete⟩ :
      ∃ response, (greeting "proto3" "proto3").respond = .ok response ∧ response.error = none :=
    Except.exists_eq_ok_and (by decide +kernel)
  have moves : List.Forall₂ FileDecl.Moves (greeting "proto3" "proto3").files
      (greeting "editions" "proto3").files := .cons .inEditions (.cons .stays .nil)
  obtain ⟨kept, refused, _⟩ := editions_need_linking answered complete (by simp [greeting]) moves
  refine ⟨response, answered, complete, refused [] _ _ rfl (by simp) rfl, fun again => ?_⟩
  exact kept.mp again _ List.mem_cons_self rfl

/-- A file that is only moved to editions costs the whole response. -/
theorem no_response_in_editions :
    List.Forall₂ FileDecl.Moves (greeting "proto3" "proto3").files
        (greeting "proto3" "editions").files ∧
      (∃ response, (greeting "proto3" "proto3").respond = .ok response ∧ response.error = none ∧
        response.files.length = 1) ∧
      ∀ response, (greeting "proto3" "editions").respond ≠ .ok response := by
  have breaks : (greeting "proto3" "editions").respond =
      .error (.dialect ⟨"greeter.proto", "editions"⟩) := rfl
  refine ⟨.cons .stays (.cons .inEditions .nil), Except.exists_eq_ok_and (by decide +kernel), ?_⟩
  exact fun response answered => by simp [breaks] at answered

end Request

end RpcProxy

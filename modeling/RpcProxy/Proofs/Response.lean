import RpcProxy.Proofs.Generate
import RpcProxy.Proofs.Schema
import RpcProxy.Response

/-!
# All or nothing

A response carries either the text of the first failure and no file, or one file for each wanted
schema file with services. Requests that linking cannot take are the only ones without a response.
-/

namespace RpcProxy.Request

open Linking

variable {request : Request}

/-- How a request fails, by the first of the stages that does: linking, reading the parameter, and
generating the wanted files in their order. -/
inductive FailsFirst (request : Request) : Failure → Prop
  | link {error : LinkError} : (∀ decl ∈ request.files, decl.KnownDialect) →
      Linking.link request.files = .error error → request.FailsFirst (.link error)
  | options {pool : Pool} : (∀ decl ∈ request.files, decl.KnownDialect) →
      Linking.link request.files = .ok pool → pool.readOptions = .error .unfit →
      request.FailsFirst (.link .unfitOptions)
  | parameter {pool : Pool} {error : ParameterError} : request.pool = .ok pool →
      Options.ofParameter request.parameterText = .error error →
      request.FailsFirst (.parameter error)
  | generation {pool : Pool} {options : Options} {files : List ProtoFile}
      {error : GenerationError} : request.pool = .ok pool →
      Options.ofParameter request.parameterText = .ok options →
      Schema.ofPool options.packageOf request.filesToGenerate pool = .ok files →
      Except.FirstFailure (fun file => ProtoFile.output file options)
        (files.filter (·.generate)) error →
      request.FailsFirst (.generation error)

/-- Why a request gets no response: a dialect that linking does not know, options that a declaration
of the request makes unusable, or a service that is lost in the look-up. -/
inductive BreaksDown (request : Request) : Breakdown → Prop
  | dialect {before after : List FileDecl} {decl : FileDecl} :
      request.files = before ++ decl :: after → (∀ earlier ∈ before, earlier.KnownDialect) →
      ¬decl.KnownDialect → request.BreaksDown (.dialect ⟨decl.name.getD "", decl.dialect.getD ""⟩)
  | options {pool : Pool} {file : String} : (∀ decl ∈ request.files, decl.KnownDialect) →
      Linking.link request.files = .ok pool → pool.readOptions = .error (.unusable file) →
      request.BreaksDown (.options file)
  | service {pool : Pool} {options : Options} {before after : List LinkedService}
      {service : LinkedService} : request.pool = .ok pool →
      Options.ofParameter request.parameterText = .ok options →
      pool.services = before ++ service :: after → pool.Loses service →
      (∀ earlier ∈ before, ¬pool.Loses earlier) → request.BreaksDown (.service service.fullName)

/-- The response to a request: the text of its failure and no file, or one file for each wanted
schema file with services, in their order. -/
inductive Answers (request : Request) : Response → Prop
  | failure {failure : Failure} : request.FailsFirst failure →
      request.Answers ⟨some failure.message, some 3, some 998, some 1000, []⟩
  | files {pool : Pool} {options : Options} {files : List ProtoFile}
      {entries : List ResponseFile} : request.pool = .ok pool →
      Options.ofParameter request.parameterText = .ok options →
      Schema.ofPool options.packageOf request.filesToGenerate pool = .ok files →
      List.Forall₂ (fun decl file => ProtoFile.ComesFrom file request.filesToGenerate decl)
        request.files files →
      List.Forall₂ (fun file entry => ∃ output : OutputFile,
          file.output options = .ok (some output) ∧
            entry = ResponseFile.mk (some output.name) (some output.content))
        (files.filter Run.wants) entries →
      request.Answers ⟨none, some 3, some 998, some 1000, entries⟩

private theorem knownDialect_iff {decl : FileDecl} :
    (decl.dialect.any fun name => name != "proto2" && name != "proto3") = false ↔
      decl.KnownDialect := by
  rw [FileDecl.KnownDialect]
  cases decl.dialect with
  | none => simp
  | some name => simp [or_iff_not_imp_left]

theorem unknownDialect?_eq_none_iff :
    request.unknownDialect? = none ↔ ∀ decl ∈ request.files, decl.KnownDialect := by
  simp only [unknownDialect?, Option.map_eq_none_iff, List.find?_eq_none, Bool.not_eq_true,
    knownDialect_iff]

theorem unknownDialect?_eq_some_iff {unknown : UnknownDialect} :
    request.unknownDialect? = some unknown ↔ request.BreaksDown (.dialect unknown) := by
  rw [unknownDialect?, Option.map_eq_some_iff]
  constructor
  · rintro ⟨decl, found, rfl⟩
    obtain ⟨here, before, after, split, earlier⟩ := List.find?_eq_some_iff_append.mp found
    refine .dialect split (fun other member => knownDialect_iff.mp ?_) fun known => ?_
    · simpa using earlier other member
    · rw [knownDialect_iff.mpr known] at here
      exact Bool.noConfusion here
  · rintro (⟨split, earlier, unknown⟩)
    refine ⟨_, List.find?_eq_some_iff_append.mpr ⟨?_, _, _, split, ?_⟩, rfl⟩
    · rw [← Bool.not_eq_false]
      exact mt knownDialect_iff.mp unknown
    · intro other member
      rw [knownDialect_iff.mpr (earlier other member)]
      rfl

private theorem pool_of_unknown {unknown : UnknownDialect}
    (found : request.unknownDialect? = some unknown) :
    request.pool = .error (.breakdown (.dialect unknown)) := by
  rw [Request.pool, found]
  rfl

private theorem pool_of_known (known : request.unknownDialect? = none) :
    request.pool = (Linking.link request.files).mapError .link >>= fun pool =>
      pool.readOptions.mapError .ofOptionsError := by
  rw [Request.pool, known]

theorem pool_eq_ok_iff {pool : Pool} :
    request.pool = .ok pool ↔
      (∀ decl ∈ request.files, decl.KnownDialect) ∧
        ∃ linked, Linking.link request.files = .ok linked ∧ linked.readOptions = .ok pool := by
  rw [← unknownDialect?_eq_none_iff]
  cases found : request.unknownDialect? with
  | none =>
      rw [pool_of_known found]
      simp only [Except.bind_eq_ok_iff, Except.mapError_eq_ok_iff, true_and]
  | some unknown => simp [pool_of_unknown found]

/-- Linking breaks down or fails as the first of its steps does. -/
theorem pool_eq_error_iff {failure : Failure} :
    request.pool = .error failure ↔
      (∃ unknown, request.unknownDialect? = some unknown ∧
        .breakdown (.dialect unknown) = failure) ∨
      (∀ decl ∈ request.files, decl.KnownDialect) ∧
        ((∃ error, Linking.link request.files = .error error ∧ .link error = failure) ∨
          ∃ linked, Linking.link request.files = .ok linked ∧
            ∃ error, linked.readOptions = .error error ∧ .ofOptionsError error = failure) := by
  rw [← unknownDialect?_eq_none_iff]
  cases found : request.unknownDialect? with
  | none =>
      rw [pool_of_known found]
      simp only [Except.bind_eq_error_iff, Except.mapError_eq_ok_iff, Except.mapError_eq_error_iff,
        reduceCtorEq, false_and, exists_false, false_or, true_and]
  | some unknown => simp [pool_of_unknown found]

/-- The linked files of a request are those of the request, in their order, with one table of their
names. -/
theorem links_of_pool {pool : Pool} (linked : request.pool = .ok pool) :
    Table.ofFiles request.files = .ok pool.table ∧
      List.Forall₂ (LinkedFile.Links pool.table request.files) request.files pool.files := by
  obtain ⟨_, first, link, read⟩ := pool_eq_ok_iff.mp linked
  obtain ⟨built, links⟩ := links_of_link link
  obtain ⟨table, kept⟩ := links_of_readOptions read links
  rw [table]
  exact ⟨built, kept⟩

theorem comesFrom_of_pool {pool : Pool} (linked : request.pool = .ok pool) :
    List.Forall₂ (fun decl file => LinkedFile.ComesFrom file decl) request.files pool.files :=
  (links_of_pool linked).2.imp fun _ _ => LinkedFile.Links.comesFrom

theorem knownDialect_of_pool {pool : Pool} (linked : request.pool = .ok pool) :
    ∀ file ∈ pool.files, file.decl.KnownDialect := by
  intro file member
  obtain ⟨known, _⟩ := pool_eq_ok_iff.mp linked
  have flipped := (comesFrom_of_pool linked).flip
  obtain ⟨decl, inRequest, comesFrom⟩ := flipped.exists_of_mem member
  rw [FileDecl.KnownDialect, comesFrom.dialect]
  exact known decl inRequest

theorem parse_eq_ok_iff {options : Options} {files : List ProtoFile} :
    request.parse = .ok (options, files) ↔
      ∃ pool, request.pool = .ok pool ∧ Options.ofParameter request.parameterText = .ok options ∧
        Schema.ofPool options.packageOf request.filesToGenerate pool = .ok files := by
  simp only [Request.parse, Request.options, Request.schema, Except.bind_eq_ok_iff,
    Except.mapError_eq_ok_iff, pure, Except.pure, Except.ok.injEq, Prod.mk.injEq]
  constructor
  · rintro ⟨pool, linked, _, read, _, made, rfl, rfl⟩
    exact ⟨pool, linked, read, made⟩
  · rintro ⟨pool, linked, read, made⟩
    exact ⟨pool, linked, _, read, _, made, rfl, rfl⟩

theorem outputs_eq_ok_iff {outputs : List OutputFile} :
    request.outputs = .ok outputs ↔
      ∃ pool options files, request.pool = .ok pool ∧
        Options.ofParameter request.parameterText = .ok options ∧
        Schema.ofPool options.packageOf request.filesToGenerate pool = .ok files ∧
        List.Forall₂ (fun file output => ProtoFile.output file options = .ok (some output))
          (files.filter Run.wants) outputs := by
  simp only [Request.outputs, Except.bind_eq_ok_iff, Except.mapError_eq_ok_iff, Prod.exists,
    parse_eq_ok_iff, Run.result_ofFiles_eq_ok_iff]
  constructor
  · rintro ⟨options, files, ⟨pool, linked, read, made⟩, generated⟩
    exact ⟨pool, options, files, linked, read, made, generated⟩
  · rintro ⟨pool, options, files, linked, read, made, generated⟩
    exact ⟨options, files, ⟨pool, linked, read, made⟩, generated⟩

private theorem pool_fails_iff {failure : Failure} :
    request.pool = .error failure → request.FailsFirst failure ∨
      ∃ cause, failure = .breakdown cause ∧ request.BreaksDown cause := by
  intro fails
  rcases pool_eq_error_iff.mp fails with
    ⟨unknown, found, rfl⟩ | ⟨known, ⟨error, link, rfl⟩ | ⟨linked, link, error, read, rfl⟩⟩
  · exact .inr ⟨_, rfl, unknownDialect?_eq_some_iff.mp found⟩
  · exact .inl (.link known link)
  · cases error with
    | unfit => exact .inl (.options known link read)
    | unusable file => exact .inr ⟨_, rfl, .options known link read⟩

theorem outputs_eq_error_iff {failure : Failure} :
    request.outputs = .error failure ↔
      request.FailsFirst failure ∨
        ∃ cause, failure = .breakdown cause ∧ request.BreaksDown cause := by
  simp only [Request.outputs, Request.parse, Request.options, Request.schema, Except.bind_eq_ok_iff,
    Except.bind_eq_error_iff, Except.mapError_eq_ok_iff, Except.mapError_eq_error_iff, pure,
    Except.pure, Except.ok.injEq, Run.result_ofFiles_eq_error_iff, reduceCtorEq, and_false,
    exists_false, or_false]
  constructor
  · rintro ((fails | ⟨pool, linked, ⟨error, read, rfl⟩ | ⟨options, read, error, made, rfl⟩⟩) |
      ⟨⟨options, files⟩, ⟨pool, linked, _, read, _, made, equal⟩, error, generated, rfl⟩)
    · exact pool_fails_iff fails
    · exact .inl (.parameter linked read)
    · obtain ⟨before, service, after, split, lost, kept, rfl⟩ :=
        (Schema.ofPool_eq_error_iff (knownDialect_of_pool linked)).mp made
      exact .inr ⟨_, rfl, .service linked read split lost kept⟩
    · obtain ⟨rfl, rfl⟩ := Prod.mk.inj equal
      exact .inl (.generation linked read made generated)
  · rintro (fails | ⟨cause, rfl, breaks⟩)
    · cases fails with
      | link known link =>
          exact .inl (.inl (pool_eq_error_iff.mpr (.inr ⟨known, .inl ⟨_, link, rfl⟩⟩)))
      | options known link read =>
          exact .inl (.inl (pool_eq_error_iff.mpr (.inr ⟨known, .inr ⟨_, link, _, read, rfl⟩⟩)))
      | parameter linked read => exact .inl (.inr ⟨_, linked, .inl ⟨_, read, rfl⟩⟩)
      | generation linked read made generated =>
          exact .inr ⟨⟨_, _⟩, ⟨_, linked, _, read, _, made, rfl⟩, _, generated, rfl⟩
    · cases cause with
      | dialect unknown =>
          exact .inl (.inl (pool_eq_error_iff.mpr
            (.inl ⟨_, unknownDialect?_eq_some_iff.mpr breaks, rfl⟩)))
      | options file =>
          cases breaks with
          | options known link read =>
              exact .inl (.inl (pool_eq_error_iff.mpr (.inr ⟨known, .inr ⟨_, link, _, read, rfl⟩⟩)))
      | service fullName =>
          cases breaks with
          | service linked read split lost kept =>
              exact .inl (.inr ⟨_, linked, .inr ⟨_, read, _, (Schema.ofPool_eq_error_iff
                (knownDialect_of_pool linked)).mpr ⟨_, _, _, split, lost, kept, rfl⟩, rfl⟩⟩)

theorem FailsFirst.ne_breakdown {failure : Failure} (fails : request.FailsFirst failure)
    (cause : Breakdown) : failure ≠ .breakdown cause := by
  cases fails <;> simp

private theorem forall₂_entries_iff {options : Options} {files : List ProtoFile}
    {entries : List ResponseFile} :
    List.Forall₂ (fun file entry => ∃ output : OutputFile, file.output options = .ok (some output) ∧
        entry = ResponseFile.mk (some output.name) (some output.content)) files entries ↔
      ∃ outputs, List.Forall₂ (fun file output => ProtoFile.output file options = .ok (some output))
        files outputs ∧
          entries = outputs.map fun output => ⟨some output.name, some output.content⟩ := by
  induction files generalizing entries with
  | nil => simp
  | cons file rest induction =>
      simp only [List.forall₂_cons_left_iff, induction]
      constructor
      · rintro ⟨_, _, ⟨output, written, rfl⟩, ⟨outputs, all, rfl⟩, rfl⟩
        exact ⟨output :: outputs, ⟨output, outputs, written, all, rfl⟩, rfl⟩
      · rintro ⟨_, ⟨output, outputs, written, all, rfl⟩, rfl⟩
        exact ⟨_, _, ⟨output, written, rfl⟩, ⟨outputs, all, rfl⟩, rfl⟩

private theorem respond_eq_ok_iff {response : Response} :
    request.respond = .ok response ↔
      (∃ outputs, request.outputs = .ok outputs ∧
        response = ⟨none, some 3, some 998, some 1000,
          outputs.map fun output => ⟨some output.name, some output.content⟩⟩) ∨
      ∃ failure, request.outputs = .error failure ∧ (∀ cause, failure ≠ .breakdown cause) ∧
        response = ⟨some failure.message, some 3, some 998, some 1000, []⟩ := by
  rw [respond]
  cases request.outputs with
  | ok outputs => simp [responseTo, Response.capabilities, eq_comm]
  | error failure => cases failure <;> simp [responseTo, Response.capabilities, eq_comm]

private theorem respond_eq_error_iff {cause : Breakdown} :
    request.respond = .error cause ↔ request.outputs = .error (.breakdown cause) := by
  rw [respond]
  cases request.outputs with
  | ok outputs => simp [responseTo]
  | error failure => cases failure <;> simp [responseTo]

theorem respond_eq_error_iff_breaksDown {cause : Breakdown} :
    request.respond = .error cause ↔ request.BreaksDown cause := by
  rw [respond_eq_error_iff, outputs_eq_error_iff]
  constructor
  · rintro (fails | ⟨_, same, breaks⟩)
    · exact absurd rfl (fails.ne_breakdown cause)
    · exact Failure.breakdown.inj same ▸ breaks
  · exact fun breaks => .inr ⟨cause, rfl, breaks⟩

/-- A file whose dialect linking does not know leaves a request without a response. -/
theorem exists_respond_eq_error {decl : FileDecl} (member : decl ∈ request.files)
    (unknown : ¬decl.KnownDialect) : ∃ cause, request.respond = .error cause := by
  cases found : request.unknownDialect? with
  | none => exact absurd (unknownDialect?_eq_none_iff.mp found decl member) unknown
  | some first =>
      exact ⟨_, respond_eq_error_iff_breaksDown.mpr (unknownDialect?_eq_some_iff.mp found)⟩

theorem outputs_of_respond {response : Response} (answered : request.respond = .ok response)
    (complete : response.error = none) :
    ∃ outputs, request.outputs = .ok outputs ∧
      response.files = outputs.map fun output => ⟨some output.name, some output.content⟩ := by
  rcases respond_eq_ok_iff.mp answered with ⟨outputs, generated, rfl⟩ | ⟨_, _, _, rfl⟩
  · exact ⟨outputs, generated, rfl⟩
  · simp at complete

/-- A response without an error carries the output of each wanted file, in their order. -/
theorem entries_of_respond {response : Response} (answered : request.respond = .ok response)
    (complete : response.error = none) :
    ∃ options files, request.parse = .ok (options, files) ∧
      List.Forall₂ (fun file entry => ∃ output : OutputFile,
          file.output options = .ok (some output) ∧
            entry = ResponseFile.mk (some output.name) (some output.content))
        (files.filter Run.wants) response.files := by
  obtain ⟨outputs, generated, entries⟩ := outputs_of_respond answered complete
  obtain ⟨pool, options, files, linked, read, made, all⟩ := outputs_eq_ok_iff.mp generated
  exact ⟨options, files, parse_eq_ok_iff.mpr ⟨pool, linked, read, made⟩,
    forall₂_entries_iff.mpr ⟨outputs, all, entries⟩⟩

/-- A response is all or nothing: it declares the capabilities, and it carries either the text of
the first failure or one file for each wanted schema file with services. There is no response
exactly if the request breaks the run. -/
theorem respond_all_or_nothing (request : Request) :
    (∀ response, request.respond = .ok response ↔ request.Answers response) ∧
      ∀ cause, request.respond = .error cause ↔ request.BreaksDown cause := by
  constructor
  · intro response
    rw [respond_eq_ok_iff]
    constructor
    · rintro (⟨outputs, generated, rfl⟩ | ⟨failure, fails, reported, rfl⟩)
      · obtain ⟨pool, options, files, linked, read, made, all⟩ := outputs_eq_ok_iff.mp generated
        exact .files linked read made (Schema.comesFrom_of_ofPool (comesFrom_of_pool linked) made)
          (forall₂_entries_iff.mpr ⟨outputs, all, rfl⟩)
      · refine .failure ((outputs_eq_error_iff.mp fails).resolve_right ?_)
        rintro ⟨cause, same, _⟩
        exact reported cause same
    · intro answers
      cases answers with
      | failure fails =>
          exact .inr ⟨_, outputs_eq_error_iff.mpr (.inl fails), fails.ne_breakdown, rfl⟩
      | files linked read made _ entries =>
          obtain ⟨outputs, all, rfl⟩ := forall₂_entries_iff.mp entries
          exact .inl ⟨outputs, outputs_eq_ok_iff.mpr ⟨_, _, _, linked, read, made, all⟩, rfl⟩
  · intro cause
    rw [respond_eq_error_iff, outputs_eq_error_iff]
    constructor
    · rintro (fails | ⟨_, same, breaks⟩)
      · exact (fails.ne_breakdown cause rfl).elim
      · rw [Failure.breakdown.injEq] at same
        exact same ▸ breaks
    · exact fun breaks => .inr ⟨cause, rfl, breaks⟩

/-- A request for one file whose dialect has no known name. -/
def newerDialect : Request where
  filesToGenerate := ["a.proto"]
  parameter := some ""
  files := [{ name := some "a.proto", dialect := some "proto4" }]

/-- A dialect that nothing knows leaves a request without a response. -/
theorem no_response_to_newerDialect :
    newerDialect.respond = .error (.dialect ⟨"a.proto", "proto4"⟩) ∧
      ∀ response, newerDialect.respond ≠ .ok response := by
  have breaks : newerDialect.respond = .error (.dialect ⟨"a.proto", "proto4"⟩) := rfl
  exact ⟨breaks, fun response answered => by simp [breaks] at answered⟩

end RpcProxy.Request

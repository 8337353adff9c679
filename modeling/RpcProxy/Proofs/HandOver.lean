import RpcProxy.Proofs.Generate

/-!
# Handing outputs over

Files are generated one by one, and what comes of each depends on the file alone. A sink is given
the outputs of the marked files in their order, all of them or those before the first failure, and
the other files leave no trace.
-/

namespace RpcProxy

variable {σ : Type} {take : σ → OutputFile → σ} {options : Options} {count : Nat} {sink : σ}
  {files before after : List ProtoFile} {file : ProtoFile} {outputs : List OutputFile}
  {error : GenerationError}

/-- Files that all succeed if they are marked. -/
def Succeeds (options : Options) (files : List ProtoFile) : Prop :=
  ∀ file ∈ files, file.generate = true → ∃ result, file.output options = .ok result

/-- The outputs of the marked files with services. -/
def OutputsOf (options : Options) (files : List ProtoFile) (outputs : List OutputFile) : Prop :=
  List.Forall₂ (fun file output => file.output options = .ok (some output))
    (files.filter Run.wants) outputs

/-- Files are handed over in two parts as in one, unless the first part fails. -/
theorem handOver_append :
    handOver take options count sink (before ++ after) =
      match handOver take options count sink before with
      | (sink, .ok count) => handOver take options count sink after
      | (sink, .error error) => (sink, .error error) := by
  induction before generalizing count sink with
  | nil => rfl
  | cons file rest induction =>
      rw [List.cons_append, handOver, handOver]
      split
      · cases file.output options with
        | error error => rfl
        | ok result =>
            cases result with
            | none => exact induction
            | some output => exact induction
      · exact induction

theorem handOver_filter :
    handOver take options count sink (files.filter (·.generate)) =
      handOver take options count sink files := by
  induction files generalizing count sink with
  | nil => rfl
  | cons file rest induction =>
      by_cases marked : file.generate = true
      · rw [List.filter_cons_of_pos marked, handOver, handOver, if_pos marked, if_pos marked]
        simp only [induction]
      · rw [List.filter_cons_of_neg marked, handOver, if_neg marked, induction]

/-- Without a failure every marked file with services gives the sink its output. -/
theorem handOver_of_succeeds (succeeds : Succeeds options files) :
    ∃ outputs, OutputsOf options files outputs ∧
      handOver take options count sink files =
        (outputs.foldl take sink, .ok (count + (files.filter Run.wants).length)) := by
  cases result : (Run.ofFiles options files).result with
  | error failure =>
      obtain ⟨_, failing, _, split, fails, _⟩ := Run.result_ofFiles_eq_error_iff.mp result
      have member : failing ∈ files.filter (·.generate) := by simp [split]
      obtain ⟨inFiles, marked⟩ := List.mem_filter.mp member
      obtain ⟨_, succeeded⟩ := succeeds failing inFiles marked
      simp [fails] at succeeded
  | ok outputs =>
      have all := Run.result_ofFiles_eq_ok_iff.mp result
      obtain ⟨complete, collected⟩ := Run.result_eq_ok_iff.mp result
      refine ⟨outputs, all, ?_⟩
      rw [Run.handOver_eq, collected, Run.tally, complete, collected, all.length_eq]

/-- The first failure ends the run, and the sink has the outputs of the files before. -/
theorem handOver_of_failure (succeeds : Succeeds options before) (marked : file.generate = true)
    (fails : file.output options = .error error) :
    ∃ outputs, OutputsOf options before outputs ∧
      handOver take options count sink (before ++ file :: after) =
        (outputs.foldl take sink, .error error) := by
  obtain ⟨outputs, outputsOf, handedOver⟩ := handOver_of_succeeds succeeds
  refine ⟨outputs, outputsOf, ?_⟩
  rw [handOver_append, handedOver]
  simp only [handOver, marked, fails, if_true]

/-- What a sink is given and what is returned, with and without a failure. -/
theorem files_handed_over_independently {σ : Type} (take : σ → OutputFile → σ) (options : Options)
    (sink : σ) (files : List ProtoFile) :
    (Succeeds options files → ∃ outputs, OutputsOf options files outputs ∧
      generateInto take options sink files =
        (outputs.foldl take sink, .ok (files.filter Run.wants).length)) ∧
    (∀ before file after error, files = before ++ file :: after → Succeeds options before →
      file.generate = true → file.output options = .error error →
        ∃ outputs, OutputsOf options before outputs ∧
          generateInto take options sink files = (outputs.foldl take sink, .error error)) ∧
    ∀ others : List ProtoFile, others.filter (·.generate) = files.filter (·.generate) →
      generateInto take options sink others = generateInto take options sink files := by
  refine ⟨?_, ?_, ?_⟩
  · intro succeeds
    obtain ⟨outputs, outputsOf, handedOver⟩ := handOver_of_succeeds succeeds
    exact ⟨outputs, outputsOf, by rw [generateInto, handedOver, Nat.zero_add]⟩
  · rintro before file after error rfl succeeds marked fails
    exact handOver_of_failure succeeds marked fails
  · intro others same
    rw [generateInto, generateInto, ← handOver_filter, same, handOver_filter]

/-- A file with a service and without methods. -/
def idleFile (generate : Bool) (importPath : String) : ProtoFile where
  name := "x.proto"
  dialect := .proto3
  packageName := "x"
  importPath := importPath
  generate := generate
  services := [⟨"S", []⟩]

/-- A file that would fail counts if it is marked, and only then. -/
theorem files_handed_over_independently_unmarked :
    ∃ output, (idleFile true "m").output { moduleRoot := some "m" } = .ok (some output) ∧
      ∀ old : OutputFile,
        generateInto (fun outputs output => outputs ++ [output]) { moduleRoot := some "m" } [old]
            [idleFile false "n", { idleFile true "n" with services := [] }, idleFile true "m"] =
          ([old, output], .ok 1) ∧
        generateInto (fun outputs output => outputs ++ [output]) { moduleRoot := some "m" } [old]
            [idleFile true "m", idleFile true "n", idleFile true "m"] =
          ([old, output], .error (.outsideModule "x.proto" "n" "m")) := by
  obtain ⟨written, made, found⟩ :
      ∃ written, (idleFile true "m").output { moduleRoot := some "m" } = .ok written ∧
        written.isSome = true := Except.exists_eq_ok_and (by decide +kernel)
  obtain ⟨output, rfl⟩ := Option.isSome_iff_exists.mp found
  refine ⟨output, made, fun old => ⟨?_, ?_⟩⟩
  · obtain ⟨complete, _, _⟩ := files_handed_over_independently
      (fun outputs output => outputs ++ [output]) { moduleRoot := some "m" } [old]
      [idleFile false "n", { idleFile true "n" with services := [] }, idleFile true "m"]
    obtain ⟨outputs, outputsOf, handedOver⟩ := complete (by
      simp only [Succeeds, List.forall_mem_cons]
      exact ⟨by simp [idleFile], fun _ => ⟨none, rfl⟩, fun _ => ⟨_, made⟩, by simp⟩)
    obtain ⟨first, rest, here, nothing, rfl⟩ := List.forall₂_cons_left_iff.mp outputsOf
    obtain rfl := List.forall₂_nil_left_iff.mp nothing
    obtain rfl : output = first := by simpa using made.symm.trans here
    exact handedOver
  · obtain ⟨_, stopped, _⟩ := files_handed_over_independently
      (fun outputs output => outputs ++ [output]) { moduleRoot := some "m" } [old]
      [idleFile true "m", idleFile true "n", idleFile true "m"]
    obtain ⟨outputs, outputsOf, handedOver⟩ := stopped [idleFile true "m"] (idleFile true "n")
      [idleFile true "m"] (.outsideModule "x.proto" "n" "m") rfl
      (by simpa [Succeeds] using fun _ => ⟨_, made⟩) rfl (by decide +kernel)
    obtain ⟨first, rest, here, nothing, rfl⟩ := List.forall₂_cons_left_iff.mp outputsOf
    obtain rfl := List.forall₂_nil_left_iff.mp nothing
    obtain rfl : output = first := by simpa using made.symm.trans here
    exact handedOver

end RpcProxy

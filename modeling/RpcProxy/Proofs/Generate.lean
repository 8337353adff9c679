import RpcProxy.Generate
import RpcProxy.Proofs.Except
import RpcProxy.Proofs.Signature

/-!
# Laws of generated files

Generating a file succeeds exactly if every step does, and the result has the results of the steps
as its parts.
-/

namespace RpcProxy

namespace ProtoFile

variable {file : ProtoFile} {options : Options} {scope : Scope}

theorem mem_methods_iff {method : Method} :
    method ∈ file.methods ↔ ∃ service ∈ file.services, method ∈ service.methods := by
  simp [methods]

/-- The name of the output depends on the name of a file and on its Go package alone. -/
theorem outputName_congr {other : ProtoFile} (name : file.name = other.name)
    (packageName : file.packageName = other.packageName)
    (importPath : file.importPath = other.importPath) (options : Options) :
    file.outputName options = other.outputName options := by
  simp only [outputName, outputDirectory, directoryInModule, source, standalonePackage, name,
    packageName, importPath]

/-- The name of a proxy depends on the name of its service and on the number of services alone. -/
theorem proxyName_congr {other : ProtoFile} {service otherService : Service}
    (length : file.services.length = other.services.length)
    (name : service.name = otherService.name) :
    file.proxyName service = other.proxyName otherService := by
  rw [proxyName, proxyName, length, name]

def identifierOf (file : ProtoFile) (service : Service) : Identifier :=
  ⟨service.name, file.importPath⟩

theorem serviceProxy_eq_ok_iff {service : Service} {proxy : ServiceProxy} :
    file.serviceProxy scope service = .ok proxy ↔
      ∃ signatures, service.signatures scope (file.identifierOf service) = .ok signatures ∧
        proxy =
          { serviceName := service.name
            proxyName := file.proxyName service
            register := scope.refer ⟨"Register" ++ service.name ++ "Server", file.importPath⟩
            unimplemented :=
              scope.refer ⟨"Unimplemented" ++ service.name ++ "Server", file.importPath⟩
            methods := signatures } := by
  rw [serviceProxy, Except.bind_eq_ok_iff]
  simp only [pure, Except.pure, Except.ok.injEq, eq_comm, identifierOf]

private theorem serviceProxies_eq_mapM (services : List Service) :
    file.serviceProxies scope services = services.mapM (file.serviceProxy scope) := by
  induction services with
  | nil => rfl
  | cons service rest induction => rw [serviceProxies, List.mapM_cons, induction]

theorem serviceProxies_eq_ok_iff {services : List Service} {proxies : List ServiceProxy} :
    file.serviceProxies scope services = .ok proxies ↔
      List.Forall₂ (fun service proxy => file.serviceProxy scope service = .ok proxy)
        services proxies := by
  rw [serviceProxies_eq_mapM, Except.mapM_eq_ok_iff]

theorem proxySource_eq_ok_iff {source : ProxySource} :
    file.proxySource options = .ok source ↔
      ∃ proxies, file.serviceProxies (file.scope options) file.services = .ok proxies ∧
        source =
          { packageName := if options.standalone then file.standalonePackage else file.packageName
            imports := (file.scope options).imports.imports
            services := proxies } := by
  rw [proxySource, Except.bind_eq_ok_iff]
  simp only [pure, Except.pure, Except.ok.injEq, eq_comm]

theorem imports_of_proxySource {source : ProxySource}
    (generated : file.proxySource options = .ok source) :
    source.imports = (file.scope options).imports.imports := by
  obtain ⟨_, _, rfl⟩ := proxySource_eq_ok_iff.mp generated
  rfl

theorem mem_services_iff {source : ProxySource} (generated : file.proxySource options = .ok source)
    {proxy : ServiceProxy} :
    proxy ∈ source.services ↔
      ∃ service ∈ file.services, file.serviceProxy (file.scope options) service = .ok proxy := by
  obtain ⟨proxies, result, rfl⟩ := proxySource_eq_ok_iff.mp generated
  exact Except.mem_iff_of_forall₂ (serviceProxies_eq_ok_iff.mp result)

theorem exists_mem_services {source : ProxySource}
    (generated : file.proxySource options = .ok source) {service : Service}
    (member : service ∈ file.services) :
    ∃ proxy ∈ source.services, file.serviceProxy (file.scope options) service = .ok proxy := by
  obtain ⟨proxies, result, rfl⟩ := proxySource_eq_ok_iff.mp generated
  exact (serviceProxies_eq_ok_iff.mp result).exists_of_mem member

/-- The proxies of a file can be made exactly if no service repeats the name of a method. -/
theorem exists_proxySource_iff :
    (∃ source, file.proxySource options = .ok source) ↔
      ∀ service ∈ file.services, service.methodNames.Nodup := by
  have proxies (services : List Service) :
      (∃ proxies, file.serviceProxies (file.scope options) services = .ok proxies) ↔
        ∀ service ∈ services, service.methodNames.Nodup := by
    induction services with
    | nil => simp [serviceProxies]
    | cons service rest induction =>
        simp only [serviceProxies_eq_ok_iff] at induction ⊢
        simp only [List.forall₂_cons_left_iff, List.forall_mem_cons, ← induction]
        simp only [serviceProxy_eq_ok_iff, Service.signatures_eq_ok_iff]
        constructor
        · rintro ⟨_, _, later, ⟨_, ⟨distinct, _⟩, _⟩, others, _⟩
          exact ⟨distinct, _, others⟩
        · rintro ⟨distinct, _, others⟩
          exact ⟨_, _, _, ⟨_, ⟨distinct, rfl⟩, rfl⟩, others, rfl⟩
  rw [← proxies]
  constructor
  · rintro ⟨source, generated⟩
    obtain ⟨proxies, declared, _⟩ := proxySource_eq_ok_iff.mp generated
    exact ⟨proxies, declared⟩
  · rintro ⟨proxies, declared⟩
    exact ⟨_, proxySource_eq_ok_iff.mpr ⟨proxies, declared, rfl⟩⟩

/-- There is no output, and no failure, exactly for a file without services. -/
theorem output_eq_ok_none_iff : file.output options = .ok none ↔ file.services = [] := by
  cases services : file.services with
  | nil => simp [ProtoFile.output, services]
  | cons service rest =>
      simp [ProtoFile.output, services, Except.bind_eq_ok_iff, pure, Except.pure]

/-- There is an output exactly for a file with services whose name and content can be made. -/
theorem output_eq_ok_some_iff {output : OutputFile} :
    file.output options = .ok (some output) ↔
      file.services ≠ [] ∧ file.outputName options = .ok output.name ∧
        ∃ source, file.proxySource options = .ok source ∧ source.text = output.content := by
  obtain ⟨name, content⟩ := output
  cases services : file.services with
  | nil => simp [ProtoFile.output, services]
  | cons service rest =>
      simp only [ProtoFile.output, services, List.isEmpty_cons, Bool.false_eq_true, if_false,
        Except.bind_eq_ok_iff, pure, Except.pure, Except.ok.injEq, Option.some.injEq,
        OutputFile.mk.injEq]
      constructor
      · rintro ⟨_, named, source, generated, rfl, written⟩
        exact ⟨by simp, named, source, generated, written⟩
      · rintro ⟨_, named, source, generated, written⟩
        exact ⟨name, named, source, generated, rfl, written⟩

theorem services_ne_nil {source : ProxySource} (generated : file.proxySource options = .ok source)
    (declares : file.services ≠ []) : source.services ≠ [] := by
  obtain ⟨service, rest, services⟩ := List.exists_cons_of_ne_nil declares
  obtain ⟨proxy, member, _⟩ := exists_mem_services generated (services ▸ List.mem_cons_self)
  exact List.ne_nil_of_mem member

end ProtoFile

namespace Run

variable {options : Options} {files : List ProtoFile}

/-- Whether a file is marked for generation and declares a service. -/
def wants (file : ProtoFile) : Bool := file.generate && !file.services.isEmpty

/-- What is returned for a run when some outputs have been counted before. -/
def tally (run : Run) (count : Nat) : Except GenerationError Nat :=
  match run.failure with
  | none => .ok (count + run.outputs.length)
  | some error => .error error

private theorem ofOutcome_collected (front : List OutputFile) (run : Run) (count : Nat) :
    ofOutcome (run.outputs.foldl (fun outputs output => outputs ++ [output]) front,
      run.tally count) = ⟨front ++ run.outputs, run.failure⟩ := by
  have collected (outputs : List OutputFile) :
      outputs.foldl (fun outputs output => outputs ++ [output]) front = front ++ outputs := by
    induction outputs using List.reverseRecOn <;> simp [*]
  rw [collected, tally]
  cases failure : run.failure <;> rfl

/-- Every sink takes the outputs that a list collects. -/
theorem handOver_eq {σ : Type} (take : σ → OutputFile → σ) (count : Nat) (sink : σ) :
    handOver take options count sink files =
      ((ofFiles options files).outputs.foldl take sink, (ofFiles options files).tally count) := by
  induction files generalizing σ take count sink with
  | nil => rfl
  | cons file rest induction =>
      rw [handOver, ofFiles, generateInto, handOver]
      split
      · cases file.output options with
        | error error => rfl
        | ok output =>
            cases output with
            | none => simp only [induction, ofOutcome_collected, List.nil_append]
            | some output =>
                simp only [induction, ofOutcome_collected, List.nil_append, List.singleton_append,
                  List.foldl_cons]
                simp only [tally, List.length_cons, Nat.add_assoc, Nat.add_comm 1]
      · simp only [induction, ofOutcome_collected, List.nil_append]

@[simp] theorem ofFiles_nil : ofFiles options [] = ⟨[], none⟩ := rfl

theorem ofFiles_cons (options : Options) (file : ProtoFile) (rest : List ProtoFile) :
    ofFiles options (file :: rest) =
      if file.generate then
        match file.output options with
        | .error error => ⟨[], some error⟩
        | .ok none => ofFiles options rest
        | .ok (some output) =>
          ⟨output :: (ofFiles options rest).outputs, (ofFiles options rest).failure⟩
      else ofFiles options rest := by
  rw [ofFiles, generateInto, handOver]
  split
  · cases file.output options with
    | error error => rfl
    | ok output =>
        cases output with
        | none => simp only [handOver_eq, ofOutcome_collected, List.nil_append]
        | some output =>
            simp only [handOver_eq, ofOutcome_collected, List.nil_append, List.singleton_append]
  · simp only [handOver_eq, ofOutcome_collected, List.nil_append]

theorem result_eq_ok_iff {run : Run} {outputs : List OutputFile} :
    run.result = .ok outputs ↔ run.failure = none ∧ run.outputs = outputs := by
  rw [result]
  cases run.failure <;> simp

private theorem result_cons_eq_ok_iff {output : OutputFile} {run : Run}
    {outputs : List OutputFile} :
    (Run.mk (output :: run.outputs) run.failure).result = .ok outputs ↔
      ∃ later, run.result = .ok later ∧ outputs = output :: later := by
  cases failure : run.failure <;> simp [result, failure, eq_comm]

private theorem result_cons_eq_error_iff {output : OutputFile} {run : Run}
    {error : GenerationError} :
    (Run.mk (output :: run.outputs) run.failure).result = .error error ↔
      run.result = .error error := by
  cases failure : run.failure <;> simp [result, failure]

/-- A run without failure has one output for each marked file with services, in their order. -/
theorem result_ofFiles_eq_ok_iff {outputs : List OutputFile} :
    (ofFiles options files).result = .ok outputs ↔
      List.Forall₂ (fun file output => ProtoFile.output file options = .ok (some output))
        (files.filter wants) outputs := by
  induction files generalizing outputs with
  | nil => cases outputs <;> simp [result]
  | cons file rest induction =>
      rw [ofFiles_cons]
      split
      · rename_i marked
        cases written : file.output options with
        | error error =>
            have wanted : wants file = true := by
              cases services : file.services with
              | nil => simp [ProtoFile.output_eq_ok_none_iff.mpr services] at written
              | cons => simp [wants, marked, services]
            simp [result, List.filter_cons_of_pos wanted, List.forall₂_cons_left_iff, written]
        | ok output =>
            cases output with
            | none =>
                have unwanted : ¬wants file = true := by
                  simp [wants, ProtoFile.output_eq_ok_none_iff.mp written]
                simp only [List.filter_cons_of_neg unwanted, induction]
            | some output =>
                have wanted : wants file = true := by
                  simp [wants, marked, (ProtoFile.output_eq_ok_some_iff.mp written).1]
                simp only [result_cons_eq_ok_iff, induction, List.filter_cons_of_pos wanted,
                  List.forall₂_cons_left_iff, written, Except.ok.injEq, Option.some.injEq,
                  exists_and_left, exists_eq_left']
      · rename_i unmarked
        have unwanted : ¬wants file = true := by simp [wants, unmarked]
        rw [List.filter_cons_of_neg unwanted, induction]

/-- A run fails as the first of the marked files that does. -/
theorem result_ofFiles_eq_error_iff {failure : GenerationError} :
    (ofFiles options files).result = .error failure ↔
      Except.FirstFailure (fun file => ProtoFile.output file options)
        (files.filter (·.generate)) failure := by
  induction files with
  | nil => simp [result]
  | cons file rest induction =>
      rw [ofFiles_cons]
      split
      · rename_i marked
        rw [List.filter_cons_of_pos marked, Except.firstFailure_cons_iff, ← induction]
        cases written : file.output options with
        | error error => simp [result]
        | ok output =>
            cases output with
            | none => simp
            | some output => simp [result_cons_eq_error_iff]
      · rename_i unmarked
        rw [List.filter_cons_of_neg unmarked, induction]

end Run

end RpcProxy

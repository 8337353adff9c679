import RpcProxy.Proofs.Registry
import RpcProxy.Signature

/-!
# Laws of signatures

Which messages and streams a signature refers to depends on the streaming flags of its method alone.
The signatures of a service exist exactly if its methods have different names, and their list does
not depend on the order of the methods.
-/

namespace RpcProxy

/-- The messages whose names stand in the Go signature of a method. -/
inductive Method.Spells (method : Method) : Message → Prop
  | input : method.clientStreaming = false → method.Spells method.input
  | output : method.clientStreaming = false → method.serverStreaming = false →
      method.Spells method.output

theorem Method.mem_spelled_iff {method : Method} {message : Message} :
    message ∈ method.spelled ↔ method.Spells message := by
  constructor
  · intro member
    cases client : method.clientStreaming <;> cases server : method.serverStreaming <;>
      simp only [spelled, shape, client, server, if_true, if_false, Bool.false_eq_true,
        List.mem_cons, List.not_mem_nil, or_false] at member
    · rcases member with rfl | rfl
      · exact .input client
      · exact .output client server
    · exact member ▸ .input client
  · intro spells
    cases spells with
    | input client =>
        cases server : method.serverStreaming <;> simp [spelled, shape, client, server]
    | output client server => simp [spelled, shape, client, server]

@[simp] theorem GoType.reference_plain (reference : Reference) :
    (GoType.plain reference).reference = reference := rfl

@[simp] theorem GoType.reference_pointer (reference : Reference) :
    (GoType.pointer reference).reference = reference := rfl

namespace Signature

/-- The references in the parameters and results of a signature. -/
def references (signature : Signature) : List Reference :=
  signature.parameters.map (·.2.reference) ++ signature.results.map (·.reference)

def streamIdentifier (service : Identifier) (method : Method) : Identifier where
  name := service.name ++ "_" ++ method.name ++ "Server"
  importPath := service.importPath

/-- A signature refers to the call context if its method is unary, to the spelled messages, to the
stream type unless the method is unary, and to the type of errors. -/
theorem mem_references_ofMethod_iff {scope : Scope} {service : Identifier} {method : Method}
    {reference : Reference} :
    reference ∈ (ofMethod scope service method).references ↔
      (method.isUnary = true ∧ reference = GoType.context.reference) ∨
      (∃ message, method.Spells message ∧ reference = scope.typeOf message) ∨
      (method.isUnary = false ∧ reference = scope.refer (streamIdentifier service method)) ∨
      reference = GoType.error.reference := by
  simp only [← Method.mem_spelled_iff]
  cases client : method.clientStreaming <;> cases server : method.serverStreaming <;>
    simp [references, ofMethod, Method.isUnary, Method.spelled, Method.shape, client, server,
      streamOf, streamIdentifier, or_assoc]

end Signature

private theorem firstRepeated?_eq_none_iff {seen names : List String} :
    firstRepeated? seen names = none ↔ names.Nodup ∧ ∀ name ∈ names, name ∉ seen := by
  induction names generalizing seen with
  | nil => simp [firstRepeated?]
  | cons name rest induction =>
      rw [firstRepeated?]
      split
      · rename_i repeated
        rw [List.contains_iff_mem] at repeated
        simp [repeated]
      · rename_i new
        rw [List.contains_iff_mem] at new
        rw [induction, List.nodup_cons]
        constructor
        · rintro ⟨distinct, others⟩
          refine ⟨⟨fun later => others name later List.mem_cons_self, distinct⟩, ?_⟩
          intro other member
          rcases List.mem_cons.mp member with rfl | later
          · exact new
          · exact fun before => others other later (List.mem_cons_of_mem _ before)
        · rintro ⟨⟨notLater, distinct⟩, others⟩
          refine ⟨distinct, fun other later before => ?_⟩
          rcases List.mem_cons.mp before with rfl | before
          · exact notLater later
          · exact others other (List.mem_cons_of_mem _ later) before

private theorem firstRepeated?_append {seen before : List String}
    (new : firstRepeated? seen before = none) (rest : List String) :
    firstRepeated? seen (before ++ rest) = firstRepeated? (before.reverse ++ seen) rest := by
  induction before generalizing seen with
  | nil => rfl
  | cons name before induction =>
      rw [firstRepeated?] at new
      rw [List.cons_append, firstRepeated?]
      split at new
      · simp at new
      · rename_i unseen
        rw [if_neg unseen, induction new, List.reverse_cons, List.append_assoc,
          List.singleton_append]

private theorem exists_of_firstRepeated?_eq_some {seen names : List String} {name : String}
    (found : firstRepeated? seen names = some name) :
    ∃ before after, names = before ++ name :: after ∧ firstRepeated? seen before = none ∧
      name ∈ before.reverse ++ seen := by
  induction names generalizing seen with
  | nil => simp [firstRepeated?] at found
  | cons first rest induction =>
      rw [firstRepeated?] at found
      split at found
      · rename_i repeated
        obtain rfl := Option.some.inj found
        exact ⟨[], rest, rfl, rfl, List.contains_iff_mem.mp repeated⟩
      · rename_i unseen
        obtain ⟨before, after, rfl, new, member⟩ := induction found
        refine ⟨first :: before, after, rfl, ?_, ?_⟩
        · rw [firstRepeated?, if_neg unseen, new]
        · simpa using member

/-- The first name that has occurred before stands behind different names of which it is one. -/
theorem firstRepeated?_eq_some_iff {names : List String} {name : String} :
    firstRepeated? [] names = some name ↔
      ∃ before after, names = before ++ name :: after ∧ before.Nodup ∧ name ∈ before := by
  constructor
  · intro found
    obtain ⟨before, after, split, new, member⟩ := exists_of_firstRepeated?_eq_some found
    exact ⟨before, after, split, (firstRepeated?_eq_none_iff.mp new).1, by simpa using member⟩
  · rintro ⟨before, after, rfl, distinct, member⟩
    have new : firstRepeated? [] before = none := firstRepeated?_eq_none_iff.mpr ⟨distinct, by simp⟩
    rw [firstRepeated?_append new, firstRepeated?, if_pos (by simpa using member)]

namespace Service

variable {service other : Service} {scope : Scope} {ident : Identifier}

def methodNames (service : Service) : List String := service.methods.map (·.name)

/-- The signature of each method, bound to the name of the method. -/
def namedSignatures (service : Service) (scope : Scope) (ident : Identifier) :
    List (String × Signature) :=
  service.methods.map fun method => (method.name, Signature.ofMethod scope ident method)

private theorem map_fst_namedSignatures (scope : Scope) (ident : Identifier) :
    (service.namedSignatures scope ident).map (·.1) = service.methodNames := by
  simp [namedSignatures, methodNames, Function.comp_def]

/-- There are signatures exactly for methods of different names. -/
theorem signatures_eq_ok_iff {signatures : List Signature} :
    service.signatures scope ident = .ok signatures ↔
      service.methodNames.Nodup ∧
        signatures = (Registry.ofList (service.namedSignatures scope ident)).values := by
  have distinct : firstRepeated? [] (service.methods.map (·.name)) = none ↔
      service.methodNames.Nodup := by
    simp [firstRepeated?_eq_none_iff, methodNames]
  rw [Service.signatures, ← distinct]
  cases firstRepeated? [] (service.methods.map (·.name)) with
  | some method => simp
  | none => simp [namedSignatures, eq_comm]

theorem mem_signatures_iff {signatures : List Signature}
    (result : service.signatures scope ident = .ok signatures) {signature : Signature} :
    signature ∈ signatures ↔
      ∃ method ∈ service.methods, Signature.ofMethod scope ident method = signature := by
  obtain ⟨distinct, rfl⟩ := signatures_eq_ok_iff.mp result
  rw [← map_fst_namedSignatures scope ident] at distinct
  simp only [Registry.mem_values_iff, Registry.find?_ofList_eq_some_iff distinct]
  constructor
  · rintro ⟨name, member⟩
    obtain ⟨method, inService, equal⟩ := List.mem_map.mp member
    exact ⟨method, inService, (Prod.mk.inj equal).2⟩
  · rintro ⟨method, inService, rfl⟩
    exact ⟨method.name, List.mem_map_of_mem inService⟩

private theorem ascending_of_signatures {signatures : List Signature}
    (result : service.signatures scope ident = .ok signatures) :
    (signatures.map (·.name)).Pairwise (· < ·) := by
  obtain ⟨_, rfl⟩ := signatures_eq_ok_iff.mp result
  have names : (Registry.ofList (service.namedSignatures scope ident)).values.map (·.name) =
      (Registry.ofList (service.namedSignatures scope ident)).entries.map (·.1) := by
    rw [Registry.values, List.map_map]
    refine List.map_congr_left ?_
    rintro ⟨name, signature⟩ member
    have bound := Registry.mem_of_find?_ofList (Registry.find?_eq_some_iff.mpr member)
    obtain ⟨method, _, equal⟩ := List.mem_map.mp bound
    obtain ⟨rfl, rfl⟩ := Prod.mk.inj equal
    rfl
  rw [names, List.pairwise_map]
  exact (Registry.ofList (service.namedSignatures scope ident)).ascending

theorem perm_of_signatures {signatures : List Signature}
    (result : service.signatures scope ident = .ok signatures) :
    signatures.Perm (service.methods.map (Signature.ofMethod scope ident)) := by
  have names : (signatures.map (·.name)).Nodup :=
    (ascending_of_signatures result).imp String.ne_of_lt
  have methodNames :
      ((service.methods.map (Signature.ofMethod scope ident)).map (·.name)).Nodup := by
    rw [List.map_map]
    exact (signatures_eq_ok_iff.mp result).1
  rw [List.perm_ext_iff_of_nodup (.of_map _ names) (.of_map _ methodNames)]
  intro signature
  rw [mem_signatures_iff result, List.mem_map]

/-- The names of the signatures ascend, and they are those of the methods. -/
theorem names_of_signatures {signatures : List Signature}
    (result : service.signatures scope ident = .ok signatures) :
    (signatures.map (·.name)).Pairwise (· < ·) ∧
      (signatures.map (·.name)).Perm service.methodNames := by
  have names := (perm_of_signatures result).map (·.name)
  rw [List.map_map] at names
  exact ⟨ascending_of_signatures result, names⟩

theorem signatures_perm (perm : service.methods.Perm other.methods) {signatures : List Signature}
    (result : service.signatures scope ident = .ok signatures) :
    other.signatures scope ident = .ok signatures := by
  obtain ⟨distinct, rfl⟩ := signatures_eq_ok_iff.mp result
  have namedPerm : (service.namedSignatures scope ident).Perm (other.namedSignatures scope ident) :=
    perm.map _
  refine signatures_eq_ok_iff.mpr ⟨(perm.map _).nodup distinct, ?_⟩
  rw [Registry.ofList_perm namedPerm]
  rwa [map_fst_namedSignatures]

end Service

end RpcProxy

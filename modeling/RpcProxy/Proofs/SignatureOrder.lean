import RpcProxy.Proofs.Bytes
import RpcProxy.Proofs.Signature
import RpcProxy.Response

/-!
# The order of signatures

The signatures of a service are those of its methods, each once, by the bytes of their names. There
are none if a name occurs again, and then the first method whose name has occurred is reported.
-/

namespace RpcProxy.Service

variable {service : Service} {scope : Scope} {ident : Identifier}

/-- There are signatures, or a method is reported whose name is the first to occur again. -/
theorem signatures_eq_error_iff {error : GenerationError} :
    service.signatures scope ident = .error error ↔
      ∃ before method after, service.methods = before ++ method :: after ∧
        (before.map (·.name)).Nodup ∧ method.name ∈ before.map (·.name) ∧
        error = .repeatedMethod service.name method.name := by
  have reported : service.signatures scope ident = .error error ↔
      ∃ name, firstRepeated? [] (service.methods.map (·.name)) = some name ∧
        error = .repeatedMethod service.name name := by
    rw [Service.signatures]
    cases firstRepeated? [] (service.methods.map (·.name)) <;> simp [eq_comm]
  rw [reported]
  simp only [firstRepeated?_eq_some_iff]
  constructor
  · rintro ⟨name, ⟨names, later, split, distinct, member⟩, rfl⟩
    obtain ⟨before, rest, methods, rfl, behind⟩ := List.map_eq_append_iff.mp split
    obtain ⟨method, after, rfl, rfl, rfl⟩ := List.map_eq_cons_iff.mp behind
    exact ⟨before, method, after, methods, distinct, member, rfl⟩
  · rintro ⟨before, method, after, methods, distinct, member, rfl⟩
    exact ⟨method.name, ⟨before.map (·.name), after.map (·.name), by simp [methods], distinct,
      member⟩, rfl⟩

/-- The signatures of a service exist exactly if its methods have different names. They are those of
the methods, each once, with the bytes of their names in strictly ascending order, and the same for
methods in any order. Otherwise the first method whose name occurs before it is reported. -/
theorem signatures_sort_methods (service : Service) (scope : Scope) (ident : Identifier) :
    ((∃ signatures, service.signatures scope ident = .ok signatures) ↔
      (service.methods.map (·.name)).Nodup) ∧
    (∀ signatures, service.signatures scope ident = .ok signatures →
      signatures.Perm (service.methods.map (Signature.ofMethod scope ident)) ∧
      (signatures.Pairwise fun earlier later =>
        Wire.utf8 earlier.name < Wire.utf8 later.name) ∧
      ∀ other : Service, service.methods.Perm other.methods →
        other.signatures scope ident = .ok signatures) ∧
    ∀ error, service.signatures scope ident = .error error ↔
      ∃ before method after, service.methods = before ++ method :: after ∧
        (before.map (·.name)).Nodup ∧ method.name ∈ before.map (·.name) ∧
        error = .repeatedMethod service.name method.name ∧
        (Failure.generation error).message = "Generation error: " ++ ("service " ++ service.name ++
          " declares method " ++ method.name ++ " more than once") := by
  refine ⟨?_, fun signatures result => ⟨perm_of_signatures result, ?_, fun other perm =>
    signatures_perm perm result⟩, fun error => ?_⟩
  · simp only [signatures_eq_ok_iff, exists_and_left, exists_eq, and_true, methodNames]
  · have ascending := (names_of_signatures result).1
    exact (List.pairwise_map.mp ascending).imp Wire.utf8_lt_utf8
  · rw [signatures_eq_error_iff]
    constructor
    · rintro ⟨before, method, after, methods, distinct, member, rfl⟩
      exact ⟨before, method, after, methods, distinct, member, rfl, rfl⟩
    · rintro ⟨before, method, after, methods, distinct, member, rfl, _⟩
      exact ⟨before, method, after, methods, distinct, member, rfl⟩

/-- A service of methods of the given names that take and return books. -/
def shelf (names : List String) : Service :=
  let book : Message := ⟨"shelf.Book", ⟨"Book", "example.com/shelf"⟩, "shelf"⟩
  ⟨"Shelf", names.map fun name => ⟨name, book, book, false, false⟩⟩

/-- The scope of the package of books. -/
def shelfScope : Scope := ⟨"example.com/shelf", .empty⟩

theorem signatures_sort_methods_shelf :
    (∃ signatures,
      (shelf ["Put", "Drop", "Get"]).signatures shelfScope ⟨"Shelf", "example.com/shelf"⟩ =
        .ok signatures ∧
      signatures.length = 3 ∧
      (shelf ["Get", "Put", "Drop"]).signatures shelfScope ⟨"Shelf", "example.com/shelf"⟩ =
        .ok signatures) ∧
    (shelf ["Put", "Drop", "Get", "Drop", "Put"]).signatures shelfScope
      ⟨"Shelf", "example.com/shelf"⟩ = .error (.repeatedMethod "Shelf" "Drop") := by
  obtain ⟨succeeds, sorts, _⟩ := signatures_sort_methods (shelf ["Put", "Drop", "Get"]) shelfScope
    ⟨"Shelf", "example.com/shelf"⟩
  obtain ⟨_, _, fails⟩ := signatures_sort_methods (shelf ["Put", "Drop", "Get", "Drop", "Put"])
    shelfScope ⟨"Shelf", "example.com/shelf"⟩
  obtain ⟨signatures, result⟩ := succeeds.mpr (by decide)
  obtain ⟨perm, _, reordered⟩ := sorts signatures result
  refine ⟨⟨signatures, result, perm.length_eq, reordered (shelf ["Get", "Put", "Drop"]) ?_⟩,
    (fails _).mpr ?_⟩
  · decide
  · exact ⟨(shelf ["Put", "Drop", "Get"]).methods, _, (shelf ["Put"]).methods, rfl, by decide,
      by decide, rfl, rfl⟩

end RpcProxy.Service

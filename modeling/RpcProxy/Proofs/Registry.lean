import Mathlib.Data.List.Induction
import Mathlib.Data.List.Nodup
import RpcProxy.Registry

/-!
# Laws of registries

A registry is determined by what it finds under each name. Binding a name changes what is found
under this name alone, so the registry of a list finds the last binding of every name and forgets
the order of a list that binds no name twice.
-/

namespace RpcProxy.Registry

variable {α : Type}

private theorem find?_entries_eq_some_iff {name : String} {value : α} {entries : List (String × α)}
    (ascending : entries.Pairwise fun earlier later => earlier.1 < later.1) :
    (entries.find? fun entry => entry.1 == name).map (·.2) = some value ↔
      (name, value) ∈ entries := by
  induction entries with
  | nil => simp
  | cons head rest induction =>
      have after := (List.pairwise_cons.mp ascending).1
      by_cases here : head.1 = name
      · have notLater : (name, value) ∉ rest := by
          intro later
          have less := after _ later
          rw [here] at less
          exact absurd less (String.lt_irrefl name)
        simp [here, notLater, Prod.ext_iff, eq_comm]
      · have notHead : (name, value) ≠ head := fun equal => here (equal ▸ rfl)
        simp [here, notHead, induction (List.pairwise_cons.mp ascending).2]

theorem find?_eq_some_iff {registry : Registry α} {name : String} {value : α} :
    registry.find? name = some value ↔ (name, value) ∈ registry.entries :=
  find?_entries_eq_some_iff registry.ascending

theorem isSome_find?_iff {registry : Registry α} {name : String} :
    (registry.find? name).isSome ↔ name ∈ registry.entries.map (·.1) := by
  simp only [Option.isSome_iff_exists, find?_eq_some_iff, List.mem_map, Prod.exists]
  exact ⟨fun ⟨value, member⟩ => ⟨name, value, member, rfl⟩, fun ⟨_, value, member, same⟩ =>
    ⟨value, same ▸ member⟩⟩

/-- The value of a name is that of its first entry. -/
theorem lookup_entries (registry : Registry α) (name : String) :
    registry.entries.lookup name = registry.find? name := by
  rw [find?]
  induction registry.entries with
  | nil => rfl
  | cons entry rest induction =>
      rw [List.lookup_cons, List.find?_cons, BEq.comm, induction]
      cases entry.1 == name <;> rfl

@[simp] theorem find?_empty (name : String) : (empty : Registry α).find? name = none := rfl

theorem binds_eq_isSome (registry : Registry α) (name : String) :
    registry.binds name = (registry.find? name).isSome := by
  simp only [binds, find?, Option.isSome_map, List.isSome_find?]

theorem mem_values_iff {registry : Registry α} {value : α} :
    value ∈ registry.values ↔ ∃ name, registry.find? name = some value := by
  simp only [find?_eq_some_iff, values, List.mem_map, Prod.exists, exists_eq_right]

private theorem eq_of_mem_iff {left right : List (String × α)}
    (leftAscending : left.Pairwise fun earlier later => earlier.1 < later.1)
    (rightAscending : right.Pairwise fun earlier later => earlier.1 < later.1)
    (members : ∀ entry, entry ∈ left ↔ entry ∈ right) : left = right := by
  have nodup {entries : List (String × α)}
      (ascending : entries.Pairwise fun earlier later => earlier.1 < later.1) : entries.Nodup := by
    refine ascending.imp ?_
    rintro earlier later less rfl
    exact String.lt_irrefl earlier.1 less
  have perm :=
    (List.perm_ext_iff_of_nodup (nodup leftAscending) (nodup rightAscending)).mpr members
  exact perm.eq_of_pairwise (fun _ _ _ _ less greater => absurd greater (String.lt_asymm less))
    leftAscending rightAscending

/-- Registries that find the same values up to a view have the same bindings up to this view. -/
theorem map_entries_eq {β : Type} {left right : Registry α} (view : α → β)
    (same : ∀ name, (left.find? name).map view = (right.find? name).map view) :
    (left.entries.map fun entry => (entry.1, view entry.2)) =
      right.entries.map fun entry => (entry.1, view entry.2) := by
  have mem_iff (registry : Registry α) (name : String) (value : β) :
      (name, value) ∈ registry.entries.map (fun entry => (entry.1, view entry.2)) ↔
        (registry.find? name).map view = some value := by
    simp only [List.mem_map, Option.map_eq_some_iff, find?_eq_some_iff, Prod.exists, Prod.mk.injEq]
    exact ⟨fun ⟨_, found, member, here, viewed⟩ => ⟨found, here ▸ member, viewed⟩,
      fun ⟨found, member, viewed⟩ => ⟨name, found, member, rfl, viewed⟩⟩
  refine eq_of_mem_iff (List.pairwise_map.mpr left.ascending)
    (List.pairwise_map.mpr right.ascending) ?_
  rintro ⟨name, value⟩
  rw [mem_iff, mem_iff, same]

theorem ext_find? {left right : Registry α} (same : ∀ name, left.find? name = right.find? name) :
    left = right := by
  have equal : left.entries = right.entries := by
    refine eq_of_mem_iff left.ascending right.ascending ?_
    rintro ⟨name, value⟩
    rw [← find?_eq_some_iff, ← find?_eq_some_iff, same name]
  cases left
  cases right
  simpa using equal

/-- Binding a name changes what is found under this name alone. -/
theorem find?_insert (registry : Registry α) (name other : String) (value : α) :
    (registry.insert name value).find? other =
      if other = name then some value else registry.find? other := by
  apply Option.ext
  intro found
  rw [find?_eq_some_iff]
  change (other, found) ∈ insertEntry name value registry.entries ↔ _
  rw [mem_insertEntry_iff registry.ascending]
  by_cases same : other = name
  · simp [same, eq_comm]
  · simp [same, find?_eq_some_iff]

def erase (registry : Registry α) (name : String) : Registry α :=
  ⟨registry.entries.filter fun entry => entry.1 ≠ name, registry.ascending.filter _⟩

/-- Freeing a name changes what is found under this name alone. -/
theorem find?_erase (registry : Registry α) (name other : String) :
    (registry.erase name).find? other = if other = name then none else registry.find? other := by
  apply Option.ext
  intro found
  rw [find?_eq_some_iff]
  change (other, found) ∈ registry.entries.filter _ ↔ _
  rw [List.mem_filter]
  by_cases same : other = name
  · simp [same]
  · simp [same, find?_eq_some_iff]

@[simp] theorem ofList_nil : ofList ([] : List (String × α)) = empty := rfl

theorem ofList_concat (entries : List (String × α)) (entry : String × α) :
    ofList (entries ++ [entry]) = (ofList entries).insert entry.1 entry.2 := by
  simp [ofList]

/-- The registry of a list finds the last binding of a name. -/
theorem find?_ofList (entries : List (String × α)) (name : String) :
    (ofList entries).find? name =
      (entries.reverse.find? fun entry => entry.1 == name).map (·.2) := by
  induction entries using List.reverseRecOn with
  | nil => rfl
  | append_singleton entries last induction =>
      rw [ofList_concat, find?_insert, List.reverse_append, List.reverse_singleton,
        List.singleton_append, List.find?_cons]
      by_cases same : name = last.1
      · simp [same]
      · have differs : (last.1 == name) = false := beq_eq_false_iff_ne.mpr (Ne.symm same)
        simp [same, differs, induction]

theorem isSome_find?_ofList (entries : List (String × α)) (name : String) :
    ((ofList entries).find? name).isSome ↔ ∃ value, (name, value) ∈ entries := by
  rw [find?_ofList, Option.isSome_map, List.isSome_find?, List.any_reverse, List.any_eq_true]
  constructor
  · rintro ⟨⟨other, value⟩, member, same⟩
    exact ⟨value, by simpa [← eq_of_beq same] using member⟩
  · rintro ⟨value, member⟩
    exact ⟨(name, value), member, by simp⟩

theorem mem_of_find?_ofList {entries : List (String × α)} {name : String} {value : α}
    (found : (ofList entries).find? name = some value) : (name, value) ∈ entries := by
  rw [find?_ofList] at found
  obtain ⟨entry, here, rfl⟩ := Option.map_eq_some_iff.mp found
  have member := List.mem_reverse.mp (List.mem_of_find?_eq_some here)
  have same : entry.1 = name := by simpa using List.find?_some here
  rwa [← same]

/-- A list that binds no name twice is the same as its registry. -/
theorem find?_ofList_eq_some_iff {entries : List (String × α)}
    (distinct : (entries.map (·.1)).Nodup) {name : String} {value : α} :
    (ofList entries).find? name = some value ↔ (name, value) ∈ entries := by
  refine ⟨mem_of_find?_ofList, fun member => ?_⟩
  obtain ⟨other, found⟩ :=
    Option.isSome_iff_exists.mp ((isSome_find?_ofList entries name).mpr ⟨value, member⟩)
  have equal := List.inj_on_of_nodup_map distinct (mem_of_find?_ofList found) member rfl
  rw [found, (Prod.mk.inj equal).2]

/-- The order of a list that binds no name twice does not matter. -/
theorem ofList_perm {entries others : List (String × α)} (perm : entries.Perm others)
    (distinct : (entries.map (·.1)).Nodup) : ofList entries = ofList others := by
  apply ext_find?
  intro name
  apply Option.ext
  intro value
  rw [find?_ofList_eq_some_iff distinct,
    find?_ofList_eq_some_iff ((perm.map (·.1)).nodup distinct), perm.mem_iff]

end RpcProxy.Registry

/-!
# Registries

A registry binds names to values and lists its bindings in ascending order of the names. The order
is part of the type, so that two registries with the same bindings are equal and every listing made
from one is sorted. A name bound again keeps its place and takes the new value.
-/

namespace RpcProxy

/-- A finite map from names, listed in strictly ascending order of the names. -/
structure Registry (α : Type) where
  /-- The bindings in order. -/
  entries : List (String × α)
  /-- Names ascend strictly, hence none is bound twice. -/
  ascending : entries.Pairwise fun earlier later => earlier.1 < later.1
deriving DecidableEq

namespace Registry

variable {α : Type}

/-- Puts a binding into its place in an ascending list, over an older binding of the name. -/
def insertEntry (name : String) (value : α) : List (String × α) → List (String × α)
  | [] => [(name, value)]
  | entry :: rest =>
    if name < entry.1 then (name, value) :: entry :: rest
    else if name = entry.1 then (name, value) :: rest
    else entry :: insertEntry name value rest

theorem fst_mem_insertEntry {name : String} {value : α} {entry : String × α} :
    ∀ {entries : List (String × α)}, entry ∈ insertEntry name value entries →
      entry.1 = name ∨ entry ∈ entries
  | [], hmem => by
    rw [insertEntry, List.mem_singleton] at hmem
    exact .inl (by rw [hmem])
  | head :: rest, hmem => by
    rw [insertEntry] at hmem
    split at hmem
    · rcases List.mem_cons.mp hmem with rfl | hrest
      · exact .inl rfl
      · exact .inr hrest
    · split at hmem
      · rcases List.mem_cons.mp hmem with rfl | hrest
        · exact .inl rfl
        · exact .inr (List.mem_cons_of_mem _ hrest)
      · rcases List.mem_cons.mp hmem with rfl | hrest
        · exact .inr List.mem_cons_self
        · exact (fst_mem_insertEntry hrest).imp_right (List.mem_cons_of_mem _)

theorem ascending_insertEntry (name : String) (value : α) :
    ∀ {entries : List (String × α)},
      (entries.Pairwise fun earlier later => earlier.1 < later.1) →
      (insertEntry name value entries).Pairwise fun earlier later => earlier.1 < later.1
  | [], _ => List.pairwise_singleton _ _
  | head :: rest, hsorted => by
    have hhead := (List.pairwise_cons.mp hsorted).1
    have hrest := (List.pairwise_cons.mp hsorted).2
    rw [insertEntry]
    split
    · rename_i hlt
      refine List.pairwise_cons.mpr ⟨fun entry hentry => ?_, hsorted⟩
      rcases List.mem_cons.mp hentry with rfl | hentry
      · exact hlt
      · exact String.lt_trans hlt (hhead entry hentry)
    · split
      · rename_i heq
        exact List.pairwise_cons.mpr ⟨fun entry hentry => heq ▸ hhead entry hentry, hrest⟩
      · rename_i hnlt hne
        refine List.pairwise_cons.mpr
          ⟨fun entry hentry => ?_, ascending_insertEntry name value hrest⟩
        rcases fst_mem_insertEntry hentry with hname | hmem
        · rw [hname]
          exact String.not_le.mp fun hle => hne (String.le_antisymm hle (String.not_lt.mp hnlt))
        · exact hhead entry hmem

/-- A binding put into its place replaces the older one of its name and leaves the others. -/
theorem mem_insertEntry_iff {name : String} {value : α} {entry : String × α} :
    ∀ {entries : List (String × α)},
      (entries.Pairwise fun earlier later => earlier.1 < later.1) →
      (entry ∈ insertEntry name value entries ↔
        entry = (name, value) ∨ (entry ∈ entries ∧ entry.1 ≠ name))
  | [], _ => by simp [insertEntry]
  | head :: rest, hsorted => by
    have hhead := (List.pairwise_cons.mp hsorted).1
    have hrest := (List.pairwise_cons.mp hsorted).2
    rw [insertEntry]
    split
    · rename_i hlt
      have hothers : ∀ other ∈ head :: rest, other.1 ≠ name := by
        intro other hmem
        rcases List.mem_cons.mp hmem with rfl | hlater
        · exact fun heq => String.lt_irrefl name (heq ▸ hlt)
        · have hbehind := String.lt_trans hlt (hhead other hlater)
          exact fun heq => String.lt_irrefl name (heq ▸ hbehind)
      rw [List.mem_cons]
      exact or_congr_right ⟨fun hmem => ⟨hmem, hothers entry hmem⟩, And.left⟩
    · split
      · rename_i heq
        have hothers : ∀ other ∈ rest, other.1 ≠ name := by
          intro other hlater
          have hbehind := hhead other hlater
          rw [← heq] at hbehind
          exact fun hsame => String.lt_irrefl name (hsame ▸ hbehind)
        rw [List.mem_cons]
        refine or_congr_right
          ⟨fun hlater => ⟨List.mem_cons_of_mem _ hlater, hothers entry hlater⟩, ?_⟩
        rintro ⟨hmem, hdiffers⟩
        rcases List.mem_cons.mp hmem with rfl | hlater
        · exact absurd heq.symm hdiffers
        · exact hlater
      · rename_i hdiffers
        have hheadDiffers : entry = head → entry.1 ≠ name := by
          rintro rfl heq
          exact hdiffers heq.symm
        rw [List.mem_cons, mem_insertEntry_iff hrest, List.mem_cons]
        constructor
        · rintro (hhere | hnew | ⟨hlater, hother⟩)
          · exact .inr ⟨.inl hhere, hheadDiffers hhere⟩
          · exact .inl hnew
          · exact .inr ⟨.inr hlater, hother⟩
        · rintro (hnew | ⟨hhere | hlater, hother⟩)
          · exact .inr (.inl hnew)
          · exact .inl hhere
          · exact .inr (.inr ⟨hlater, hother⟩)

def empty : Registry α := ⟨[], .nil⟩

instance : EmptyCollection (Registry α) := ⟨empty⟩

/-- Binds a name to a value, in place of its older value. -/
def insert (registry : Registry α) (name : String) (value : α) : Registry α :=
  ⟨insertEntry name value registry.entries, ascending_insertEntry name value registry.ascending⟩

def find? (registry : Registry α) (name : String) : Option α :=
  (registry.entries.find? fun entry => entry.1 == name).map (·.2)

def binds (registry : Registry α) (name : String) : Bool :=
  registry.entries.any fun entry => entry.1 == name

def names (registry : Registry α) : List String := registry.entries.map (·.1)

/-- The values in order of their names. -/
def values (registry : Registry α) : List α := registry.entries.map (·.2)

theorem mem_names_insert_iff {registry : Registry α} {name other : String} {value : α} :
    other ∈ (registry.insert name value).names ↔ other = name ∨ other ∈ registry.names := by
  simp only [names, insert, List.mem_map, mem_insertEntry_iff registry.ascending]
  constructor
  · rintro ⟨entry, rfl | ⟨hmem, _⟩, rfl⟩
    · exact .inl rfl
    · exact .inr ⟨entry, hmem, rfl⟩
  · intro hother
    by_cases hname : other = name
    · exact ⟨(name, value), .inl rfl, hname.symm⟩
    · obtain ⟨entry, hmem, rfl⟩ := hother.resolve_left hname
      exact ⟨entry, .inr ⟨hmem, hname⟩, rfl⟩

theorem mem_values_insert_iff {registry : Registry α} {name : String} {value other : α}
    (hunbound : registry.binds name = false) :
    other ∈ (registry.insert name value).values ↔ other = value ∨ other ∈ registry.values := by
  have hfree : ∀ entry ∈ registry.entries, entry.1 ≠ name := by
    simpa [binds] using hunbound
  simp only [values, insert, List.mem_map, mem_insertEntry_iff registry.ascending]
  constructor
  · rintro ⟨entry, rfl | ⟨hmem, _⟩, rfl⟩
    · exact .inl rfl
    · exact .inr ⟨entry, hmem, rfl⟩
  · rintro (rfl | ⟨entry, hmem, rfl⟩)
    · exact ⟨(name, other), .inl rfl, rfl⟩
    · exact ⟨entry, .inr ⟨hmem, hfree entry hmem⟩, rfl⟩

/-- The registry of a list of bindings, in which a later binding of a name wins. -/
def ofList (entries : List (String × α)) : Registry α :=
  entries.foldl (fun registry (name, value) => registry.insert name value) empty

end Registry

end RpcProxy

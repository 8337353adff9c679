import RpcProxy.ImportTable
import RpcProxy.Proofs.GoName
import RpcProxy.Proofs.Registry

/-!
# Laws of import tables

A table only ever gives free aliases, so that no two paths share one, and a path keeps the alias it
was given first. Both are invariants of a single request and carry over to any list of requests.
-/

namespace RpcProxy.ImportTable

private theorem numbered_spec (taken : List String) (name : String) (tries number : Nat) :
    ∃ steps ≤ tries, numbered taken name number tries = name ++ toString (number + steps) ∧
      (∀ earlier < steps, name ++ toString (number + earlier) ∈ taken) ∧
      (steps < tries → name ++ toString (number + steps) ∉ taken) := by
  induction tries generalizing number with
  | zero => exact ⟨0, Nat.le_refl 0, rfl, fun _ less => absurd less (Nat.not_lt_zero _), nofun⟩
  | succ tries induction =>
      by_cases used : name ++ toString number ∈ taken
      · obtain ⟨steps, bound, result, before, free⟩ := induction (number + 1)
        refine ⟨steps + 1, by omega, ?_, ?_, ?_⟩
        · simp only [numbered, List.contains_iff_mem, used, if_true, result]
          congr 2
          omega
        · intro earlier less
          cases earlier with
          | zero => exact used
          | succ earlier =>
              simpa [Nat.add_assoc, Nat.add_comm 1] using before earlier (by omega)
        · intro less
          simpa [Nat.add_assoc, Nat.add_comm 1] using free (by omega)
      · refine ⟨0, by omega, ?_, fun _ less => absurd less (Nat.not_lt_zero _), fun _ => used⟩
        simp only [numbered, List.contains_iff_mem, used, if_false, Nat.add_zero]

/-- A free alias is the name itself, or the name with the least number that is not taken. -/
theorem freeAlias_spec (taken : List String) (name : String) :
    (name ∉ taken ∧ freeAlias taken name = name) ∨
      (name ∈ taken ∧ ∃ number ≥ 1, freeAlias taken name = name ++ toString number ∧
        name ++ toString number ∉ taken ∧
        ∀ smaller ≥ 1, smaller < number → name ++ toString smaller ∈ taken) := by
  by_cases used : name ∈ taken
  · right
    obtain ⟨steps, bound, result, before, free⟩ := numbered_spec taken name taken.length 1
    have earlier : ∀ smaller ≥ 1, smaller < 1 + steps → name ++ toString smaller ∈ taken := by
      intro smaller positive less
      have := before (smaller - 1) (by omega)
      rwa [show 1 + (smaller - 1) = smaller by omega] at this
    refine ⟨used, 1 + steps, by omega, by simp [freeAlias, used, result], ?_, earlier⟩
    rcases Nat.lt_or_eq_of_le bound with less | last
    · exact free less
    · -- All candidates and the last one would be one more than there are taken names.
      intro lastUsed
      have candidates : (List.range (taken.length + 1)).map
          (fun position => name ++ toString (position + 1)) ⊆ taken := by
        intro candidate member
        obtain ⟨position, inRange, rfl⟩ := List.mem_map.mp member
        rcases Nat.lt_or_eq_of_le (Nat.lt_succ_iff.mp (List.mem_range.mp inRange)) with less | rfl
        · exact earlier (position + 1) (by omega) (by omega)
        · rwa [last, Nat.add_comm] at lastUsed
      have distinct : ((List.range (taken.length + 1)).map
          fun position => name ++ toString (position + 1)).Nodup :=
        List.nodup_range.map fun _ _ equal =>
          Nat.succ_inj.mp (GoName.numbered_injective name equal)
      have length := distinct.length_le_of_subset candidates
      rw [List.length_map, List.length_range] at length
      omega
  · exact .inl ⟨used, by simp [freeAlias, used]⟩

theorem freeAlias_notMem (taken : List String) (name : String) : freeAlias taken name ∉ taken := by
  rcases freeAlias_spec taken name with ⟨free, result⟩ | ⟨_, number, _, result, free, _⟩ <;>
    rwa [result]

theorem isNameLetter_of_mem_freeAlias (taken : List String) (name : String) {letter : Char}
    (member : letter ∈ (freeAlias taken (GoName.identifier name)).toList) :
    GoName.isNameLetter letter = true := by
  rcases freeAlias_spec taken (GoName.identifier name) with
    ⟨_, result⟩ | ⟨_, number, _, result, _⟩
  · rw [result] at member
    exact GoName.isNameLetter_of_mem_identifier member
  · rw [result] at member
    exact GoName.isNameLetter_of_mem_numbered
      (fun _ inName => GoName.isNameLetter_of_mem_identifier inName) member

@[simp] theorem aliasOf?_empty (path : String) : empty.aliasOf? path = none := rfl

@[simp] theorem taken_empty : empty.taken = [] := rfl

theorem mem_taken_iff {table : ImportTable} {qualifier : String} :
    qualifier ∈ table.taken ↔ ∃ path, table.aliasOf? path = some qualifier :=
  (table.mem_used_iff qualifier).trans Registry.mem_values_iff

theorem ext_aliasOf? {left right : ImportTable}
    (same : ∀ path, left.aliasOf? path = right.aliasOf? path) : left = right := by
  have aliases : left.aliases = right.aliases := Registry.ext_find? same
  have used : left.used = right.used := by
    refine Registry.ext_find? fun qualifier => ?_
    have bound : (left.used.find? qualifier).isSome = (right.used.find? qualifier).isSome := by
      rw [Bool.eq_iff_iff, Registry.isSome_find?_iff, Registry.isSome_find?_iff]
      exact (left.mem_used_iff qualifier).trans (aliases ▸ (right.mem_used_iff qualifier).symm)
    cases inLeft : left.used.find? qualifier <;> cases inRight : right.used.find? qualifier <;>
      simp [inLeft, inRight] at bound ⊢
  cases left
  cases right
  cases aliases
  cases used
  rfl

/-- A request gives a free alias to its path if the path has none, and changes nothing else. -/
theorem aliasOf?_add (table : ImportTable) (path name other : String) :
    (table.add path name).aliasOf? other =
      if other = path ∧ table.aliasOf? path = none then
        some (freeAlias table.taken (GoName.identifier name))
      else table.aliasOf? other := by
  have bound := Registry.binds_eq_isSome table.aliases path
  rw [add, addAs]
  cases found : table.aliases.find? path with
  | some qualifier => simp [aliasOf?, bound, found]
  | none =>
      have unbound : table.aliasOf? path = none := found
      rw [dif_neg (by simp [bound, found])]
      simp only [unbound, and_true]
      exact Registry.find?_insert _ _ _ _

theorem aliasOf?_add_of_bound {table : ImportTable} {path qualifier : String}
    (bound : table.aliasOf? path = some qualifier) (other name : String) :
    (table.add other name).aliasOf? path = some qualifier := by
  rw [aliasOf?_add, if_neg, bound]
  rintro ⟨rfl, unbound⟩
  simp [bound] at unbound

/-- Every alias belongs to one path. -/
def Distinct (table : ImportTable) : Prop :=
  ∀ {left right qualifier : String}, table.aliasOf? left = some qualifier →
    table.aliasOf? right = some qualifier → left = right

theorem distinct_empty : empty.Distinct := by
  intro left right qualifier found
  simp at found

theorem Distinct.add {table : ImportTable} (distinct : table.Distinct) (path name : String) :
    (table.add path name).Distinct := by
  intro left right qualifier foundLeft foundRight
  have new {other : String} (found : table.aliasOf? other =
      some (freeAlias table.taken (GoName.identifier name))) : False :=
    freeAlias_notMem _ _ (mem_taken_iff.mpr ⟨other, found⟩)
  rw [aliasOf?_add] at foundLeft foundRight
  split at foundLeft <;> split at foundRight
  · rename_i isLeft isRight
    rw [isLeft.1, isRight.1]
  · rw [← Option.some.inj foundLeft] at foundRight
    exact (new foundRight).elim
  · rw [← Option.some.inj foundRight] at foundLeft
    exact (new foundLeft).elim
  · exact distinct foundLeft foundRight

/-- Every alias consists of letters that can stand in a name. -/
def Named (table : ImportTable) : Prop :=
  ∀ {path qualifier : String}, table.aliasOf? path = some qualifier →
    ∀ letter ∈ qualifier.toList, GoName.isNameLetter letter = true

theorem named_empty : empty.Named := by
  intro path qualifier found
  simp at found

theorem Named.add {table : ImportTable} (named : table.Named) (path name : String) :
    (table.add path name).Named := by
  intro other qualifier found
  rw [aliasOf?_add] at found
  split at found
  · rw [← Option.some.inj found]
    exact fun letter member => isNameLetter_of_mem_freeAlias table.taken name member
  · exact named found

/-- Imports paths in order, each with the name it comes with. -/
def addAll (table : ImportTable) (requests : List (String × String)) : ImportTable :=
  requests.foldl (fun table (path, name) => table.add path name) table

@[simp] theorem addAll_nil (table : ImportTable) : table.addAll [] = table := rfl

@[simp] theorem addAll_cons (table : ImportTable) (request : String × String)
    (requests : List (String × String)) :
    table.addAll (request :: requests) = (table.add request.1 request.2).addAll requests := rfl

theorem addAll_append (table : ImportTable) (front back : List (String × String)) :
    table.addAll (front ++ back) = (table.addAll front).addAll back := by
  simp [addAll, List.foldl_append]

/-- Of the names that paths come with only the identifiers made of them matter. -/
theorem addAll_congr (table : ImportTable) {left right : List (String × String)}
    (same : (left.map fun request => (request.1, GoName.identifier request.2)) =
      right.map fun request => (request.1, GoName.identifier request.2)) :
    table.addAll left = table.addAll right := by
  have folded (requests : List (String × String)) :
      table.addAll requests =
        (requests.map fun request => (request.1, GoName.identifier request.2)).foldl
          (fun table (path, identifier) => table.addAs path identifier) table := by
    rw [List.foldl_map]
    rfl
  rw [folded, folded, same]

/-- What every request preserves, every list of requests preserves. -/
theorem addAll_preserves (holds : ImportTable → Prop)
    (preserved : ∀ table, holds table → ∀ path name, holds (table.add path name))
    {table : ImportTable} (initial : holds table) (requests : List (String × String)) :
    holds (table.addAll requests) := by
  induction requests generalizing table with
  | nil => exact initial
  | cons request requests induction => exact induction (preserved table initial _ _)

theorem aliasOf?_addAll_of_bound {table : ImportTable} {path qualifier : String}
    (bound : table.aliasOf? path = some qualifier) (requests : List (String × String)) :
    (table.addAll requests).aliasOf? path = some qualifier :=
  addAll_preserves (fun table => table.aliasOf? path = some qualifier)
    (fun _ bound other name => aliasOf?_add_of_bound bound other name) bound requests

theorem distinct_addAll (requests : List (String × String)) : (empty.addAll requests).Distinct :=
  addAll_preserves Distinct (fun _ distinct => distinct.add) distinct_empty requests

theorem named_addAll (requests : List (String × String)) : (empty.addAll requests).Named :=
  addAll_preserves Named (fun _ named => named.add) named_empty requests

/-- The paths with an alias are those of the table and those that were asked for. -/
theorem isSome_aliasOf?_addAll (table : ImportTable) (requests : List (String × String))
    (path : String) :
    ((table.addAll requests).aliasOf? path).isSome ↔
      (table.aliasOf? path).isSome ∨ path ∈ requests.map (·.1) := by
  induction requests generalizing table with
  | nil => simp
  | cons request requests induction =>
      rw [addAll_cons, induction, aliasOf?_add, List.map_cons, List.mem_cons, ← or_assoc]
      refine or_congr_left ?_
      split
      · rename_i fresh
        simp [fresh.1]
      · rename_i stale
        refine (or_iff_left_of_imp ?_).symm
        rintro rfl
        exact Option.isSome_iff_ne_none.mpr fun unbound => stale ⟨rfl, unbound⟩

private theorem aliasOf?_add_self {table : ImportTable} {path name : String}
    (unbound : table.aliasOf? path = none) (free : GoName.identifier name ∉ table.taken) :
    (table.add path name).aliasOf? path = some (GoName.identifier name) := by
  rw [aliasOf?_add, if_pos ⟨rfl, unbound⟩]
  simp [freeAlias, free]

private theorem free_of_add {table : ImportTable} {path name other : String}
    (unbound : table.aliasOf? path = none) (free : GoName.identifier name ∉ table.taken)
    (otherFree : other ∉ table.taken) (differs : other ≠ GoName.identifier name) :
    other ∉ (table.add path name).taken := by
  intro member
  obtain ⟨bound, found⟩ := mem_taken_iff.mp member
  by_cases same : bound = path
  · rw [same, aliasOf?_add_self unbound free] at found
    exact differs (Option.some.inj found).symm
  · rw [aliasOf?_add, if_neg fun new => same new.1] at found
    exact otherFree (mem_taken_iff.mpr ⟨bound, found⟩)

private theorem aliasOf?_addAll_of_free {table : ImportTable} {requests : List (String × String)}
    (paths : (requests.map (·.1)).Nodup)
    (names : (requests.map fun request => GoName.identifier request.2).Nodup)
    (unbound : ∀ request ∈ requests, table.aliasOf? request.1 = none)
    (free : ∀ request ∈ requests, GoName.identifier request.2 ∉ table.taken)
    {request : String × String} (member : request ∈ requests) :
    (table.addAll requests).aliasOf? request.1 = some (GoName.identifier request.2) := by
  induction requests generalizing table with
  | nil => simp at member
  | cons first rest induction =>
      rw [List.map_cons, List.nodup_cons] at paths names
      have firstUnbound := unbound first List.mem_cons_self
      have firstFree := free first List.mem_cons_self
      rcases List.mem_cons.mp member with rfl | later
      · exact aliasOf?_addAll_of_bound (aliasOf?_add_self firstUnbound firstFree) rest
      · refine induction paths.2 names.2 ?_ ?_ later
        · intro other otherLater
          rw [aliasOf?_add, if_neg, unbound other (List.mem_cons_of_mem _ otherLater)]
          exact fun new => paths.1 (new.1 ▸ List.mem_map_of_mem otherLater)
        · intro other otherLater
          refine free_of_add firstUnbound firstFree
            (free other (List.mem_cons_of_mem _ otherLater)) fun same => ?_
          exact names.1 (List.mem_map.mpr ⟨other, otherLater, same⟩)

/-- Different paths that are asked for with different names, before any other, get these names. -/
theorem aliasOf?_addAll_of_first {requests : List (String × String)}
    (paths : (requests.map (·.1)).Nodup)
    (names : (requests.map fun request => GoName.identifier request.2).Nodup)
    {request : String × String} (member : request ∈ requests) (others : List (String × String)) :
    (empty.addAll (requests ++ others)).aliasOf? request.1 =
      some (GoName.identifier request.2) := by
  rw [addAll_append]
  refine aliasOf?_addAll_of_bound (aliasOf?_addAll_of_free paths names ?_ ?_ member) others
  · exact fun request _ => aliasOf?_empty request.1
  · simp

/-- Whether a text is no name with a number behind it. -/
def Unnumbered (qualifier : String) : Prop :=
  ∀ (name : String) (number : Nat), qualifier ≠ name ++ toString number

/-- A free alias without a number is the name itself. -/
theorem freeAlias_eq_iff {taken : List String} {name qualifier : String}
    (unnumbered : Unnumbered qualifier) (free : qualifier ∉ taken) :
    freeAlias taken name = qualifier ↔ name = qualifier := by
  constructor
  · rintro rfl
    rcases freeAlias_spec taken name with ⟨_, result⟩ | ⟨_, number, _, result, _⟩
    · exact result.symm
    · exact absurd result (unnumbered name number)
  · rintro rfl
    simp [freeAlias, free]

private theorem mem_taken_add_iff {table : ImportTable} {path name qualifier : String}
    (unnumbered : Unnumbered qualifier) :
    qualifier ∈ (table.add path name).taken ↔
      qualifier ∈ table.taken ∨
        (table.aliasOf? path = none ∧ GoName.identifier name = qualifier) := by
  by_cases before : qualifier ∈ table.taken
  · obtain ⟨other, bound⟩ := mem_taken_iff.mp before
    have kept := aliasOf?_add_of_bound bound path name
    exact iff_of_true (mem_taken_iff.mpr ⟨other, kept⟩) (.inl before)
  · have new (other : String) : (table.add path name).aliasOf? other = some qualifier ↔
        (other = path ∧ table.aliasOf? path = none) ∧ GoName.identifier name = qualifier := by
      rw [aliasOf?_add]
      split
      · rename_i fresh
        rw [Option.some.injEq, freeAlias_eq_iff unnumbered before, and_iff_right fresh]
      · rename_i stale
        refine iff_of_false (fun bound => before (mem_taken_iff.mpr ⟨other, bound⟩)) ?_
        exact fun fresh => stale fresh.1
    rw [or_iff_right before, mem_taken_iff]
    simp only [new]
    constructor
    · rintro ⟨_, ⟨_, unbound⟩, same⟩
      exact ⟨unbound, same⟩
    · rintro ⟨unbound, same⟩
      exact ⟨path, ⟨rfl, unbound⟩, same⟩

private theorem aliasOf?_add_eq_none_iff {table : ImportTable} {path name other : String} :
    (table.add path name).aliasOf? other = none ↔ other ≠ path ∧ table.aliasOf? other = none := by
  rw [aliasOf?_add]
  split
  · rename_i fresh
    simp [fresh.1]
  · rename_i stale
    refine (and_iff_right_of_imp ?_).symm
    rintro unbound rfl
    exact stale ⟨rfl, unbound⟩

private theorem mem_taken_addAll_iff_or {table : ImportTable} {requests : List (String × String)}
    {qualifier : String} (unnumbered : Unnumbered qualifier) :
    qualifier ∈ (table.addAll requests).taken ↔
      qualifier ∈ table.taken ∨ ∃ path name, table.aliasOf? path = none ∧
        requests.lookup path = some name ∧ GoName.identifier name = qualifier := by
  induction requests generalizing table with
  | nil => simp
  | cons request rest induction =>
      obtain ⟨first, firstName⟩ := request
      rw [addAll_cons, induction, mem_taken_add_iff unnumbered, or_assoc]
      refine or_congr_right ?_
      simp only [aliasOf?_add_eq_none_iff, List.lookup_cons]
      constructor
      · rintro (⟨unbound, same⟩ | ⟨path, name, ⟨differs, unbound⟩, found, same⟩)
        · exact ⟨first, firstName, unbound, by simp, same⟩
        · exact ⟨path, name, unbound, by rwa [beq_false_of_ne differs], same⟩
      · rintro ⟨path, name, unbound, found, same⟩
        by_cases isFirst : path = first
        · subst isFirst
          obtain rfl : firstName = name := by simpa using found
          exact .inl ⟨unbound, same⟩
        · rw [beq_false_of_ne isFirst] at found
          exact .inr ⟨path, name, ⟨isFirst, unbound⟩, found, same⟩

/-- Among the aliases given for a list of requests, those without a number are the identifiers made
of the names with which paths are asked for first. -/
theorem mem_taken_addAll_iff {requests : List (String × String)} {qualifier : String}
    (unnumbered : Unnumbered qualifier) :
    qualifier ∈ (empty.addAll requests).taken ↔
      ∃ path name, requests.lookup path = some name ∧ GoName.identifier name = qualifier := by
  rw [mem_taken_addAll_iff_or unnumbered]
  simp

theorem mem_imports_iff {table : ImportTable} {line : Import} :
    line ∈ table.imports ↔ table.aliasOf? line.path = some line.qualifier := by
  rw [aliasOf?, Registry.find?_eq_some_iff, imports, List.mem_map]
  constructor
  · rintro ⟨entry, member, rfl⟩
    exact member
  · exact fun member => ⟨(line.path, line.qualifier), member, rfl⟩

theorem mem_map_path_imports_iff {table : ImportTable} {path : String} :
    path ∈ table.imports.map (·.path) ↔ (table.aliasOf? path).isSome := by
  rw [List.mem_map, Option.isSome_iff_exists]
  constructor
  · rintro ⟨line, member, rfl⟩
    exact ⟨line.qualifier, mem_imports_iff.mp member⟩
  · rintro ⟨qualifier, found⟩
    exact ⟨⟨qualifier, path⟩, mem_imports_iff.mpr found, rfl⟩

/-- Tables that give an alias to the same paths list them in one order. -/
theorem map_path_imports_eq {left right : ImportTable}
    (same : ∀ path, (left.aliasOf? path).isSome = (right.aliasOf? path).isSome) :
    left.imports.map (·.path) = right.imports.map (·.path) := by
  have bound (path : String) : (left.aliases.find? path).map (fun _ => ()) =
      (right.aliases.find? path).map fun _ => () := by
    have same := same path
    rw [aliasOf?, aliasOf?] at same
    cases inLeft : left.aliases.find? path <;> cases inRight : right.aliases.find? path <;>
      simp_all
  have entries := Registry.map_entries_eq _ bound
  simpa [imports, Function.comp_def] using congrArg (fun entries => entries.map Prod.fst) entries

theorem pairwise_imports (table : ImportTable) :
    table.imports.Pairwise fun earlier later => earlier.path < later.path := by
  rw [imports, List.pairwise_map]
  exact table.aliases.ascending

theorem Distinct.nodup_qualifiers {table : ImportTable} (distinct : table.Distinct) :
    (table.imports.map (·.qualifier)).Nodup := by
  rw [List.Nodup, List.pairwise_map]
  refine table.pairwise_imports.imp_of_mem fun {earlier later} first second less same => ?_
  rw [mem_imports_iff] at first second
  rw [distinct first (same ▸ second)] at less
  exact String.lt_irrefl _ less

end RpcProxy.ImportTable

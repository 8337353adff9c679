import RpcProxy.Proofs.ImportTable

/-!
# Runs of import calls

A table is filled by calls that name a package or leave the name to its path. Whatever the calls,
every path called for has one alias, the one it got first, and no other path has it. The alias is
the name as an identifier, or the first numbered form of it that no path has.
-/

namespace RpcProxy.ImportTable

inductive Call
  /-- The package of a path, under a name. -/
  | add (path name : String)
  /-- The package of a path, under the last element of the path. -/
  | addPath (path : String)

namespace Call

def path : Call → String
  | add path _ | addPath path => path

/-- The name that the alias is made of. -/
def name : Call → String
  | add _ name => name
  | addPath path => Text.lastElement path

def apply (table : ImportTable) : Call → ImportTable
  | add path name => table.add path name
  | addPath path => table.addPath path

theorem apply_eq_add (table : ImportTable) (call : Call) :
    call.apply table = table.add call.path call.name := by
  cases call <;> rfl

end Call

/-- The table that calls make of the empty one. -/
def ofCalls (calls : List Call) : ImportTable := calls.foldl Call.apply empty

theorem ofCalls_eq_addAll (calls : List Call) :
    ofCalls calls = empty.addAll (calls.map fun call => (call.path, call.name)) := by
  rw [ofCalls, addAll, List.foldl_map]
  congr
  funext table call
  exact Call.apply_eq_add table call

theorem ofCalls_append (calls later : List Call) :
    ofCalls (calls ++ later) =
      (ofCalls calls).addAll (later.map fun call => (call.path, call.name)) := by
  rw [ofCalls_eq_addAll, ofCalls_eq_addAll, List.map_append, addAll_append]

theorem isSome_aliasOf?_ofCalls_iff {calls : List Call} {path : String} :
    ((ofCalls calls).aliasOf? path).isSome ↔ path ∈ calls.map Call.path := by
  rw [ofCalls_eq_addAll, isSome_aliasOf?_addAll, List.map_map]
  simp [Function.comp_def]

/-- The first free text among an identifier and its numbered forms. -/
inductive FirstFree (taken : List String) (identifier : String) : String → Prop
  | plain : identifier ∉ taken → FirstFree taken identifier identifier
  | numbered (number : Nat) : identifier ∈ taken → 1 ≤ number →
      identifier ++ toString number ∉ taken →
      (∀ smaller, 1 ≤ smaller → smaller < number → identifier ++ toString smaller ∈ taken) →
      FirstFree taken identifier (identifier ++ toString number)

theorem firstFree_freeAlias (taken : List String) (identifier : String) :
    FirstFree taken identifier (freeAlias taken identifier) := by
  rcases freeAlias_spec taken identifier with
    ⟨free, result⟩ | ⟨used, number, positive, result, free, earlier⟩
  · rw [result]
    exact .plain free
  · rw [result]
    exact .numbered number used positive free earlier

/-- A path that has not been called for gets the first free alias. -/
theorem aliasOf?_ofCalls_of_new {calls : List Call} {call : Call}
    (new : call.path ∉ calls.map Call.path) :
    (ofCalls (calls ++ [call])).aliasOf? call.path =
      some (freeAlias (ofCalls calls).taken (GoName.identifier call.name)) := by
  have unbound : (ofCalls calls).aliasOf? call.path = none := by
    rwa [← isSome_aliasOf?_ofCalls_iff, Option.not_isSome_iff_eq_none] at new
  rw [ofCalls_append, List.map_singleton, addAll_cons, addAll_nil, aliasOf?_add,
    if_pos ⟨rfl, unbound⟩]

/-- A path keeps its alias, whatever is called for later and under whatever name. -/
theorem aliasOf?_ofCalls_of_bound {calls : List Call} {path qualifier : String}
    (bound : (ofCalls calls).aliasOf? path = some qualifier) (later : List Call) :
    (ofCalls (calls ++ later)).aliasOf? path = some qualifier := by
  rw [ofCalls_append]
  exact aliasOf?_addAll_of_bound bound _

/-- After any calls the paths called for have aliases, all different; the aliases in use are the
taken ones; every alias stays, and a further path gets the first free one; and the import lines list
each path called for once, in strictly ascending order, with its alias. -/
theorem aliases_of_calls (calls : List Call) :
    (∀ path, ((ofCalls calls).aliasOf? path).isSome ↔ path ∈ calls.map Call.path) ∧
    (∀ left right qualifier, (ofCalls calls).aliasOf? left = some qualifier →
      (ofCalls calls).aliasOf? right = some qualifier → left = right) ∧
    (∀ qualifier, qualifier ∈ (ofCalls calls).taken ↔
      ∃ path, (ofCalls calls).aliasOf? path = some qualifier) ∧
    (∀ path qualifier, (ofCalls calls).aliasOf? path = some qualifier →
      ∀ later, (ofCalls (calls ++ later)).aliasOf? path = some qualifier) ∧
    (∀ call : Call, call.path ∉ calls.map Call.path →
      ∃ qualifier, (ofCalls (calls ++ [call])).aliasOf? call.path = some qualifier ∧
        FirstFree (ofCalls calls).taken (GoName.identifier call.name) qualifier) ∧
    ((ofCalls calls).imports.Pairwise fun earlier later => earlier.path < later.path) ∧
    (∀ line, line ∈ (ofCalls calls).imports ↔
      (ofCalls calls).aliasOf? line.path = some line.qualifier) ∧
    ∀ path ∈ calls.map Call.path, ((ofCalls calls).imports.map (·.path)).count path = 1 := by
  have distinct : (ofCalls calls).Distinct := by
    rw [ofCalls_eq_addAll]
    exact distinct_addAll _
  have once : ((ofCalls calls).imports.map (·.path)).Nodup := by
    rw [List.Nodup, List.pairwise_map]
    exact (pairwise_imports _).imp String.ne_of_lt
  refine ⟨fun _ => isSome_aliasOf?_ofCalls_iff, fun _ _ _ => distinct, fun _ => mem_taken_iff,
    fun _ _ => aliasOf?_ofCalls_of_bound, fun call new => ?_, pairwise_imports _,
    fun _ => mem_imports_iff, fun path called => ?_⟩
  · exact ⟨_, aliasOf?_ofCalls_of_new new, firstFree_freeAlias _ _⟩
  · have listed := mem_map_path_imports_iff.mpr (isSome_aliasOf?_ofCalls_iff.mpr called)
    exact List.count_eq_one_of_mem once listed

def versions : List Call :=
  [.add "example.com/a/v1" "v1", .addPath "example.com/b/v1", .add "example.com/c/v1" "v1"]

theorem aliases_of_calls_versions :
    (ofCalls versions).taken = ["v1", "v11", "v12"] ∧
    (ofCalls (versions ++ [.add "example.com/b/v1" "other"])).aliasOf? "example.com/b/v1" =
      some "v11" ∧
    (ofCalls (versions ++ [.add "example.com/d" "v11"])).aliasOf? "example.com/d" = some "v111" ∧
    FirstFree (ofCalls versions).taken "v11" "v111" ∧
    ((ofCalls versions).imports.map (·.path)).count "example.com/b/v1" = 1 := by
  obtain ⟨_, _, _, keeps, gives, _, _, lists⟩ := aliases_of_calls versions
  have second : (ofCalls versions).aliasOf? "example.com/b/v1" = some "v11" := by decide +kernel
  have fourth : (ofCalls (versions ++ [.add "example.com/d" "v11"])).aliasOf? "example.com/d" =
      some "v111" := by decide +kernel
  obtain ⟨qualifier, found, first⟩ := gives (.add "example.com/d" "v11") (by decide)
  obtain rfl : "v111" = qualifier := Option.some.inj (fourth.symm.trans found)
  have name : GoName.identifier "v11" = "v11" := by decide +kernel
  rw [Call.name, name] at first
  exact ⟨by decide +kernel, keeps _ _ second _, fourth, first, lists _ (by decide)⟩

end RpcProxy.ImportTable

import RpcProxy.Generate
import RpcProxy.Proofs.ImportTable
import RpcProxy.Proofs.Signature

/-!
# The scope of a generated file

The packages that a file imports follow from its signatures. Those with a fixed name are asked for
first and under different names, so that each of them gets its name as its alias.
-/

namespace RpcProxy.ProtoFile

variable {file : ProtoFile} {options : Options} {path qualifier : String}

/-- The messages whose names stand in some signature of a file. -/
def Spells (file : ProtoFile) (message : Message) : Prop :=
  ∃ method ∈ file.methods, method.Spells message

theorem mem_spelled_iff {message : Message} : message ∈ file.spelled ↔ file.Spells message := by
  simp only [spelled, Spells, List.mem_flatMap, Method.mem_spelled_iff]

/-- The paths a generated file has to import. -/
inductive Imports (file : ProtoFile) (options : Options) : String → Prop
  | context {method : Method} : method ∈ file.methods → method.isUnary = true →
      file.Imports options "context"
  | errors : file.Imports options "errors"
  | net : file.Imports options "net"
  | grpc : file.Imports options "google.golang.org/grpc"
  | empty {message : Message} : file.Spells message → message.isEmpty = true →
      file.Imports options emptyPath
  | own : options.standalone = true → file.Imports options file.importPath
  | message {message : Message} : file.Spells message → message.isEmpty = false →
      message.identifier.importPath ≠ file.localPath options →
      file.Imports options message.identifier.importPath

/-- The packages that have a fixed name in every file. -/
def fixedPackages : List (String × String) :=
  [("context", "context"), ("errors", "errors"), ("net", "net"),
   ("google.golang.org/grpc", "grpc"), (emptyPath, "emptypb")]

/-- The packages with a fixed name that a file asks for. -/
def fixedRequests (file : ProtoFile) : List (String × String) :=
  (if file.methods.any Method.isUnary then [("context", "context")] else [])
    ++ [("errors", "errors"), ("net", "net"), ("google.golang.org/grpc", "grpc")]
    ++ (if file.spelled.any Message.isEmpty then [(emptyPath, "emptypb")] else [])

/-- The packages that a file asks for under the names given in the schema. -/
def namedRequests (file : ProtoFile) (options : Options) : List (String × String) :=
  (if options.standalone then [(file.importPath, file.packageName)] else [])
    ++ (file.referencedPackages options).entries

theorem scope_imports (file : ProtoFile) (options : Options) :
    (file.scope options).imports =
      ImportTable.empty.addAll (file.fixedRequests ++ file.namedRequests options) := by
  rw [fixedRequests, namedRequests, ← List.append_assoc]
  rfl

theorem distinct_scope (file : ProtoFile) (options : Options) :
    (file.scope options).imports.Distinct := by
  rw [scope_imports]
  exact ImportTable.distinct_addAll _

theorem named_scope (file : ProtoFile) (options : Options) :
    (file.scope options).imports.Named := by
  rw [scope_imports]
  exact ImportTable.named_addAll _

private theorem mem_map_fst_fixedRequests_iff :
    path ∈ file.fixedRequests.map (·.1) ↔
      (path = "context" ∧ ∃ method ∈ file.methods, method.isUnary = true) ∨
      path ∈ ["errors", "net", "google.golang.org/grpc"] ∨
      (path = emptyPath ∧ ∃ message, file.Spells message ∧ message.isEmpty = true) := by
  simp only [← mem_spelled_iff, ← List.any_eq_true, fixedRequests, List.map_append, List.mem_append,
    or_assoc]
  cases file.methods.any Method.isUnary <;> cases file.spelled.any Message.isEmpty <;> simp

theorem isSome_find?_referencedPackages_iff :
    ((file.referencedPackages options).find? path).isSome ↔
      ∃ message, file.Spells message ∧ message.isEmpty = false ∧
        message.identifier.importPath ≠ file.localPath options ∧
        message.identifier.importPath = path := by
  rw [referencedPackages, Registry.isSome_find?_ofList]
  simp [← mem_spelled_iff, and_assoc]

theorem exists_of_find?_referencedPackages {name : String}
    (found : (file.referencedPackages options).find? path = some name) :
    ∃ message, file.Spells message ∧ message.isEmpty = false ∧
      message.identifier.importPath ≠ file.localPath options ∧
      message.identifier.importPath = path ∧ message.packageName = name := by
  have member := Registry.mem_of_find?_ofList found
  simpa [← mem_spelled_iff, and_assoc] using member

private theorem mem_map_fst_namedRequests_iff :
    path ∈ (file.namedRequests options).map (·.1) ↔
      (options.standalone = true ∧ path = file.importPath) ∨
      ∃ message, file.Spells message ∧ message.isEmpty = false ∧
        message.identifier.importPath ≠ file.localPath options ∧
        message.identifier.importPath = path := by
  rw [← isSome_find?_referencedPackages_iff, Registry.isSome_find?_iff, namedRequests,
    List.map_append, List.mem_append]
  cases options.standalone <;> simp

/-- A file gives an alias to exactly the paths it has to import. -/
theorem isSome_aliasOf?_scope_iff :
    ((file.scope options).imports.aliasOf? path).isSome ↔ file.Imports options path := by
  rw [scope_imports, ImportTable.isSome_aliasOf?_addAll, List.map_append, List.mem_append,
    mem_map_fst_fixedRequests_iff, mem_map_fst_namedRequests_iff]
  constructor
  · rintro (none | (⟨rfl, _, member, unary⟩ | fixed | ⟨rfl, _, spells, empty⟩) |
      ⟨standalone, rfl⟩ | ⟨_, spells, notEmpty, foreign, rfl⟩)
    · simp at none
    · exact .context member unary
    · simp only [List.mem_cons, List.not_mem_nil, or_false] at fixed
      rcases fixed with rfl | rfl | rfl
      · exact .errors
      · exact .net
      · exact .grpc
    · exact .empty spells empty
    · exact .own standalone
    · exact .message spells notEmpty foreign
  · intro imports
    right
    cases imports with
    | context member unary => exact .inl (.inl ⟨rfl, _, member, unary⟩)
    | errors | net | grpc => exact .inl (.inr (.inl (by simp)))
    | empty spells empty => exact .inl (.inr (.inr ⟨rfl, _, spells, empty⟩))
    | own standalone => exact .inr (.inl ⟨standalone, rfl⟩)
    | message spells notEmpty foreign => exact .inr (.inr ⟨_, spells, notEmpty, foreign, rfl⟩)

/-- The alias of a file's own package is decided before those of the packages of messages. -/
theorem aliasOf?_own (standalone : options.standalone = true) :
    (file.scope options).imports.aliasOf? file.importPath =
      (ImportTable.empty.addAll (file.fixedRequests ++
        [(file.importPath, file.packageName)])).aliasOf? file.importPath := by
  have bound : ((ImportTable.empty.addAll (file.fixedRequests ++
      [(file.importPath, file.packageName)])).aliasOf? file.importPath).isSome := by
    simp [ImportTable.isSome_aliasOf?_addAll]
  obtain ⟨qualifier, found⟩ := Option.isSome_iff_exists.mp bound
  rw [found, scope_imports, namedRequests, standalone, if_pos rfl, ← List.append_assoc,
    ImportTable.addAll_append]
  exact ImportTable.aliasOf?_addAll_of_bound found _

theorem fixedRequests_sublist : file.fixedRequests.Sublist fixedPackages := by
  have sublist (condition : Bool) (request : String × String) :
      (if condition then [request] else []).Sublist [request] := by
    cases condition <;> simp
  exact ((sublist _ _).append (List.Sublist.refl _)).append (sublist _ _)

theorem identifier_fixedPackages :
    ∀ request ∈ fixedPackages, GoName.identifier request.2 = request.2 := by
  decide

/-- A package with a fixed name has this name as its alias. -/
theorem aliasOf?_scope_of_fixed (member : (path, qualifier) ∈ file.fixedRequests) :
    (file.scope options).imports.aliasOf? path = some qualifier := by
  have names : (fixedPackages.map fun request => GoName.identifier request.2).Nodup := by
    rw [List.map_congr_left identifier_fixedPackages]
    decide
  have paths : (fixedPackages.map (·.1)).Nodup := by decide
  rw [scope_imports, ImportTable.aliasOf?_addAll_of_first
    (paths.sublist (fixedRequests_sublist.map _)) (names.sublist (fixedRequests_sublist.map _))
    member, identifier_fixedPackages _ (fixedRequests_sublist.mem member)]

theorem aliasOf?_errors :
    (file.scope options).imports.aliasOf? "errors" = some "errors" :=
  aliasOf?_scope_of_fixed (by simp [fixedRequests])

theorem aliasOf?_net :
    (file.scope options).imports.aliasOf? "net" = some "net" :=
  aliasOf?_scope_of_fixed (by simp [fixedRequests])

theorem aliasOf?_grpc :
    (file.scope options).imports.aliasOf? "google.golang.org/grpc" = some "grpc" :=
  aliasOf?_scope_of_fixed (by simp [fixedRequests])

theorem aliasOf?_context {method : Method} (member : method ∈ file.methods)
    (unary : method.isUnary = true) :
    (file.scope options).imports.aliasOf? "context" = some "context" := by
  have some : file.methods.any Method.isUnary = true := List.any_eq_true.mpr ⟨method, member, unary⟩
  exact aliasOf?_scope_of_fixed (by simp [fixedRequests, some])

theorem aliasOf?_emptyPath {message : Message} (spells : file.Spells message)
    (empty : message.isEmpty = true) :
    (file.scope options).imports.aliasOf? emptyPath = some "emptypb" := by
  have some : file.spelled.any Message.isEmpty = true :=
    List.any_eq_true.mpr ⟨message, mem_spelled_iff.mpr spells, empty⟩
  exact aliasOf?_scope_of_fixed (by simp [fixedRequests, some])

end RpcProxy.ProtoFile

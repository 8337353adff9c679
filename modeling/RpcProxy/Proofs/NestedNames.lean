import RpcProxy.Proofs.Conversion

/-!
# Names of nested messages

The exported name of a dotted name is made of the exported names of its parts, with an underscore
before each further part that does not start with a lower-case letter. The Go name of a message is
made so of the names of the messages around it and of its own name, and its schema package leaves no
trace.
-/

namespace RpcProxy

open Linking

namespace GoName

/-- What stands before the exported name of a part that is inside another one. -/
def joint (name : String) : String := if name.toList.head?.any Char.isLower then "" else "_"

/-- The exported names of parts, each inside the one before it. -/
def exportedPath : List String → String
  | [] => ""
  | outer :: path =>
    exported outer ++ String.join (path.map fun inner => joint inner ++ exported inner)

private theorem exportedAfter_dot (letters : List Char) :
    exportedAfter (some '.') letters = exportedAfter none letters := by
  cases letters with
  | nil => rfl
  | cons letter rest =>
      have same : exportedLetter (some '.') letter rest.head? =
          exportedLetter none letter rest.head? := by
        simp [exportedLetter, raisesAfter]
      rw [exportedAfter, exportedAfter, same]

private theorem exportedLetter_before_dot (before : Option Char) (letter : Char)
    (front back : List Char) :
    exportedLetter before letter (front ++ '.' :: back).head? =
      exportedLetter before letter front.head? := by
  cases front with
  | nil =>
      have notLower : Char.isLower '.' = false := rfl
      simp [exportedLetter, notLower]
  | cons next rest => rfl

private theorem exportedAfter_append_dot (before : Option Char) (front back : List Char) :
    exportedAfter before (front ++ '.' :: back) =
      exportedAfter before front ++
        ((if back.head?.any Char.isLower then [] else ['_']) ++ exportedAfter none back) := by
  induction front generalizing before with
  | nil => simp [exportedAfter, exportedAfter_dot, exportedLetter]
  | cons letter rest induction =>
      rw [List.cons_append, exportedAfter, induction, exportedLetter_before_dot, exportedAfter,
        List.append_assoc]

/-- The exported name of two parts with a dot between them. -/
theorem exported_append_dot (outer inner : String) :
    exported (outer ++ "." ++ inner) = exported outer ++ joint inner ++ exported inner := by
  have letters : (outer ++ "." ++ inner).toList = outer.toList ++ '.' :: inner.toList := by
    simp
  have jointLetters : (joint inner).toList =
      if inner.toList.head?.any Char.isLower then [] else ['_'] := by
    rw [joint]
    split <;> rfl
  rw [← String.toList_inj, exported, letters, exportedAfter_append_dot]
  simp [exported, jointLetters]

private theorem joint_append_dot (name rest : String) :
    joint (name ++ "." ++ rest) = joint name := by
  have letters : (name ++ "." ++ rest).toList = name.toList ++ '.' :: rest.toList := by simp
  rw [joint, joint, letters]
  cases name.toList with
  | nil => rfl
  | cons letter letters => rfl

private theorem joint_intercalate (name : String) (path : List String) :
    joint (String.intercalate "." (name :: path)) = joint name := by
  cases path with
  | nil => simp
  | cons inner rest => rw [String.intercalate_cons_cons, joint_append_dot]

/-- The exported name of parts with dots between them. -/
theorem exported_intercalate (path : List String) :
    exported (String.intercalate "." path) = exportedPath path := by
  cases path with
  | nil => rfl
  | cons outer path =>
      induction path generalizing outer with
      | nil => simp [exportedPath]
      | cons inner rest induction =>
          rw [String.intercalate_cons_cons, exported_append_dot, induction, joint_intercalate,
            exportedPath, exportedPath, List.map_cons, String.join_cons]
          simp only [String.append_assoc]

end GoName

namespace Linking

/-- The names on the way to a message: those of the messages around it, the outermost first, and its
own. -/
inductive DeclaresAt : List MessageDecl → List String → Prop
  | here {messages : List MessageDecl} {message : MessageDecl} :
      message ∈ messages → DeclaresAt messages [message.name.getD ""]
  | inside {messages : List MessageDecl} {message : MessageDecl} {path : List String} :
      message ∈ messages → DeclaresAt message.messages path →
      DeclaresAt messages (message.name.getD "" :: path)

theorem DeclaresAt.ne_nil {messages : List MessageDecl} {path : List String}
    (declares : DeclaresAt messages path) : path ≠ [] := by
  cases declares <;> simp

/-- The full name of a message is made along the way to it. -/
theorem declaresIn_iff {scope : String} {messages : List MessageDecl} {fullName : String} :
    DeclaresIn scope messages fullName ↔
      ∃ path, DeclaresAt messages path ∧ fullName = path.foldl qualified scope := by
  constructor
  · intro declares
    induction declares with
    | here member => exact ⟨_, .here member, rfl⟩
    | inside member _ induction =>
        obtain ⟨path, inner, rfl⟩ := induction
        exact ⟨_, .inside member inner, rfl⟩
  · rintro ⟨path, declares, rfl⟩
    induction declares generalizing scope with
    | here member => exact .here member
    | inside member _ induction => exact .inside member induction

theorem qualified_qualified {scope outer : String} (named : scope ≠ "" ∨ outer ≠ "")
    (inner : String) :
    qualified (qualified scope outer) inner = qualified scope (outer ++ "." ++ inner) := by
  by_cases empty : scope = ""
  · have outerNamed : outer ≠ "" := named.resolve_left (not_not.mpr empty)
    simp [qualified, empty, outerNamed]
  · simp [qualified, empty, String.append_assoc]

/-- The names on the way stand in the full name with dots between them. Without a scope the first of
them must not be empty, for an empty one would not be followed by a dot. -/
theorem foldl_qualified {scope : String} {path : List String} (nonempty : path ≠ [])
    (named : scope ≠ "" ∨ path.head? ≠ some "") :
    path.foldl qualified scope = qualified scope (String.intercalate "." path) := by
  induction path generalizing scope with
  | nil => exact (nonempty rfl).elim
  | cons outer rest induction =>
      have outerNamed : scope ≠ "" ∨ outer ≠ "" := by simpa using named
      cases rest with
      | nil => simp
      | cons inner rest =>
          have scopeNamed : qualified scope outer ≠ "" := by
            rw [qualified]
            split
            · rename_i empty
              exact outerNamed.resolve_left (not_not.mpr empty)
            · simp
          rw [List.foldl_cons, induction (by simp) (.inl scopeNamed),
            qualified_qualified outerNamed, String.intercalate_cons_cons]

end Linking

theorem nameInPackage_qualified (package name : String) :
    nameInPackage package (qualified package name) = name := by
  rw [nameInPackage, qualified]
  split
  · rfl
  · rw [Text.dropBeginning?_append, Option.getD_some]

/-- The message of a file at the end of a path. -/
def FileDecl.messageAt (decl : FileDecl) (path : List String) : ResolvedMessage where
  fullName := path.foldl qualified (decl.package.getD "")
  file := decl.name.getD ""

/-- What a pool makes of the name of the message at the end of a path: the message is known by its
full name, which is the path in the package, and its Go name is made of the parts of the path. -/
structure Linking.Pool.Names (pool : Pool) (decl : FileDecl) (path : List String) : Prop where
  known : pool.table.find? (decl.messageAt path).fullName =
    some ⟨(decl.messageAt path).fullName, .message, decl.name.getD ""⟩
  fullName : decl.package.getD "" ≠ "" ∨ path.head? ≠ some "" →
    (decl.messageAt path).fullName =
      qualified (decl.package.getD "") (String.intercalate "." path)
  goName : (decl.messageAt path).fullName =
      qualified (decl.package.getD "") (String.intercalate "." path) →
    ∀ packageOf, (Schema.message packageOf pool (decl.messageAt path)).identifier.name =
      GoName.exportedPath path

namespace Request

variable {request : Request} {pool : Pool}

/-- Every declared message is named by its path. -/
theorem names_of_declaresAt (pooled : request.pool = .ok pool) {decl : FileDecl}
    (member : decl ∈ request.files) {path : List String}
    (declares : DeclaresAt decl.messages path) : pool.Names decl path := by
  obtain ⟨built, links⟩ := links_of_pool pooled
  obtain ⟨linked, inPool, links⟩ := links.exists_of_mem member
  have declared : Schema.declOf pool (decl.name.getD "") = linked.decl := by
    rw [← links.comesFrom.name, declOf_eq pooled inPool]
  have package : linked.decl.package = decl.package := by rw [← links.declaration]
  constructor
  · exact Table.find?_of_declares built member (declaresIn_iff.mpr ⟨path, declares, rfl⟩)
  · exact foldl_qualified declares.ne_nil
  · intro fullName packageOf
    have file : (decl.messageAt path).file = decl.name.getD "" := rfl
    rw [Schema.message, file, declared, package, fullName, nameInPackage_qualified,
      GoName.exported_intercalate]

/-- Every message that a method takes or returns is one that some file declares. -/
theorem exists_declaresAt (pooled : request.pool = .ok pool) {service : LinkedService}
    (member : service ∈ pool.services) {method : LinkedMethod}
    (inService : method ∈ service.methods) {resolved : ResolvedMessage}
    (mentioned : resolved = method.input ∨ resolved = method.output) :
    ∃ decl ∈ request.files, ∃ path, DeclaresAt decl.messages path ∧
      resolved = decl.messageAt path := by
  obtain ⟨decl, inRequest, named, declares⟩ := exists_declaring pooled member inService mentioned
  obtain ⟨path, declares, fullName⟩ := declaresIn_iff.mp declares
  refine ⟨decl, inRequest, path, declares, ?_⟩
  rw [FileDecl.messageAt, ← fullName, named]

end Request

/-- Exported names are put together from the parts between dots. So is the Go name of every message
of linked files, from the path to it inside its package, and what methods take and return are such
messages. -/
theorem nested_names_compose :
    (∀ outer inner : String, GoName.exported (outer ++ "." ++ inner) =
      GoName.exported outer ++ GoName.joint inner ++ GoName.exported inner) ∧
    ∀ (request : Request) (pool : Pool), request.pool = .ok pool →
      (∀ decl ∈ request.files, ∀ path, DeclaresAt decl.messages path → pool.Names decl path) ∧
      ∀ service ∈ pool.services, ∀ method ∈ service.methods,
        ∀ resolved, resolved = method.input ∨ resolved = method.output →
          ∃ decl ∈ request.files, ∃ path, DeclaresAt decl.messages path ∧
            resolved = decl.messageAt path := by
  refine ⟨GoName.exported_append_dot, fun request pool pooled => ⟨?_, ?_⟩⟩
  · intro decl member path declares
    exact Request.names_of_declaresAt pooled member declares
  · intro service member method inService resolved mentioned
    exact Request.exists_declaresAt pooled member inService mentioned

/-- A file whose package has the name of the outermost of its messages. -/
def boxes : FileDecl where
  name := some "box.proto"
  package := some "box"
  messages :=
    [{ name := some "box"
       messages := [{ name := some "Lid", messages := [{ name := some "hinge" }] }] }]
  services :=
    [{ name := some "Shop"
       methods := [{ name := some "Mend", inputType := some ".box.box.Lid.hinge",
                     outputType := some "box.Lid" }] }]

theorem nested_names_compose_boxes :
    ∃ pool, Request.pool { files := [boxes] } = .ok pool ∧
      (boxes.messageAt ["box", "Lid", "hinge"]).fullName = "box.box.Lid.hinge" ∧
      ∀ packageOf, (Schema.message packageOf pool
        (boxes.messageAt ["box", "Lid", "hinge"])).identifier.name = "Box_LidHinge" := by
  have linked : (Request.pool { files := [boxes] }).toOption.isSome := by decide +kernel
  obtain ⟨pool, pooled⟩ := Option.isSome_iff_exists.mp linked
  have pooled := Except.toOption_eq_some_iff.mp pooled
  have declares : DeclaresAt boxes.messages ["box", "Lid", "hinge"] :=
    .inside List.mem_cons_self (.inside List.mem_cons_self (.here List.mem_cons_self))
  have names := (nested_names_compose.2 _ pool pooled).1 boxes List.mem_cons_self _ declares
  refine ⟨pool, pooled, rfl, fun packageOf => ?_⟩
  exact names.goName (names.fullName (.inl (by decide))) packageOf

end RpcProxy

import RpcProxy.Proofs.Directories

/-!
# Directories made one by one

A directory is made by trying it, and where what is around it is missing, by making that first and
trying once more. Of a tree this makes what going along the path makes, which adds what is missing
on the way, up to the same error. So a file that is saved finds the directories around it.
-/

namespace RpcProxy.FileTree

open RpcProxy.Path (dropIdle isIdle)

variable {tree later : FileTree} {place next names others outer : List String} {name last : String}
  {path : Path} {content : List UInt8} {made : Bool} {error : SystemError}

theorem walk_of_step (stepped : tree.step place name = .ok next) (rest : List String) :
    tree.walk place (name :: rest) = tree.walk next rest := by
  rw [walk, stepped]
  rfl

theorem walk_of_refusal (refused : tree.step place name = .error error) (rest : List String) :
    tree.walk place (name :: rest) = .error error := by
  rw [walk, refused]
  rfl

theorem walk_of_absent (absent : tree.at? place = none) (name : String) (rest : List String) :
    tree.walk place (name :: rest) = .error .notFound :=
  walk_of_refusal (by rw [step, absent]) rest

theorem walk_of_file (isFile : tree.at? place = some (.file content)) (name : String)
    (rest : List String) : tree.walk place (name :: rest) = .error .notDirectory :=
  walk_of_refusal (by rw [step, isFile]) rest

theorem walk_append (tree : FileTree) (place names others : List String) :
    tree.walk place (names ++ others) =
      tree.walk place names >>= fun next => tree.walk next others := by
  induction names generalizing place with
  | nil => rfl
  | cons name rest induction =>
      rw [List.cons_append]
      cases stepped : tree.step place name with
      | error error =>
          rw [walk_of_refusal stepped, walk_of_refusal stepped]
          rfl
      | ok next => rw [walk_of_step stepped, walk_of_step stepped, induction]

theorem makeAlong_of_step (stepped : tree.step place name = .ok next) (made : Bool)
    (rest : List String) :
    tree.makeAlong made place (name :: rest) =
      match tree.at? next with
      | none => (tree.put next .directory).makeAlong true next rest
      | some .directory => tree.makeAlong made next rest
      | some (.file _) =>
        .error (tree.stop (if made || rest.isEmpty then .alreadyExists else .notDirectory)) := by
  rw [makeAlong, stepped]
  rfl

theorem makeAlong_of_refusal (refused : tree.step place name = .error error) (made : Bool)
    (rest : List String) :
    tree.makeAlong made place (name :: rest) = .error (tree.stop error) := by
  rw [makeAlong, refused]
  rfl

/-- Once a directory has been made, the errors do not depend on what is further on. -/
theorem makeAlong_append (tree : FileTree) (place names others : List String) :
    tree.makeAlong true place (names ++ others) =
      tree.makeAlong true place names >>= fun later =>
        later.makeAlong true (names.foldl advance place) others := by
  induction names generalizing tree place with
  | nil => rfl
  | cons name rest induction =>
      rw [List.cons_append, List.foldl_cons]
      cases stepped : tree.step place name with
      | error error =>
          rw [makeAlong_of_refusal stepped, makeAlong_of_refusal stepped]
          rfl
      | ok next =>
          rw [makeAlong_of_step stepped, makeAlong_of_step stepped,
            ← (step_eq_ok_iff.mp stepped).2.2]
          cases tree.at? next with
          | none => exact induction _ _
          | some node =>
              cases node with
              | directory => exact induction _ _
              | file => rfl

theorem walk_ne_missing (isFile : tree.at? place = some (.file content)) (names : List String) :
    tree.walk place names ≠ .error .notFound := by
  cases names with
  | nil => simp [walk]
  | cons name rest => simp [walk_of_file isFile]

theorem makeAlong_of_missing (missing : tree.walk place names = .error .notFound) :
    tree.makeAlong made place names = tree.makeAlong true place names := by
  induction names generalizing place with
  | nil => simp [walk] at missing
  | cons name rest induction =>
      cases stepped : tree.step place name with
      | error error => rw [makeAlong_of_refusal stepped, makeAlong_of_refusal stepped]
      | ok next =>
          rw [walk_of_step stepped] at missing
          rw [makeAlong_of_step stepped, makeAlong_of_step stepped]
          cases found : tree.at? next with
          | none => rfl
          | some node =>
              cases node with
              | directory => exact induction missing
              | file content => exact absurd missing (walk_ne_missing found rest)

/-- Where something is missing further on, the names before it are gone along first. -/
theorem makeAlong_append_of_missing
    (missing : tree.walk place (names ++ others) = .error .notFound) :
    tree.makeAlong made place (names ++ others) =
      tree.makeAlong made place names >>= fun later =>
        later.makeAlong true (names.foldl advance place) others := by
  induction names generalizing place with
  | nil => exact makeAlong_of_missing missing
  | cons name rest induction =>
      rw [List.cons_append] at missing ⊢
      rw [List.foldl_cons]
      cases stepped : tree.step place name with
      | error error =>
          rw [makeAlong_of_refusal stepped, makeAlong_of_refusal stepped]
          rfl
      | ok next =>
          rw [walk_of_step stepped] at missing
          rw [makeAlong_of_step stepped, makeAlong_of_step stepped,
            ← (step_eq_ok_iff.mp stepped).2.2]
          cases found : tree.at? next with
          | none => exact makeAlong_append _ _ _ _
          | some node =>
              cases node with
              | directory => exact induction missing
              | file content => exact absurd missing (walk_ne_missing found _)

theorem makeAlong_of_refused (refused : tree.walk place names = .error error)
    (found : error ≠ .notFound) : tree.makeAlong false place names = .error (tree.stop error) := by
  induction names generalizing place with
  | nil => simp [walk] at refused
  | cons name rest induction =>
      cases stepped : tree.step place name with
      | error error =>
          rw [walk_of_refusal stepped] at refused
          rw [makeAlong_of_refusal stepped, Except.error.inj refused]
      | ok next =>
          rw [walk_of_step stepped] at refused
          rw [makeAlong_of_step stepped]
          cases present : tree.at? next with
          | none =>
              cases rest with
              | nil => simp [walk] at refused
              | cons name rest =>
                  rw [walk_of_absent present] at refused
                  exact absurd (Except.error.inj refused).symm found
          | some node =>
              cases node with
              | directory => exact induction refused
              | file content =>
                  cases rest with
                  | nil => simp [walk] at refused
                  | cons name rest =>
                      rw [walk_of_file present] at refused
                      rw [← Except.error.inj refused]
                      rfl

/-- Directories that are there are gone through. -/
theorem makeAlong_through (walked : tree.walk place names = .ok next)
    (present : tree.at? next = some .directory) (made : Bool) (others : List String) :
    tree.makeAlong made place (names ++ others) = tree.makeAlong made next others := by
  induction names generalizing place with
  | nil => rw [List.nil_append, Except.ok.inj walked]
  | cons name rest induction =>
      obtain ⟨_, _, through⟩ := walk_directory_iff.mp ⟨walked, present⟩
      cases stepped : tree.step place name with
      | error error => simp [walk_of_refusal stepped] at walked
      | ok middle =>
          have isDirectory : tree.at? middle = some .directory := by
            rw [(step_eq_ok_iff.mp stepped).2.2]
            exact through _ (List.mem_cons_of_mem _ (self_mem_route _ rest))
          rw [walk_of_step stepped] at walked
          rw [List.cons_append, makeAlong_of_step stepped, isDirectory]
          exact induction walked

/-- Names that directories have been made along can be walked. -/
theorem walk_of_makeAlong (result : tree.makeAlong made place names = .ok later) :
    later.walk place names = .ok (names.foldl advance place) := by
  induction names generalizing tree made place with
  | nil => rfl
  | cons name rest induction =>
      have makes := makes_makeAlong tree made place (name :: rest)
      rw [result] at makes
      have grows : tree.Grows later := makes.grows
      cases stepped : tree.step place name with
      | error error => simp [makeAlong_of_refusal stepped] at result
      | ok next =>
          rw [makeAlong_of_step stepped] at result
          rw [walk_of_step (grows.keeps.step stepped), List.foldl_cons,
            ← (step_eq_ok_iff.mp stepped).2.2]
          cases found : tree.at? next with
          | none => exact induction (by simpa [found] using result)
          | some node =>
              cases node with
              | directory => exact induction (by simpa [found] using result)
              | file content => simp [found] at result

/-- Makes a directory at a place, unless there is one already. -/
def ensureAt (tree : FileTree) (place : List String) : Except (Stop SystemError) FileTree :=
  match tree.at? place with
  | none => .ok (tree.put place .directory)
  | some .directory => .ok tree
  | some (.file _) => .error (tree.stop .alreadyExists)

theorem makeAlong_singleton (stepped : tree.step place name = .ok next) (made : Bool) :
    tree.makeAlong made place [name] = tree.ensureAt next := by
  rw [makeAlong_of_step stepped, ensureAt]
  cases tree.at? next with
  | none => rfl
  | some node =>
      cases node with
      | directory => rfl
      | file content => rw [List.isEmpty_nil, Bool.or_true, if_pos rfl]

/-- Where only the last directory can be missing, that one is made. -/
theorem makeAlong_of_walk (walked : tree.walk place (names ++ [last]) = .ok next) (made : Bool) :
    tree.makeAlong made place (names ++ [last]) = tree.ensureAt next := by
  obtain ⟨middle, toMiddle, onward⟩ := walk_append_eq_ok_iff.mp walked
  cases stepped : tree.step middle last with
  | error error => simp [walk_of_refusal stepped] at onward
  | ok arrived =>
      rw [walk_of_step stepped] at onward
      rw [makeAlong_through toMiddle (step_eq_ok_iff.mp stepped).1, makeAlong_singleton stepped,
        Except.ok.inj onward]

/-- Behind dots nothing can be in the way. -/
theorem makeAlong_of_dots (nowhere : ∀ name ∈ names, name = ".")
    (refused : tree.walk place (names ++ [last]) = .error error) (made : Bool) :
    tree.makeAlong made place (names ++ [last]) = .error (tree.stop error) := by
  induction names with
  | nil =>
      cases stepped : tree.step place last with
      | error other =>
          rw [List.nil_append, walk_of_refusal stepped] at refused
          rw [List.nil_append, makeAlong_of_refusal stepped, Except.error.inj refused]
      | ok next =>
          rw [List.nil_append, walk_of_step stepped] at refused
          simp [walk] at refused
  | cons name rest induction =>
      rw [List.forall_mem_cons] at nowhere
      obtain ⟨rfl, nowhere⟩ := nowhere
      rw [List.cons_append] at refused ⊢
      cases stepped : tree.step place "." with
      | error other =>
          rw [walk_of_refusal stepped] at refused
          rw [makeAlong_of_refusal stepped, Except.error.inj refused]
      | ok next =>
          obtain ⟨present, _, led⟩ := step_eq_ok_iff.mp stepped
          have stays : next = place := led.trans (if_pos rfl)
          rw [walk_of_step stepped, stays] at refused
          rw [makeAlong_of_step stepped, stays, present]
          exact induction nowhere refused

theorem start_ne_missing : tree.start path ≠ .error .notFound := by
  rw [start]
  split
  · simp
  · split <;> simp

theorem locate_of_start (started : tree.start path = .ok place) :
    tree.locate path = tree.walk place path.names := by
  rw [locate, started]
  rfl

theorem makeDirectories_of_start (started : tree.start path = .ok place) :
    tree.makeDirectories path = tree.makeAlong false place path.names := by
  rw [makeDirectories, started]
  rfl

def ensure (tree : FileTree) (path : Path) : Except (Stop SystemError) FileTree :=
  (tree.locate path).mapError tree.stop >>= tree.ensureAt

theorem ensure_of_locate (located : tree.locate path = .ok place) :
    tree.ensure path = tree.ensureAt place := by
  rw [ensure, located]
  rfl

theorem ensure_of_refusal (refused : tree.locate path = .error error) :
    tree.ensure path = .error (tree.stop error) := by
  rw [ensure, refused]
  rfl

/-- What is made of the parent leads on to the directory. -/
theorem ensure_of_parent {dots : List String} (started : tree.start path = .ok place)
    (names : path.names = others ++ (dots ++ [last])) (nowhere : ∀ name ∈ dots, name = ".")
    (result : tree.makeAlong false place others = .ok later) :
    later.ensure path = later.makeAlong true (others.foldl advance place) (dots ++ [last]) := by
  have makes := makes_makeAlong tree false place others
  rw [result] at makes
  have here : later.here = tree.here := makes.here
  have located : later.locate path = later.walk (others.foldl advance place) (dots ++ [last]) := by
    rw [locate_of_start (start_of_here here.symm started), names, walk_append,
      walk_of_makeAlong result]
    rfl
  cases walked : later.walk (others.foldl advance place) (dots ++ [last]) with
  | ok next =>
      rw [ensure_of_locate (located.trans walked), makeAlong_of_walk walked]
  | error error =>
      rw [ensure_of_refusal (located.trans walked), makeAlong_of_dots nowhere walked]

/-- Where something around a directory is missing, the parent is made first. -/
theorem makeDirectories_eq (split : path.pieces = outer ++ [last])
    (leads : isIdle last outer.reverse = false) :
    tree.makeDirectories path =
      if tree.locate path = .error .notFound then
        tree.makeDirectories path.parent >>= fun made => made.ensure path
      else tree.ensure path := by
  have named : last ≠ "" := by
    intro none
    simp [none, isIdle] at leads
  obtain ⟨dots, around, nowhere⟩ := Path.exists_names_parent split leads
  have names : path.names = path.parent.names ++ (dots ++ [last]) := by
    rw [Path.names_of_pieces split named, around, List.append_assoc]
  cases started : tree.start path with
  | error error =>
      have refused : tree.locate path = .error error := by
        rw [locate, started]
        rfl
      have found : tree.locate path ≠ .error .notFound := by
        rw [refused, ← started]
        exact start_ne_missing
      rw [if_neg found, ensure_of_refusal refused, makeDirectories, started]
      rfl
  | ok place =>
      have located := locate_of_start started
      rw [makeDirectories_of_start started]
      cases walked : tree.walk place path.names with
      | ok next =>
          rw [if_neg (by simp [located, walked]), ensure_of_locate (located.trans walked)]
          rw [Path.names_of_pieces split named] at walked ⊢
          exact makeAlong_of_walk walked false
      | error error =>
          by_cases missing : error = .notFound
          · subst missing
            rw [if_pos (located.trans walked), makeDirectories_parent started]
            rw [names] at walked
            rw [names, makeAlong_append_of_missing walked]
            cases result : tree.makeAlong false place path.parent.names with
            | error stop => rfl
            | ok made => exact (ensure_of_parent started names nowhere result).symm
          · have found : tree.locate path ≠ .error .notFound := by simp [located, walked, missing]
            rw [if_neg found, ensure_of_refusal (located.trans walked),
              makeAlong_of_refused walked missing]

theorem after_bind {ε : Type} (first second : ExceptT ε (StateM FileTree) Unit) (tree : FileTree) :
    after (first >>= fun _ => second) tree = after first tree >>= after second := by
  simp only [after, ExceptT.run_bind, StateT.run_bind]
  rcases first.run.run tree with ⟨error | ⟨⟩, later⟩ <;> rfl

theorem after_tryCatch {ε : Type} (first : ExceptT ε (StateM FileTree) Unit)
    (handle : ε → ExceptT ε (StateM FileTree) Unit) (tree : FileTree) :
    after (tryCatch first handle) tree =
      match after first tree with
      | .ok later => .ok later
      | .error stop => after (handle stop.error) stop.tree := by
  simp only [after, ExceptT.run_tryCatch, StateT.run_bind]
  rcases first.run.run tree with ⟨error | ⟨⟩, later⟩ <;> rfl

@[simp] theorem after_throw {ε : Type} (error : ε) (tree : FileTree) :
    after (throw error) tree = .error (tree.stop error) := rfl

theorem run_change (operation : FileTree → Except SystemError FileTree) (tree : FileTree) :
    (change operation).run.run tree =
      match operation tree with
      | .ok later => (.ok (), later)
      | .error error => (.error error, tree) := rfl

theorem after_change (operation : FileTree → Except SystemError FileTree) (tree : FileTree) :
    after (change operation) tree = (operation tree).mapError tree.stop := by
  rw [after, run_change]
  cases operation tree <;> rfl

theorem makeDirectory_of_locate (located : tree.locate path = .ok place) :
    tree.makeDirectory path =
      match tree.at? place with
      | none => .ok (tree.put place .directory)
      | some _ => .error .alreadyExists := by
  rw [makeDirectory, located]
  rfl

theorem isDirectory_of_locate (located : tree.locate path = .ok place) :
    tree.isDirectory path = (tree.at? place == some .directory) := by
  rw [isDirectory, located]

theorem after_ensureDirectory (tree : FileTree) (path : Path) :
    after (system.ensureDirectory path) tree = tree.ensure path := by
  have made : after (system.makeDirectory path) tree =
      (tree.makeDirectory path).mapError tree.stop := after_change (·.makeDirectory path) tree
  rw [FileSystem.ensureDirectory, after_tryCatch, made]
  cases located : tree.locate path with
  | error error =>
      have refused : tree.makeDirectory path = .error error := by
        rw [makeDirectory, located]
        rfl
      have missing : tree.isDirectory path = false := by rw [isDirectory, located]
      rw [refused, ensure_of_refusal located]
      change after (if tree.isDirectory path then pure () else throw error) tree = _
      rw [missing]
      rfl
  | ok place =>
      rw [makeDirectory_of_locate located, ensure_of_locate located, ensureAt]
      cases found : tree.at? place with
      | none => rfl
      | some node =>
          change after
            (if tree.isDirectory path then pure () else throw SystemError.alreadyExists) tree = _
          rw [isDirectory_of_locate located, found]
          cases node <;> rfl

/-- A directory is tried before those around it, and once more after them. -/
theorem after_makeAround_cons {piece : String} (leads : isIdle piece outer = false)
    (isPath : path = ⟨String.intercalate "/" (piece :: outer).reverse⟩) (tree : FileTree) :
    after (system.makeAround (piece :: outer)) tree =
      if tree.locate path = .error .notFound then
        after (system.makeAround outer) tree >>= fun made => made.ensure path
      else tree.ensure path := by
  have again : (fun made : FileTree => made.ensure path) = after (system.ensureDirectory path) :=
    funext fun made => (after_ensureDirectory made path).symm
  rw [FileSystem.makeAround, if_neg (by simp [leads])]
  dsimp only
  rw [← isPath, after_tryCatch, after_ensureDirectory]
  cases located : tree.locate path with
  | ok place =>
      rw [if_neg (by simp), ensure_of_locate located, ensureAt]
      cases tree.at? place with
      | none => rfl
      | some node => cases node <;> rfl
  | error error =>
      rw [ensure_of_refusal located]
      dsimp only [stop]
      by_cases missing : error = .notFound
      · rw [if_pos missing, if_pos (congrArg _ missing), again, ← after_bind]
      · rw [if_neg missing, if_neg (by simpa using missing)]
        rfl

theorem after_makeAround {pieces : List String} (whole : ∀ piece ∈ pieces, '/' ∉ piece.toList)
    (tree : FileTree) :
    after (system.makeAround pieces) tree =
      tree.makeDirectories ⟨String.intercalate "/" (dropIdle pieces).reverse⟩ := by
  induction pieces generalizing tree with
  | nil => rfl
  | cons piece outer induction =>
      rw [List.forall_mem_cons] at whole
      cases leads : isIdle piece outer with
      | true =>
          rw [FileSystem.makeAround, if_pos leads, dropIdle, if_pos leads]
          exact induction whole.2 tree
      | false =>
          have pieces : (Path.mk (String.intercalate "/" (piece :: outer).reverse)).pieces =
              outer.reverse ++ [piece] := by
            rw [← List.reverse_cons]
            refine Text.split_intercalate (by simp) ?_
            simpa [or_imp, forall_and, and_comm] using whole
          have parent : (Path.mk (String.intercalate "/" (piece :: outer).reverse)).parent =
              ⟨String.intercalate "/" (dropIdle outer).reverse⟩ := by
            rw [Path.parent, pieces, List.reverse_concat, List.reverse_reverse,
              Path.dropIdle_of_leads leads, List.tail_cons]
          rw [Path.dropIdle_of_leads leads, after_makeAround_cons leads rfl, induction whole.2,
            makeDirectories_eq pieces (by rwa [List.reverse_reverse]), parent]

theorem after_makeDirectories_parent (tree : FileTree) (path : Path) :
    after (system.makeDirectories path.parent) tree = tree.makeDirectories path.parent := by
  have whole : ∀ piece ∈ path.parent.pieces.reverse, '/' ∉ piece.toList := by
    intro piece member
    exact Text.notMem_of_mem_split (List.mem_reverse.mp member)
  rw [FileSystem.makeDirectories, after_makeAround whole, Path.dropIdle_pieces_parent,
    List.reverse_reverse, ← Path.text_parent]

/-- A file is saved by going along the path of its directory and writing it. -/
theorem save_eq (tree : FileTree) (path : Path) (content : List UInt8) :
    tree.save path content = tree.makeDirectories path.parent >>= fun made =>
      (made.writeFile path content).mapError made.stop := by
  have written : after (system.writeFile path content) =
      fun made => (made.writeFile path content).mapError made.stop :=
    funext (after_change (·.writeFile path content))
  rw [save, FileSystem.save, after_bind, written, after_makeDirectories_parent]

theorem save_of_makeDirectories (directories : tree.makeDirectories path.parent = .ok later)
    (content : List UInt8) :
    tree.save path content = (later.writeFile path content).mapError later.stop := by
  rw [save_eq, directories]
  rfl

end RpcProxy.FileTree

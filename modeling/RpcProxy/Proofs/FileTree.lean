import RpcProxy.FileTree
import RpcProxy.Proofs.Except
import RpcProxy.Proofs.Text

/-!
# Laws of file trees

Making directories only adds to a tree, and writing a file changes no other place. Directories stay
directories under both, so a path that could be walked once leads to the same place ever after.
-/

namespace RpcProxy.FileTree

variable {tree later last : FileTree} {place next : List String} {name : String}
  {names : List String} {path : Path} {content : List UInt8}

theorem at?_put (tree : FileTree) (place other : List String) (node : Node) :
    (tree.put place node).at? other =
      if other = [] then some .directory else if other = place then some node
      else tree.at? other := by
  rw [at?, at?, put]
  by_cases root : other = []
  · rw [if_pos root, if_pos root]
  · rw [if_neg root, if_neg root, if_neg root, List.find?_cons]
    by_cases same : place = other
    · simp [same]
    · have passed : ((place == other) = false) := beq_eq_false_iff_ne.mpr same
      have kept : (tree.nodes.filter fun node => node.1 != place).find?
          (fun node => node.1 == other) = tree.nodes.find? fun node => node.1 == other := by
        rw [List.find?_filter]
        congr 1
        funext node
        by_cases here : node.1 = other
        · simp [here, Ne.symm same]
        · simp [here]
      rw [if_neg (Ne.symm same)]
      simp only [passed, kept]

@[simp] theorem at?_nil (tree : FileTree) : tree.at? [] = some .directory := if_pos rfl

theorem at?_put_of_ne {other : List String} (differs : other ≠ place) (node : Node) :
    (tree.put place node).at? other = tree.at? other := by
  rw [at?_put, if_neg differs]
  split
  · rename_i root
    rw [root, at?_nil]
  · rfl

/-- Directories of a tree are directories of a later one. -/
structure Keeps (tree later : FileTree) : Prop where
  here : later.here = tree.here
  directory : ∀ {place}, tree.at? place = some .directory → later.at? place = some .directory

/-- Everything in a tree is still in a later one. -/
structure Grows (tree later : FileTree) : Prop where
  here : later.here = tree.here
  node : ∀ {place node}, tree.at? place = some node → later.at? place = some node

theorem Keeps.trans (first : tree.Keeps later) (second : later.Keeps last) : tree.Keeps last :=
  ⟨second.here.trans first.here, fun found => second.directory (first.directory found)⟩

theorem Grows.keeps (grows : tree.Grows later) : tree.Keeps later :=
  ⟨grows.here, fun found => grows.node found⟩

theorem keeps_put (replaceable : tree.at? place ≠ some .directory) (node : Node) :
    tree.Keeps (tree.put place node) := by
  refine ⟨rfl, ?_⟩
  intro other present
  rw [at?_put]
  split
  · rfl
  · rw [if_neg, present]
    rintro rfl
    exact replaceable present

/-- Where one name leads from a place. -/
def advance (place : List String) (name : String) : List String :=
  if name = "." then place else if name = ".." then place.dropLast else place ++ [name]

/-- The places on the way along names, the first and the last among them. -/
def route (place : List String) : List String → List (List String)
  | [] => [place]
  | name :: rest => place :: route (advance place name) rest

@[simp] theorem self_mem_route (place names : List String) : place ∈ route place names := by
  cases names <;> simp [route]

theorem foldl_mem_route (place names : List String) :
    names.foldl advance place ∈ route place names := by
  induction names generalizing place with
  | nil => exact self_mem_route place []
  | cons name rest induction => exact List.mem_cons_of_mem _ (induction _)

theorem mem_route_append {other others : List String} :
    other ∈ route place (names ++ others) ↔
      other ∈ route place names ∨ other ∈ route (names.foldl advance place) others := by
  induction names generalizing place with
  | nil =>
      rw [List.nil_append, List.foldl_nil, route, List.mem_singleton]
      constructor
      · exact .inr
      · rintro (rfl | member)
        · exact self_mem_route other others
        · exact member
  | cons name rest induction =>
      rw [List.cons_append, route, route, List.mem_cons, List.mem_cons, induction, List.foldl_cons,
        or_assoc]

/-- A name that a directory can have, or one that leads to a directory that is there. -/
def Fits (name : String) : Prop :=
  name = "." ∨ name = ".." ∨ (Wire.utf8 name).length ≤ nameLimit

theorem step_eq_ok_iff :
    tree.step place name = .ok next ↔
      tree.at? place = some .directory ∧ Fits name ∧ next = advance place name := by
  rw [step]
  cases found : tree.at? place with
  | none => simp
  | some node =>
      cases node with
      | file bytes => simp
      | directory =>
          simp only [true_and, Fits, advance]
          by_cases dot : name = "."
          · simp [dot, eq_comm]
          · by_cases up : name = ".."
            · simp [up, eq_comm]
            · rw [if_neg dot, if_neg up, if_neg dot, if_neg up, or_iff_right dot, or_iff_right up]
              split
              · rename_i long
                simp [Nat.not_le.mpr long]
              · rename_i short
                simp [Nat.not_lt.mp short, eq_comm]

theorem walk_eq_ok (result : tree.walk place names = .ok next) :
    next = names.foldl advance place := by
  induction names generalizing place with
  | nil => exact (Except.ok.inj result).symm
  | cons name rest induction =>
      rw [walk, Except.bind_eq_ok_iff] at result
      obtain ⟨middle, stepped, walked⟩ := result
      have led := (step_eq_ok_iff.mp stepped).2.2
      rw [List.foldl_cons, ← led]
      exact induction walked

theorem Keeps.step (keeps : tree.Keeps later) (result : tree.step place name = .ok next) :
    later.step place name = .ok next := by
  obtain ⟨present, leads⟩ := step_eq_ok_iff.mp result
  exact step_eq_ok_iff.mpr ⟨keeps.directory present, leads⟩

theorem walk_append_eq_ok_iff {others : List String} :
    tree.walk place (names ++ others) = .ok next ↔
      ∃ middle, tree.walk place names = .ok middle ∧ tree.walk middle others = .ok next := by
  induction names generalizing place with
  | nil => simp [walk]
  | cons name rest induction =>
      simp only [List.cons_append, walk, Except.bind_eq_ok_iff, induction]
      constructor
      · rintro ⟨first, stepped, middle, walked, onward⟩
        exact ⟨middle, ⟨first, stepped, walked⟩, onward⟩
      · rintro ⟨middle, ⟨first, stepped, walked⟩, onward⟩
        exact ⟨first, stepped, middle, walked, onward⟩

theorem Keeps.walk (keeps : tree.Keeps later) (result : tree.walk place names = .ok next) :
    later.walk place names = .ok next := by
  induction names generalizing place with
  | nil => exact result
  | cons name rest induction =>
      rw [FileTree.walk, Except.bind_eq_ok_iff] at result ⊢
      obtain ⟨middle, stepped, walked⟩ := result
      exact ⟨middle, keeps.step stepped, induction walked⟩

/-- The place that a path leads to from a starting directory, if it leads anywhere. -/
def target (here : List String) (path : Path) : List String :=
  path.names.foldl advance (if path.isAbsolute then [] else here)

def origin (here : List String) (path : Path) : List String := if path.isAbsolute then [] else here

theorem target_eq (here : List String) (path : Path) :
    target here path = path.names.foldl advance (origin here path) := rfl

theorem start_eq_ok_iff :
    tree.start path = .ok place ↔
      '\x00' ∉ path.text.toList ∧ path.size ≤ pathLimit ∧ place = origin tree.here path := by
  rw [start, origin]
  split
  · rename_i nul
    simp [List.contains_iff_mem.mp nul]
  · rename_i noNul
    rw [List.contains_iff_mem] at noNul
    split
    · rename_i long
      simp [Nat.not_le.mpr long]
    · rename_i short
      rw [and_iff_right noNul, and_iff_right (Nat.not_lt.mp short), Except.ok.injEq, eq_comm]

theorem start_of_here (same : later.here = tree.here) (result : later.start path = .ok place) :
    tree.start path = .ok place := by
  rw [start_eq_ok_iff] at result ⊢
  rwa [← same]

theorem locate_eq_ok (result : tree.locate path = .ok place) :
    place = target tree.here path := by
  rw [locate, Except.bind_eq_ok_iff] at result
  obtain ⟨origin, started, walked⟩ := result
  rw [target_eq, ← (start_eq_ok_iff.mp started).2.2]
  exact walk_eq_ok walked

theorem Keeps.locate (keeps : tree.Keeps later) (result : tree.locate path = .ok place) :
    later.locate path = .ok place := by
  rw [FileTree.locate, Except.bind_eq_ok_iff] at result ⊢
  obtain ⟨origin, started, walked⟩ := result
  exact ⟨origin, start_of_here keeps.here.symm started, keeps.walk walked⟩

/-- Ends a change where a tree is now. -/
def stop {ε : Type} (tree : FileTree) (error : ε) : Stop ε := ⟨error, tree⟩

/-- Goes along names from a place and makes the directories that are missing. A file on the way is
not a directory to go through; it is in the way of a new one at the end of the names, and after a
directory has been made. -/
def makeAlong (tree : FileTree) (made : Bool) (place : List String) :
    List String → Except (Stop SystemError) FileTree
  | [] => .ok tree
  | name :: rest => do
    let next ← (tree.step place name).mapError tree.stop
    match tree.at? next with
    | none => makeAlong (tree.put next .directory) true next rest
    | some .directory => makeAlong tree made next rest
    | some (.file _) =>
      throw (tree.stop (if made || rest.isEmpty then .alreadyExists else .notDirectory))

/-- Makes what is missing of a directory and those around it by going along the path. -/
def makeDirectories (tree : FileTree) (path : Path) : Except (Stop SystemError) FileTree := do
  let place ← (tree.start path).mapError tree.stop
  tree.makeAlong false place path.names

/-- The tree that a change leaves, whether it has come to its end or not. -/
def left {ε : Type} : Except (Stop ε) FileTree → FileTree
  | .ok tree => tree
  | .error stop => stop.tree

/-- All that a later tree has more is directories, at places among the given ones. -/
structure Makes (tree later : FileTree) (places : List (List String)) : Prop where
  here : later.here = tree.here
  node : ∀ other, later.at? other = tree.at? other ∨
    other ∈ places ∧ tree.at? other = none ∧ later.at? other = some .directory

theorem Makes.refl (tree : FileTree) (places : List (List String)) : tree.Makes tree places :=
  ⟨rfl, fun _ => .inl rfl⟩

theorem Makes.mono {places others : List (List String)} (makes : tree.Makes later places)
    (within : places ⊆ others) : tree.Makes later others :=
  ⟨makes.here, fun other => (makes.node other).imp_right fun made => ⟨within made.1, made.2⟩⟩

theorem Makes.trans {places : List (List String)} (first : tree.Makes later places)
    (second : later.Makes last places) : tree.Makes last places := by
  refine ⟨second.here.trans first.here, ?_⟩
  intro other
  rcases second.node other with same | ⟨member, absent, made⟩
  · rw [same]
    exact first.node other
  · rcases first.node other with before | ⟨_, _, already⟩
    · exact .inr ⟨member, before ▸ absent, made⟩
    · simp [absent] at already

theorem Makes.grows {places : List (List String)} (makes : tree.Makes later places) :
    tree.Grows later := by
  refine ⟨makes.here, ?_⟩
  intro place node present
  rcases makes.node place with same | ⟨_, absent, _⟩
  · rw [same, present]
  · simp [absent] at present

theorem makes_put (tree : FileTree) (absent : tree.at? place = none) :
    tree.Makes (tree.put place .directory) [place] := by
  refine ⟨rfl, ?_⟩
  intro other
  rw [at?_put]
  by_cases same : other = place
  · exact .inr ⟨by simp [same], by rw [same, absent], by simp [same]⟩
  · rw [if_neg same]
    split
    · rename_i root
      exact .inl (by rw [root]; rfl)
    · exact .inl rfl

/-- Directories are made on the way along the names, as far as it is possible. -/
theorem makes_makeAlong (tree : FileTree) (made : Bool) (place names : List String) :
    tree.Makes (left (tree.makeAlong made place names)) (route place names) := by
  induction names generalizing tree made place with
  | nil => exact .refl tree _
  | cons name rest induction =>
      rw [makeAlong]
      cases stepped : tree.step place name with
      | error error => exact .refl tree _
      | ok next =>
          obtain ⟨_, _, rfl⟩ := step_eq_ok_iff.mp stepped
          have onward : route (advance place name) rest ⊆ route place (name :: rest) :=
            List.subset_cons_self ..
          simp only [Except.mapError, bind, Except.bind]
          cases found : tree.at? (advance place name) with
          | none =>
              have first := makes_put tree found
              exact (first.mono (by simp [route])).trans ((induction _ _ _).mono onward)
          | some node =>
              cases node with
              | directory => exact (induction _ _ _).mono onward
              | file bytes => exact .refl tree _

theorem grows_of_makeDirectories (result : tree.makeDirectories path = .ok later) :
    tree.Grows later := by
  rw [makeDirectories, Except.bind_eq_ok_iff] at result
  obtain ⟨place, _, made⟩ := result
  have makes := makes_makeAlong tree false place path.names
  rw [made] at makes
  exact makes.grows

theorem writeFile_eq_ok_iff :
    tree.writeFile path content = .ok later ↔
      tree.locate path = .ok (target tree.here path) ∧ path.isClosed = false ∧
        tree.at? (target tree.here path) ≠ some .directory ∧
        later = tree.put (target tree.here path) (.file content) := by
  rw [writeFile, Except.bind_eq_ok_iff]
  constructor
  · rintro ⟨place, located, result⟩
    have led := locate_eq_ok located
    subst led
    refine ⟨located, ?_⟩
    cases closed : path.isClosed with
    | true => simp [closed, Except.bind_eq_ok_iff] at result
    | false =>
        simp only [closed, Bool.false_eq_true, if_false] at result
        refine ⟨rfl, ?_⟩
        split at result
        · simp at result
        · rename_i replaceable
          exact ⟨replaceable, (Except.ok.inj result).symm⟩
  · rintro ⟨located, opened, replaceable, rfl⟩
    refine ⟨_, located, ?_⟩
    simp only [opened, Bool.false_eq_true, if_false]
    rfl

theorem readFile_eq_ok_iff :
    tree.readFile path = .ok content ↔
      tree.locate path = .ok (target tree.here path) ∧ path.isClosed = false ∧
        tree.at? (target tree.here path) = some (.file content) := by
  rw [readFile, Except.bind_eq_ok_iff]
  constructor
  · rintro ⟨place, located, result⟩
    have led := locate_eq_ok located
    subst led
    refine ⟨located, ?_⟩
    cases found : tree.at? (target tree.here path) with
    | none => simp [found] at result
    | some node =>
        cases node with
        | directory => simp [found] at result
        | file bytes =>
            cases closed : path.isClosed with
            | true => simp [found, closed] at result
            | false => simpa [found, closed, pure, Except.pure] using result
  · rintro ⟨located, opened, found⟩
    refine ⟨_, located, ?_⟩
    simp [found, opened, pure, Except.pure]

/-- A file that later changes leave alone reads the same. -/
theorem readFile_of_keeps (keeps : tree.Keeps later) (result : tree.readFile path = .ok content)
    (kept : ∀ {node}, tree.at? (target tree.here path) = some node →
      later.at? (target tree.here path) = some node) :
    later.readFile path = .ok content := by
  obtain ⟨located, opened, found⟩ := readFile_eq_ok_iff.mp result
  rw [readFile_eq_ok_iff, keeps.here]
  exact ⟨keeps.locate located, opened, kept found⟩

/-- The pieces of a path below a directory are those of the name, behind those of the directory. -/
theorem exists_pieces_below (directory name : String) :
    ∃ outer, (Path.below directory name).pieces = outer ++ (Path.mk name).pieces ∧
      outer.filter (· ≠ "") = (Path.mk directory).names := by
  have joined (front back : String) :
      (Path.mk (front ++ "/" ++ back)).pieces = (Path.mk front).pieces ++ (Path.mk back).pieces :=
    Text.split_append front back
  rw [Path.below]
  split
  · rename_i closed
    by_cases none : directory = ""
    · exact ⟨[], by rw [none, String.empty_append, List.nil_append], by rw [none]; rfl⟩
    · have slash := closed.resolve_left none
      obtain ⟨front, letters⟩ := List.getLast?_eq_some_iff.mp slash
      have split : directory = String.ofList front ++ "/" ++ "" := by
        rw [← String.toList_inj, letters]
        simp
      refine ⟨(Path.mk (String.ofList front)).pieces, ?_, ?_⟩
      · rw [split, String.append_empty]
        exact joined _ name
      · have noNames : (Path.mk "").pieces.filter (· ≠ "") = [] := rfl
        rw [split, Path.names, joined, List.filter_append, noNames, List.append_nil]
  · exact ⟨(Path.mk directory).pieces, joined directory name, rfl⟩

theorem names_below (directory name : String) :
    (Path.below directory name).names = (Path.mk directory).names ++ (Path.mk name).names := by
  obtain ⟨outer, pieces, names⟩ := exists_pieces_below directory name
  rw [Path.names, pieces, List.filter_append, names]
  rfl

theorem origin_below (here : List String) (directory : String) {name : String}
    (relative : name.toList.head? ≠ some '/') :
    origin here (.below directory name) = origin here ⟨directory⟩ := by
  have absolute : (Path.below directory name).isAbsolute = (Path.mk directory).isAbsolute := by
    rw [Path.isAbsolute, Path.isAbsolute, Path.below]
    by_cases none : directory = ""
    · simpa [none] using relative
    · obtain ⟨first, rest, letters⟩ : ∃ first rest, directory.toList = first :: rest := by
        refine List.exists_cons_of_ne_nil fun nil => none ?_
        rwa [String.toList_eq_nil_iff] at nil
      split <;> simp [letters]
  rw [origin, origin, absolute]

/-- A relative name leads on from where the directory is. -/
theorem target_below (here : List String) (directory : String) {name : String}
    (relative : name.toList.head? ≠ some '/') :
    target here (.below directory name) =
      (Path.mk name).names.foldl advance (target here ⟨directory⟩) := by
  rw [target_eq, target_eq, names_below, origin_below here directory relative, List.foldl_append]

/-- Names that do not lead upwards lead on, but for dots. -/
theorem foldl_advance (stays : ".." ∉ names) (place : List String) :
    names.foldl advance place = place ++ names.filter (· ≠ ".") := by
  induction names generalizing place with
  | nil => simp
  | cons name rest induction =>
      rw [List.mem_cons, not_or] at stays
      rw [List.foldl_cons, induction stays.2, advance, if_neg (Ne.symm stays.1)]
      by_cases dot : name = "."
      · simp [dot]
      · simp [dot]

end RpcProxy.FileTree

import RpcProxy.Proofs.Save

/-!
# Nothing is saved elsewhere

Whatever comes of saving entries below a directory, files are written strictly below it, and outside
nothing happens but that missing directories on the way to it are made.
-/

namespace RpcProxy.FileTree

variable {tree later last : FileTree} {directory : String} {entry : ResponseFile}
  {place next names : List String}

/-- What changes is strictly below a directory, but for directories that are made on the way to
it. -/
structure ChangesBelow (tree later : FileTree) (directory : String) : Prop where
  here : later.here = tree.here
  node : ∀ place, later.at? place = tree.at? place ∨
    (∃ name rest, place = target tree.here ⟨directory⟩ ++ name :: rest) ∨
    place ∈ route (origin tree.here ⟨directory⟩) (Path.mk directory).names ∧
      tree.at? place = none ∧ later.at? place = some .directory

theorem ChangesBelow.refl (tree : FileTree) (directory : String) :
    tree.ChangesBelow tree directory := ⟨rfl, fun _ => .inl rfl⟩

theorem ChangesBelow.trans (first : tree.ChangesBelow later directory)
    (second : later.ChangesBelow last directory) : tree.ChangesBelow last directory := by
  refine ⟨second.here.trans first.here, ?_⟩
  intro place
  have after := second.node place
  rw [first.here] at after
  rcases after with same | below | ⟨onTheWay, absent, made⟩
  · rw [same]
    exact first.node place
  · exact .inr (.inl below)
  · rcases first.node place with before | below | ⟨_, _, already⟩
    · exact .inr (.inr ⟨onTheWay, before ▸ absent, made⟩)
    · exact .inr (.inl below)
    · simp [absent] at already

/-- Names that do not lead upwards stay below where they start. -/
theorem exists_of_mem_route {other : List String} (stays : ".." ∉ names)
    (member : other ∈ route place names) : ∃ rest, other = place ++ rest := by
  induction names generalizing place with
  | nil => exact ⟨[], by simpa [route] using member⟩
  | cons name names induction =>
      rw [List.mem_cons, not_or] at stays
      rw [route, List.mem_cons] at member
      rcases member with rfl | onward
      · exact ⟨[], by simp⟩
      · obtain ⟨rest, rfl⟩ := induction stays.2 onward
        rw [advance, if_neg (Ne.symm stays.1)]
        split
        · exact ⟨rest, rfl⟩
        · exact ⟨name :: rest, by simp⟩

private theorem names_ne_nil {name : String} (named : name ≠ "")
    (relative : name.toList.head? ≠ some '/') : (Path.mk name).names ≠ [] := by
  intro none
  have idle : ∀ piece ∈ (Path.mk name).pieces, piece = "" := by
    intro piece member
    by_contra some
    have inNames : piece ∈ (Path.mk name).names :=
      List.mem_filter.mpr ⟨member, decide_eq_true some⟩
    simp [none] at inNames
  have whole : String.intercalate "/" (Path.mk name).pieces = name :=
    Path.intercalate_pieces ⟨name⟩
  obtain ⟨first, others, split⟩ : ∃ first others, (Path.mk name).pieces = first :: others :=
    List.exists_cons_of_ne_nil (Text.split_ne_nil '/' name)
  rw [split] at whole idle
  have empty : first = "" := idle first List.mem_cons_self
  by_cases noMore : others = []
  · rw [noMore, String.intercalate_singleton] at whole
    exact named (whole.symm.trans empty)
  · rw [← List.singleton_append, String.intercalate_append_of_ne_nil (by simp) noMore,
      String.intercalate_singleton, empty, String.empty_append] at whole
    exact relative (by simp [← whole])

/-- A path that ends with a dot leads to a directory. -/
theorem at?_of_walk_dot (result : tree.walk place (names ++ ["."]) = .ok next) :
    tree.at? next = some .directory := by
  obtain ⟨middle, _, stepped⟩ := walk_append_eq_ok_iff.mp result
  rw [walk, Except.bind_eq_ok_iff] at stepped
  obtain ⟨place, stepped, arrived⟩ := stepped
  obtain ⟨present, _, rfl⟩ := step_eq_ok_iff.mp stepped
  exact Except.ok.inj arrived ▸ present

private theorem place_ne_nil (accepted : entry.isRefused = false)
    (located : tree.locate (.below directory (entry.name.getD "")) = .ok next)
    (replaceable : tree.at? next ≠ some .directory) : entry.place ≠ [] := by
  intro none
  obtain ⟨named, relative, _⟩ := of_accepted accepted
  obtain ⟨outer, last, split⟩ :=
    (List.eq_nil_or_concat _).resolve_left (names_ne_nil named relative)
  have dot : last = "." := by
    by_contra leads
    have inPlace : last ∈ entry.place :=
      List.mem_filter.mpr ⟨by simp [split], decide_eq_true leads⟩
    simp [none] at inPlace
  rw [locate, Except.bind_eq_ok_iff] at located
  obtain ⟨_, _, walked⟩ := located
  rw [names_below, split, dot, List.concat_eq_append, ← List.append_assoc] at walked
  exact replaceable (at?_of_walk_dot walked)

theorem changesBelow_of_saveFile (tree : FileTree) (directory : String) (entry : ResponseFile) :
    tree.ChangesBelow (left (tree.saveFile directory entry)) directory := by
  cases accepted : entry.isRefused with
  | true =>
      rw [saveFile_of_refused accepted]
      exact .refl tree directory
  | false =>
      have asSaved (outcome : Except (Stop SystemError) FileTree) :
          left (outcome.mapError fun stop => (⟨.system stop.error, stop.tree⟩ : Stop SaveError)) =
            left outcome := by
        cases outcome <;> rfl
      obtain ⟨_, relative, stays⟩ := of_accepted accepted
      obtain ⟨made, makes, outcome⟩ := exists_made tree (.below directory (entry.name.getD ""))
        (Wire.utf8 (entry.content.getD ""))
      have isMade : tree.ChangesBelow made directory := by
        refine ⟨makes.here, ?_⟩
        intro place
        rcases makes.node place with same | ⟨member, absent, made⟩
        · exact .inl same
        · rw [origin_below _ _ relative, names_below, mem_route_append, ← target_eq] at member
          rcases member with onTheWay | behind
          · exact .inr (.inr ⟨onTheWay, absent, made⟩)
          · obtain ⟨rest, rfl⟩ := exists_of_mem_route stays behind
            cases rest with
            | nil =>
                rw [List.append_nil] at absent made ⊢
                exact .inr (.inr ⟨foldl_mem_route _ _, absent, made⟩)
            | cons name rest => exact .inr (.inl ⟨name, rest, rfl⟩)
      rw [saveFile_of_accepted accepted, asSaved]
      rcases outcome with nothing | ⟨located, replaceable, written⟩
      · rw [nothing]
        exact isMade
      · rw [written]
        refine isMade.trans ⟨rfl, ?_⟩
        intro place
        by_cases same : place = target tree.here (.below directory (entry.name.getD ""))
        -- The directory itself is no place for the file: only dots lead there.
        · obtain ⟨name, rest, leads⟩ :=
            List.exists_cons_of_ne_nil (place_ne_nil accepted located replaceable)
          rw [target_entry accepted, leads] at same
          exact .inr (.inl ⟨name, rest, by rw [makes.here]; exact same⟩)
        · exact .inl (at?_put_of_ne same _)

/-- Saving changes nothing but what is below the directory, whatever comes of it. -/
theorem changesBelow_of_saveFiles (tree : FileTree) (directory : String)
    (entries : List ResponseFile) :
    tree.ChangesBelow (tree.saveFiles directory entries).1 directory := by
  induction entries generalizing tree with
  | nil => exact .refl tree directory
  | cons entry rest induction =>
      have first := changesBelow_of_saveFile tree directory entry
      rw [saveFiles_cons]
      cases result : tree.saveFile directory entry with
      | error stop =>
          rw [result] at first
          exact first
      | ok saved =>
          rw [result] at first
          exact first.trans (induction saved)

end RpcProxy.FileTree

import RpcProxy.Proofs.SavedBelow

/-!
# The tree that a response leaves

Entries are saved below a directory and nowhere else. Plain names that are not in each other's way
are all saved, and an empty directory then has nothing but their files and the directories around
these. A refused name ends it with the tree that the entries before have left.
-/

namespace RpcProxy

namespace ResponseFile

/-- The pieces of the name of an entry between its slashes. -/
def pieces (entry : ResponseFile) : List String := Text.split '/' (entry.name.getD "")

/-- Every piece of the name leads one directory further, so the name is a relative one as well. -/
def IsPlain (entry : ResponseFile) : Prop :=
  ∀ piece ∈ entry.pieces, piece ≠ "" ∧ piece ≠ "." ∧ piece ≠ ".."

instance (entry : ResponseFile) : Decidable entry.IsPlain :=
  inferInstanceAs (Decidable (∀ piece ∈ entry.pieces, _))

/-- A name that a file system takes below a directory. -/
structure WithinLimits (entry : ResponseFile) (directory : String) : Prop where
  noNul : '\x00' ∉ (entry.name.getD "").toList
  piece : ∀ piece ∈ entry.pieces, (Wire.utf8 piece).length ≤ FileTree.nameLimit
  path : (Path.below directory (entry.name.getD "")).size ≤ FileTree.pathLimit

/-- The name of neither of two entries is that of the other or of a directory around it. -/
def Apart (left right : ResponseFile) : Prop :=
  ¬left.pieces <+: right.pieces ∧ ¬right.pieces <+: left.pieces

variable {entry other : ResponseFile} {entries : List ResponseFile}

theorem pieces_ne_nil (entry : ResponseFile) : entry.pieces ≠ [] := Text.split_ne_nil '/' _

theorem IsPlain.names (plain : entry.IsPlain) :
    (Path.mk (entry.name.getD "")).names = entry.pieces :=
  List.filter_eq_self.mpr fun piece member => decide_eq_true (plain piece member).1

theorem IsPlain.place (plain : entry.IsPlain) : entry.place = entry.pieces := by
  rw [ResponseFile.place, plain.names]
  exact List.filter_eq_self.mpr fun piece member => decide_eq_true (plain piece member).2.1

theorem isRefused_eq_true_iff :
    entry.isRefused = true ↔
      entry.name.getD "" = "" ∨ (∃ rest, entry.name.getD "" = "/" ++ rest) ∨
        ".." ∈ entry.pieces := by
  have absolute :
      (entry.name.getD "").toList.head? = some '/' ↔ ∃ rest, entry.name.getD "" = "/" ++ rest := by
    rw [List.head?_eq_some_iff]
    constructor
    · rintro ⟨rest, letters⟩
      exact ⟨String.ofList rest, by rw [← String.toList_inj, letters]; simp⟩
    · rintro ⟨rest, text⟩
      exact ⟨rest.toList, by rw [text]; simp⟩
  rw [isRefused, Bool.or_eq_true, Bool.or_eq_true, beq_iff_eq, beq_iff_eq, absolute, or_assoc,
    List.contains_iff_mem, pieces]

theorem IsPlain.isRefused (plain : entry.IsPlain) : entry.isRefused = false := by
  rw [← Bool.not_eq_true, isRefused_eq_true_iff]
  rintro (none | ⟨rest, absolute⟩ | upwards)
  · exact (plain "" (by rw [pieces, none]; decide)).1 rfl
  · refine (plain "" ?_).1 rfl
    have split : entry.pieces = [""] ++ Text.split '/' rest := by
      rw [pieces, absolute]
      exact Text.split_append "" rest
    simp [split]
  · exact (plain ".." upwards).2.2 rfl

/-- A plain name below a directory leads on from the names of the directory. -/
theorem IsPlain.exists_outer {inner : List String} {last : String} (plain : entry.IsPlain)
    (directory : String) (split : entry.pieces = inner ++ [last]) :
    ∃ outer, (Path.below directory (entry.name.getD "")).pieces = outer ++ [last] ∧
      outer.filter (· ≠ "") = (Path.mk directory).names ++ inner := by
  obtain ⟨outer, below, names⟩ := FileTree.exists_pieces_below directory (entry.name.getD "")
  have kept : inner.filter (· ≠ "") = inner := by
    rw [List.filter_eq_self]
    exact fun name member => decide_eq_true (plain name (by simp [split, member])).1
  refine ⟨outer ++ inner, ?_, by rw [List.filter_append, names, kept]⟩
  rw [below, List.append_assoc, ← split]
  rfl

/-- A name whose pieces begin another's is that name or that of a directory around it. -/
theorem name_of_pieces_prefix (begins : entry.pieces <+: other.pieces) :
    other.name.getD "" = entry.name.getD "" ∨
      ∃ rest, other.name.getD "" = entry.name.getD "" ++ "/" ++ rest := by
  have whole (entry : ResponseFile) : String.intercalate "/" entry.pieces = entry.name.getD "" :=
    Path.intercalate_pieces ⟨entry.name.getD ""⟩
  obtain ⟨back, split⟩ := begins
  rw [← whole other, ← whole entry, ← split]
  by_cases noMore : back = []
  · exact .inl (by rw [noMore, List.append_nil])
  · exact .inr ⟨_, String.intercalate_append_of_ne_nil entry.pieces_ne_nil noMore⟩

theorem pairwise_apart (distinct : (entries.map (·.name.getD "")).Nodup)
    (noneAround : ∀ left ∈ entries, ∀ right ∈ entries, ∀ rest,
      right.name.getD "" ≠ left.name.getD "" ++ "/" ++ rest) :
    entries.Pairwise Apart := by
  rw [List.Nodup, List.pairwise_map] at distinct
  refine distinct.imp_of_mem ?_
  intro left right leftMember rightMember differ
  constructor
  · intro begins
    rcases name_of_pieces_prefix begins with same | ⟨rest, around⟩
    · exact differ same.symm
    · exact noneAround left leftMember right rightMember rest around
  · intro begins
    rcases name_of_pieces_prefix begins with same | ⟨rest, around⟩
    · exact differ same
    · exact noneAround right rightMember left leftMember rest around

end ResponseFile

namespace FileTree

variable {tree later saved : FileTree} {directory : String} {entry : ResponseFile}
  {entries done : List ResponseFile} {place names : List String}

/-- A path that leads to a directory. -/
structure HasDirectory (tree : FileTree) (directory : String) : Prop where
  located : tree.locate ⟨directory⟩ = .ok (target tree.here ⟨directory⟩)
  present : tree.at? (target tree.here ⟨directory⟩) = some .directory

theorem HasDirectory.through (has : tree.HasDirectory directory) :
    tree.start ⟨directory⟩ = .ok (origin tree.here ⟨directory⟩) ∧
      (∀ name ∈ (Path.mk directory).names, Fits name) ∧
      ∀ other ∈ route (origin tree.here ⟨directory⟩) (Path.mk directory).names,
        tree.at? other = some .directory := by
  have located := has.located
  rw [locate, Except.bind_eq_ok_iff] at located
  obtain ⟨place, started, walked⟩ := located
  obtain ⟨_, _, rfl⟩ := start_eq_ok_iff.mp started
  obtain ⟨fits, _, through⟩ := walk_directory_iff.mp ⟨walked, has.present⟩
  exact ⟨started, fits, through⟩

theorem HasDirectory.keeps (has : tree.HasDirectory directory) (keeps : tree.Keeps later) :
    later.HasDirectory directory := by
  refine ⟨?_, ?_⟩
  · rw [keeps.here]
    exact keeps.locate has.located
  · rw [keeps.here]
    exact keeps.directory has.present

/-- Names that lead on are the beginnings of a route. -/
theorem mem_route_iff_of_plain {other : List String}
    (plain : ∀ name ∈ names, name ≠ "." ∧ name ≠ "..") :
    other ∈ route place names ↔ ∃ front, front <+: names ∧ other = place ++ front := by
  induction names generalizing place with
  | nil => simp [route]
  | cons name rest induction =>
      rw [List.forall_mem_cons] at plain
      have leads : advance place name = place ++ [name] := by
        rw [advance, if_neg plain.1.1, if_neg plain.1.2]
      rw [route, List.mem_cons, leads, induction plain.2]
      constructor
      · rintro (rfl | ⟨front, begins, rfl⟩)
        · exact ⟨[], List.nil_prefix, by simp⟩
        · exact ⟨name :: front, List.cons_prefix_cons.mpr ⟨rfl, begins⟩, by simp⟩
      · rintro ⟨front, begins, rfl⟩
        cases front with
        | nil => exact .inl (by simp)
        | cons first front =>
            obtain ⟨rfl, onward⟩ := List.cons_prefix_cons.mp begins
            exact .inr ⟨front, onward, by simp⟩

private theorem prefix_iff_proper {front inner : List String} {last : String} :
    front <+: inner ↔ front <+: inner ++ [last] ∧ front ≠ inner ++ [last] := by
  rw [List.prefix_concat_iff]
  constructor
  · intro begins
    refine ⟨.inr begins, ?_⟩
    rintro rfl
    have shorter := begins.length_le
    rw [List.length_append, List.length_singleton] at shorter
    omega
  · exact fun begins => begins.1.resolve_left begins.2

/-- The path of an entry is one that a file system takes if the path of the directory is. -/
theorem start_below (has : tree.HasDirectory directory) (accepted : entry.isRefused = false)
    (within : entry.WithinLimits directory) :
    tree.start (.below directory (entry.name.getD "")) = .ok (origin tree.here ⟨directory⟩) := by
  obtain ⟨_, relative, _⟩ := of_accepted accepted
  obtain ⟨noNul, _, _⟩ := start_eq_ok_iff.mp has.through.1
  refine start_eq_ok_iff.mpr ⟨?_, within.path, (origin_below _ _ relative).symm⟩
  rw [Path.below]
  split <;> simp [noNul, within.noNul]

/-- What a tree has more when a file has been saved at pieces below a place: the file, and around it
directories. -/
structure Adds (tree later : FileTree) (place pieces : List String) (content : List UInt8) :
    Prop where
  here : later.here = tree.here
  file : later.at? (place ++ pieces) = some (.file content)
  around : ∀ {front}, front <+: pieces → front ≠ pieces →
    later.at? (place ++ front) = some .directory
  other : ∀ {other}, (∀ front, front <+: pieces → other ≠ place ++ front) →
    later.at? other = tree.at? other

/-- An entry with a plain name is saved below a directory if no file is in the way of its
directories and no directory in its own. -/
theorem exists_saveFile (has : tree.HasDirectory directory) (plain : entry.IsPlain)
    (within : entry.WithinLimits directory)
    (free : ∀ front, front <+: entry.pieces → front ≠ entry.pieces → ∀ content,
      tree.at? (target tree.here ⟨directory⟩ ++ front) ≠ some (.file content))
    (replaceable : tree.at? (target tree.here ⟨directory⟩ ++ entry.pieces) ≠ some .directory) :
    ∃ saved, tree.saveFile directory entry = .ok saved ∧
      tree.Adds saved (target tree.here ⟨directory⟩) entry.pieces
        (Wire.utf8 (entry.content.getD "")) := by
  obtain ⟨_, dirFits, through⟩ := has.through
  obtain ⟨inner, last, entryPieces⟩ := (List.eq_nil_or_concat _).resolve_left entry.pieces_ne_nil
  rw [List.concat_eq_append] at entryPieces
  obtain ⟨outer, split, around⟩ := plain.exists_outer directory entryPieces
  have properly {front : List String} :
      front <+: inner ↔ front <+: entry.pieces ∧ front ≠ entry.pieces := by
    rw [entryPieces]
    exact prefix_iff_proper
  have isTarget : target tree.here (.below directory (entry.name.getD "")) =
      target tree.here ⟨directory⟩ ++ entry.pieces := by
    rw [target_entry plain.isRefused, plain.place]
  have onRoute (other : List String) :
      other ∈ route (origin tree.here ⟨directory⟩) (outer.filter (· ≠ "")) ↔
        other ∈ route (origin tree.here ⟨directory⟩) (Path.mk directory).names ∨
          ∃ front, front <+: inner ∧ other = target tree.here ⟨directory⟩ ++ front := by
    have innerPlain : ∀ name ∈ inner, name ≠ "." ∧ name ≠ ".." :=
      fun name member => (plain name (by simp [entryPieces, member])).2
    rw [around, mem_route_append, ← target_eq, mem_route_iff_of_plain innerPlain]
  have fits : ∀ name ∈ (Path.below directory (entry.name.getD "")).names, Fits name := by
    rw [names_below, plain.names, List.forall_mem_append]
    exact ⟨dirFits, fun piece member => .inr (.inr (within.piece piece member))⟩
  have noFile : ∀ other ∈ route (origin tree.here ⟨directory⟩) (outer.filter (· ≠ "")),
      ∀ content, tree.at? other ≠ some (.file content) := by
    intro other member content isFile
    rcases (onRoute other).mp member with onTheWay | ⟨front, begins, rfl⟩
    · simp [through other onTheWay] at isFile
    · exact free front (properly.mp begins).1 (properly.mp begins).2 content isFile
  have fresh : target tree.here (.below directory (entry.name.getD "")) ∉
      route (origin tree.here ⟨directory⟩) (outer.filter (· ≠ "")) := by
    rw [onRoute, isTarget]
    rintro (onTheWay | ⟨front, begins, same⟩)
    · exact replaceable (through _ onTheWay)
    · exact (properly.mp begins).2 (List.append_cancel_left same).symm
  obtain ⟨named, dot, _⟩ := plain last (by simp [entryPieces])
  obtain ⟨saved, result, here, nodes⟩ := exists_save (Wire.utf8 (entry.content.getD ""))
    (start_below has plain.isRefused within) split named dot (through _ (self_mem_route _ _)) fits
    noFile fresh (isTarget ▸ replaceable)
  refine ⟨saved, ?_, here, ?_, ?_, ?_⟩
  · rw [saveFile_of_accepted plain.isRefused, result]
    rfl
  · rw [nodes, if_pos isTarget.symm]
  · intro front begins differs
    rw [nodes, if_neg, if_pos]
    · exact (onRoute _).mpr (.inr ⟨front, properly.mpr ⟨begins, differs⟩, rfl⟩)
    · rw [isTarget]
      exact fun same => differs (List.append_cancel_left same)
  · intro other elsewhere
    rw [nodes, if_neg]
    · split_ifs with member
      · rcases (onRoute other).mp member with onTheWay | ⟨front, begins, same⟩
        · rw [through other onTheWay]
        · exact absurd same (elsewhere front (properly.mp begins).1)
      · rfl
    · rw [isTarget]
      exact elsewhere _ (List.prefix_refl _)

/-- A directory with nothing in it. -/
structure HasEmptyDirectory (tree : FileTree) (directory : String) : Prop extends
    tree.HasDirectory directory where
  empty : ∀ name rest, tree.at? (target tree.here ⟨directory⟩ ++ name :: rest) = none

/-- A tree has the files of entries below a directory, the directories around them, and nothing else
there. Elsewhere it is another tree. -/
structure Holds (later tree : FileTree) (directory : String) (entries : List ResponseFile) :
    Prop where
  here : later.here = tree.here
  file : ∀ place content,
    later.at? (target tree.here ⟨directory⟩ ++ place) = some (.file content) ↔
      ∃ entry ∈ entries, entry.pieces = place ∧ Wire.utf8 (entry.content.getD "") = content
  around : ∀ name rest,
    later.at? (target tree.here ⟨directory⟩ ++ name :: rest) = some .directory ↔
      ∃ entry ∈ entries, name :: rest <+: entry.pieces ∧ name :: rest ≠ entry.pieces
  elsewhere : ∀ place, ¬target tree.here ⟨directory⟩ <+: place → later.at? place = tree.at? place

theorem HasEmptyDirectory.holds (has : tree.HasEmptyDirectory directory) :
    tree.Holds tree directory [] := by
  refine ⟨rfl, ?_, ?_, fun _ _ => rfl⟩
  · intro place content
    cases place with
    | nil => simp [has.present]
    | cons name rest => simp [has.empty]
  · simp [has.empty]

/-- One more entry is saved beside those that are there. -/
theorem Holds.concat (holds : later.Holds tree directory done)
    (adds : later.Adds saved (target tree.here ⟨directory⟩) entry.pieces
      (Wire.utf8 (entry.content.getD "")))
    (apart : ∀ other ∈ done, other.Apart entry) :
    saved.Holds tree directory (done ++ [entry]) := by
  have unrelated {place : List String} (differs : ¬place <+: entry.pieces) :
      saved.at? (target tree.here ⟨directory⟩ ++ place) =
        later.at? (target tree.here ⟨directory⟩ ++ place) := by
    refine adds.other ?_
    intro front begins same
    exact differs (List.append_cancel_left same ▸ begins)
  refine ⟨adds.here.trans holds.here, ?_, ?_, ?_⟩
  · intro place content
    simp only [List.mem_append, List.mem_singleton, or_and_right, exists_or, exists_eq_left]
    by_cases begins : place <+: entry.pieces
    · have none : ¬∃ other ∈ done, other.pieces = place ∧
          Wire.utf8 (other.content.getD "") = content := by
        rintro ⟨other, member, rfl, _⟩
        exact (apart other member).1 begins
      rw [or_iff_right none]
      by_cases same : place = entry.pieces
      · subst same
        simp [adds.file]
      · simp [adds.around begins same, Ne.symm same]
    · have differs : entry.pieces ≠ place := fun same => begins (same ▸ List.prefix_refl _)
      rw [unrelated begins, holds.file]
      simp [differs]
  · intro name rest
    simp only [List.mem_append, List.mem_singleton, or_and_right, exists_or, exists_eq_left]
    by_cases begins : name :: rest <+: entry.pieces
    · by_cases same : name :: rest = entry.pieces
      · have none :
            ¬∃ other ∈ done, entry.pieces <+: other.pieces ∧ entry.pieces ≠ other.pieces := by
          rintro ⟨other, member, around, _⟩
          exact (apart other member).2 around
        rw [same, adds.file, or_iff_right none]
        simp
      · simp [adds.around begins same, begins, same]
    · rw [unrelated begins, holds.around]
      simp [begins]
  · intro place outside
    rw [adds.other, holds.elsewhere place outside]
    rintro front _ rfl
    exact outside (List.prefix_append _ _)

/-- Entries with plain names that are apart are all saved beside those that are there. -/
theorem Holds.saveFiles (holds : later.Holds tree directory done)
    (has : later.HasDirectory directory)
    (plain : ∀ entry ∈ entries, entry.IsPlain ∧ entry.WithinLimits directory)
    (apart : (done ++ entries).Pairwise ResponseFile.Apart) :
    ∃ final, later.saveFiles directory entries =
        (final, .ok (entries.map (·.name.getD ""))) ∧
      final.Holds tree directory (done ++ entries) := by
  induction entries generalizing later done with
  | nil => exact ⟨later, rfl, by simpa using holds⟩
  | cons entry rest induction =>
      rw [List.forall_mem_cons] at plain
      obtain ⟨_, _, between⟩ := List.pairwise_append.mp apart
      have apartHere : ∀ other ∈ done, other.Apart entry :=
        fun other member => between other member entry List.mem_cons_self
      obtain ⟨saved, result, adds⟩ := exists_saveFile has plain.1.1 plain.1.2
        (by
          intro front begins _ content isFile
          rw [holds.here, holds.file] at isFile
          obtain ⟨other, member, rfl, _⟩ := isFile
          exact (apartHere other member).1 begins)
        (by
          intro isDirectory
          obtain ⟨name, others, pieces⟩ := List.exists_cons_of_ne_nil entry.pieces_ne_nil
          rw [holds.here, pieces, holds.around, ← pieces] at isDirectory
          obtain ⟨other, member, around, _⟩ := isDirectory
          exact (apartHere other member).2 around)
      rw [holds.here] at adds
      have hasStill := has.keeps (saves_of_saveFile result).1.keeps
      obtain ⟨final, restSaved, finalHolds⟩ := induction (holds.concat adds apartHere) hasStill
        plain.2 (by simpa using apart)
      refine ⟨final, ?_, by simpa using finalHolds⟩
      rw [saveFiles_cons, result]
      simp only [restSaved]
      rfl

/-- A refused name ends it, and the tree is the one that the entries before have left. -/
theorem saveFiles_of_refused {before after : List ResponseFile} {middle : FileTree}
    {written : List String} (refused : entry.isRefused = true)
    (result : tree.saveFiles directory before = (middle, .ok written)) :
    tree.saveFiles directory (before ++ entry :: after) =
      (middle, .error (.refusedName (entry.name.getD ""))) := by
  induction before generalizing tree written with
  | nil =>
      obtain ⟨rfl, _⟩ := Prod.mk.inj result
      rw [List.nil_append, saveFiles_cons, saveFile_of_refused refused]
      rfl
  | cons first rest induction =>
      obtain ⟨saved, later, savedFirst, savedRest, _⟩ := saveFiles_cons_eq_ok result
      rw [List.cons_append, saveFiles_cons, savedFirst]
      simp only [induction savedRest]
      rfl

/-- Entries are saved below a directory only, and up to the first name that is refused. In an empty
directory plain names that are apart give exactly their files. -/
theorem entries_are_saved_below (tree : FileTree) (directory : String)
    (entries : List ResponseFile) :
    (tree.HasEmptyDirectory directory →
      (∀ entry ∈ entries, entry.IsPlain ∧ entry.WithinLimits directory) →
      (entries.map (·.name.getD "")).Nodup →
      (∀ left ∈ entries, ∀ right ∈ entries, ∀ rest,
        right.name.getD "" ≠ left.name.getD "" ++ "/" ++ rest) →
      ∃ final, tree.saveFiles directory entries =
          (final, .ok (entries.map (·.name.getD ""))) ∧
        final.Holds tree directory entries) ∧
    tree.ChangesBelow (tree.saveFiles directory entries).1 directory ∧
    ∀ before entry after middle written, entries = before ++ entry :: after →
      tree.saveFiles directory before = (middle, .ok written) →
      (entry.name.getD "" = "" ∨ (∃ rest, entry.name.getD "" = "/" ++ rest) ∨ ".." ∈ entry.pieces) →
      ∃ error, tree.saveFiles directory entries = (middle, .error error) ∧
        error.message = "Generation error: refusing to write invalid output path " ++
          Text.quote (entry.name.getD "") := by
  refine ⟨?_, changesBelow_of_saveFiles tree directory entries, ?_⟩
  · intro has plain distinct noneAround
    exact has.holds.saveFiles has.toHasDirectory plain
      (ResponseFile.pairwise_apart distinct noneAround)
  · rintro before entry after middle written rfl saved refused
    rw [← ResponseFile.isRefused_eq_true_iff] at refused
    exact ⟨_, saveFiles_of_refused refused saved, rfl⟩

def entryOf (name content : String) : ResponseFile := ⟨some name, some content⟩

/-- Two entries are saved in an empty directory. An entry whose name goes up and down again is
refused after the one before it has been saved. -/
theorem entries_are_saved_below_here :
    FileTree.empty.HasEmptyDirectory "." ∧
    (∃ final, FileTree.empty.saveFiles "." [entryOf "a/x" "1", entryOf "b" "2é"] =
        (final, .ok ["a/x", "b"]) ∧
      final.Holds .empty "." [entryOf "a/x" "1", entryOf "b" "2é"] ∧
      final.at? ["work", "a", "x"] = some (.file [49]) ∧
      final.at? ["work", "b"] = some (.file [50, 195, 169])) ∧
    ∃ middle error,
      FileTree.empty.saveFiles "." [entryOf "b" "2"] = (middle, .ok ["b"]) ∧
      FileTree.empty.saveFiles "." [entryOf "b" "2", entryOf "a/../x" "3", entryOf "c" "4"] =
        (middle, .error error) ∧
      error.message = "Generation error: refusing to write invalid output path \"a/../x\"" := by
  have isEmpty : FileTree.empty.HasEmptyDirectory "." := by
    have place : target FileTree.empty.here ⟨"."⟩ = ["work"] := by decide +kernel
    refine ⟨⟨by decide +kernel, by decide +kernel⟩, ?_⟩
    intro name rest
    rw [place]
    simp [FileTree.empty, at?]
  refine ⟨isEmpty, ?_, ?_⟩
  · obtain ⟨complete, _, _⟩ :=
      entries_are_saved_below .empty "." [entryOf "a/x" "1", entryOf "b" "2é"]
    have plain : ∀ entry ∈ [entryOf "a/x" "1", entryOf "b" "2é"],
        entry.IsPlain ∧ entry.WithinLimits "." := by
      rw [List.forall_mem_cons, List.forall_mem_singleton]
      exact ⟨⟨by decide +kernel, by decide +kernel, by decide +kernel, by decide +kernel⟩,
        by decide +kernel, by decide +kernel, by decide +kernel, by decide +kernel⟩
    have noneAround : ∀ left ∈ [entryOf "a/x" "1", entryOf "b" "2é"],
        ∀ right ∈ [entryOf "a/x" "1", entryOf "b" "2é"], ∀ rest,
          right.name.getD "" ≠ left.name.getD "" ++ "/" ++ rest := by
      intro left leftMember right rightMember rest around
      have letters := congrArg String.toList around
      rw [List.mem_cons, List.mem_singleton] at leftMember rightMember
      rcases leftMember with rfl | rfl <;> rcases rightMember with rfl | rfl <;>
        simp [entryOf] at letters
    obtain ⟨final, result, holds⟩ := complete isEmpty plain (by decide) noneAround
    refine ⟨final, result, holds, ?_, ?_⟩
    · exact (holds.file ["a", "x"] _).mpr
        ⟨entryOf "a/x" "1", by simp, by decide +kernel, by decide +kernel⟩
    · exact (holds.file ["b"] _).mpr
        ⟨entryOf "b" "2é", by simp, by decide +kernel, by decide +kernel⟩
  · obtain ⟨_, _, refused⟩ := entries_are_saved_below .empty "."
      [entryOf "b" "2", entryOf "a/../x" "3", entryOf "c" "4"]
    have first : (FileTree.empty.saveFiles "." [entryOf "b" "2"]).2 = .ok ["b"] := by
      decide +kernel
    obtain ⟨error, stopped, message⟩ := refused [entryOf "b" "2"] (entryOf "a/../x" "3")
      [entryOf "c" "4"] _ _ rfl (Prod.ext rfl first) (.inr (.inr (by decide +kernel)))
    exact ⟨_, error, Prod.ext rfl first, stopped, message.trans (by decide +kernel)⟩

end FileTree

end RpcProxy

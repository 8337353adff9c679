import RpcProxy.Proofs.Bytes
import RpcProxy.Proofs.FileTree

/-!
# Directories around a file

The directory that has to be there for a file is a beginning of its path, with the dots at its end
left out. Making it makes directories on the way to the file and nothing else, and if no file is in
the way all of them are there in the end.
-/

namespace RpcProxy

variable {path : Path} {outer : List String} {last : String}

namespace Path

def parentPieces (path : Path) : List String :=
  (dropIdle (dropIdle path.pieces.reverse).tail).reverse

theorem text_parent (path : Path) :
    path.parent.text = String.intercalate "/" path.parentPieces := rfl

theorem intercalate_pieces (path : Path) : String.intercalate "/" path.pieces = path.text :=
  Text.intercalate_split '/' path.text

theorem exists_dropIdle (pieces : List String) :
    ∃ idle, pieces = idle ++ dropIdle pieces ∧ ∀ piece ∈ idle, piece = "" ∨ piece = "." := by
  induction pieces with
  | nil => exact ⟨[], rfl, by simp⟩
  | cons piece outer induction =>
      rw [dropIdle]
      split
      · rename_i isIdle
        obtain ⟨idle, split, nowhere⟩ := induction
        refine ⟨piece :: idle, congrArg (piece :: ·) split, ?_⟩
        rw [List.forall_mem_cons]
        refine ⟨?_, nowhere⟩
        simp only [Path.isIdle, Bool.or_eq_true, Bool.and_eq_true, beq_iff_eq] at isIdle
        exact isIdle.imp_right (·.1)
      · exact ⟨[], rfl, by simp⟩

theorem parentPieces_prefix (path : Path) : path.parentPieces <+: path.pieces := by
  have suffix (pieces : List String) : dropIdle pieces <:+ pieces := by
    obtain ⟨idle, split, _⟩ := exists_dropIdle pieces
    exact ⟨idle, split.symm⟩
  rw [← List.reverse_suffix, parentPieces, List.reverse_reverse]
  exact (suffix _).trans ((List.tail_suffix _).trans (suffix _))

theorem dropIdle_of_leads {piece : String} {outer : List String}
    (leads : isIdle piece outer = false) : dropIdle (piece :: outer) = piece :: outer := by
  rw [dropIdle, leads, if_neg Bool.false_ne_true]

theorem dropIdle_dropIdle (pieces : List String) :
    dropIdle (dropIdle pieces) = dropIdle pieces := by
  induction pieces with
  | nil => rfl
  | cons piece outer induction =>
      cases leads : isIdle piece outer with
      | true => rw [dropIdle, if_pos leads, induction]
      | false => rw [dropIdle_of_leads leads, dropIdle_of_leads leads]

/-- Behind the parent there are nothing but dots and the last piece, if that leads somewhere. -/
theorem exists_parentPieces (split : path.pieces = outer ++ [last])
    (leads : isIdle last outer.reverse = false) :
    ∃ idle, outer = path.parentPieces ++ idle ∧ ∀ piece ∈ idle, piece = "" ∨ piece = "." := by
  obtain ⟨idle, reversed, nowhere⟩ := exists_dropIdle outer.reverse
  refine ⟨idle.reverse, ?_, by simpa using nowhere⟩
  rw [parentPieces, split, List.reverse_concat, dropIdle_of_leads leads, List.tail_cons,
    ← List.reverse_append, ← reversed, List.reverse_reverse]

theorem pieces_parent (path : Path) :
    path.parent.pieces = if path.parentPieces = [] then [""] else path.parentPieces := by
  rw [pieces, text_parent]
  split
  · rename_i none
    rw [none]
    rfl
  · rename_i some
    refine Text.split_intercalate some ?_
    intro piece member
    exact Text.notMem_of_mem_split (path.parentPieces_prefix.subset member)

theorem names_parent (path : Path) : path.parent.names = path.parentPieces.filter (· ≠ "") := by
  rw [names, pieces_parent]
  split
  · rename_i none
    rw [none]
    rfl
  · rfl

/-- A parent has no pieces at its end that lead nowhere. -/
theorem dropIdle_pieces_parent (path : Path) :
    dropIdle path.parent.pieces.reverse = path.parentPieces.reverse := by
  rw [pieces_parent]
  split
  · rename_i none
    rw [none]
    rfl
  · rw [parentPieces, List.reverse_reverse, dropIdle_dropIdle]

theorem names_parent_prefix (path : Path) : path.parent.names <+: path.names := by
  rw [names_parent]
  exact path.parentPieces_prefix.filter _

theorem names_of_pieces (split : path.pieces = outer ++ [last]) (named : last ≠ "") :
    path.names = outer.filter (· ≠ "") ++ [last] := by
  rw [names, split, List.filter_append, List.filter_singleton]
  simp [named]

/-- Between the names of the parent and the last name there are nothing but dots. -/
theorem exists_names_parent (split : path.pieces = outer ++ [last])
    (leads : isIdle last outer.reverse = false) :
    ∃ dots, outer.filter (· ≠ "") = path.parent.names ++ dots ∧ ∀ name ∈ dots, name = "." := by
  obtain ⟨idle, rfl, nowhere⟩ := exists_parentPieces split leads
  refine ⟨idle.filter (· ≠ ""), by rw [names_parent, List.filter_append], ?_⟩
  intro name member
  obtain ⟨inIdle, some⟩ := List.mem_filter.mp member
  exact (nowhere name inIdle).resolve_left (of_decide_eq_true some)

theorem exists_text_parent (path : Path) : ∃ rest, path.text = path.parent.text ++ rest := by
  obtain ⟨back, split⟩ := path.parentPieces_prefix
  rw [← path.intercalate_pieces, ← split, text_parent]
  by_cases none : path.parentPieces = []
  · exact ⟨String.intercalate "/" back, by simp [none]⟩
  · by_cases noMore : back = []
    · exact ⟨"", by simp [noMore]⟩
    · refine ⟨"/" ++ String.intercalate "/" back, ?_⟩
      rw [String.intercalate_append_of_ne_nil none noMore, String.append_assoc]

theorem isAbsolute_parent (named : path.parent.names ≠ []) :
    path.parent.isAbsolute = path.isAbsolute := by
  obtain ⟨rest, text⟩ := path.exists_text_parent
  have nonempty : path.parent.text.toList ≠ [] := by
    intro nil
    have empty : path.parent = ⟨""⟩ := congrArg Path.mk (String.toList_eq_nil_iff.mp nil)
    exact named (by rw [empty]; rfl)
  obtain ⟨first, others, letters⟩ := List.exists_cons_of_ne_nil nonempty
  rw [isAbsolute, isAbsolute, text, String.toList_append, letters]
  rfl

theorem isClosed_eq_false (split : path.pieces = outer ++ [last]) (named : last ≠ "") :
    path.isClosed = false := by
  obtain ⟨front, text⟩ : ∃ front, path.text = front ++ last := by
    rw [← path.intercalate_pieces, split]
    by_cases none : outer = []
    · exact ⟨"", by simp [none]⟩
    · rw [String.intercalate_append_of_ne_nil none (by simp)]
      exact ⟨_, by rw [String.intercalate_singleton]⟩
  have element : '/' ∉ last.toList := Text.notMem_of_mem_split (by
    rw [← pieces, split]
    simp)
  have nonempty : last.toList ≠ [] := mt String.toList_eq_nil_iff.mp named
  rw [isClosed, text, String.toList_append, List.getLast?_append_of_ne_nil _ nonempty,
    List.getLast?_eq_getLast_of_ne_nil nonempty, beq_eq_false_iff_ne]
  intro slash
  exact element (Option.some.inj slash ▸ List.getLast_mem nonempty)

end Path

namespace FileTree

variable {tree later : FileTree} {place next names : List String} {content : List UInt8}

theorem route_subset {others : List String} (begins : names <+: others) :
    route place names ⊆ route place others := by
  obtain ⟨rest, rfl⟩ := begins
  exact fun other member => mem_route_append.mpr (.inl member)

/-- Dots stay where they are. -/
theorem mem_route_append_dots {other dots : List String} (nowhere : ∀ name ∈ dots, name = ".") :
    other ∈ route place (names ++ dots) ↔ other ∈ route place names := by
  obtain ⟨count, rfl⟩ : ∃ count, dots = List.replicate count "." :=
    ⟨_, List.eq_replicate_of_mem nowhere⟩
  have stays (place : List String) : ∀ other ∈ route place (List.replicate count "."),
      other = place := by
    induction count with
    | zero => simp [route]
    | succ count induction =>
        simp only [List.replicate_succ, route, advance, List.forall_mem_cons, if_true]
        exact ⟨trivial, induction fun name member => List.eq_of_mem_replicate member⟩
  rw [mem_route_append, or_iff_left_of_imp]
  intro behind
  exact stays _ other behind ▸ foldl_mem_route place names

/-- Names that are walked to a directory are those that go through directories only. -/
theorem walk_directory_iff :
    tree.walk place names = .ok next ∧ tree.at? next = some .directory ↔
      (∀ name ∈ names, Fits name) ∧ next = names.foldl advance place ∧
        ∀ other ∈ route place names, tree.at? other = some .directory := by
  induction names generalizing place with
  | nil =>
      simp only [walk, Except.ok.injEq, route, List.mem_singleton, forall_eq, List.foldl_nil]
      constructor
      · rintro ⟨rfl, present⟩
        exact ⟨by simp, rfl, present⟩
      · rintro ⟨_, rfl, present⟩
        exact ⟨rfl, present⟩
  | cons name rest induction =>
      rw [walk, Except.bind_eq_ok_iff, List.forall_mem_cons, route, List.forall_mem_cons,
        List.foldl_cons]
      constructor
      · rintro ⟨⟨_, stepped, walked⟩, present⟩
        obtain ⟨here, fits, rfl⟩ := step_eq_ok_iff.mp stepped
        obtain ⟨restFits, leads, through⟩ := induction.mp ⟨walked, present⟩
        exact ⟨⟨fits, restFits⟩, leads, here, through⟩
      · rintro ⟨⟨fits, restFits⟩, leads, here, through⟩
        obtain ⟨walked, present⟩ := induction.mpr ⟨restFits, leads, through⟩
        exact ⟨⟨_, step_eq_ok_iff.mpr ⟨here, fits, rfl⟩, walked⟩, present⟩

/-- A path whose names but the last go through directories leads to its target. -/
theorem locate_of_route (started : tree.start path = .ok place)
    (split : path.names = names ++ [last]) (fits : ∀ name ∈ path.names, Fits name)
    (through : ∀ other ∈ route place names, tree.at? other = some .directory) :
    tree.locate path = .ok (target tree.here path) := by
  rw [split, List.forall_mem_append, List.forall_mem_singleton] at fits
  obtain ⟨walked, present⟩ := walk_directory_iff.mpr ⟨fits.1, rfl, through⟩
  obtain ⟨_, _, isOrigin⟩ := start_eq_ok_iff.mp started
  rw [locate, Except.bind_eq_ok_iff]
  refine ⟨place, started, ?_⟩
  rw [target_eq, ← isOrigin, split, walk_append_eq_ok_iff, List.foldl_append]
  refine ⟨_, walked, ?_⟩
  rw [walk, Except.bind_eq_ok_iff]
  exact ⟨_, step_eq_ok_iff.mpr ⟨present, fits.2, rfl⟩, rfl⟩

/-- Directories can be made along names if no file is in the way, and then they are all there. -/
theorem exists_makeAlong (made : Bool) (present : tree.at? place = some .directory)
    (fits : ∀ name ∈ names, Fits name)
    (free : ∀ other ∈ route place names, ∀ content, tree.at? other ≠ some (.file content)) :
    ∃ later, tree.makeAlong made place names = .ok later ∧ later.here = tree.here ∧
      ∀ other, later.at? other =
        if other ∈ route place names then some .directory else tree.at? other := by
  induction names generalizing tree made place with
  | nil =>
      refine ⟨tree, rfl, rfl, ?_⟩
      intro other
      by_cases here : other = place <;> simp [route, here, present]
  | cons name rest induction =>
      rw [List.forall_mem_cons] at fits
      rw [route, List.forall_mem_cons] at free
      have stepped := step_eq_ok_iff.mpr ⟨present, fits.1, rfl⟩
      have first := self_mem_route (advance place name) rest
      rw [makeAlong, stepped]
      simp only [Except.mapError, bind, Except.bind]
      cases found : tree.at? (advance place name) with
      | none =>
          have there : (tree.put (advance place name) .directory).at? (advance place name) =
              some .directory := by simp [at?_put]
          have stillFree : ∀ other ∈ route (advance place name) rest, ∀ content,
              (tree.put (advance place name) .directory).at? other ≠ some (.file content) := by
            intro other member content isFile
            by_cases same : other = advance place name
            · simp [same, there] at isFile
            · rw [at?_put_of_ne same] at isFile
              exact free.2 other member content isFile
          obtain ⟨later, result, here, nodes⟩ := induction true there fits.2 stillFree
          refine ⟨later, result, here, ?_⟩
          intro other
          rw [nodes, route]
          by_cases onward : other ∈ route (advance place name) rest
          · simp [onward]
          · have differs : other ≠ advance place name := fun same => onward (same ▸ first)
            rw [if_neg onward, at?_put_of_ne differs]
            by_cases start : other = place <;> simp [start, onward, present]
      | some node =>
          cases node with
          | file content => exact absurd found (free.2 _ first content)
          | directory =>
              obtain ⟨later, result, here, nodes⟩ := induction made found fits.2 free.2
              refine ⟨later, result, here, ?_⟩
              intro other
              rw [nodes, route]
              by_cases start : other = place
              · simp [start, present]
              · simp [start]

/-- Making the parent starts where the path starts. -/
theorem makeDirectories_parent (started : tree.start path = .ok place) :
    tree.makeDirectories path.parent = tree.makeAlong false place path.parent.names := by
  obtain ⟨rest, text⟩ := path.exists_text_parent
  obtain ⟨noNul, short, rfl⟩ := start_eq_ok_iff.mp started
  rw [text, String.toList_append, List.mem_append, not_or] at noNul
  rw [Path.size, text, Wire.utf8_append, List.length_append] at short
  have parentStarted : tree.start path.parent = .ok (origin tree.here path.parent) :=
    start_eq_ok_iff.mpr ⟨noNul.1, Nat.le_of_add_right_le short, rfl⟩
  rw [makeDirectories, parentStarted]
  simp only [Except.mapError, bind, Except.bind]
  -- A parent without names may start elsewhere, but then there is nothing to make.
  by_cases none : path.parent.names = []
  · rw [none, makeAlong, makeAlong]
  · rw [origin, Path.isAbsolute_parent none, origin]

theorem makes_makeDirectories_parent (tree : FileTree) (path : Path) :
    tree.Makes (left (tree.makeDirectories path.parent))
      (route (origin tree.here path) path.names) := by
  rw [makeDirectories]
  cases started : tree.start path.parent with
  | error error => exact .refl tree _
  | ok place =>
      obtain ⟨_, _, rfl⟩ := start_eq_ok_iff.mp started
      simp only [Except.mapError, bind, Except.bind]
      by_cases none : path.parent.names = []
      · rw [none, makeAlong]
        exact .refl tree _
      · rw [origin, Path.isAbsolute_parent none, ← origin]
        exact (makes_makeAlong _ _ _ _).mono (route_subset path.names_parent_prefix)

end FileTree

end RpcProxy

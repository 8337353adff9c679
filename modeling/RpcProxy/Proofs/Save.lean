import RpcProxy.Proofs.MakeDirectories
import RpcProxy.Proofs.OutputName
import RpcProxy.Proofs.Package
import RpcProxy.Proofs.Response
import RpcProxy.Save

/-!
# What saving a response keeps

Two entries of a response have one name exactly if their schema files share their output. Saved
entries follow one another at the places their names lead to, and what is saved at a place stays
until a later entry is saved there.
-/

namespace RpcProxy

/-- Where the name of an entry leads to from the directory of a response: the names between its
slashes, of which dots lead nowhere. -/
def ResponseFile.place (entry : ResponseFile) : List String :=
  (Path.mk (entry.name.getD "")).names.filter (· ≠ ".")

namespace FileTree

variable {tree later saved final : FileTree} {path : Path} {directory last : String}
  {place outer : List String} {entry : ResponseFile} {entries : List ResponseFile}
  {written : List String} {content : List UInt8}

/-- What saving a file does to a tree: the file is there, and all else is as it was. -/
structure Saves (tree later : FileTree) (path : Path) (content : List UInt8) : Prop where
  keeps : tree.Keeps later
  readFile : later.readFile path = .ok content
  other : ∀ {place node}, place ≠ target tree.here path → tree.at? place = some node →
    later.at? place = some node

theorem saves_of_save (result : tree.save path content = .ok later) :
    tree.Saves later path content := by
  rw [save_eq, Except.bind_eq_ok_iff] at result
  obtain ⟨made, directories, written⟩ := result
  have grows := grows_of_makeDirectories directories
  obtain ⟨located, opened, replaceable, rfl⟩ :=
    writeFile_eq_ok_iff.mp (Except.mapError_eq_ok_iff.mp written)
  have keeps := keeps_put replaceable (.file content)
  rw [grows.here] at located replaceable keeps ⊢
  refine ⟨grows.keeps.trans keeps, ?_, ?_⟩
  · have here : (made.put (target tree.here path) (.file content)).here = tree.here := grows.here
    have notRoot : target tree.here path ≠ [] := by
      intro root
      simp [root, at?] at replaceable
    rw [readFile_eq_ok_iff, here]
    refine ⟨keeps.locate located, opened, ?_⟩
    rw [at?_put, if_neg notRoot, if_pos rfl]
  · intro place node differs present
    rw [at?_put, if_neg differs, grows.node present]
    split
    · rename_i root
      simpa [at?, root] using present
    · rfl

/-- Whatever comes of saving a file, directories have been made on the way to it, and the file has
been written, or nothing else has happened. -/
theorem exists_made (tree : FileTree) (path : Path) (content : List UInt8) :
    ∃ made, tree.Makes made (route (origin tree.here path) path.names) ∧
      (left (tree.save path content) = made ∨
        made.locate path = .ok (target tree.here path) ∧
          made.at? (target tree.here path) ≠ some .directory ∧
          left (tree.save path content) = made.put (target tree.here path) (.file content)) := by
  have makes := makes_makeDirectories_parent tree path
  refine ⟨_, makes, ?_⟩
  cases directories : tree.makeDirectories path.parent with
  | error stop =>
      rw [save_eq, directories]
      exact .inl rfl
  | ok made =>
      rw [directories] at makes
      rw [save_of_makeDirectories directories]
      cases result : made.writeFile path content with
      | error error => exact .inl rfl
      | ok later =>
          obtain ⟨located, _, replaceable, rfl⟩ := writeFile_eq_ok_iff.mp result
          have here : made.here = tree.here := makes.here
          rw [here] at located replaceable ⊢
          exact .inr ⟨located, replaceable, rfl⟩

/-- A file can be saved if no file is in the way of its directories and no directory in its own, and
then the tree has the directories and the file. -/
theorem exists_save (content : List UInt8) (started : tree.start path = .ok place)
    (split : path.pieces = outer ++ [last]) (named : last ≠ "") (dot : last ≠ ".")
    (present : tree.at? place = some .directory) (fits : ∀ name ∈ path.names, Fits name)
    (free : ∀ other ∈ route place (outer.filter (· ≠ "")), ∀ content,
      tree.at? other ≠ some (.file content))
    (fresh : target tree.here path ∉ route place (outer.filter (· ≠ "")))
    (replaceable : tree.at? (target tree.here path) ≠ some .directory) :
    ∃ later, tree.save path content = .ok later ∧ later.here = tree.here ∧
      ∀ other, later.at? other =
        if other = target tree.here path then some (.file content)
        else if other ∈ route place (outer.filter (· ≠ "")) then some .directory
        else tree.at? other := by
  have leads : Path.isIdle last outer.reverse = false := by simp [Path.isIdle, named, dot]
  obtain ⟨dots, around, nowhere⟩ := Path.exists_names_parent split leads
  have sameRoute (other : List String) :
      other ∈ route place (outer.filter (· ≠ "")) ↔ other ∈ route place path.parent.names := by
    rw [around]
    exact mem_route_append_dots nowhere
  simp only [sameRoute] at free fresh ⊢
  obtain ⟨made, directories, here, nodes⟩ := exists_makeAlong false present
    (fun name member => fits name (path.names_parent_prefix.subset member)) free
  have through : ∀ other ∈ route place (outer.filter (· ≠ "")),
      made.at? other = some .directory := by
    intro other member
    rw [nodes, if_pos ((sameRoute other).mp member)]
  have located : made.locate path = .ok (target made.here path) :=
    locate_of_route (start_of_here here.symm started) (Path.names_of_pieces split named) fits
      through
  have absent : made.at? (target made.here path) ≠ some .directory := by
    rw [here, nodes, if_neg fresh]
    exact replaceable
  have isPut : made.writeFile path content =
      .ok (made.put (target made.here path) (.file content)) :=
    writeFile_eq_ok_iff.mpr ⟨located, Path.isClosed_eq_false split named, absent, rfl⟩
  refine ⟨made.put (target made.here path) (.file content), ?_, here, ?_⟩
  · rw [save_of_makeDirectories ((makeDirectories_parent started).trans directories), isPut]
    rfl
  · intro other
    have notRoot : target tree.here path ≠ [] := by
      intro root
      simp [root] at replaceable
    rw [here]
    by_cases same : other = target tree.here path
    · rw [if_pos same, at?_put, if_neg (same ▸ notRoot), if_pos same]
    · rw [if_neg same, at?_put_of_ne same, nodes]

/-- Saves one entry below a directory of a tree. -/
def saveFile (tree : FileTree) (directory : String) (entry : ResponseFile) :
    Except (Stop SaveError) FileTree :=
  after (system.saveFile directory entry) tree

theorem after_adapt {ε δ : Type} (view : ε → δ) (program : ExceptT ε (StateM FileTree) Unit)
    (tree : FileTree) :
    after (program.adapt view) tree =
      (after program tree).mapError fun stop => ⟨view stop.error, stop.tree⟩ := by
  simp only [after, ExceptT.run_adapt, StateT.run_map]
  rcases program.run.run tree with ⟨error | ⟨⟩, later⟩ <;> rfl

theorem saveFile_of_refused (refused : entry.isRefused = true) :
    tree.saveFile directory entry = .error (tree.stop (.refusedName (entry.name.getD ""))) := by
  rw [saveFile, FileSystem.saveFile, if_pos refused, after_throw]

theorem saveFile_of_accepted (accepted : entry.isRefused = false) :
    tree.saveFile directory entry =
      (tree.save (.below directory (entry.name.getD ""))
        (Wire.utf8 (entry.content.getD ""))).mapError fun stop =>
          ⟨.system stop.error, stop.tree⟩ := by
  rw [saveFile, FileSystem.saveFile, if_neg (by simp [accepted]), after_adapt]
  rfl

theorem saveFiles_cons (tree : FileTree) (directory : String) (entry : ResponseFile)
    (entries : List ResponseFile) :
    tree.saveFiles directory (entry :: entries) =
      match tree.saveFile directory entry with
      | .error stop => (stop.tree, .error stop.error)
      | .ok saved =>
        let (final, written) := saved.saveFiles directory entries
        (final, written.map (entry.name.getD "" :: ·)) := by
  simp only [saveFile, after, saveFiles, FileSystem.saveFiles, ExceptT.run_bind, StateT.run_bind]
  rcases (system.saveFile directory entry).run.run tree with ⟨error | ⟨⟩, saved⟩
  · rfl
  · change (StateT.run ((system.saveFiles directory entries).run >>= _) saved).swap = _
    rw [StateT.run_bind]
    dsimp only
    rcases (system.saveFiles directory entries).run.run saved with ⟨error | written, final⟩ <;> rfl

/-- An accepted name is a relative one that does not lead upwards. -/
theorem of_accepted (accepted : entry.isRefused = false) :
    entry.name.getD "" ≠ "" ∧ (entry.name.getD "").toList.head? ≠ some '/' ∧
      ".." ∉ (Path.mk (entry.name.getD "")).names := by
  simp only [ResponseFile.isRefused, Bool.or_eq_false_iff, beq_eq_false_iff_ne] at accepted
  obtain ⟨⟨named, relative⟩, stays⟩ := accepted
  refine ⟨named, relative, ?_⟩
  intro member
  have inPieces : ".." ∈ Text.split '/' (entry.name.getD "") := (List.mem_filter.mp member).1
  simp [inPieces] at stays

theorem target_entry (accepted : entry.isRefused = false) (here : List String) :
    target here (.below directory (entry.name.getD "")) =
      target here ⟨directory⟩ ++ entry.place := by
  obtain ⟨_, relative, stays⟩ := of_accepted accepted
  rw [target_below here directory relative, foldl_advance stays, ResponseFile.place]

/-- A saved entry is at the place of its name, and everything elsewhere is as it was. -/
theorem saves_of_saveFile (result : tree.saveFile directory entry = .ok saved) :
    tree.Saves saved (.below directory (entry.name.getD "")) (Wire.utf8 (entry.content.getD "")) ∧
      target tree.here (.below directory (entry.name.getD "")) =
        target tree.here ⟨directory⟩ ++ entry.place := by
  cases accepted : entry.isRefused with
  | true => simp [saveFile_of_refused accepted] at result
  | false =>
      rw [saveFile_of_accepted accepted] at result
      exact ⟨saves_of_save (Except.mapError_eq_ok_iff.mp result), target_entry accepted tree.here⟩

theorem saveFiles_cons_eq_ok
    (result : tree.saveFiles directory (entry :: entries) = (final, .ok written)) :
    ∃ saved later, tree.saveFile directory entry = .ok saved ∧
      saved.saveFiles directory entries = (final, .ok later) ∧
      written = entry.name.getD "" :: later := by
  rw [saveFiles_cons] at result
  cases savedHere : tree.saveFile directory entry with
  | error error => simp [savedHere] at result
  | ok saved =>
      simp only [savedHere, Prod.mk.injEq] at result
      obtain ⟨rfl, names⟩ := result
      cases rest : (saved.saveFiles directory entries).2 with
      | error error => simp [rest, Except.map] at names
      | ok later =>
          have isWritten : entry.name.getD "" :: later = written := by
            simpa [rest, Except.map] using names
          exact ⟨saved, later, rfl, Prod.ext rfl rest, isWritten.symm⟩

/-- What is saved at a place stays while entries are saved at others. -/
theorem readFile_of_saveFiles_elsewhere (accepted : entry.isRefused = false)
    (present : tree.readFile (.below directory (entry.name.getD "")) = .ok content)
    (elsewhere : ∀ other ∈ entries, other.place ≠ entry.place)
    (result : tree.saveFiles directory entries = (final, .ok written)) :
    final.readFile (.below directory (entry.name.getD "")) = .ok content := by
  induction entries generalizing tree written with
  | nil =>
      obtain ⟨rfl, _⟩ := Prod.mk.inj result
      exact present
  | cons other rest induction =>
      rw [List.forall_mem_cons] at elsewhere
      obtain ⟨saved, later, savedHere, savedRest, _⟩ := saveFiles_cons_eq_ok result
      obtain ⟨saves, otherTarget⟩ := saves_of_saveFile savedHere
      refine induction ?_ elsewhere.2 savedRest
      refine readFile_of_keeps saves.keeps present fun found => saves.other ?_ found
      rw [target_entry accepted, otherTarget]
      intro same
      exact elsewhere.1 (List.append_cancel_left same).symm

/-- Each saved entry is there at the end, unless a later one has been saved at its place. -/
theorem readFile_of_saveFiles {before after : List ResponseFile}
    (result : tree.saveFiles directory (before ++ entry :: after) = (final, .ok written))
    (last : ∀ later ∈ after, later.place ≠ entry.place) :
    final.readFile (.below directory (entry.name.getD "")) =
      .ok (Wire.utf8 (entry.content.getD "")) := by
  induction before generalizing tree written with
  | nil =>
      obtain ⟨saved, later, savedHere, savedRest, _⟩ := saveFiles_cons_eq_ok result
      have accepted : entry.isRefused = false := by
        cases refused : entry.isRefused with
        | false => rfl
        | true => simp [saveFile_of_refused refused] at savedHere
      exact readFile_of_saveFiles_elsewhere accepted (saves_of_saveFile savedHere).1.readFile last
        savedRest
  | cons first rest induction =>
      obtain ⟨_, _, _, savedRest, _⟩ := saveFiles_cons_eq_ok result
      exact induction savedRest

end FileTree

namespace Request

variable {request : Request} {options : Options} {files : List ProtoFile} {response : Response}

private theorem names_of_parse (parsed : request.parse = .ok (options, files)) :
    (files.map (·.name)).Nodup := by
  obtain ⟨pool, pooled, _, made⟩ := parse_eq_ok_iff.mp parsed
  have comesFrom := Schema.comesFrom_of_ofPool (comesFrom_of_pool pooled) made
  have names := comesFrom.map_eq_map fun _ _ comesFrom => comesFrom.name.symm
  exact names ▸ Linking.Table.nodup_files (links_of_pool pooled).1

private theorem packageName_of_parse (parsed : request.parse = .ok (options, files))
    {file : ProtoFile} (member : file ∈ files) : '/' ∉ file.packageName.toList := by
  obtain ⟨pool, _, _, made⟩ := parse_eq_ok_iff.mp parsed
  obtain ⟨linked, _, made⟩ := (Schema.ofPool_eq_ok_iff.mp made).flip.exists_of_mem member
  obtain ⟨_, _, _, _, rfl⟩ := Schema.file_eq_ok_iff.mp made
  intro slash
  rw [FileDecl.goPackage, Package.name_ofFile] at slash
  exact absurd (GoName.isNameLetter_of_mem_identifier slash) (by decide +kernel)

/-- The entries of a response have different names exactly if no two of their files share their
output. -/
theorem nodup_names_iff (parsed : request.parse = .ok (options, files))
    (entries : List.Forall₂ (fun file entry => ∃ output : OutputFile,
        file.output options = .ok (some output) ∧
          entry = ResponseFile.mk (some output.name) (some output.content))
      (files.filter Run.wants) response.files) :
    (response.files.map (·.name.getD "")).Nodup ↔
      (files.filter Run.wants).Pairwise fun left right => ¬left.SharesOutput right options := by
  have within := (List.forall₂_and_left _ _).mpr
    ⟨fun file member => packageName_of_parse parsed (List.mem_of_mem_filter member), entries⟩
  rw [List.Nodup, List.pairwise_map]
  refine (within.pairwise_iff ?_).symm
  rintro left right _ _ ⟨leftPlain, leftOutput, leftMade, rfl⟩
    ⟨rightPlain, rightOutput, rightMade, rfl⟩
  have leftNamed := (ProtoFile.output_eq_ok_some_iff.mp leftMade).2.1
  have rightNamed := (ProtoFile.output_eq_ok_some_iff.mp rightMade).2.1
  exact not_congr (ProtoFile.outputName_eq_iff leftPlain rightPlain leftNamed rightNamed).symm

/-- Files beside their sources never share their output. -/
theorem pairwise_of_sourceRelative (parsed : request.parse = .ok (options, files))
    (beside : options.outputRoot = none) (layout : options.layout = .sourceRelative)
    (sources : ∀ file ∈ files.filter Run.wants, ProtoFile.IsSourceName file.name) :
    (files.filter Run.wants).Pairwise fun left right => ¬left.SharesOutput right options := by
  have wanted : (files.filter Run.wants).Sublist files := List.filter_sublist
  have distinct := (wanted.map (·.name)).nodup (names_of_parse parsed)
  rw [List.Nodup, List.pairwise_map] at distinct
  refine distinct.imp_of_mem ?_
  intro left right leftMember rightMember differ shares
  exact differ (ProtoFile.name_eq_of_sharesOutput beside layout (sources left leftMember)
    (sources right rightMember) shares)

/-- When names of entries differ, and what saving them keeps. -/
theorem saved_response_keeps_units (answered : request.respond = .ok response)
    (complete : response.error = none) :
    ∃ options files, request.parse = .ok (options, files) ∧
      ((response.files.map (·.name.getD "")).Nodup ↔
        (files.filter Run.wants).Pairwise fun left right => ¬left.SharesOutput right options) ∧
      (options.outputRoot = none → options.layout = .sourceRelative →
        (∀ file ∈ files.filter Run.wants, ProtoFile.IsSourceName file.name) →
        (response.files.map (·.name.getD "")).Nodup) ∧
      ∀ tree directory final written before entry after,
        FileTree.saveFiles tree directory response.files = (final, .ok written) →
        response.files = before ++ entry :: after →
        (∀ later ∈ after, later.place ≠ entry.place) →
        final.readFile (.below directory (entry.name.getD "")) =
          .ok (Wire.utf8 (entry.content.getD "")) := by
  obtain ⟨options, files, parsed, entries⟩ := entries_of_respond answered complete
  have distinct := nodup_names_iff parsed entries
  refine ⟨options, files, parsed, distinct, ?_, ?_⟩
  · intro beside layout sources
    exact distinct.mpr (pairwise_of_sourceRelative parsed beside layout sources)
  · intro tree directory final written before entry after saved split last
    rw [split] at saved
    exact FileTree.readFile_of_saveFiles saved last

/-- A file with a service, in the directory of its schema package. -/
def fileInPackage (schemaPackage goPackage : String) : FileDecl where
  name := some (schemaPackage ++ "/x.proto")
  package := some schemaPackage
  services := [{ name := some "S" }]
  options := some { goPackage := some goPackage }

/-- Files of one last element. Two of their import paths are equal, and the third leads to the same
directory. -/
def sameElement (parameter : String) : Request where
  filesToGenerate := ["a/x.proto", "b/x.proto", "c/x.proto"]
  parameter := some parameter
  files :=
    [fileInPackage "a" "example.com/gen;a", fileInPackage "b" "example.com/gen;b",
     fileInPackage "c" "example.com//gen;c"]

/-- Files beside their sources have names of their own and are all there after saving them, and each
has its own content. -/
theorem saved_response_keeps_units_beside :
    ∃ response, (sameElement "paths=source_relative").respond = .ok response ∧
      response.error = none ∧ (response.files.map (·.name.getD "")).Nodup ∧
      (response.files.map (·.content.getD "")).Nodup ∧
      ∃ final, FileTree.empty.saveFiles "out" response.files = (final, .ok
          ["a/x_proxy.pb.go", "b/x_proxy.pb.go", "c/x_proxy.pb.go"]) ∧
        ∀ entry ∈ response.files, final.readFile (.below "out" (entry.name.getD "")) =
          .ok (Wire.utf8 (entry.content.getD "")) := by
  obtain ⟨response, answered, complete, places, contents, saved⟩ :
      ∃ response, (sameElement "paths=source_relative").respond = .ok response ∧
        response.error = none ∧ (response.files.map ResponseFile.place).Nodup ∧
        (response.files.map (·.content.getD "")).Nodup ∧
        (FileTree.empty.saveFiles "out" response.files).2 =
          .ok ["a/x_proxy.pb.go", "b/x_proxy.pb.go", "c/x_proxy.pb.go"] :=
    Except.exists_eq_ok_and (by decide +kernel)
  obtain ⟨parsed, parse, beside, layout, names⟩ :
      ∃ parsed, (sameElement "paths=source_relative").parse = .ok parsed ∧
        parsed.1.outputRoot = none ∧ parsed.1.layout = .sourceRelative ∧
        (parsed.2.filter Run.wants).map (·.name) = ["a/x.proto", "b/x.proto", "c/x.proto"] :=
    Except.exists_eq_ok_and (by decide +kernel)
  obtain ⟨options, files, parsedSo, _, distinct, keeps⟩ :=
    saved_response_keeps_units answered complete
  obtain rfl : (options, files) = parsed := Except.ok.inj (parsedSo.symm.trans parse)
  have sources : ∀ file ∈ files.filter Run.wants, ProtoFile.IsSourceName file.name := by
    intro file member
    have named := List.mem_map_of_mem (f := fun file : ProtoFile => file.name) member
    rw [names] at named
    simp only [List.mem_cons, List.not_mem_nil, or_false] at named
    rcases named with named | named | named <;> rw [named]
    · exact ⟨"a/x", rfl, by decide⟩
    · exact ⟨"b/x", rfl, by decide⟩
    · exact ⟨"c/x", rfl, by decide⟩
  refine ⟨response, answered, complete, distinct beside layout sources, contents, _,
    Prod.ext rfl saved, ?_⟩
  intro entry member
  obtain ⟨before, after, split⟩ := List.append_of_mem member
  refine keeps _ _ _ _ before entry after (Prod.ext rfl saved) split ?_
  rw [split, List.map_append, List.map_cons] at places
  intro later inAfter same
  have apart := (List.nodup_cons.mp (List.nodup_append.mp places).2.1).1
  exact apart (List.mem_map.mpr ⟨later, inAfter, same⟩)

/-- Entries of equal names replace one another, and so do entries whose names lead to one place. -/
theorem saved_response_loses_units :
    ((sameElement "").files.map (·.name)).Nodup ∧
    ∃ response, (sameElement "").respond = .ok response ∧ response.error = none ∧
      response.files.map (·.name.getD "") = ["example.com/gen/x_proxy.pb.go",
        "example.com/gen/x_proxy.pb.go", "example.com//gen/x_proxy.pb.go"] ∧
      ¬(response.files.map (·.name.getD "")).Nodup ∧
      (FileTree.empty.saveFiles "out" response.files).1.files.map (·.1) =
        ["out/example.com/gen/x_proxy.pb.go"] :=
  ⟨by decide, Except.exists_eq_ok_and (by decide +kernel)⟩

end Request

end RpcProxy

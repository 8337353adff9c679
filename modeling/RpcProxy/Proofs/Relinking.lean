import RpcProxy.Proofs.Linking
import RpcProxy.Proofs.RequestBytes

/-!
# Linking under other options

Names, imports and types are linked without a look at the options of a file. Files that get other
options are linked as before, and so they have the same messages with the same shapes. Only a
declaration of the options among the files themselves reads them again, each file's on its own, and
the usual one gives back what it has read.
-/

namespace RpcProxy

variable {optionsOf : FileDecl → Option FileOptions}

def FileDecl.withOptions (optionsOf : FileDecl → Option FileOptions) (decl : FileDecl) : FileDecl :=
  { decl with options := optionsOf decl }

namespace Linking

def LinkedFile.withOptions (optionsOf : FileDecl → Option FileOptions) (file : LinkedFile) :
    LinkedFile :=
  { file with decl := file.decl.withOptions optionsOf }

def Pool.withOptions (optionsOf : FileDecl → Option FileOptions) (pool : Pool) : Pool :=
  { pool with files := pool.files.map (LinkedFile.withOptions optionsOf) }

private theorem enterFiles_withOptions (files : List FileDecl) (table : Table)
    (seen : List String) :
    table.enterFiles seen (files.map (FileDecl.withOptions optionsOf)) =
      table.enterFiles seen files := by
  induction files generalizing table seen with
  | nil => rfl
  | cons decl rest induction =>
      rw [List.map_cons, Table.enterFiles, Table.enterFiles]
      simp only [induction]
      rfl

private theorem addPassedOn_withOptions (files : List FileDecl) (depth : Nat)
    (visible : List String) (file : String) :
    addPassedOn (files.map (FileDecl.withOptions optionsOf)) depth visible file =
      addPassedOn files depth visible file := by
  induction depth generalizing visible file with
  | zero => rfl
  | succ depth induction =>
      have found : (files.map (FileDecl.withOptions optionsOf)).find?
            (fun decl => decl.name.getD "" == file) =
          (files.find? fun decl => decl.name.getD "" == file).map
            (FileDecl.withOptions optionsOf) := List.find?_map
      rw [addPassedOn, addPassedOn, found]
      cases files.find? fun decl => decl.name.getD "" == file with
      | none => rfl
      | some decl =>
          simp only [Option.map_some, induction]
          rfl

private theorem viewFrom_withOptions (table : Table) (files : List FileDecl) (decl : FileDecl) :
    viewFrom table (files.map (FileDecl.withOptions optionsOf)) (decl.withOptions optionsOf) =
      viewFrom table files decl := by
  have added : addDependency (files.map (FileDecl.withOptions optionsOf)) =
      addDependency files := by
    funext visible file
    rw [addDependency, addDependency, addPassedOn_withOptions, List.length_map]
  rw [viewFrom, viewFrom, visibleFrom, visibleFrom, added]
  rfl

private theorem checkImports_withOptions (files : List FileDecl) (decl : FileDecl) :
    checkImports (files.map (FileDecl.withOptions optionsOf)) (decl.withOptions optionsOf) =
      checkImports files decl := by
  rw [checkImports, checkImports]
  simp only [List.any_map]
  rfl

private theorem linkFile_withOptions (table : Table) (files : List FileDecl) (decl : FileDecl) :
    linkFile table (files.map (FileDecl.withOptions optionsOf)) (decl.withOptions optionsOf) =
      (linkFile table files decl).map (LinkedFile.withOptions optionsOf) := by
  rw [linkFile, linkFile, checkImports_withOptions, viewFrom_withOptions]
  change _ = LinkedFile.withOptions optionsOf <$> _
  simp only [map_bind, map_pure]
  rfl

private theorem linkEach_withOptions (table : Table) (files decls : List FileDecl) :
    linkEach table (files.map (FileDecl.withOptions optionsOf))
        (decls.map (FileDecl.withOptions optionsOf)) =
      (linkEach table files decls).map (List.map (LinkedFile.withOptions optionsOf)) := by
  induction decls with
  | nil => rfl
  | cons decl rest induction =>
      rw [List.map_cons, linkEach, linkEach, linkFile_withOptions, induction]
      cases linkFile table files decl with
      | error => rfl
      | ok linked => cases linkEach table files rest <;> rfl

theorem link_withOptions (files : List FileDecl) :
    link (files.map (FileDecl.withOptions optionsOf)) =
      (link files).map (Pool.withOptions optionsOf) := by
  rw [link, link, Table.ofFiles, enterFiles_withOptions, ← Table.ofFiles]
  cases Table.ofFiles files with
  | error => rfl
  | ok table =>
      simp only [bind, Except.bind, linkEach_withOptions]
      cases linkEach table files files <;> rfl

variable {pool kept : Pool}

namespace Pool

theorem decls_withOptions (pool : Pool) :
    (pool.withOptions optionsOf).decls = pool.decls.map (FileDecl.withOptions optionsOf) := by
  rw [decls, decls, withOptions, List.map_map, List.map_map]
  rfl

theorem message?_withOptions (pool : Pool) (fullName : String) :
    (pool.withOptions optionsOf).message? fullName =
      (pool.message? fullName).map fun found => (found.1.withOptions optionsOf, found.2) := by
  rw [message?, message?, decls_withOptions, List.findSome?_map, List.map_findSome?]
  congr 1
  funext decl
  simp only [Function.comp_apply, Option.map_map]
  rfl

private theorem firstNumber_withOptions (pool : Pool) (fullName : String) :
    (pool.withOptions optionsOf).firstNumber fullName = pool.firstNumber fullName := by
  have same : (pool.withOptions optionsOf).enum? fullName = pool.enum? fullName := by
    rw [enum?, enum?, decls_withOptions, List.findSome?_map]
    rfl
  rw [firstNumber, firstNumber, same]

private theorem fieldShape_withOptions (pool : Pool) (decl : FileDecl) (message : String)
    (field : FieldDecl) :
    fieldShape (pool.withOptions optionsOf) (decl.withOptions optionsOf) message field =
      fieldShape pool decl message field := by
  have view : (pool.withOptions optionsOf).viewFrom (decl.withOptions optionsOf) =
      pool.viewFrom decl := by
    rw [viewFrom, viewFrom, decls_withOptions, viewFrom_withOptions]
    rfl
  have dialect : (decl.withOptions optionsOf).dialect = decl.dialect := rfl
  simp only [fieldShape, valueShape, view, dialect, firstNumber_withOptions]

theorem shapes_withOptions (pool : Pool) : (pool.withOptions optionsOf).shapes = pool.shapes := by
  have field (found : FileDecl × MessageDecl) (name : String) :
      fieldShape (pool.withOptions optionsOf) (found.1.withOptions optionsOf) name =
        fieldShape pool found.1 name := funext fun field => fieldShape_withOptions pool _ name field
  funext name number
  rw [shapes, shapes, message?_withOptions]
  cases pool.message? name with
  | none => simp only [Option.map_none, Option.bind_eq_bind, Option.bind_none]
  | some found =>
      simp only [Option.map_some, Option.bind_eq_bind, Option.bind_some]
      rw [field]

private theorem readOptions_of_isNone (undeclared : (pool.message? fileOptionsName).isNone) :
    pool.readOptions = .ok pool := by
  rw [readOptions, if_pos undeclared]
  rfl

end Pool

/-- What is left of a file when a declaration has read its options again. -/
def LinkedFile.Rereads (shapes : Wire.Shapes) (file kept : LinkedFile) : Prop :=
  ∃ bytes, file.reshapedOptions shapes = .ok bytes ∧ file.withOptionsLeft bytes = .ok kept

/-- Only the options of a file are read again. -/
theorem LinkedFile.Rereads.otherwise_kept {shapes : Wire.Shapes} {file keptFile : LinkedFile}
    (rereads : file.Rereads shapes keptFile) :
    keptFile.services = file.services ∧
      { keptFile.decl with options := file.decl.options } = file.decl := by
  obtain ⟨bytes, _, left⟩ := rereads
  cases bytes with
  | none => exact Except.ok.inj left ▸ ⟨rfl, rfl⟩
  | some bytes =>
      obtain ⟨options, _, kept⟩ := Except.bind_eq_ok_iff.mp left
      exact Except.ok.inj kept ▸ ⟨rfl, rfl⟩

namespace Pool

private theorem readOptions_eq_ok_iff (declared : ¬(pool.message? fileOptionsName).isNone) :
    pool.readOptions = .ok kept ↔
      kept.table = pool.table ∧
        List.Forall₂ (LinkedFile.Rereads pool.shapes) pool.files kept.files := by
  rw [readOptions, if_neg declared]
  simp only [Except.bind_eq_ok_iff, Except.mapM_eq_ok_iff, pure, Except.pure, Except.ok.injEq]
  constructor
  · rintro ⟨reshaped, reshape, files, keep, rfl⟩
    refine ⟨rfl, reshape.compose keep fun file entry keptFile read left => ?_⟩
    obtain ⟨bytes, readBytes, rfl⟩ := read
    exact ⟨bytes, readBytes, left⟩
  · obtain ⟨table, keptFiles⟩ := kept
    rintro ⟨rfl, all⟩
    have each : ∀ file ∈ pool.files, ∀ keptFile, file.Rereads pool.shapes keptFile →
        ∃ entry : LinkedFile × Option (List UInt8),
          (∃ bytes, file.reshapedOptions pool.shapes = .ok bytes ∧ (file, bytes) = entry) ∧
            entry.1.withOptionsLeft entry.2 = .ok keptFile := by
      rintro file - keptFile ⟨bytes, read, left⟩
      exact ⟨(file, bytes), ⟨bytes, read, rfl⟩, left⟩
    obtain ⟨reshaped, reshape, keep⟩ := all.exists_forall₂ each
    exact ⟨reshaped, reshape, keptFiles, keep.flip, rfl⟩

/-- If every file can have the other options, so can the pool. What is left of its files is related
to what was left before if this holds file by file. -/
theorem exists_readOptions_withOptions {related : LinkedFile → LinkedFile → Prop}
    (read : pool.readOptions = .ok kept)
    (undeclared : (pool.message? fileOptionsName).isNone →
      ∀ file ∈ pool.files, related file (file.withOptions optionsOf))
    (declared : ¬(pool.message? fileOptionsName).isNone → ∀ file ∈ pool.files, ∀ keptFile,
      file.Rereads pool.shapes keptFile →
        ∃ other, (file.withOptions optionsOf).Rereads pool.shapes other ∧
          related keptFile other) :
    ∃ other, (pool.withOptions optionsOf).readOptions = .ok other ∧
      List.Forall₂ related kept.files other.files := by
  have sameMessage : ((pool.withOptions optionsOf).message? fileOptionsName).isNone =
      (pool.message? fileOptionsName).isNone := by
    rw [message?_withOptions, Option.isNone_map]
  by_cases absent : (pool.message? fileOptionsName).isNone
  · rw [readOptions_of_isNone absent, Except.ok.injEq] at read
    subst kept
    refine ⟨_, readOptions_of_isNone (sameMessage.trans absent), ?_⟩
    rw [withOptions, List.forall₂_map_right_iff, List.forall₂_same]
    exact undeclared absent
  · obtain ⟨_, all⟩ := (readOptions_eq_ok_iff absent).mp read
    obtain ⟨others, rereads, relateds⟩ := all.exists_forall₂ (declared absent)
    refine ⟨⟨pool.table, others⟩, (readOptions_eq_ok_iff (sameMessage ▸ absent)).mpr ⟨rfl, ?_⟩,
      relateds⟩
    rw [shapes_withOptions, withOptions, List.forall₂_map_left_iff]
    exact rereads

end Pool

section Declared

open Wire

variable {shapes : Shapes} {text : String}

/-- How the schema of the language itself declares the option that names a Go package. -/
def optionalText : FieldShape := ⟨.scalar .text, false, false, none⟩

private theorem readScalar_utf8 (fits : (utf8 text).length < UInt64.size) (rest : List UInt8) :
    readScalar .text .lengthDelimited (writeVarint (utf8 text).length ++ (utf8 text ++ rest)) =
      .ok (writeVarint (utf8 text).length ++ utf8 text, rest) := by
  have wire : expect (ScalarShape.wire .text) .lengthDelimited = .ok () := rfl
  simp only [readScalar, wire, takeDelimited, takeBytes, readVarint_writeVarint fits,
    not_length_append_lt, bind, Except.bind, if_false, List.take_left, List.drop_left, text?_utf8,
    Option.isNone_some]
  rfl

private theorem restores_goPackage (declares : shapes fileOptionsName 11 = some optionalText)
    (budget : Nat) :
    Restores (readShaped shapes budget fileOptionsName) []
      (FileOptions.encode ⟨some text⟩) [(11, .fields (FileOptions.encode ⟨some text⟩))] := by
  have shaped : readShaped shapes budget fileOptionsName ⟨11, .lengthDelimited⟩ [] =
      readScalarField optionalText .text ⟨11, .lengthDelimited⟩ [] := by
    cases budget <;> rw [readShaped] <;> funext bytes <;>
      simp only [readShapedWith, declares, optionalText]
  have reads : FieldReads 11 .lengthDelimited
      (fun wire => readShaped shapes budget fileOptionsName ⟨11, wire⟩ [])
      (FileOptions.encode ⟨some text⟩) [(11, .fields (FileOptions.encode ⟨some text⟩))] := by
    refine ⟨_, List.append_assoc _ _ _, fun countable rest => ?_⟩
    rw [List.length_append] at countable
    have fits : (utf8 text).length < UInt64.size := by omega
    have whole : FileOptions.encode ⟨some text⟩ = writeKey 11 .lengthDelimited ++
        (writeVarint (utf8 text).length ++ utf8 text) := List.append_assoc _ _ _
    dsimp only
    rw [shaped, readScalarField, List.append_assoc, readScalar_utf8 fits, whole]
    rfl
  exact Restores.step (by decide) reads

/-- Options that are declared as usual come out as they went in. -/
theorem reshapeOptions_of_optionalText (declares : shapes fileOptionsName 11 = some optionalText)
    (countable : (FileOptions.encode ⟨some text⟩).length < UInt64.size) :
    reshapeOptions shapes ⟨some text⟩ = .ok (FileOptions.encode ⟨some text⟩) := by
  have read := readAll_of_restores (restores_goPackage declares Request.depthLimit) countable
  have written : writeSlots [(11, .fields (FileOptions.encode ⟨some text⟩))] =
      FileOptions.encode ⟨some text⟩ := List.append_nil _
  rw [reshapeOptions, read]
  dsimp only
  rw [written]

theorem optionsLeft_encode (file : String) {options : FileOptions}
    (countable : options.encode.length < UInt64.size) :
    optionsLeft file options.encode = .ok options := by
  rw [optionsLeft, readAll_of_restores (FileOptions.restores Request.depthLimit options) countable]

end Declared

end Linking

end RpcProxy

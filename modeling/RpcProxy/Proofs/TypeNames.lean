import RpcProxy.Proofs.Declarations
import RpcProxy.Proofs.References
import RpcProxy.Proofs.Text

/-!
# Names of message types

A message type is written as a name, alone or behind the alias of a package. Neither aliases nor
exported names have dots, so the text gives the reference back; a reference means one identifier, as
no two packages share an alias. Hence two messages are written alike exactly if they are the same Go
type, and a message is only taken for the well-known empty one if it is the same Go type as that.
-/

namespace RpcProxy

namespace Reference

/-- Whether neither part of a reference has a dot. -/
structure Undotted (reference : Reference) : Prop where
  name : '.' ∉ reference.name.toList
  qualifier : ∀ qualifier, reference.qualifier = some qualifier → '.' ∉ qualifier.toList

/-- The qualifier stands before the first dot. -/
theorem Undotted.cutFirst_text {reference : Reference} (undotted : reference.Undotted) :
    Text.cutFirst '.' reference.text =
      reference.qualifier.map fun qualifier => (qualifier, reference.name) := by
  cases qualified : reference.qualifier with
  | none =>
      rw [text, qualified]
      exact Text.cutFirst_eq_none undotted.name
  | some qualifier =>
      rw [text, qualified]
      exact Text.cutFirst_append (undotted.qualifier qualifier qualified) reference.name

/-- References without dots in their parts are written alike only if they are equal. -/
theorem Undotted.text_inj {left right : Reference} (leftUndotted : left.Undotted)
    (rightUndotted : right.Undotted) : left.text = right.text ↔ left = right := by
  refine ⟨fun same => ?_, congrArg text⟩
  have cut := leftUndotted.cutFirst_text.symm.trans (same ▸ rightUndotted.cutFirst_text)
  obtain ⟨leftQualifier, leftName⟩ := left
  obtain ⟨rightQualifier, rightName⟩ := right
  cases leftQualifier with
  | none =>
      cases rightQualifier with
      | none => exact congrArg (Reference.mk none) same
      | some qualifier => simp at cut
  | some leftAlias =>
      cases rightQualifier with
      | none => simp at cut
      | some rightAlias =>
          obtain ⟨rfl, rfl⟩ := Prod.mk.inj (Option.some.inj cut)
          rfl

/-- A reference means one identifier, if every alias belongs to one path. -/
theorem Means.unique {table : ImportTable} (distinct : table.Distinct) {localPath : String}
    {reference : Reference} {left right : Identifier}
    (meansLeft : reference.Means localPath table.imports left)
    (meansRight : reference.Means localPath table.imports right) : left = right := by
  cases meansLeft with
  | bare =>
      cases meansRight with
      | bare => rfl
  | qualified line name member =>
      generalize same : (⟨some line.qualifier, name⟩ : Reference) = reference at meansRight
      cases meansRight with
      | bare => simp at same
      | qualified other otherName otherMember =>
          obtain ⟨qualifiers, rfl⟩ := Reference.mk.inj same
          rw [ImportTable.mem_imports_iff] at member otherMember
          rw [Option.some.inj qualifiers] at member
          rw [distinct member otherMember]

end Reference

/-- In the files of a request the messages have names without dots. -/
theorem Request.dot_notMem_of_parse {request : Request} {options : Options} {files : List ProtoFile}
    (parsed : request.parse = .ok (options, files)) {file : ProtoFile} (member : file ∈ files)
    {message : Message} (spells : file.Spells message) :
    '.' ∉ message.identifier.name.toList := by
  obtain ⟨pool, _, _, made⟩ := parse_eq_ok_iff.mp parsed
  obtain ⟨name, exported⟩ :=
    Schema.exists_exported made member (ProtoFile.mem_spelled_iff.mpr spells)
  rw [exported]
  exact GoName.dot_notMem_exported name

namespace ProtoFile

variable {file : ProtoFile} {options : Options}

theorem undotted_refer (file : ProtoFile) (options : Options) {ident : Identifier}
    (undotted : '.' ∉ ident.name.toList) : ((file.scope options).refer ident).Undotted where
  name := by rwa [Scope.name_refer]
  qualifier qualifier refers := by
    rw [Scope.qualifier_refer] at refers
    split at refers
    · simp at refers
    · have word : GoName.IsWord qualifier := named_scope file options refers
      exact fun dot => absurd (word '.' dot) (by decide +kernel)

theorem RefersTo.refer_inj {left right : Identifier} (refersLeft : file.RefersTo left)
    (refersRight : file.RefersTo right) :
    (file.scope options).refer left = (file.scope options).refer right ↔ left = right := by
  refine ⟨fun same => ?_, congrArg _⟩
  have meansLeft := Scope.means_refer (refersLeft.reached options)
  have meansRight := Scope.means_refer (refersRight.reached options)
  exact (same ▸ meansLeft).unique (distinct_scope file options) meansRight

/-- In a file that spells the well-known empty message, exactly the empty type of its package is
referred to in the same way, unless that package is the file's own. -/
theorem refer_eq_emptyMessage_iff {empty : Message} (spellsEmpty : file.Spells empty)
    (isEmpty : empty.isEmpty = true) {ident : Identifier} :
    (file.scope options).refer ident = .emptyMessage ↔
      ident = ⟨"Empty", emptyPath⟩ ∧ file.localPath options ≠ emptyPath := by
  have named : (file.scope options).imports.aliasOf? emptyPath = some "emptypb" :=
    aliasOf?_emptyPath spellsEmpty isEmpty
  obtain ⟨name, path⟩ := ident
  rw [Scope.refer, Reference.emptyMessage]
  split
  · rename_i isLocal
    have own : path = file.localPath options := isLocal
    refine iff_of_false (by simp) ?_
    rintro ⟨same, foreign⟩
    exact foreign (own.symm.trans (Identifier.mk.inj same).2)
  · rename_i notLocal
    have foreign : path ≠ file.localPath options := notLocal
    simp only [Reference.mk.injEq, Identifier.mk.injEq]
    constructor
    · rintro ⟨found, rfl⟩
      obtain rfl := distinct_scope file options found named
      exact ⟨⟨rfl, rfl⟩, foreign.symm⟩
    · rintro ⟨⟨rfl, rfl⟩, _⟩
      exact ⟨named, rfl⟩

/-- Two spelled messages are written alike exactly if they are the same Go type. If the well-known
empty message is spelled, another message is written like it exactly if it is the empty type of the
same package, and this package is not the file's own. -/
theorem type_names_unambiguous (file : ProtoFile) (options : Options)
    (undotted : ∀ message, file.Spells message → message.isEmpty = false →
      '.' ∉ message.identifier.name.toList) :
    (∀ left right, file.Spells left → left.isEmpty = false →
      file.Spells right → right.isEmpty = false →
      (((file.scope options).typeOf left).text = ((file.scope options).typeOf right).text ↔
        left.identifier = right.identifier)) ∧
    ∀ empty message, file.Spells empty → empty.isEmpty = true →
      file.Spells message → message.isEmpty = false →
      (((file.scope options).typeOf message).text = "emptypb.Empty" ↔
        message.identifier = ⟨"Empty", emptyPath⟩ ∧ file.localPath options ≠ emptyPath) := by
  refine ⟨fun left right spellsLeft leftNotEmpty spellsRight rightNotEmpty => ?_,
    fun empty message spellsEmpty isEmpty spells notEmpty => ?_⟩
  · have refersLeft : file.RefersTo left.identifier := .message spellsLeft leftNotEmpty
    have refersRight : file.RefersTo right.identifier := .message spellsRight rightNotEmpty
    have leftUndotted := undotted_refer file options (undotted left spellsLeft leftNotEmpty)
    have rightUndotted := undotted_refer file options (undotted right spellsRight rightNotEmpty)
    rw [Scope.typeOf_of_not_isEmpty _ leftNotEmpty, Scope.typeOf_of_not_isEmpty _ rightNotEmpty,
      leftUndotted.text_inj rightUndotted, refersLeft.refer_inj refersRight]
  · have messageUndotted := undotted_refer file options (undotted message spells notEmpty)
    have emptyUndotted : Reference.emptyMessage.Undotted := by
      refine ⟨by decide, fun qualifier refers => ?_⟩
      obtain rfl := Option.some.inj refers
      decide
    have written : Reference.emptyMessage.text = "emptypb.Empty" := by decide
    rw [Scope.typeOf_of_not_isEmpty _ notEmpty, ← written,
      messageUndotted.text_inj emptyUndotted, refer_eq_emptyMessage_iff spellsEmpty isEmpty]

end ProtoFile

namespace Request

/-- A request for a store of entries. There are two packages of one name, each with a message
`Entry`, and two messages `Empty`, one of them the well-known one. -/
def stock : Request where
  filesToGenerate := ["store.proto"]
  files :=
    [{ name := some "old.proto", package := some "old", dialect := some "proto3"
       messages := [{ name := some "Entry" }]
       options := some { goPackage := some "example.com/old;entries" } },
     { name := some "new.proto", package := some "new", dialect := some "proto3"
       messages := [{ name := some "Entry" }]
       options := some { goPackage := some "example.com/new;entries" } },
     { name := some "empty.proto", package := some "google.protobuf", dialect := some "proto3"
       messages := [{ name := some "Empty" }]
       options := some { goPackage := some emptyPath } },
     { name := some "store.proto", package := some "store", dialect := some "proto3"
       dependencies := ["old.proto", "new.proto", "empty.proto"]
       messages := [{ name := some "Empty" }]
       services :=
        [{ name := some "Store", methods :=
            [{ name := some "Renew", inputType := some "old.Entry",
               outputType := some "new.Entry" },
             { name := some "Clear", inputType := some "store.Empty",
               outputType := some "google.protobuf.Empty" }] }]
       options := some { goPackage := some "example.com/store" } }]

end Request

namespace ProtoFile

/-- An entry of a package that is named like others. -/
def entryOf (package : String) : Message :=
  ⟨package ++ ".Entry", ⟨"Entry", "example.com/" ++ package⟩, "entries"⟩

/-- The empty message of the store. -/
def ownEmpty : Message := ⟨"store.Empty", ⟨"Empty", "example.com/store"⟩, "store"⟩

theorem type_names_unambiguous_stock :
    ∃ options files, Request.stock.parse = .ok (options, files) ∧ ∃ file ∈ files,
      (∀ message, file.Spells message → '.' ∉ message.identifier.name.toList) ∧
      (∃ message, file.Spells message ∧ message.isEmpty = true) ∧
      file.Spells (entryOf "old") ∧ file.Spells (entryOf "new") ∧ file.Spells ownEmpty ∧
      ((file.scope options).typeOf (entryOf "old")).text ≠
        ((file.scope options).typeOf (entryOf "new")).text ∧
      ((file.scope options).typeOf ownEmpty).text ≠ "emptypb.Empty" := by
  obtain ⟨⟨options, files⟩, parsed, file, member, spelled, old, new, own⟩ :
      ∃ parsed, Request.stock.parse = .ok parsed ∧ ∃ file ∈ parsed.2,
        file.spelled.any Message.isEmpty = true ∧ entryOf "old" ∈ file.spelled ∧
          entryOf "new" ∈ file.spelled ∧ ownEmpty ∈ file.spelled :=
    Except.exists_eq_ok_and (by decide +kernel)
  have undotted (message : Message) (spells : file.Spells message) :
      '.' ∉ message.identifier.name.toList := Request.dot_notMem_of_parse parsed member spells
  obtain ⟨empty, inFile, isEmpty⟩ := List.any_eq_true.mp spelled
  rw [mem_spelled_iff] at inFile old new own
  obtain ⟨alike, takenForEmpty⟩ :=
    type_names_unambiguous file options fun message spells _ => undotted message spells
  refine ⟨options, files, parsed, file, member, undotted, ⟨empty, inFile, isEmpty⟩, old, new, own,
    ?_, ?_⟩
  · rw [Ne, alike _ _ old (by decide) new (by decide)]
    decide
  · rw [Ne, takenForEmpty _ _ inFile isEmpty own (by decide), not_and]
    exact fun same => absurd same (by decide)

end ProtoFile

end RpcProxy

import RpcProxy.Proofs.ImportCalls
import RpcProxy.Proofs.Package

/-!
# Package names and aliases as identifiers

The names of Go packages and the aliases of imports have alphanumeric characters and underscores. Go
is narrower: of the alphanumeric characters its identifiers have letters and decimal digits, but no
other numbers and no marks. A text makes an identifier exactly if it has no such character.
-/

namespace RpcProxy

namespace Text

/-- Whether no interval of one set meets an interval of the other. -/
def CodePoints.apart (left right : CodePoints) : Bool :=
  left.all fun first => right.all fun second =>
    first.2.blt second.1 || second.2.blt first.1

theorem CodePoints.holds_eq_false_of_apart {left right : CodePoints}
    (apart : left.apart right = true) {letter : Char} (holds : left.holds letter = true) :
    right.holds letter = false := by
  obtain ⟨first, inLeft, within⟩ := List.any_eq_true.mp holds
  rw [CodePoints.holds, List.any_eq_false]
  intro second inRight also
  have separate := List.all_eq_true.mp (List.all_eq_true.mp apart first inLeft) second inRight
  rw [Bool.or_eq_true, Nat.blt_eq, Nat.blt_eq] at separate
  rw [Bool.and_eq_true, decide_eq_true_eq, decide_eq_true_eq] at within also
  omega

theorem CodePoints.holds_append (left right : CodePoints) (letter : Char) :
    CodePoints.holds (left ++ right) letter = (left.holds letter || right.holds letter) :=
  List.any_append

/-- An alphabetic character is no decimal digit unless it is a letter. -/
theorem isLetter_of_isDecimalDigit {letter : Char} (digit : isDecimalDigit letter = true)
    (alphabetic : isAlphabetic letter = true) : isLetter letter = true := by
  have apart : decimalDigitPoints.apart (letterNumberPoints ++ otherAlphabeticPoints) = true := by
    decide +kernel
  have outside := CodePoints.holds_eq_false_of_apart apart digit
  rw [CodePoints.holds_append, Bool.or_eq_false_iff] at outside
  rw [isAlphabetic, isLetterNumber, outside.1, outside.2] at alphabetic
  simpa using alphabetic

/-- The alphanumeric ASCII characters are letters and decimal digits. -/
theorem isLetter_or_isDecimalDigit_of_ascii {letter : Char} (ascii : letter.toNat < 128)
    (alphanumeric : isAlphanumeric letter = true) :
    isLetter letter = true ∨ isDecimalDigit letter = true := by
  have apart : CodePoints.apart [(0, 127)]
      (letterNumberPoints ++ otherAlphabeticPoints ++ otherNumberPoints) = true := by
    decide +kernel
  have inAscii : CodePoints.holds [(0, 127)] letter = true := by
    simp [CodePoints.holds]
    omega
  have outside := CodePoints.holds_eq_false_of_apart apart inAscii
  rw [CodePoints.holds_append, CodePoints.holds_append, Bool.or_eq_false_iff,
    Bool.or_eq_false_iff] at outside
  rw [isAlphanumeric, isAlphabetic, isLetterNumber, isOtherNumber, outside.1.1, outside.1.2,
    outside.2] at alphanumeric
  simpa using alphanumeric

end Text

namespace GoName

/-- Whether the alphanumeric characters of a text are such as Go has in identifiers. -/
def HasGoLetters (text : String) : Prop :=
  ∀ letter ∈ text.toList, Text.isAlphanumeric letter = true →
    Text.isLetter letter = true ∨ Text.isDecimalDigit letter = true

instance : DecidablePred HasGoLetters := fun text => List.decidableBAll _ text.toList

/-- Whether a text has ASCII characters only. -/
def IsAscii (text : String) : Prop := ∀ letter ∈ text.toList, letter.toNat < 128

instance : DecidablePred IsAscii := fun text => List.decidableBAll _ text.toList

theorem IsAscii.hasGoLetters {text : String} (ascii : IsAscii text) : HasGoLetters text :=
  fun letter member => Text.isLetter_or_isDecimalDigit_of_ascii (ascii letter member)

theorem identifier_ne_empty (text : String) : identifier text ≠ "" := by
  intro empty
  have none : (identifier text).toList = [] := by rw [empty, String.toList_empty]
  rcases identifier_spec text with ⟨letters, first, _⟩ | letters
  · rw [← letters, none] at first
    exact Bool.noConfusion first
  · rw [letters] at none
    exact List.cons_ne_nil _ _ none

theorem identifier_notMem_reservedWords (text : String) : identifier text ∉ reservedWords := by
  rcases identifier_spec text with ⟨_, _, unreserved⟩ | letters
  · exact unreserved
  · intro reserved
    have lower := isLower_head?_reservedWord _ reserved
    rw [letters, List.head?_cons, Option.any_some] at lower
    exact absurd lower (by decide)

/-- The kept letters of a text can stand in an identifier exactly if Go has those that are
alphanumeric. -/
theorem forall_mem_keptLetters_iff {text : String} :
    (∀ letter ∈ keptLetters text, IsIdentifierLetter letter) ↔ HasGoLetters text := by
  rw [keptLetters, List.forall_mem_map]
  refine forall₂_congr fun letter _ => ?_
  by_cases alphanumeric : Text.isAlphanumeric letter = true
  · have notUnderscore : (letter == '_') = false := by
      refine beq_false_of_ne ?_
      rintro rfl
      exact absurd alphanumeric (by decide +kernel)
    simp [alphanumeric, IsIdentifierLetter, startsIdentifier, notUnderscore]
  · simp [alphanumeric, IsIdentifierLetter, startsIdentifier]

/-- A text makes an identifier exactly if Go has its alphanumeric characters in identifiers. -/
theorem isIdentifier_identifier_iff {text : String} :
    isIdentifier (identifier text) = true ↔ HasGoLetters text := by
  rw [isIdentifier_iff, ← forall_mem_keptLetters_iff]
  rcases identifier_spec text with ⟨letters, first, _⟩ | letters
  · rw [letters]
    refine and_iff_right_of_imp fun kept => ?_
    obtain ⟨letter, isFirst, alphabetic⟩ := (Option.any_eq_true _ _).mp first
    refine ⟨letter, isFirst, ?_⟩
    rcases kept letter (List.mem_of_mem_head? isFirst) with starts | digit
    · exact starts
    · rw [startsIdentifier, Text.isLetter_of_isDecimalDigit digit alphabetic, Bool.true_or]
  · rw [letters, List.forall_mem_cons]
    constructor
    · exact fun valid => valid.2.2
    · have underscore : startsIdentifier '_' = true := by simp [startsIdentifier]
      exact fun kept => ⟨⟨'_', rfl, underscore⟩, .inl underscore, kept⟩

theorem isGoIdentifier_identifier_iff {text : String} :
    IsGoIdentifier (identifier text) ↔ HasGoLetters text :=
  (and_iff_left (identifier_notMem_reservedWords text)).trans isIdentifier_identifier_iff

/-- A number makes no identifier of a name that is none, and leaves one an identifier. -/
theorem isIdentifier_numbered_iff {name : String} (nonempty : name ≠ "") (number : Nat) :
    isIdentifier (name ++ toString number) = true ↔ isIdentifier name = true := by
  have digits : ∀ letter ∈ (toString number).toList, IsIdentifierLetter letter := by
    intro letter member
    rw [Nat.toString_eq_repr, Nat.toList_repr] at member
    exact .inr (isDecimalDigit_of_isDigit
      (Nat.isDigit_of_mem_toDigits (by decide) (by decide) member))
  have first : (name ++ toString number).toList.head? = name.toList.head? := by
    cases letters : name.toList with
    | nil => exact absurd (String.toList_eq_nil_iff.mp letters) nonempty
    | cons letter rest =>
        rw [String.toList_append, letters, List.cons_append, List.head?_cons, List.head?_cons]
  rw [isIdentifier_iff, isIdentifier_iff, first, String.toList_append, List.forall_mem_append,
    and_iff_left digits]

theorem numbered_notMem_reservedWords (name : String) (number : Nat) :
    name ++ toString number ∉ reservedWords := by
  have ends : ∀ word ∈ reservedWords, word.toList.getLast?.any Char.isLower = true := by
    decide +kernel
  intro reserved
  obtain ⟨letter, last, lower⟩ := (Option.any_eq_true _ _).mp (ends _ reserved)
  exact ne_numbered last (isDigit_of_isLower lower) name number rfl

end GoName

open GoName

/-- An alias is an identifier exactly if the name that it is made of makes one. -/
theorem ImportTable.isGoIdentifier_freeAlias_iff {taken : List String} {name : String} :
    IsGoIdentifier (freeAlias taken (identifier name)) ↔ HasGoLetters name := by
  rcases freeAlias_spec taken (identifier name) with ⟨_, result⟩ | ⟨_, number, _, result, _⟩
  · rw [result, isGoIdentifier_identifier_iff]
  · rw [result, IsGoIdentifier, and_iff_left (numbered_notMem_reservedWords _ number),
      isIdentifier_numbered_iff (identifier_ne_empty name) number, isIdentifier_identifier_iff]

/-- What is made of a text is never empty and no reserved word. It is an identifier exactly if Go
has the alphanumeric characters of the text in identifiers, as it has those of ASCII. So it is with
the name of every package that is made of the text, and with the alias of every import path that is
called for first with the text as a name. -/
theorem identifiers_valid_iff (text : String) :
    identifier text ≠ "" ∧ identifier text ∉ reservedWords ∧
    (IsGoIdentifier (identifier text) ↔ HasGoLetters text) ∧ (IsAscii text → HasGoLetters text) ∧
    (∀ file schemaPackage option, Package.givenName file schemaPackage option = text →
      (IsGoIdentifier (Package.ofFile file schemaPackage option).name ↔ HasGoLetters text)) ∧
    ∀ (calls later : List ImportTable.Call) (call : ImportTable.Call),
      call.path ∉ calls.map ImportTable.Call.path → call.name = text →
      ∃ qualifier,
        (ImportTable.ofCalls (calls ++ [call] ++ later)).aliasOf? call.path = some qualifier ∧
        (IsGoIdentifier qualifier ↔ HasGoLetters text) := by
  refine ⟨identifier_ne_empty text, identifier_notMem_reservedWords text,
    isGoIdentifier_identifier_iff, IsAscii.hasGoLetters, fun file schemaPackage option given => ?_,
    fun calls later call new named => ?_⟩
  · rw [Package.name_ofFile, given, isGoIdentifier_identifier_iff]
  · have given := ImportTable.aliasOf?_ofCalls_of_new new
    rw [named] at given
    exact ⟨_, ImportTable.aliasOf?_ofCalls_of_bound given later,
      ImportTable.isGoIdentifier_freeAlias_iff⟩

/-- A reserved word makes an identifier, the name of a package, and the alias of a path that is
called for under it when it is taken already. -/
theorem identifiers_valid_iff_interface :
    IsAscii "interface" ∧ HasGoLetters "interface" ∧ IsGoIdentifier (identifier "interface") ∧
    Package.givenName "a.proto" "" (some "example.com/interface") = "interface" ∧
    IsGoIdentifier (Package.ofFile "a.proto" "" (some "example.com/interface")).name ∧
    ∃ qualifier,
      (ImportTable.ofCalls [.add "a" "interface", .addPath "b/interface", .add "a" "b"]).aliasOf?
        "b/interface" = some qualifier ∧ IsGoIdentifier qualifier := by
  obtain ⟨_, _, valid, letters, packages, aliases⟩ := identifiers_valid_iff "interface"
  have ascii : IsAscii "interface" := by decide
  have plain := letters ascii
  have given : Package.givenName "a.proto" "" (some "example.com/interface") = "interface" := by
    decide
  obtain ⟨qualifier, bound, iff⟩ :=
    aliases [.add "a" "interface"] [.add "a" "b"] (.addPath "b/interface") (by decide) (by decide)
  exact ⟨ascii, plain, valid.mpr plain, given, (packages _ _ _ given).mpr plain, qualifier, bound,
    iff.mpr plain⟩

/-- A superscript stays in what is made of a text, and so does a Roman numeral in front, but neither
is in any identifier. -/
theorem superscript_stays :
    identifier "m²" = "m²" ∧ identifier "ⅷ" = "ⅷ" ∧
    (Package.ofFile "m.proto" "m" (some "example.com/m²")).name = "m²" ∧
    (ImportTable.ofCalls [.addPath "example.com/m²"]).aliasOf? "example.com/m²" = some "m²" ∧
    ¬IsGoIdentifier "m²" ∧ ¬IsGoIdentifier "ⅷ" := by
  decide +kernel

end RpcProxy

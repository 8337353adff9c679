import Mathlib.Data.List.Chain
import RpcProxy.Proofs.GoName
import RpcProxy.Proofs.Text
import RpcProxy.ProxySource

/-!
# Exported names as identifiers

The exported forms of schema names are the names in camel case: they start with a capital, and their
lower-case letters stand behind letters. Such a name is exported already. Its unexported form starts
with a lower-case letter, and the name of the adapter made of it is an identifier too.
-/

namespace RpcProxy.GoName

/-- Whether a letter may follow another one in camel case: behind a digit or an underscore there is
no lower-case letter. -/
def MayFollow (before letter : Char) : Prop :=
  before.isDigit = true ∨ before = '_' → letter.isLower = false

/-- Whether a name is in camel case. -/
structure IsCamelCase (name : String) : Prop where
  first : ∃ letter, name.toList.head? = some letter ∧ letter.isUpper = true
  letters : ∀ letter ∈ name.toList, IsPlainLetter letter
  raised : name.toList.IsChain MayFollow

/-- Whether a name starts with a lower-case letter and goes on with letters and digits. -/
structure IsLowerCamelCase (name : String) : Prop where
  first : ∃ letter, name.toList.head? = some letter ∧ letter.isLower = true
  letters : ∀ letter ∈ name.toList, letter.isAlphanum = true

section Letters

variable {letter : Char}

theorem isAlpha_of_isUpper (upper : letter.isUpper = true) : letter.isAlpha = true :=
  isAlpha_iff.mpr (.inl (isUpper_iff.mp upper))

theorem isAlpha_of_isLower (lower : letter.isLower = true) : letter.isAlpha = true :=
  isAlpha_iff.mpr (.inr (isLower_iff.mp lower))

theorem isUpper_of_isAlpha (alphabetic : letter.isAlpha = true)
    (notLower : letter.isLower = false) : letter.isUpper = true := by
  have cased : (letter.isUpper || letter.isLower) = true := alphabetic
  rwa [notLower, Bool.or_false] at cased

theorem isLower_of_isUpper (upper : letter.isUpper = true) : letter.isLower = false := by
  rw [isUpper_iff] at upper
  rw [Bool.eq_false_iff, Ne, isLower_iff]
  grind

/-- A letter of the schema language raises the one behind it unless it is alphabetic. -/
theorem raisesAfter_or_isAlpha (schema : isSchemaLetter letter = true) :
    raisesAfter (some letter) = true ∨ letter.isAlpha = true := by
  rw [isSchemaLetter, Char.isAlphanum] at schema
  rw [raisesAfter]
  grind

theorem IsPlainLetter.ne_dot (plain : IsPlainLetter letter) : letter ≠ '.' := by
  rintro rfl
  exact absurd plain (by decide)

/-- A letter in camel case raises the one behind it if it is a digit or an underscore. -/
theorem IsPlainLetter.raisesAfter_iff (plain : IsPlainLetter letter) :
    raisesAfter (some letter) = true ↔ letter.isDigit = true ∨ letter = '_' := by
  have notDot : (letter == '.') = false := beq_false_of_ne plain.ne_dot
  rw [raisesAfter, notDot, Bool.false_or, Bool.or_eq_true, beq_iff_eq, or_comm]

end Letters

section Identifiers

variable {name : String} {letter : Char}

/-- A text of plain letters that starts with an alphabetic one has the form of an identifier. -/
theorem isIdentifier_of_isPlainLetter (first : name.toList.head? = some letter)
    (alphabetic : letter.isAlpha = true) (plain : ∀ other ∈ name.toList, IsPlainLetter other) :
    isIdentifier name = true := by
  have isLetter {letter : Char} (alphabetic : letter.isAlpha = true) :
      startsIdentifier letter = true := by
    rw [startsIdentifier, isLetter_of_isAlpha alphabetic, Bool.true_or]
  refine isIdentifier_iff.mpr ⟨⟨letter, first, isLetter alphabetic⟩, fun other member => ?_⟩
  rcases plain other member with alphanumeric | rfl
  · rcases Bool.or_eq_true _ _ ▸ alphanumeric with alphabetic | digit
    · exact .inl (isLetter alphabetic)
    · exact .inr (isDecimalDigit_of_isDigit digit)
  · exact .inl (by simp [startsIdentifier])

/-- A name in camel case is an identifier, for reserved words start with a lower-case letter. -/
theorem IsCamelCase.isGoIdentifier (camel : IsCamelCase name) : IsGoIdentifier name := by
  obtain ⟨letter, first, upper⟩ := camel.first
  have alphabetic := isAlpha_of_isUpper upper
  refine ⟨isIdentifier_of_isPlainLetter first alphabetic camel.letters, fun reserved => ?_⟩
  have lower := isLower_head?_reservedWord name reserved
  rw [first, Option.any_some, isLower_of_isUpper upper] at lower
  exact Bool.noConfusion lower

/-- A name in lower camel case with `Server` behind it is an identifier, for no reserved word ends
so. -/
theorem IsLowerCamelCase.isGoIdentifier_server (camel : IsLowerCamelCase name) :
    IsGoIdentifier (name ++ "Server") := by
  obtain ⟨letter, first, lower⟩ := camel.first
  have firstOfBoth : (name ++ "Server").toList.head? = some letter := by
    rw [String.toList_append, List.head?_append, first, Option.some_or]
  constructor
  · refine isIdentifier_of_isPlainLetter firstOfBoth (isAlpha_of_isLower lower) ?_
    intro other member
    rw [String.toList_append, List.mem_append] at member
    rcases member with inName | inServer
    · exact .inl (camel.letters other inName)
    · have plain : "Server".toList.all Char.isAlphanum = true := by decide
      exact .inl (List.all_eq_true.mp plain other inServer)
  · have unlike : ∀ word ∈ reservedWords, Text.dropEnding? "Server" word = none := by decide
    intro reserved
    have cut := unlike _ reserved
    rw [Text.dropEnding?_append] at cut
    exact Option.some_ne_none _ cut

end Identifiers

section Exported

variable {name : String}

/-- A name of the schema language starts with an alphabetic letter or an underscore. -/
theorem IsSchemaName.exists_head? (named : IsSchemaName name) :
    ∃ letter, name.toList.head? = some letter ∧ (letter.isAlpha = true ∨ letter = '_') := by
  induction named with
  | @simple name identifier =>
      rw [isSchemaIdentifier] at identifier
      split at identifier
      · exact Bool.noConfusion identifier
      · rename_i first rest letters
        rw [Bool.and_eq_true, Bool.or_eq_true, beq_iff_eq] at identifier
        exact ⟨first, by rw [letters, List.head?_cons], identifier.1⟩
  | nested _ _ induction =>
      obtain ⟨letter, first, starts⟩ := induction
      refine ⟨letter, ?_, starts⟩
      rw [String.toList_append, String.toList_append, List.append_assoc, List.head?_append, first,
        Option.some_or]

private theorem exportedLetter_eq (before : Option Char) (letter : Char) (after : Option Char) :
    exportedLetter before letter after = [] ∨ ∃ written,
      exportedLetter before letter after = [written] ∧
        (letter.isAlpha = true → written.isAlpha = true) := by
  rw [exportedLetter]
  split
  · rename_i dot
    split
    · exact .inl rfl
    · exact .inr ⟨'_', rfl, fun alphabetic => absurd (dot ▸ alphabetic) (by decide)⟩
  · split
    · rename_i underscore
      have notAlpha : ¬letter.isAlpha = true := underscore ▸ by decide
      split
      · exact .inr ⟨'X', rfl, fun alphabetic => absurd alphabetic notAlpha⟩
      · split
        · exact .inl rfl
        · exact .inr ⟨'_', rfl, fun alphabetic => absurd alphabetic notAlpha⟩
    · split
      · exact .inr ⟨letter.toUpper, rfl, isAlpha_toUpper⟩
      · exact .inr ⟨letter, rfl, id⟩

private theorem isChain_exportedAfter {before : Option Char} {letters : List Char}
    (schema : ∀ letter ∈ letters, isSchemaLetter letter = true) :
    (exportedAfter before letters).IsChain MayFollow := by
  induction letters generalizing before with
  | nil => exact .nil
  | cons letter rest induction =>
      rw [List.forall_mem_cons] at schema
      have later : (exportedAfter (some letter) rest).IsChain MayFollow := induction schema.2
      rw [exportedAfter]
      rcases exportedLetter_eq before letter rest.head? with vanishes | ⟨written, equal, alphabetic⟩
      · rwa [vanishes, List.nil_append]
      · rw [equal, List.singleton_append, List.isChain_cons]
        refine ⟨fun next isNext separated => ?_, later⟩
        rcases raisesAfter_or_isAlpha schema.1 with raises | isAlpha
        · exact isLower_head?_exportedAfter raises isNext
        · have bounds := isAlpha_iff.mp (alphabetic isAlpha)
          rcases separated with digit | rfl
          · rw [Char.isDigit] at digit
            grind
          · exact absurd bounds (by decide)

/-- The exported form of a schema name is in camel case. -/
theorem IsSchemaName.isCamelCase (named : IsSchemaName name) : IsCamelCase (exported name) where
  first := by
    obtain ⟨letter, first, starts⟩ := named.exists_head?
    obtain ⟨rest, letters⟩ := List.head?_eq_some_iff.mp first
    rw [exported, String.toList_ofList, letters, exportedAfter]
    rcases starts with alphabetic | rfl
    · have notDot : letter ≠ '.' := by
        rintro rfl
        exact absurd alphabetic (by decide)
      have notUnderscore : letter ≠ '_' := by
        rintro rfl
        exact absurd alphabetic (by decide)
      rw [exportedLetter, if_neg notDot, if_neg notUnderscore]
      split
      · exact ⟨_, rfl, isUpper_of_isAlpha (isAlpha_toUpper alphabetic) (isLower_toUpper letter)⟩
      · rename_i kept
        have notLower : letter.isLower = false := by simpa [raisesAfter] using kept
        exact ⟨_, rfl, isUpper_of_isAlpha alphabetic notLower⟩
    · exact ⟨'X', rfl, rfl⟩
  letters _ member := named.isPlainLetter member
  raised := by
    rw [exported, String.toList_ofList]
    exact isChain_exportedAfter named.isSchemaLetter

private theorem exportedAfter_eq_self {before : Char} {letters : List Char}
    (plainBefore : IsPlainLetter before) (plain : ∀ letter ∈ letters, IsPlainLetter letter)
    (raised : (before :: letters).IsChain MayFollow) :
    exportedAfter (some before) letters = letters := by
  induction letters generalizing before with
  | nil => rfl
  | cons letter rest induction =>
      rw [List.forall_mem_cons] at plain
      rw [List.isChain_cons_cons] at raised
      have kept : exportedLetter (some before) letter rest.head? = [letter] := by
        rw [exportedLetter, if_neg plain.1.ne_dot]
        split
        · rename_i underscore
          have notRaised : rest.head?.any Char.isLower = false := by
            cases rest with
            | nil => rfl
            | cons next rest =>
                rw [List.isChain_cons_cons] at raised
                exact raised.2.1 (.inr underscore)
          simp [notRaised, plainBefore.ne_dot, underscore]
        · have notRaised : (letter.isLower && raisesAfter (some before)) = false := by
            rw [Bool.and_eq_false_iff]
            by_cases raises : raisesAfter (some before) = true
            · exact .inl (raised.1 (plainBefore.raisesAfter_iff.mp raises))
            · exact .inr (Bool.eq_false_iff.mpr raises)
          simp [notRaised]
      rw [exportedAfter, kept, induction plain.1 plain.2 raised.2, List.singleton_append]

/-- A name in camel case is exported already. -/
theorem IsCamelCase.exported_eq (camel : IsCamelCase name) : exported name = name := by
  obtain ⟨letter, first, upper⟩ := camel.first
  obtain ⟨rest, letters⟩ := List.head?_eq_some_iff.mp first
  have plain := camel.letters
  have raised := camel.raised
  rw [letters] at plain raised
  rw [List.forall_mem_cons] at plain
  have notUnderscore : letter ≠ '_' := by
    rintro rfl
    exact absurd upper (by decide)
  have kept : exportedLetter none letter rest.head? = [letter] := by
    simp [exportedLetter, plain.1.ne_dot, notUnderscore, isLower_of_isUpper upper]
  rw [← String.toList_inj, exported, String.toList_ofList, letters, exportedAfter, kept,
    exportedAfter_eq_self plain.1 plain.2 raised, List.singleton_append]

theorem IsCamelCase.isSchemaName (camel : IsCamelCase name) : IsSchemaName name := by
  obtain ⟨letter, first, upper⟩ := camel.first
  obtain ⟨rest, letters⟩ := List.head?_eq_some_iff.mp first
  have plain := camel.letters
  rw [letters, List.forall_mem_cons] at plain
  refine .simple ?_
  rw [isSchemaIdentifier, letters]
  refine Bool.and_eq_true_iff.mpr ⟨?_, List.all_eq_true.mpr fun other member => ?_⟩
  · rw [isAlpha_of_isUpper upper, Bool.true_or]
  · rw [Bool.or_eq_true, beq_iff_eq]
    exact plain.2 other member

/-- The exported forms of schema names are the names in camel case. -/
theorem isCamelCase_iff :
    IsCamelCase name ↔ ∃ source, IsSchemaName source ∧ exported source = name := by
  constructor
  · exact fun camel => ⟨name, camel.isSchemaName, camel.exported_eq⟩
  · rintro ⟨source, named, rfl⟩
    exact named.isCamelCase

/-- The unexported form of a name in camel case. -/
theorem IsCamelCase.isLowerCamelCase (camel : IsCamelCase name) :
    IsLowerCamelCase (unexported name) where
  first := by
    obtain ⟨letter, first, upper⟩ := camel.first
    exact exists_head?_unexported first (isAlpha_of_isUpper upper)
  letters _ member := isAlphanum_of_mem_unexported member

/-- The exported form of a schema name is an identifier in camel case and its own exported form. Its
unexported form is in lower camel case, and the adapter of a service of this name has an unexported
identifier for its name. -/
theorem exported_name_wellFormed (named : IsSchemaName name) :
    IsCamelCase (exported name) ∧ '.' ∉ (exported name).toList ∧
    IsGoIdentifier (exported name) ∧ exported (exported name) = exported name ∧
    IsLowerCamelCase (unexported (exported name)) ∧
    ∀ service : ServiceProxy, service.serviceName = exported name →
      IsGoIdentifier service.adapterName ∧
        ∃ letter, service.adapterName.toList.head? = some letter ∧ letter.isLower = true := by
  have camel : IsCamelCase (exported name) := isCamelCase_iff.mpr ⟨name, named, rfl⟩
  have lowerCamel := camel.isLowerCamelCase
  refine ⟨camel, dot_notMem_exported name, camel.isGoIdentifier, camel.exported_eq, lowerCamel,
    fun service isName => ?_⟩
  rw [ServiceProxy.adapterName, isName]
  obtain ⟨letter, first, lower⟩ := lowerCamel.first
  refine ⟨lowerCamel.isGoIdentifier_server, letter, ?_, lower⟩
  rw [String.toList_append, List.head?_append, first, Option.some_or]

/-- A name with separators before, between and behind its words. -/
theorem exported_name_wellFormed_separators :
    exported "_http2go.__x_1.Do_" = "XHttp2Go_XX_1_Do_" ∧
    unexported "XHttp2Go_XX_1_Do_" = "xhttp2GoXx1Do" ∧
    IsCamelCase "XHttp2Go_XX_1_Do_" ∧ exported "XHttp2Go_XX_1_Do_" = "XHttp2Go_XX_1_Do_" ∧
    IsLowerCamelCase "xhttp2GoXx1Do" := by
  have first : IsSchemaName "_http2go" := .simple (by decide)
  have second : IsSchemaName "_http2go.__x_1" :=
    .nested first (by decide : isSchemaIdentifier "__x_1")
  have named : IsSchemaName "_http2go.__x_1.Do_" :=
    .nested second (by decide : isSchemaIdentifier "Do_")
  have isExported : exported "_http2go.__x_1.Do_" = "XHttp2Go_XX_1_Do_" := by decide
  have isUnexported : unexported "XHttp2Go_XX_1_Do_" = "xhttp2GoXx1Do" := by decide
  obtain ⟨camel, _, _, fixed, lowerCamel, _⟩ := exported_name_wellFormed named
  rw [isExported] at camel fixed lowerCamel
  exact ⟨isExported, isUnexported, camel, fixed, isUnexported ▸ lowerCamel⟩

end Exported

end RpcProxy.GoName

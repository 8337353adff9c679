import RpcProxy.GoName

/-!
# Letters of Go names

A package name made of any text consists of alphanumeric characters and underscores, and so does the
name with a number behind it. An exported name never starts with a lower-case letter, and the
unexported form of a name that starts with a letter always does.
-/

namespace RpcProxy.GoName

/-- Whether a letter can stand in a package name. -/
def isNameLetter (letter : Char) : Bool := Text.isAlphanumeric letter || letter == '_'

theorem isDecimalDigit_of_isDigit {letter : Char} (digit : letter.isDigit = true) :
    Text.isDecimalDigit letter = true := by
  have bounds : 48 ≤ letter.toNat ∧ letter.toNat ≤ 57 := by
    simpa [Char.isDigit, UInt32.le_iff_toNat_le] using digit
  rw [Text.isDecimalDigit, Text.CodePoints.holds, List.any_eq_true]
  exact ⟨(0x30, 0x39), by decide, by simpa using bounds⟩

theorem isNameLetter_of_isDigit {letter : Char} (digit : letter.isDigit = true) :
    isNameLetter letter = true := by
  simp [isNameLetter, Text.isAlphanumeric, isDecimalDigit_of_isDigit digit]

/-- The letters of a text, with underscores for those that are not alphanumeric. -/
def keptLetters (text : String) : List Char :=
  text.toList.map fun letter => if Text.isAlphanumeric letter then letter else '_'

/-- A package name has the kept letters of its text, with an underscore in front unless they start
with an alphabetic one and are no reserved word. -/
theorem identifier_spec (text : String) :
    ((identifier text).toList = keptLetters text ∧
        (keptLetters text).head?.any Text.isAlphabetic = true ∧ identifier text ∉ reservedWords) ∨
      (identifier text).toList = '_' :: keptLetters text := by
  rw [identifier]
  split
  · rename_i plain
    left
    simpa [keptLetters] using plain
  · right
    simp [keptLetters]

theorem isNameLetter_of_mem_identifier {text : String} {letter : Char}
    (member : letter ∈ (identifier text).toList) : isNameLetter letter = true := by
  have kept : ∀ other ∈ keptLetters text, isNameLetter other = true := by
    intro other member
    obtain ⟨source, _, rfl⟩ := List.mem_map.mp member
    split
    · rename_i alphanumeric
      simp [isNameLetter, alphanumeric]
    · simp [isNameLetter]
  rcases identifier_spec text with ⟨letters, _⟩ | letters
  · exact kept letter (letters ▸ member)
  · rw [letters, List.mem_cons] at member
    rcases member with rfl | later
    · simp [isNameLetter]
    · exact kept letter later

/-- A number keeps a name a name. -/
theorem isNameLetter_of_mem_numbered {name : String} {number : Nat}
    (letters : ∀ letter ∈ name.toList, isNameLetter letter = true) {letter : Char}
    (member : letter ∈ (name ++ toString number).toList) : isNameLetter letter = true := by
  rw [String.toList_append, List.mem_append] at member
  rcases member with inName | inNumber
  · exact letters letter inName
  · rw [Nat.toString_eq_repr, Nat.toList_repr] at inNumber
    exact isNameLetter_of_isDigit (Nat.isDigit_of_mem_toDigits (by decide) (by decide) inNumber)

theorem numbered_injective (name : String) :
    Function.Injective fun number : Nat => name ++ toString number := by
  intro left right equal
  have digits : Nat.toDigits 10 left = Nat.toDigits 10 right := by
    simpa [Nat.toString_eq_repr] using congrArg String.toList equal
  simpa [Nat.ofDigitChars_toDigits] using
    congrArg (fun letters => Nat.ofDigitChars 10 letters 0) digits

theorem ne_numbered {text : String} {letter : Char} (last : text.toList.getLast? = some letter)
    (notDigit : letter.isDigit = false) (name : String) (number : Nat) :
    text ≠ name ++ toString number := by
  rintro rfl
  have digits : (Nat.toDigits 10 number) ≠ [] := List.ne_nil_of_length_pos Nat.length_toDigits_pos
  rw [String.toList_append, Nat.toString_eq_repr, Nat.toList_repr, List.getLast?_append,
    List.getLast?_eq_some_getLast digits, Option.some_or, Option.some.injEq] at last
  have digit := Nat.isDigit_of_mem_toDigits (by decide) (by decide) (List.getLast_mem digits)
  rw [last] at digit
  rw [notDigit] at digit
  exact Bool.noConfusion digit

/-- Whether all letters of a text can stand in a name. -/
def IsWord (text : String) : Prop := ∀ letter ∈ text.toList, isNameLetter letter = true

instance : DecidablePred IsWord := fun text => List.decidableBAll _ text.toList

/-- Whether a text has no other letters than names with dots and stars between them. -/
def IsTypeText (text : String) : Prop :=
  ∀ letter ∈ text.toList, isNameLetter letter = true ∨ letter = '.' ∨ letter = '*'

instance : DecidablePred IsTypeText := fun text => List.decidableBAll _ text.toList

/-- The letters that stand around words and types in lines. -/
def isSeparator (letter : Char) : Bool := letter ∈ ['\n', ' ', ',', '(', ')']

theorem isNameLetter_of_isSeparator {letter : Char} (separator : isSeparator letter = true) :
    isNameLetter letter = false := by
  simp only [isSeparator, List.mem_cons, List.not_mem_nil, or_false, decide_eq_true_eq] at separator
  rcases separator with rfl | rfl | rfl | rfl | rfl <;> decide +kernel

section Words

variable {text other : String} {letter : Char}

theorem IsWord.isTypeText (word : IsWord text) : IsTypeText text :=
  fun letter member => .inl (word letter member)

theorem IsWord.append (word : IsWord text) (otherWord : IsWord other) : IsWord (text ++ other) := by
  intro letter member
  rw [String.toList_append, List.mem_append] at member
  exact member.elim (word letter) (otherWord letter)

theorem IsTypeText.append (plain : IsTypeText text) (otherPlain : IsTypeText other) :
    IsTypeText (text ++ other) := by
  intro letter member
  rw [String.toList_append, List.mem_append] at member
  exact member.elim (plain letter) (otherPlain letter)

theorem IsTypeText.notMem (plain : IsTypeText text) (separator : isSeparator letter = true) :
    letter ∉ text.toList := by
  intro member
  rcases plain letter member with named | rfl | rfl
  · rw [isNameLetter_of_isSeparator separator] at named
    exact Bool.noConfusion named
  · exact absurd separator (by decide)
  · exact absurd separator (by decide)

theorem IsWord.notMem (word : IsWord text) (separator : isSeparator letter = true) :
    letter ∉ text.toList :=
  word.isTypeText.notMem separator

theorem IsTypeText.lineFeed_notMem (plain : IsTypeText text) : '\n' ∉ text.toList :=
  plain.notMem (by decide)

theorem IsWord.lineFeed_notMem (word : IsWord text) : '\n' ∉ text.toList :=
  word.notMem (by decide)

end Words

/-- Whether a letter can start a Go identifier. -/
def startsIdentifier (letter : Char) : Bool := Text.isLetter letter || letter == '_'

/-- Whether a text has the form of a Go identifier, be it a reserved word or not. -/
def isIdentifier (text : String) : Bool :=
  match text.toList with
  | [] => false
  | first :: rest => startsIdentifier first &&
    rest.all fun letter => startsIdentifier letter || Text.isDecimalDigit letter

/-- Whether a text is a Go identifier: it has the form of one and is not reserved. -/
def IsGoIdentifier (text : String) : Prop := isIdentifier text = true ∧ text ∉ reservedWords

instance : DecidablePred IsGoIdentifier := fun _ => instDecidableAnd

theorem isLower_head?_reservedWord :
    ∀ word ∈ reservedWords, word.toList.head?.any Char.isLower = true := by
  decide

/-- Whether a letter can stand in a Go identifier. -/
def IsIdentifierLetter (letter : Char) : Prop :=
  startsIdentifier letter = true ∨ Text.isDecimalDigit letter = true

theorem isIdentifier_iff {text : String} :
    isIdentifier text = true ↔
      (∃ letter, text.toList.head? = some letter ∧ startsIdentifier letter = true) ∧
        ∀ letter ∈ text.toList, IsIdentifierLetter letter := by
  rw [isIdentifier]
  cases text.toList with
  | nil => simp
  | cons first rest =>
      simp only [Bool.and_eq_true, List.all_eq_true, Bool.or_eq_true, List.head?_cons,
        Option.some.injEq, exists_eq_left', List.forall_mem_cons, IsIdentifierLetter]
      exact ⟨fun both => ⟨both.1, .inl both.1, both.2⟩, fun all => ⟨all.1, all.2.2⟩⟩

theorem IsIdentifierLetter.isNameLetter {letter : Char} (inIdentifier : IsIdentifierLetter letter) :
    isNameLetter letter = true := by
  rcases inIdentifier with starts | digit
  · rcases Bool.or_eq_true _ _ ▸ starts with isLetter | underscore
    · simp [GoName.isNameLetter, Text.isAlphanumeric, Text.isAlphabetic, isLetter]
    · simp [GoName.isNameLetter, underscore]
  · simp [GoName.isNameLetter, Text.isAlphanumeric, digit]

theorem isWord_of_isIdentifier {text : String} (identifier : isIdentifier text = true) :
    IsWord text :=
  fun letter member => ((isIdentifier_iff.mp identifier).2 letter member).isNameLetter

theorem isUpper_iff {letter : Char} :
    letter.isUpper = true ↔ 65 ≤ letter.val ∧ letter.val ≤ 90 :=
  decide_eq_true_iff

theorem isLower_iff {letter : Char} :
    letter.isLower = true ↔ 97 ≤ letter.val ∧ letter.val ≤ 122 :=
  Bool.and_eq_true_iff.trans (and_congr decide_eq_true_iff decide_eq_true_iff)

theorem isAlpha_iff {letter : Char} :
    letter.isAlpha = true ↔
      65 ≤ letter.val ∧ letter.val ≤ 90 ∨ 97 ≤ letter.val ∧ letter.val ≤ 122 :=
  Bool.or_eq_true_iff.trans (or_congr isUpper_iff isLower_iff)

private theorem val_toUpper (letter : Char) :
    letter.toUpper.val =
      if 97 ≤ letter.val ∧ letter.val ≤ 122 then letter.val + (65 - 97) else letter.val :=
  apply_dite Char.val _ _ _

private theorem val_toLower (letter : Char) :
    letter.toLower.val =
      if 65 ≤ letter.val ∧ letter.val ≤ 90 then letter.val + 32 else letter.val :=
  apply_dite Char.val _ _ _

theorem isDigit_of_isAlpha {letter : Char} (alphabetic : letter.isAlpha = true) :
    letter.isDigit = false := by
  rw [isAlpha_iff] at alphabetic
  rw [Char.isDigit]
  grind

theorem isDigit_of_isLower {letter : Char} (lower : letter.isLower = true) :
    letter.isDigit = false :=
  isDigit_of_isAlpha (isAlpha_iff.mpr (.inr (isLower_iff.mp lower)))

theorem isLower_toUpper (letter : Char) : letter.toUpper.isLower = false := by
  rw [Bool.eq_false_iff, Ne, isLower_iff, val_toUpper]
  grind

theorem isAlpha_toUpper {letter : Char} (alphabetic : letter.isAlpha = true) :
    letter.toUpper.isAlpha = true := by
  rw [isAlpha_iff] at alphabetic ⊢
  rw [val_toUpper]
  grind

private theorem isLower_toLower {letter : Char} (alphabetic : letter.isAlpha = true) :
    letter.toLower.isLower = true := by
  rw [isAlpha_iff] at alphabetic
  rw [isLower_iff, val_toLower]
  grind

theorem isLetter_of_isAlpha {letter : Char} (alphabetic : letter.isAlpha = true) :
    Text.isLetter letter = true := by
  have bounds : 65 ≤ letter.toNat ∧ letter.toNat ≤ 90 ∨ 97 ≤ letter.toNat ∧ letter.toNat ≤ 122 :=
    isAlpha_iff.mp alphabetic
  rw [Text.isLetter, Text.CodePoints.holds, List.any_eq_true]
  rcases bounds with upper | lower
  · exact ⟨(0x41, 0x5A), List.mem_cons_self, by simpa using upper⟩
  · exact ⟨(0x61, 0x7A), List.mem_cons_of_mem _ List.mem_cons_self, by simpa using lower⟩

theorem isNameLetter_of_isAlphanum {letter : Char} (alphanumeric : letter.isAlphanum = true) :
    isNameLetter letter = true := by
  rcases Bool.or_eq_true _ _ ▸ alphanumeric with alphabetic | digit
  · simp [isNameLetter, Text.isAlphanumeric, Text.isAlphabetic, isLetter_of_isAlpha alphabetic]
  · exact isNameLetter_of_isDigit digit

private theorem isAlphanum_of_mem_unexportedLetter {before : Option Char} {letter other : Char}
    (member : other ∈ unexportedLetter before letter) : other.isAlphanum = true := by
  rw [unexportedLetter] at member
  split at member
  · rename_i cased
    have alphabetic : letter.isAlpha = true := cased
    refine Bool.or_eq_true_iff.mpr (.inl ?_)
    split at member
    · obtain rfl := List.mem_singleton.mp member
      exact isAlpha_toUpper alphabetic
    · split at member
      · obtain rfl := List.mem_singleton.mp member
        exact isAlpha_iff.mpr (.inr (isLower_iff.mp (isLower_toLower alphabetic)))
      · exact List.mem_singleton.mp member ▸ alphabetic
  · split at member
    · rename_i digit
      exact Bool.or_eq_true_iff.mpr (.inr (List.mem_singleton.mp member ▸ digit))
    · simp at member

/-- An unexported name has ASCII letters and digits only, whatever it is made of. -/
theorem isAlphanum_of_mem_unexported {name : String} {letter : Char}
    (member : letter ∈ (unexported name).toList) : letter.isAlphanum = true := by
  have after (before : Option Char) (letters : List Char) :
      ∀ other ∈ unexportedAfter before letters, other.isAlphanum = true := by
    induction letters generalizing before with
    | nil => simp [unexportedAfter]
    | cons letter rest induction =>
        intro other member
        rw [unexportedAfter, List.mem_append] at member
        exact member.elim isAlphanum_of_mem_unexportedLetter (induction (some letter) other)
  rw [unexported, String.toList_ofList] at member
  exact after none _ letter member

theorem isWord_unexported (name : String) : IsWord (unexported name) :=
  fun _ member => isNameLetter_of_isAlphanum (isAlphanum_of_mem_unexported member)

/-- Whether a text is an identifier of the schema language. -/
def isSchemaIdentifier (text : String) : Bool :=
  match text.toList with
  | [] => false
  | first :: rest => (first.isAlpha || first == '_') &&
    rest.all fun letter => letter.isAlphanum || letter == '_'

/-- Whether a text is the name of a declaration that may stand inside others. -/
inductive IsSchemaName : String → Prop
  | simple {name : String} : isSchemaIdentifier name = true → IsSchemaName name
  | nested {outer name : String} : IsSchemaName outer → isSchemaIdentifier name = true →
      IsSchemaName (outer ++ "." ++ name)

/-- Whether a letter stands in names of the schema language. -/
def isSchemaLetter (letter : Char) : Bool :=
  letter.isAlphanum || letter == '_' || letter == '.'

private theorem isSchemaLetter_of_isSchemaIdentifier {text : String}
    (identifier : isSchemaIdentifier text = true) :
    ∀ letter ∈ text.toList, isSchemaLetter letter = true := by
  rw [isSchemaIdentifier] at identifier
  split at identifier
  · exact Bool.noConfusion identifier
  · rename_i first rest letters
    rw [Bool.and_eq_true, List.all_eq_true] at identifier
    rw [letters, List.forall_mem_cons]
    refine ⟨?_, fun letter later => by simp [isSchemaLetter, identifier.2 letter later]⟩
    rcases Bool.or_eq_true _ _ ▸ identifier.1 with alphabetic | underscore
    · simp [isSchemaLetter, Char.isAlphanum, alphabetic]
    · simp [isSchemaLetter, underscore]

theorem IsSchemaName.isSchemaLetter {text : String} (named : IsSchemaName text) :
    ∀ letter ∈ text.toList, isSchemaLetter letter = true := by
  induction named with
  | simple identifier => exact isSchemaLetter_of_isSchemaIdentifier identifier
  | nested _ identifier induction =>
      rw [String.toList_append, String.toList_append, List.forall_mem_append,
        List.forall_mem_append]
      exact ⟨⟨induction, by simp [GoName.isSchemaLetter]⟩,
        isSchemaLetter_of_isSchemaIdentifier identifier⟩

/-- Whether a letter is an ASCII letter or digit or an underscore. -/
def IsPlainLetter (letter : Char) : Prop := letter.isAlphanum = true ∨ letter = '_'

instance : DecidablePred IsPlainLetter := fun _ => instDecidableOr

theorem IsPlainLetter.isNameLetter {letter : Char} (plain : IsPlainLetter letter) :
    isNameLetter letter = true := by
  rcases plain with alphanumeric | rfl
  · exact isNameLetter_of_isAlphanum alphanumeric
  · simp [GoName.isNameLetter]

private theorem isPlainLetter_of_mem_exportedLetter {before after : Option Char} {letter : Char}
    (schema : isSchemaLetter letter = true) :
    ∀ other ∈ exportedLetter before letter after, IsPlainLetter other := by
  rw [exportedLetter]
  split
  · split <;> simp [IsPlainLetter]
  · rename_i notDot
    split
    · split
      · exact List.forall_mem_singleton.mpr (.inl rfl)
      · split <;> simp [IsPlainLetter]
    · rename_i notUnderscore
      have alphanumeric : letter.isAlphanum = true := by
        simpa [isSchemaLetter, notDot, notUnderscore] using schema
      split
      · rename_i raised
        have lower := (Bool.and_eq_true _ _ ▸ raised).1
        have alphabetic : letter.isAlpha = true := isAlpha_iff.mpr (.inr (isLower_iff.mp lower))
        exact List.forall_mem_singleton.mpr
          (.inl (Bool.or_eq_true_iff.mpr (.inl (isAlpha_toUpper alphabetic))))
      · exact List.forall_mem_singleton.mpr (.inl alphanumeric)

/-- The exported form of a schema name has ASCII letters, digits and underscores only. -/
theorem IsSchemaName.isPlainLetter {name : String} (named : IsSchemaName name) {letter : Char}
    (member : letter ∈ (exported name).toList) : IsPlainLetter letter := by
  have after (before : Option Char) {letters : List Char}
      (schema : ∀ letter ∈ letters, GoName.isSchemaLetter letter = true) :
      ∀ other ∈ exportedAfter before letters, IsPlainLetter other := by
    induction letters generalizing before with
    | nil => simp [exportedAfter]
    | cons letter rest induction =>
        rw [List.forall_mem_cons] at schema
        rw [exportedAfter, List.forall_mem_append]
        exact ⟨isPlainLetter_of_mem_exportedLetter schema.1, induction (some letter) schema.2⟩
  rw [exported, String.toList_ofList] at member
  exact after none named.isSchemaLetter letter member

theorem IsSchemaName.isWord_exported {name : String} (named : IsSchemaName name) :
    IsWord (exported name) :=
  fun _ member => (named.isPlainLetter member).isNameLetter

private theorem dot_notMem_exportedLetter (before : Option Char) (letter : Char)
    (after : Option Char) : '.' ∉ exportedLetter before letter after := by
  rw [exportedLetter]
  split
  · split <;> simp
  · rename_i notDot
    split
    · split
      · simp
      · split <;> simp
    · split
      · rename_i raised
        have lower := (Bool.and_eq_true _ _ ▸ raised).1
        have alphabetic := isAlpha_toUpper (isAlpha_iff.mpr (.inr (isLower_iff.mp lower)))
        intro dot
        rw [← List.mem_singleton.mp dot] at alphabetic
        exact absurd alphabetic (by decide)
      · exact fun dot => notDot (List.mem_singleton.mp dot).symm

theorem dot_notMem_exported (name : String) : '.' ∉ (exported name).toList := by
  have after (before : Option Char) (letters : List Char) : '.' ∉ exportedAfter before letters := by
    induction letters generalizing before with
    | nil => simp [exportedAfter]
    | cons letter rest induction =>
        rw [exportedAfter, List.mem_append, not_or]
        exact ⟨dot_notMem_exportedLetter before letter rest.head?, induction (some letter)⟩
  rw [exported, String.toList_ofList]
  exact after none name.toList

private theorem exportedLetter_cases {before : Option Char} (raises : raisesAfter before = true)
    (letter : Char) (after : Option Char) :
    (exportedLetter before letter after = [] ∧ raisesAfter (some letter) = true) ∨
      ∃ other, exportedLetter before letter after = [other] ∧ other.isLower = false := by
  rw [exportedLetter]
  split
  · rename_i dot
    split
    · exact .inl ⟨rfl, by rw [dot]; rfl⟩
    · exact .inr ⟨'_', rfl, rfl⟩
  · split
    · rename_i underscore
      split
      · exact .inr ⟨'X', rfl, rfl⟩
      · split
        · exact .inl ⟨rfl, by rw [underscore]; rfl⟩
        · exact .inr ⟨'_', rfl, rfl⟩
    · split
      · exact .inr ⟨letter.toUpper, rfl, isLower_toUpper letter⟩
      · rename_i kept
        exact .inr ⟨letter, rfl, by simpa [raises] using kept⟩

/-- No lower-case letter is written first where one is raised. -/
theorem isLower_head?_exportedAfter {before : Option Char} {letters : List Char}
    {letter : Char} (raises : raisesAfter before = true)
    (first : (exportedAfter before letters).head? = some letter) : letter.isLower = false := by
  induction letters generalizing before with
  | nil => simp [exportedAfter] at first
  | cons next rest induction =>
      rw [exportedAfter] at first
      rcases exportedLetter_cases raises next rest.head? with
        ⟨vanishes, raisesNext⟩ | ⟨other, written, capital⟩
      · rw [vanishes, List.nil_append] at first
        exact induction raisesNext first
      · rw [written, List.cons_append, List.head?_cons, Option.some.injEq] at first
        exact first ▸ capital

theorem isLower_head?_exported {name : String} {letter : Char}
    (first : (exported name).toList.head? = some letter) : letter.isLower = false := by
  rw [exported, String.toList_ofList] at first
  exact isLower_head?_exportedAfter rfl first

private theorem exists_trimBlanks_cons {letter : Char} (solid : Text.isBlank letter = false)
    (rest : List Char) : ∃ kept, Text.trimBlanks (letter :: rest) = letter :: kept := by
  have start : (letter :: rest).dropWhile Text.isBlank = letter :: rest :=
    List.dropWhile_cons_of_neg (by simp [solid])
  have last : [letter].dropWhile Text.isBlank = [letter] :=
    List.dropWhile_cons_of_neg (by simp [solid])
  rw [Text.trimBlanks, start, List.reverse_cons, List.dropWhile_append, last]
  split
  · exact ⟨[], rfl⟩
  · exact ⟨_, by rw [List.reverse_append]; rfl⟩

theorem isBlank_of_isAlphanum {letter : Char} (alphanumeric : letter.isAlphanum = true) :
    Text.isBlank letter = false := by
  have bounds : (65 ≤ letter.toNat ∧ letter.toNat ≤ 90 ∨ 97 ≤ letter.toNat ∧ letter.toNat ≤ 122) ∨
      48 ≤ letter.toNat ∧ letter.toNat ≤ 57 := by
    refine (Bool.or_eq_true_iff.mp alphanumeric).imp isAlpha_iff.mp fun digit => ?_
    simpa [Char.isDigit, UInt32.le_iff_toNat_le] using digit
  rw [Text.isBlank, Text.CodePoints.holds, List.any_eq_false]
  simp only [Text.blankPoints, List.forall_mem_cons, Bool.and_eq_true, decide_eq_true_eq,
    List.not_mem_nil, false_implies, implies_true, and_true]
  omega

/-- The unexported form of a name that starts with a letter starts with a lower-case one. -/
theorem exists_head?_unexported {name : String} {letter : Char}
    (first : name.toList.head? = some letter) (alphabetic : letter.isAlpha = true) :
    ∃ lowered, (unexported name).toList.head? = some lowered ∧ lowered.isLower = true := by
  obtain ⟨rest, letters⟩ := List.head?_eq_some_iff.mp first
  have alphanumeric : letter.isAlphanum = true := Bool.or_eq_true_iff.mpr (.inl alphabetic)
  obtain ⟨kept, trimmed⟩ := exists_trimBlanks_cons (isBlank_of_isAlphanum alphanumeric) rest
  have cased : (letter.isUpper || letter.isLower) = true := alphabetic
  refine ⟨letter.toLower, ?_, isLower_toLower alphabetic⟩
  rw [unexported, letters, trimmed, String.toList_ofList, unexportedAfter, unexportedLetter,
    if_pos cased]
  rfl

end RpcProxy.GoName

import Mathlib.Data.List.Nodup
import RpcProxy.Linking.Table
import RpcProxy.Proofs.Except

/-!
# Laws of the table of names

A table only ever gets longer, and a name in it keeps its meaning. Every declaration but that of a
package takes a name of its own, so no two declarations in the files of a table share one, and what
the table finds is what one of the files declares.
-/

namespace RpcProxy

namespace Linking

/-- The name that an entry takes for itself alone. Packages share theirs. -/
def Entry.ownName? : Entry → Option String
  | .symbol declared => if declared.kind = .package then none else some declared.fullName
  | .flaw _ => none

namespace Table

variable {table later : Table} {entry : Entry} {entries : List Entry} {symbol : Symbol}
  {name : String} {files : List FileDecl}

theorem find?_cons (symbol : Symbol) (table : Table) (name : String) :
    find? (symbol :: table) name =
      if symbol.fullName = name then some symbol else table.find? name := by
  rw [find?, List.find?_cons]
  by_cases same : symbol.fullName = name
  · simp [same]
  · have passed : (symbol.fullName == name) = false := beq_eq_false_iff_ne.mpr same
    rw [passed, if_neg same, find?]

/-- A name has its symbol in the table, and only packages are entered again. -/
theorem enter_eq_ok_iff :
    table.enter entry = .ok later ↔
      ∃ symbol, entry = .symbol symbol ∧
        (table.find? symbol.fullName = none ∧ later = symbol :: table ∨
          ∃ first, table.find? symbol.fullName = some first ∧ symbol.kind = .package ∧
            first.kind = .package ∧ later = table) := by
  cases entry with
  | flaw error => simp [enter]
  | symbol symbol =>
      rw [enter]
      cases found : table.find? symbol.fullName with
      | none => simp [found, eq_comm]
      | some first =>
          by_cases packages : symbol.kind = .package ∧ first.kind = .package
          · simp [found, packages, eq_comm]
          · by_cases same : first.file = symbol.file
            · simp [found, packages, same]
              grind
            · simp [found, packages, same]
              grind

theorem mem_of_find? (found : table.find? name = some symbol) :
    symbol ∈ table ∧ symbol.fullName = name :=
  ⟨List.mem_of_find?_eq_some found, by simpa using List.find?_some found⟩

theorem find?_of_enter (result : table.enter entry = .ok later)
    (found : table.find? name = some symbol) : later.find? name = some symbol := by
  obtain ⟨entered, _, ⟨absent, rfl⟩ | ⟨_, _, _, _, rfl⟩⟩ := enter_eq_ok_iff.mp result
  · rw [find?_cons, if_neg, found]
    rintro rfl
    simp [absent] at found
  · exact found

theorem enterAll_cons_eq_ok_iff :
    table.enterAll (entry :: entries) = .ok later ↔
      ∃ next, table.enter entry = .ok next ∧ next.enterAll entries = .ok later := by
  rw [enterAll, Except.bind_eq_ok_iff]

theorem enterAll_append_eq_ok_iff {others : List Entry} :
    table.enterAll (entries ++ others) = .ok later ↔
      ∃ next, table.enterAll entries = .ok next ∧ next.enterAll others = .ok later := by
  induction entries generalizing table with
  | nil => simp [enterAll]
  | cons entry rest induction =>
      simp only [List.cons_append, enterAll_cons_eq_ok_iff, induction]
      grind

theorem find?_of_enterAll (result : table.enterAll entries = .ok later)
    (found : table.find? name = some symbol) : later.find? name = some symbol := by
  induction entries generalizing table with
  | nil => exact Except.ok.inj result ▸ found
  | cons entry rest induction =>
      obtain ⟨next, entered, result⟩ := enterAll_cons_eq_ok_iff.mp result
      exact induction result (find?_of_enter entered found)

/-- A declaration of anything but a package is what the table finds under its name. -/
theorem find?_of_mem_entries (result : table.enterAll entries = .ok later)
    (member : .symbol symbol ∈ entries) (own : symbol.kind ≠ .package) :
    later.find? symbol.fullName = some symbol := by
  induction entries generalizing table with
  | nil => simp at member
  | cons entry rest induction =>
      obtain ⟨next, entered, result⟩ := enterAll_cons_eq_ok_iff.mp result
      rcases List.mem_cons.mp member with rfl | inRest
      · obtain ⟨same, equal, ⟨_, rfl⟩ | ⟨_, _, package, _⟩⟩ := enter_eq_ok_iff.mp entered
        · obtain rfl := Entry.symbol.inj equal
          exact find?_of_enterAll result (by rw [find?_cons, if_pos rfl])
        · exact absurd (Entry.symbol.inj equal ▸ package) own
      · exact induction result inRest

/-- What is in the table was there before or has been entered. -/
theorem mem_of_enterAll (result : table.enterAll entries = .ok later) (member : symbol ∈ later) :
    symbol ∈ table ∨ .symbol symbol ∈ entries := by
  induction entries generalizing table with
  | nil => exact .inl (Except.ok.inj result ▸ member)
  | cons entry rest induction =>
      obtain ⟨next, entered, result⟩ := enterAll_cons_eq_ok_iff.mp result
      rcases induction result with inNext | inRest
      · obtain ⟨first, rfl, ⟨_, rfl⟩ | ⟨_, _, _, _, rfl⟩⟩ := enter_eq_ok_iff.mp entered
        · rcases List.mem_cons.mp inNext with rfl | before
          · exact .inr List.mem_cons_self
          · exact .inl before
        · exact .inl inNext
      · exact .inr (List.mem_cons_of_mem _ inRest)

/-- The names that entries take for themselves differ from each other and from those in the table
before. -/
theorem nodup_ownNames (result : table.enterAll entries = .ok later) :
    (entries.filterMap Entry.ownName?).Nodup ∧
      ∀ name ∈ entries.filterMap Entry.ownName?, table.find? name = none := by
  induction entries generalizing table with
  | nil => simp
  | cons entry rest induction =>
      obtain ⟨next, entered, result⟩ := enterAll_cons_eq_ok_iff.mp result
      obtain ⟨distinct, fresh⟩ := induction result
      have unknown : ∀ name ∈ rest.filterMap Entry.ownName?, table.find? name = none := by
        intro name member
        cases found : table.find? name with
        | none => rfl
        | some symbol =>
            have stale := fresh name member
            rw [find?_of_enter entered found] at stale
            exact stale
      cases own : entry.ownName? with
      | none =>
          rw [List.filterMap_cons_none own]
          exact ⟨distinct, unknown⟩
      | some name =>
          obtain ⟨symbol, rfl, ⟨absent, rfl⟩ | ⟨_, _, package, _⟩⟩ := enter_eq_ok_iff.mp entered
          · have isName : symbol.fullName = name := by
              have both : ¬symbol.kind = .package ∧ symbol.fullName = name := by
                simpa [Entry.ownName?] using own
              exact both.2
            have notLater : name ∉ rest.filterMap Entry.ownName? := by
              intro member
              have stale := fresh name member
              simp [find?_cons, isName] at stale
            rw [List.filterMap_cons_some own, List.nodup_cons, List.forall_mem_cons, ← isName]
            exact ⟨⟨isName ▸ notLater, distinct⟩, absent, unknown⟩
          · simp [Entry.ownName?, package] at own

private theorem enterFiles_eq_ok {seen : List String}
    (result : table.enterFiles seen files = .ok later) :
    (files.map fun decl => decl.name.getD "").Nodup ∧
      (∀ decl ∈ files, decl.name.getD "" ∉ seen) ∧
        table.enterAll (files.flatMap fileEntries) = .ok later := by
  induction files generalizing table seen with
  | nil => exact ⟨List.nodup_nil, by simp, result⟩
  | cons decl rest induction =>
      rw [enterFiles] at result
      by_cases repeated : decl.name.getD "" ∈ seen
      · simp [repeated, Except.bind_eq_ok_iff] at result
      · simp only [List.contains_iff_mem, repeated, if_false, Except.bind_eq_ok_iff] at result
        obtain ⟨next, entered, result⟩ := result
        obtain ⟨distinct, unseen, enteredRest⟩ := induction result
        have notLater : ∀ other ∈ rest, other.name.getD "" ≠ decl.name.getD "" := by
          intro other member equal
          exact unseen other member (equal ▸ List.mem_cons_self)
        refine ⟨?_, ?_, ?_⟩
        · rw [List.map_cons, List.nodup_cons]
          exact ⟨by simpa using notLater, distinct⟩
        · rw [List.forall_mem_cons]
          exact ⟨repeated, fun other member inSeen =>
            unseen other member (List.mem_cons_of_mem _ inSeen)⟩
        · rw [List.flatMap_cons, enterAll_append_eq_ok_iff]
          exact ⟨next, entered, enteredRest⟩

theorem nodup_files (result : ofFiles files = .ok table) :
    (files.map fun decl => decl.name.getD "").Nodup :=
  (enterFiles_eq_ok result).1

/-- A table is built from the entries of all files. -/
theorem enterAll_of_ofFiles (result : ofFiles files = .ok table) :
    enterAll [] (files.flatMap fileEntries) = .ok table :=
  (enterFiles_eq_ok result).2.2

end Table

/-- The full names of messages declared in a scope and of the messages inside them. -/
inductive DeclaresIn : String → List MessageDecl → String → Prop
  | here {scope : String} {messages : List MessageDecl} {message : MessageDecl} :
      message ∈ messages → DeclaresIn scope messages (qualified scope (message.name.getD ""))
  | inside {scope : String} {messages : List MessageDecl} {message : MessageDecl}
      {fullName : String} : message ∈ messages →
      DeclaresIn (qualified scope (message.name.getD "")) message.messages fullName →
      DeclaresIn scope messages fullName

end Linking

/-- Whether a file declares a message of the full name. -/
def FileDecl.Declares (decl : FileDecl) (fullName : String) : Prop :=
  Linking.DeclaresIn (decl.package.getD "") decl.messages fullName

namespace Linking

private theorem declaresIn_nil {scope fullName : String} : ¬DeclaresIn scope [] fullName := by
  intro declares
  cases declares with
  | here member => simp at member
  | inside member => simp at member

private theorem declaresIn_cons_iff {scope fullName : String} {message : MessageDecl}
    {rest : List MessageDecl} :
    DeclaresIn scope (message :: rest) fullName ↔
      (fullName = qualified scope (message.name.getD "") ∨
        DeclaresIn (qualified scope (message.name.getD "")) message.messages fullName) ∨
      DeclaresIn scope rest fullName := by
  constructor
  · intro declares
    cases declares with
    | here member =>
        rcases List.mem_cons.mp member with rfl | later
        · exact .inl (.inl rfl)
        · exact .inr (.here later)
    | inside member inner =>
        rcases List.mem_cons.mp member with rfl | later
        · exact .inl (.inr inner)
        · exact .inr (.inside later inner)
  · rintro ((rfl | inner) | declares)
    · exact .here List.mem_cons_self
    · exact .inside List.mem_cons_self inner
    · cases declares with
      | here member => exact .here (List.mem_cons_of_mem _ member)
      | inside member inner => exact .inside (List.mem_cons_of_mem _ member) inner

section Entries

variable {file origin scope fullName : String} {strict : Bool}

private theorem message_notMem_fieldEntries {fields : List FieldDecl} :
    .symbol ⟨fullName, .message, origin⟩ ∉ fieldEntries file strict scope fields := by
  rw [fieldEntries]
  intro member
  rcases List.mem_append.mp member with flaw | field
  · split at flaw <;> simp at flaw
  · simp [memberEntry] at field

private theorem message_notMem_enumEntries {enum : EnumDecl} :
    .symbol ⟨fullName, .message, origin⟩ ∉ enumEntries file strict scope enum := by
  rw [enumEntries]
  intro member
  rcases List.mem_cons.mp member with equal | member
  · simp at equal
  · rcases List.mem_append.mp member with flaw | value
    · cases values : enum.values with
      | nil => simp [values, enumFlaws] at flaw
      | cons value rest => simp [values, enumFlaws] at flaw
    · simp [memberEntry] at value

mutual

private theorem mem_messageEntries_iff (scope : String) (message : MessageDecl) :
    .symbol ⟨fullName, .message, origin⟩ ∈ messageEntries file strict scope message ↔
      origin = file ∧ (fullName = qualified scope (message.name.getD "") ∨
        DeclaresIn (qualified scope (message.name.getD "")) message.messages fullName) := by
  obtain ⟨name, fields, messages, enums⟩ := message
  have inside := mem_nestedEntries_iff (qualified scope (name.getD "")) messages
  have enum : .symbol ⟨fullName, .message, origin⟩ ∉
      enums.flatMap (enumEntries file strict (qualified scope (name.getD ""))) := by
    rw [List.mem_flatMap]
    rintro ⟨enum, _, member⟩
    exact message_notMem_enumEntries member
  have field : .symbol ⟨fullName, .message, origin⟩ ∉
      fieldEntries file strict (qualified scope (name.getD "")) fields :=
    message_notMem_fieldEntries
  simp only [messageEntries, List.cons_append, List.mem_cons, List.mem_append, inside, enum, field,
    Entry.symbol.injEq, Symbol.mk.injEq, true_and, false_or, or_false]
  tauto

private theorem mem_nestedEntries_iff (scope : String) (messages : List MessageDecl) :
    .symbol ⟨fullName, .message, origin⟩ ∈ nestedEntries file strict scope messages ↔
      origin = file ∧ DeclaresIn scope messages fullName := by
  match messages with
  | [] => simp [nestedEntries, declaresIn_nil]
  | message :: rest =>
      have here := mem_messageEntries_iff scope message
      have later := mem_nestedEntries_iff scope rest
      rw [nestedEntries, List.mem_append, here, later, declaresIn_cons_iff, ← and_or_left]

end

/-- The entries for messages in a file are those of the messages that the file declares. -/
theorem mem_fileEntries_iff {decl : FileDecl} :
    .symbol ⟨fullName, .message, origin⟩ ∈ fileEntries decl ↔
      origin = decl.name.getD "" ∧ decl.Declares fullName := by
  have package : .symbol ⟨fullName, .message, origin⟩ ∉
      packageEntries (decl.name.getD "") (decl.package.getD "") := by
    rw [packageEntries]
    split <;> simp
  have enum : .symbol ⟨fullName, .message, origin⟩ ∉ decl.enums.flatMap (enumEntries
      (decl.name.getD "") (decl.dialect == some "proto3") (decl.package.getD "")) := by
    rw [List.mem_flatMap]
    rintro ⟨enum, _, member⟩
    exact message_notMem_enumEntries member
  have service : .symbol ⟨fullName, .message, origin⟩ ∉
      decl.services.flatMap (serviceEntries (decl.name.getD "") (decl.package.getD "")) := by
    simp [serviceEntries, memberEntry]
  simp only [fileEntries, List.mem_append, package, enum, service, mem_nestedEntries_iff,
    false_or, or_false, FileDecl.Declares]

end Entries

namespace Table

variable {table : Table} {files : List FileDecl} {decl : FileDecl} {symbol : Symbol}
  {fullName : String}

/-- A declared message is found under its name, with the file that declares it. -/
theorem find?_of_declares (built : ofFiles files = .ok table) (member : decl ∈ files)
    (declares : decl.Declares fullName) :
    table.find? fullName = some ⟨fullName, .message, decl.name.getD ""⟩ := by
  have inEntries : .symbol ⟨fullName, .message, decl.name.getD ""⟩ ∈ files.flatMap fileEntries :=
    List.mem_flatMap.mpr ⟨decl, member, mem_fileEntries_iff.mpr ⟨rfl, declares⟩⟩
  exact find?_of_mem_entries (enterAll_of_ofFiles built) inEntries (by simp)

/-- A message that is found is one that some file declares. -/
theorem exists_declares (built : ofFiles files = .ok table)
    (found : table.find? fullName = some symbol) (message : symbol.kind = .message) :
    ∃ decl ∈ files, decl.name.getD "" = symbol.file ∧ decl.Declares symbol.fullName := by
  have inTable := (mem_of_find? found).1
  have inEntries := (mem_of_enterAll (enterAll_of_ofFiles built) inTable).resolve_left (by simp)
  obtain ⟨decl, member, entered⟩ := List.mem_flatMap.mp inEntries
  obtain ⟨name, kind, file⟩ := symbol
  obtain rfl : kind = .message := message
  have declared := mem_fileEntries_iff.mp entered
  exact ⟨decl, member, declared.1.symm, declared.2⟩

end Table

/-- The full name of a service in a file. -/
def fullNameIn (decl : FileDecl) (service : ServiceDecl) : String :=
  qualified (decl.package.getD "") (service.name.getD "")

private theorem sublist_ownNames (decl : FileDecl) :
    (decl.services.map (fullNameIn decl)).Sublist
      ((fileEntries decl).filterMap Entry.ownName?) := by
  have inServices (services : List ServiceDecl) : (services.map (fullNameIn decl)).Sublist
      ((services.flatMap (serviceEntries (decl.name.getD "") (decl.package.getD ""))).filterMap
        Entry.ownName?) := by
    induction services with
    | nil => exact List.Sublist.slnil
    | cons service rest induction =>
        have first : (serviceEntries (decl.name.getD "") (decl.package.getD "")
            service).filterMap Entry.ownName? = fullNameIn decl service ::
              (service.methods.map fun method => memberEntry (decl.name.getD "")
                (fullNameIn decl service) method.name).filterMap Entry.ownName? := rfl
        rw [List.flatMap_cons, List.filterMap_append, first, List.map_cons, List.cons_append]
        exact (induction.trans (List.sublist_append_right _ _)).cons_cons _
  rw [fileEntries, List.filterMap_append]
  exact (inServices decl.services).trans (List.sublist_append_right _ _)

theorem nodup_services {files : List FileDecl} {table : Table}
    (built : Table.ofFiles files = .ok table) :
    (files.flatMap fun decl => decl.services.map (fullNameIn decl)).Nodup := by
  have sublist (files : List FileDecl) :
      (files.flatMap fun decl => decl.services.map (fullNameIn decl)).Sublist
        ((files.flatMap fileEntries).filterMap Entry.ownName?) := by
    induction files with
    | nil => exact List.Sublist.slnil
    | cons decl rest induction =>
        rw [List.flatMap_cons, List.flatMap_cons, List.filterMap_append]
        exact (sublist_ownNames decl).append induction
  exact (Table.nodup_ownNames (Table.enterAll_of_ofFiles built)).1.sublist (sublist files)

end Linking

end RpcProxy

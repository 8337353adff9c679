import RpcProxy.Proofs.GoName
import RpcProxy.Proofs.Text

/-!
# Reading Go files with proxies

A reader that knows nothing of how the files are written. It goes through the lines and collects the
declarations at the top level; one that is open takes every line up to the one that closes it. A
struct and what stands behind it, up to the next struct, belong together, and the structs of a file
alternate between proxies and adapters. Text that does not fit is refused.
-/

namespace RpcProxy

/-- The first line of a declaration that has further lines. -/
inductive Heading
  | imports
  | struct (name : String)
  /-- A method: the name and the type of its receiver, its own name and its own type. -/
  | method (self receiver name type : String)
deriving DecidableEq, Repr

namespace Heading

def readStruct? (line : String) : Option Heading := do
  let rest ← Text.dropBeginning? "type " line
  let name ← Text.dropEnding? " struct \x7b" rest
  return .struct name

def readMethod? (line : String) : Option Heading := do
  let rest ← Text.dropBeginning? "func (" line
  let signed ← Text.dropEnding? " \x7b" rest
  let (receiver, behind) ← Text.cutFirst ')' signed
  let (self, pointer) ← Text.cutFirst ' ' receiver
  let type ← Text.dropBeginning? "*" pointer
  let signature ← Text.dropBeginning? " " behind
  let (name, parameters) ← Text.cutFirst '(' signature
  return .method self type name ("(" ++ parameters)

/-- Reads the first line of a declaration. -/
def read? (line : String) : Option Heading :=
  if line = "import (" then some .imports else (readStruct? line).or (readMethod? line)

/-- The line that ends the declaration. -/
def closing : Heading → String
  | imports => ")"
  | struct _ | method .. => "\x7d"

theorem ne_imports {start : String} (differs : start.toList.head?.any (· != 'i') = true)
    (rest : String) : start ++ rest ≠ "import (" := by
  intro equal
  have letters := congrArg String.toList equal
  cases starts : start.toList with
  | nil => simp [starts] at differs
  | cons letter others =>
      rw [String.toList_append, starts] at letters
      have same : letter = 'i' := (List.cons.inj letters).1
      simp [starts, same] at differs

theorem read?_struct (name : String) :
    read? ("type " ++ name ++ " struct \x7b") = some (.struct name) := by
  rw [String.append_assoc, read?, if_neg (ne_imports (by decide) _), readStruct?,
    Text.dropBeginning?_append]
  simp

/-- The first line of a method is read, whatever its type is. -/
theorem read?_method {self type name : String} (unspaced : ' ' ∉ self.toList)
    (selfInside : ')' ∉ self.toList) (typeInside : ')' ∉ type.toList)
    (unopened : '(' ∉ name.toList) {signature : String}
    (opens : ∃ parameters, signature = "(" ++ parameters) :
    read? ("func (" ++ self ++ " *" ++ type ++ ") " ++ name ++ signature ++ " \x7b") =
      some (.method self type name signature) := by
  obtain ⟨parameters, rfl⟩ := opens
  have receiver : Text.cutFirst ')' (self ++ (" *" ++ type) ++
      (") " ++ (name ++ "(" ++ parameters))) =
        some (self ++ (" *" ++ type), " " ++ (name ++ "(" ++ parameters)) := by
    have inside : ')' ∉ (self ++ (" *" ++ type)).toList := by simp [selfInside, typeInside]
    exact Text.cutFirst_append_mark (rfl : ") " = String.singleton ')' ++ " ") inside _
  have pointer : Text.cutFirst ' ' (self ++ (" *" ++ type)) = some (self, "*" ++ type) :=
    Text.cutFirst_append_mark (rfl : " *" = String.singleton ' ' ++ "*") unspaced type
  have opened : Text.cutFirst '(' (name ++ "(" ++ parameters) = some (name, parameters) :=
    Text.cutFirst_append unopened parameters
  have noStruct (rest : String) : readStruct? ("func (" ++ rest) = none := by
    simp [readStruct?, Text.dropBeginning?, List.isPrefixOf?]
  have line : "func (" ++ self ++ " *" ++ type ++ ") " ++ name ++ ("(" ++ parameters) ++ " \x7b" =
      "func (" ++ (self ++ (" *" ++ type) ++ (") " ++ (name ++ "(" ++ parameters)) ++ " \x7b") := by
    simp only [String.append_assoc]
  rw [line, read?, if_neg (ne_imports (by decide) _), noStruct, Option.none_or, readMethod?]
  simp only [Text.dropBeginning?_append, Text.dropEnding?_append, Option.bind_eq_bind,
    Option.bind_some, receiver, pointer, opened, Option.pure_def]

end Heading

inductive Declaration
  | block (heading : Heading) (lines : List String)
  | global (name value : String)
deriving DecidableEq, Repr

namespace Declaration

def readGlobal? (line : String) : Option Declaration := do
  let rest ← Text.dropBeginning? "var " line
  let (name, behind) ← Text.cutFirst ' ' rest
  let value ← Text.dropBeginning? "= " behind
  return .global name value

def globalName? : Declaration → Option String
  | global name _ => some name
  | block .. => none

/-- The name of a method of the given type. -/
def methodOf? (type : String) : Declaration → Option String
  | block (.method _ receiver name _) _ => if receiver = type then some name else none
  | _ => none

end Declaration

/-- A reader between two lines: what has been declared, and the declaration that is open with its
lines so far. -/
structure Reader where
  declarations : List Declaration := []
  unfinished : Option (Heading × List String) := none
deriving DecidableEq, Repr

namespace Reader

/-- Whether a line says nothing. -/
def isIdle (line : String) : Bool := line == "" || (Text.dropBeginning? "//" line).isSome

/-- Reads one more line. -/
def step (reader : Reader) (line : String) : Option Reader :=
  match reader.unfinished with
  | some (heading, lines) =>
    if line = heading.closing then some ⟨reader.declarations ++ [.block heading lines], none⟩
    else some ⟨reader.declarations, some (heading, lines ++ [line])⟩
  | none =>
    match Heading.read? line, Declaration.readGlobal? line with
    | some heading, _ => some ⟨reader.declarations, some (heading, [])⟩
    | none, some declaration => some ⟨reader.declarations ++ [declaration], none⟩
    | none, none => if isIdle line then some reader else none

/-- Reads all declarations of a file. -/
def declarations? (lines : List String) : Option (List Declaration) := do
  let reader ← lines.foldlM step {}
  if reader.unfinished.isNone then some reader.declarations else none

/-- Whether lines declare something, whatever has been declared before. -/
def Reads (lines : List String) (declared : List Declaration) : Prop :=
  ∀ before, lines.foldlM step ⟨before, none⟩ = some ⟨before ++ declared, none⟩

variable {lines others inside : List String} {line first name behind : String}
  {declared later : List Declaration} {heading : Heading}

theorem Reads.nil : Reads [] [] := by
  intro before
  simp

theorem Reads.append (here : Reads lines declared) (there : Reads others later) :
    Reads (lines ++ others) (declared ++ later) := by
  intro before
  rw [List.foldlM_append, here, ← List.append_assoc]
  exact there (before ++ declared)

theorem Reads.flatMap {α : Type} {items : List α} {write : α → List String}
    {declare : α → List Declaration} (each : ∀ item ∈ items, Reads (write item) (declare item)) :
    Reads (items.flatMap write) (items.flatMap declare) := by
  induction items with
  | nil => exact .nil
  | cons item rest induction =>
      rw [List.forall_mem_cons] at each
      rw [List.flatMap_cons, List.flatMap_cons]
      exact each.1.append (induction each.2)

theorem declarations?_of_reads (reads : Reads lines declared) :
    declarations? lines = some declared := by
  have run : lines.foldlM step {} = some ⟨declared, none⟩ := reads []
  rw [declarations?, run]
  rfl

private theorem foldlM_unfinished (before : List Declaration)
    (stays : ∀ line ∈ inside, line ≠ heading.closing) (seen : List String) :
    inside.foldlM step ⟨before, some (heading, seen)⟩ =
      some ⟨before, some (heading, seen ++ inside)⟩ := by
  induction inside generalizing seen with
  | nil => simp
  | cons line rest induction =>
      rw [List.forall_mem_cons] at stays
      have taken : step ⟨before, some (heading, seen)⟩ line =
          some ⟨before, some (heading, seen ++ [line])⟩ := if_neg stays.1
      rw [List.foldlM_cons, taken]
      simpa using induction stays.2 (seen ++ [line])

/-- A declaration whose lines are empty or start with a tab is read to the line that ends it. -/
theorem reads_block (opens : Heading.read? first = some heading) (inside : List String)
    (indented : ∀ line ∈ inside, line = "" ∨ line.toList.head? = some '\t') :
    Reads (first :: (inside ++ [heading.closing])) [.block heading inside] := by
  intro before
  have stays : ∀ line ∈ inside, line ≠ heading.closing := by
    rintro line member rfl
    have start := indented _ member
    cases heading <;> simp [Heading.closing] at start
  have opened : step ⟨before, none⟩ first = some ⟨before, some (heading, [])⟩ := by
    simp [step, opens]
  have closed : step ⟨before, some (heading, inside)⟩ heading.closing =
      some ⟨before ++ [.block heading inside], none⟩ := if_pos rfl
  have taken := foldlM_unfinished before stays []
  rw [List.nil_append] at taken
  rw [List.foldlM_cons, opened]
  simp [List.foldlM_append, taken, closed]

private theorem read?_eq_none (structless : Text.dropBeginning? "type " line = none)
    (methodless : Text.dropBeginning? "func (" line = none) (importless : line ≠ "import (") :
    Heading.read? line = none := by
  simp [Heading.read?, Heading.readStruct?, Heading.readMethod?, structless, methodless, importless]

theorem reads_global {name : String} (unspaced : ' ' ∉ name.toList) (value : String) :
    Reads ["var " ++ name ++ " = " ++ value] [.global name value] := by
  intro before
  have cut : Text.cutFirst ' ' (name ++ (" = " ++ value)) = some (name, "= " ++ value) :=
    Text.cutFirst_append_mark (rfl : " = " = String.singleton ' ' ++ "= ") unspaced value
  have declares : Declaration.readGlobal? ("var " ++ (name ++ (" = " ++ value))) =
      some (.global name value) := by
    simp only [Declaration.readGlobal?, Text.dropBeginning?_append, Option.bind_eq_bind,
      Option.bind_some, cut, Option.pure_def]
  have noHeading (rest : String) : Heading.read? ("var " ++ rest) = none :=
    read?_eq_none (by simp [Text.dropBeginning?, List.isPrefixOf?])
      (by simp [Text.dropBeginning?, List.isPrefixOf?]) (Heading.ne_imports (by decide) rest)
  simp only [String.append_assoc]
  simp [step, noHeading, declares]

theorem reads_blank : Reads [""] [] := by
  intro before
  have nothing : step ⟨before, none⟩ "" = some ⟨before, none⟩ := rfl
  simp [nothing]

theorem reads_comment (comment : (Text.dropBeginning? "//" line).isSome) : Reads [line] [] := by
  intro before
  obtain ⟨text, dropped⟩ := Option.isSome_iff_exists.mp comment
  obtain rfl := Text.dropBeginning?_eq_some_iff.mp dropped
  have noHeading : Heading.read? ("//" ++ text) = none :=
    read?_eq_none (by simp [Text.dropBeginning?, List.isPrefixOf?])
      (by simp [Text.dropBeginning?, List.isPrefixOf?]) (Heading.ne_imports (by decide) text)
  have noVariable : Declaration.readGlobal? ("//" ++ text) = none := by
    simp [Declaration.readGlobal?, Text.dropBeginning?, List.isPrefixOf?]
  have idle : isIdle ("//" ++ text) = true := by
    simp [isIdle, Text.dropBeginning?, List.isPrefixOf?]
  simp [step, noHeading, noVariable, idle]

end Reader

/-- A struct with what is declared behind it, up to the next struct. -/
structure StructReading where
  name : String
  members : List String
  behind : List Declaration
deriving DecidableEq, Repr

/-- The declarations before the first struct, and the structs. -/
def structs : List Declaration → List Declaration × List StructReading
  | [] => ([], [])
  | .block (.struct name) members :: rest =>
    ([], ⟨name, members, (structs rest).1⟩ :: (structs rest).2)
  | other :: rest => (other :: (structs rest).1, (structs rest).2)

def Declaration.isStruct : Declaration → Bool
  | block (.struct _) _ => true
  | _ => false

theorem structs_append (front : List Declaration) (structless : ∀ declared ∈ front,
    declared.isStruct = false) (rest : List Declaration) :
    structs (front ++ rest) = (front ++ (structs rest).1, (structs rest).2) := by
  induction front with
  | nil => rfl
  | cons declared front induction =>
      rw [List.forall_mem_cons] at structless
      have passed : structs (declared :: (front ++ rest)) =
          (declared :: (structs (front ++ rest)).1, (structs (front ++ rest)).2) := by
        cases declared with
        | global name value => rfl
        | block heading lines =>
            cases heading with
            | struct name => simp [Declaration.isStruct] at structless
            | imports => rfl
            | method self receiver name type => rfl
      rw [List.cons_append, passed, induction structless.2, List.cons_append]

/-- What stands between commas, without the space behind each comma. -/
def commaSeparated (text : String) : List String :=
  match Text.split ',' text with
  | [] => []
  | first :: rest => first :: rest.map fun piece => (Text.dropBeginning? " " piece).getD piece

private theorem split_intercalate (start : String) {first : String} {rest : List String}
    (startWhole : ',' ∉ start.toList) (whole : ∀ part ∈ first :: rest, ',' ∉ part.toList) :
    Text.split ',' (start ++ String.intercalate ", " (first :: rest)) =
      (start ++ first) :: rest.map (" " ++ ·) := by
  induction rest generalizing start first with
  | nil =>
      have absent : ',' ∉ (start ++ first).toList := by simp [startWhole, whole]
      simpa using Text.split_eq_singleton absent
  | cons next rest induction =>
      rw [List.forall_mem_cons] at whole
      have absent : ',' ∉ (start ++ first).toList := by simp [startWhole, whole.1]
      have comma : ", " = String.singleton ',' ++ " " := rfl
      have text : start ++ String.intercalate ", " (first :: next :: rest) =
          start ++ first ++ String.singleton ',' ++
            (" " ++ String.intercalate ", " (next :: rest)) := by
        rw [String.intercalate_cons_cons, comma]
        simp only [String.append_assoc]
      rw [text, Text.split_append, Text.split_eq_singleton absent,
        induction " " (by decide) whole.2]
      rfl

theorem notMem_intercalate {separator : String} {parts : List String} {letter : Char}
    (apart : letter ∉ separator.toList) (absent : ∀ part ∈ parts, letter ∉ part.toList) :
    letter ∉ (String.intercalate separator parts).toList := by
  induction parts with
  | nil => simp
  | cons first rest induction =>
      rw [List.forall_mem_cons] at absent
      cases rest with
      | nil => simpa using absent.1
      | cons next rest =>
          rw [String.intercalate_cons_cons, String.toList_append, String.toList_append,
            List.mem_append, List.mem_append]
          exact not_or.mpr ⟨not_or.mpr ⟨absent.1, apart⟩, induction absent.2⟩

/-- Parts that are put together with commas are read back. -/
theorem commaSeparated_intercalate {parts : List String} (nonempty : parts ≠ [])
    (whole : ∀ part ∈ parts, ',' ∉ part.toList) :
    commaSeparated (String.intercalate ", " parts) = parts := by
  obtain ⟨first, rest, rfl⟩ := List.exists_cons_of_ne_nil nonempty
  have pieces := split_intercalate "" (by decide) whole
  rw [String.empty_append, String.empty_append] at pieces
  rw [commaSeparated, pieces]
  simp [Function.comp_def]

/-- What is written item by item is read item by item. -/
theorem mapM_map_eq_some {α β γ : Type} {items : List α} {write : α → β} {read : β → Option γ}
    {result : α → γ} (each : ∀ item ∈ items, read (write item) = some (result item)) :
    (items.map write).mapM read = some (items.map result) := by
  induction items with
  | nil => rfl
  | cons item rest induction =>
      rw [List.forall_mem_cons] at each
      rw [List.map_cons, List.mapM_cons, each.1, induction each.2]
      rfl

/-- The type of a function: parameters with their types, and results. -/
structure TypeReading where
  parameters : List (String × String)
  results : List String
deriving DecidableEq, Repr

namespace TypeReading

/-- Reads results, which are in parentheses unless there is exactly one. -/
def results? (text : String) : Option (List String) :=
  match Text.dropBeginning? "(" text with
  | some inside => (Text.dropEnding? ")" inside).map commaSeparated
  | none => some [text]

/-- Reads the type of a function. -/
def read? (text : String) : Option TypeReading := do
  let rest ← Text.dropBeginning? "(" text
  let (inside, behind) ← Text.cutFirst ')' rest
  let parameters ← (commaSeparated inside).mapM (Text.cutFirst ' ')
  let results ← (Text.dropBeginning? " " behind).bind results?
  return ⟨parameters, results⟩

theorem results?_single {result : String} (plain : GoName.IsTypeText result) :
    results? result = some [result] := by
  have unopened : Text.dropBeginning? "(" result = none := by
    rw [Option.eq_none_iff_forall_ne_some]
    intro rest dropped
    have separator : GoName.isSeparator '(' = true := by decide
    refine plain.notMem separator ?_
    simp [Text.dropBeginning?_eq_some_iff.mp dropped]
  rw [results?, unopened]

theorem results?_list {results : List String} (nonempty : results ≠ [])
    (plain : ∀ result ∈ results, GoName.IsTypeText result) :
    results? ("(" ++ String.intercalate ", " results ++ ")") = some results := by
  have whole : ∀ result ∈ results, ',' ∉ result.toList :=
    fun result member => (plain result member).notMem (by decide)
  rw [results?, String.append_assoc, Text.dropBeginning?_append]
  simp only [Text.dropEnding?_append, Option.map_some, commaSeparated_intercalate nonempty whole]

def written (parameter : String × String) : String := parameter.1 ++ " " ++ parameter.2

private theorem notMem_written {parameter : String × String} {letter : Char}
    (word : GoName.IsWord parameter.1) (plain : GoName.IsTypeText parameter.2)
    (separator : GoName.isSeparator letter = true) (notSpace : letter ≠ ' ') :
    letter ∉ (written parameter).toList := by
  simp [written, word.notMem separator, plain.notMem separator, notSpace]

theorem read?_text {parameters : List (String × String)} {results : List String} {behind : String}
    (nonempty : parameters ≠ [])
    (plain : ∀ parameter ∈ parameters,
      GoName.IsWord parameter.1 ∧ GoName.IsTypeText parameter.2)
    (behindRead : results? behind = some results) :
    read? ("(" ++ String.intercalate ", " (parameters.map written) ++ ") " ++ behind) =
      some ⟨parameters, results⟩ := by
  have whole : ∀ part ∈ parameters.map written, ',' ∉ part.toList := by
    intro part member
    obtain ⟨parameter, inParameters, rfl⟩ := List.mem_map.mp member
    obtain ⟨word, type⟩ := plain parameter inParameters
    exact notMem_written word type (by decide) (by decide)
  have inside : ')' ∉ (String.intercalate ", " (parameters.map written)).toList := by
    refine notMem_intercalate (by decide) fun part member => ?_
    obtain ⟨parameter, inParameters, rfl⟩ := List.mem_map.mp member
    obtain ⟨word, type⟩ := plain parameter inParameters
    exact notMem_written word type (by decide) (by decide)
  have cut : Text.cutFirst ')' (String.intercalate ", " (parameters.map written) ++
      (") " ++ behind)) = some (String.intercalate ", " (parameters.map written), " " ++ behind) :=
    Text.cutFirst_append_mark (rfl : ") " = String.singleton ')' ++ " ") inside behind
  have words : (parameters.map written).mapM (Text.cutFirst ' ') = some (parameters.map id) :=
    mapM_map_eq_some fun parameter member =>
      Text.cutFirst_append ((plain parameter member).1.notMem (by decide)) parameter.2
  have separated := commaSeparated_intercalate (mt List.map_eq_nil_iff.mp nonempty) whole
  rw [String.append_assoc, String.append_assoc, read?]
  simp only [Text.dropBeginning?_append, Option.bind_eq_bind, Option.bind_some, cut, separated,
    words, List.map_id, behindRead, Option.pure_def]

end TypeReading

/-- A function field of a proxy. -/
structure FieldReading where
  name : String
  type : String
deriving DecidableEq, Repr

def FieldReading.read? (line : String) : Option FieldReading := do
  let rest ← Text.dropBeginning? "\t" line
  let (name, behind) ← Text.cutFirst ' ' rest
  let type ← Text.dropBeginning? "func" behind
  return ⟨name, type⟩

theorem FieldReading.read?_line {name : String} (unspaced : ' ' ∉ name.toList) (type : String) :
    read? ("\t" ++ name ++ " func" ++ type) = some ⟨name, type⟩ := by
  have cut : Text.cutFirst ' ' (name ++ (" func" ++ type)) = some (name, "func" ++ type) :=
    Text.cutFirst_append_mark (rfl : " func" = String.singleton ' ' ++ "func") unspaced type
  rw [String.append_assoc, String.append_assoc, read?]
  simp only [Text.dropBeginning?_append, Option.bind_eq_bind, Option.bind_some, cut,
    Option.pure_def]

/-- A method of an adapter. -/
structure MethodReading where
  name : String
  type : String
  /-- The field of the proxy that the method reads. -/
  field : String
  /-- What the method returns if the field is nil. -/
  refusal : List String
  /-- What the method passes to the function in the field otherwise. -/
  arguments : List String
deriving DecidableEq, Repr

def MethodReading.read? (adapter : String) : Declaration → Option MethodReading
  | .block (.method self receiver name type) [assignment, guard, refusal, close, space, call] => do
    let field ← Text.dropBeginning? "\tfn := s.proxy." assignment
    let values ← Text.dropBeginning? "\t\treturn " refusal
    let passed ← (Text.dropBeginning? "\treturn fn(" call).bind (Text.dropEnding? ")")
    if self = "s" ∧ receiver = adapter ∧ guard = "\tif fn == nil \x7b" ∧ close = "\t\x7d" ∧
        space = ""
    then some ⟨name, type, field, commaSeparated values, commaSeparated passed⟩
    else none
  | _ => none

theorem MethodReading.read?_block {values arguments : List String} (refuses : values ≠ [])
    (valuesWhole : ∀ value ∈ values, ',' ∉ value.toList) (passes : arguments ≠ [])
    (argumentsWhole : ∀ argument ∈ arguments, ',' ∉ argument.toList)
    (adapter name type field : String) :
    read? adapter (.block (.method "s" adapter name type)
        ["\tfn := s.proxy." ++ field, "\tif fn == nil \x7b",
         "\t\treturn " ++ String.intercalate ", " values, "\t\x7d", "",
         "\treturn fn(" ++ String.intercalate ", " arguments ++ ")"]) =
      some ⟨name, type, field, values, arguments⟩ := by
  rw [read?, String.append_assoc]
  simp only [Text.dropBeginning?_append, Text.dropEnding?_append, Option.bind_eq_bind,
    Option.bind_some, and_self, if_true, commaSeparated_intercalate refuses valuesWhole,
    commaSeparated_intercalate passes argumentsWhole]

/-- What a file declares for a service. -/
structure ServiceReading where
  /-- The type with the function fields. -/
  proxy : String
  fields : List FieldReading
  /-- The names of the methods that the proxy has itself. -/
  ownMethods : List String
  /-- The type that implements the server interface. -/
  adapter : String
  /-- The type of the proxy that the adapter holds. -/
  held : String
  methods : List MethodReading
deriving DecidableEq, Repr

namespace ServiceReading

/-- Reads the type of the proxy from the members of an adapter. -/
def held? : List String → Option String
  | [_, _, pointer] => Text.dropBeginning? "\tproxy *" pointer
  | _ => none

/-- Reads a proxy and the adapter behind it. -/
def ofStructs? (proxy adapter : StructReading) : Option ServiceReading := do
  let fields ← proxy.members.mapM FieldReading.read?
  let held ← held? adapter.members
  let methods ← adapter.behind.mapM (MethodReading.read? adapter.name)
  let ownMethods := proxy.behind.filterMap (Declaration.methodOf? proxy.name)
  return ⟨proxy.name, fields, ownMethods, adapter.name, held, methods⟩

/-- Reads proxies and adapters in turn. -/
def all? : List StructReading → Option (List ServiceReading)
  | [] => some []
  | [_] => none
  | proxy :: adapter :: rest => do
    let service ← ofStructs? proxy adapter
    let services ← all? rest
    return service :: services

end ServiceReading

/-- What a file declares. -/
structure FileReading where
  imports : List String
  /-- The names of the variables. -/
  globals : List String
  services : List ServiceReading
deriving DecidableEq, Repr

/-- Reads the lines of a file from its import block on. -/
def FileReading.read? (lines : List String) : Option FileReading := do
  let declarations ← Reader.declarations? lines
  match structs declarations with
  | ([.block .imports imports], later) => do
    let services ← ServiceReading.all? later
    return ⟨imports, declarations.filterMap Declaration.globalName?, services⟩
  | _ => none

end RpcProxy

import RpcProxy.Descriptor.Write
import RpcProxy.LinkedRequest
import RpcProxy.Proofs.Wire

/-!
# Requests from their bytes

Reading the canonical bytes of a request gives the request back as long as its messages do not stand
too deep inside one another. A message is entered with one less in the budget, so the induction is
on the budget, and the depth of a message says what it needs. Nothing that is read is deeper than
the budget, which makes the limit exact.
-/

namespace RpcProxy

open Wire

/-- The depth of something that holds parts of the given depths. -/
def depthOver (parts : List Nat) : Nat := parts.foldr (fun part deepest => max (part + 1) deepest) 0

theorem depthOver_le_iff {parts : List Nat} {bound : Nat} :
    depthOver parts ≤ bound ↔ ∀ part ∈ parts, part < bound := by
  induction parts with
  | nil => simp [depthOver]
  | cons part later induction =>
      rw [List.forall_mem_cons, ← induction]
      exact Nat.max_le

/-- Values hold nothing. -/
def EnumDecl.depth (enum : EnumDecl) : Nat := depthOver (enum.values.map fun _ => 0)

mutual

/-- How many messages stand inside one another below a message. -/
def MessageDecl.depth : MessageDecl → Nat
  | ⟨_, fields, messages, enums⟩ =>
    depthOver ((fields.map fun _ => 0) ++ MessageDecl.depths messages ++ enums.map EnumDecl.depth)

/-- The depths of the messages declared inside a message. -/
def MessageDecl.depths : List MessageDecl → List Nat
  | [] => []
  | message :: rest => message.depth :: MessageDecl.depths rest

end

def ServiceDecl.depth (service : ServiceDecl) : Nat := depthOver (service.methods.map fun _ => 0)

def FileDecl.depth (file : FileDecl) : Nat :=
  depthOver (file.messages.map MessageDecl.depth ++ file.enums.map EnumDecl.depth
    ++ file.services.map ServiceDecl.depth ++ file.options.toList.map fun _ => 0)

/-- How many messages stand inside one another below a request. -/
def Request.depth (request : Request) : Nat :=
  depthOver ((request.compilerVersion.toList.map fun _ => 0) ++ request.files.map FileDecl.depth)

theorem MessageDecl.depths_eq_map (messages : List MessageDecl) :
    depths messages = messages.map depth := by
  induction messages with
  | nil => rfl
  | cons message rest induction => rw [depths, induction, List.map_cons]

variable {α : Type} {budget : Nat}

theorem EnumDecl.depth_le_iff {enum : EnumDecl} :
    enum.depth ≤ budget ↔ ∀ value ∈ enum.values, 0 < budget := by
  rw [depth, depthOver_le_iff, List.forall_mem_map]

theorem MessageDecl.depth_le_iff {message : MessageDecl} :
    message.depth ≤ budget ↔
      (∀ field ∈ message.fields, 0 < budget) ∧
      (∀ nested ∈ message.messages, nested.depth < budget) ∧
      ∀ enum ∈ message.enums, enum.depth < budget := by
  obtain ⟨name, fields, messages, enums⟩ := message
  rw [depth, depthOver_le_iff, List.forall_mem_append, List.forall_mem_append, depths_eq_map,
    List.forall_mem_map, List.forall_mem_map, List.forall_mem_map, and_assoc]

theorem ServiceDecl.depth_le_iff {service : ServiceDecl} :
    service.depth ≤ budget ↔ ∀ method ∈ service.methods, 0 < budget := by
  rw [depth, depthOver_le_iff, List.forall_mem_map]

theorem FileDecl.depth_le_iff {file : FileDecl} :
    file.depth ≤ budget ↔
      (∀ message ∈ file.messages, message.depth < budget) ∧
      (∀ enum ∈ file.enums, enum.depth < budget) ∧
      (∀ service ∈ file.services, service.depth < budget) ∧
      ∀ options, file.options = some options → 0 < budget := by
  cases set : file.options <;>
    simp [depth, depthOver_le_iff, set, or_imp, forall_and]

theorem Request.depth_le_iff {request : Request} :
    request.depth ≤ budget ↔
      (∀ version, request.compilerVersion = some version → 0 < budget) ∧
      ∀ file ∈ request.files, file.depth < budget := by
  cases set : request.compilerVersion <;> simp [depth, depthOver_le_iff, set]

theorem FieldDecl.restores (budget : Nat) (field : FieldDecl) :
    Restores (readField budget) {} field.encode field := by
  have name := Restores.option (by decide) (readField budget) field.name
    (fun name => { name := name }) (fun name _ => .text 1 name) fun _ => rfl
  have number := Restores.option (by decide) (readField budget) field.number
    (fun number => { name := field.name, number := number })
    (fun number _ => .int32 3 number) fun _ => rfl
  have label := Restores.option (by decide) (readField budget) field.label
    (fun label => { name := field.name, number := field.number, label := label })
    (fun label _ => .int32 4 label) fun _ => rfl
  have kind := Restores.option (by decide) (readField budget) field.kind
    (fun kind => { field with kind := kind, typeName := none })
    (fun kind _ => .int32 5 kind) fun _ => rfl
  have typeName := Restores.option (by decide) (readField budget) field.typeName
    (fun name => { field with typeName := name })
    (fun name _ => .text 6 name) fun _ => rfl
  exact (((name.append number).append label).append kind).append typeName

theorem EnumValueDecl.restores (budget : Nat) (value : EnumValueDecl) :
    Restores (readField budget) {} value.encode value := by
  have name := Restores.option (by decide) (readField budget) value.name
    (fun name => { name := name }) (fun name _ => .text 1 name) fun _ => rfl
  have number := Restores.option (by decide) (readField budget) value.number
    (fun number => { value with number := number })
    (fun number _ => .int32 2 number) fun _ => rfl
  exact name.append number

theorem EnumDecl.restores {enum : EnumDecl} (shallow : enum.depth ≤ budget) :
    Restores (readField budget) {} enum.encode enum := by
  have deepValues := depth_le_iff.mp shallow
  have name := Restores.option (by decide) (readField budget) enum.name
    (fun name => { name := name }) (fun name _ => .text 1 name) fun _ => rfl
  have values := Restores.list (by decide) (readField budget) enum.values
    (fun values => { enum with values := values })
    (fun value member => .entered 2 (deepValues value member) fun fewer _ _ => value.restores fewer)
    fun _ _ => rfl
  exact name.append values

theorem MessageDecl.encodeNested_eq_flatMap (messages : List MessageDecl) :
    encodeNested messages = messages.flatMap fun message => writeBytes 3 message.encode := by
  induction messages with
  | nil => rfl
  | cons message rest induction => rw [encodeNested, induction, List.flatMap_cons]

theorem MessageDecl.readField_eq (budget : Nat) :
    readField budget = readFieldWith (enter readField budget) budget := by
  cases budget <;> rfl

theorem MessageDecl.restores {message : MessageDecl} (shallow : message.depth ≤ budget) :
    Restores (readField budget) {} message.encode message := by
  induction budget using Nat.strongRecOn generalizing message with
  | ind budget induction =>
      obtain ⟨deepFields, deepMessages, deepEnums⟩ := depth_le_iff.mp shallow
      obtain ⟨name, fields, messages, enums⟩ := message
      rw [encode, encodeNested_eq_flatMap, readField_eq]
      have named := Restores.option (by decide) (readFieldWith (enter readField budget) budget) name
        (fun name => { name := name }) (fun name _ => .text 1 name) fun _ => rfl
      have withFields := Restores.list (by decide) (readFieldWith (enter readField budget) budget)
        fields (fun fields => { name := name, fields := fields })
        (fun field member => .entered 2 (deepFields field member) fun fewer _ _ =>
          field.restores fewer)
        fun _ _ => rfl
      have withMessages := Restores.list (by decide) (readFieldWith (enter readField budget) budget)
        messages (fun messages => { name := name, fields := fields, messages := messages })
        (fun nested member => .entered 3 (deepMessages nested member) fun fewer less enough =>
          induction fewer less enough)
        fun _ _ => rfl
      have withEnums := Restores.list (by decide) (readFieldWith (enter readField budget) budget)
        enums (fun enums => ⟨name, fields, messages, enums⟩)
        (fun enum member => .entered 4 (deepEnums enum member) fun _ _ enough =>
          EnumDecl.restores enough)
        fun _ _ => rfl
      exact ((named.append withFields).append withMessages).append withEnums

theorem MethodDecl.restores (budget : Nat) (method : MethodDecl) :
    Restores (readField budget) {} method.encode method := by
  have name := Restores.option (by decide) (readField budget) method.name
    (fun name => { name := name }) (fun name _ => .text 1 name) fun _ => rfl
  have input := Restores.option (by decide) (readField budget) method.inputType
    (fun type => { name := method.name, inputType := type })
    (fun type _ => .text 2 type) fun _ => rfl
  have output := Restores.option (by decide) (readField budget) method.outputType
    (fun type => { name := method.name, inputType := method.inputType, outputType := type })
    (fun type _ => .text 3 type) fun _ => rfl
  have client := Restores.option (by decide) (readField budget) method.clientStreaming
    (fun streaming => { method with clientStreaming := streaming, serverStreaming := none })
    (fun streaming _ => .bool 5 streaming) fun _ => rfl
  have server := Restores.option (by decide) (readField budget) method.serverStreaming
    (fun streaming => { method with serverStreaming := streaming })
    (fun streaming _ => .bool 6 streaming) fun _ => rfl
  exact (((name.append input).append output).append client).append server

theorem ServiceDecl.restores {service : ServiceDecl} (shallow : service.depth ≤ budget) :
    Restores (readField budget) {} service.encode service := by
  have deepMethods := depth_le_iff.mp shallow
  have name := Restores.option (by decide) (readField budget) service.name
    (fun name => { name := name }) (fun name _ => .text 1 name) fun _ => rfl
  have methods := Restores.list (by decide) (readField budget) service.methods
    (fun methods => { service with methods := methods })
    (fun method member => .entered 2 (deepMethods method member) fun fewer _ _ =>
      method.restores fewer)
    fun _ _ => rfl
  exact name.append methods

theorem FileOptions.restores (budget : Nat) (options : FileOptions) :
    Restores (readField budget) {} options.encode options :=
  Restores.option (by decide) (readField budget) options.goPackage
    (fun option => { goPackage := option }) (fun option _ => .text 11 option) fun _ => rfl

theorem FileDecl.restores {file : FileDecl} (shallow : file.depth ≤ budget) :
    Restores (readField budget) {} file.encode file := by
  obtain ⟨deepMessages, deepEnums, deepServices, deepOptions⟩ := depth_le_iff.mp shallow
  have name := Restores.option (by decide) (readField budget) file.name
    (fun name => { name := name }) (fun name _ => .text 1 name) fun _ => rfl
  have package := Restores.option (by decide) (readField budget) file.package
    (fun package => { name := file.name, package := package })
    (fun name _ => .text 2 name) fun _ => rfl
  have dependencies := Restores.list (by decide) (readField budget) file.dependencies
    (fun names => { name := file.name, package := file.package, dependencies := names })
    (fun name _ => .text 3 name) fun _ _ => rfl
  have messages := Restores.list (by decide) (readField budget) file.messages
    (fun messages => { file with
      publicDependencies := [], weakDependencies := [], messages := messages, enums := []
      services := [], options := none, dialect := none })
    (fun message member => .entered 4 (deepMessages message member) fun _ _ enough =>
      MessageDecl.restores enough)
    fun _ _ => rfl
  have enums := Restores.list (by decide) (readField budget) file.enums
    (fun enums => { file with
      publicDependencies := [], weakDependencies := [], enums := enums
      services := [], options := none, dialect := none })
    (fun enum member => .entered 5 (deepEnums enum member) fun _ _ enough =>
      EnumDecl.restores enough)
    fun _ _ => rfl
  have services := Restores.list (by decide) (readField budget) file.services
    (fun services => { file with
      publicDependencies := [], weakDependencies := [], services := services
      options := none, dialect := none })
    (fun service member => .entered 6 (deepServices service member) fun _ _ enough =>
      ServiceDecl.restores enough)
    fun _ _ => rfl
  have options := Restores.option (by decide) (readField budget) file.options
    (fun options => { file with
      publicDependencies := [], weakDependencies := [], options := options, dialect := none })
    (fun options set => .entered 8 (deepOptions options set) fun fewer _ _ =>
      options.restores fewer)
    fun _ => rfl
  have passedOn := Restores.int32s (by decide : IsFieldNumber 10) (readField budget)
    file.publicDependencies
    (fun positions => { file with
      publicDependencies := positions, weakDependencies := [], dialect := none })
    fun _ _ => rfl
  have weak := Restores.int32s (by decide : IsFieldNumber 11) (readField budget)
    file.weakDependencies
    (fun positions => { file with weakDependencies := positions, dialect := none }) fun _ _ => rfl
  have dialect := Restores.option (by decide) (readField budget) file.dialect
    (fun name => { file with dialect := name })
    (fun name _ => .text 12 name) fun _ => rfl
  exact ((((((((name.append package).append dependencies).append messages).append enums).append
    services).append options).append passedOn).append weak).append dialect

theorem CompilerVersion.restores (budget : Nat) (version : CompilerVersion) :
    Restores (readField budget) {} version.encode version := by
  have major := Restores.option (by decide) (readField budget) version.major
    (fun number => { major := number })
    (fun number _ => .int32 1 number) fun _ => rfl
  have minor := Restores.option (by decide) (readField budget) version.minor
    (fun number => { major := version.major, minor := number })
    (fun number _ => .int32 2 number) fun _ => rfl
  have patch := Restores.option (by decide) (readField budget) version.patch
    (fun number => { version with patch := number, suffix := none })
    (fun number _ => .int32 3 number) fun _ => rfl
  have suffix := Restores.option (by decide) (readField budget) version.suffix
    (fun text => { version with suffix := text })
    (fun text _ => .text 4 text) fun _ => rfl
  exact ((major.append minor).append patch).append suffix

theorem Request.restores {request : Request} (shallow : request.depth ≤ budget) :
    Restores (readField budget) {} request.encode request := by
  obtain ⟨deepVersion, deepFiles⟩ := depth_le_iff.mp shallow
  have names := Restores.list (by decide) (readField budget) request.filesToGenerate
    (fun names => { filesToGenerate := names })
    (fun name _ => .text 1 name) fun _ _ => rfl
  have parameter := Restores.option (by decide) (readField budget) request.parameter
    (fun text => { filesToGenerate := request.filesToGenerate, parameter := text })
    (fun text _ => .text 2 text) fun _ => rfl
  have version := Restores.option (by decide) (readField budget) request.compilerVersion
    (fun version => { request with compilerVersion := version, files := [] })
    (fun version set => .entered 3 (deepVersion version set) fun fewer _ _ =>
      version.restores fewer)
    fun _ => rfl
  have files := Restores.list (by decide) (readField budget) request.files
    (fun files => { request with files := files })
    (fun file member => .entered 15 (deepFiles file member) fun _ _ enough =>
      FileDecl.restores enough)
    fun _ _ => rfl
  exact ((names.append parameter).append version).append files

private theorem lt_of_readMessage {inside : Nat → FieldReader α} {depth : α → Nat}
    (keeps : ∀ fewer < budget, ∀ key, Keeps (depth · ≤ fewer) (inside fewer key)) {start : α}
    (initial : depth start = 0) {wire : WireType} {finish : α} {bytes rest : List UInt8}
    (read : readMessage (enter inside budget) wire start bytes = .ok (finish, rest)) :
    depth finish < budget := by
  have bounded : ∀ fewer, depth start ≤ fewer := fun fewer => initial ▸ Nat.zero_le fewer
  obtain ⟨fewer, less, kept⟩ := Keeps.readMessage keeps bounded read
  exact Nat.lt_of_le_of_lt kept less

private theorem pos_of_readMessage {inside : Nat → FieldReader α} {start : α} {wire : WireType}
    {finish : α} {bytes rest : List UInt8}
    (read : readMessage (enter inside budget) wire start bytes = .ok (finish, rest)) :
    0 < budget := by
  have keeps : ∀ fewer < budget, ∀ key, Keeps (fun _ => 0 ≤ fewer) (inside fewer key) :=
    fun fewer _ _ _ _ _ _ _ _ => Nat.zero_le fewer
  exact lt_of_readMessage keeps rfl read

private theorem forall_mem_concat {parts : List α} {part : α} {holds : α → Prop}
    (earlier : ∀ one ∈ parts, holds one) (last : holds part) : ∀ one ∈ parts ++ [part], holds one :=
  List.forall_mem_append.mpr ⟨earlier, List.forall_mem_singleton.mpr last⟩

theorem EnumDecl.keeps_depth (budget : Nat) (key : Key) :
    Keeps (EnumDecl.depth · ≤ budget) (readField budget key) := by
  intro start finish bytes rest shallow read
  rw [depth_le_iff] at shallow ⊢
  rw [readField] at read
  split at read
  case h_2 =>
    obtain ⟨value, entered, rfl⟩ := storeField_eq_ok read
    exact forall_mem_concat shallow (pos_of_readMessage entered)
  case h_3 => exact skipField_eq_ok read ▸ shallow
  all_goals
    obtain ⟨_, _, rfl⟩ := storeField_eq_ok read
    exact shallow

theorem MessageDecl.keeps_depth (budget : Nat) (key : Key) :
    Keeps (MessageDecl.depth · ≤ budget) (readField budget key) := by
  induction budget using Nat.strongRecOn generalizing key with
  | ind budget induction =>
      intro start finish bytes rest shallow read
      rw [depth_le_iff] at shallow ⊢
      obtain ⟨deepFields, deepMessages, deepEnums⟩ := shallow
      rw [readField_eq, readFieldWith] at read
      split at read
      case h_2 =>
        obtain ⟨field, entered, rfl⟩ := storeField_eq_ok read
        exact ⟨forall_mem_concat deepFields (pos_of_readMessage entered), deepMessages, deepEnums⟩
      case h_3 =>
        obtain ⟨nested, entered, rfl⟩ := storeField_eq_ok read
        exact ⟨deepFields, forall_mem_concat deepMessages (lt_of_readMessage induction rfl entered),
          deepEnums⟩
      case h_4 =>
        obtain ⟨enum, entered, rfl⟩ := storeField_eq_ok read
        have entering := fun fewer (_ : fewer < budget) => EnumDecl.keeps_depth fewer
        exact ⟨deepFields, deepMessages,
          forall_mem_concat deepEnums (lt_of_readMessage entering rfl entered)⟩
      case h_5 => exact skipField_eq_ok read ▸ ⟨deepFields, deepMessages, deepEnums⟩
      all_goals
        obtain ⟨_, _, rfl⟩ := storeField_eq_ok read
        exact ⟨deepFields, deepMessages, deepEnums⟩

theorem ServiceDecl.keeps_depth (budget : Nat) (key : Key) :
    Keeps (ServiceDecl.depth · ≤ budget) (readField budget key) := by
  intro start finish bytes rest shallow read
  rw [depth_le_iff] at shallow ⊢
  rw [readField] at read
  split at read
  case h_2 =>
    obtain ⟨method, entered, rfl⟩ := storeField_eq_ok read
    exact forall_mem_concat shallow (pos_of_readMessage entered)
  case h_3 => exact skipField_eq_ok read ▸ shallow
  all_goals
    obtain ⟨_, _, rfl⟩ := storeField_eq_ok read
    exact shallow

theorem FileDecl.keeps_depth (budget : Nat) (key : Key) :
    Keeps (FileDecl.depth · ≤ budget) (readField budget key) := by
  intro start finish bytes rest shallow read
  rw [depth_le_iff] at shallow ⊢
  obtain ⟨deepMessages, deepEnums, deepServices, deepOptions⟩ := shallow
  rw [readField] at read
  split at read
  case h_4 =>
    obtain ⟨message, entered, rfl⟩ := storeField_eq_ok read
    have entering := fun fewer (_ : fewer < budget) => MessageDecl.keeps_depth fewer
    exact ⟨forall_mem_concat deepMessages (lt_of_readMessage entering rfl entered), deepEnums,
      deepServices, deepOptions⟩
  case h_5 =>
    obtain ⟨enum, entered, rfl⟩ := storeField_eq_ok read
    have entering := fun fewer (_ : fewer < budget) => EnumDecl.keeps_depth fewer
    exact ⟨deepMessages, forall_mem_concat deepEnums (lt_of_readMessage entering rfl entered),
      deepServices, deepOptions⟩
  case h_6 =>
    obtain ⟨service, entered, rfl⟩ := storeField_eq_ok read
    have entering := fun fewer (_ : fewer < budget) => ServiceDecl.keeps_depth fewer
    exact ⟨deepMessages, deepEnums,
      forall_mem_concat deepServices (lt_of_readMessage entering rfl entered), deepOptions⟩
  case h_7 =>
    obtain ⟨options, entered, rfl⟩ := storeField_eq_ok read
    exact ⟨deepMessages, deepEnums, deepServices, fun _ _ => pos_of_readMessage entered⟩
  case h_11 =>
    exact skipField_eq_ok read ▸ ⟨deepMessages, deepEnums, deepServices, deepOptions⟩
  all_goals
    obtain ⟨_, _, rfl⟩ := storeField_eq_ok read
    exact ⟨deepMessages, deepEnums, deepServices, deepOptions⟩

theorem Request.keeps_depth (budget : Nat) (key : Key) :
    Keeps (Request.depth · ≤ budget) (readField budget key) := by
  intro start finish bytes rest shallow read
  rw [depth_le_iff] at shallow ⊢
  obtain ⟨deepVersion, deepFiles⟩ := shallow
  rw [readField] at read
  split at read
  case h_3 =>
    obtain ⟨version, entered, rfl⟩ := storeField_eq_ok read
    exact ⟨fun _ _ => pos_of_readMessage entered, deepFiles⟩
  case h_4 =>
    obtain ⟨file, entered, rfl⟩ := storeField_eq_ok read
    have entering := fun fewer (_ : fewer < budget) => FileDecl.keeps_depth fewer
    exact ⟨deepVersion, forall_mem_concat deepFiles (lt_of_readMessage entering rfl entered)⟩
  case h_5 => exact skipField_eq_ok read ▸ ⟨deepVersion, deepFiles⟩
  all_goals
    obtain ⟨_, _, rfl⟩ := storeField_eq_ok read
    exact ⟨deepVersion, deepFiles⟩

namespace Request

/-- No request that is read from bytes is deeper than the limit. -/
theorem depth_le_of_decode {bytes : List UInt8} {request : Request}
    (read : decode bytes = .ok request) : request.depth ≤ depthLimit :=
  Keeps.readAll (Request.keeps_depth depthLimit) (Nat.zero_le _) read

theorem decode_encode_iff {request : Request} (countable : request.encode.length < UInt64.size) :
    decode request.encode = .ok request ↔ request.depth ≤ depthLimit :=
  ⟨depth_le_of_decode, fun shallow => readAll_of_restores (restores shallow) countable⟩

/-- The canonical bytes of a request stand for it, whatever is read from it: they are read as this
request exactly if its messages are not deeper inside one another than the limit, and then linking
the bytes is linking the request, and the options and files in them are those of the request. The
bytes are in memory, where a number of 64 bits counts them. -/
theorem parses_alike_from_bytes (request : Request)
    (countable : request.encode.length < UInt64.size) :
    (decode request.encode = .ok request ↔ request.depth ≤ depthLimit) ∧
      (request.depth ≤ depthLimit →
        LinkedRequest.ofBytes request.encode = LinkedRequest.ofRequest request ∧
          parseBytes request.encode = request.parse) := by
  refine ⟨decode_encode_iff countable, fun shallow => ?_⟩
  have read := (decode_encode_iff countable).mpr shallow
  have linked : LinkedRequest.ofBytes request.encode = LinkedRequest.ofRequest request := by
    rw [LinkedRequest.ofBytes, read]
    rfl
  refine ⟨linked, ?_⟩
  rw [parseBytes, linked, LinkedRequest.ofRequest, parse]
  cases request.pool <;> rfl

/-- A request with nested messages, negative numbers, and unset and empty texts. -/
def nestedEntries : Request where
  filesToGenerate := ["store.proto", ""]
  compilerVersion := some { major := some 6, minor := some (-1), suffix := some "" }
  files := [{
    name := some "store.proto"
    package := some ""
    dependencies := ["ä.proto"]
    publicDependencies := [0, -7]
    messages := [{
      name := some "Entry"
      fields := [{ name := some "key", number := some 1, typeName := some ".Entry.Key" }]
      messages := [{
        name := some "Key"
        enums := [{ values := [{ number := some (-2147483648) }] }] }] }]
    services := [{ methods := [{ clientStreaming := some false }] }]
    options := some {} }, {}]

theorem parses_alike_from_bytes_nestedEntries :
    nestedEntries.encode.length < UInt64.size ∧ nestedEntries.depth = 5 ∧
      decode nestedEntries.encode = .ok nestedEntries ∧
      LinkedRequest.ofBytes nestedEntries.encode = LinkedRequest.ofRequest nestedEntries ∧
      parseBytes nestedEntries.encode = nestedEntries.parse := by
  have countable : nestedEntries.encode.length < UInt64.size := by decide +kernel
  have depth : nestedEntries.depth = 5 := by decide +kernel
  have shallow : nestedEntries.depth ≤ depthLimit := by
    rw [depth]
    decide
  obtain ⟨reads, alike⟩ := parses_alike_from_bytes nestedEntries countable
  exact ⟨countable, depth, reads.mpr shallow, alike shallow⟩

end Request

end RpcProxy

import RpcProxy.ProxySource
import RpcProxy.Proofs.Reading
import RpcProxy.Proofs.Signature

/-!
# Reading what is declared for a service

As long as its names are words and its types have no other letters than types have, a reader finds
in the blocks of a service what they were made of: the proxy with its fields, and behind it the
adapter with its methods. The blocks of another service behind them are left to be read on their
own.
-/

namespace RpcProxy

open GoName

theorem GoType.isTypeText {type : GoType} (plain : IsTypeText type.reference.text) :
    IsTypeText type.text := by
  cases type with
  | plain reference => exact plain
  | pointer reference =>
      have star : IsTypeText "*" := by
        intro letter member
        exact .inr (.inr (by simpa using member))
      exact star.append plain

namespace Signature

/-- Whether a signature is made of names and types alone. -/
structure Plain (signature : Signature) : Prop where
  name : IsWord signature.name
  parameters : signature.parameters ≠ []
  results : signature.results ≠ []
  parameter : ∀ parameter ∈ signature.parameters, IsWord parameter.1
  reference : ∀ reference ∈ signature.references, IsTypeText reference.text

variable {signature : Signature}

theorem Plain.parameterType (plain : signature.Plain) {parameter : String × GoType}
    (member : parameter ∈ signature.parameters) : IsTypeText parameter.2.text := by
  refine GoType.isTypeText (plain.reference _ (List.mem_append_left _ ?_))
  exact List.mem_map.mpr ⟨parameter, member, rfl⟩

theorem Plain.resultType (plain : signature.Plain) {type : GoType}
    (member : type ∈ signature.results) : IsTypeText type.text := by
  refine GoType.isTypeText (plain.reference _ (List.mem_append_right _ ?_))
  exact List.mem_map.mpr ⟨type, member, rfl⟩

private theorem results?_resultText (plain : signature.Plain) :
    TypeReading.results? signature.resultText = some (signature.results.map GoType.text) := by
  have types : ∀ result ∈ signature.results.map GoType.text, IsTypeText result := by
    intro result member
    obtain ⟨type, isResult, rfl⟩ := List.mem_map.mp member
    exact plain.resultType isResult
  rw [resultText]
  split
  · rename_i type results
    rw [results]
    exact TypeReading.results?_single (types _ (by simp [results]))
  · exact TypeReading.results?_list (mt List.map_eq_nil_iff.mp plain.results) types

theorem read?_typeText (plain : signature.Plain) :
    TypeReading.read? signature.text =
      some ⟨signature.parameters.map fun parameter => (parameter.1, parameter.2.text),
        signature.results.map GoType.text⟩ := by
  have parameterText : signature.parameterText = String.intercalate ", "
      ((signature.parameters.map fun parameter => (parameter.1, parameter.2.text)).map
        TypeReading.written) := by
    rw [List.map_map]
    rfl
  rw [text, parameterText]
  refine TypeReading.read?_text (mt List.map_eq_nil_iff.mp plain.parameters) ?_
    (results?_resultText plain)
  intro written member
  obtain ⟨parameter, inParameters, rfl⟩ := List.mem_map.mp member
  exact ⟨plain.parameter parameter inParameters, plain.parameterType inParameters⟩

/-- What a method without an implementation returns, value by value. -/
def refusal (signature : Signature) : List String :=
  (signature.results.dropLast.map fun _ => "nil") ++ [sentinel]

end Signature

namespace ServiceProxy

/-- Whether what is declared for a service is made of names and types alone. -/
structure Plain (service : ServiceProxy) : Prop where
  serviceName : IsWord service.serviceName
  proxyName : IsWord service.proxyName
  register : IsTypeText service.register.text
  unimplemented : IsTypeText service.unimplemented.text
  method : ∀ method ∈ service.methods, method.Plain

def fieldLines (service : ServiceProxy) : List String :=
  service.methods.map fun method => "\t" ++ method.name ++ " func" ++ method.text

/-- The members of the adapter. -/
def memberLines (service : ServiceProxy) : List String :=
  ["\t" ++ service.unimplemented.text, "", "\tproxy *" ++ service.proxyName]

def proxyDeclaration (service : ServiceProxy) : Declaration :=
  .block (.struct service.proxyName) service.fieldLines

def serveDeclaration (service : ServiceProxy) : Declaration :=
  .block (.method "p" service.proxyName "Serve"
      "(l net.Listener, opts ...grpc.ServerOption) error")
    ["\tsrv := grpc.NewServer(opts...)",
     "\t" ++ service.register.text ++ "(srv, &" ++ service.adapterName ++ "\x7bproxy: p\x7d)",
     "", "\treturn srv.Serve(l)"]

def sentinelDeclaration : Declaration :=
  .global sentinel "errors.New(\"operation not supported\")"

def adapterDeclaration (service : ServiceProxy) : Declaration :=
  .block (.struct service.adapterName) service.memberLines

def methodDeclaration (service : ServiceProxy) (method : Signature) : Declaration :=
  .block (.method "s" service.adapterName method.name method.text)
    ["\tfn := s.proxy." ++ method.name, "\tif fn == nil \x7b",
     "\t\treturn " ++ String.intercalate ", " method.refusal, "\t\x7d", "",
     "\treturn fn(" ++ String.intercalate ", " (method.parameters.map (·.1)) ++ ")"]

/-- What is declared for a service. -/
def declared (service : ServiceProxy) (isFirst : Bool) : List Declaration :=
  [service.proxyDeclaration, service.serveDeclaration]
    ++ (if isFirst then [sentinelDeclaration] else [])
    ++ [service.adapterDeclaration]
    ++ service.methods.map service.methodDeclaration

variable {service : ServiceProxy} {method : Signature}

open Reader

theorem isWord_adapterName (service : ServiceProxy) : IsWord service.adapterName := by
  have ending : IsWord "Server" := by decide +kernel
  exact (isWord_unexported service.serviceName).append ending

private theorem reads_proxyLines : Reads service.proxyLines [service.proxyDeclaration] := by
  have comment : (Text.dropBeginning? "//" ("// " ++ service.proxyName ++ " allows to create " ++
      service.serviceName ++ " proxy servers.")).isSome := by
    simp [Text.dropBeginning?, List.isPrefixOf?]
  have fields : ∀ line ∈ service.fieldLines, line = "" ∨ line.toList.head? = some '\t' := by
    intro line member
    obtain ⟨method, _, rfl⟩ := List.mem_map.mp member
    exact .inr (by simp)
  have reads := reads_block (Heading.read?_struct service.proxyName) _ fields
  exact (reads_comment comment).append reads

private theorem reads_serveLines (named : IsWord service.proxyName) :
    Reads service.serveLines [service.serveDeclaration] := by
  have opens : ∃ parameters, "(l net.Listener, opts ...grpc.ServerOption) error" =
      "(" ++ parameters := ⟨"l net.Listener, opts ...grpc.ServerOption) error", by decide +kernel⟩
  have read := Heading.read?_method (by decide : ' ' ∉ "p".toList) (by decide)
    (named.notMem (by decide)) (by decide : '(' ∉ "Serve".toList) opens
  have receiver : "func (" ++ "p" ++ " *" = "func (p *" := rfl
  have signature : ") " ++ ("Serve" ++ ("(l net.Listener, opts ...grpc.ServerOption) error" ++
      " \x7b")) = ") Serve(l net.Listener, opts ...grpc.ServerOption) error \x7b" := rfl
  rw [receiver] at read
  simp only [String.append_assoc, signature] at read
  rw [← String.append_assoc] at read
  have block := reads_block read ["\tsrv := grpc.NewServer(opts...)",
    "\t" ++ service.register.text ++ "(srv, &" ++ service.adapterName ++ "\x7bproxy: p\x7d)", "",
    "\treturn srv.Serve(l)"] (by simp)
  have comment : (Text.dropBeginning? "//"
    "// Serve starts serving the proxy server on the given listener with the specified options."
    ).isSome := by decide +kernel
  exact (reads_comment comment).append block

private theorem reads_sentinelLines : Reads sentinelLines [sentinelDeclaration] := by
  have value : " = errors.New(\"operation not supported\")" =
      " = " ++ "errors.New(\"operation not supported\")" := rfl
  rw [sentinelLines, value, ← String.append_assoc]
  exact reads_global (by decide) "errors.New(\"operation not supported\")"

private theorem reads_adapterLines : Reads service.adapterLines [service.adapterDeclaration] :=
  reads_block (Heading.read?_struct service.adapterName) service.memberLines
    (by simp [memberLines])

private theorem reads_methodLines (named : IsWord method.name) :
    Reads (service.methodLines method) [service.methodDeclaration method] := by
  have opens : ∃ parameters, method.text = "(" ++ parameters :=
    ⟨method.parameterText ++ (") " ++ method.resultText), by
      rw [Signature.text, String.append_assoc, String.append_assoc]⟩
  have read := Heading.read?_method (by decide : ' ' ∉ "s".toList) (by decide)
    (service.isWord_adapterName.notMem (by decide)) (named.notMem (by decide)) opens
  have receiver : "func (" ++ "s" ++ " *" = "func (s *" := rfl
  rw [receiver] at read
  exact reads_block read ["\tfn := s.proxy." ++ method.name, "\tif fn == nil \x7b",
    "\t\treturn " ++ method.notSupported, "\t\x7d", "", "\treturn fn(" ++ method.arguments ++ ")"]
    (by simp)

private theorem reads_spaced {block : List String} {declared : List Declaration}
    (reads : Reads block declared) : Reads (block ++ [""]) declared := by
  simpa using reads.append reads_blank

/-- The blocks of a service declare what the service needs. -/
theorem reads_blocks (plain : service.Plain) (isFirst : Bool) :
    Reads ((service.blocks isFirst).flatMap (· ++ [""])) (service.declared isFirst) := by
  have sentinelBlock : Reads ((if isFirst then [sentinelLines] else []).flatMap (· ++ [""]))
      (if isFirst then [sentinelDeclaration] else []) := by
    cases isFirst with
    | false => exact .nil
    | true => simpa using reads_spaced reads_sentinelLines
  have methodBlocks : Reads ((service.methods.map service.methodLines).flatMap (· ++ [""]))
      (service.methods.map service.methodDeclaration) := by
    rw [List.flatMap_map, List.map_eq_flatMap]
    exact .flatMap fun method member =>
      reads_spaced (reads_methodLines (plain.method method member).name)
  have proxyBlock := reads_spaced (@reads_proxyLines service)
  have serveBlock := reads_spaced (reads_serveLines plain.proxyName)
  have adapterBlock := reads_spaced (@reads_adapterLines service)
  have all := (((proxyBlock.append serveBlock).append sentinelBlock).append adapterBlock).append
    methodBlocks
  simpa [blocks, declared, List.flatMap_append] using all

/-- What a reader finds for a service. -/
def reading (service : ServiceProxy) : ServiceReading where
  proxy := service.proxyName
  fields := service.methods.map fun method => ⟨method.name, method.text⟩
  ownMethods := ["Serve"]
  adapter := service.adapterName
  held := service.proxyName
  methods := service.methods.map fun method =>
    ⟨method.name, method.text, method.name, method.refusal, method.parameters.map (·.1)⟩

private theorem readMethods (plain : service.Plain) :
    (service.methods.map service.methodDeclaration).mapM
      (MethodReading.read? service.adapterName) = some service.reading.methods := by
  refine mapM_map_eq_some fun method member => ?_
  have methodPlain := plain.method method member
  have refuses : method.refusal ≠ [] := by simp [Signature.refusal]
  have values : ∀ value ∈ method.refusal, ',' ∉ value.toList := by
    intro value isValue
    rw [Signature.refusal, List.mem_append, List.mem_map, List.mem_singleton] at isValue
    rcases isValue with ⟨_, _, rfl⟩ | rfl <;> decide
  have passes : method.parameters.map (·.1) ≠ [] := mt List.map_eq_nil_iff.mp methodPlain.parameters
  have arguments : ∀ argument ∈ method.parameters.map (·.1), ',' ∉ argument.toList := by
    intro argument isArgument
    obtain ⟨parameter, inParameters, rfl⟩ := List.mem_map.mp isArgument
    exact (methodPlain.parameter parameter inParameters).notMem (by decide)
  exact MethodReading.read?_block refuses values passes arguments _ _ _ _

/-- What belongs to the struct of the proxy. -/
def proxyStruct (service : ServiceProxy) (isFirst : Bool) : StructReading where
  name := service.proxyName
  members := service.fieldLines
  behind := service.serveDeclaration :: if isFirst then [sentinelDeclaration] else []

/-- What belongs to the struct of the adapter. -/
def adapterStruct (service : ServiceProxy) : StructReading where
  name := service.adapterName
  members := service.memberLines
  behind := service.methods.map service.methodDeclaration

/-- The structs of a service are its proxy and its adapter. -/
theorem structs_declared (service : ServiceProxy) (isFirst : Bool)
    {rest : List Declaration} (ends : (structs rest).1 = []) :
    structs (service.declared isFirst ++ rest) =
      ([], service.proxyStruct isFirst :: service.adapterStruct :: (structs rest).2) := by
  have methodsBehind := structs_append (service.methods.map service.methodDeclaration)
    (by simp [methodDeclaration, Declaration.isStruct]) rest
  rw [ends, List.append_nil] at methodsBehind
  have adapter : structs (service.adapterDeclaration ::
      (service.methods.map service.methodDeclaration ++ rest)) =
        ([], service.adapterStruct :: (structs rest).2) := by
    rw [adapterDeclaration, structs, methodsBehind, adapterStruct]
  have between := structs_append (service.proxyStruct isFirst).behind
    (by cases isFirst <;>
      simp [proxyStruct, serveDeclaration, sentinelDeclaration, Declaration.isStruct])
    (service.adapterDeclaration :: (service.methods.map service.methodDeclaration ++ rest))
  rw [adapter, List.append_nil] at between
  have order : service.declared isFirst ++ rest = service.proxyDeclaration ::
      ((service.proxyStruct isFirst).behind ++
        service.adapterDeclaration :: (service.methods.map service.methodDeclaration ++ rest)) := by
    simp [declared, proxyStruct]
  rw [order, proxyDeclaration, structs, between]
  rfl

/-- The only method of a proxy is `Serve`. -/
theorem ownMethods_proxyStruct (service : ServiceProxy) (isFirst : Bool) :
    (service.proxyStruct isFirst).behind.filterMap (Declaration.methodOf? service.proxyName) =
      ["Serve"] := by
  cases isFirst <;>
    simp [proxyStruct, serveDeclaration, sentinelDeclaration, Declaration.methodOf?]

/-- The structs of a service are read as its proxy and its adapter. -/
theorem ofStructs?_declared (plain : service.Plain) (isFirst : Bool) :
    ServiceReading.ofStructs? (service.proxyStruct isFirst) service.adapterStruct =
      some service.reading := by
  have fields : service.fieldLines.mapM FieldReading.read? = some service.reading.fields :=
    mapM_map_eq_some fun method member =>
      FieldReading.read?_line ((plain.method method member).name.notMem (by decide)) method.text
  have held : ServiceReading.held? service.memberLines = some service.proxyName :=
    Text.dropBeginning?_append "\tproxy *" service.proxyName
  have ownMethods := ownMethods_proxyStruct service isFirst
  have read := readMethods plain
  simp only [ServiceReading.ofStructs?, proxyStruct, adapterStruct] at ownMethods ⊢
  rw [fields, held, read, ownMethods]
  rfl

private theorem notMem_text (plain : method.Plain) : '\n' ∉ method.text.toList := by
  have parameters : '\n' ∉ method.parameterText.toList := by
    refine notMem_intercalate (by decide) fun part member => ?_
    obtain ⟨parameter, inParameters, rfl⟩ := List.mem_map.mp member
    have name := (plain.parameter parameter inParameters).lineFeed_notMem
    have type := (plain.parameterType inParameters).lineFeed_notMem
    simp [name, type]
  have types : ∀ type ∈ method.results, '\n' ∉ type.text.toList :=
    fun type member => (plain.resultType member).lineFeed_notMem
  have results : '\n' ∉ method.resultText.toList := by
    rw [Signature.resultText]
    split
    · rename_i type single
      exact types type (by simp [single])
    · have inside : '\n' ∉ (String.intercalate ", " (method.results.map GoType.text)).toList :=
        notMem_intercalate (by decide) (List.forall_mem_map.mpr types)
      simpa [-String.toList_intercalate] using inside
  simp [Signature.text, parameters, results]

private theorem notMem_proxyLines (plain : service.Plain) :
    ∀ line ∈ service.proxyLines, '\n' ∉ line.toList := by
  have serviceName := plain.serviceName.lineFeed_notMem
  have proxyName := plain.proxyName.lineFeed_notMem
  intro line member
  simp only [proxyLines, List.mem_append, List.mem_cons, List.not_mem_nil, or_false,
    List.mem_map] at member
  rcases member with ((rfl | rfl) | ⟨method, inService, rfl⟩) | rfl
  · simp [proxyName, serviceName]
  · simp [proxyName]
  · have name := (plain.method method inService).name.lineFeed_notMem
    have type := notMem_text (plain.method method inService)
    simp [name, type]
  · decide

private theorem notMem_serveLines (plain : service.Plain) :
    ∀ line ∈ service.serveLines, '\n' ∉ line.toList := by
  have proxyName := plain.proxyName.lineFeed_notMem
  have register := plain.register.lineFeed_notMem
  have adapter := service.isWord_adapterName.lineFeed_notMem
  simp [serveLines, proxyName, register, adapter]

private theorem notMem_sentinelLines : ∀ line ∈ sentinelLines, '\n' ∉ line.toList := by
  simp [sentinelLines, sentinel]

private theorem notMem_adapterLines (plain : service.Plain) :
    ∀ line ∈ service.adapterLines, '\n' ∉ line.toList := by
  have proxyName := plain.proxyName.lineFeed_notMem
  have unimplemented := plain.unimplemented.lineFeed_notMem
  have adapter := service.isWord_adapterName.lineFeed_notMem
  simp [adapterLines, proxyName, unimplemented, adapter]

private theorem notMem_methodLines (plain : method.Plain) :
    ∀ line ∈ service.methodLines method, '\n' ∉ line.toList := by
  have name := plain.name.lineFeed_notMem
  have adapter := service.isWord_adapterName.lineFeed_notMem
  have type := notMem_text plain
  have refusal : '\n' ∉ method.notSupported.toList := by
    refine notMem_intercalate (by decide) fun value member => ?_
    rw [List.mem_append, List.mem_map, List.mem_singleton] at member
    rcases member with ⟨_, _, rfl⟩ | rfl <;> decide
  have arguments : '\n' ∉ method.arguments.toList := by
    refine notMem_intercalate (by decide) fun argument member => ?_
    obtain ⟨parameter, inParameters, rfl⟩ := List.mem_map.mp member
    exact (plain.parameter parameter inParameters).lineFeed_notMem
  simp [methodLines, name, adapter, type, refusal, arguments]

theorem notMem_blocks (plain : service.Plain) (isFirst : Bool) :
    ∀ block ∈ service.blocks isFirst, ∀ line ∈ block, '\n' ∉ line.toList := by
  intro block member
  simp only [blocks, List.mem_append, List.mem_cons, List.not_mem_nil, or_false, List.mem_map]
    at member
  rcases member with (((rfl | rfl) | shared) | rfl) | ⟨method, inService, rfl⟩
  · exact notMem_proxyLines plain
  · exact notMem_serveLines plain
  · cases isFirst with
    | false => simp at shared
    | true =>
        obtain rfl := List.mem_singleton.mp shared
        exact notMem_sentinelLines
  · exact notMem_adapterLines plain
  · exact notMem_methodLines (plain.method method inService)

/-- The last line of a service closes its last declaration. -/
theorem exists_blocks_eq (service : ServiceProxy) (isFirst : Bool) :
    ∃ front inside, service.blocks isFirst = front ++ [inside ++ ["\x7d"]] := by
  let start := [service.proxyLines, service.serveLines] ++ if isFirst then [sentinelLines] else []
  rcases List.eq_nil_or_concat service.methods with none | ⟨others, last, methods⟩
  · refine ⟨start, ("type " ++ service.adapterName ++ " struct \x7b") :: service.memberLines, ?_⟩
    rw [blocks, none, List.map_nil, List.append_nil]
    rfl
  · refine ⟨start ++ [service.adapterLines] ++ others.map service.methodLines,
      (service.methodLines last).dropLast, ?_⟩
    rw [blocks, methods, List.concat_eq_append, List.map_append, ← List.append_assoc]
    rfl

end ServiceProxy

end RpcProxy

import RpcProxy.CommandLine
import RpcProxy.Proofs.RequestBytes
import RpcProxy.Proofs.Response

/-!
# The contract about errors

A caller tells what went wrong by where the program says so: bytes that are no request end the run,
whatever is wrong inside a request stands in the response, and only a run that saves files itself
also ends on such an error, before it writes. The contract is kept for every request that linking
can take.
-/

namespace RpcProxy.CommandLine

variable {arguments : List String} {invocation : Invocation} {tree : FileTree}
  {input bytes : List UInt8} {request : Request} {response : Response} {outcome : Outcome}

/-- The outcome of handing over a response. It is written as it is, or else it is refused for its
error, or else its files are saved. -/
inductive Invocation.HandsOver (invocation : Invocation) (tree : FileTree) (response : Response) :
    Outcome → Prop
  | emitted : invocation.outputDirectory = none →
      invocation.HandsOver tree response ⟨0, response.encode, some "", tree⟩
  | refused {directory text : String} : invocation.outputDirectory = some directory →
      response.error = some text →
      invocation.HandsOver tree response ⟨1, [], some (Trouble.refused text).line, tree⟩
  | saved {directory : String} {later : FileTree} {names : List String} :
      invocation.outputDirectory = some directory → response.error = none →
      tree.saveFiles directory response.files = (later, .ok names) →
      invocation.HandsOver tree response
        ⟨0, [], some (String.join (names.map (savedLine directory))), later⟩
  | unsaved {directory : String} {later : FileTree} {error : SaveError} :
      invocation.outputDirectory = some directory → response.error = none →
      tree.saveFiles directory response.files = (later, .error error) →
      invocation.HandsOver tree response
        ⟨1, [], some (Trouble.unsaved directory error).line, later⟩

/-- The outcome that a caller is promised for the bytes of a request. -/
inductive Invocation.Promises (invocation : Invocation) (tree : FileTree) (bytes : List UInt8) :
    Outcome → Prop
  | undecodable {error : Wire.DecodeError} : Request.decode bytes = .error error →
      invocation.Promises tree bytes ⟨1, [], some (Trouble.undecodable error).line, tree⟩
  | answered {request : Request} {response : Response} {outcome : Outcome} :
      Request.decode bytes = .ok request → request.respond = .ok response →
      invocation.HandsOver tree response outcome → invocation.Promises tree bytes outcome

/-- The bytes of the request an invocation is to answer, from the input or a file of a tree. -/
def Invocation.requestBytes (invocation : Invocation) (tree : FileTree) (input : List UInt8) :
    Except Trouble (List UInt8) :=
  match invocation.requestFile with
  | none => .ok input
  | some file => (tree.readFile ⟨file⟩).mapError (.unreadable file)

namespace Outcome

def failed (tree : FileTree) (trouble : Trouble) : Outcome := ⟨1, [], some trouble.line, tree⟩

/-- The outcome of a call that ends without saying more. -/
def ended (tree : FileTree) (exitCode : Nat) : Outcome := ⟨exitCode, [], none, tree⟩

end Outcome

def Delivery.outcomeOn (tree : FileTree) : Delivery → Outcome
  | emit bytes => ⟨0, bytes, some "", tree⟩
  | save directory files =>
    match tree.saveFiles directory files with
    | (tree, .ok names) => ⟨0, [], some (String.join (names.map (savedLine directory))), tree⟩
    | (tree, .error error) => .failed tree (.unsaved directory error)

/-- What an invocation does about the bytes of a request, wherever they are from. -/
def Invocation.settle (invocation : Invocation) (tree : FileTree) (bytes : List UInt8) : Outcome :=
  match invocation.answer bytes with
  | .error _ => .ended tree 101
  | .ok (.error trouble) => .failed tree trouble
  | .ok (.ok delivery) => delivery.outcomeOn tree

/-- Reading a request leaves the tree. -/
theorem run_readRequest (invocation : Invocation) (tree : FileTree) (input : List UInt8) :
    (invocation.readRequest FileTree.system (pure input)).run.run tree =
      (invocation.requestBytes tree input, tree) := by
  rw [Invocation.readRequest, Invocation.requestBytes]
  cases invocation.requestFile <;> rfl

/-- The outcome that a program of the command line has on a tree. -/
def outcomeOf (program : ExceptT Trouble (StateM FileTree) Report) (tree : FileTree) : Outcome :=
  match program.run.run tree with
  | (.ok report, later) => ⟨report.exitCode, report.output, report.errorText, later⟩
  | (.error trouble, later) => .failed later trouble

theorem run_eq_outcomeOf (asked : parse arguments = .run invocation) :
    run arguments tree input =
      outcomeOf (invocation.perform FileTree.system (pure input)) tree := by
  rw [run, call, asked, outcomeOf]
  dsimp only
  rw [StateT.run_bind]
  rcases (invocation.perform FileTree.system (pure input)).run.run tree with
    ⟨trouble | report, later⟩ <;> rfl

theorem outcomeOf_perform (delivery : Delivery) (tree : FileTree) :
    outcomeOf (delivery.perform FileTree.system) tree = delivery.outcomeOn tree := by
  cases delivery with
  | emit bytes => rfl
  | save directory files =>
      rw [Delivery.perform, Delivery.outcomeOn, outcomeOf, FileTree.saveFiles]
      simp only [ExceptT.run_bind, ExceptT.run_adapt, StateT.run_bind, StateT.run_map]
      rcases (FileTree.system.saveFiles directory files).run.run tree with
        ⟨error | names, later⟩ <;> rfl

theorem run_eq_settle (asked : parse arguments = .run invocation)
    (given : invocation.requestBytes tree input = .ok bytes) :
    run arguments tree input = invocation.settle tree bytes := by
  have read := run_readRequest invocation tree input
  rw [given] at read
  rw [run_eq_outcomeOf asked, outcomeOf, Invocation.perform, ExceptT.run_bind, StateT.run_bind,
    read, Invocation.settle]
  dsimp only [bind]
  rcases invocation.answer bytes with cause | trouble | delivery
  · rfl
  · rfl
  · exact outcomeOf_perform delivery tree

/-- Of an invocation only the directory matters once the bytes are there. -/
theorem settle_congr {other : Invocation}
    (sameDirectory : other.outputDirectory = invocation.outputDirectory) :
    other.settle tree bytes = invocation.settle tree bytes := by
  have deliver : other.deliver = invocation.deliver := by
    funext response
    rw [Invocation.deliver, Invocation.deliver, sameDirectory]
  rw [Invocation.settle, Invocation.settle, Invocation.answer, Invocation.answer, deliver]

theorem settle_of_undecodable {error : Wire.DecodeError}
    (fails : Request.decode bytes = .error error) :
    invocation.settle tree bytes = .failed tree (.undecodable error) := by
  rw [Invocation.settle, Invocation.answer, fails]

theorem settle_of_breakdown {cause : Breakdown} (decoded : Request.decode bytes = .ok request)
    (breaks : request.respond = .error cause) :
    invocation.settle tree bytes = .ended tree 101 := by
  rw [Invocation.settle, Invocation.answer, decoded]
  dsimp only
  rw [breaks]
  rfl

theorem settle_of_respond (decoded : Request.decode bytes = .ok request)
    (answered : request.respond = .ok response) :
    invocation.settle tree bytes =
      match invocation.deliver response with
      | .error trouble => .failed tree trouble
      | .ok delivery => delivery.outcomeOn tree := by
  have answer : invocation.answer bytes = .ok (invocation.deliver response) := by
    rw [Invocation.answer, decoded]
    dsimp only
    rw [answered]
    rfl
  rw [Invocation.settle, answer]
  cases invocation.deliver response <;> rfl

theorem handsOver_iff (decoded : Request.decode bytes = .ok request)
    (answered : request.respond = .ok response) :
    invocation.HandsOver tree response outcome ↔ invocation.settle tree bytes = outcome := by
  rw [settle_of_respond decoded answered, Invocation.deliver]
  constructor
  · intro handsOver
    cases handsOver with
    | emitted directory => rw [directory]; rfl
    | refused directory error => rw [directory, error]; rfl
    | saved directory error saved => rw [directory, error]; simp only [Delivery.outcomeOn, saved]
    | unsaved directory error stopped =>
        rw [directory, error]
        simp only [Delivery.outcomeOn, stopped]
        rfl
  · rintro rfl
    cases directory : invocation.outputDirectory with
    | none => exact .emitted directory
    | some place =>
        cases error : response.error with
        | some text => exact .refused directory error
        | none =>
            simp only [Delivery.outcomeOn]
            split
            · exact .saved directory error ‹_›
            · exact .unsaved directory error ‹_›

theorem promises_iff :
    invocation.Promises tree bytes outcome ↔
      invocation.settle tree bytes = outcome ∧
        ∀ request cause, Request.decode bytes = .ok request → ¬request.BreaksDown cause := by
  constructor
  · rintro (fails | ⟨decoded, answered, handsOver⟩)
    · refine ⟨settle_of_undecodable fails, fun request cause decoded => ?_⟩
      rw [fails] at decoded
      cases decoded
    · refine ⟨(handsOver_iff decoded answered).mp handsOver, ?_⟩
      intro other cause decodedOther breaks
      obtain rfl := Except.ok.inj (decoded.symm.trans decodedOther)
      rw [Request.respond_eq_error_iff_breaksDown.mpr breaks] at answered
      cases answered
  · rintro ⟨rfl, unbroken⟩
    cases decoded : Request.decode bytes with
    | error error => exact settle_of_undecodable decoded ▸ .undecodable decoded
    | ok request =>
        cases answered : request.respond with
        | error cause =>
            have breaks := Request.respond_eq_error_iff_breaksDown.mp answered
            exact absurd breaks (unbroken request cause decoded)
        | ok response =>
            exact .answered decoded answered ((handsOver_iff decoded answered).mpr rfl)

/-- A call keeps the contract about errors exactly if its bytes are no request or one that does not
break the run. It has then the promised outcome, and no other is promised; after a breakdown it ends
without any output and without having saved anything. How the bytes were given makes no difference.
-/
theorem keeps_error_contract (asked : parse arguments = .run invocation)
    (given : invocation.requestBytes tree input = .ok bytes) :
    (∀ outcome, invocation.Promises tree bytes outcome ↔
      run arguments tree input = outcome ∧
        ∀ request cause, Request.decode bytes = .ok request → ¬request.BreaksDown cause) ∧
    (∀ request cause, Request.decode bytes = .ok request → request.BreaksDown cause →
      run arguments tree input = .ended tree 101) ∧
    ∀ others other otherInput, parse others = .run other →
      other.outputDirectory = invocation.outputDirectory →
      other.requestBytes tree otherInput = .ok bytes →
      run others tree otherInput = run arguments tree input := by
  rw [run_eq_settle asked given]
  refine ⟨fun outcome => promises_iff, fun request cause decoded breaks => ?_,
    fun others other otherInput otherAsked sameDirectory otherGiven => ?_⟩
  · exact settle_of_breakdown decoded (Request.respond_eq_error_iff_breaksDown.mpr breaks)
  · rw [run_eq_settle otherAsked otherGiven, settle_congr sameDirectory]

/-- A request with a parameter that is no option. -/
def misspelled : Request where
  parameter := some "standalnoe"

theorem decode_misspelled : Request.decode misspelled.encode = .ok misspelled := by
  have countable : misspelled.encode.length < UInt64.size := by decide +kernel
  exact (Request.decode_encode_iff countable).mpr (Nat.zero_le _)

/-- The working directory with a captured request in it. -/
def captured : FileTree :=
  FileTree.empty.put ["work", "request.bin"] (.file misspelled.encode)

theorem keeps_error_contract_misspelled :
    parse ["--request", "request.bin"] = .run { requestFile := some "request.bin" } ∧
      ({ requestFile := some "request.bin" } : Invocation).requestBytes captured [] =
        .ok misspelled.encode ∧
      ∃ response, misspelled.respond = .ok response ∧
        response.error = some "Invalid plugin parameter: unknown parameter \"standalnoe\"" ∧
        run ["--request", "request.bin"] captured [] = ⟨0, response.encode, some "", captured⟩ ∧
        run [] captured misspelled.encode = run ["--request", "request.bin"] captured [] := by
  have asked : parse ["--request", "request.bin"] = .run { requestFile := some "request.bin" } := by
    decide +kernel
  have given : ({ requestFile := some "request.bin" } : Invocation).requestBytes captured [] =
      .ok misspelled.encode := by decide +kernel
  obtain ⟨promised, _, alike⟩ := keeps_error_contract asked given
  have answered : misspelled.respond = .ok { Response.capabilities with
      error := some "Invalid plugin parameter: unknown parameter \"standalnoe\"" } := by
    decide +kernel
  refine ⟨asked, given, _, answered, rfl, ?_, alike [] {} misspelled.encode rfl rfl rfl⟩
  exact ((promised _).mp (.answered decode_misspelled answered (.emitted rfl))).1

/-- A dialect that nothing knows ends the run without a response, although the bytes are a request.
-/
theorem no_promise_to_newerDialect :
    Request.decode Request.newerDialect.encode = .ok Request.newerDialect ∧
      run [] .empty Request.newerDialect.encode = .ended .empty 101 ∧
      ∀ outcome, ¬({} : Invocation).Promises .empty Request.newerDialect.encode outcome := by
  have countable : Request.newerDialect.encode.length < UInt64.size := by decide +kernel
  have shallow : Request.newerDialect.depth ≤ Request.depthLimit := by decide +kernel
  have decoded := (Request.decode_encode_iff countable).mpr shallow
  have breaks : Request.newerDialect.respond = .error (.dialect ⟨"a.proto", "proto4"⟩) := rfl
  refine ⟨decoded, ?_, fun outcome promised => ?_⟩
  · rw [run_eq_settle rfl rfl, settle_of_breakdown decoded breaks]
  · have broken := Request.respond_eq_error_iff_breaksDown.mp breaks
    exact (promises_iff.mp promised).2 _ _ decoded broken

end RpcProxy.CommandLine

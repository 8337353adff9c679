import RpcProxy.Descriptor.Read
import RpcProxy.Response.Wire
import RpcProxy.Save

/-!
# The command line

The program answers one request, from its standard input or a file, and writes the response to its
standard output or saves the files of the response below a directory. Arguments are taken strictly
in order: the first that asks for help or the version, or that is wrong, decides. What a call does
is decided here; the surroundings have a file system and an input to read from, and carry out the
report.
-/

namespace RpcProxy.CommandLine

/-- What a call is asked to do. -/
structure Invocation where
  /-- A file to read the request from. -/
  requestFile : Option String := none
  /-- A directory to save the generated files in. -/
  outputDirectory : Option String := none
  verbose : Bool := false
deriving DecidableEq, Repr

/-- What the arguments of a call ask for. -/
inductive Command
  | help
  | version
  | run (invocation : Invocation)
  /-- Something is wrong with the arguments. -/
  | misuse
deriving DecidableEq, Repr

/-! ### Arguments -/

inductive ValueOption
  | requestFile
  | outputDirectory
deriving DecidableEq, Repr

namespace Invocation

def has (invocation : Invocation) : ValueOption → Bool
  | .requestFile => invocation.requestFile.isSome
  | .outputDirectory => invocation.outputDirectory.isSome

/-- Gives an option its value. Neither an empty value nor a second one is accepted. -/
def give? (invocation : Invocation) (option : ValueOption) (value : String) : Option Invocation :=
  if value = "" ∨ invocation.has option then none
  else
    match option with
    | .requestFile => some { invocation with requestFile := some value }
    | .outputDirectory => some { invocation with outputDirectory := some value }

/-- Asks for verbose output, which can be done once. -/
def makeVerbose? (invocation : Invocation) : Option Invocation :=
  if invocation.verbose then none else some { invocation with verbose := true }

end Invocation

inductive Effect
  | continue (invocation : Invocation)
  /-- The next argument is the value of an option. -/
  | await (invocation : Invocation) (option : ValueOption)
  | stop (command : Command)
deriving DecidableEq, Repr

/-- Goes on with an invocation, or reports misuse. -/
def Effect.ofOption : Option Invocation → Effect
  | some invocation => .continue invocation
  | none => .stop .misuse

/-- The effect of an argument of several options of one letter each. The letters after one that
takes a value are its value, with or without an equals sign. -/
def letterEffect (invocation : Invocation) : List Char → Effect
  | [] => .continue invocation
  | 'h' :: _ => .stop .help
  | 'V' :: _ => .stop .version
  | 'v' :: rest =>
    match invocation.makeVerbose? with
    | some invocation => letterEffect invocation rest
    | none => .stop .misuse
  | 'o' :: [] => .await invocation .outputDirectory
  | 'o' :: '=' :: value => .ofOption (invocation.give? .outputDirectory (String.ofList value))
  | 'o' :: value => .ofOption (invocation.give? .outputDirectory (String.ofList value))
  | _ => .stop .misuse

/-- The effect of an option with a long name, given without its dashes. -/
def nameEffect (invocation : Invocation) (text : String) : Effect :=
  match Text.cutFirst '=' text with
  | some ("request", value) => .ofOption (invocation.give? .requestFile value)
  | some ("output-dir", value) => .ofOption (invocation.give? .outputDirectory value)
  | some _ => .stop .misuse
  | none =>
    if text = "request" then .await invocation .requestFile
    else if text = "output-dir" then .await invocation .outputDirectory
    else if text = "verbose" then .ofOption invocation.makeVerbose?
    else if text = "help" then .stop .help
    else if text = "version" then .stop .version
    else .stop .misuse

/-- The effect of an argument that is no value of an option. -/
def argumentEffect (invocation : Invocation) (argument : String) : Effect :=
  match argument.toList with
  | '-' :: '-' :: name => nameEffect invocation (String.ofList name)
  | '-' :: letter :: letters => letterEffect invocation (letter :: letters)
  | _ => .stop .misuse

/-- Whether an argument can be the value of the option before it. -/
def isValue (argument : String) : Bool :=
  argument == "-" || argument.toList.head? != some '-'

/-- Takes arguments in order, after an option that still needs its value or after none. Two dashes
end the options, and nothing may follow them. -/
def parseFrom (invocation : Invocation) :
    (awaiting : Option ValueOption) → List String → Command
  | none, [] => .run invocation
  | some _, [] => .misuse
  | some option, argument :: rest =>
    if isValue argument then
      match invocation.give? option argument with
      | some invocation => parseFrom invocation none rest
      | none => .misuse
    else .misuse
  | none, argument :: rest =>
    if argument = "--" then
      if rest.isEmpty then .run invocation else .misuse
    else
      match argumentEffect invocation argument with
      | .continue invocation => parseFrom invocation none rest
      | .await invocation option => parseFrom invocation (some option) rest
      | .stop command => command

def parse (arguments : List String) : Command := parseFrom {} none arguments

/-! ### Texts -/

def programName : String := "protoc-gen-grpcproxy"

def versionText : String := programName ++ " 0.2.0\n"

def usageText : String :=
  "error: invalid arguments\n\nUsage: " ++ programName ++ " [OPTIONS]"

def helpText : String := String.join <| [
  "Generate gRPC service proxies for Go (protoc plugin)",
  "",
  "Usage: protoc-gen-grpcproxy [OPTIONS]",
  "",
  "Options:",
  "      --request <REQUEST>        Read the CodeGeneratorRequest from a file instead of stdin",
  "  -o, --output-dir <OUTPUT_DIR>  Write the generated files to a directory instead of emitting"
    ++ " a CodeGeneratorResponse on stdout",
  "  -v, --verbose                  Enable verbose output",
  "  -h, --help                     Print help",
  "  -V, --version                  Print version",
  "",
  "EXAMPLES:",
  "  # Run through protoc",
  "  protoc --go_out=. --go-grpc_out=. --grpcproxy_out=. helloworld.proto",
  "",
  "  # Standalone package, custom output directory",
  "  protoc --grpcproxy_out=. --grpcproxy_opt=standalone=true,out_gopath=gen helloworld.proto",
  "",
  "  # Replay a captured request without protoc",
  "  protoc-gen-grpcproxy --request request.bin --output-dir ./out"].map (· ++ "\n")

/-! ### Answers -/

/-- Why a call fails. -/
inductive Trouble
  | unreadable (file : String) (error : SystemError)
  | undecodable (error : Wire.DecodeError)
  /-- The response to be saved has an error. -/
  | refused (text : String)
  | unsaved (directory : String) (error : SaveError)
deriving DecidableEq, Repr

/-- The text of a failure. An error of the system is also given as the cause of the error it is part
of. -/
def Trouble.message : Trouble → String
  | unreadable file error => "Failed to read request file " ++ file ++ ": " ++ error.message
  | undecodable error => (Failure.decode error).message
  | refused text => text
  | unsaved directory (.system error) =>
    "Failed to write to " ++ directory ++ ": " ++ (SaveError.system error).message ++ ": "
      ++ error.message
  | unsaved directory error => "Failed to write to " ++ directory ++ ": " ++ error.message

def Trouble.line (trouble : Trouble) : String := programName ++ ": " ++ trouble.message ++ "\n"

/-- The line that reports a file that has been saved. -/
def savedLine (directory name : String) : String := "✓ " ++ directory ++ "/" ++ name ++ "\n"

/-- What is to be done with a response. -/
inductive Delivery
  | emit (bytes : List UInt8)
  | save (directory : String) (files : List ResponseFile)
deriving DecidableEq, Repr

/-- What an invocation does with a response. Without a directory to save in, a response is written
as it is, whether it has an error or not. -/
def Invocation.deliver (invocation : Invocation) (response : Response) : Except Trouble Delivery :=
  match invocation.outputDirectory with
  | none => .ok (.emit response.encode)
  | some directory =>
    match response.error with
    | some text => .error (.refused text)
    | none => .ok (.save directory response.files)

/-- What an invocation does with the bytes of a request. -/
def Invocation.answer (invocation : Invocation) (bytes : List UInt8) :
    Except Breakdown (Except Trouble Delivery) :=
  match Request.decode bytes with
  | .error error => .ok (.error (.undecodable error))
  | .ok request => do
    let response ← request.respond
    return invocation.deliver response

/-- What a call reports. The error output is not stated after misuse and after a run that ended
without a response; it has a remark then. -/
structure Report where
  exitCode : Nat
  output : List UInt8 := []
  errorText : Option String := some ""
  remark : String := ""
deriving DecidableEq

namespace Report

def failed (trouble : Trouble) : Report where
  exitCode := 1
  errorText := some trouble.line

def printed (text : String) : Report where
  exitCode := 0
  output := Wire.utf8 text

/-- The report of a call that ends without saying more. -/
def ended (exitCode : Nat) (remark : String) : Report where
  exitCode := exitCode
  errorText := none
  remark := remark

end Report

section Surroundings

variable {m : Type → Type} [Monad m] (system : FileSystem m)

/-- Reads the bytes of the request an invocation is to answer. -/
def Invocation.readRequest (input : m (List UInt8)) (invocation : Invocation) :
    ExceptT Trouble m (List UInt8) :=
  match invocation.requestFile with
  | none => .lift input
  | some file => (system.readFile ⟨file⟩).adapt (.unreadable file)

def Delivery.perform : Delivery → ExceptT Trouble m Report
  | emit bytes => return { exitCode := 0, output := bytes }
  | save directory files => do
    let names ← (system.saveFiles directory files).adapt (.unsaved directory)
    return { exitCode := 0, errorText := some (String.join (names.map (savedLine directory))) }

def Invocation.perform (input : m (List UInt8)) (invocation : Invocation) :
    ExceptT Trouble m Report := do
  match invocation.answer (← invocation.readRequest system input) with
  | .error cause => return .ended 101 cause.message
  | .ok (.error trouble) => throw trouble
  | .ok (.ok delivery) => delivery.perform system

/-- Does what the arguments of a call ask for. -/
def call (input : m (List UInt8)) (arguments : List String) : m Report :=
  match parse arguments with
  | .help => return .printed helpText
  | .version => return .printed versionText
  | .misuse => return .ended 2 usageText
  | .run invocation => do
    match ← (invocation.perform system input).run with
    | .ok report => return report
    | .error trouble => return .failed trouble

end Surroundings

/-- What is left of a call on a tree of files: what it reports, and the files. -/
structure Outcome where
  exitCode : Nat
  output : List UInt8 := []
  errorText : Option String := some ""
  tree : FileTree
deriving DecidableEq

/-- The outcome of a call with the given arguments and input on a tree of files. -/
def run (arguments : List String) (tree : FileTree) (input : List UInt8) : Outcome :=
  let (report, later) := (call FileTree.system (pure input) arguments).run tree
  ⟨report.exitCode, report.output, report.errorText, later⟩

end RpcProxy.CommandLine

import CheckIn.Command
import CheckIn.CommandLine.Parser
import CheckIn.DotEnv
import CheckIn.Log.Filter

/-! The whole program, from arguments to an exit status. Wrong arguments end it before it has
looked at anything else but the number of its threads. -/
namespace CheckIn.Program

/-- How a run ends: its status, and what it says about it on the error stream. The status of a run
that is cut off is the number of the signal that ends it above 128. -/
structure Ending where
  status : Nat
  complaint : String
  deriving DecidableEq, Repr

def done : Ending := ⟨0, ""⟩

def indented (blanks : String) (text : String) : String :=
  ("\n" ++ blanks).intercalate ((Text.fields '\n' text.toList).map String.ofList)

def causeLines : List String → String
  | [cause] => "\n    " ++ indented "    " cause
  | causes => String.join (causes.zipIdx.map fun (cause, n) =>
      let number := toString n
      "\n" ++ String.ofList (List.replicate (5 - number.length) ' ') ++ number ++ ": " ++
        indented "       " cause)

def problemText (p : Command.Problem) : String :=
  "Error: " ++ p.message ++ "\n\nCaused by:" ++ causeLines p.causes ++ "\n"

def faultText (f : CommandLine.Fault) : String :=
  f.message ++ "\n\n" ++ CommandLine.usageText ++ "\nFor more information, try '--help'.\n"

def filterVariable : String := "RUST_LOG"

/-- A host on which only the events that a filter allows are logged. -/
def filtered [Monad m] (f : Log.Filter) (host : Host m) : Host m :=
  { host with log := fun e => if f.allows e then host.log e else pure () }

def abortSignal : Nat := 6

def cutOff (complaint : String) : Ending := ⟨128 + abortSignal, complaint⟩

def threadsVariable : String := "TOKIO_WORKER_THREADS"

/-- What can be wrong with the number of threads that a variable asks for. -/
inductive ThreadsFault where
  | noText (value : Text.Raw)
  | noNumber (value : String) (cause : Text.Numeral.Fault)
  | zero
  deriving DecidableEq

def ThreadsFault.message (fault : ThreadsFault) : String :=
  Text.quoted threadsVariable ++ match fault with
    | noText value => " must be valid unicode, error: " ++ value.quoted
    | noNumber value cause => " must be usize, error: " ++ cause.message ++ ", value: " ++ value
    | zero => " cannot be set to 0"

def threadsFault? (env : Environment) : Option ThreadsFault :=
  match (env.value? threadsVariable).map Text.Raw.ofBytes with
  | none => none
  | some (.bytes bs noText) => some (.noText (.bytes bs noText))
  | some (.text value) => match Text.Numeral.readUInt64 value with
    | .error cause => some (.noNumber value cause)
    | .ok n => if n = 0 then some .zero else none

variable {m : Type → Type} [Monad m] (host : Host m)

def stop : CommandLine.Stop → m Ending
  | .help => do
    host.print CommandLine.helpText
    pure done
  | .version => do
    host.print CommandLine.versionText
    pure done
  | .fault cause => pure ⟨2, faultText cause⟩

def invoke (i : Invocation) : m Ending := do
  match ← DotEnv.load host.files host.workingDirectory host.environment with
  | .error unfit => pure (cutOff unfit.message)
  | .ok env =>
    let filter := Log.filterOf (env.text? filterVariable) i.verbosity
    match ← Command.run (filtered filter host) env i with
    | .ok () => pure done
    | .error problem => pure ⟨1, problemText problem⟩

/-- Runs the program on the arguments after its name, as the system hands them over. -/
def runRaw (arguments : List Text.Raw) : m Ending :=
  match CommandLine.parseRaw arguments with
  | .ok i => invoke host i
  | .error s => stop host s

/-- Runs the program on arguments that are texts. -/
def run (arguments : List String) : m Ending := runRaw host (arguments.map .text)

/-- Runs the whole process, which needs its threads first. -/
def process (arguments : List Text.Raw) : m Ending :=
  match threadsFault? host.environment with
  | some fault => pure (cutOff fault.message)
  | none => runRaw host arguments

end CheckIn.Program

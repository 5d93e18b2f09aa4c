import CheckIn.CommandLine
import CheckIn.Exchange
import CheckIn.Host
import CheckIn.Report
import CheckIn.Settings.Loading

/-! One heartbeat as a command: load the settings, say what is being sent, exchange, report. Only
settings that cannot be loaded make the command fail; whatever becomes of the exchange is its
report. -/
namespace CheckIn

structure Command.Problem where
  path : Option Text.Raw
  failure : Failure
  deriving Repr

namespace Command

def Problem.message (p : Problem) : String :=
  match p.path with
  | some path => "Failed to load configuration from " ++ path.quoted
  | none => "Failed to load configuration"

def Problem.causes (p : Problem) : List String := p.failure.message :: p.failure.causes

/-- Who the heartbeat is from: what the command line says, or else the settings. -/
def heartbeat (i : Invocation) (s : Settings) : Heartbeat.Request :=
  ⟨i.deviceId.getD s.deviceId, i.currentFirmware.getD s.currentFirmware⟩

def millisecondsPerSecond : Nat := 1000

/-- When the caller loses patience. -/
def patience (i : Invocation) (now : Nat) : Option Nat :=
  i.timeoutSeconds.map fun s => now + s.toNat * millisecondsPerSecond

variable {m : Type → Type} [Monad m] (host : Host m)

/-- The outcome of an exchange, or of one that the caller did not wait for. -/
def conclude (i : Invocation) : Option Outcome → m Outcome
  | some outcome => pure outcome
  | none => do
    let seconds := i.timeoutSeconds.getD 0
    host.log (.deadlineExpired seconds)
    pure (.transportError ("no reply within " ++ toString seconds.toNat ++ "s"))

def exchange (i : Invocation) (s : Settings) : m Outcome := do
  let now ← host.wire.now
  let setup := host.udp s.responseTimeoutMs.toNat (patience i now)
  let (outcome, _) ← (Exchange.run (Udp.site setup) i.host i.port (heartbeat i s)).run none
  conclude host i outcome

/-- The heartbeat itself, with settings that can be used. -/
def perform (i : Invocation) (s : Settings) : m Unit := do
  host.print (Report.banner (Exchange.endpoint i.host i.port) (heartbeat i s))
  host.print (Report.sending (← host.clock) (heartbeat i s))
  host.print (Report.outcome (← exchange host i s))

def run (env : Environment) (i : Invocation) : m (Except Problem Unit) := do
  match ← Settings.load host.files host.log env host.accountHome i.configPath with
  | .error cause => pure (.error ⟨i.configPath, cause.failure⟩)
  | .ok s => do
    perform host i s
    pure (.ok ())

end Command

end CheckIn

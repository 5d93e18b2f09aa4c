import CheckIn.Heartbeat.Request
import CheckIn.Outcome
import CheckIn.Transport.Guard

/-! One heartbeat: open a context, post the request, judge the reply, release the context. Every
failure becomes an outcome, and a caller that loses patience leaves by the guard. -/
namespace CheckIn.Exchange

open Transport

def heartbeatPath : String := "hb"

def endpoint (host : String) (port : UInt16) : Endpoint := .make host port heartbeatPath

variable {m : Type → Type} [Monad m] (site : Site m)

def judge : Except Fault Transport.Response → m Outcome
  | .ok response => do
    (Outcome.eventsOfResponse response).forM site.log
    pure (.ofResponse response)
  | .error cause => do
    site.log (.requestFailed cause)
    pure (.transportError cause.message)

def settle (outcome : Outcome) (release : Except Fault Unit) : m Outcome := do
  match release with
  | .ok () => pure ()
  | .error cause => site.log (.releaseFailed cause)
  let outcome := outcome.afterRelease release
  site.log (.finished outcome.kind)
  pure outcome

/-- The part of an exchange that holds a context. -/
def converse (r : Transport.Request) : m (Option Outcome) := do
  match ← Guard.holding.request site r with
  | none => do
    Guard.holding.drop site
    pure none
  | some reply => do
    let outcome ← judge site reply
    let release ← Guard.holding.close site
    some <$> settle site outcome release

/-- The outcome, or nothing if the caller lost patience before there was one. -/
def run (host : String) (port : UInt16) (heartbeat : Heartbeat.Request) : m (Option Outcome) := do
  let payload := heartbeat.encode
  let target := endpoint host port
  site.log (.sending heartbeat.deviceId heartbeat.currentFirmware target.uri)
  site.log (.encoded payload.length)
  match ← site.transport.openContext target with
  | none => pure none
  | some (.error cause) => do
    site.log (.openFailed target.uri cause)
    pure (some (.transportError ("failed to create transport context: " ++ cause.message)))
  | some (.ok ()) => converse site (.post target payload)

end CheckIn.Exchange

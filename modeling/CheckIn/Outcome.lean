import CheckIn.Log.Event
import CheckIn.Text.Utf8

/-! What became of one heartbeat. Only a 2.05 whose body is a response map is a success; any other
code is the server's refusal, and all else that can happen is a failure of the transport. -/
namespace CheckIn

inductive Outcome where
  | success (response : Heartbeat.Response)
  | protocolError (code : Coap.Code) (body : Option String)
  | transportError (description : String)
  deriving Repr

namespace Outcome

def isSuccess : Outcome → Bool
  | success _ => true
  | _ => false

def isTransportError : Outcome → Bool
  | transportError _ => true
  | _ => false

def kind : Outcome → String
  | success _ => "success"
  | protocolError .. => "protocol_error"
  | transportError _ => "transport_error"

/-- The body of a refusal as text; an empty one is none. -/
def bodyText (payload : List UInt8) : Option String :=
  if payload.isEmpty then none else some (String.ofList (Text.Utf8.lossy payload))

def numberText : Option Int64 → String
  | none => "None"
  | some n => "Some(" ++ toString n.toInt ++ ")"

def display : Outcome → String
  | success r =>
    "success (desired_firmware=" ++ numberText (Heartbeat.int64? r.desiredFirmware) ++
      ", checkin_interval=" ++ numberText (Heartbeat.int64? r.checkinInterval) ++ ")"
  | protocolError code (some body) => "protocol error " ++ code.display ++ ": " ++ body
  | protocolError code none => "protocol error " ++ code.display
  | transportError description => "transport error: " ++ description

/-- Equality with floats compared as numbers. -/
def same : Outcome → Outcome → Bool
  | success a, success b => a.same b
  | protocolError c x, protocolError d y => c == d && x == y
  | transportError x, transportError y => x == y
  | _, _ => false

def ofResponse (r : Transport.Response) : Outcome :=
  if r.code.isContent then
    match Heartbeat.Response.decode r.payload with
    | .ok response => success response
    | .error cause => transportError cause.message
  else protocolError r.code (bodyText r.payload)

/-- What is logged about a delivered response. -/
def eventsOfResponse (r : Transport.Response) : List Log.Event :=
  if r.code.isContent then
    match Heartbeat.Response.decode r.payload with
    | .ok response => if 0 < response.ignoredKeys then [.ignoredKeys response.ignoredKeys] else []
    | .error cause => [.undecodable cause]
  else [.rejected r.code r.payload.length]

/-- A context that cannot be released spoils every outcome but a transport error. -/
def afterRelease (outcome : Outcome) : Except Transport.Fault Unit → Outcome
  | .ok () => outcome
  | .error cause =>
    if outcome.isTransportError then outcome
    else transportError ("failed to release transport context: " ++ cause.message)

end Outcome

end CheckIn

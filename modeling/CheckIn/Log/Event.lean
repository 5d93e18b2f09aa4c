import CheckIn.Heartbeat.Response
import CheckIn.Text.Raw
import CheckIn.Transport.Basic

/-! What the program logs. An event is data: its level, the component that raised it and its words
follow from what happened, and nothing else is ever logged. -/
namespace CheckIn.Log

inductive Level where
  | error | warn | info | debug | trace
  deriving DecidableEq, Repr

namespace Level

def name : Level → String
  | error => "ERROR"
  | warn => "WARN"
  | info => "INFO"
  | debug => "DEBUG"
  | trace => "TRACE"

def rank : Level → Nat
  | error => 1
  | warn => 2
  | info => 3
  | debug => 4
  | trace => 5

end Level

inductive Source where
  | exchange | guard | socket | settings | command
  deriving DecidableEq, Repr

/-- The name that log filters know a component by. -/
def Source.target : Source → String
  | .exchange => "coap_heartbeat::exchange::client"
  | .guard => "coap_heartbeat::transport::context"
  | .socket => "coap_heartbeat::transport::udp"
  | .settings => "coap_heartbeat::config"
  | .command => "coap_heartbeat::cli::heartbeat"

inductive Event where
  | sending (deviceId currentFirmware : Int64) (uri : String)
  | encoded (bytes : Nat)
  | openFailed (uri : String) (cause : Transport.Fault)
  | requestFailed (cause : Transport.Fault)
  | rejected (code : Coap.Code) (bytes : Nat)
  | undecodable (cause : Heartbeat.Response.Fault)
  | ignoredKeys (count : Nat)
  | releaseFailed (cause : Transport.Fault)
  | finished (kind : String)
  | releasing
  | releasingEarly
  | earlyReleaseFailed (cause : Transport.Fault)
  | opened (peer : Net.SocketAddress)
  | requesting (method : Coap.Method) (uri : String) (peer : Net.SocketAddress) (bytes : Nat)
  | received (code : Coap.Code) (bytes : Nat)
  | closed (peer : Net.SocketAddress)
  | settingsLoaded (path : Text.Raw)
  | settingsAbsent (path : Text.Raw)
  | deadlineExpired (seconds : UInt64)
  deriving Repr

/-- A named value after the message. A label is quoted where lines are read by people. -/
structure Field where
  name : String
  text : String
  isLabel : Bool
  deriving DecidableEq, Repr

def Field.shown (name text : String) : Field := ⟨name, text, false⟩
def Field.number (name : String) (n : Int) : Field := ⟨name, toString n, false⟩
def Field.label (name text : String) : Field := ⟨name, text, true⟩

namespace Event

def level : Event → Level
  | sending .. | finished .. | requesting .. => .info
  | openFailed .. | requestFailed .. | undecodable .. | releaseFailed .. => .error
  | rejected .. | earlyReleaseFailed .. | deadlineExpired .. => .warn
  | encoded .. | ignoredKeys .. | releasing | releasingEarly | opened .. | received .. | closed ..
  | settingsLoaded .. | settingsAbsent .. => .debug

def source : Event → Source
  | sending .. | encoded .. | openFailed .. | requestFailed .. | rejected .. | undecodable ..
  | ignoredKeys .. | releaseFailed .. | finished .. => .exchange
  | releasing | releasingEarly | earlyReleaseFailed .. => .guard
  | opened .. | requesting .. | received .. | closed .. => .socket
  | settingsLoaded .. | settingsAbsent .. => .settings
  | deadlineExpired .. => .command

def message : Event → String
  | sending .. => "Sending heartbeat"
  | encoded .. => "Encoded heartbeat request"
  | openFailed _ cause => "Failed to create transport context: " ++ cause.message
  | requestFailed cause => "Heartbeat request failed: " ++ cause.message
  | rejected .. => "Heartbeat rejected"
  | undecodable cause => "Failed to decode heartbeat response: " ++ cause.message
  | ignoredKeys _ => "Ignored unknown response keys"
  | releaseFailed cause => "Failed to release transport context: " ++ cause.message
  | finished _ => "Heartbeat exchange finished"
  | releasing => "Releasing transport context"
  | releasingEarly => "Releasing transport context on early exit"
  | earlyReleaseFailed cause => "Failed to release transport context: " ++ cause.message
  | opened _ => "Opened CoAP transport context"
  | requesting .. => "Sending CoAP request"
  | received .. => "Received CoAP response"
  | closed _ => "Closed CoAP transport context"
  | settingsLoaded path => "Loaded config from " ++ path.quoted
  | settingsAbsent path => "No config file at " ++ path.quoted ++ ", using defaults"
  | deadlineExpired _ => "Heartbeat deadline expired"

def fields : Event → List Field
  | sending deviceId currentFirmware uri =>
    [.number "device_id" deviceId.toInt, .number "current_firmware" currentFirmware.toInt,
      .shown "uri" uri]
  | encoded bytes => [.number "bytes" bytes]
  | openFailed uri _ => [.shown "uri" uri]
  | rejected code bytes => [.shown "code" code.display, .number "bytes" bytes]
  | ignoredKeys count => [.number "ignored" count]
  | finished kind => [.label "outcome" kind]
  | opened peer | closed peer => [.shown "peer" peer.display]
  | requesting method uri peer bytes =>
    [.shown "method" method.name, .shown "uri" uri, .shown "peer" peer.display,
      .number "bytes" bytes]
  | received code bytes => [.shown "code" code.display, .number "bytes" bytes]
  | deadlineExpired seconds => [.number "timeout_secs" seconds.toNat]
  | _ => []

def withFields (render : Field → String) (e : Event) : String :=
  e.message ++ String.join (e.fields.map fun f => " " ++ f.name ++ "=" ++ render f)

/-- Level, message and fields, labels bare. -/
def summary (e : Event) : String := e.level.name ++ " " ++ e.withFields Field.text

/-- Level, target, message and fields, labels quoted. -/
def line (e : Event) : String :=
  e.level.name ++ " " ++ e.source.target ++ ": " ++
    e.withFields fun f => if f.isLabel then Text.quoted f.text else f.text

end Event

end CheckIn.Log

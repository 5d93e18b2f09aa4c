import CheckIn.Environment
import CheckIn.Failure
import CheckIn.Json.Record
import CheckIn.Log.Event
import CheckIn.Text.Blank

/-! What can be set besides the command line: how long a request may take and who the device is
unless told. Built-in values are overlaid by a JSON file and then by variables. -/
namespace CheckIn

structure Settings where
  responseTimeoutMs : UInt64
  deviceId : Int64
  currentFirmware : Int64
  deriving DecidableEq, Repr

namespace Settings

def default : Settings := ⟨93000, 1001, 100⟩

/-- The response timeout as whole seconds and nanoseconds. -/
def timeoutSeconds (s : Settings) : Nat := s.responseTimeoutMs.toNat / 1000
def timeoutNanoseconds (s : Settings) : Nat := s.responseTimeoutMs.toNat % 1000 * 1000000

def unsignedField (name : String) (put : UInt64 → σ → σ) : Json.FieldReader σ :=
  ⟨name, fun s c => do
    let (n, c) ← Json.integer 0 Text.Numeral.uint64Max "u64" c
    .ok (put (UInt64.ofNat n.toNat) s, c)⟩

def signedField (name : String) (put : Int64 → σ → σ) : Json.FieldReader σ :=
  ⟨name, fun s c => do
    let (n, c) ← Json.integer Text.Numeral.int64Size (Text.Numeral.int64Size - 1) "i64" c
    .ok (put (Int64.ofInt n) s, c)⟩

def responseTimeoutField : Json.FieldReader Settings :=
  unsignedField "response_timeout_ms" fun n s => { s with responseTimeoutMs := n }

def deviceIdField : Json.FieldReader Settings :=
  signedField "device_id" fun n s => { s with deviceId := n }

def currentFirmwareField : Json.FieldReader Settings :=
  signedField "current_firmware" fun n s => { s with currentFirmware := n }

def transportField : Json.FieldReader Settings :=
  ⟨"transport", Json.record "struct TransportConfig" [responseTimeoutField]⟩

def defaultsField : Json.FieldReader Settings :=
  ⟨"defaults", Json.record "struct DeviceDefaults" [deviceIdField, currentFirmwareField]⟩

def fields : List (Json.FieldReader Settings) := [transportField, defaultsField]

/-- The built-in values overlaid by a JSON text. -/
def ofJson (bs : List UInt8) : Except Json.Fault Settings :=
  Json.document (Json.record "struct Config" fields default) bs

def toJson (s : Settings) : String :=
  "\x7b\"transport\":\x7b\"response_timeout_ms\":" ++ toString s.responseTimeoutMs.toNat ++
    "\x7d,\"defaults\":\x7b\"device_id\":" ++ toString s.deviceId.toInt ++
    ",\"current_firmware\":" ++ toString s.currentFirmware.toInt ++ "\x7d\x7d"

inductive Fault where
  | unreadable (path : String) (cause : Net.IoFault)
  | json (cause : Json.Fault)
  | invalidVariable (name raw : String) (cause : Text.Numeral.Fault)
  | zeroTimeout
  deriving DecidableEq, Repr

def Fault.failure : Fault → Failure
  | .unreadable path cause =>
    .configuration ("failed to read " ++ path ++ ": " ++ cause.message)
  | .json cause => .json cause
  | .invalidVariable name raw cause =>
    .configuration ("invalid " ++ name ++ "=" ++ Text.quoted raw ++ ": " ++ cause.message)
  | .zeroTimeout =>
    .configuration "transport.response_timeout_ms must be greater than zero"

/-- A setting that a variable overrides. -/
structure Override where
  variableName : String
  put : String → Settings → Except Text.Numeral.Fault Settings

def trimmed (raw : String) : String := String.ofList (Text.trim raw.toList)

/-- A setting whose new value is what the variable reads as without the blanks around it. -/
def overriding (variableName : String) (read : String → Except Text.Numeral.Fault α)
    (put : α → Settings → Settings) : Override :=
  ⟨variableName, fun raw s => (read (trimmed raw)).map fun a => put a s⟩

def overrides : List Override := [
  overriding "COAP_HEARTBEAT_RESPONSE_TIMEOUT_MS" Text.Numeral.readUInt64
    fun n s => { s with responseTimeoutMs := n },
  overriding "COAP_HEARTBEAT_DEVICE_ID" Text.Numeral.readInt64
    fun n s => { s with deviceId := n },
  overriding "COAP_HEARTBEAT_CURRENT_FIRMWARE" Text.Numeral.readInt64
    fun n s => { s with currentFirmware := n }]

/-- Takes over the variables that are set, in order, up to the first that does not read. What was
taken over before it stays. -/
def overrideFrom (lookup : String → Option String) :
    List Override → Settings → Settings × Except Fault Unit
  | [], s => (s, .ok ())
  | o :: os, s => match lookup o.variableName with
    | none => overrideFrom lookup os s
    | some raw => match o.put raw s with
      | .ok s => overrideFrom lookup os s
      | .error cause => (s, .error (.invalidVariable o.variableName raw cause))

def applyOverrides (lookup : String → Option String) (s : Settings) :
    Settings × Except Fault Unit := overrideFrom lookup overrides s

def validate (s : Settings) : Except Fault Unit :=
  if s.responseTimeoutMs = 0 then .error .zeroTimeout else .ok ()

def settle (env : Environment) (s : Settings) : Except Fault Settings := do
  let (s, verdict) := s.applyOverrides env.text?
  verdict
  s.validate
  .ok s

end Settings

end CheckIn

import CheckIn.Cbor.Labelled
import CheckIn.Heartbeat.Request
import CheckIn.Outcome

/-! What a run prints for people: a banner, what is being sent, and the outcome. Text values of the
server stand in a report quoted; text keys and the bodies of refusals stand as they came. -/
namespace CheckIn.Report

def bannerRule : String := String.ofList (List.replicate 50 '=')

def banner (e : Endpoint) (r : Heartbeat.Request) : String :=
  "CoAP Device Simulator\nTarget: " ++ e.uri ++ "\nDevice ID: " ++ toString r.deviceId.toInt ++
    "\nCurrent Firmware: " ++ toString r.currentFirmware.toInt ++ "\n" ++ bannerRule ++ "\n"

/-- `clock` is the time of day as it stands between the brackets. -/
def sending (clock : String) (r : Heartbeat.Request) : String :=
  let id := toString r.deviceId.toInt
  let firmware := toString r.currentFirmware.toInt
  "[" ++ clock ++ "] Sending heartbeat for device " ++ id ++ " with firmware " ++ firmware ++
    "\nPayload: \x7bdevice_id: " ++ id ++ ", current_firmware: " ++ firmware ++
    ", protocol_version: " ++ toString Heartbeat.protocolVersion ++ "\x7d\n"

/-- Scalars as they are, texts quoted, all else labelled. -/
def describe : Cbor.Value → String
  | .integer n => toString n
  | .text s => Text.quoted s
  | .bool b => if b then "true" else "false"
  | .float word => Cbor.floatText .plain word
  | v => v.labelled

def describeField : Option Cbor.Value → String
  | none => "none"
  | some v => describe v

def describeKey : Cbor.Value → String
  | .text s => s
  | v => describe v

def modeledItem (key : String) : Option Cbor.Value → List String
  | none => []
  | some v => [key ++ ": " ++ describe v]

def payloadItems (r : Heartbeat.Response) : List String :=
  modeledItem Heartbeat.desiredFirmwareKey r.desiredFirmware ++
    modeledItem Heartbeat.checkinIntervalKey r.checkinInterval ++
    r.extra.map fun e => describeKey e.1 ++ ": " ++ describe e.2

def outcome : Outcome → String
  | .success r =>
    "Response code: 2.05 Content\nResponse payload: \x7b" ++ Cbor.commaList (payloadItems r) ++
      "\x7d\nServer wants firmware version: " ++ describeField r.desiredFirmware ++
      "\nNext checkin in: " ++ describeField r.checkinInterval ++ " seconds\n"
  | .protocolError code body =>
    "Response code: " ++ code.display ++ "\nError response: " ++ code.display ++ "\n" ++
      match body with
      | some body => "Error payload: " ++ body ++ "\n"
      | none => ""
  | .transportError description => "Error sending heartbeat: " ++ description ++ "\n"

end CheckIn.Report

import CheckIn.Cbor.Encoder

/-! The heartbeat that a device sends: who it is and what it runs, as a CBOR map of three entries
in a fixed order. -/
namespace CheckIn.Heartbeat

/-- Version of the exchange that every request announces. -/
def protocolVersion : Nat := 1

structure Request where
  deviceId : Int64
  currentFirmware : Int64
  deriving DecidableEq, Repr

def Request.toValue (r : Request) : Cbor.Value := .map [
  (.text "device_id", .integer r.deviceId.toInt),
  (.text "current_firmware", .integer r.currentFirmware.toInt),
  (.text "protocol_version", .integer protocolVersion)]

def Request.encode (r : Request) : List UInt8 := r.toValue.encode

end CheckIn.Heartbeat

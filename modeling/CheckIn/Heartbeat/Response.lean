import CheckIn.Cbor.Decoder

/-! The answer to a heartbeat. Two entries of the map are modeled: the firmware that the server
wants and the seconds to the next heartbeat. The last entry of a modeled key decides, a null
stands for absence, and every entry of another key is kept as it came. -/
namespace CheckIn.Heartbeat

open Cbor

structure Response where
  desiredFirmware : Option Value
  checkinInterval : Option Value
  extra : List Entry
  deriving Repr

def desiredFirmwareKey : String := "desired_firmware"
def checkinIntervalKey : String := "checkin_interval"

def hasKey (key : String) (e : Entry) : Bool :=
  match e.1 with
  | .text s => s == key
  | _ => false

def Value.present : Value → Option Value
  | .null => none
  | v => some v

/-- The response that entries make, one after another, where earlier ones have left something in the
two fields. -/
def Response.ofEntriesFrom (desiredFirmware checkinInterval : Option Value) :
    List Entry → Response
  | [] => ⟨desiredFirmware, checkinInterval, []⟩
  | e :: entries =>
    if hasKey desiredFirmwareKey e then
      ofEntriesFrom (Value.present e.2) checkinInterval entries
    else if hasKey checkinIntervalKey e then
      ofEntriesFrom desiredFirmware (Value.present e.2) entries
    else
      let later := ofEntriesFrom desiredFirmware checkinInterval entries
      { later with extra := e :: later.extra }

def Response.ofEntries (entries : List Entry) : Response := ofEntriesFrom none none entries

def Response.ignoredKeys (r : Response) : Nat := r.extra.length

def int64? : Option Value → Option Int64
  | some (.integer n) =>
    if -0x8000000000000000 ≤ n ∧ n < 0x8000000000000000 then some (Int64.ofInt n) else none
  | _ => none

inductive Response.Fault where
  | item (cause : Cbor.Fault)
  | notMap (kind : String)
  deriving Repr

def Response.Fault.reason : Response.Fault → String
  | .item cause => cause.message
  | .notMap kind => "expected a map, got " ++ kind

def Response.Fault.message (f : Response.Fault) : String := "decoding failed: " ++ f.reason

def Response.decode (bs : List UInt8) : Except Response.Fault Response :=
  match Cbor.decode bs with
  | .error cause => .error (.item cause)
  | .ok (.map entries) => .ok (.ofEntries entries)
  | .ok v => .error (.notMap v.kind)

def sameField : Option Value → Option Value → Bool
  | none, none => true
  | some a, some b => a.same b
  | _, _ => false

/-- Equality with floats compared as numbers; the order of the extra entries counts. -/
def Response.same (a b : Response) : Bool :=
  sameField a.desiredFirmware b.desiredFirmware &&
    sameField a.checkinInterval b.checkinInterval && sameEntries a.extra b.extra

end CheckIn.Heartbeat

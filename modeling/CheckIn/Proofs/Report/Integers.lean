import CheckIn.Outcome
import CheckIn.Proofs.Cbor.Decoding
import CheckIn.Proofs.Cbor.Encoding
import CheckIn.Proofs.Exchange.OutcomeLaw
import CheckIn.Proofs.Heartbeat.Meaning
import CheckIn.Report

/-! Integers from the wire to the report. Every encoding of an integer is read as that integer and
printed with all its digits; only the accessor of 64 bits narrows, and it gives nothing where the
number does not fit. -/
namespace CheckIn

namespace Cbor

/-- The bytes of an integer: a head of either major type, or a tag for a number in at most sixteen
bytes, zeros in front included. -/
inductive Encodes : Int → List UInt8 → Prop where
  | unsigned : AnyHead 0 n head → Encodes n head
  | negative : AnyHead 1 n head → Encodes (-1 - n) head
  | positiveBytes : AnyHead 6 2 tag → SmallBytes AnyHead data bs → spelled data < 2 ^ 64 →
      Encodes (spelled data) (tag ++ bs)
  | negativeBytes : AnyHead 6 3 tag → SmallBytes AnyHead data bs → spelled data < 2 ^ 64 →
      Encodes (-1 - spelled data) (tag ++ bs)

/-- An item that denotes an integer is an encoding of it, on whatever level it stands. -/
theorem item_integer_iff (levels : Nat) (n : Int) (bs : List UInt8) :
    Item AnyHead levels (.integer n) bs ↔ Encodes n bs := by
  constructor
  · intro item
    cases item with
    | unsigned head => exact .unsigned head
    | negative head => exact .negative head
    | simple head short known => cases known
    | bigNumber number tag small denoted =>
      cases denoted with
      | positive fits => exact .positiveBytes tag small fits
      | negative fits => exact .negativeBytes tag small fits
  · intro encodes
    cases encodes with
    | unsigned head => exact .unsigned head
    | negative head => exact .negative head
    | positiveBytes tag small fits => exact .bigNumber (.inl rfl) tag small (.positive fits)
    | negativeBytes tag small fits => exact .bigNumber (.inr rfl) tag small (.negative fits)

theorem AnyHead.lt {major n : Nat} {bs : List UInt8} (head : AnyHead major n bs) : n < 2 ^ 64 := by
  cases head with
  | direct few => omega
  | @following k tail width length =>
    have bound := spelled_lt tail
    rw [length] at bound
    match k, width with
    | 0, _ | 1, _ | 2, _ | 3, _ => omega

/-- The integers of 64 bits and a sign are those that have an encoding. -/
theorem exists_encodes_iff (n : Int) :
    (∃ bs, Encodes n bs) ↔ -0x10000000000000000 ≤ n ∧ n < 0x10000000000000000 := by
  constructor
  · rintro ⟨bs, encodes⟩
    cases encodes with
    | unsigned head | negative head =>
      have bound := head.lt
      omega
    | positiveBytes _ _ fits | negativeBytes _ _ fits => omega
  · rintro ⟨least, most⟩
    by_cases sign : 0 ≤ n
    · obtain ⟨m, rfl⟩ := Int.eq_ofNat_of_zero_le sign
      exact ⟨_, .unsigned (write_anyHead 0 m (by omega))⟩
    · obtain ⟨m, value⟩ := Int.eq_ofNat_of_zero_le (a := -1 - n) (by omega)
      obtain rfl : n = -1 - m := by omega
      exact ⟨_, .negative (write_anyHead 1 m (by omega))⟩

section

variable {H : HeadStyle} {levels : Nat}

theorem entries_append {front : List UInt8} (first : Entries H levels es front)
    (second : Entries H levels es' back) :
    Entries H levels (es ++ es') (front ++ back) := by
  induction es generalizing front with
  | nil =>
    cases first
    exact second
  | cons e es ih =>
    cases first with
    | cons key value rest =>
      have whole := Entries.cons key value (ih rest)
      rwa [← List.append_assoc] at whole

theorem entries_append_split (whole : Entries H levels (es ++ es') bs) :
    ∃ front back, bs = front ++ back ∧ Entries H levels es front ∧ Entries H levels es' back := by
  induction es generalizing bs with
  | nil => exact ⟨[], bs, rfl, .nil, whole⟩
  | cons e es ih =>
    cases whole with
    | cons key value rest =>
      obtain ⟨front, back, rfl, first, second⟩ := ih rest
      exact ⟨_, back, (List.append_assoc ..).symm, .cons key value first, second⟩

end

/-- Entries of which the last one under a key has these bytes for its value. -/
structure Around (key : String) (data : List UInt8) (before after : List Entry)
    (bs : List UInt8) : Prop where
  bytes : ∃ front name back, bs = front ++ (name ++ data ++ back) ∧
    Entries AnyHead 255 before front ∧ Item AnyHead 255 (.text key) name ∧
    Entries AnyHead 255 after back
  last : ∀ e ∈ after, e.1 ≠ .text key

/-- The bytes begin with a map whose last entry under a key has these bytes for its value. -/
inductive LastUnder (key : String) (data : List UInt8) : List UInt8 → Prop where
  | known {before after : List Entry} {head bs rest : List UInt8} :
      AnyHead 5 (before.length + (after.length + 1)) head → Around key data before after bs →
      LastUnder key data (head ++ bs ++ rest)
  | opened {before after : List Entry} {bs rest : List UInt8} :
      Around key data before after bs → LastUnder key data (opening 5 :: bs ++ [stop] ++ rest)

variable {key : String} {data body : List UInt8} {n : Int}

theorem Around.entries (around : Around key data before after bs) (encodes : Encodes n data) :
    Entries AnyHead 255 (before ++ (.text key, .integer n) :: after) bs := by
  obtain ⟨front, name, back, rfl, first, keyed, second⟩ := around.bytes
  have value := (item_integer_iff 255 n data).mpr encodes
  exact entries_append first (.cons keyed value second)

/-- A map whose last entry under a key carries an integer is read so. -/
theorem LastUnder.decode (carried : LastUnder key data body) (encodes : Encodes n data) :
    ∃ entries, decode body = .ok (.map entries) ∧
      Heartbeat.LastValue key entries (.integer n) := by
  cases carried with
  | @known before after head bs rest spelling around =>
    have item : Item AnyHead nestingLimit (.map (before ++ (.text key, .integer n) :: after))
        (head ++ bs) := by
      refine .map ?_ (around.entries encodes)
      rwa [List.length_append, List.length_cons]
    exact ⟨_, decode_of_item item rest, before, after, rfl, around.last⟩
  | @opened before after bs rest around =>
    have item : Item AnyHead nestingLimit (.map (before ++ (.text key, .integer n) :: after))
        (opening 5 :: bs ++ [stop]) := .openMap (around.entries encodes)
    exact ⟨_, decode_of_item item rest, before, after, rfl, around.last⟩

theorem around_of_entries {before after : List Entry}
    (entries : Entries AnyHead 255 (before ++ (.text key, .integer n) :: after) bs)
    (last : ∀ e ∈ after, e.1 ≠ .text key) :
    ∃ data, Encodes n data ∧ Around key data before after bs := by
  obtain ⟨front, tail, rfl, first, whole⟩ := entries_append_split entries
  cases whole with
  | @cons _ _ name _ data _ back keyed value second =>
    have encodes := (item_integer_iff 255 n data).mp value
    exact ⟨data, encodes, ⟨front, name, back, rfl, first, keyed, second⟩, last⟩

/-- Conversely an integer that is read under a key has been carried there by an encoding. -/
theorem exists_lastUnder {entries : List Entry} (read : decode body = .ok (.map entries))
    (last : Heartbeat.LastValue key entries (.integer n)) :
    ∃ data, Encodes n data ∧ LastUnder key data body := by
  obtain ⟨⟨v, c⟩, ok, same⟩ := map_eq_ok_iff.mp read
  cases same
  obtain ⟨front, moved, item⟩ := (reads_item nestingLimit).sound ok
  obtain ⟨before, after, rfl, none⟩ := last
  have whole : body = front ++ c.rest := moved.rest
  rw [whole]
  cases item with
  | map head entries =>
    obtain ⟨data, encodes, around⟩ := around_of_entries entries none
    rw [List.length_append, List.length_cons] at head
    exact ⟨data, encodes, .known head around⟩
  | openMap entries =>
    obtain ⟨data, encodes, around⟩ := around_of_entries entries none
    exact ⟨data, encodes, .opened around⟩
  | simple _ _ known => cases known
  | bigNumber _ _ _ denoted => cases denoted

end Cbor

namespace Heartbeat

theorem int64?_integer (n : Int) :
    (int64? (some (.integer n))).map Int64.toInt =
      if -0x8000000000000000 ≤ n ∧ n < 0x8000000000000000 then some n else none := by
  rw [int64?]
  split_ifs with fits
  · rw [Option.map_some, Int64.toInt_ofInt_of_le fits.1 fits.2]
  · rfl

/-- The two modeled fields. -/
inductive Field where
  | desiredFirmware
  | checkinInterval

namespace Field

def key : Field → String
  | desiredFirmware => "desired_firmware"
  | checkinInterval => "checkin_interval"

def value : Field → Response → Option Cbor.Value
  | desiredFirmware => Response.desiredFirmware
  | checkinInterval => Response.checkinInterval

variable (field : Field) (r : Response)

theorem item_in_report {v : Cbor.Value} (held : field.value r = some v) :
    field.key ++ ": " ++ Report.describe v ∈ Report.payloadItems r := by
  cases field with
  | desiredFirmware =>
    have held : r.desiredFirmware = some v := held
    simp [Report.payloadItems, Report.modeledItem, held, key, desiredFirmwareKey]
  | checkinInterval =>
    have held : r.checkinInterval = some v := held
    simp [Report.payloadItems, Report.modeledItem, held, key, checkinIntervalKey]

theorem value_ofEntries {entries : List Cbor.Entry} {v : Cbor.Value}
    (last : LastValue field.key entries v) (value : v ≠ .null) :
    field.value (.ofEntries entries) = some v := by
  have read := ofEntriesFrom_eq none none entries
  cases field with
  | desiredFirmware =>
    have means : Means desiredFirmwareKey entries (Response.ofEntries entries).desiredFirmware := by
      rw [Response.ofEntries, read]
      exact means_fieldAfter _ _
    exact (means.holds v).mpr ⟨last, value⟩
  | checkinInterval =>
    have means : Means checkinIntervalKey entries (Response.ofEntries entries).checkinInterval := by
      rw [Response.ofEntries, read]
      exact means_fieldAfter _ _
    exact (means.holds v).mpr ⟨last, value⟩

end Field

/-- The report of a success with these items, and with these texts for the fields. -/
def Field.reportShowing (items : List String) (shown : Field → String) : String :=
  "Response code: 2.05 Content\nResponse payload: \x7b" ++ Cbor.commaList items ++
    "\x7d\nServer wants firmware version: " ++ shown desiredFirmware ++
    "\nNext checkin in: " ++ shown checkinInterval ++ " seconds\n"

/-- The integers that a reply gives a field are those of 64 bits and a sign that an encoding carries
under the field's key: nothing else comes to the user this way. -/
theorem read_integer_iff (field : Field) {n : Int} {body : List UInt8} :
    (∃ entries, Cbor.decode body = .ok (.map entries) ∧
        LastValue field.key entries (.integer n)) ↔
      (-0x10000000000000000 ≤ n ∧ n < 0x10000000000000000) ∧
        ∃ data, Cbor.Encodes n data ∧ Cbor.LastUnder field.key data body := by
  constructor
  · rintro ⟨entries, read, last⟩
    obtain ⟨data, encodes, carried⟩ := Cbor.exists_lastUnder read last
    exact ⟨(Cbor.exists_encodes_iff n).mp ⟨data, encodes⟩, data, encodes, carried⟩
  · rintro ⟨_, data, encodes, carried⟩
    exact carried.decode encodes

/-- An integer that the last entry of a modeled key carries, in whatever encoding, reaches the user
as it is: it is the value of the field and is printed in full, on the line of the field and as an
item of the payload line, and the accessor of 64 bits gives it unless it does not fit. -/
theorem integer_reaches_user (field : Field) {n : Int} {data body : List UInt8}
    (encodes : Cbor.Encodes n data) (carried : Cbor.LastUnder field.key data body) :
    ∃ r, Outcome.ofResponse ⟨⟨0x45⟩, body⟩ = .success r ∧
      field.value r = some (.integer n) ∧
      (∃ shown : Field → String, shown field = toString n ∧
        Report.outcome (.success r) = Field.reportShowing (Report.payloadItems r) shown) ∧
      field.key ++ ": " ++ toString n ∈ Report.payloadItems r ∧
      (int64? (field.value r)).map Int64.toInt =
        if -0x8000000000000000 ≤ n ∧ n < 0x8000000000000000 then some n else none := by
  obtain ⟨entries, decoded, last⟩ := carried.decode encodes
  let r := Response.ofEntries entries
  have held : field.value r = some (.integer n) := field.value_ofEntries last nofun
  have shown : Report.describeField (field.value r) = toString n := by
    rw [held]
    rfl
  refine ⟨r, ?_, held, ⟨fun f => Report.describeField (f.value r), shown, rfl⟩,
    field.item_in_report r held, ?_⟩
  · rw [Outcome.ofResponse_success_iff]
    refine ⟨rfl, ?_⟩
    rw [Response.decode, decoded]
  · rw [held]
    exact int64?_integer n

/-- The least integer under tag 3, with a zero in front. -/
def leastData : List UInt8 := [0xc3] ++ ([0x49] ++ (0x00 :: List.replicate 8 0xff))

theorem encodes_leastData : Cbor.Encodes (-0x10000000000000000) leastData := by
  have tag : Cbor.AnyHead 6 3 [0xc3] := .direct (by decide)
  have length : Cbor.AnyHead 2 9 [0x49] := .direct (by decide)
  have small : Cbor.SmallBytes Cbor.AnyHead (0x00 :: List.replicate 8 0xff)
      ([0x49] ++ (0x00 :: List.replicate 8 0xff)) := ⟨by decide, _, length, rfl⟩
  exact .negativeBytes tag small (by decide)

/-- A map of open length with two firmware entries and one byte behind it. -/
def leastBody : List UInt8 :=
  Cbor.opening 5 :: (Cbor.encodeText "desired_firmware" ++ [0x01] ++ [] ++
    (Cbor.encodeText "desired_firmware" ++ leastData ++ [])) ++ [Cbor.stop] ++ [0x00]

theorem lastUnder_leastBody : Cbor.LastUnder "desired_firmware" leastData leastBody := by
  have key : Cbor.Item Cbor.AnyHead 255 (.text "desired_firmware")
      (Cbor.encodeText "desired_firmware") :=
    Cbor.item_encodeText Cbor.write_anyHead 255 (by decide +kernel)
  have one : Cbor.Item Cbor.AnyHead 255 (.integer 1) [0x01] := .unsigned (.direct (by decide))
  exact .opened ⟨⟨_, _, [], rfl, .cons key one .nil, key, .nil⟩, fun _ member => nomatch member⟩

theorem least_integer_reaches_user :
    Cbor.Encodes (-0x10000000000000000) leastData ∧
      Cbor.LastUnder Field.desiredFirmware.key leastData leastBody ∧
      ∃ r, Outcome.ofResponse ⟨⟨0x45⟩, leastBody⟩ = .success r ∧
        r.desiredFirmware = some (.integer (-0x10000000000000000)) ∧
        "desired_firmware: -18446744073709551616" ∈ Report.payloadItems r ∧
        int64? r.desiredFirmware = none := by
  obtain ⟨r, success, held, -, item, narrowed⟩ :=
    integer_reaches_user .desiredFirmware encodes_leastData lastUnder_leastBody
  refine ⟨encodes_leastData, lastUnder_leastBody, r, success, held, ?_, ?_⟩
  · have numeral : Field.desiredFirmware.key ++ ": " ++ toString (-0x10000000000000000 : Int) =
        "desired_firmware: -18446744073709551616" := by decide +kernel
    rwa [numeral] at item
  · rw [if_neg (by decide), Option.map_eq_none_iff] at narrowed
    exact narrowed

end Heartbeat

end CheckIn

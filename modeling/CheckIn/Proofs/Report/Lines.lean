import CheckIn.Proofs.Cbor.Decoding
import CheckIn.Proofs.Cbor.Encoding
import CheckIn.Proofs.Exchange.OutcomeLaw
import CheckIn.Proofs.Heartbeat.Meaning
import CheckIn.Proofs.Text.Lines
import CheckIn.Report

/-! The lines of a report. Values print on one line whatever they hold, as numbers, quoted texts
and the names of kinds do. A text key prints as it came, so the line breaks in such keys are the only
ones of a success beyond the four at the ends of its lines. -/
namespace CheckIn

open Text (breaks breaks_append breaks_ofList breaks_eq_zero_iff)

namespace Decimal

variable (style : Style)

theorem breaks_zeros (n : Nat) : breaks (zeros n) = 0 := by
  simp [zeros, List.count_replicate]

theorem breaks_positional (wholeMark : Bool) {digits : String} (unbroken : breaks digits = 0)
    (exponent : Int) : breaks (positional wholeMark digits exponent) = 0 := by
  have none := (breaks_eq_zero_iff digits).mp unbroken
  have front (n : Nat) : (digits.toList.take n).count '\n' = 0 :=
    List.count_eq_zero.mpr fun member => none (List.mem_of_mem_take member)
  have back (n : Nat) : (digits.toList.drop n).count '\n' = 0 :=
    List.count_eq_zero.mpr fun member => none (List.mem_of_mem_drop member)
  have point : breaks "." = 0 := rfl
  have whole : breaks ".0" = 0 := rfl
  have leading : breaks "0." = 0 := rfl
  unfold positional
  dsimp only
  split_ifs
  · simp [breaks_zeros, unbroken, whole]
  · simp [breaks_zeros, unbroken]
  · simp [point, front, back]
  · simp [breaks_zeros, unbroken, leading]

theorem breaks_scientific (oneLine : breaks style.plus = 0) {digits : String}
    (unbroken : breaks digits = 0) (place : Int) :
    breaks (scientific style digits place) = 0 := by
  rw [breaks_eq_zero_iff] at unbroken
  have exponent : breaks "e" = 0 := rfl
  have sign : breaks (if place < 0 then "" else style.plus) = 0 := by
    split_ifs
    · rfl
    · exact oneLine
  unfold scientific
  simp only [breaks_append, exponent, sign, Text.breaks_int, Nat.add_zero]
  split
  · next c d ds given =>
    rw [given] at unbroken
    rw [breaks_ofList, List.count_eq_zero]
    simpa using unbroken
  · rw [breaks_ofList, List.count_eq_zero]
    exact unbroken

theorem Digits.breaks_layout (oneLine : breaks style.plus = 0) (d : Digits) :
    breaks (d.layout style) = 0 := by
  unfold Digits.layout
  dsimp only
  split_ifs
  · exact breaks_positional _ (Text.breaks_nat d.digits) _
  · exact breaks_scientific style oneLine (Text.breaks_nat d.digits) _

theorem Format.breaks_layout (f : Format) (oneLine : breaks style.plus = 0) (word : Nat) :
    breaks (f.layout style word) = 0 := by
  unfold Format.layout
  split
  · rfl
  · split_ifs <;> rfl
  · rw [breaks_append, Digits.breaks_layout style oneLine]
    split_ifs <;> rfl

end Decimal

namespace Cbor

theorem breaks_commaList (items : List String) :
    breaks (commaList items) = (items.map breaks).sum :=
  Text.breaks_intercalate ", " rfl items

theorem breaks_floatText (style : Decimal.Style) (oneLine : breaks style.plus = 0) (word : UInt64) :
    breaks (floatText style word) = 0 :=
  Decimal.Format.breaks_layout style Decimal.binary64 oneLine word.toNat

theorem sum_eq_zero_of_forall {items : List String} (unbroken : ∀ s ∈ items, breaks s = 0) :
    (items.map breaks).sum = 0 := by
  rw [List.sum_eq_zero_iff_forall_eq_nat]
  intro n member
  obtain ⟨s, inside, rfl⟩ := List.mem_map.mp member
  exact unbroken s inside

theorem breaks_commaList_eq_zero {items : List String} (unbroken : ∀ s ∈ items, breaks s = 0) :
    breaks (commaList items) = 0 := by
  rw [breaks_commaList, sum_eq_zero_of_forall unbroken]

mutual

theorem Value.breaks_labelled : ∀ v : Value, breaks v.labelled = 0
  | .integer n => by
    change breaks ("Integer(Integer(" ++ toString n ++ "))") = 0
    rw [breaks_append, breaks_append, Text.breaks_int]
    rfl
  | .bytes bs => by
    have numerals : breaks (commaList (bs.map fun b => toString b.toNat)) = 0 :=
      breaks_commaList_eq_zero fun s member => by
        obtain ⟨b, -, rfl⟩ := List.mem_map.mp member
        exact Text.breaks_nat _
    change breaks ("Bytes([" ++ commaList (bs.map fun b => toString b.toNat) ++ "])") = 0
    rw [breaks_append, breaks_append, numerals]
    rfl
  | .text s => by
    change breaks ("Text(" ++ Text.quoted s ++ ")") = 0
    rw [breaks_append, breaks_append, Text.breaks_quoted]
    rfl
  | .float word => by
    change breaks ("Float(" ++ floatText .tagged word ++ ")") = 0
    rw [breaks_append, breaks_append, breaks_floatText .tagged rfl]
    rfl
  | .bool b => by cases b <;> rfl
  | .null => rfl
  | .tag number content => by
    change breaks ("Tag(" ++ toString number ++ ", " ++ content.labelled ++ ")") = 0
    rw [breaks_append, breaks_append, breaks_append, breaks_append, Text.breaks_nat,
      Value.breaks_labelled content]
    rfl
  | .array items => by
    change breaks ("Array([" ++ commaList (labelledItems items) ++ "])") = 0
    rw [breaks_append, breaks_append, breaks_commaList_eq_zero (breaks_labelledItems items)]
    rfl
  | .map entries => by
    change breaks ("Map([" ++ commaList (labelledEntries entries) ++ "])") = 0
    rw [breaks_append, breaks_append, breaks_commaList_eq_zero (breaks_labelledEntries entries)]
    rfl

theorem breaks_labelledItems : ∀ (items : List Value), ∀ s ∈ labelledItems items, breaks s = 0
  | [], _, member => nomatch member
  | v :: vs, s, member => by
    rcases List.mem_cons.mp member with rfl | later
    · exact Value.breaks_labelled v
    · exact breaks_labelledItems vs s later

theorem breaks_labelledEntries :
    ∀ (entries : List (Value × Value)), ∀ s ∈ labelledEntries entries, breaks s = 0
  | [], _, member => nomatch member
  | (k, v) :: es, s, member => by
    rcases List.mem_cons.mp member with rfl | later
    · rw [breaks_append, breaks_append, breaks_append, breaks_append, Value.breaks_labelled k,
        Value.breaks_labelled v]
      rfl
    · exact breaks_labelledEntries es s later

end

end Cbor

namespace Report

open Cbor Heartbeat

theorem breaks_describe (v : Value) : breaks (describe v) = 0 := by
  cases v with
  | integer n => exact Text.breaks_int n
  | text s => exact Text.breaks_quoted s
  | bool b => cases b <;> rfl
  | float word => exact breaks_floatText .plain rfl word
  | bytes data => exact Value.breaks_labelled (.bytes data)
  | null => rfl
  | tag number content => exact Value.breaks_labelled (.tag number content)
  | array items => exact Value.breaks_labelled (.array items)
  | map entries => exact Value.breaks_labelled (.map entries)

theorem breaks_describeField (field : Option Value) : breaks (describeField field) = 0 := by
  cases field with
  | none => rfl
  | some v => exact breaks_describe v

/-- The line breaks that a key brings with it: those of a text, as it stands. -/
def keyBreaks : Value → Nat
  | .text s => breaks s
  | _ => 0

theorem breaks_describeKey (key : Value) : breaks (describeKey key) = keyBreaks key := by
  cases key with
  | text s => rfl
  | _ => exact breaks_describe _

theorem sum_breaks_modeledItem {key : String} (unbroken : breaks key = 0) (field : Option Value) :
    ((modeledItem key field).map breaks).sum = 0 := by
  cases field with
  | none => rfl
  | some v =>
    have colon : breaks ": " = 0 := rfl
    simp [modeledItem, unbroken, colon, breaks_describe]

theorem sum_breaks_payloadItems (r : Response) :
    ((payloadItems r).map breaks).sum = (r.extra.map fun e => keyBreaks e.1).sum := by
  have colon : breaks ": " = 0 := rfl
  have extra : (r.extra.map fun e => describeKey e.1 ++ ": " ++ describe e.2).map breaks =
      r.extra.map fun e => keyBreaks e.1 := by
    rw [List.map_map]
    refine List.map_congr_left fun e _ => ?_
    simp [breaks_describeKey, breaks_describe, colon]
  have firmware : breaks desiredFirmwareKey = 0 := by decide
  have interval : breaks checkinIntervalKey = 0 := by decide
  rw [payloadItems, List.map_append, List.map_append, List.sum_append, List.sum_append, extra,
    sum_breaks_modeledItem firmware, sum_breaks_modeledItem interval, Nat.zero_add]

theorem breaks_success (r : Response) :
    breaks (outcome (.success r)) = 4 + (r.extra.map fun e => keyBreaks e.1).sum := by
  have first : breaks "Response code: 2.05 Content\nResponse payload: \x7b" = 1 := by decide
  have second : breaks "\x7d\nServer wants firmware version: " = 1 := by decide
  have third : breaks "\nNext checkin in: " = 1 := by decide
  have last : breaks " seconds\n" = 1 := by decide
  unfold outcome
  dsimp only
  simp only [breaks_append, breaks_commaList, sum_breaks_payloadItems, breaks_describeField]
  rw [first, second, third, last]
  omega

/-- A text of exactly the four lines of a success, each ended by the only line break in it. -/
def FourLines (report : String) : Prop :=
  ∃ code items firmware interval : String,
    breaks code = 0 ∧ breaks items = 0 ∧ breaks firmware = 0 ∧ breaks interval = 0 ∧
    report = "Response code: " ++ code ++ "\nResponse payload: \x7b" ++ items ++
      "\x7d\nServer wants firmware version: " ++ firmware ++ "\nNext checkin in: " ++ interval ++
      " seconds\n"

theorem FourLines.breaks {report : String} (lines : FourLines report) : breaks report = 4 := by
  obtain ⟨code, items, firmware, interval, hcode, hitems, hfirmware, hinterval, rfl⟩ := lines
  have first : Text.breaks "Response code: " = 0 := by decide
  have second : Text.breaks "\nResponse payload: \x7b" = 1 := by decide
  have third : Text.breaks "\x7d\nServer wants firmware version: " = 1 := by decide
  have fourth : Text.breaks "\nNext checkin in: " = 1 := by decide
  have last : Text.breaks " seconds\n" = 1 := by decide
  simp only [breaks_append, hcode, hitems, hfirmware, hinterval]
  rw [first, second, third, fourth, last]

theorem fourLines_success_iff (r : Response) :
    FourLines (outcome (.success r)) ↔ (r.extra.map fun e => keyBreaks e.1).sum = 0 := by
  constructor
  · intro lines
    have four := lines.breaks
    rw [breaks_success] at four
    omega
  · intro unbroken
    refine ⟨"2.05 Content", commaList (payloadItems r), describeField r.desiredFirmware,
      describeField r.checkinInterval, by decide, ?_, breaks_describeField _,
      breaks_describeField _, rfl⟩
    rw [breaks_commaList, sum_breaks_payloadItems, unbroken]

theorem sum_keyBreaks_eq_zero_iff (entries : List Entry) :
    (entries.map fun e => keyBreaks e.1).sum = 0 ↔
      ∀ s v, (.text s, v) ∈ entries → '\n' ∉ s.toList := by
  rw [List.sum_eq_zero_iff_forall_eq_nat]
  simp only [List.forall_mem_map]
  constructor
  · intro unbroken s v member
    exact (breaks_eq_zero_iff s).mp (unbroken _ member)
  · rintro unbroken ⟨key, v⟩ member
    cases key with
    | text s => exact (breaks_eq_zero_iff s).mpr (unbroken s v member)
    | _ => rfl

/-- No modeled key breaks a line, so the entries that are kept break as many as all entries do. -/
theorem sum_keyBreaks_extra (entries : List Entry) :
    ((entries.filter IsExtra).map fun e => keyBreaks e.1).sum =
      (entries.map fun e => keyBreaks e.1).sum := by
  induction entries with
  | nil => rfl
  | cons e entries ih =>
    rw [List.filter_cons]
    split_ifs with extra
    · rw [List.map_cons, List.sum_cons, ih, List.map_cons, List.sum_cons]
    · have modeled : keyBreaks e.1 = 0 := by
        by_cases firmware : e.1 = .text "desired_firmware"
        · rw [firmware]
          decide
        · have interval : e.1 = .text "checkin_interval" := by
            by_contra other
            exact extra (decide_eq_true ⟨firmware, other⟩)
          rw [interval]
          decide
      rw [ih, List.map_cons, List.sum_cons, modeled, Nat.zero_add]

/-- A map of one entry, a null under a key of the server's choice. -/
def keyedBody (key : String) : List UInt8 :=
  Cbor.Head.write 5 1 ++ (Cbor.encodeText key ++ Cbor.Head.write 7 22 ++ [])

theorem success_keyedBody {key : String} (short : (Text.Utf8.ofString key).length < 2 ^ 64)
    (extra : IsExtra (.text key, .null)) :
    Outcome.ofResponse ⟨⟨0x45⟩, keyedBody key⟩ = .success ⟨none, none, [(.text key, .null)]⟩ := by
  have null : Item AnyHead 255 .null (Cbor.Head.write 7 22) :=
    .simple (write_anyHead 7 22 (by decide)) (by decide) .null
  have item : Item AnyHead nestingLimit (.map [(.text key, .null)]) (keyedBody key) :=
    .map (write_anyHead 5 1 (by decide)) (.cons (item_encodeText write_anyHead 255 short) null .nil)
  have decoded := decode_of_item item []
  rw [List.append_nil] at decoded
  rw [Outcome.ofResponse_success_iff]
  refine ⟨rfl, ?_⟩
  rw [Response.decode, decoded]
  dsimp only
  rw [Response.ofEntries, ofEntriesFrom_eq, List.filter_cons, if_pos (by simpa using extra)]
  obtain ⟨firmware, interval⟩ := (isExtra_iff _).mp extra
  rw [fieldAfter_miss _ _ _ _ firmware, fieldAfter_miss _ _ _ _ interval]
  rfl

/-- The report of a reply has the four line breaks of a success and those in the text keys of the
map it carries, so it consists of four lines exactly if no key breaks the line. Neither values nor
keys of other kinds can break one. -/
theorem four_lines_iff_keys_unbroken (response : Transport.Response) (r : Response)
    (success : Outcome.ofResponse response = .success r) :
    ∃ entries, Cbor.decode response.payload = .ok (.map entries) ∧
      breaks (outcome (.success r)) = 4 + (entries.map fun e => keyBreaks e.1).sum ∧
      (FourLines (outcome (.success r)) ↔
        ∀ s v, (.text s, v) ∈ entries → '\n' ∉ s.toList) := by
  have decoded := ((Outcome.ofResponse_success_iff response r).mp success).2
  unfold Response.decode at decoded
  split at decoded
  · cases decoded
  · next entries read =>
    obtain rfl := Except.ok.inj decoded
    have extra : (Response.ofEntries entries).extra = entries.filter IsExtra :=
      congrArg Response.extra (ofEntriesFrom_eq none none entries)
    refine ⟨entries, read, ?_, ?_⟩
    · rw [breaks_success, extra, sum_keyBreaks_extra]
    · rw [fourLines_success_iff, extra, sum_keyBreaks_extra, sum_keyBreaks_eq_zero_iff]
  · cases decoded

/-- A key with a tab, which breaks no line. -/
def tabbedKey : String := "server\ttime"

theorem tabbed_key_keeps_four_lines :
    let r : Response := ⟨none, none, [(.text tabbedKey, .null)]⟩
    Outcome.ofResponse ⟨⟨0x45⟩, keyedBody tabbedKey⟩ = .success r ∧
      ∃ entries, Cbor.decode (keyedBody tabbedKey) = .ok (.map entries) ∧
        breaks (outcome (.success r)) = 4 + (entries.map fun e => keyBreaks e.1).sum ∧
        (FourLines (outcome (.success r)) ↔ ∀ s v, (.text s, v) ∈ entries → '\n' ∉ s.toList) := by
  intro r
  have success : Outcome.ofResponse ⟨⟨0x45⟩, keyedBody tabbedKey⟩ = .success r :=
    success_keyedBody (by decide +kernel) (by decide +kernel)
  have lines := four_lines_iff_keys_unbroken _ _ success
  exact ⟨success, lines⟩

/-- A key that goes on to what looks like the third line of a report. -/
def forgedKey : String := "a\nServer wants firmware version: 9"

theorem line_forged_by_key :
    ∃ r, Outcome.ofResponse ⟨⟨0x45⟩, keyedBody forgedKey⟩ = .success r ∧
      outcome (.success r) = "Response code: 2.05 Content\nResponse payload: \x7ba\n" ++
        "Server wants firmware version: 9: Null\x7d\nServer wants firmware version: none\n" ++
        "Next checkin in: none seconds\n" ∧
      ¬ FourLines (outcome (.success r)) := by
  have success := @success_keyedBody forgedKey (by decide +kernel) (by decide +kernel)
  refine ⟨_, success, by decide +kernel, fun lines => ?_⟩
  have four := lines.breaks
  rw [breaks_success] at four
  revert four
  decide +kernel

end Report

end CheckIn

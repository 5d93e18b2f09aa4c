import CheckIn.Heartbeat.Response

/-! What the entries of a map mean as a response. Of the entries with a modeled key only the last
one counts, and a null there leaves the field empty; entries with any other key touch no field and
are all kept. -/
namespace CheckIn.Heartbeat

open Cbor

theorem hasKey_iff (key : String) (e : Entry) : hasKey key e = true ↔ e.1 = .text key := by
  obtain ⟨k, v⟩ := e
  cases k <;> simp [hasKey]

theorem hasKey_interval_of_firmware {e : Entry} (firmware : hasKey desiredFirmwareKey e = true) :
    hasKey checkinIntervalKey e = false := by
  rw [hasKey_iff] at firmware
  simp [hasKey, firmware, desiredFirmwareKey, checkinIntervalKey]

/-- An entry whose key is neither of the two modeled texts. -/
def IsExtra (e : Entry) : Prop :=
  e.1 ≠ .text "desired_firmware" ∧ e.1 ≠ .text "checkin_interval"

theorem isExtra_iff (e : Entry) :
    IsExtra e ↔ hasKey desiredFirmwareKey e = false ∧ hasKey checkinIntervalKey e = false := by
  rw [← Bool.not_eq_true, ← Bool.not_eq_true, hasKey_iff, hasKey_iff]
  rfl

instance : DecidablePred IsExtra := fun e => decidable_of_iff _ (isExtra_iff e).symm

/-- Among the entries with a key, the last one has this value. -/
def LastValue (key : String) (entries : List Entry) (v : Value) : Prop :=
  ∃ before after, entries = before ++ (.text key, v) :: after ∧ ∀ e ∈ after, e.1 ≠ .text key

/-- What a field holds behind some entries: the value of the last entry with its key, or what it
held before them. -/
def fieldAfter (key : String) (start : Option Value) (entries : List Entry) : Option Value :=
  match (entries.filter (hasKey key)).getLast? with
  | none => start
  | some e => Value.present e.2

section

variable (key : String) (start : Option Value) (e : Entry) (entries : List Entry)

theorem fieldAfter_hit (hit : hasKey key e = true) :
    fieldAfter key start (e :: entries) = fieldAfter key (Value.present e.2) entries := by
  simp only [fieldAfter, List.filter_cons, hit, if_true, List.getLast?_cons]
  cases (entries.filter (hasKey key)).getLast? <;> rfl

theorem fieldAfter_miss (miss : hasKey key e = false) :
    fieldAfter key start (e :: entries) = fieldAfter key start entries := by
  simp [fieldAfter, miss]

end

/-- One entry changes one field or is kept; behind a whole list each field holds what the last entry
with its key left there. -/
theorem ofEntriesFrom_eq (firmware interval : Option Value) (entries : List Entry) :
    Response.ofEntriesFrom firmware interval entries =
      ⟨fieldAfter desiredFirmwareKey firmware entries,
        fieldAfter checkinIntervalKey interval entries, entries.filter IsExtra⟩ := by
  induction entries generalizing firmware interval with
  | nil => rfl
  | cons e entries ih =>
    rw [Response.ofEntriesFrom]
    by_cases hit : hasKey desiredFirmwareKey e = true
    · have miss := hasKey_interval_of_firmware hit
      rw [if_pos hit, ih, fieldAfter_hit _ _ _ _ hit, fieldAfter_miss _ _ _ _ miss]
      simp [isExtra_iff, hit]
    · rw [Bool.not_eq_true] at hit
      by_cases hit' : hasKey checkinIntervalKey e = true
      · rw [if_neg (by simp [hit]), if_pos hit', ih, fieldAfter_hit _ _ _ _ hit',
          fieldAfter_miss _ _ _ _ hit]
        simp [isExtra_iff, hit']
      · rw [Bool.not_eq_true] at hit'
        rw [if_neg (by simp [hit]), if_neg (by simp [hit']), ih, fieldAfter_miss _ _ _ _ hit,
          fieldAfter_miss _ _ _ _ hit']
        simp [isExtra_iff, hit, hit']

section

variable (key : String) (entries : List Entry)

theorem getLast?_filter_eq_some_iff (v : Value) :
    (∃ e, (entries.filter (hasKey key)).getLast? = some e ∧ e.2 = v) ↔
      LastValue key entries v := by
  constructor
  · rintro ⟨e, last, rfl⟩
    obtain ⟨front, split⟩ := List.getLast?_eq_some_iff.mp last
    obtain ⟨before, rest, rfl, -, tail⟩ := List.filter_eq_append_iff.mp split
    obtain ⟨between, after, rfl, -, hit, none⟩ := List.filter_eq_cons_iff.mp tail
    have keyed := (hasKey_iff key e).mp hit
    refine ⟨before ++ between, after, ?_, fun d inAfter isKey => ?_⟩
    · rw [← keyed, List.append_assoc]
    · have refused := List.filter_eq_nil_iff.mp none d inAfter
      exact refused ((hasKey_iff key d).mpr isKey)
  · rintro ⟨before, after, rfl, none⟩
    refine ⟨(.text key, v), ?_, rfl⟩
    have hit : hasKey key (.text key, v) = true := (hasKey_iff key _).mpr rfl
    have empty : after.filter (hasKey key) = [] := by
      rw [List.filter_eq_nil_iff]
      intro d inAfter isHit
      exact none d inAfter ((hasKey_iff key d).mp isHit)
    rw [List.filter_append, List.filter_cons, if_pos hit, empty, List.getLast?_concat]

theorem getLast?_filter_eq_none_iff :
    (entries.filter (hasKey key)).getLast? = none ↔ ∀ e ∈ entries, e.1 ≠ .text key := by
  rw [List.getLast?_eq_none_iff, List.filter_eq_nil_iff]
  constructor
  · intro misses e member isKey
    exact misses e member ((hasKey_iff key e).mpr isKey)
  · intro others e member hit
    exact others e member ((hasKey_iff key e).mp hit)

theorem present_of_ne_null {v : Value} (notNull : v ≠ .null) : Value.present v = some v := by
  cases v with
  | null => exact absurd rfl notNull
  | _ => rfl

theorem present_eq_some_iff (v w : Value) : Value.present v = some w ↔ v = w ∧ w ≠ .null := by
  by_cases null : v = .null
  · subst null
    simp only [Value.present, reduceCtorEq, false_iff]
    rintro ⟨rfl, notNull⟩
    exact notNull rfl
  · rw [present_of_ne_null null, Option.some.injEq]
    constructor
    · rintro rfl
      exact ⟨rfl, null⟩
    · exact And.left

theorem present_eq_none_iff (v : Value) : Value.present v = none ↔ v = .null := by
  cases v <;> simp [Value.present]

/-- What a list of entries says about the field of a key. -/
structure Means (field : Option Value) : Prop where
  /-- A field holds a value if the last entry with its key does and the value is not null. -/
  holds (v : Value) : field = some v ↔ LastValue key entries v ∧ v ≠ .null
  /-- A field is empty if there is no entry with its key or if the last one is null. -/
  absent : field = none ↔ (∀ e ∈ entries, e.1 ≠ .text key) ∨ LastValue key entries .null

theorem means_fieldAfter : Means key entries (fieldAfter key none entries) where
  holds v := by
    rw [← getLast?_filter_eq_some_iff, fieldAfter]
    cases (entries.filter (hasKey key)).getLast? with
    | none => simp
    | some e => simp [present_eq_some_iff]
  absent := by
    rw [← getLast?_filter_eq_some_iff, ← getLast?_filter_eq_none_iff, fieldAfter]
    cases (entries.filter (hasKey key)).getLast? with
    | none => simp
    | some e => simp [present_eq_none_iff]

end

/-- A response holds, for each modeled key, the value of its last entry unless that is null, and
every other entry in its order. The fields depend on nothing but the two sequences of entries with
their keys: extra entries, and how the entries of one key stand among those of the other, leave
them as they are. -/
theorem response_of_entries (entries : List Entry) :
    let r := Response.ofEntries entries
    Means "desired_firmware" entries r.desiredFirmware ∧
    Means "checkin_interval" entries r.checkinInterval ∧
    r.extra = entries.filter IsExtra ∧ r.ignoredKeys = (entries.filter IsExtra).length ∧
    r.desiredFirmware ≠ some .null ∧ r.checkinInterval ≠ some .null ∧
    ∀ others : List Entry,
      others.filter (hasKey "desired_firmware") = entries.filter (hasKey "desired_firmware") →
      others.filter (hasKey "checkin_interval") = entries.filter (hasKey "checkin_interval") →
      (Response.ofEntries others).desiredFirmware = r.desiredFirmware ∧
        (Response.ofEntries others).checkinInterval = r.checkinInterval := by
  intro r
  have read (entries : List Entry) := ofEntriesFrom_eq none none entries
  have firmware : Means "desired_firmware" entries r.desiredFirmware := by
    rw [show r = _ from read entries]
    exact means_fieldAfter desiredFirmwareKey entries
  have interval : Means "checkin_interval" entries r.checkinInterval := by
    rw [show r = _ from read entries]
    exact means_fieldAfter checkinIntervalKey entries
  have extra : r.extra = entries.filter IsExtra := by rw [show r = _ from read entries]
  refine ⟨firmware, interval, extra, congrArg List.length extra, fun null => ?_, fun null => ?_,
    fun others sameFirmware sameInterval => ?_⟩
  · exact ((firmware.holds .null).mp null).2 rfl
  · exact ((interval.holds .null).mp null).2 rfl
  · rw [show r = _ from read entries, Response.ofEntries, read others]
    constructor
    · simp only [fieldAfter, desiredFirmwareKey, sameFirmware]
    · simp only [fieldAfter, checkinIntervalKey, sameInterval]

example : Response.ofEntries [(.text "checkin_interval", .null),
    (.text "desired_firmware", .integer 7),
    (.bytes (Text.Utf8.ofString "desired_firmware"), .null),
    (.text "checkin_interval", .bool true), (.text "desired_firmware", .null)] =
      ⟨none, some (.bool true), [(.bytes (Text.Utf8.ofString "desired_firmware"), .null)]⟩ := rfl

end CheckIn.Heartbeat

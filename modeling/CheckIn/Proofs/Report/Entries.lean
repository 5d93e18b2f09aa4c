import CheckIn.Proofs.Heartbeat.Meaning
import CheckIn.Report
import Mathlib.Tactic.SplitIfs

/-! The payload line of a report against the entries of the map it reports. An entry of a modeled key
is shown unless a later one with that key has overwritten it, and every other entry is shown; together
with the overwritten ones the items account for all that the entries say. -/
namespace CheckIn.Report

open Cbor Heartbeat

def renderEntry (e : Entry) : String := describeKey e.1 ++ ": " ++ describe e.2

def notNull (e : Entry) : Bool := (Value.present e.2).isSome

/-- An entry that says something: a null under a modeled key counts as absent. -/
def Speaks (e : Entry) : Prop := IsExtra e ∨ e.2 ≠ .null

theorem notNull_iff (e : Entry) : notNull e = true ↔ e.2 ≠ .null := by
  rw [notNull, Option.isSome_iff_ne_none, ne_eq, present_eq_none_iff]

theorem speaks_iff (e : Entry) : Speaks e ↔ (decide (IsExtra e) || notNull e) = true := by
  rw [Bool.or_eq_true, decide_eq_true_eq, notNull_iff, Speaks]

instance : DecidablePred Speaks := fun e => decidable_of_iff _ (speaks_iff e).symm

theorem decide_isExtra (e : Entry) :
    decide (IsExtra e) = (!hasKey desiredFirmwareKey e && !hasKey checkinIntervalKey e) := by
  rw [Bool.eq_iff_iff, decide_eq_true_eq, isExtra_iff]
  simp

theorem decide_speaks (e : Entry) : decide (Speaks e) = (decide (IsExtra e) || notNull e) := by
  rw [Bool.eq_iff_iff, decide_eq_true_eq, speaks_iff]

section

variable (key : String) (entries : List Entry)

/-- The entries of a key that a later one overwrites, nulls left out. -/
def overwrittenUnder : List Entry := ((entries.filter (hasKey key)).dropLast).filter notNull

def shownUnder : List Entry := ((entries.filter (hasKey key)).getLast?.toList).filter notNull

theorem modeledItem_fieldAfter :
    modeledItem key (fieldAfter key none entries) = (shownUnder key entries).map renderEntry := by
  unfold fieldAfter shownUnder
  match last : (entries.filter (hasKey key)).getLast? with
  | none => rfl
  | some e =>
    have hit := (List.mem_filter.mp (List.mem_of_getLast? last)).2
    have keyed := (hasKey_iff key e).mp hit
    obtain ⟨k, v⟩ := e
    obtain rfl : k = .text key := keyed
    by_cases null : v = .null
    · subst null
      rfl
    · have kept : notNull (.text key, v) = true := (notNull_iff _).mpr null
      simp only [present_of_ne_null null, Option.toList_some, List.filter_cons, kept, if_true,
        List.filter_nil]
      rfl

theorem overwritten_append_shown :
    overwrittenUnder key entries ++ shownUnder key entries =
      (entries.filter (hasKey key)).filter notNull := by
  unfold overwrittenUnder shownUnder
  rw [← List.filter_append]
  cases last : (entries.filter (hasKey key)).getLast? with
  | none =>
    rw [List.getLast?_eq_none_iff] at last
    rw [last]
    rfl
  | some e =>
    obtain ⟨front, split⟩ := List.getLast?_eq_some_iff.mp last
    rw [split, List.dropLast_concat]
    rfl

theorem overwrittenUnder_eq_nil_iff :
    overwrittenUnder key entries = [] ↔ ∀ before v after,
      entries = before ++ (.text key, v) :: after → v ≠ .null → ∀ e ∈ after, e.1 ≠ .text key := by
  constructor
  · rintro none before v after rfl value e inAfter keyed
    have hit : hasKey key (.text key, v) = true := (hasKey_iff key _).mpr rfl
    have later : e ∈ after.filter (hasKey key) :=
      List.mem_filter.mpr ⟨inAfter, (hasKey_iff key e).mpr keyed⟩
    rw [overwrittenUnder, List.filter_append, List.filter_cons, if_pos hit,
      List.dropLast_append_cons, List.dropLast_cons_of_ne_nil (List.ne_nil_of_mem later),
      List.filter_eq_nil_iff] at none
    exact none (.text key, v) (by simp) ((notNull_iff _).mpr value)
  · intro lasting
    rw [overwrittenUnder, List.filter_eq_nil_iff]
    intro e inside value
    obtain ⟨front, back, split⟩ := List.append_of_mem inside
    have nonempty : entries.filter (hasKey key) ≠ [] := by
      intro empty
      rw [empty] at inside
      cases inside
    have whole := List.dropLast_concat_getLast nonempty
    rw [split, List.append_assoc, List.cons_append] at whole
    obtain ⟨before, rest, rfl, -, tail⟩ := List.filter_eq_append_iff.mp whole.symm
    obtain ⟨between, after, rfl, -, hit, later⟩ := List.filter_eq_cons_iff.mp tail
    have keyed := (hasKey_iff key e).mp hit
    have last : (List.filter (hasKey key) (before ++ (between ++ e :: after))).getLast nonempty ∈
        after.filter (hasKey key) := by
      rw [later]
      simp
    obtain ⟨inAfter, lastHit⟩ := List.mem_filter.mp last
    refine lasting (before ++ between) e.2 after ?_ ((notNull_iff e).mp value) _ inAfter
      ((hasKey_iff key _).mp lastHit)
    rw [← keyed, List.append_assoc]

end

section

variable (entries : List Entry)

/-- The entries whose values the report leaves out though they say something. -/
def overwritten : List Entry :=
  overwrittenUnder desiredFirmwareKey entries ++ overwrittenUnder checkinIntervalKey entries

/-- The entries that stand in the report, in its order. -/
def shown : List Entry :=
  shownUnder desiredFirmwareKey entries ++
    (shownUnder checkinIntervalKey entries ++ entries.filter IsExtra)

theorem payloadItems_ofEntries :
    payloadItems (.ofEntries entries) = (shown entries).map renderEntry := by
  rw [Response.ofEntries, ofEntriesFrom_eq, payloadItems, modeledItem_fieldAfter,
    modeledItem_fieldAfter, shown, List.map_append, List.map_append, List.append_assoc]
  rfl

theorem perm_speaks :
    ((entries.filter (hasKey desiredFirmwareKey)).filter notNull ++
      ((entries.filter (hasKey checkinIntervalKey)).filter notNull ++
        entries.filter IsExtra)).Perm (entries.filter Speaks) := by
  let others := (entries.filter Speaks).filter fun e => !hasKey desiredFirmwareKey e
  have firmware : (entries.filter Speaks).filter (hasKey desiredFirmwareKey) =
      (entries.filter (hasKey desiredFirmwareKey)).filter notNull := by
    rw [List.filter_filter, List.filter_filter]
    refine List.filter_congr fun e _ => ?_
    cases hit : hasKey desiredFirmwareKey e <;> simp [decide_speaks, isExtra_iff, hit]
  have interval : others.filter (hasKey checkinIntervalKey) =
      (entries.filter (hasKey checkinIntervalKey)).filter notNull := by
    rw [List.filter_filter, List.filter_filter, List.filter_filter]
    refine List.filter_congr fun e _ => ?_
    cases hit : hasKey desiredFirmwareKey e
    · cases hit' : hasKey checkinIntervalKey e <;> simp [decide_speaks, isExtra_iff, hit, hit']
    · simp [hasKey_interval_of_firmware hit]
  have rest : others.filter (fun e => !hasKey checkinIntervalKey e) = entries.filter IsExtra := by
    rw [List.filter_filter, List.filter_filter]
    refine List.filter_congr fun e _ => ?_
    cases hit : hasKey desiredFirmwareKey e <;>
      cases hit' : hasKey checkinIntervalKey e <;> simp [decide_speaks, decide_isExtra, hit, hit']
  rw [← firmware, ← interval, ← rest]
  have split := List.filter_append_perm (hasKey checkinIntervalKey) others
  exact (split.append_left _).trans (List.filter_append_perm (hasKey desiredFirmwareKey) _)

/-- What is shown and what is overwritten is all that the entries say. -/
theorem shown_append_overwritten_perm :
    (shown entries ++ overwritten entries).Perm (entries.filter Speaks) := by
  refine .trans ?_ (perm_speaks entries)
  rw [← overwritten_append_shown, ← overwritten_append_shown, shown, overwritten]
  rw [List.append_assoc (overwrittenUnder checkinIntervalKey entries)]
  generalize overwrittenUnder desiredFirmwareKey entries = a
  generalize shownUnder desiredFirmwareKey entries = b
  generalize overwrittenUnder checkinIntervalKey entries = c
  generalize shownUnder checkinIntervalKey entries ++ entries.filter IsExtra = d
  calc ((b ++ d) ++ (a ++ c)).Perm ((a ++ c) ++ (b ++ d)) := List.perm_append_comm
    _ = a ++ (c ++ (b ++ d)) := List.append_assoc ..
    List.Perm _ (a ++ (b ++ (c ++ d))) := (List.perm_append_comm_assoc c b d).append_left a
    _ = (a ++ b) ++ (c ++ d) := (List.append_assoc ..).symm

/-- The items of a report and the entries that were overwritten are all that the entries of the map
say, so a report is complete exactly if nothing was overwritten. -/
theorem report_and_overwritten_complete (entries : List Entry) :
    let r := Response.ofEntries entries
    let items := payloadItems r
    let said := (entries.filter Speaks).map renderEntry
    (∃ rest, outcome (.success r) = "Response code: 2.05 Content\nResponse payload: \x7b" ++
      commaList items ++ "\x7d\n" ++ rest) ∧
    items = (shown entries).map renderEntry ∧
    (items ++ (overwritten entries).map renderEntry).Perm said ∧
    (items.Perm said ↔ overwritten entries = []) ∧
    (overwritten entries = [] ↔ ∀ key ∈ [desiredFirmwareKey, checkinIntervalKey],
      ∀ before v after, entries = before ++ (.text key, v) :: after → v ≠ .null →
        ∀ e ∈ after, e.1 ≠ .text key) := by
  intro r items said
  have rendered : items = (shown entries).map renderEntry := payloadItems_ofEntries entries
  have complete : (items ++ (overwritten entries).map renderEntry).Perm said := by
    rw [rendered, ← List.map_append]
    exact (shown_append_overwritten_perm entries).map renderEntry
  refine ⟨?_, rendered, complete, ⟨fun perm => ?_, fun none => ?_⟩, ?_⟩
  · have line : "\x7d\nServer wants firmware version: " =
        "\x7d\n" ++ "Server wants firmware version: " := by decide
    refine ⟨"Server wants firmware version: " ++ describeField r.desiredFirmware ++
      "\nNext checkin in: " ++ describeField r.checkinInterval ++ " seconds\n", ?_⟩
    unfold outcome
    dsimp only
    rw [line]
    simp only [String.append_assoc]
    rfl
  · have all := complete.length_eq
    rw [List.length_append, List.length_map, perm.length_eq] at all
    exact List.eq_nil_of_length_eq_zero (by omega)
  · rw [none, List.map_nil, List.append_nil] at complete
    exact complete
  · simp only [overwritten, List.append_eq_nil_iff, overwrittenUnder_eq_nil_iff, List.mem_cons,
      List.not_mem_nil, or_false, forall_eq_or_imp, forall_eq]

end

/-- Two firmware entries, both with a value. -/
def repeatedFirmware : List Entry :=
  [(.text "desired_firmware", .integer 1), (.text "desired_firmware", .integer 2)]

theorem first_of_repeated_firmware_hidden :
    payloadItems (.ofEntries repeatedFirmware) = ["desired_firmware: 2"] ∧
      (repeatedFirmware.filter Speaks).map renderEntry =
        ["desired_firmware: 1", "desired_firmware: 2"] ∧
      ¬ (payloadItems (.ofEntries repeatedFirmware)).Perm
        ((repeatedFirmware.filter Speaks).map renderEntry) := by
  refine ⟨by decide +kernel, by decide +kernel, fun perm => ?_⟩
  have lengths := perm.length_eq
  revert lengths
  decide +kernel

end CheckIn.Report

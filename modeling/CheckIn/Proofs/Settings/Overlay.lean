import CheckIn.Settings
import CheckIn.Proofs.Json.Canonical
import CheckIn.Proofs.Json.Uniform
import Mathlib.Data.List.Forall2

/-! What a source of settings says of them: each is given a value or left as it is. A JSON text that
is read at all says one such thing, whatever the settings were before it. -/
namespace CheckIn.Settings

/-- Values for some of the settings. -/
structure Overlay where
  responseTimeoutMs : Option UInt64
  deviceId : Option Int64
  currentFirmware : Option Int64
  deriving DecidableEq, Repr

namespace Overlay

instance : One Overlay := ⟨⟨none, none, none⟩⟩

/-- Two overlays, the one on the right first: a value of the later one counts. -/
instance : Mul Overlay := ⟨fun later earlier =>
  { responseTimeoutMs := later.responseTimeoutMs.or earlier.responseTimeoutMs
    deviceId := later.deviceId.or earlier.deviceId
    currentFirmware := later.currentFirmware.or earlier.currentFirmware }⟩

theorem mul_def (later earlier : Overlay) : later * earlier =
    ⟨later.responseTimeoutMs.or earlier.responseTimeoutMs, later.deviceId.or earlier.deviceId,
      later.currentFirmware.or earlier.currentFirmware⟩ := rfl

theorem one_def : (1 : Overlay) = ⟨none, none, none⟩ := rfl

instance : Monoid Overlay where
  mul_assoc a b c := by simp [mul_def, Option.or_assoc]
  one_mul a := by simp [mul_def, one_def]
  mul_one a := by simp [mul_def, one_def]

instance : SMul Overlay Settings := ⟨fun o s =>
  { responseTimeoutMs := o.responseTimeoutMs.getD s.responseTimeoutMs
    deviceId := o.deviceId.getD s.deviceId
    currentFirmware := o.currentFirmware.getD s.currentFirmware }⟩

theorem smul_def (o : Overlay) (s : Settings) : o • s =
    ⟨o.responseTimeoutMs.getD s.responseTimeoutMs, o.deviceId.getD s.deviceId,
      o.currentFirmware.getD s.currentFirmware⟩ := rfl

instance : MulAction Overlay Settings where
  one_smul s := rfl
  mul_smul later earlier s := by
    simp [smul_def, mul_def, Option.getD_or]

end Overlay

section

variable {ω σ : Type} [Monoid ω] [MulAction ω σ]

theorem uniform_put {α : Type} (read : Json.Reader α) {put : α → σ → σ} (o : α → ω)
    (puts : ∀ a s, put a s = o a • s) :
    Json.Uniform ω fun s c => read c >>= fun r => .ok (put r.1 s, r.2) := by
  intro c
  refine .after (read c) fun r => ?_
  exact .changes (o r.1) r.2 fun s => by rw [puts]

theorem uniform_unsignedField (name : String) {put : UInt64 → σ → σ} (o : UInt64 → ω)
    (puts : ∀ n s, put n s = o n • s) : Json.Uniform ω (unsignedField name put).read :=
  uniform_put (Json.integer 0 Text.Numeral.uint64Max "u64") (fun n => o (UInt64.ofNat n.toNat))
    fun n => puts (UInt64.ofNat n.toNat)

theorem uniform_signedField (name : String) {put : Int64 → σ → σ} (o : Int64 → ω)
    (puts : ∀ n s, put n s = o n • s) : Json.Uniform ω (signedField name put).read :=
  uniform_put (Json.integer Text.Numeral.int64Size (Text.Numeral.int64Size - 1) "i64")
    (fun n => o (Int64.ofInt n)) fun n => puts (Int64.ofInt n)

end

theorem uniform_fields : ∀ field ∈ fields, Json.Uniform Overlay field.read := by
  intro field listed
  simp only [fields, List.mem_cons, List.not_mem_nil, or_false] at listed
  rcases listed with rfl | rfl
  · refine Json.uniform_record (fun field listed => ?_) _
    rw [List.mem_singleton.mp listed]
    exact uniform_unsignedField _ (fun n => Overlay.mk (some n) none none) fun _ _ => rfl
  · refine Json.uniform_record (fun field listed => ?_) _
    simp only [List.mem_cons, List.not_mem_nil, or_false] at listed
    rcases listed with rfl | rfl
    · exact uniform_signedField _ (fun n => Overlay.mk none (some n) none) fun _ _ => rfl
    · exact uniform_signedField _ (fun n => Overlay.mk none none (some n)) fun _ _ => rfl

/-- A JSON text is read to the end and puts an overlay on whatever settings there are. -/
def Says (bs : List UInt8) (o : Overlay) : Prop :=
  ∀ s, Json.document (Json.record "struct Config" fields s) bs = .ok (o • s)

theorem ofJson_eq_ok_iff (bs : List UInt8) (s : Settings) :
    ofJson bs = .ok s ↔ ∃ o, Says bs o ∧ s = o • default := by
  constructor
  · intro read
    have uniform := Json.uniform_record uniform_fields "struct Config"
    rcases Json.alike_document uniform bs with ⟨o, said⟩ | ⟨fault, failed⟩
    · refine ⟨o, said, ?_⟩
      rw [ofJson, said] at read
      exact (Except.ok.inj read).symm
    · rw [ofJson, failed] at read
      cases read
  · rintro ⟨o, said, rfl⟩
    exact said default

open Json (Entry Takes digits numeral objectText IsCloser isPlain)

theorem takes_unsignedField (name : String) (put : UInt64 → Settings → Settings) (n : UInt64)
    (s : Settings) (mark : UInt8) (rest : List UInt8) (closer : IsCloser mark) :
    Takes ((unsignedField name put).read s) (digits n.toNat) (put n s) (mark :: rest) := by
  intro c ahead
  have small : n.toNat ≤ Text.Numeral.uint64Max := Nat.le_of_lt_succ n.toNat_lt
  obtain ⟨c', behind, read⟩ := Json.takes_integer 0 Text.Numeral.uint64Max "u64" n.toNat rest
    (Int.natCast_nonneg _) (Int.ofNat_le.mpr small) (by decide) (by decide) closer.endsNumber c ahead
  refine ⟨c', behind, ?_⟩
  simp [unsignedField, read, bind, Except.bind]

theorem takes_signedField (name : String) (put : Int64 → Settings → Settings) (n : Int64)
    (s : Settings) (mark : UInt8) (rest : List UInt8) (closer : IsCloser mark) :
    Takes ((signedField name put).read s) (numeral n.toInt) (put n s) (mark :: rest) := by
  intro c ahead
  obtain ⟨c', behind, read⟩ := Json.takes_integer Text.Numeral.int64Size
    (Text.Numeral.int64Size - 1) "i64" n.toInt rest n.le_toInt (Int.le_of_lt_add_one n.toInt_lt)
    (by decide) (by decide) closer.endsNumber c ahead
  refine ⟨c', behind, ?_⟩
  simp [signedField, read, bind, Except.bind]

section

variable {fields : List (Json.FieldReader Settings)} {name : String}

theorem fits_unsignedField (put : UInt64 → Settings → Settings) (n : UInt64) (o : Overlay)
    (puts : ∀ s, put n s = o • s) (plain : isPlain name = true)
    (found : fields.find? (·.name == name) = some (unsignedField name put)) :
    (⟨unsignedField name put, digits n.toNat, o⟩ : Entry Overlay Settings).Fits fields := by
  refine ⟨plain, found, fun s mark rest closer => ?_⟩
  rw [← puts]
  exact takes_unsignedField name put n s mark rest closer

theorem fits_signedField (put : Int64 → Settings → Settings) (n : Int64) (o : Overlay)
    (puts : ∀ s, put n s = o • s) (plain : isPlain name = true)
    (found : fields.find? (·.name == name) = some (signedField name put)) :
    (⟨signedField name put, numeral n.toInt, o⟩ : Entry Overlay Settings).Fits fields := by
  refine ⟨plain, found, fun s mark rest closer => ?_⟩
  rw [← puts]
  exact takes_signedField name put n s mark rest closer

end

namespace Overlay

/-- A JSON text that gives values to the settings of an overlay and to no others. -/
def toJson (o : Overlay) : String :=
  Json.objectString [
    ("transport", Json.objectString
      (o.responseTimeoutMs.toList.map fun n => ("response_timeout_ms", toString n.toNat))),
    ("defaults", Json.objectString
      ((o.deviceId.toList.map fun n => ("device_id", toString n.toInt)) ++
        o.currentFirmware.toList.map fun n => ("current_firmware", toString n.toInt)))]

def transportEntries (o : Overlay) : List (Entry Overlay Settings) :=
  o.responseTimeoutMs.toList.map fun n =>
    ⟨responseTimeoutField, digits n.toNat, ⟨some n, none, none⟩⟩

def defaultsEntries (o : Overlay) : List (Entry Overlay Settings) :=
  (o.deviceId.toList.map fun n => ⟨deviceIdField, numeral n.toInt, ⟨none, some n, none⟩⟩) ++
    o.currentFirmware.toList.map fun n =>
      ⟨currentFirmwareField, numeral n.toInt, ⟨none, none, some n⟩⟩

def entries (o : Overlay) : List (Entry Overlay Settings) :=
  [⟨transportField, objectText o.transportEntries, Json.changes o.transportEntries⟩,
    ⟨defaultsField, objectText o.defaultsEntries, Json.changes o.defaultsEntries⟩]

theorem fit_transportEntries (o : Overlay) :
    Json.Fit [responseTimeoutField] o.transportEntries := by
  constructor
  · intro e listed
    obtain ⟨n, -, rfl⟩ := List.mem_map.mp listed
    exact fits_unsignedField (fun n s => { s with responseTimeoutMs := n }) n _ (fun _ => rfl)
      (by decide +kernel) rfl
  · rw [transportEntries]
    cases o.responseTimeoutMs <;> simp

theorem fit_defaultsEntries (o : Overlay) :
    Json.Fit [deviceIdField, currentFirmwareField] o.defaultsEntries := by
  constructor
  · intro e listed
    rcases List.mem_append.mp listed with device | firmware
    · obtain ⟨n, -, rfl⟩ := List.mem_map.mp device
      exact fits_signedField (fun n s => { s with deviceId := n }) n _ (fun _ => rfl)
        (by decide +kernel) rfl
    · obtain ⟨n, -, rfl⟩ := List.mem_map.mp firmware
      exact fits_signedField (fun n s => { s with currentFirmware := n }) n _ (fun _ => rfl)
        (by decide +kernel) rfl
  · have different : deviceIdField.name ≠ currentFirmwareField.name := by decide +kernel
    rw [defaultsEntries]
    cases o.deviceId <;> cases o.currentFirmware <;> simp [different]

theorem fit_entries (o : Overlay) : Json.Fit fields o.entries := by
  constructor
  · intro e listed
    rcases List.mem_cons.mp listed with rfl | listed
    · have plain : isPlain transportField.name = true := by decide +kernel
      refine ⟨plain, rfl, fun s mark rest closer => ?_⟩
      exact Json.takes_record (fit_transportEntries o) s (mark :: rest) _
    · rw [List.mem_singleton.mp listed]
      have plain : isPlain defaultsField.name = true := by decide +kernel
      refine ⟨plain, rfl, fun s mark rest closer => ?_⟩
      exact Json.takes_record (fit_defaultsEntries o) s (mark :: rest) _
  · show [transportField.name, defaultsField.name].Nodup
    decide +kernel

theorem changes_entries (o : Overlay) : Json.changes o.entries = o := by
  obtain ⟨timeout, device, firmware⟩ := o
  cases timeout <;> cases device <;> cases firmware <;> rfl

theorem writes_transportEntries (o : Overlay) : List.Forall₂ Json.Writes
    (o.responseTimeoutMs.toList.map fun n => ("response_timeout_ms", toString n.toNat))
    o.transportEntries := by
  rw [transportEntries]
  cases o.responseTimeoutMs with
  | none => exact .nil
  | some n => exact .cons ⟨rfl, rfl⟩ .nil

theorem writes_defaultsEntries (o : Overlay) : List.Forall₂ Json.Writes
    ((o.deviceId.toList.map fun n => ("device_id", toString n.toInt)) ++
      o.currentFirmware.toList.map fun n => ("current_firmware", toString n.toInt))
    o.defaultsEntries := by
  rw [defaultsEntries]
  refine List.rel_append ?_ ?_
  · cases o.deviceId with
    | none => exact .nil
    | some n => exact .cons ⟨rfl, rfl⟩ .nil
  · cases o.currentFirmware with
    | none => exact .nil
    | some n => exact .cons ⟨rfl, rfl⟩ .nil

theorem ofString_toJson (o : Overlay) : Text.Utf8.ofString o.toJson = objectText o.entries := by
  have transport := Json.ofString_objectString (writes_transportEntries o)
  have defaults := Json.ofString_objectString (writes_defaultsEntries o)
  exact Json.ofString_objectString (.cons ⟨rfl, transport⟩ (.cons ⟨rfl, defaults⟩ .nil))

end Overlay

theorem says_toJson (o : Overlay) : Says (Text.Utf8.ofString o.toJson) o := by
  intro s
  have read := Json.document_objectText (Overlay.fit_entries o) s "struct Config"
  rw [Overlay.ofString_toJson, read, Overlay.changes_entries]

end CheckIn.Settings

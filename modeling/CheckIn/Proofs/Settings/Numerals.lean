import CheckIn.Proofs.Settings.Documents
import CheckIn.Proofs.Text.Numerals

/-! One setting, given as a numeral by its variable or by the file. An integer that can be used is
what the setting holds in the end, and no other one gets that far. -/
namespace CheckIn.Settings

open Json (SpellsDocument)
open Text.Utf8 (encode)

inductive Setting where
  | responseTimeout | deviceId | currentFirmware
  deriving DecidableEq, Repr

namespace Setting

def sectionName : Setting → String
  | responseTimeout => "transport"
  | deviceId | currentFirmware => "defaults"

def slot : Setting → Slot
  | responseTimeout => timeoutSlot
  | deviceId => deviceSlot
  | currentFirmware => firmwareSlot

def variableName : Setting → String
  | responseTimeout => "COAP_HEARTBEAT_RESPONSE_TIMEOUT_MS"
  | deviceId => "COAP_HEARTBEAT_DEVICE_ID"
  | currentFirmware => "COAP_HEARTBEAT_CURRENT_FIRMWARE"

def view : Setting → Overlay → Option Int
  | responseTimeout => fun o => o.responseTimeoutMs.map fun n => (n.toNat : Int)
  | deviceId => fun o => o.deviceId.map Int64.toInt
  | currentFirmware => fun o => o.currentFirmware.map Int64.toInt

def held (s : Settings) : Setting → Int
  | responseTimeout => s.responseTimeoutMs.toNat
  | deviceId => s.deviceId.toInt
  | currentFirmware => s.currentFirmware.toInt

/-- The integers that can be used; a timeout of zero cannot, though it is read. -/
def Holds : Setting → Int → Prop
  | responseTimeout, n => 0 < n ∧ n < 2 ^ 64
  | deviceId, n | currentFirmware, n => -2 ^ 63 ≤ n ∧ n < 2 ^ 63

section

variable (q : Setting)

theorem viewed : q.slot.ViewedBy q.sectionName q.view := by
  cases q
  · exact timeout_viewed
  · exact device_viewed
  · exact firmware_viewed

theorem listed : q.slot ∈ slotsOf q.sectionName := by
  rw [mem_slotsOf_iff]
  cases q
  · exact .inl ⟨rfl, rfl⟩
  · exact .inr ⟨rfl, .inl rfl⟩
  · exact .inr ⟨rfl, .inr rfl⟩

theorem exists_of_listed {sectionName : String} {slot : Slot}
    (listed : slot ∈ slotsOf sectionName) :
    ∃ q : Setting, sectionName = q.sectionName ∧ slot = q.slot := by
  rcases mem_slotsOf_iff.mp listed with ⟨rfl, rfl⟩ | ⟨rfl, rfl | rfl⟩
  · exact ⟨responseTimeout, rfl, rfl⟩
  · exact ⟨deviceId, rfl, rfl⟩
  · exact ⟨currentFirmware, rfl, rfl⟩

theorem holds_iff (n : Int) :
    q.Holds n ↔ q.slot.Holds n ∧ (q = responseTimeout → n ≠ 0) := by
  cases q with
  | responseTimeout =>
    show _ ↔ (-((0 : Nat) : Int) ≤ n ∧ n ≤ (0xffffffffffffffff : Nat)) ∧ _
    simp only [Holds, forall_const]
    omega
  | deviceId =>
    show _ ↔ (-((0x8000000000000000 : Nat) : Int) ≤ n ∧ n ≤ (0x7fffffffffffffff : Nat)) ∧ _
    simp only [Holds, reduceCtorEq, false_implies, and_true]
    omega
  | currentFirmware =>
    show _ ↔ (-((0x8000000000000000 : Nat) : Int) ≤ n ∧ n ≤ (0x7fffffffffffffff : Nat)) ∧ _
    simp only [Holds, reduceCtorEq, false_implies, and_true]
    omega

theorem held_smul (o : Overlay) (s : Settings) : q.held (o • s) = (q.view o).getD (q.held s) := by
  cases q
  · show ((o.responseTimeoutMs.getD _).toNat : Int) = (o.responseTimeoutMs.map _).getD _
    cases o.responseTimeoutMs <;> rfl
  · show (o.deviceId.getD _).toInt = (o.deviceId.map _).getD _
    cases o.deviceId <;> rfl
  · show (o.currentFirmware.getD _).toInt = (o.currentFirmware.map _).getD _
    cases o.currentFirmware <;> rfl

theorem slot_holds_held (s : Settings) : q.slot.Holds (q.held s) := by
  cases q with
  | responseTimeout =>
    exact ⟨Int.natCast_nonneg _, Int.ofNat_le.mpr (Nat.le_of_lt_succ s.responseTimeoutMs.toNat_lt)⟩
  | deviceId => exact ⟨s.deviceId.le_toInt, Int.le_of_lt_add_one s.deviceId.toInt_lt⟩
  | currentFirmware =>
    exact ⟨s.currentFirmware.le_toInt, Int.le_of_lt_add_one s.currentFirmware.toInt_lt⟩

variable {q}

theorem view_other {other : Setting} (different : other ≠ q) (n : Int) :
    other.view (q.slot.place n) = none := by
  refine other.viewed.others q.sectionName q.slot q.listed ?_ n
  cases q <;> cases other <;> first | exact absurd rfl different | decide

theorem held_place_smul {n : Int} (holds : q.slot.Holds n) (s : Settings) :
    q.held (q.slot.place n • s) = n := by
  rw [held_smul, q.viewed.own n holds]
  rfl

theorem held_place_smul_other {other : Setting} (different : other ≠ q) (n : Int) (s : Settings) :
    other.held (q.slot.place n • s) = other.held s := by
  rw [held_smul, view_other different]
  rfl

end

end Setting

theorem responseTimeoutMs_ne_zero_iff (s : Settings) :
    s.responseTimeoutMs ≠ 0 ↔ Setting.responseTimeout.held s ≠ 0 := by
  show _ ↔ (s.responseTimeoutMs.toNat : Int) ≠ 0
  rw [Ne, Ne, Int.natCast_eq_zero, ← UInt64.toNat_inj]
  rfl

/-- A variable whose text is a numeral with blanks around it. -/
def Spells (raw : String) (n : Int) : Prop := ∃ before after : List Char,
  (∀ c ∈ before, Text.isBlank c = true) ∧ (∀ c ∈ after, Text.isBlank c = true) ∧
    raw = String.ofList (before ++ ((toString n).toList ++ after))

theorem Spells.trimmed {raw : String} {n : Int} (spells : Spells raw n) :
    Settings.trimmed raw = toString n := by
  obtain ⟨before, after, leading, trailing, rfl⟩ := spells
  exact trimmed_toString n leading trailing

section

variable {α : Type} {read : String → Except Text.Numeral.Fault α} {low high : Nat} {word : Int → α}
  (bounded : ∀ raw : String, read raw = (Text.Numeral.read low high raw.toList).map word)
  {raw : String} {n : Int} (spells : Spells raw n)
include bounded spells

theorem reads_of_spells (holds : -(low : Int) ≤ n ∧ n ≤ high) :
    Reads read (some raw) (some (word n)) := by
  refine .set raw (word n) ?_
  rw [spells.trimmed, bounded, Text.read_toString, if_pos holds]
  rfl

theorem holds_of_reads {a : Option α} (reads : Reads read (some raw) a) :
    (-(low : Int) ≤ n ∧ n ≤ high) ∧ a = some (word n) := by
  cases reads with
  | set _ a read =>
    rw [spells.trimmed, bounded, Text.read_toString] at read
    split at read
    · next holds => exact ⟨holds, congrArg some (Except.ok.inj read).symm⟩
    · cases read

end

theorem Reads.eq_none {α : Type} {read : String → Except Text.Numeral.Fault α} {a : Option α}
    (reads : Reads read none a) : a = none := by
  cases reads
  rfl

section

variable {lookup lookup' : String → Option String} {vars : Overlay} {q : Setting} {raw : String}
  {n : Int} (said : VariablesSay lookup vars)
include said

theorem view_of_spells (text : lookup q.variableName = some raw) (spells : Spells raw n) :
    q.slot.Holds n ∧ q.view vars = some n := by
  have shown (holds : q.slot.Holds n) : q.view (q.slot.place n) = some n := q.viewed.own n holds
  obtain ⟨timeout, device, firmware⟩ := said
  cases q with
  | responseTimeout =>
    have text : lookup "COAP_HEARTBEAT_RESPONSE_TIMEOUT_MS" = some raw := text
    rw [text] at timeout
    obtain ⟨holds, same⟩ := holds_of_reads (fun _ => rfl) spells timeout
    exact ⟨holds, (congrArg (Option.map _) same).trans (shown holds)⟩
  | deviceId =>
    have text : lookup "COAP_HEARTBEAT_DEVICE_ID" = some raw := text
    rw [text] at device
    obtain ⟨holds, same⟩ := holds_of_reads (fun _ => rfl) spells device
    exact ⟨holds, (congrArg (Option.map _) same).trans (shown holds)⟩
  | currentFirmware =>
    have text : lookup "COAP_HEARTBEAT_CURRENT_FIRMWARE" = some raw := text
    rw [text] at firmware
    obtain ⟨holds, same⟩ := holds_of_reads (fun _ => rfl) spells firmware
    exact ⟨holds, (congrArg (Option.map _) same).trans (shown holds)⟩

theorem view_of_unset (unset : lookup q.variableName = none) : q.view vars = none := by
  obtain ⟨timeout, device, firmware⟩ := said
  cases q with
  | responseTimeout =>
    have unset : lookup "COAP_HEARTBEAT_RESPONSE_TIMEOUT_MS" = none := unset
    rw [unset] at timeout
    exact congrArg (Option.map _) timeout.eq_none
  | deviceId =>
    have unset : lookup "COAP_HEARTBEAT_DEVICE_ID" = none := unset
    rw [unset] at device
    exact congrArg (Option.map _) device.eq_none
  | currentFirmware =>
    have unset : lookup "COAP_HEARTBEAT_CURRENT_FIRMWARE" = none := unset
    rw [unset] at firmware
    exact congrArg (Option.map _) firmware.eq_none

theorem says_place (others : ∀ name, name ≠ q.variableName → lookup' name = lookup name)
    (text : lookup' q.variableName = some raw) (spells : Spells raw n) (holds : q.slot.Holds n) :
    VariablesSay lookup' (q.slot.place n * vars) := by
  obtain ⟨timeout, device, firmware⟩ := said
  cases q with
  | responseTimeout =>
    have text : lookup' "COAP_HEARTBEAT_RESPONSE_TIMEOUT_MS" = some raw := text
    rw [← others "COAP_HEARTBEAT_DEVICE_ID" (by decide)] at device
    rw [← others "COAP_HEARTBEAT_CURRENT_FIRMWARE" (by decide)] at firmware
    exact ⟨text ▸ reads_of_spells (fun _ => rfl) spells holds, device, firmware⟩
  | deviceId =>
    have text : lookup' "COAP_HEARTBEAT_DEVICE_ID" = some raw := text
    rw [← others "COAP_HEARTBEAT_RESPONSE_TIMEOUT_MS" (by decide)] at timeout
    rw [← others "COAP_HEARTBEAT_CURRENT_FIRMWARE" (by decide)] at firmware
    exact ⟨timeout, text ▸ reads_of_spells (fun _ => rfl) spells holds, firmware⟩
  | currentFirmware =>
    have text : lookup' "COAP_HEARTBEAT_CURRENT_FIRMWARE" = some raw := text
    rw [← others "COAP_HEARTBEAT_RESPONSE_TIMEOUT_MS" (by decide)] at timeout
    rw [← others "COAP_HEARTBEAT_DEVICE_ID" (by decide)] at device
    exact ⟨timeout, device, text ▸ reads_of_spells (fun _ => rfl) spells holds⟩

end

section

variable {env : Environment} {q : Setting}

theorem settle_of_spells {raw : String} {n : Int} (text : env.text? q.variableName = some raw)
    (spells : Spells raw n) (base : Settings) :
    (¬q.Holds n → ∀ t, settle env base ≠ .ok t) ∧
    (q.Holds n → ∀ t, settle (env.setText q.variableName "1") base = .ok t →
      ∃ t', settle env base = .ok t' ∧ q.held t' = n) := by
  constructor
  · intro outside t settled
    obtain ⟨⟨vars, said, rfl⟩, positive⟩ := (settle_eq_ok_iff env base t).mp settled
    obtain ⟨holds, shown⟩ := view_of_spells said text spells
    have held : q.held (vars • base) = n := by
      rw [q.held_smul, shown]
      rfl
    refine outside ((q.holds_iff n).mpr ⟨holds, ?_⟩)
    rintro rfl
    rw [← held]
    exact (responseTimeoutMs_ne_zero_iff _).mp positive
  · intro inside t settled
    obtain ⟨holds, nonzero⟩ := (q.holds_iff n).mp inside
    obtain ⟨⟨vars, said, rfl⟩, positive⟩ := (settle_eq_ok_iff _ base t).mp settled
    have others (name : String) (other : name ≠ q.variableName) :
        env.text? name = (env.setText q.variableName "1").text? name := by
      rw [Environment.text?_setText, if_neg other]
    have said' := says_place said others text spells holds
    have held : q.held ((q.slot.place n * vars) • base) = n := by
      rw [mul_smul]
      exact Setting.held_place_smul holds _
    refine ⟨_, (settle_eq_ok_iff env base _).mpr ⟨⟨_, said', rfl⟩, ?_⟩, held⟩
    rw [responseTimeoutMs_ne_zero_iff]
    by_cases timeout : Setting.responseTimeout = q
    · rw [timeout, held]
      exact nonzero timeout.symm
    · rw [mul_smul, Setting.held_place_smul_other timeout]
      exact (responseTimeoutMs_ne_zero_iff _).mp positive

theorem settle_of_unset (unset : env.text? q.variableName = none) (base : Settings) :
    (¬q.Holds (q.held base) → ∀ t, settle env base ≠ .ok t) ∧
    (q.Holds (q.held base) → ∀ base' t, (∀ other, other ≠ q → other.held base' = other.held base) →
      settle env base' = .ok t → ∃ t', settle env base = .ok t' ∧ q.held t' = q.held base) := by
  have kept {vars : Overlay} (said : VariablesSay env.text? vars) :
      q.held (vars • base) = q.held base := by
    rw [q.held_smul, view_of_unset said unset]
    rfl
  constructor
  · intro outside t settled
    obtain ⟨⟨vars, said, rfl⟩, positive⟩ := (settle_eq_ok_iff env base t).mp settled
    refine outside ((q.holds_iff _).mpr ⟨q.slot_holds_held base, ?_⟩)
    rintro rfl
    rw [← kept said]
    exact (responseTimeoutMs_ne_zero_iff _).mp positive
  · intro inside base' t same settled
    obtain ⟨-, nonzero⟩ := (q.holds_iff _).mp inside
    obtain ⟨⟨vars, said, rfl⟩, positive⟩ := (settle_eq_ok_iff env base' t).mp settled
    refine ⟨_, (settle_eq_ok_iff env base _).mpr ⟨⟨vars, said, rfl⟩, ?_⟩, kept said⟩
    rw [responseTimeoutMs_ne_zero_iff] at positive ⊢
    by_cases timeout : Setting.responseTimeout = q
    · rw [timeout, kept said]
      exact nonzero timeout.symm
    · rw [Setting.held_smul] at positive ⊢
      rwa [← same _ timeout]

end

theorem holdsFound_iff {parts : List Part} {s : Settings} : HoldsFound parts s ↔
    ∀ q : Setting, Shows (found parts q.sectionName q.slot.name) (q.held default) (q.held s) := by
  constructor
  · rintro ⟨timeout, device, firmware⟩ q
    cases q
    · exact timeout
    · exact device
    · exact firmware
  · intro holds
    exact ⟨holds .responseTimeout, holds .deviceId, holds .currentFirmware⟩

theorem mem_found_iff {parts : List Part} {sectionName name : String} {n : Int} :
    n ∈ found parts sectionName name ↔ ∃ p ∈ parts, p.name = sectionName ∧
      ∃ l ∈ p.leaves, l.name = name ∧ l.value = .integer n := by
  have integer (value : LeafValue) : value.integer? = some n ↔ value = .integer n := by
    cases value <;> simp [LeafValue.integer?]
  simp only [found, Part.found, List.mem_flatMap, List.mem_filter, List.mem_filterMap,
    decide_eq_true_eq, and_assoc, integer]

theorem inRange_of_found {parts : List Part}
    (holds : ∀ q : Setting, ∀ n ∈ found parts q.sectionName q.slot.name, q.slot.Holds n) :
    InRange parts := by
  intro p inside l member slot listed same n value
  obtain ⟨q, named, rfl⟩ := Setting.exists_of_listed listed
  exact holds q n (mem_found_iff.mpr ⟨p, inside, named, l, member, same.symm, value⟩)

/-- A document in which a setting is a numeral is read if the integer lies within the bounds and it
would be read with another one. The other settings are what they would be then. -/
theorem ofJson_of_found {parts : List Part} {text : List Char} (shaped : Shaped parts)
    (spells : SpellsDocument (parts.map Part.member) text) {q : Setting} {n : Int}
    (written : found parts q.sectionName q.slot.name = [n]) :
    (∀ s, ofJson (encode text) = .ok s → q.held s = n) ∧
    (q.slot.Holds n → Once parts → ∀ base : Settings,
      (∀ other, other ≠ q → Shows (found parts other.sectionName other.slot.name)
        (other.held default) (other.held base)) →
      ∃ s, ofJson (encode text) = .ok s ∧ ∀ other, other ≠ q → other.held s = other.held base) := by
  obtain ⟨reads, refuses, -⟩ := ofJson_document shaped spells
  constructor
  · intro s read
    by_cases fits : Once parts ∧ InRange parts
    · obtain ⟨s', read', holds⟩ := reads fits.1 fits.2
      obtain rfl := Except.ok.inj (read'.symm.trans read)
      have shows := holdsFound_iff.mp holds q
      rw [written] at shows
      rcases shows with one | ⟨nothing, -⟩
      · exact (List.singleton_inj.mp one).symm
      · cases nothing
    · obtain ⟨fault, refused⟩ := refuses fits
      cases refused.symm.trans read
  · intro inside once base shown
    have inRange : InRange parts := by
      refine inRange_of_found fun other m member => ?_
      by_cases same : other = q
      · subst same
        rw [written, List.mem_singleton] at member
        exact member ▸ inside
      · rcases shown other same with one | ⟨nothing, -⟩
        · rw [one, List.mem_singleton] at member
          exact member ▸ other.slot_holds_held base
        · rw [nothing] at member
          cases member
    obtain ⟨s, read, holds⟩ := reads once inRange
    refine ⟨s, read, fun other different => ?_⟩
    exact (holdsFound_iff.mp holds other).unique (shown other different)

theorem fromFile_text {σ : Type} (files : FixedFiles) (log : Log.Event → StateM σ Unit) (w : σ)
    (env : Environment) (account : Option String) (named : Option Text.Raw) {text : List Char}
    (content : files.read (named.getD (path env account)) = .ok (encode text)) :
    (fromFile files.asFiles log env account named w).1 = (ofJson (encode text)).mapError .json := by
  cases named with
  | some chosen => exact ofFile_text files log w content
  | none =>
    have present : files.asFiles.isPresent (path env account) = (pure true : StateM σ _) :=
      congrArg pure (files.present content)
    rw [fromFile, present, pure_bind]
    exact ofFile_text files log w content

end CheckIn.Settings

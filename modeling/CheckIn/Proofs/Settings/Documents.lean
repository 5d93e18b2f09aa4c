import CheckIn.Proofs.Json.Integers
import CheckIn.Proofs.Json.Objects
import CheckIn.Proofs.Settings.Precedence
import Mathlib.Data.List.Nodup

/-! JSON documents that give some of the settings, in any layout and among any other members. What
is read from such a document are the settings in it, over the built-in ones. -/
namespace CheckIn.Settings

open Json (Item Judges Refusal SpellsDocument SpellsObject total)
open Text.Utf8 (encode)

/-- The value of a member of a section. -/
inductive LeafValue where
  | integer (n : Int)
  | other (text : List Char)

def LeafValue.text : LeafValue → List Char
  | integer n => (toString n).toList
  | other text => text

def LeafValue.integer? : LeafValue → Option Int
  | integer n => some n
  | other _ => none

structure Leaf where
  name : String
  value : LeafValue

def Leaf.member (l : Leaf) : Json.Member := (l.name, l.value.text)

/-- A member of a document, with the members of its value if it is a section. -/
structure Part where
  name : String
  text : List Char
  leaves : List Leaf

def Part.member (p : Part) : Json.Member := (p.name, p.text)

/-- A setting in a section: its bounds, and what an integer within them changes. -/
structure Slot where
  name : String
  low : Nat
  high : Nat
  place : Int → Overlay

def Slot.Holds (slot : Slot) (n : Int) : Prop := -(slot.low : Int) ≤ n ∧ n ≤ slot.high

instance (slot : Slot) (n : Int) : Decidable (slot.Holds n) := inferInstanceAs (Decidable (_ ∧ _))

def timeoutSlot : Slot := ⟨"response_timeout_ms", 0, Text.Numeral.uint64Max,
  fun n => ⟨some (UInt64.ofNat n.toNat), none, none⟩⟩

def deviceSlot : Slot := ⟨"device_id", Text.Numeral.int64Size, Text.Numeral.int64Size - 1,
  fun n => ⟨none, some (Int64.ofInt n), none⟩⟩

def firmwareSlot : Slot := ⟨"current_firmware", Text.Numeral.int64Size, Text.Numeral.int64Size - 1,
  fun n => ⟨none, none, some (Int64.ofInt n)⟩⟩

/-- The settings of a section; what is no section has none. -/
def slotsOf (name : String) : List Slot :=
  if name = "transport" then [timeoutSlot]
  else if name = "defaults" then [deviceSlot, firmwareSlot]
  else []

def sectionNames : List String := ["transport", "defaults"]

/-- The settings among the members of a part, by name. -/
def Part.settingNames (p : Part) : List String :=
  (p.leaves.map Leaf.name).filter (· ∈ (slotsOf p.name).map Slot.name)

/-- Sections are objects, and the settings in them are integers. -/
def Shaped (parts : List Part) : Prop :=
  ∀ p ∈ parts, p.name ∈ sectionNames → SpellsObject (p.leaves.map Leaf.member) p.text ∧
    ∀ l ∈ p.leaves, l.name ∈ (slotsOf p.name).map Slot.name → ∃ n, l.value = .integer n

def InRange (parts : List Part) : Prop :=
  ∀ p ∈ parts, ∀ l ∈ p.leaves, ∀ slot ∈ slotsOf p.name, slot.name = l.name →
    ∀ n, l.value = .integer n → slot.Holds n

/-- No section stands in the document twice, and no setting in its section. -/
def Once (parts : List Part) : Prop :=
  ((parts.map Part.name).filter (· ∈ sectionNames)).Nodup ∧
    ∀ p ∈ parts, p.name ∈ sectionNames → p.settingNames.Nodup

def Slot.change (slot : Slot) (n : Int) : Except Refusal Overlay :=
  if slot.Holds n then .ok (slot.place n) else .error .other

/-- The field that a setting is read by. -/
structure Slot.ReadBy (slot : Slot) (field : Json.FieldReader Settings) : Prop where
  name : field.name = slot.name
  judges : ∀ n : Int, Judges field.read (toString n).toList (slot.change n)

theorem judges_integer {low high : Nat} (expected : String) (place : Int → Overlay)
    (put : Int → Settings → Settings) (puts : ∀ n s, put n s = place n • s)
    (lowFits : low ≤ 0x8000000000000000) (highFits : high ≤ Json.significandLimit) (n : Int) :
    Judges (fun s c => do
        let (n, c) ← Json.integer low high expected c
        .ok (put n s, c))
      (toString n).toList
      (if -(low : Int) ≤ n ∧ n ≤ high then .ok (place n) else .error .other) := by
  intro s mark rest c isEnd faces
  have read := Json.integer_of_faces expected n lowFits highFits isEnd faces
  split at read
  · next inside =>
    obtain ⟨c', behind, read⟩ := read
    rw [if_pos inside]
    refine ⟨c', behind, ?_⟩
    simp only [read, bind, Except.bind, puts]
  · next outside =>
    obtain ⟨fault, read⟩ := read
    rw [if_neg outside]
    refine ⟨fault, trivial, ?_⟩
    simp only [read, bind, Except.bind]

theorem readBy_transport : List.Forall₂ Slot.ReadBy [timeoutSlot] [responseTimeoutField] := by
  refine .cons ⟨rfl, ?_⟩ .nil
  exact judges_integer "u64" _ (fun n s => { s with responseTimeoutMs := UInt64.ofNat n.toNat })
    (fun _ _ => rfl) (by decide) (by decide)

theorem readBy_defaults :
    List.Forall₂ Slot.ReadBy [deviceSlot, firmwareSlot] [deviceIdField, currentFirmwareField] := by
  refine .cons ⟨rfl, ?_⟩ (.cons ⟨rfl, ?_⟩ .nil)
  · exact judges_integer "i64" _ (fun n s => { s with deviceId := Int64.ofInt n })
      (fun _ _ => rfl) (by decide) (by decide)
  · exact judges_integer "i64" _ (fun n s => { s with currentFirmware := Int64.ofInt n })
      (fun _ _ => rfl) (by decide) (by decide)

/-- A leaf as an item, with what it changes if it is one of these settings. -/
def Leaf.item (slots : List Slot) (l : Leaf) : Item Overlay :=
  ⟨l.name, l.value.text, match slots.find? (·.name == l.name), l.value.integer? with
    | some slot, some n => slot.change n
    | _, _ => .ok 1⟩

theorem readBy_of_find? {slots : List Slot} {fields : List (Json.FieldReader Settings)}
    (readBy : List.Forall₂ Slot.ReadBy slots fields) {name : String}
    {field : Json.FieldReader Settings} (found : fields.find? (·.name == name) = some field) :
    ∃ slot, slots.find? (·.name == name) = some slot ∧ slot.ReadBy field := by
  induction readBy with
  | nil => cases found
  | @cons slot field' slots fields first _ ih =>
    rw [List.find?_cons, first.name] at found
    rw [List.find?_cons]
    split at found
    · cases found
      exact ⟨slot, rfl, first⟩
    · exact ih found

theorem fits_leaves {slots : List Slot} {fields : List (Json.FieldReader Settings)}
    (readBy : List.Forall₂ Slot.ReadBy slots fields) {leaves : List Leaf}
    (integers : ∀ l ∈ leaves, l.name ∈ slots.map Slot.name → ∃ n, l.value = .integer n) :
    ∀ i ∈ leaves.map (Leaf.item slots), i.Fits fields := by
  intro i member field found
  obtain ⟨l, inside, rfl⟩ := List.mem_map.mp member
  obtain ⟨slot, hit, read⟩ := readBy_of_find? readBy found
  have hit : slots.find? (·.name == l.name) = some slot := hit
  have known : l.name ∈ slots.map Slot.name :=
    List.mem_map.mpr ⟨slot, List.mem_of_find?_eq_some hit, by simpa using List.find?_some hit⟩
  obtain ⟨n, value⟩ := integers l inside known
  have same : (l.item slots).change = slot.change n := by
    rw [Leaf.item, hit, value]
    rfl
  rw [same]
  show Judges field.read l.value.text (slot.change n)
  rw [value]
  exact read.judges n

def Part.change (p : Part) : Except Refusal Overlay :=
  total ((slotsOf p.name).map Slot.name) [] (p.leaves.map (Leaf.item (slotsOf p.name)))

def Part.item (p : Part) : Item Overlay := ⟨p.name, p.text, p.change⟩

theorem names_of_readBy {slots : List Slot} {fields : List (Json.FieldReader Settings)}
    (readBy : List.Forall₂ Slot.ReadBy slots fields) :
    fields.map Json.FieldReader.name = slots.map Slot.name := by
  induction readBy with
  | nil => rfl
  | cons first _ ih => rw [List.map_cons, List.map_cons, first.name, ih]

theorem judges_section {slots : List Slot} {sectionFields : List (Json.FieldReader Settings)}
    (readBy : List.Forall₂ Slot.ReadBy slots sectionFields) (expected : String) {p : Part}
    (settings : slotsOf p.name = slots)
    (spells : SpellsObject (p.leaves.map Leaf.member) p.text)
    (integers : ∀ l ∈ p.leaves, l.name ∈ slots.map Slot.name → ∃ n, l.value = .integer n) :
    Judges (Json.record expected sectionFields) p.text p.change := by
  intro s mark rest c _ faces
  rw [Part.change, settings, ← names_of_readBy readBy]
  refine Json.record_meets spells ?_ (fits_leaves readBy integers) expected s faces
  rw [List.map_map]
  rfl

theorem fits_parts {parts : List Part} (shaped : Shaped parts) :
    ∀ i ∈ parts.map Part.item, i.Fits fields := by
  intro i member field found
  obtain ⟨p, inside, rfl⟩ := List.mem_map.mp member
  have listed := List.mem_of_find?_eq_some found
  have named : (field.name == p.name) = true :=
    List.find?_some (p := fun field : Json.FieldReader Settings => field.name == p.name) found
  rw [beq_iff_eq] at named
  simp only [fields, List.mem_cons, List.not_mem_nil, or_false] at listed
  rcases listed with rfl | rfl
  · have known : p.name = "transport" := named.symm
    obtain ⟨spells, integers⟩ := shaped p inside (by rw [known]; decide)
    have settings : slotsOf p.name = [timeoutSlot] := by rw [known]; rfl
    exact judges_section readBy_transport _ settings spells (settings ▸ integers)
  · have known : p.name = "defaults" := named.symm
    obtain ⟨spells, integers⟩ := shaped p inside (by rw [known]; decide)
    have settings : slotsOf p.name = [deviceSlot, firmwareSlot] := by rw [known]; rfl
    exact judges_section readBy_defaults _ settings spells (settings ▸ integers)

def documentChange (parts : List Part) : Except Refusal Overlay :=
  total sectionNames [] (parts.map Part.item)

/-- A document changes what the settings in it do, or is refused as they are. -/
theorem document_read {parts : List Part} {text : List Char} (shaped : Shaped parts)
    (spells : SpellsDocument (parts.map Part.member) text) :
    match documentChange parts with
    | .ok o => Says (encode text) o
    | .error r => ∃ fault, r.Explains fault ∧ ofJson (encode text) = .error fault := by
  have same : (parts.map Part.item).map Item.member = parts.map Part.member := by
    rw [List.map_map]
    rfl
  have meets (s : Settings) :=
    Json.document_meets spells same (fits_parts shaped) "struct Config" s
  have names : fields.map Json.FieldReader.name = sectionNames := rfl
  rw [names] at meets
  unfold documentChange
  cases verdict : total sectionNames [] (parts.map Part.item) with
  | ok o =>
    rw [verdict] at meets
    exact meets
  | error r =>
    rw [verdict] at meets
    exact meets default

/-- The integers that stand under a name in a part. -/
def Part.found (p : Part) (name : String) : List Int :=
  (p.leaves.filter (·.name = name)).filterMap (·.value.integer?)

def found (parts : List Part) (sectionName name : String) : List Int :=
  (parts.filter (·.name = sectionName)).flatMap (·.found name)

theorem mem_slotsOf_iff {sectionName : String} {slot : Slot} : slot ∈ slotsOf sectionName ↔
    (sectionName = "transport" ∧ slot = timeoutSlot) ∨
      (sectionName = "defaults" ∧ (slot = deviceSlot ∨ slot = firmwareSlot)) := by
  have apart : "defaults" ≠ "transport" := by decide
  unfold slotsOf
  split
  · next same => simp [same]
  · next other =>
    split
    · next same => simp [same]
    · next other' => simp [other, other']

theorem mem_sectionNames_of_slot {sectionName : String} {slot : Slot}
    (listed : slot ∈ slotsOf sectionName) : sectionName ∈ sectionNames := by
  rcases mem_slotsOf_iff.mp listed with ⟨rfl, -⟩ | ⟨rfl, -⟩ <;> decide

theorem slot_unique {sectionName : String} {slot slot' : Slot} (listed : slot ∈ slotsOf sectionName)
    (listed' : slot' ∈ slotsOf sectionName) (same : slot.name = slot'.name) : slot = slot' := by
  have distinct : ((slotsOf sectionName).map Slot.name).Nodup := by
    rcases mem_slotsOf_iff.mp listed with ⟨rfl, -⟩ | ⟨rfl, -⟩ <;> decide
  exact List.inj_on_of_nodup_map distinct listed listed' same

theorem exists_find?_slot {slots : List Slot} {name : String} (known : name ∈ slots.map Slot.name) :
    ∃ slot, slots.find? (·.name == name) = some slot ∧ slot ∈ slots ∧ slot.name = name := by
  cases hit : slots.find? (·.name == name) with
  | none =>
    obtain ⟨slot, listed, same⟩ := List.mem_map.mp known
    exact absurd same (by simpa using List.find?_eq_none.mp hit slot listed)
  | some slot =>
    exact ⟨slot, rfl, List.mem_of_find?_eq_some hit, by simpa using List.find?_some hit⟩

section

variable {parts : List Part}

theorem change_leaf (shaped : Shaped parts) {p : Part} (inside : p ∈ parts) {l : Leaf}
    (member : l ∈ p.leaves) (known : l.name ∈ (slotsOf p.name).map Slot.name) :
    ∃ slot ∈ slotsOf p.name, slot.name = l.name ∧ ∃ n, l.value = .integer n ∧
      (l.item (slotsOf p.name)).change = slot.change n := by
  obtain ⟨slot, hit, listed, same⟩ := exists_find?_slot known
  obtain ⟨n, value⟩ := (shaped p inside (mem_sectionNames_of_slot listed)).2 l member known
  refine ⟨slot, listed, same, n, value, ?_⟩
  rw [Leaf.item, hit, value]
  rfl

theorem exists_change_iff (shaped : Shaped parts) {p : Part} (inside : p ∈ parts) :
    (∃ o, p.change = .ok o) ↔ p.settingNames.Nodup ∧ ∀ l ∈ p.leaves, ∀ slot ∈ slotsOf p.name,
      slot.name = l.name → ∀ n, l.value = .integer n → slot.Holds n := by
  have names : Json.fieldNames ((slotsOf p.name).map Slot.name)
      (p.leaves.map (Leaf.item (slotsOf p.name))) = p.settingNames := by
    rw [Json.fieldNames, List.map_map]
    rfl
  rw [Part.change, Json.exists_total_iff, names]
  refine and_congr_right fun _ => ?_
  simp only [List.not_mem_nil, not_false_eq_true, implies_true, true_and, List.forall_mem_map]
  refine forall₂_congr fun l member => ?_
  constructor
  · intro reads slot listed same n value
    have known : l.name ∈ (slotsOf p.name).map Slot.name := List.mem_map.mpr ⟨slot, listed, same⟩
    obtain ⟨o, change⟩ := reads known
    obtain ⟨slot', listed', same', n', value', change'⟩ := change_leaf shaped inside member known
    obtain rfl := slot_unique listed listed' (same.trans same'.symm)
    obtain rfl : n' = n := LeafValue.integer.inj (value'.symm.trans value)
    rw [change', Slot.change] at change
    split at change
    · next holds => exact holds
    · cases change
  · intro holds known
    obtain ⟨slot, listed, same, n, value, change⟩ := change_leaf shaped inside member known
    exact ⟨slot.place n, change.trans (if_pos (holds slot listed same n value))⟩

/-- A document is read exactly if nothing that is known stands in it twice and every setting lies
within its bounds. -/
theorem exists_documentChange_iff (shaped : Shaped parts) :
    (∃ o, documentChange parts = .ok o) ↔ Once parts ∧ InRange parts := by
  have names : Json.fieldNames sectionNames (parts.map Part.item) =
      (parts.map Part.name).filter (· ∈ sectionNames) := by
    rw [Json.fieldNames, List.map_map]
    rfl
  rw [documentChange, Json.exists_total_iff, names]
  simp only [List.not_mem_nil, not_false_eq_true, implies_true, true_and, List.forall_mem_map]
  have each : (∀ p ∈ parts, p.item.name ∈ sectionNames → ∃ o, p.item.change = .ok o) ↔
      (∀ p ∈ parts, p.name ∈ sectionNames → p.settingNames.Nodup) ∧ InRange parts := by
    constructor
    · intro reads
      refine ⟨fun p inside known => ((exists_change_iff shaped inside).mp (reads p inside known)).1,
        fun p inside l member slot listed => ?_⟩
      have known := mem_sectionNames_of_slot listed
      exact ((exists_change_iff shaped inside).mp (reads p inside known)).2 l member slot listed
    · rintro ⟨once, inRange⟩ p inside known
      exact (exists_change_iff shaped inside).mpr ⟨once p inside known, inRange p inside⟩
  rw [each, Once, and_assoc]

theorem refusal_of_inRange (shaped : Shaped parts) (inRange : InRange parts) {r : Refusal}
    (refused : documentChange parts = .error r) : ∃ name, r = .repeated name := by
  rcases Json.refusal_of_total refused with repeated | ⟨i, member, -, failed⟩
  · exact repeated
  · obtain ⟨p, inside, rfl⟩ := List.mem_map.mp member
    rcases Json.refusal_of_total failed with repeated | ⟨i, member, known, failed⟩
    · exact repeated
    · obtain ⟨l, within, rfl⟩ := List.mem_map.mp member
      obtain ⟨slot, listed, same, n, value, change⟩ := change_leaf shaped inside within known
      have holds := inRange p inside l within slot listed same n value
      cases failed.symm.trans (change.trans (if_pos holds))

/-- A setting as a part of overlays: what its own integers change and no other setting does. -/
structure Slot.ViewedBy (slot : Slot) (sectionName : String) (view : Overlay → Option Int) :
    Prop where
  nothing : view 1 = none
  either : ∀ later first, view (later * first) = (view later).or (view first)
  own : ∀ n, slot.Holds n → view (slot.place n) = some n
  others : ∀ otherSection, ∀ other ∈ slotsOf otherSection,
    ¬(otherSection = sectionName ∧ other.name = slot.name) → ∀ n, view (other.place n) = none

theorem flatMap_filter_ite {α β : Type} {known own : α → Prop} [DecidablePred known]
    [DecidablePred own] (sub : ∀ x, own x → known x) (f : α → List β) (xs : List α) :
    (xs.filter known).flatMap (fun x => if own x then f x else []) = (xs.filter own).flatMap f := by
  induction xs with
  | nil => rfl
  | cons x xs ih =>
    by_cases isOwn : own x
    · simp [isOwn, sub x isOwn, ih]
    · by_cases isKnown : known x <;> simp [isOwn, isKnown, ih]

variable {slot : Slot} {sectionName : String} {view : Overlay → Option Int}

theorem view_section (viewed : slot.ViewedBy sectionName view) (listed : slot ∈ slotsOf sectionName)
    (shaped : Shaped parts) {p : Part} (inside : p ∈ parts) {o : Overlay}
    (read : p.change = .ok o) :
    view o = (if p.name = sectionName then p.found slot.name else []).getLast? := by
  let own (l : Leaf) : Prop := p.name = sectionName ∧ l.name = slot.name
  let values (l : Leaf) : List Int := if own l then l.value.integer?.toList else []
  have each : ∀ l ∈ p.leaves, (l.item (slotsOf p.name)).name ∈ (slotsOf p.name).map Slot.name →
      ∀ o, (l.item (slotsOf p.name)).change = .ok o → view o = (values l).getLast? := by
    intro l member known o change
    obtain ⟨other, listed', same, n, value, change'⟩ := change_leaf shaped inside member known
    rw [change', Slot.change] at change
    split at change
    · next holds =>
      obtain rfl : other.place n = o := Except.ok.inj change
      by_cases isOwn : own l
      · obtain rfl := slot_unique (isOwn.1 ▸ listed') listed (same.trans isOwn.2)
        rw [viewed.own n holds]
        simp [values, isOwn, value, LeafValue.integer?]
      · rw [viewed.others p.name other listed' (same ▸ isOwn)]
        simp [values, isOwn]
    · cases change
  have known : ∀ l, own l → (l.item (slotsOf p.name)).name ∈ (slotsOf p.name).map Slot.name := by
    rintro l ⟨rfl, same⟩
    exact List.mem_map.mpr ⟨slot, listed, same.symm⟩
  rw [Json.view_total viewed.nothing viewed.either each read, flatMap_filter_ite known]
  congr 1
  split
  · next same => simp [own, same, Part.found, List.filterMap_eq_flatMap_toList]
  · next other => simp [own, other]

theorem view_document (viewed : slot.ViewedBy sectionName view)
    (listed : slot ∈ slotsOf sectionName) (shaped : Shaped parts) {o : Overlay}
    (read : documentChange parts = .ok o) :
    view o = (found parts sectionName slot.name).getLast? := by
  have each : ∀ p ∈ parts, p.item.name ∈ sectionNames → ∀ o, p.item.change = .ok o → view o =
      (if p.name = sectionName then p.found slot.name else []).getLast? :=
    fun p inside _ o change => view_section viewed listed shaped inside change
  have known : ∀ p : Part, p.name = sectionName → p.item.name ∈ sectionNames := by
    rintro p rfl
    exact mem_sectionNames_of_slot listed
  rw [Json.view_total viewed.nothing viewed.either each read, flatMap_filter_ite known]
  rfl

theorem length_filter_le_one {α : Type} {name : α → String} {listed : String → Prop}
    [DecidablePred listed] {xs : List α} (once : ((xs.map name).filter listed).Nodup) {a : String}
    (counts : listed a) : (xs.filter (name · = a)).length ≤ 1 := by
  have most := List.nodup_iff_count_le_one.mp once a
  rw [List.count_filter (by simpa using counts), List.count, List.countP_map] at most
  rw [← List.countP_eq_length_filter]
  exact most

theorem length_found_le_one (listed : slot ∈ slotsOf sectionName) (once : Once parts) :
    (found parts sectionName slot.name).length ≤ 1 := by
  have known := mem_sectionNames_of_slot listed
  have sections := length_filter_le_one once.1 known
  unfold found
  cases only : parts.filter (·.name = sectionName) with
  | nil => simp
  | cons p more =>
    rw [only, List.length_cons] at sections
    obtain rfl : more = [] := List.eq_nil_of_length_eq_zero (by omega)
    have picked : p ∈ parts.filter (·.name = sectionName) := only ▸ List.mem_cons_self
    obtain ⟨inside, same⟩ := List.mem_filter.mp picked
    obtain rfl : p.name = sectionName := by simpa using same
    have counts : slot.name ∈ (slotsOf p.name).map Slot.name :=
      List.mem_map.mpr ⟨slot, listed, rfl⟩
    rw [List.flatMap_singleton]
    exact Nat.le_trans (List.length_filterMap_le _ _)
      (length_filter_le_one (once.2 p inside known) counts)

end

/-- A value that is shown: the one that is found, or the built-in one if none is. -/
def Shows (found : List Int) (builtIn shown : Int) : Prop :=
  found = [shown] ∨ (found = [] ∧ shown = builtIn)

theorem shows_of_view {found : List Int} {view : Option Int} {builtIn : Int}
    (short : found.length ≤ 1) (same : view = found.getLast?) :
    Shows found builtIn (view.getD builtIn) := by
  subst same
  match found, short with
  | [], _ => exact .inr ⟨rfl, rfl⟩
  | [n], _ => exact .inl rfl

theorem timeout_viewed : timeoutSlot.ViewedBy "transport"
    fun o => o.responseTimeoutMs.map fun n => (n.toNat : Int) := by
  refine ⟨rfl, ?_, ?_, ?_⟩
  · intro later first
    cases set : later.responseTimeoutMs <;> simp [Overlay.mul_def, set]
  · rintro n ⟨least, most⟩
    have small : n.toNat < UInt64.size := by
      have := Int.toNat_le_toNat most
      exact Nat.lt_succ_of_le this
    show some ((UInt64.ofNat n.toNat).toNat : Int) = some n
    rw [UInt64.toNat_ofNat_of_lt' small]
    exact congrArg some (Int.toNat_of_nonneg least)
  · intro otherSection other listed apart n
    rcases mem_slotsOf_iff.mp listed with both | ⟨-, rfl | rfl⟩
    · exact absurd ⟨both.1, congrArg Slot.name both.2⟩ apart
    · rfl
    · rfl

theorem toInt_ofInt_of_holds {n : Int} (holds : deviceSlot.Holds n) :
    (Int64.ofInt n).toInt = n := by
  obtain ⟨least, most⟩ := holds
  have above : -2 ^ 63 ≤ n := least
  have below : n ≤ 0x7fffffffffffffff := most
  exact Int64.toInt_ofInt_of_le above (by omega)

theorem device_viewed : deviceSlot.ViewedBy "defaults" fun o => o.deviceId.map Int64.toInt := by
  refine ⟨rfl, ?_, ?_, ?_⟩
  · intro later first
    cases set : later.deviceId <;> simp [Overlay.mul_def, set]
  · intro n holds
    exact congrArg some (toInt_ofInt_of_holds holds)
  · intro otherSection other listed apart n
    rcases mem_slotsOf_iff.mp listed with ⟨-, rfl⟩ | ⟨same, rfl | rfl⟩
    · rfl
    · exact absurd ⟨same, rfl⟩ apart
    · rfl

theorem firmware_viewed :
    firmwareSlot.ViewedBy "defaults" fun o => o.currentFirmware.map Int64.toInt := by
  refine ⟨rfl, ?_, ?_, ?_⟩
  · intro later first
    cases set : later.currentFirmware <;> simp [Overlay.mul_def, set]
  · intro n holds
    exact congrArg some (toInt_ofInt_of_holds holds)
  · intro otherSection other listed apart n
    rcases mem_slotsOf_iff.mp listed with ⟨-, rfl⟩ | ⟨same, rfl | rfl⟩
    · rfl
    · rfl
    · exact absurd ⟨same, rfl⟩ apart

/-- Settings that hold what is found in a document, and the built-in values where nothing is. -/
structure HoldsFound (parts : List Part) (s : Settings) : Prop where
  responseTimeoutMs : Shows (found parts "transport" "response_timeout_ms") 93000
    s.responseTimeoutMs.toNat
  deviceId : Shows (found parts "defaults" "device_id") 1001 s.deviceId.toInt
  currentFirmware : Shows (found parts "defaults" "current_firmware") 100 s.currentFirmware.toInt

section

variable {parts : List Part} {text : List Char} (shaped : Shaped parts)
  (spells : SpellsDocument (parts.map Part.member) text)
include shaped

theorem holdsFound_of_change (once : Once parts) {o : Overlay}
    (read : documentChange parts = .ok o) : HoldsFound parts (o • default) := by
  have timeout : timeoutSlot ∈ slotsOf "transport" := mem_slotsOf_iff.mpr (.inl ⟨rfl, rfl⟩)
  have device : deviceSlot ∈ slotsOf "defaults" := mem_slotsOf_iff.mpr (.inr ⟨rfl, .inl rfl⟩)
  have firmware : firmwareSlot ∈ slotsOf "defaults" := mem_slotsOf_iff.mpr (.inr ⟨rfl, .inr rfl⟩)
  have shown {slot : Slot} {sectionName : String} {view : Overlay → Option Int} (builtIn : Int)
      (viewed : slot.ViewedBy sectionName view) (listed : slot ∈ slotsOf sectionName) :
      Shows (found parts sectionName slot.name) builtIn ((view o).getD builtIn) :=
    shows_of_view (length_found_le_one listed once) (view_document viewed listed shaped read)
  have timeoutShown : (o.responseTimeoutMs.map fun n => (n.toNat : Int)).getD 93000 =
      (o • default).responseTimeoutMs.toNat := by
    rw [Overlay.smul_def]
    cases o.responseTimeoutMs <;> rfl
  have deviceShown : (o.deviceId.map Int64.toInt).getD 1001 = (o • default).deviceId.toInt := by
    rw [Overlay.smul_def]
    cases o.deviceId <;> rfl
  have firmwareShown : (o.currentFirmware.map Int64.toInt).getD 100 =
      (o • default).currentFirmware.toInt := by
    rw [Overlay.smul_def]
    cases o.currentFirmware <;> rfl
  exact ⟨timeoutShown ▸ shown 93000 timeout_viewed timeout,
    deviceShown ▸ shown 1001 device_viewed device,
    firmwareShown ▸ shown 100 firmware_viewed firmware⟩

include spells

/-- A document without repeated names whose settings lie within their bounds is read, and no other
is. -/
theorem ofJson_document :
    (Once parts → InRange parts → ∃ s, ofJson (encode text) = .ok s ∧ HoldsFound parts s) ∧
    (¬(Once parts ∧ InRange parts) → ∃ fault, ofJson (encode text) = .error fault) ∧
    (InRange parts → ¬Once parts → ∃ name line column,
      ofJson (encode text) = .error ⟨.duplicateField name, line, column⟩) := by
  have outcome := document_read shaped spells
  have reads := exists_documentChange_iff shaped
  cases change : documentChange parts with
  | ok o =>
    rw [change] at outcome
    obtain ⟨once, inRange⟩ := reads.mp ⟨o, change⟩
    exact ⟨fun _ _ => ⟨o • default, outcome default, holdsFound_of_change shaped once change⟩,
      fun outside => absurd ⟨once, inRange⟩ outside, fun _ repeated => absurd once repeated⟩
  | error r =>
    rw [change] at outcome
    obtain ⟨fault, explains, read⟩ := outcome
    refine ⟨fun once inRange => ?_, fun _ => ⟨fault, read⟩, fun inRange _ => ?_⟩
    · obtain ⟨o, same⟩ := reads.mpr ⟨once, inRange⟩
      cases change.symm.trans same
    · obtain ⟨name, rfl⟩ := refusal_of_inRange shaped inRange change
      refine ⟨name, fault.line, fault.column, ?_⟩
      have complaint : fault.complaint = .duplicateField name := explains
      rw [read, ← complaint]

end

theorem ofFile_text {σ : Type} (files : FixedFiles) (log : Log.Event → StateM σ Unit) (w : σ)
    {path : Text.Raw} {text : List Char} (content : files.read path = .ok (encode text)) :
    (ofFile files.asFiles log path w).1 = (ofJson (encode text)).mapError .json := by
  have read : files.asFiles.read path = (pure (.ok (encode text)) : StateM σ _) := by
    rw [← content]
    rfl
  have isText : Text.Utf8.decode? (encode text) = some text :=
    Text.Utf8.decode?_eq_some_iff.mpr rfl
  rw [ofFile, read, pure_bind]
  simp only [isText, Option.isNone_some, Bool.false_eq_true, if_false]
  cases ofJson (encode text) <;> rfl

theorem Shows.unique {found : List Int} {builtIn n n' : Int} (shows : Shows found builtIn n)
    (shows' : Shows found builtIn n') : n = n' := by
  rcases shows with one | ⟨nothing, rfl⟩ <;> rcases shows' with one' | ⟨nothing', rfl⟩
  · exact List.singleton_inj.mp (one.symm.trans one')
  · cases one.symm.trans nothing'
  · cases nothing.symm.trans one'
  · rfl

theorem HoldsFound.unique {parts : List Part} {s s' : Settings} (holds : HoldsFound parts s)
    (holds' : HoldsFound parts s') : s = s' := by
  obtain ⟨timeout, device, firmware⟩ := s
  obtain ⟨timeout', device', firmware'⟩ := s'
  obtain rfl : timeout = timeout' := UInt64.toNat_inj.mp
    (Int.ofNat.inj (holds.responseTimeoutMs.unique holds'.responseTimeoutMs))
  obtain rfl : device = device' := Int64.toInt_inj.mp (holds.deviceId.unique holds'.deviceId)
  obtain rfl : firmware = firmware' :=
    Int64.toInt_inj.mp (holds.currentFirmware.unique holds'.currentFirmware)
  rfl

/-- Every file with a JSON object in which sections are objects and settings are integers within
their bounds is read, whatever else stands in it, as long as nothing that is known stands in it
twice. Then the settings are the one choice that holds each integer that is found and the built-in
value of each setting that is not, so neither order nor layout nor any other member counts. If
something known stands in it twice, the file is refused for this. -/
theorem partial_document_overlays_builtIn {σ : Type} (files : FileTree)
    (log : Log.Event → StateM σ Unit) (w : σ) {path : String} {parts : List Part}
    {text : List Char} (content : files.read path = .ok (encode text))
    (spells : SpellsDocument (parts.map Part.member) text) (shaped : Shaped parts)
    (inRange : InRange parts) :
    (Once parts → ∃ s, (ofFile files.asFiles log path w).1 = .ok s ∧
      ∀ s', HoldsFound parts s' ↔ s' = s) ∧
    (¬Once parts → ∃ name line column, (ofFile files.asFiles log path w).1 =
      .error (.json ⟨.duplicateField name, line, column⟩)) := by
  obtain ⟨reads, -, refuses⟩ := ofJson_document shaped spells
  have asText : (ofFile files.asFiles log path w).1 = (ofJson (encode text)).mapError .json :=
    ofFile_text (files.besides fun _ => .error .noSuchFile) log w content
  rw [asText]
  constructor
  · intro once
    obtain ⟨s, read, holds⟩ := reads once inRange
    refine ⟨s, by rw [read]; rfl, fun s' => ⟨fun holds' => holds'.unique holds, ?_⟩⟩
    rintro rfl
    exact holds
  · intro repeated
    obtain ⟨name, line, column, refused⟩ := refuses inRange repeated
    exact ⟨name, line, column, by rw [refused]; rfl⟩

/-- A section whose setting has an escape in its name. -/
def escapedSection : Part :=
  ⟨"defaults", "\x7b\"device\\u005fid\":-7,\"x\":1.5\x7d".toList,
    [⟨"device_id", .integer (-7)⟩, ⟨"x", .other "1.5".toList⟩]⟩

/-- A section between two other members of one name. -/
def layeredParts : List Part := [
  ⟨"x", "[\x7b\"transport\":0\x7d,\"\\ud800\"]".toList, []⟩,
  escapedSection,
  ⟨"x", "[]".toList, []⟩]

def layeredText : List Char := ("\x7b\"x\":[\x7b\"transport\":0\x7d,\"\\ud800\"],\n\"defaults\":" ++
  "\x7b\"device\\u005fid\":-7,\"x\":1.5\x7d,\"x\":[]\x7d").toList

theorem spells_escapedSection :
    SpellsObject (escapedSection.leaves.map Leaf.member) escapedSection.text := by
  have underscore : Json.CodeUnit ['0', '0', '5', 'f'] (((0 * 16 + 0) * 16 + 5) * 16 + 15) :=
    .digits (by decide) (by decide) (by decide) (by decide)
  have letters : Json.SpellsText ['i', 'd'] ['i', 'd'] := .self (by decide)
  have name : Json.SpellsText "device\\u005fid".toList "device_id".toList :=
    .plain (by decide) <| .plain (by decide) <| .plain (by decide) <| .plain (by decide) <|
      .plain (by decide) <| .plain (by decide) <| .unit underscore (by decide) (by decide) letters
  have setting : Json.IsForm .value ['-', '7'] := .negative (Json.unsigned_digit (by decide))
  have fraction : Json.Unsigned ['1', '.', '5'] :=
    ⟨['1'], ['.', '5'], [], Json.wholePart_digit (by decide),
      .digits (Json.allDigits_of_all (by decide) (by decide)), .absent, rfl⟩
  have other : Json.SpellsText ['x'] ['x'] := .self (by decide)
  exact .members (.member name (Json.padded_self _) setting (Json.padded_self _)
    (.last other (Json.padded_self _) (.positive fraction) (Json.padded_self _)))

theorem spells_layered : SpellsDocument (layeredParts.map Part.member) layeredText := by
  have listed : Json.IsForm .value "[\x7b\"transport\":0\x7d,\"\\ud800\"]".toList := by
    have name : Json.IsString "transport".toList :=
      (Json.SpellsText.self (by decide +kernel)).isString
    have zero : Json.IsForm .value ['0'] := .positive (Json.unsigned_digit (by decide))
    have lone : Json.CodeUnit ['d', '8', '0', '0'] (((13 * 16 + 8) * 16 + 0) * 16 + 0) :=
      .digits (by decide) (by decide) (by decide) (by decide)
    have object : Json.IsForm .value "\x7b\"transport\":0\x7d".toList :=
      .object (.lastMember name (Json.padded_self _) zero (Json.padded_self _))
    exact .array (.element object (Json.padded_self _)
      (.lastElement (.string (.unit lone .nil)) (Json.padded_self _)))
  have other : Json.SpellsText ['x'] ['x'] := .self (by decide)
  have name : Json.SpellsText "defaults".toList "defaults".toList := .self (by decide +kernel)
  have broken : Json.Padded (Json.quoted "defaults".toList)
      ('\n' :: Json.quoted "defaults".toList) :=
    ⟨['\n'], [], by simp [Json.Blanks], List.forall_mem_nil _, by simp⟩
  have empty : Json.IsForm .value "[]".toList := .emptyArray (List.forall_mem_nil _)
  have last := Json.SpellsMembers.last other (Json.padded_self _) empty (Json.padded_self _)
  have others := last.member name broken spells_escapedSection.isForm (Json.padded_self _)
  have all := others.member other (Json.padded_self _) listed (Json.padded_self _)
  exact ⟨_, .members all, Json.padded_self _⟩

theorem shaped_layered : Shaped layeredParts := by
  intro p inside known
  simp only [layeredParts, List.mem_cons, List.not_mem_nil, or_false] at inside
  rcases inside with rfl | rfl | rfl
  · exact absurd known (by decide)
  · refine ⟨spells_escapedSection, fun l member set => ?_⟩
    simp only [escapedSection, List.mem_cons, List.not_mem_nil, or_false] at member
    rcases member with rfl | rfl
    · exact ⟨-7, rfl⟩
    · exact absurd set (by decide)
  · exact absurd known (by decide)

theorem inRange_layered : InRange layeredParts := by
  intro p inside l member slot listed _ n value
  have only : ∀ p ∈ layeredParts, ∀ l ∈ p.leaves, ∀ n ∈ l.value.integer?, n = -7 := by
    decide +kernel
  obtain rfl := only p inside l member n (by rw [value]; rfl)
  have named : ∀ p ∈ layeredParts, p.leaves ≠ [] → p.name = "defaults" := by decide +kernel
  rw [mem_slotsOf_iff, named p inside (List.ne_nil_of_mem member)] at listed
  rcases listed with ⟨other, -⟩ | ⟨-, rfl | rfl⟩
  · exact absurd other (by decide)
  · decide
  · decide

theorem layered_document_sets_device :
    let files : FileTree := ⟨[(["c"], encode layeredText)], [], []⟩
    let log : Log.Event → StateM Unit Unit := fun _ => pure ()
    SpellsDocument (layeredParts.map Part.member) layeredText ∧ Shaped layeredParts ∧
      InRange layeredParts ∧ Once layeredParts ∧
      (ofFile files.asFiles log "c" ()).1 = .ok ⟨93000, -7, 100⟩ := by
  intro files log
  have content : files.read "c" = .ok (encode layeredText) := by
    have plain : "c".contains '\x00' = false := by simp
    unfold FileTree.read FileTree.locate
    rw [plain]
    decide +kernel
  have once : Once layeredParts := ⟨by decide +kernel, by decide +kernel⟩
  have holds : HoldsFound layeredParts ⟨93000, -7, 100⟩ :=
    ⟨.inr ⟨by decide +kernel, rfl⟩, .inl (by decide +kernel), .inr ⟨by decide +kernel, rfl⟩⟩
  obtain ⟨s, read, chosen⟩ := (partial_document_overlays_builtIn files log () content
    spells_layered shaped_layered inRange_layered).1 once
  obtain rfl := (chosen _).mp holds
  exact ⟨spells_layered, shaped_layered, inRange_layered, once, read⟩

end CheckIn.Settings

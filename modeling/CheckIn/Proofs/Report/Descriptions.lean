import CheckIn.Proofs.Cbor.Labelled
import CheckIn.Report

/-! The text of a field in a report fixes the field, as long as no float stands in it. The first
character tells numbers, quoted texts, truth values, labelled values and absence apart. -/
namespace CheckIn.Report

open Cbor

/-- The forms that the text of a field has. -/
inductive Form where
  | absence | number | quotation | truth | labelled
  deriving DecidableEq

/-- The form of a field without floats. -/
inductive HasForm : Option Value → Form → Prop where
  | absence : HasForm none .absence
  | number (n) : HasForm (some (.integer n)) .number
  | quotation (s) : HasForm (some (.text s)) .quotation
  | truth (b) : HasForm (some (.bool b)) .truth
  | labelled {v : Value} : v.FloatFree → describe v = v.labelled → HasForm (some v) .labelled

theorem exists_form {field : Option Value} (free : ∀ v ∈ field, v.FloatFree) :
    ∃ form, HasForm field form := by
  cases field with
  | none => exact ⟨_, .absence⟩
  | some v =>
    have inside := free v rfl
    cases inside with
    | integer n => exact ⟨_, .number n⟩
    | text s => exact ⟨_, .quotation s⟩
    | bool b => exact ⟨_, .truth b⟩
    | _ => exact ⟨_, .labelled (free _ rfl) rfl⟩

def formOf (c : Char) : Form :=
  if c = 'n' then .absence
  else if c = '"' then .quotation
  else if c = 't' ∨ c = 'f' then .truth
  else if c.isUpper then .labelled
  else .number

theorem formOf_digitChar : ∀ d < 10, formOf (Nat.digitChar d) = .number := by decide

theorem formOf_label : ∀ l ∈ Value.labels, l.toList.head?.map formOf = some .labelled := by decide

theorem HasForm.head {field : Option Value} {form : Form} (has : HasForm field form) :
    (describeField field).toList.head?.map formOf = some form := by
  cases has with
  | absence => rfl
  | number n =>
    change (toString n).toList.head?.map formOf = _
    cases n with
    | ofNat n =>
      obtain ⟨d, small, cs, digits⟩ := Text.exists_toDigits_eq_cons n
      rw [Text.toList_toString_ofNat, digits]
      exact congrArg some (formOf_digitChar d small)
    | negSucc n => rw [Text.toList_toString_negSucc]; rfl
  | quotation s =>
    change (Text.quoted s).toList.head?.map formOf = _
    rw [Text.quoted, String.toList_ofList]
    rfl
  | truth b => cases b <;> rfl
  | @labelled v _ text =>
    have first := formOf_label v.label v.label_mem
    obtain ⟨behind, begins⟩ := v.label_prefix
    change (describe v).toList.head?.map formOf = _
    rw [text, ← begins, List.head?_append]
    cases letters : v.label.toList.head? with
    | none => simp [letters] at first
    | some c => simpa [letters] using first

theorem describeField_inj {a b : Option Value} (free : ∀ v ∈ a, v.FloatFree)
    (free' : ∀ v ∈ b, v.FloatFree) (same : describeField a = describeField b) : a = b := by
  obtain ⟨form, has⟩ := exists_form free
  obtain ⟨form', has'⟩ := exists_form free'
  obtain rfl : form = form' := by
    have heads := has.head
    rw [same, has'.head] at heads
    exact (Option.some.inj heads).symm
  cases has with
  | absence =>
    cases has'
    rfl
  | number m =>
    cases has' with
    | number n => rw [Text.toString_int_inj same]
  | quotation s =>
    cases has' with
    | quotation t =>
      have texts : Text.quoted s = Text.quoted t := same
      have letters : (Text.quoted s).toList ++ [] = (Text.quoted t).toList ++ [] := by rw [texts]
      rw [(Text.prefixFree_quoted letters).1]
  | truth b =>
    cases has' with
    | truth b' =>
      have texts : (if b then "true" else "false") = if b' then "true" else "false" := same
      cases b with
      | false => cases b' with
        | false => rfl
        | true => exact absurd texts (by decide)
      | true => cases b' with
        | false => exact absurd texts (by decide)
        | true => rfl
  | @labelled v inside text =>
    cases has' with
    | @labelled w inside' text' =>
      have texts : v.labelled = w.labelled := text.symm.trans (same.trans text')
      have letters : v.labelled.toList ++ [] = w.labelled.toList ++ [] := by rw [texts]
      rw [(inside.apart inside' letters).1]

/-- Fields without floats print alike only if they are equal; `none` is the text of absence alone;
and a value inside another can be told apart from all that stands behind it. -/
theorem description_faithful {a b : Option Value} (free : ∀ v ∈ a, v.FloatFree)
    (free' : ∀ v ∈ b, v.FloatFree) :
    (describeField a = describeField b ↔ a = b) ∧ (describeField a = "none" ↔ a = none) ∧
      ∀ v w : Value, v.FloatFree → w.FloatFree → ∀ x y : List Char,
        v.labelled.toList ++ x = w.labelled.toList ++ y → v = w ∧ x = y := by
  refine ⟨⟨describeField_inj free free', congrArg describeField⟩, ⟨?_, ?_⟩, ?_⟩
  · exact describeField_inj (b := none) free nofun
  · rintro rfl
    rfl
  · intro v w inside inside' x y same
    exact inside.apart inside' same

/-- One text that spells the end of an item and the beginning of the next. -/
theorem forged_items_shown_apart :
    let forged : Value := .array [.text "a\"), Text(\"b"]
    let two : Value := .array [.text "a", .text "b"]
    forged.FloatFree ∧ two.FloatFree ∧
      describeField (some forged) ≠ describeField (some two) := by
  intro forged two
  have free : forged.FloatFree := by
    refine .array fun v among => ?_
    rw [List.mem_singleton.mp among]
    exact .text _
  have free' : two.FloatFree := by
    refine .array fun v among => ?_
    rw [List.mem_cons, List.mem_singleton] at among
    rcases among with rfl | rfl
    · exact .text "a"
    · exact .text "b"
  refine ⟨free, free', ?_⟩
  rw [ne_eq, (description_faithful (by simpa using free) (by simpa using free')).1]
  simp [forged, two]

end CheckIn.Report

import CheckIn.Cbor.Labelled
import CheckIn.Proofs.Text.Quoted

/-! The labelled text of a value can be told apart from whatever stands behind it, and two values
without floats that have the same text are the same. So a text between the quotes of a value cannot
pass for the structure around it. -/
namespace CheckIn.Cbor

open Text (PrefixFree inNumeral)

def laterItems (items : List String) : List Char := items.flatMap fun s => ',' :: ' ' :: s.toList

theorem toList_commaList_cons (s : String) (items : List String) :
    (commaList (s :: items)).toList = s.toList ++ laterItems items := by
  induction items generalizing s with
  | nil => simp [commaList, laterItems]
  | cons t items ih =>
    have comma : ", ".toList = [',', ' '] := rfl
    have later : (commaList (t :: items)).toList = t.toList ++ laterItems items := ih t
    rw [commaList] at later
    rw [commaList, String.intercalate_cons_cons, String.toList_append, String.toList_append, later,
      comma]
    simp [laterItems]

section

variable {write : α → String} {xs ys : List α} {x y : List Char}

/-- Items whose text begins with no bracket and ends where no numeral goes on. -/
structure Listable (write : α → String) (xs ys : List α) : Prop where
  begins : ∀ a u v, (write a).toList ++ u ≠ ']' :: v
  ends : ∀ a ∈ xs, ∀ b ∈ ys, ∀ ⦃u v⦄, (∀ c ∈ u.head?, inNumeral c = false) →
    (∀ c ∈ v.head?, inNumeral c = false) →
    (write a).toList ++ u = (write b).toList ++ v → a = b ∧ u = v

theorem Listable.tail {a b : α} (listable : Listable write (a :: xs) (b :: ys)) :
    Listable write xs ys :=
  ⟨listable.begins, fun a inside b inside' => listable.ends a (List.mem_cons_of_mem _ inside) b
    (List.mem_cons_of_mem _ inside')⟩

theorem stops_laterItems (items : List String) :
    ∀ c ∈ (laterItems items ++ ']' :: x).head?, inNumeral c = false := by
  cases items with
  | nil => rintro c ⟨⟩; rfl
  | cons t items => rintro c ⟨⟩; rfl

theorem laterItems_append_inj (listable : Listable write xs ys)
    (same : laterItems (xs.map write) ++ ']' :: x = laterItems (ys.map write) ++ ']' :: y) :
    xs = ys ∧ x = y := by
  induction xs generalizing ys with
  | nil =>
    cases ys with
    | nil => exact ⟨rfl, (List.cons.inj same).2⟩
    | cons b ys => simp [laterItems] at same
  | cons a xs ih =>
    cases ys with
    | nil => simp [laterItems] at same
    | cons b ys =>
      have cut : (write a).toList ++ (laterItems (xs.map write) ++ ']' :: x) =
          (write b).toList ++ (laterItems (ys.map write) ++ ']' :: y) := by
        simpa [laterItems] using same
      obtain ⟨rfl, later⟩ := listable.ends a List.mem_cons_self b List.mem_cons_self
        (stops_laterItems _) (stops_laterItems _) cut
      obtain ⟨rfl, rest⟩ := ih listable.tail later
      exact ⟨rfl, rest⟩

theorem commaList_append_inj (listable : Listable write xs ys)
    (same : (commaList (xs.map write)).toList ++ ']' :: x =
      (commaList (ys.map write)).toList ++ ']' :: y) : xs = ys ∧ x = y := by
  cases xs with
  | nil =>
    cases ys with
    | nil => exact ⟨rfl, (List.cons.inj same).2⟩
    | cons b ys =>
      rw [List.map_cons, toList_commaList_cons, List.append_assoc] at same
      exact absurd same.symm (listable.begins b _ _)
  | cons a xs =>
    rw [List.map_cons, toList_commaList_cons, List.append_assoc] at same
    cases ys with
    | nil => exact absurd same (listable.begins a _ _)
    | cons b ys =>
      rw [List.map_cons, toList_commaList_cons, List.append_assoc] at same
      obtain ⟨rfl, later⟩ := listable.ends a List.mem_cons_self b List.mem_cons_self
        (stops_laterItems _) (stops_laterItems _) same
      obtain ⟨rfl, rest⟩ := laterItems_append_inj listable.tail later
      exact ⟨rfl, rest⟩

end

namespace Value

def label : Value → String
  | .integer _ => "Integer(Integer("
  | .bytes _ => "Bytes(["
  | .text _ => "Text("
  | .float _ => "Float("
  | .bool _ => "Bool("
  | .null => "Null"
  | .tag .. => "Tag("
  | .array _ => "Array(["
  | .map _ => "Map(["

def labels : List String :=
  ["Integer(Integer(", "Bytes([", "Text(", "Float(", "Bool(", "Null", "Tag(", "Array([", "Map(["]

theorem label_mem (v : Value) : v.label ∈ labels := by
  cases v <;> simp only [label, labels, List.mem_cons, true_or, or_true]

theorem labels_apart : ∀ l ∈ labels, ∀ l' ∈ labels, l.toList <+: l'.toList → l = l' := by decide

theorem prefix_append {s t : String} (front : s.toList <+: t.toList) (u : String) :
    s.toList <+: (t ++ u).toList := by
  rw [String.toList_append]
  exact front.trans (List.prefix_append _ _)

theorem label_prefix (v : Value) : v.label.toList <+: v.labelled.toList := by
  have enclosed (s t u : String) : s.toList <+: (s ++ t ++ u).toList :=
    prefix_append (prefix_append (List.prefix_refl _) t) u
  cases v with
  | null => exact List.prefix_refl _
  | tag => exact prefix_append (prefix_append (enclosed _ _ _) _) _
  | integer => exact enclosed _ _ _
  | bytes => exact enclosed _ _ _
  | text => exact enclosed _ _ _
  | float => exact enclosed _ _ _
  | bool => exact enclosed _ _ _
  | array => exact enclosed _ _ _
  | map => exact enclosed _ _ _

theorem label_eq {v w : Value} {x y : List Char}
    (same : v.labelled.toList ++ x = w.labelled.toList ++ y) : v.label = w.label := by
  have first : v.label.toList <+: w.labelled.toList ++ y :=
    same ▸ v.label_prefix.trans (List.prefix_append _ _)
  exact Text.beginning_unique labels_apart v.label_mem w.label_mem first
    (w.label_prefix.trans (List.prefix_append _ _))

theorem labelled_ne_bracket (v : Value) (x y : List Char) : v.labelled.toList ++ x ≠ ']' :: y := by
  have heads : ∀ l ∈ labels, l.toList.head? ≠ some ']' ∧ l.toList ≠ [] := by decide
  obtain ⟨behind, text⟩ := v.label_prefix
  obtain ⟨other, nonempty⟩ := heads _ v.label_mem
  intro same
  rw [← text] at same
  cases letters : v.label.toList with
  | nil => exact nonempty letters
  | cons c cs =>
    rw [letters] at same other
    exact other (congrArg some (List.cons.inj same).1)

/-- The texts of two values can be told apart, and so can what stands behind them. -/
def Apart (v w : Value) : Prop :=
  ∀ ⦃x y⦄, v.labelled.toList ++ x = w.labelled.toList ++ y → v = w ∧ x = y

theorem apart_of_label_ne {v w : Value} (other : v.label ≠ w.label) : Apart v w :=
  fun _ _ same => absurd (label_eq same) other

theorem cancel_enclosed {s t t' u : String} {x y : List Char}
    (same : (s ++ t ++ u).toList ++ x = (s ++ t' ++ u).toList ++ y) :
    t.toList ++ (u.toList ++ x) = t'.toList ++ (u.toList ++ y) := by
  simpa [String.toList_append] using same

theorem apart_integer (m n : Int) : Apart (.integer m) (.integer n) := by
  intro x y same
  obtain ⟨rfl, rest⟩ := Text.integer_append_inj (by rintro c ⟨⟩; rfl) (by rintro c ⟨⟩; rfl)
    (cancel_enclosed same)
  exact ⟨rfl, List.append_cancel_left rest⟩

theorem listable_bytes (data data' : List UInt8) :
    Listable (fun b : UInt8 => toString b.toNat) data data' where
  begins b u v same := by
    obtain ⟨d, -, cs, digits⟩ := Text.exists_toDigits_eq_cons b.toNat
    have text : (toString b.toNat).toList = Nat.digitChar d :: cs := Nat.toList_repr.trans digits
    rw [text] at same
    exact Nat.digitChar_ne ']' rfl (List.cons.inj same).1
  ends a _ b _ u v stops stops' same := by
    obtain ⟨numbers, rest⟩ := Text.natural_append_inj stops stops' same
    exact ⟨UInt8.toNat_inj.mp numbers, rest⟩

theorem apart_bytes (data data' : List UInt8) : Apart (.bytes data) (.bytes data') := by
  intro x y same
  obtain ⟨rfl, rest⟩ := commaList_append_inj (listable_bytes data data') (cancel_enclosed same)
  exact ⟨rfl, (List.cons.inj rest).2⟩

theorem apart_text (s t : String) : Apart (.text s) (.text t) := by
  intro x y same
  obtain ⟨rfl, rest⟩ := Text.prefixFree_quoted (cancel_enclosed same)
  exact ⟨rfl, List.append_cancel_left rest⟩

theorem apart_bool (b b' : Bool) : Apart (.bool b) (.bool b') := by
  intro x y same
  have inner := cancel_enclosed same
  cases b <;> cases b'
  · exact ⟨rfl, List.append_cancel_left (List.append_cancel_left inner)⟩
  · exact absurd (List.cons.inj inner).1 (by decide)
  · exact absurd (List.cons.inj inner).1 (by decide)
  · exact ⟨rfl, List.append_cancel_left (List.append_cancel_left inner)⟩

theorem apart_tag (m n : Nat) {v w : Value} (inside : Apart v w) :
    Apart (.tag m v) (.tag n w) := by
  intro x y same
  have text (n : Nat) (v : Value) (x : List Char) : (Value.tag n v).labelled.toList ++ x =
      "Tag(".toList ++
        ((toString n).toList ++ (", ".toList ++ (v.labelled.toList ++ ')' :: x))) := by
    have closed : ")".toList = [')'] := rfl
    change ("Tag(" ++ toString n ++ ", " ++ v.labelled ++ ")").toList ++ x = _
    simp only [String.toList_append, closed, List.append_assoc, List.cons_append, List.nil_append]
  rw [text, text] at same
  obtain ⟨rfl, behind⟩ := Text.natural_append_inj (by rintro c ⟨⟩; rfl) (by rintro c ⟨⟩; rfl)
    (List.append_cancel_left same)
  obtain ⟨rfl, rest⟩ := inside (List.append_cancel_left behind)
  exact ⟨rfl, (List.cons.inj rest).2⟩

theorem labelledItems_eq_map (items : List Value) : labelledItems items = items.map labelled := by
  induction items with
  | nil => rfl
  | cons v items ih => rw [labelledItems, ih, List.map_cons]

theorem apart_array {items items' : List Value} (inside : ∀ v ∈ items, ∀ w ∈ items', Apart v w) :
    Apart (.array items) (.array items') := by
  intro x y same
  have inner := cancel_enclosed same
  rw [labelledItems_eq_map, labelledItems_eq_map] at inner
  have listable : Listable labelled items items' :=
    ⟨labelled_ne_bracket, fun v among w among' _ _ _ _ same =>
      inside v among w among' same⟩
  obtain ⟨rfl, rest⟩ := commaList_append_inj listable inner
  exact ⟨rfl, (List.cons.inj rest).2⟩

def labelledEntry (e : Entry) : String := "(" ++ e.1.labelled ++ ", " ++ e.2.labelled ++ ")"

theorem labelledEntries_eq_map (entries : List Entry) :
    labelledEntries entries = entries.map labelledEntry := by
  induction entries with
  | nil => rfl
  | cons e entries ih => rw [labelledEntries, ih, List.map_cons, labelledEntry]

theorem toList_labelledEntry_append (e : Entry) (x : List Char) :
    (labelledEntry e).toList ++ x =
      '(' :: (e.1.labelled.toList ++ (", ".toList ++ (e.2.labelled.toList ++ ')' :: x))) := by
  have opened : "(".toList = ['('] := rfl
  have closed : ")".toList = [')'] := rfl
  simp [labelledEntry, String.toList_append, opened, closed]

theorem labelledEntry_append_inj {d e : Entry} {x y : List Char} (keys : Apart d.1 e.1)
    (values : Apart d.2 e.2)
    (same : (labelledEntry d).toList ++ x = (labelledEntry e).toList ++ y) : d = e ∧ x = y := by
  rw [toList_labelledEntry_append, toList_labelledEntry_append] at same
  obtain ⟨key, behind⟩ := keys (List.cons.inj same).2
  obtain ⟨value, rest⟩ := values (List.append_cancel_left behind)
  exact ⟨Prod.ext key value, (List.cons.inj rest).2⟩

theorem apart_map {entries entries' : List Entry}
    (keys : ∀ d ∈ entries, ∀ e ∈ entries', Apart d.1 e.1)
    (values : ∀ d ∈ entries, ∀ e ∈ entries', Apart d.2 e.2) :
    Apart (.map entries) (.map entries') := by
  intro x y same
  have inner := cancel_enclosed same
  rw [labelledEntries_eq_map, labelledEntries_eq_map] at inner
  have listable : Listable labelledEntry entries entries' := by
    refine ⟨?_, fun d among e among' _ _ _ _ => ?_⟩
    · intro e u v
      rw [toList_labelledEntry_append]
      simp
    · exact labelledEntry_append_inj (keys d among e among') (values d among e among')
  obtain ⟨rfl, rest⟩ := commaList_append_inj listable inner
  exact ⟨rfl, (List.cons.inj rest).2⟩

/-- No float stands anywhere inside. -/
inductive FloatFree : Value → Prop where
  | integer (n) : FloatFree (.integer n)
  | bytes (data) : FloatFree (.bytes data)
  | text (s) : FloatFree (.text s)
  | bool (b) : FloatFree (.bool b)
  | null : FloatFree .null
  | tag (number) {content} : FloatFree content → FloatFree (.tag number content)
  | array {items} : (∀ v ∈ items, FloatFree v) → FloatFree (.array items)
  | map {entries} : (∀ e ∈ entries, FloatFree e.1) → (∀ e ∈ entries, FloatFree e.2) →
      FloatFree (.map entries)

/-- Values without floats can be told apart by their labelled texts. -/
theorem FloatFree.apart {v : Value} (free : v.FloatFree) :
    ∀ {w : Value}, w.FloatFree → Apart v w := by
  induction free with
  | integer m =>
    intro w free'
    cases free' with
    | integer n => exact apart_integer m n
    | _ => exact apart_of_label_ne (by simp [label])
  | bytes data =>
    intro w free'
    cases free' with
    | bytes data' => exact apart_bytes data data'
    | _ => exact apart_of_label_ne (by simp [label])
  | text s =>
    intro w free'
    cases free' with
    | text t => exact apart_text s t
    | _ => exact apart_of_label_ne (by simp [label])
  | bool b =>
    intro w free'
    cases free' with
    | bool b' => exact apart_bool b b'
    | _ => exact apart_of_label_ne (by simp [label])
  | null =>
    intro w free'
    cases free' with
    | null => exact fun _ _ same => ⟨rfl, List.append_cancel_left same⟩
    | _ => exact apart_of_label_ne (by simp [label])
  | tag m _ ih =>
    intro w free'
    cases free' with
    | tag n inside => exact apart_tag m n (ih inside)
    | _ => exact apart_of_label_ne (by simp [label])
  | array _ ih =>
    intro w free'
    cases free' with
    | array inside => exact apart_array fun v among w among' => ih v among (inside w among')
    | _ => exact apart_of_label_ne (by simp [label])
  | map _ _ ihKeys ihValues =>
    intro w free'
    cases free' with
    | map keys values =>
      exact apart_map (fun d among e among' => ihKeys d among (keys e among'))
        fun d among e among' => ihValues d among (values e among')
    | _ => exact apart_of_label_ne (by simp [label])

end Value

end CheckIn.Cbor

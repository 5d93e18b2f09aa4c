import CheckIn.Json.Record
import CheckIn.Proofs.Text.Utf8
import Mathlib.Algebra.Group.Action.Defs
import Mathlib.Tactic.IntervalCases

/-! Canonical texts of numbers and records, without blanks and escapes, and what the readers take
them for. What follows such a text in a record is a comma or a closing brace. -/
namespace CheckIn.Json

/-- From wherever `bs` and then `rest` are ahead, a reader takes `bs` for a value. -/
def Takes {α : Type} (read : Reader α) (bs : List UInt8) (a : α) (rest : List UInt8) : Prop :=
  ∀ c : Cursor, c.rest = bs ++ rest → ∃ c', c'.rest = rest ∧ read c = .ok (a, c')

namespace Cursor

variable {c : Cursor} {b : UInt8} {rest : List UInt8}

theorem next_rest (ahead : c.rest = b :: rest) : c.next.rest = rest := by
  unfold next
  split <;> simp_all

theorem peek?_of_ahead (ahead : c.rest = b :: rest) : c.peek? = some b := by
  rw [peek?, ahead, List.head?_cons]

theorem sees_of_ahead (ahead : c.rest = b :: rest) (test : UInt8 → Bool) :
    c.sees test = test b := by
  rw [sees, peek?_of_ahead ahead, Option.any_some]

theorem seesByte_of_ahead (ahead : c.rest = b :: rest) (other : UInt8) :
    c.seesByte other = (b == other) := sees_of_ahead ahead _

theorem skipBlanks_of_ahead (ahead : c.rest = b :: rest) (mark : isBlank b = false) :
    c.skipBlanks = c := by
  rw [skipBlanks, ahead, skipWhile, mark, if_neg Bool.false_ne_true]

end Cursor

def IsCloser (b : UInt8) : Prop := b = 0x2c ∨ b = 0x7d

/-- A byte that neither continues a number nor makes it a float. -/
def EndsNumber (b : UInt8) : Prop := isDigit b = false ∧ isFloatMark b = false

theorem IsCloser.endsNumber {b : UInt8} (closer : IsCloser b) : EndsNumber b := by
  rcases closer with rfl | rfl <;> exact ⟨rfl, rfl⟩

def digits (n : Nat) : List UInt8 := Text.Utf8.ofString (toString n)

theorem digits_eq_encode (n : Nat) : digits n = Text.Utf8.encode (Nat.toDigits 10 n) :=
  congrArg Text.Utf8.encode Nat.toList_repr

theorem digits_of_lt {n : Nat} (small : n < 10) : digits n = [UInt8.ofNat (0x30 + n)] := by
  interval_cases n <;> rfl

theorem digits_of_ge {n : Nat} (large : 10 ≤ n) :
    digits n = digits (n / 10) ++ [UInt8.ofNat (0x30 + n % 10)] := by
  have last : n % 10 < 10 := Nat.mod_lt n (by decide)
  have lastDigit : Nat.toDigits 10 (n % 10) = [(n % 10).digitChar] := Nat.toDigits_of_lt_base last
  rw [← digits_of_lt last, digits_eq_encode, digits_eq_encode, digits_eq_encode,
    Nat.toDigits_of_base_le (by decide) large, lastDigit]
  exact List.flatMap_append

theorem isDigit_of_lt : ∀ k < 10, isDigit (UInt8.ofNat (0x30 + k)) = true := by decide

theorem digitValue_of_lt : ∀ k < 10, digitValue (UInt8.ofNat (0x30 + k)) = k := by decide

theorem plain_of_digit {d : UInt8} (digit : isDigit d = true) :
    isBlank d = false ∧ (d == 0x2d) = false := by
  constructor
  · by_contra blank
    simp only [isBlank, Bool.not_eq_false, Bool.or_eq_true, beq_iff_eq] at blank
    rcases blank with ((rfl | rfl) | rfl) | rfl <;> cases digit
  · by_contra minus
    simp only [Bool.not_eq_false, beq_iff_eq] at minus
    subst minus
    cases digit

def continued (acc : Nat) (b : UInt8) : Nat := acc * 10 + digitValue b

theorem le_foldl_continued (acc : Nat) (ds : List UInt8) : acc ≤ ds.foldl continued acc := by
  induction ds generalizing acc with
  | nil => exact Nat.le_refl acc
  | cons d ds ih =>
    have step : acc ≤ continued acc d := by
      unfold continued
      omega
    exact Nat.le_trans step (ih _)

/-- Digits that are read as a number: it has no zero in front unless it is zero. -/
structure Spells (ds : List UInt8) (n : Nat) : Prop where
  allDigits : ∀ d ∈ ds, isDigit d = true
  value : ds.foldl continued 0 = n
  nonempty : ds ≠ []
  noLeadingZero : ds.head? = some 0x30 → ds = [0x30]

theorem spells_digits (n : Nat) : Spells (digits n) n := by
  induction n using Nat.strongRecOn with
  | ind n ih =>
    by_cases small : n < 10
    · rw [digits_of_lt small]
      constructor
      · intro d member
        rw [List.mem_singleton.mp member]
        exact isDigit_of_lt n small
      · simp only [List.foldl_cons, List.foldl_nil, continued, digitValue_of_lt n small]
        omega
      · simp
      · intro zero
        exact congrArg (fun d => [d]) (Option.some.inj zero)
    · have large : 10 ≤ n := by omega
      have last : n % 10 < 10 := Nat.mod_lt n (by decide)
      have front := ih (n / 10) (by omega)
      rw [digits_of_ge large]
      constructor
      · intro d member
        rcases List.mem_append.mp member with inFront | isLast
        · exact front.allDigits d inFront
        · rw [List.mem_singleton.mp isLast]
          exact isDigit_of_lt _ last
      · rw [List.foldl_append, front.value]
        simp only [List.foldl_cons, List.foldl_nil, continued, digitValue_of_lt _ last]
        omega
      · simp
      · intro zero
        have shown : (digits (n / 10)).head?.isSome := by simpa using front.nonempty
        rw [List.head?_append, Option.or_of_isSome shown] at zero
        have only := front.value
        rw [front.noLeadingZero zero] at only
        have none_left : n / 10 = 0 := only.symm
        omega

section

variable {ds rest : List UInt8} {n : Nat} {mark : UInt8}

theorem wholeDigits_of_spells (acc : Nat) (c : Cursor) (ahead : c.rest = ds ++ mark :: rest)
    (allDigits : ∀ d ∈ ds, isDigit d = true) (stop : isDigit mark = false)
    (room : ds.foldl continued acc ≤ significandLimit) :
    ∃ c', c'.rest = mark :: rest ∧
      wholeDigits (ds ++ mark :: rest) acc c = (ds.foldl continued acc, 0, c') := by
  induction ds generalizing acc c with
  | nil =>
    refine ⟨c, ahead, ?_⟩
    simp only [List.nil_append, wholeDigits, stop, Bool.false_eq_true, if_false, List.foldl_nil]
  | cons d ds ih =>
    have digit : isDigit d = true := allDigits d List.mem_cons_self
    have fits : ¬significandLimit < acc * 10 + digitValue d := by
      have grown := le_foldl_continued (continued acc d) ds
      rw [List.foldl_cons] at room
      unfold continued at grown room
      omega
    obtain ⟨c', behind, read⟩ := ih (continued acc d) c.next (Cursor.next_rest ahead)
      (fun d member => allDigits d (List.mem_cons_of_mem _ member)) room
    refine ⟨c', behind, ?_⟩
    rw [List.cons_append, wholeDigits, if_pos digit, if_neg fits]
    exact read

theorem takes_number (negative : Bool) (spelled : Spells ds n) (room : n ≤ significandLimit)
    (ends : EndsNumber mark) :
    Takes (number negative) ds (whole negative n) (mark :: rest) := by
  intro c ahead
  obtain ⟨stop, plain⟩ := ends
  obtain ⟨d, more, rfl⟩ := List.exists_cons_of_ne_nil spelled.nonempty
  have digit : isDigit d = true := spelled.allDigits d List.mem_cons_self
  have noZero : ¬(d = 0x30 ∧ c.next.sees isDigit = true) := by
    rintro ⟨rfl, followed⟩
    have alone : more = [] := (List.cons.inj (spelled.noLeadingZero rfl)).2
    subst alone
    rw [Cursor.sees_of_ahead (Cursor.next_rest ahead), stop] at followed
    cases followed
  obtain ⟨c', behind, read⟩ := wholeDigits_of_spells 0 c ahead spelled.allDigits stop
    (by rw [spelled.value]; exact room)
  have ended : ¬c'.sees isFloatMark = true := by
    rw [Cursor.sees_of_ahead behind, plain]
    exact Bool.false_ne_true
  refine ⟨c', behind, ?_⟩
  rw [number, Cursor.peek?_of_ahead ahead]
  dsimp only
  rw [if_neg noZero, if_pos digit, ahead, read, spelled.value]
  exact if_neg ended

end

def numeral (n : Int) : List UInt8 := Text.Utf8.ofString (toString n)

theorem numeral_ofNat (n : Nat) : numeral (.ofNat n) = digits n := rfl

theorem numeral_negSucc (n : Nat) : numeral (.negSucc n) = 0x2d :: digits (n + 1) := by
  have signed : toString (Int.negSucc n) = "-" ++ toString (n + 1) := rfl
  rw [numeral, signed, Text.Utf8.ofString, String.toList_append, Text.Utf8.encode_append]
  rfl

theorem takes_integer (low high : Nat) (expected : String) (n : Int) {mark : UInt8}
    (rest : List UInt8) (least : -(low : Int) ≤ n) (most : n ≤ high)
    (lowFits : low ≤ 0x8000000000000000) (highFits : high ≤ significandLimit)
    (ends : EndsNumber mark) :
    Takes (integer low high expected) (numeral n) n (mark :: rest) := by
  intro c ahead
  cases n with
  | ofNat n =>
    rw [numeral_ofNat] at ahead
    have spelled := spells_digits n
    have room : n ≤ significandLimit := Nat.le_trans (Int.ofNat_le.mp most) highFits
    obtain ⟨d, more, shape⟩ := List.exists_cons_of_ne_nil spelled.nonempty
    have first : c.rest = d :: (more ++ mark :: rest) := by rw [ahead, shape, List.cons_append]
    have digit : isDigit d = true := spelled.allDigits d (by rw [shape]; exact List.mem_cons_self)
    obtain ⟨notBlank, notMinus⟩ := plain_of_digit digit
    obtain ⟨c', behind, read⟩ := takes_number false spelled room ends c ahead
    refine ⟨c', behind, ?_⟩
    simp only [integer]
    rw [Cursor.skipBlanks_of_ahead first notBlank, Cursor.seesByte_of_ahead first, notMinus,
      if_neg Bool.false_ne_true, Cursor.sees_of_ahead first, if_pos digit, read]
    exact if_pos ⟨least, most⟩
  | negSucc n =>
    rw [numeral_negSucc] at ahead
    have spelled := spells_digits (n + 1)
    have bound : n + 1 ≤ 0x8000000000000000 := by omega
    have room : n + 1 ≤ significandLimit := Nat.le_trans bound (by decide)
    obtain ⟨c', behind, read⟩ := takes_number true spelled room ends c.next
      (Cursor.next_rest ahead)
    have kept : whole true (n + 1) = .negative (.negSucc n) := by
      have inside : ¬(n + 1 = 0 ∨ 0x8000000000000000 < n + 1) := by omega
      rw [whole, if_pos rfl, if_neg inside]
      rfl
    refine ⟨c', behind, ?_⟩
    simp only [integer]
    rw [Cursor.skipBlanks_of_ahead ahead rfl, Cursor.seesByte_of_ahead ahead,
      beq_self_eq_true, if_pos rfl, read, kept]
    exact if_pos ⟨least, most⟩

def standsForItself (b : UInt8) : Bool := !(b < 0x20 || b == 0x22 || b == 0x5c)

/-- Whether a name stands between quotes as it is. -/
def isPlain (name : String) : Bool :=
  (Text.Utf8.ofString name).all standsForItself &&
    Text.Utf8.lossy (Text.Utf8.ofString name) == name.toList

theorem takes_stringFrom {bs : List UInt8} (rest : List UInt8) {fuel : Nat}
    (plain : ∀ b ∈ bs, standsForItself b = true) (room : bs.length < fuel) :
    Takes (stringFrom fuel) (bs ++ [0x22]) bs rest := by
  induction bs generalizing fuel with
  | nil =>
    intro c ahead
    cases fuel with
    | zero => cases room
    | succ fuel =>
      refine ⟨c.next, Cursor.next_rest ahead, ?_⟩
      rw [stringFrom, Cursor.peek?_of_ahead ahead]
      rfl
  | cons b bs ih =>
    intro c ahead
    cases fuel with
    | zero => cases room
    | succ fuel =>
      have itself := plain b List.mem_cons_self
      simp only [standsForItself, Bool.not_eq_true', Bool.or_eq_false_iff, beq_eq_false_iff_ne,
        decide_eq_false_iff_not] at itself
      obtain ⟨⟨printable, noQuote⟩, noEscape⟩ := itself
      obtain ⟨c', behind, read⟩ := ih (fun b member => plain b (List.mem_cons_of_mem _ member))
        (Nat.lt_of_succ_lt_succ room) c.next (Cursor.next_rest ahead)
      refine ⟨c', behind, ?_⟩
      rw [stringFrom, Cursor.peek?_of_ahead ahead]
      dsimp only
      rw [if_neg noQuote, if_neg noEscape, if_neg printable, read]
      rfl

theorem takes_string {name : String} (plain : isPlain name = true) (rest : List UInt8) :
    Takes string (Text.Utf8.ofString name ++ [0x22]) name rest := by
  intro c ahead
  rw [isPlain, Bool.and_eq_true, List.all_eq_true, beq_iff_eq] at plain
  have room : (Text.Utf8.ofString name).length < c.rest.length + 1 := by
    rw [ahead]
    simp only [List.length_append]
    omega
  obtain ⟨c', behind, read⟩ := takes_stringFrom rest plain.1 room c ahead
  refine ⟨c', behind, ?_⟩
  simp only [string, read, bind, Except.bind, plain.2, String.ofList_toList]

theorem takes_colon (rest : List UInt8) : Takes colon [0x3a] () rest := by
  intro c ahead
  refine ⟨c.next, Cursor.next_rest ahead, ?_⟩
  simp only [colon]
  rw [Cursor.skipBlanks_of_ahead ahead rfl, Cursor.peek?_of_ahead ahead]
  rfl

/-- A member of a text: its field, its value as written, and what it changes. -/
structure Entry (ω σ : Type) where
  field : FieldReader σ
  value : List UInt8
  change : ω

section

variable {ω σ : Type} [Monoid ω] [MulAction ω σ]

namespace Entry

/-- What is written behind the opening quote. -/
def text (e : Entry ω σ) : List UInt8 :=
  (Text.Utf8.ofString e.field.name ++ [0x22]) ++ ([0x3a] ++ e.value)

/-- The field is found by its name, and its value is read as what it changes. -/
structure Fits (fields : List (FieldReader σ)) (e : Entry ω σ) : Prop where
  plain : isPlain e.field.name = true
  found : fields.find? (·.name == e.field.name) = some e.field
  reads : ∀ s mark rest, IsCloser mark →
    Takes (e.field.read s) e.value (e.change • s) (mark :: rest)

end Entry

/-- What is written behind a member: the others, with commas before them, and the end. -/
def tailText : List (Entry ω σ) → List UInt8
  | [] => [0x7d]
  | e :: es => 0x2c :: 0x22 :: (e.text ++ tailText es)

/-- Members with commas between them and a brace behind them. -/
def entriesText : List (Entry ω σ) → List UInt8
  | [] => [0x7d]
  | e :: es => 0x22 :: (e.text ++ tailText es)

def changes : List (Entry ω σ) → ω
  | [] => 1
  | e :: es => changes es * e.change

def objectText (es : List (Entry ω σ)) : List UInt8 := 0x7b :: entriesText es

variable {fields : List (FieldReader σ)}

theorem takes_member {e : Entry ω σ} (fits : e.Fits fields) {seen : List String}
    (fresh : e.field.name ∉ seen) (s : σ) {mark : UInt8} (rest : List UInt8)
    (closer : IsCloser mark) :
    Takes (member fields seen s) e.text (e.change • s, e.field.name :: seen) (mark :: rest) := by
  intro c ahead
  rw [Entry.text, List.append_assoc] at ahead
  obtain ⟨c₁, ahead₁, key⟩ := takes_string fits.plain _ c ahead
  rw [List.append_assoc] at ahead₁
  obtain ⟨c₂, ahead₂, colon⟩ := takes_colon _ c₁ ahead₁
  obtain ⟨c₃, ahead₃, value⟩ := fits.reads s mark rest closer c₂ ahead₂
  refine ⟨c₃, ahead₃, ?_⟩
  have unseen : ¬seen.contains e.field.name = true := by simpa using fresh
  simp only [member, key, bind, Except.bind, fits.found, if_neg unseen, colon, value]

theorem behindMember_of_comma {next : σ → Reader σ} {s : σ} {c : Cursor} {rest : List UInt8}
    (ahead : c.rest = 0x2c :: 0x22 :: rest) : behindMember next s c = next s c.next := by
  have quote : c.next.rest = 0x22 :: rest := Cursor.next_rest ahead
  simp only [behindMember]
  rw [Cursor.skipBlanks_of_ahead ahead rfl, Cursor.skipBlanks_of_ahead quote rfl,
    Cursor.peek?_of_ahead ahead, Cursor.seesByte_of_ahead quote]
  rfl

theorem behindMember_of_brace {next : σ → Reader σ} {s : σ} {c : Cursor} {rest : List UInt8}
    (ahead : c.rest = 0x7d :: rest) : behindMember next s c = .ok (s, c.next) := by
  simp only [behindMember]
  rw [Cursor.skipBlanks_of_ahead ahead rfl, Cursor.peek?_of_ahead ahead]
  rfl

theorem takes_members (e : Entry ω σ) (es : List (Entry ω σ)) {fuel : Nat} {seen : List String}
    (fits : ∀ e' ∈ e :: es, e'.Fits fields) (fresh : ∀ e' ∈ e :: es, e'.field.name ∉ seen)
    (distinct : ((e :: es).map (·.field.name)).Nodup) (room : es.length < fuel) (s : σ)
    (rest : List UInt8) :
    Takes (members fields fuel seen s) (entriesText (e :: es)) (changes (e :: es) • s) rest := by
  induction es generalizing e fuel seen s with
  | nil =>
    intro c ahead
    cases fuel with
    | zero => cases room
    | succ fuel =>
      have inside : c.next.rest = e.text ++ 0x7d :: rest := by
        rw [Cursor.next_rest ahead]
        simp [tailText]
      obtain ⟨c₁, ahead₁, read⟩ := takes_member (fits e List.mem_cons_self)
        (fresh e List.mem_cons_self) s rest (.inr rfl) c.next inside
      refine ⟨c₁.next, Cursor.next_rest ahead₁, ?_⟩
      simp only [members, read, bind, Except.bind, changes, one_mul]
      exact behindMember_of_brace ahead₁
  | cons e' es ih =>
    intro c ahead
    cases fuel with
    | zero => cases room
    | succ fuel =>
      have inside : c.next.rest = e.text ++ 0x2c :: (entriesText (e' :: es) ++ rest) := by
        rw [Cursor.next_rest ahead]
        simp [tailText, entriesText]
      obtain ⟨c₁, ahead₁, read⟩ := takes_member (fits e List.mem_cons_self)
        (fresh e List.mem_cons_self) s _ (.inl rfl) c.next inside
      obtain ⟨different, distinct⟩ := List.nodup_cons.mp distinct
      have stillFresh : ∀ e'' ∈ e' :: es, e''.field.name ∉ e.field.name :: seen := by
        intro e'' member repeated
        rcases List.mem_cons.mp repeated with same | earlier
        · exact different (List.mem_map.mpr ⟨e'', member, same⟩)
        · exact fresh e'' (List.mem_cons_of_mem _ member) earlier
      obtain ⟨c₂, ahead₂, others⟩ := ih e'
        (fun e'' member => fits e'' (List.mem_cons_of_mem _ member)) stillFresh distinct
        (Nat.lt_of_succ_lt_succ room) (e.change • s) c₁.next (Cursor.next_rest ahead₁)
      refine ⟨c₂, ahead₂, ?_⟩
      simp only [members, read, bind, Except.bind]
      rw [behindMember_of_comma ahead₁, others, ← mul_smul]
      rfl

omit [Monoid ω] [MulAction ω σ] in
theorem length_lt_tailText (es : List (Entry ω σ)) : es.length < (tailText es).length := by
  induction es with
  | nil => exact Nat.one_pos
  | cons e es ih =>
    simp only [tailText, List.length_cons, List.length_append]
    omega

/-- The fields of a record are told apart by their names and each fits its own. -/
structure Fit (fields : List (FieldReader σ)) (es : List (Entry ω σ)) : Prop where
  each : ∀ e ∈ es, e.Fits fields
  distinct : (es.map (·.field.name)).Nodup

variable {es : List (Entry ω σ)} (fit : Fit fields es) (s : σ) (rest : List UInt8)
include fit

theorem takes_object : Takes (object fields s) (entriesText es) (changes es • s) rest := by
  intro c ahead
  cases es with
  | nil =>
    refine ⟨c.next, Cursor.next_rest ahead, ?_⟩
    simp only [object]
    rw [Cursor.skipBlanks_of_ahead ahead rfl, Cursor.seesByte_of_ahead ahead, changes, one_smul]
    rfl
  | cons e es =>
    have room : es.length < c.rest.length := by
      have shorter := length_lt_tailText es
      rw [ahead]
      simp only [entriesText, List.length_cons, List.length_append]
      omega
    obtain ⟨c', behind, read⟩ := takes_members e es fit.each (fun _ _ => List.not_mem_nil)
      fit.distinct room s rest c ahead
    refine ⟨c', behind, ?_⟩
    simp only [object]
    rw [Cursor.skipBlanks_of_ahead ahead rfl, Cursor.seesByte_of_ahead ahead,
      Cursor.seesByte_of_ahead ahead, read]
    rfl

theorem takes_record (expected : String) :
    Takes (record expected fields s) (objectText es) (changes es • s) rest := by
  intro c ahead
  obtain ⟨c', behind, read⟩ := takes_object fit s rest c.next (Cursor.next_rest ahead)
  refine ⟨c', behind, ?_⟩
  simp only [record]
  rw [Cursor.skipBlanks_of_ahead ahead rfl, Cursor.seesByte_of_ahead ahead,
    Cursor.seesByte_of_ahead ahead, read]
  rfl

theorem document_objectText (expected : String) :
    document (record expected fields s) (objectText es) = .ok (changes es • s) := by
  have ahead : (Cursor.start (objectText es)).rest = objectText es ++ [] := by
    rw [List.append_nil]
    rfl
  obtain ⟨c', behind, read⟩ := takes_record fit s [] expected (.start (objectText es)) ahead
  have finished : c'.skipBlanks.rest.isEmpty = true := by
    rw [Cursor.skipBlanks, behind, Cursor.skipWhile, behind, List.isEmpty_nil]
  rw [document, read]
  exact if_pos finished

end

def memberString (m : String × String) : String := "\"" ++ m.1 ++ "\":" ++ m.2

def objectString (members : List (String × String)) : String :=
  "\x7b" ++ ",".intercalate (members.map memberString) ++ "\x7d"

theorem ofString_append (s t : String) :
    Text.Utf8.ofString (s ++ t) = Text.Utf8.ofString s ++ Text.Utf8.ofString t := by
  rw [Text.Utf8.ofString, String.toList_append, Text.Utf8.encode_append]
  rfl

section

variable {ω σ : Type}

/-- A member is written as an entry has it. -/
def Writes (m : String × String) (e : Entry ω σ) : Prop :=
  m.1 = e.field.name ∧ Text.Utf8.ofString m.2 = e.value

theorem ofString_memberString {m : String × String} {e : Entry ω σ} (writes : Writes m e) :
    Text.Utf8.ofString (memberString m) = 0x22 :: e.text := by
  have opening : Text.Utf8.ofString "\"" = [0x22] := rfl
  have middle : Text.Utf8.ofString "\":" = [0x22, 0x3a] := rfl
  rw [memberString, ofString_append, ofString_append, ofString_append, writes.1, writes.2,
    opening, middle, Entry.text]
  simp

variable {ms : List (String × String)} {es : List (Entry ω σ)} (writes : List.Forall₂ Writes ms es)
include writes

theorem ofString_members :
    Text.Utf8.ofString (",".intercalate (ms.map memberString)) ++ [0x7d] = entriesText es := by
  have comma : Text.Utf8.ofString "," = [0x2c] := rfl
  induction writes with
  | nil => rw [List.map_nil, String.intercalate_nil]; rfl
  | @cons m e ms es first others ih =>
    cases others with
    | nil =>
      rw [List.map_singleton, String.intercalate_singleton, ofString_memberString first]
      rfl
    | @cons m' e' ms es second others =>
      have front := ofString_memberString first
      rw [List.map_cons, List.map_cons, String.intercalate_cons_cons, ← List.map_cons,
        ofString_append, ofString_append, front, comma, List.append_assoc, ih]
      simp [entriesText, tailText]

theorem ofString_objectString : Text.Utf8.ofString (objectString ms) = objectText es := by
  have opening : Text.Utf8.ofString "\x7b" = [0x7b] := rfl
  have closing : Text.Utf8.ofString "\x7d" = [0x7d] := rfl
  rw [objectString, ofString_append, ofString_append, opening, closing, List.append_assoc,
    ofString_members writes]
  rfl

end

end CheckIn.Json

import CheckIn.Proofs.Text.Fields
import CheckIn.Proofs.Text.Numerals
import CheckIn.Text.Quoted
import Mathlib.Tactic.SplitIfs

/-! Texts that can be told apart from whatever stands behind them. A quoted text always can: no
escape begins another one, and none begins with the quote that ends the text. A numeral can if what
stands behind it continues no numeral. -/
namespace CheckIn.Text

/-- A kind of text whose end shows in the text itself. -/
def PrefixFree (write : α → List Char) : Prop :=
  ∀ ⦃a b x y⦄, write a ++ x = write b ++ y → a = b ∧ x = y

theorem beginning_unique {fronts : List String}
    (apart : ∀ s ∈ fronts, ∀ t ∈ fronts, s.toList <+: t.toList → s = t) {s t : String}
    (among : s ∈ fronts) (among' : t ∈ fronts) {letters : List Char}
    (first : s.toList <+: letters) (second : t.toList <+: letters) : s = t := by
  rcases List.prefix_or_prefix_of_prefix first second with shorter | shorter
  · exact apart s among t among' shorter
  · exact (apart t among' s among shorter).symm

theorem digitChar_inj : ∀ d < 16, ∀ e < 16, Nat.digitChar d = Nat.digitChar e → d = e := by decide

theorem toDigits_eq_append {base : Nat} (counting : 1 < base) (n : Nat) :
    Nat.toDigits base n =
      (if n < base then [] else Nat.toDigits base (n / base)) ++ [Nat.digitChar (n % base)] := by
  rw [Nat.toDigits_eq_if counting]
  split
  · next small => rw [Nat.mod_eq_of_lt small, List.nil_append]
  · rfl

theorem toDigits_inj {base : Nat} (counting : 1 < base) (bounded : base ≤ 16) {m n : Nat}
    (same : Nat.toDigits base m = Nat.toDigits base n) : m = n := by
  induction m using Nat.strongRecOn generalizing n with
  | ind m ih =>
    rw [toDigits_eq_append counting m, toDigits_eq_append counting n] at same
    obtain ⟨fronts, lasts⟩ := List.append_inj' same rfl
    have digit (k : Nat) : k % base < 16 := Nat.lt_of_lt_of_le (Nat.mod_lt k (by omega)) bounded
    have ones : m % base = n % base :=
      digitChar_inj _ (digit m) _ (digit n) (List.singleton_inj.mp lasts)
    have nonempty (k : Nat) : Nat.toDigits base k ≠ [] := Nat.toDigits_ne_nil
    have tens : m / base = n / base := by
      split at fronts
      · next small =>
        split at fronts
        · next small' => rw [Nat.div_eq_of_lt small, Nat.div_eq_of_lt small']
        · exact absurd fronts.symm (nonempty _)
      · next large =>
        split at fronts
        · exact absurd fronts (nonempty _)
        · exact ih _ (Nat.div_lt_self (by omega) counting) fronts
    rw [← Nat.div_add_mod m base, ← Nat.div_add_mod n base, tens, ones]

theorem append_inj_of_run {p : Char → Bool} {run run' x y : List Char} (all : ∀ c ∈ run, p c = true)
    (all' : ∀ c ∈ run', p c = true) (stops : ∀ c ∈ x.head?, p c = false)
    (stops' : ∀ c ∈ y.head?, p c = false) (same : run ++ x = run' ++ y) : run = run' ∧ x = y := by
  have nothing {z : List Char} (stops : ∀ c ∈ z.head?, p c = false) : z.takeWhile p = [] := by
    cases z with
    | nil => rfl
    | cons c z => exact List.takeWhile_cons_of_neg (by simp [stops c rfl])
  have cut := congrArg (List.takeWhile p) same
  rw [List.takeWhile_append_of_pos all, List.takeWhile_append_of_pos all', nothing stops,
    nothing stops', List.append_nil, List.append_nil] at cut
  exact ⟨cut, List.append_cancel_left (cut ▸ same)⟩

def inNumeral (c : Char) : Bool := c == '-' || (Numeral.digit? c).isSome

theorem inNumeral_toDigits (n : Nat) : ∀ c ∈ Nat.toDigits 10 n, inNumeral c = true := by
  intro c member
  obtain ⟨d, small, rfl⟩ := exists_of_mem_toDigits (by decide) member
  simp [inNumeral, (Numeral.digit?_eq_some_iff _ d).mpr ⟨small, rfl⟩]

theorem inNumeral_toString (n : Int) : ∀ c ∈ (toString n).toList, inNumeral c = true := by
  cases n with
  | ofNat n =>
    rw [toList_toString_ofNat]
    exact inNumeral_toDigits n
  | negSucc n =>
    rw [toList_toString_negSucc]
    exact List.forall_mem_cons.mpr ⟨rfl, inNumeral_toDigits (n + 1)⟩

theorem toString_int_inj {m n : Int} (same : toString m = toString n) : m = n := by
  have read (k : Int) (small : k.natAbs ≤ m.natAbs + n.natAbs) :
      Numeral.read (m.natAbs + n.natAbs) (m.natAbs + n.natAbs) (toString k).toList = .ok k := by
    rw [read_toString, if_pos (by omega)]
  have left := read m (Nat.le_add_right _ _)
  rw [same, read n (Nat.le_add_left _ _)] at left
  exact (Except.ok.inj left).symm

theorem integer_append_inj {m n : Int} {x y : List Char}
    (stops : ∀ c ∈ x.head?, inNumeral c = false) (stops' : ∀ c ∈ y.head?, inNumeral c = false)
    (same : (toString m).toList ++ x = (toString n).toList ++ y) : m = n ∧ x = y := by
  obtain ⟨numerals, rest⟩ :=
    append_inj_of_run (inNumeral_toString m) (inNumeral_toString n) stops stops' same
  exact ⟨toString_int_inj (String.toList_inj.mp numerals), rest⟩

theorem natural_append_inj {m n : Nat} {x y : List Char}
    (stops : ∀ c ∈ x.head?, inNumeral c = false) (stops' : ∀ c ∈ y.head?, inNumeral c = false)
    (same : (toString m).toList ++ x = (toString n).toList ++ y) : m = n ∧ x = y := by
  obtain ⟨numbers, rest⟩ :=
    integer_append_inj (m := Int.ofNat m) (n := Int.ofNat n) stops stops' same
  exact ⟨Int.ofNat.inj numbers, rest⟩

namespace Quoted

/-- The characters that are escaped by a letter, with their letters. -/
def lettered : List (Char × Char) :=
  [('"', '"'), ('\\', '\\'), ('\n', 'n'), ('\r', 'r'), ('\t', 't'), ('\x00', '0')]

/-- How a character is written in a quoted text. -/
inductive Escaped : Char → List Char → Prop where
  | letter {c e} : (c, e) ∈ lettered → Escaped c ['\\', e]
  | plain {c} : c ≠ '"' → c ≠ '\\' → Escaped c [c]
  | code (c : Char) : Escaped c ('\\' :: 'u' :: '{' :: (Nat.toDigits 16 c.toNat ++ ['}']))

theorem escaped (c : Char) : Escaped c (escape c) := by
  unfold escape
  split_ifs with quote backslash newline carriage tab zero printable
  · exact .letter (by simp [lettered, quote])
  · exact .letter (by simp [lettered, backslash])
  · exact .letter (by simp [lettered, newline])
  · exact .letter (by simp [lettered, carriage])
  · exact .letter (by simp [lettered, tab])
  · exact .letter (by simp [lettered, zero])
  · exact .plain quote backslash
  · exact .code c

theorem Escaped.ne_quote {c : Char} {cs x y : List Char} (escaped : Escaped c cs) :
    cs ++ x ≠ '"' :: y := by
  cases escaped with
  | letter => simp
  | plain quote => simp [quote]
  | code => simp

theorem Escaped.append_inj {c d : Char} {cs ds x y : List Char} (first : Escaped c cs)
    (second : Escaped d ds) (same : cs ++ x = ds ++ y) : c = d ∧ x = y := by
  have letters : ∀ p ∈ lettered, p.2 ≠ 'u' ∧ ∀ q ∈ lettered, p.2 = q.2 → p.1 = q.1 := by decide
  cases first with
  | @letter e short =>
    cases second with
    | @letter e' short' =>
      obtain ⟨rfl, rfl⟩ : e = e' ∧ x = y := by simpa using same
      exact ⟨(letters _ short).2 _ short' rfl, rfl⟩
    | plain _ backslash => exact absurd (List.cons.inj same).1.symm backslash
    | code =>
      have u : e = 'u' := (List.cons.inj (List.cons.inj same).2).1
      exact absurd u (letters _ short).1
  | plain _ backslash =>
    cases second with
    | letter => exact absurd (List.cons.inj same).1 backslash
    | plain => simpa using same
    | code => exact absurd (List.cons.inj same).1 backslash
  | code =>
    cases second with
    | @letter e short =>
      have u : 'u' = e := (List.cons.inj (List.cons.inj same).2).1
      exact absurd u.symm (letters _ short).1
    | plain _ backslash => exact absurd (List.cons.inj same).1.symm backslash
    | code =>
      have unclosed (n : Nat) : '}' ∉ Nat.toDigits 16 n :=
        not_mem_toDigits (by decide) (fun _ => Nat.digitChar_ne _ rfl) n
      have behind : Nat.toDigits 16 c.toNat ++ '}' :: x = Nat.toDigits 16 d.toNat ++ '}' :: y := by
        simpa using same
      obtain ⟨codes, rest⟩ := append_sep_inj (unclosed _) (unclosed _) behind
      exact ⟨Char.toNat_inj.mp (toDigits_inj (by decide) (by decide) codes), rest⟩

/-- A quoted text ends with the first quote that no escape begins. -/
theorem body_append_inj {cs ds x y : List Char}
    (same : body cs ++ '"' :: x = body ds ++ '"' :: y) : cs = ds ∧ x = y := by
  induction cs generalizing ds with
  | nil =>
    cases ds with
    | nil => exact ⟨rfl, (List.cons.inj same).2⟩
    | cons d ds =>
      simp only [body, List.flatMap_cons, List.append_assoc] at same
      exact absurd same.symm (escaped d).ne_quote
  | cons c cs ih =>
    simp only [body, List.flatMap_cons, List.append_assoc] at same
    cases ds with
    | nil => exact absurd same (escaped c).ne_quote
    | cons d ds =>
      simp only [List.flatMap_cons, List.append_assoc] at same
      obtain ⟨rfl, later⟩ := (escaped c).append_inj (escaped d) same
      obtain ⟨rfl, rest⟩ := ih later
      exact ⟨rfl, rest⟩

theorem prefixFree_encode : PrefixFree encode := by
  intro cs ds x y same
  simp only [encode, List.cons_append, List.append_assoc, List.nil_append] at same
  exact body_append_inj (List.cons.inj same).2

end Quoted

theorem prefixFree_quoted : PrefixFree fun s => (quoted s).toList := by
  intro s t x y same
  simp only [quoted, String.toList_ofList] at same
  obtain ⟨letters, rest⟩ := Quoted.prefixFree_encode same
  exact ⟨String.toList_inj.mp letters, rest⟩

end CheckIn.Text

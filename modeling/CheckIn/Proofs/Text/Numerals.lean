import CheckIn.Proofs.Text.Digits
import CheckIn.Settings
import Mathlib.Algebra.Group.Int.Defs
import Mathlib.Data.List.TakeWhile
import Mathlib.Logic.Basic

/-! The canonical numeral of an integer, of any size, as a reader with bounds takes it: inside the
bounds it is that integer, and outside it is refused. Inside the bounds every other spelling is read
as well. Blanks around a numeral can be trimmed. -/
namespace CheckIn.Text

open Numeral (Fault magnitude)

theorem toList_toString_ofNat (n : Nat) : (toString (Int.ofNat n)).toList = Nat.toDigits 10 n :=
  Nat.toList_repr

theorem toList_toString_negSucc (n : Nat) :
    (toString (Int.negSucc n)).toList = '-' :: Nat.toDigits 10 (n + 1) := by
  have signed : toString (Int.negSucc n) = "-" ++ (n + 1).repr := rfl
  rw [signed, String.toList_append, Nat.toList_repr]
  rfl

theorem exists_toDigits_eq_cons (n : Nat) :
    ∃ d < 10, ∃ cs, Nat.toDigits 10 n = Nat.digitChar d :: cs := by
  obtain ⟨c, cs, shape⟩ := List.exists_cons_of_ne_nil (Nat.toDigits_ne_nil (n := n) (b := 10))
  have first : c ∈ Nat.toDigits 10 n := shape ▸ List.mem_cons_self
  obtain ⟨d, small, rfl⟩ := exists_of_mem_toDigits (by decide) first
  exact ⟨d, small, cs, shape⟩

section

variable (limit : Nat) (beyond : Fault)

theorem le_ofDigitChars (cs : List Char) (acc : Nat) : acc ≤ Nat.ofDigitChars 10 cs acc := by
  induction cs generalizing acc with
  | nil => exact Nat.le_refl acc
  | cons c cs ih =>
    rw [Nat.ofDigitChars_cons]
    exact Nat.le_trans (by omega) (ih _)

theorem magnitude_of_digits {cs : List Char} (digits : ∀ c ∈ cs, ∃ d < 10, c = Nat.digitChar d)
    {acc : Nat} (begun : acc ≤ limit) : magnitude limit beyond acc cs =
      if Nat.ofDigitChars 10 cs acc ≤ limit then .ok (Nat.ofDigitChars 10 cs acc)
      else .error beyond := by
  induction cs generalizing acc with
  | nil => exact (if_pos begun).symm
  | cons c cs ih =>
    obtain ⟨d, small, rfl⟩ := digits c List.mem_cons_self
    have value : (Nat.digitChar d).toNat - '0'.toNat = d := by
      rw [Nat.toNat_digitChar_of_lt_ten small]
      exact Nat.add_sub_cancel_left 48 d
    have next : Nat.ofDigitChars 10 (Nat.digitChar d :: cs) acc =
        Nat.ofDigitChars 10 cs (acc * 10 + d) := by
      rw [Nat.ofDigitChars_cons, value, Nat.mul_comm]
    rw [magnitude, (Numeral.digit?_eq_some_iff _ d).mpr ⟨small, rfl⟩, next]
    dsimp only
    split
    · next left =>
      rw [if_neg (Nat.not_le_of_lt (Nat.lt_of_lt_of_le left (le_ofDigitChars cs _)))]
    · next inside =>
      exact ih (fun c member => digits c (List.mem_cons_of_mem _ member)) (Nat.le_of_not_lt inside)

theorem magnitude_toDigits (n : Nat) : magnitude limit beyond 0 (Nat.toDigits 10 n) =
    if n ≤ limit then .ok n else .error beyond := by
  have digits : ∀ c ∈ Nat.toDigits 10 n, ∃ d < 10, c = Nat.digitChar d :=
    fun c member => exists_of_mem_toDigits (by decide) member
  rw [magnitude_of_digits limit beyond digits (Nat.zero_le limit), Nat.ofDigitChars_ten_toDigits]

end

def Numeral.outside (low : Nat) (n : Int) : Fault :=
  if 0 ≤ n then .tooLarge else if low = 0 then .invalidDigit else .tooSmall

theorem read_toString (low high : Nat) (n : Int) : Numeral.read low high (toString n).toList =
    if -(low : Int) ≤ n ∧ n ≤ high then .ok n else .error (Numeral.outside low n) := by
  cases n with
  | ofNat n =>
    obtain ⟨d, small, cs, shape⟩ := exists_toDigits_eq_cons n
    have bounds : (-(low : Int) ≤ Int.ofNat n ∧ Int.ofNat n ≤ high) ↔ n ≤ high := by
      rw [Int.ofNat_eq_natCast]
      omega
    have plus : Nat.digitChar d ≠ '+' := by
      have all : ∀ d < 10, Nat.digitChar d ≠ '+' := by decide
      exact all d small
    have minus : Nat.digitChar d ≠ '-' := by
      have all : ∀ d < 10, Nat.digitChar d ≠ '-' := by decide
      exact all d small
    have reads : Numeral.read low high (Nat.toDigits 10 n) =
        (magnitude high .tooLarge 0 (Nat.toDigits 10 n)).map Int.ofNat := by
      rw [shape]
      simp [Numeral.read, plus, minus]
    rw [toList_toString_ofNat, reads, magnitude_toDigits, if_congr bounds rfl rfl]
    split <;> rfl
  | negSucc n =>
    obtain ⟨d, small, cs, shape⟩ := exists_toDigits_eq_cons (n + 1)
    have bounds : (-(low : Int) ≤ Int.negSucc n ∧ Int.negSucc n ≤ high) ↔ n + 1 ≤ low := by
      rw [Int.negSucc_eq]
      omega
    have reads : Numeral.read low high ('-' :: Nat.toDigits 10 (n + 1)) =
        if low = 0 then .error .invalidDigit
        else (magnitude low .tooSmall 0 (Nat.toDigits 10 (n + 1))).map fun n => -Int.ofNat n := by
      rw [shape]
      simp [Numeral.read]
    rw [toList_toString_negSucc, reads, magnitude_toDigits, if_congr bounds rfl rfl,
      Numeral.outside, if_neg (Int.not_le.mpr (Int.negSucc_lt_zero n))]
    by_cases unsigned : low = 0
    · rw [if_pos unsigned, if_pos unsigned, if_neg (by omega)]
    · rw [if_neg unsigned, if_neg unsigned]
      split <;> rfl

theorem readInt64_toString (n : Int) : Numeral.readInt64 (toString n) =
    if -2 ^ 63 ≤ n ∧ n < 2 ^ 63 then .ok (Int64.ofInt n)
    else .error (Numeral.outside Numeral.int64Size n) := by
  have bounds : (-(Numeral.int64Size : Int) ≤ n ∧ n ≤ (Numeral.int64Size - 1 : Nat)) ↔
      -2 ^ 63 ≤ n ∧ n < 2 ^ 63 := by
    rw [Numeral.int64Size]
    omega
  rw [Numeral.readInt64, read_toString, if_congr bounds rfl rfl]
  split <;> rfl

/-- Decimal digits, of which the first may be zeros, and their value. -/
structure Numeral.Digits (cs : List Char) (n : Nat) : Prop where
  nonempty : cs ≠ []
  digits : ∀ c ∈ cs, ∃ d < 10, c = Nat.digitChar d
  value : Nat.ofDigitChars 10 cs 0 = n

/-- The numerals of an integer: digits, a plus sign before them or not, or digits behind a minus
sign. -/
inductive Numeral.Spells : List Char → Int → Prop where
  | bare {cs : List Char} {n : Nat} : Digits cs n → Spells cs n
  | plus {cs : List Char} {n : Nat} : Digits cs n → Spells ('+' :: cs) n
  | minus {cs : List Char} {n : Nat} : Digits cs n → Spells ('-' :: cs) (-n)

namespace Numeral

theorem Digits.magnitude_eq {cs : List Char} {n limit : Nat} (digits : Digits cs n)
    (beyond : Fault) (inside : n ≤ limit) : magnitude limit beyond 0 cs = .ok n := by
  rw [magnitude_of_digits limit beyond digits.digits (Nat.zero_le limit), digits.value,
    if_pos inside]

theorem Digits.exists_cons {cs : List Char} {n : Nat} (digits : Digits cs n) :
    ∃ d < 10, ∃ more, cs = Nat.digitChar d :: more := by
  obtain ⟨c, more, rfl⟩ := List.exists_cons_of_ne_nil digits.nonempty
  obtain ⟨d, small, rfl⟩ := digits.digits c List.mem_cons_self
  exact ⟨d, small, more, rfl⟩

theorem spells_toString (n : Int) : Spells (toString n).toList n := by
  have canonical (n : Nat) : Digits (Nat.toDigits 10 n) n :=
    ⟨Nat.toDigits_ne_nil, fun c member => exists_of_mem_toDigits (by decide) member,
      Nat.ofDigitChars_ten_toDigits⟩
  cases n with
  | ofNat n =>
    rw [toList_toString_ofNat]
    exact .bare (canonical n)
  | negSucc n =>
    rw [toList_toString_negSucc]
    exact .minus (canonical (n + 1))

theorem Spells.read_eq {cs : List Char} {n : Int} (spells : Spells cs n) {low high : Nat}
    (least : -(low : Int) ≤ n) (most : n ≤ high) (signed : cs.head? = some '-' → low ≠ 0) :
    read low high cs = .ok n := by
  cases spells with
  | bare digits =>
    obtain ⟨d, small, more, rfl⟩ := digits.exists_cons
    have noSign : Nat.digitChar d ≠ '+' ∧ Nat.digitChar d ≠ '-' := by
      have all : ∀ d < 10, Nat.digitChar d ≠ '+' ∧ Nat.digitChar d ≠ '-' := by decide
      exact all d small
    have reads : read low high (Nat.digitChar d :: more) =
        (magnitude high .tooLarge 0 (Nat.digitChar d :: more)).map Int.ofNat := by
      simp [read, noSign]
    rw [reads, digits.magnitude_eq _ (Int.ofNat_le.mp most)]
    rfl
  | plus digits =>
    obtain ⟨d, small, more, rfl⟩ := digits.exists_cons
    have reads : read low high ('+' :: Nat.digitChar d :: more) =
        (magnitude high .tooLarge 0 (Nat.digitChar d :: more)).map Int.ofNat := by
      simp [read]
    rw [reads, digits.magnitude_eq _ (Int.ofNat_le.mp most)]
    rfl
  | @minus _ n digits =>
    obtain ⟨d, small, more, rfl⟩ := digits.exists_cons
    have reads : read low high ('-' :: Nat.digitChar d :: more) =
        (magnitude low .tooSmall 0 (Nat.digitChar d :: more)).map fun n => -Int.ofNat n := by
      simp [read, signed rfl]
    rw [reads, digits.magnitude_eq _ (by omega)]
    rfl

theorem readInt64_of_spells {text : String} {n : Int64} (spells : Spells text.toList n.toInt) :
    readInt64 text = .ok n := by
  have least := n.le_toInt
  have most := n.toInt_lt
  rw [readInt64, spells.read_eq (by rw [int64Size]; omega) (by rw [int64Size]; omega)
    fun _ => by decide]
  exact congrArg Except.ok (Int64.ofInt_toInt n)

theorem readUInt64_of_spells {text : String} {n : UInt64} (spells : Spells text.toList n.toNat)
    (unsigned : text.toList.head? ≠ some '-') : readUInt64 text = .ok n := by
  have most := n.toNat_lt
  rw [readUInt64, spells.read_eq (by omega) (by rw [uint64Max]; omega)
    fun sign => absurd sign unsigned]
  exact congrArg Except.ok UInt64.ofNat_toNat

end Numeral
theorem dropWhile_isBlank {cs : List Char} (inked : ∀ c ∈ cs, isBlank c = false) :
    cs.dropWhile isBlank = cs := by
  cases cs with
  | nil => rfl
  | cons c cs => exact List.dropWhile_cons_of_neg (by simp [inked c List.mem_cons_self])

theorem trim_of_blanks {before cs after : List Char} (leading : ∀ c ∈ before, isBlank c = true)
    (trailing : ∀ c ∈ after, isBlank c = true) (inked : ∀ c ∈ cs, isBlank c = false) :
    trim (before ++ (cs ++ after)) = cs := by
  have inked' : ∀ c ∈ cs.reverse, isBlank c = false := by simpa using inked
  have trailing' : ∀ c ∈ after.reverse, isBlank c = true := by simpa using trailing
  have start : trimStart (before ++ (cs ++ after)) = trimStart (cs ++ after) :=
    List.dropWhile_append_of_pos leading
  cases cs with
  | nil =>
    have nothing : trimStart ([] ++ after) = [] := List.dropWhile_eq_nil_iff.mpr trailing
    rw [trim, start, nothing]
    rfl
  | cons c cs =>
    have kept : trimStart (c :: cs ++ after) = c :: cs ++ after :=
      List.dropWhile_cons_of_neg (by simp [inked c List.mem_cons_self])
    rw [trim, start, kept, trimEnd, List.reverse_append, List.dropWhile_append_of_pos trailing',
      dropWhile_isBlank inked', List.reverse_reverse]

theorem isBlank_toString (n : Int) : ∀ c ∈ (toString n).toList, isBlank c = false := by
  have digits (n : Nat) : ∀ c ∈ Nat.toDigits 10 n, isBlank c = false := by
    intro c member
    obtain ⟨d, small, rfl⟩ := exists_of_mem_toDigits (by decide) member
    have all : ∀ d < 10, isBlank (Nat.digitChar d) = false := by decide
    exact all d small
  cases n with
  | ofNat n =>
    rw [toList_toString_ofNat]
    exact digits n
  | negSucc n =>
    rw [toList_toString_negSucc]
    exact List.forall_mem_cons.mpr ⟨by decide, digits (n + 1)⟩

end CheckIn.Text

theorem CheckIn.Settings.trimmed_toString {before after : List Char} (n : Int)
    (leading : ∀ c ∈ before, Text.isBlank c = true)
    (trailing : ∀ c ∈ after, Text.isBlank c = true) :
    trimmed (String.ofList (before ++ ((toString n).toList ++ after))) = toString n := by
  rw [trimmed, String.toList_ofList,
    Text.trim_of_blanks leading trailing (Text.isBlank_toString n), String.ofList_toList]

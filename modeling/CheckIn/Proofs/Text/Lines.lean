import CheckIn.Proofs.Text.Digits
import CheckIn.Text.Quoted
import Mathlib.Algebra.GroupWithZero.Nat
import Mathlib.Tactic.SplitIfs

/-! Line breaks are counted, so that the count of a text is the sum over its parts. Numerals and
quoted texts hold none. -/
namespace CheckIn.Text

def breaks (s : String) : Nat := s.toList.count '\n'

@[simp] theorem breaks_append (s t : String) : breaks (s ++ t) = breaks s + breaks t := by
  simp [breaks]

@[simp] theorem breaks_ofList (cs : List Char) : breaks (String.ofList cs) = cs.count '\n' := by
  simp [breaks]

theorem breaks_eq_zero_iff (s : String) : breaks s = 0 ↔ '\n' ∉ s.toList := List.count_eq_zero

theorem breaks_intercalate (separator : String) (unbroken : breaks separator = 0)
    (parts : List String) : breaks (separator.intercalate parts) = (parts.map breaks).sum := by
  induction parts with
  | nil => rfl
  | cons s parts ih =>
    cases parts with
    | nil => simp
    | cons t parts =>
      rw [String.intercalate_cons_cons, breaks_append, breaks_append, unbroken, ih, Nat.add_zero]
      rfl

theorem digitChar_ne_newline (d : Nat) : Nat.digitChar d ≠ '\n' := Nat.digitChar_ne _ rfl

@[simp] theorem breaks_nat (n : Nat) : breaks (toString n) = 0 := by
  rw [breaks_eq_zero_iff]
  change '\n' ∉ (Nat.repr n).toList
  rw [Nat.repr_eq_ofList_toDigits, String.toList_ofList]
  exact not_mem_toDigits (by decide) digitChar_ne_newline n

@[simp] theorem breaks_int (n : Int) : breaks (toString n) = 0 := by
  cases n with
  | ofNat n => exact breaks_nat n
  | negSucc n =>
    change breaks ("-" ++ toString (n + 1)) = 0
    rw [breaks_append, breaks_nat]
    rfl

namespace Quoted

theorem newline_not_mem_escape (c : Char) : '\n' ∉ escape c := by
  unfold escape
  split_ifs with quote backslash newline carriage tab zero printable
  · decide
  · decide
  · decide
  · decide
  · decide
  · decide
  · exact fun member => newline (List.mem_singleton.mp member).symm
  · have unbroken : '\n' ∉ Nat.toDigits 16 c.toNat :=
      not_mem_toDigits (by decide) digitChar_ne_newline _
    simp [Numeral.hex, unbroken]

end Quoted

@[simp] theorem breaks_quoted (s : String) : breaks (quoted s) = 0 := by
  have body : '\n' ∉ Quoted.body s.toList := by
    intro member
    obtain ⟨c, -, inEscape⟩ := List.mem_flatMap.mp member
    exact Quoted.newline_not_mem_escape c inEscape
  rw [breaks_eq_zero_iff]
  simp [quoted, Quoted.encode, body]

end CheckIn.Text

import CheckIn.Text.Numeral

/-! Digits of numerals: what they are, and the characters that are none. -/
namespace CheckIn.Text

theorem exists_of_mem_toDigits {base n : Nat} {c : Char} (counting : 1 < base)
    (member : c ∈ Nat.toDigits base n) : ∃ d < base, c = Nat.digitChar d := by
  induction n using Nat.strongRecOn with
  | ind n ih =>
    rw [Nat.toDigits_eq_if counting] at member
    split at member
    · next small => exact ⟨n, small, List.mem_singleton.mp member⟩
    · next large =>
      rcases List.mem_append.mp member with front | last
      · exact ih (n / base) (Nat.div_lt_self (by omega) counting) front
      · exact ⟨n % base, Nat.mod_lt n (by omega), List.mem_singleton.mp last⟩

theorem not_mem_toDigits {base : Nat} {c : Char} (counting : 1 < base)
    (other : ∀ d, Nat.digitChar d ≠ c) (n : Nat) : c ∉ Nat.toDigits base n := by
  intro member
  obtain ⟨d, -, digit⟩ := exists_of_mem_toDigits counting member
  exact other d digit.symm

theorem digitChar_ascii : ∀ d < 16, (Nat.digitChar d).toNat < 128 := by decide

theorem Numeral.digit?_eq_some_iff (c : Char) (d : Nat) :
    digit? c = some d ↔ d < 10 ∧ c = Nat.digitChar d := by
  constructor
  · intro read
    rw [digit?] at read
    split at read
    · next inside =>
      have bounds : 48 ≤ c.toNat ∧ c.toNat ≤ 57 := inside
      have value : c.toNat - 48 = d := Option.some.inj read
      have small : d < 10 := by omega
      refine ⟨small, Char.toNat_inj.mp ?_⟩
      rw [Nat.toNat_digitChar_of_lt_ten small]
      omega
    · cases read
  · rintro ⟨small, rfl⟩
    have all : ∀ d < 10, digit? (Nat.digitChar d) = some d := by decide
    exact all d small

end CheckIn.Text

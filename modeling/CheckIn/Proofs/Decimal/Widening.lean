import CheckIn.Proofs.Cbor.Grammar
import Mathlib.Tactic.Ring
import Mathlib.Tactic.NormNum
import Mathlib.Tactic.Positivity
import Mathlib.Tactic.Linarith

/-! Widening is exact: the wider word denotes the same number, and no other word does. -/
namespace CheckIn.Decimal

theorem roundDiv_mul (x : Nat) {d : Nat} (positive : 0 < d) : roundDiv (x * d) d = x := by
  simp [roundDiv, positive.ne', positive.ne]

theorem scaled_eq (m : Nat) {a b k : Nat} (scale : Int) (h : (a : Int) - b - scale = k) :
    ∃ d, 0 < d ∧ scaled (m * 2 ^ a) (2 ^ b) scale = (m * 2 ^ k * d, d) := by
  refine ⟨2 ^ b * 2 ^ scale.toNat, by positivity, ?_⟩
  have exponents : a + (-scale).toNat = k + (b + scale.toNat) := by omega
  simp only [scaled, Nat.pow_eq, Prod.mk.injEq, and_true]
  rw [mul_assoc, mul_assoc, ← pow_add, ← pow_add, ← pow_add, exponents]

theorem log2_mul_two_pow {m : Nat} (positive : m ≠ 0) (a : Nat) :
    (m * 2 ^ a).log2 = m.log2 + a := by
  induction a with
  | zero => simp
  | succ a ih =>
    rw [pow_succ, ← mul_assoc, mul_comm _ 2, Nat.log2_two_mul (by positivity), ih, add_assoc]

theorem shifted_bounds {m : Nat} (positive : m ≠ 0) (place : Nat) (bits : m.log2 ≤ place) :
    2 ^ place ≤ m * 2 ^ (place - m.log2) ∧ m * 2 ^ (place - m.log2) < 2 ^ (place + 1) := by
  have least : 2 ^ m.log2 ≤ m := Nat.log2_self_le positive
  have most : m < 2 ^ (m.log2 + 1) := Nat.lt_log2_self
  constructor
  · calc 2 ^ place = 2 ^ m.log2 * 2 ^ (place - m.log2) := by rw [← pow_add]; congr 1; omega
      _ ≤ m * 2 ^ (place - m.log2) := Nat.mul_le_mul_right _ least
  · calc m * 2 ^ (place - m.log2) < 2 ^ (m.log2 + 1) * 2 ^ (place - m.log2) := by gcongr
      _ = 2 ^ (place + 1) := by rw [← pow_add]; congr 1; omega

theorem nearest_exact {m a b : Nat} (positive : m ≠ 0) (small : m < 2 ^ 53) (low : b ≤ a + 1000)
    (high : a ≤ b + 900) :
    binary64.nearest (m * 2 ^ a) (2 ^ b) =
      m * 2 ^ (52 - m.log2) + (m.log2 + a + 1022 - b) * 2 ^ 52 := by
  have bits : m.log2 < 53 := (Nat.log2_lt positive).mpr small
  obtain ⟨d, dPositive, finer⟩ := scaled_eq m (a := a) (b := b) (k := 53 - m.log2)
    (((m.log2 + a : Nat) : Int) - b - 52 - 1) (by omega)
  obtain ⟨d', dPositive', fitting⟩ := scaled_eq m (a := a) (b := b) (k := 52 - m.log2)
    (((m.log2 + a : Nat) : Int) - b - 52) (by omega)
  have full := (shifted_bounds positive 53 (by omega)).1
  have tooFine : ¬ m * 2 ^ (53 - m.log2) * d < 2 * 2 ^ 52 * d :=
    Nat.not_lt.mpr (Nat.mul_le_mul_right d (by omega))
  have fits := (shifted_bounds positive 52 (by omega)).2
  have hidden : binary64.hidden = 2 ^ 52 := rfl
  have scale : binary64.leastScale = -1074 := rfl
  have top : binary64.topExponent = 2047 := rfl
  have digits : binary64.fractionBits = 52 := rfl
  have coarse : ¬ ((m.log2 + a : Nat) : Int) - b - 52 < -1074 := by omega
  unfold Format.nearest
  rw [if_neg (by positivity)]
  simp only [log2_mul_two_pow positive, Nat.log2_two_pow, hidden, scale, top, digits,
    Nat.cast_ofNat, finer, tooFine, if_false, coarse, fitting, roundDiv_mul _ dPositive']
  have binade : (((m.log2 + a : Nat) : Int) - b - 52 - -1074).toNat = m.log2 + a + 1022 - b := by
    omega
  rw [binade, if_neg (by omega)]

theorem signBit_eq (negative : Bool) :
    binary64.signBit negative = if negative then 2 ^ 63 else 0 := by
  cases negative <;> rfl

theorem denoted_binary64 (word : Nat) : binary64.denoted word =
    if word / 2 ^ 52 % 2 ^ 11 = 2047 then
      if word % 2 ^ 52 = 0 then .infinite (word / 2 ^ 63 % 2 == 1) else .nan
    else if word / 2 ^ 52 % 2 ^ 11 = 0 then
      .finite (word / 2 ^ 63 % 2 == 1) (word % 2 ^ 52) (-1074) false
    else .finite (word / 2 ^ 63 % 2 == 1) (word % 2 ^ 52 + 2 ^ 52)
      (-1074 + (word / 2 ^ 52 % 2 ^ 11 : Nat) - 1)
      (word % 2 ^ 52 == 0 && word / 2 ^ 52 % 2 ^ 11 != 1) := by
  have hidden : binary64.hidden = 2 ^ 52 := rfl
  have scale : binary64.leastScale = -1074 := rfl
  have top : binary64.topExponent = 2047 := rfl
  have wide : Nat.pow 2 binary64.exponentBits = 2 ^ 11 := rfl
  have sign : word / 2 ^ 52 / 2 ^ 11 = word / 2 ^ 63 := by rw [Nat.div_div_eq_div_mul, ← pow_add]
  simp only [Format.denoted, hidden, scale, top, wide, sign]

theorem denoted_normal {x q : Nat} (negative : Bool) (least : 2 ^ 52 ≤ x) (most : x < 2 ^ 53)
    (finite : q < 2046) :
    ∃ low, binary64.denoted (binary64.signBit negative + (x + q * 2 ^ 52)) =
      .finite negative x ((q : Int) - 1074) low := by
  have fields : ∀ word, word = binary64.signBit negative + (x + q * 2 ^ 52) →
      word % 2 ^ 52 + 2 ^ 52 = x ∧ word / 2 ^ 52 % 2 ^ 11 = q + 1 ∧
        (word / 2 ^ 63 % 2 == 1) = negative := by
    rintro word rfl
    rw [signBit_eq]
    cases negative <;> simp only [Bool.false_eq_true, if_true, if_false, beq_iff_eq,
      beq_eq_false_iff_ne] <;> omega
  obtain ⟨fraction, exponent, sign⟩ := fields _ rfl
  rw [denoted_binary64, if_neg (by omega), if_neg (by omega), sign, fraction, exponent]
  exact ⟨_, by congr 1; omega⟩

theorem denoted_zero (negative : Bool) :
    binary64.denoted (binary64.signBit negative) = .finite negative 0 (-1074) false := by
  cases negative <;> rfl

theorem denoted_infinity (negative : Bool) :
    binary64.denoted (binary64.infinity negative) = .infinite negative := by
  cases negative <;> rfl

theorem denoted_finite_bounds {f : Format} {word significand : Nat} {negative low : Bool}
    {scale : Int} (h : f.denoted word = .finite negative significand scale low) :
    significand < 2 * f.hidden ∧ f.leastScale ≤ scale ∧
      scale ≤ f.leastScale + Nat.pow 2 f.exponentBits := by
  have fraction : word % f.hidden < f.hidden :=
    Nat.mod_lt _ (by simp [Format.hidden, Nat.pow_eq])
  have exponent : word / f.hidden % Nat.pow 2 f.exponentBits < Nat.pow 2 f.exponentBits :=
    Nat.mod_lt _ (by simp [Nat.pow_eq])
  simp only [Format.denoted] at h
  split at h
  · split at h <;> cases h
  · split at h
    · cases h
      omega
    · cases h
      omega

theorem denoted_nearest (significand : Nat) (scale : Int) (negative lowest : Bool)
    (small : significand < 2 ^ 53) (low : -1000 ≤ scale) (high : scale ≤ 900) :
    let word := binary64.signBit negative +
      binary64.nearest (significand * 2 ^ scale.toNat) (2 ^ (-scale).toNat)
    word < 2 ^ 64 ∧
      (Denoted.finite negative significand scale lowest).Same (binary64.denoted word) := by
  intro word
  by_cases positive : significand = 0
  · have zero : word = binary64.signBit negative := by simp [word, positive, Format.nearest]
    rw [zero, denoted_zero]
    refine ⟨?_, by simp [Denoted.Same, positive]⟩
    cases negative <;> decide
  have bits : significand.log2 < 53 := (Nat.log2_lt positive).mpr small
  obtain ⟨least, most⟩ := shifted_bounds positive 52 (Nat.le_of_lt_succ bits)
  have near := nearest_exact (a := scale.toNat) (b := (-scale).toNat) positive small (by omega)
    (by omega)
  obtain ⟨_, denotes⟩ := denoted_normal negative least most
    (q := significand.log2 + scale.toNat + 1022 - (-scale).toNat) (by omega)
  constructor
  · simp only [word, near, signBit_eq]
    cases negative <;> simp only [if_true, if_false, Bool.false_eq_true] <;> omega
  · have exponents : scale = ((52 - significand.log2 : Nat) : Int) +
        (((significand.log2 + scale.toNat + 1022 - (-scale).toNat : Nat) : Int) - 1074) := by
      omega
    simp only [word, near, denotes, Denoted.Same, true_and, Nat.cast_mul, Nat.cast_pow,
      Nat.cast_ofNat]
    rw [mul_assoc, ← zpow_natCast (2 : ℚ) (52 - significand.log2), ← zpow_add₀ (by norm_num),
      ← exponents]

/-- Widening finds the word, from every format within the middle of the range. -/
theorem widened_widen {f : Format} (bits : f.hidden ≤ 2 ^ 52) (low : -1000 ≤ f.leastScale)
    (high : f.leastScale + Nat.pow 2 f.exponentBits ≤ 900) (word : Nat) :
    Widened f word (UInt64.ofNat (f.widen binary64 word)) := by
  have toNat {n : Nat} (h : n < 2 ^ 64) : (UInt64.ofNat n).toNat = n :=
    UInt64.toNat_ofNat_of_lt' h
  cases h : f.denoted word with
  | nan =>
    have quiet : UInt64.ofNat (f.widen binary64 word) = 0x7ff8000000000000 := by
      rw [Format.widen, h]
      rfl
    refine ⟨?_, fun _ => quiet⟩
    rw [h, quiet]
    exact trivial
  | infinite negative =>
    refine ⟨?_, by simp [h]⟩
    rw [h, Format.widen, h, toNat (by cases negative <;> decide), denoted_infinity]
    rfl
  | finite negative significand scale lowest =>
    obtain ⟨most, least, top⟩ := denoted_finite_bounds h
    obtain ⟨fits, same⟩ := denoted_nearest significand scale negative lowest (by omega) (by omega)
      (by omega)
    refine ⟨?_, by simp [h]⟩
    rw [h, Format.widen, h]
    simp only [Nat.pow_eq]
    rw [toNat fits]
    exact same

theorem scale_unique {m m' : Nat} {e e' : Int} (most : m < 2 ^ 53) (most' : m' < 2 ^ 53)
    (normal : e = -1074 ∨ 2 ^ 52 ≤ m) (normal' : e' = -1074 ∨ 2 ^ 52 ≤ m')
    (low : -1074 ≤ e) (low' : -1074 ≤ e') (same : (m : ℚ) * 2 ^ e = m' * 2 ^ e') :
    m = m' ∧ e = e' := by
  wlog ordered : e ≤ e' generalizing m m' e e'
  · obtain ⟨rfl, rfl⟩ := this most' most normal' normal low' low same.symm (by omega)
    exact ⟨rfl, rfl⟩
  obtain ⟨k, rfl⟩ := Int.le.dest ordered
  have shifted : m = m' * 2 ^ k := by
    rw [zpow_add₀ (by norm_num), zpow_natCast, mul_comm ((2 : ℚ) ^ e), ← mul_assoc] at same
    exact_mod_cast mul_right_cancel₀ (zpow_ne_zero e (by norm_num)) same
  rcases Nat.eq_zero_or_pos k with rfl | positive
  · simpa using shifted
  · have two : 2 ^ 1 ≤ 2 ^ k := Nat.pow_le_pow_right (by omega) positive
    have large : m' * 2 ^ 1 ≤ m' * 2 ^ k := Nat.mul_le_mul_left _ two
    omega

section word

variable {word : Nat} {negative : Bool}

theorem word_of_infinite (fits : word < 2 ^ 64) (h : binary64.denoted word = .infinite negative) :
    word = binary64.signBit negative + 2047 * 2 ^ 52 := by
  rw [denoted_binary64] at h
  split at h
  · next top =>
    split at h
    · next whole =>
      cases h
      rw [signBit_eq]
      split <;> simp only [beq_iff_eq] at * <;> omega
    · cases h
  · split at h <;> cases h

theorem word_of_finite {m : Nat} {e : Int} {low : Bool} (fits : word < 2 ^ 64)
    (h : binary64.denoted word = .finite negative m e low) :
    word = binary64.signBit negative + (m + (e + 1074).toNat * 2 ^ 52) ∧
      m < 2 ^ 53 ∧ (e = -1074 ∨ 2 ^ 52 ≤ m) ∧ -1074 ≤ e := by
  rw [denoted_binary64] at h
  split at h
  · split at h <;> cases h
  · split at h
    · cases h
      refine ⟨?_, by omega, .inl rfl, by omega⟩
      rw [signBit_eq]
      split <;> simp only [beq_iff_eq] at * <;> omega
    · cases h
      refine ⟨?_, by omega, .inr (by omega), by omega⟩
      rw [signBit_eq]
      split <;> simp only [beq_iff_eq] at * <;> omega

end word

/-- A binary64 word is settled by the number or infinity that it denotes. -/
theorem word_unique {d : Denoted} {w w' : Nat} (fits : w < 2 ^ 64) (fits' : w' < 2 ^ 64)
    (number : d ≠ .nan) (same : d.Same (binary64.denoted w))
    (same' : d.Same (binary64.denoted w')) : w = w' := by
  cases h : binary64.denoted w <;> cases h' : binary64.denoted w' <;> rw [h] at same <;>
    rw [h'] at same' <;> cases d <;> simp only [Denoted.Same, ne_eq, not_true] at same same' number
  · obtain ⟨rfl, number⟩ := same
    obtain ⟨rfl, number'⟩ := same'
    obtain ⟨word, most, normal, least⟩ := word_of_finite fits h
    obtain ⟨word', most', normal', least'⟩ := word_of_finite fits' h'
    obtain ⟨rfl, rfl⟩ := scale_unique most most' normal normal' least least'
      (number.symm.trans number')
    rw [word, word']
  · subst same same'
    rw [word_of_infinite fits h, word_of_infinite fits' h']

theorem widened_unique {f : Format} {narrow : Nat} {w w' : UInt64} (h : Widened f narrow w)
    (h' : Widened f narrow w') : w = w' := by
  by_cases number : f.denoted narrow = .nan
  · rw [h.quiet number, h'.quiet number]
  · exact UInt64.toNat_inj.mp (word_unique w.toNat_lt w'.toNat_lt number h.same h'.same)

end CheckIn.Decimal

import CheckIn.Cbor.Encoder
import CheckIn.Proofs.Cbor.Head

/-! Writing against the format. A head is written shortest, which is no narrower than its argument
allows, and what is written of a value is an item that denotes it. -/
namespace CheckIn.Cbor

theorem bigEndianBytes_length (width n : Nat) : (bigEndianBytes width n).length = width := by
  induction width generalizing n with
  | zero => rfl
  | succ width ih => rw [bigEndianBytes, List.length_append, ih, List.length_singleton]

theorem spelled_bigEndianBytes {width n : Nat} (fits : n < 256 ^ width) :
    spelled (bigEndianBytes width n) = n := by
  induction width generalizing n with
  | zero =>
    obtain rfl : n = 0 := by simpa using fits
    rfl
  | succ width ih =>
    have quotient : n / 256 < 256 ^ width := by
      rw [Nat.pow_succ] at fits
      exact Nat.div_lt_of_lt_mul (by rwa [Nat.mul_comm])
    have digit : (UInt8.ofNat n).toNat = n % 256 := UInt8.toNat_ofNat'
    rw [bigEndianBytes, spelled_append, ih quotient, digit]
    exact Nat.div_add_mod n 256

theorem write_form (major n : Nat) (fits : n < 2 ^ 64) :
    (n < 24 ∧ Head.write major n = [initial major n] ∧ headLength n = 1) ∨
      ∃ k, k ≤ 3 ∧ n < 256 ^ 2 ^ k ∧ headLength n = 1 + 2 ^ k ∧
        Head.write major n = initial major (24 + k) :: bigEndianBytes (2 ^ k) n := by
  unfold Head.write headLength initial
  rw [Nat.mul_comm]
  split
  · next few => exact .inl ⟨few, rfl, rfl⟩
  · split
    · next fits => exact .inr ⟨0, by decide, fits, rfl, rfl⟩
    · split
      · next fits => exact .inr ⟨1, by decide, fits, rfl, rfl⟩
      · split
        · next fits => exact .inr ⟨2, by decide, fits, rfl, rfl⟩
        · exact .inr ⟨3, by decide, fits, rfl, rfl⟩

section

variable {major n : Nat} {bs : List UInt8}

theorem write_anyHead (major n : Nat) (fits : n < 2 ^ 64) :
    AnyHead major n (Head.write major n) := by
  rcases write_form major n fits with ⟨few, written, -⟩ | ⟨k, width, bound, -, written⟩
  · rw [written]
    exact .direct few
  · have head : AnyHead major _ (initial major (24 + k) :: bigEndianBytes (2 ^ k) n) :=
      .following width (bigEndianBytes_length (2 ^ k) n)
    rw [spelled_bigEndianBytes bound] at head
    rw [written]
    exact head

theorem write_length (major n : Nat) (fits : n < 2 ^ 64) :
    (Head.write major n).length = headLength n := by
  rcases write_form major n fits with ⟨-, written, length⟩ | ⟨k, -, -, length, written⟩
  · rw [written, length]
    rfl
  · rw [written, length, List.length_cons, bigEndianBytes_length, Nat.add_comm]

theorem headLength_le (head : AnyHead major n bs) : headLength n ≤ bs.length := by
  cases head with
  | direct few => simp [headLength, few]
  | @following k tail width length =>
    have bound := spelled_lt tail
    rw [length] at bound
    rw [List.length_cons, length]
    unfold headLength
    match k, width with
    | 0, _ | 1, _ | 2, _ | 3, _ => split_ifs <;> omega

/-- A head is written in the fewest bytes that say it. -/
theorem write_shortest (major n : Nat) (fits : n < 2 ^ 64) :
    ShortestHead major n (Head.write major n) := by
  refine ⟨write_anyHead major n fits, fun bs head => ?_⟩
  rw [write_length major n fits]
  exact headLength_le head

end

def argument : Int → Nat
  | .ofNat n => n
  | .negSucc n => n

theorem encodeInteger_length {n : Int} (fits : argument n < 2 ^ 64) :
    (encodeInteger n).length = headLength (argument n) := by
  cases n with
  | ofNat n => exact write_length 0 n fits
  | negSucc n => exact write_length 1 n fits

theorem encodeText_length {s : String} (fits : (Text.Utf8.ofString s).length < 2 ^ 64) :
    (encodeText s).length =
      headLength (Text.Utf8.ofString s).length + (Text.Utf8.ofString s).length := by
  simp only [encodeText, List.length_append, write_length 3 _ fits]

section

variable {H : HeadStyle} (writes : ∀ major n, n < 2 ^ 64 → H major n (Head.write major n))
  (levels : Nat)

include writes

theorem item_encodeInteger {n : Int} (fits : argument n < 2 ^ 64) :
    Item H levels (.integer n) (Value.encode (.integer n)) := by
  cases n with
  | ofNat n => exact .unsigned (writes 0 n fits)
  | negSucc n =>
    have value : -1 - (n : Int) = .negSucc n := by omega
    have item : Item H levels (.integer (-1 - n)) (Head.write 1 n) := .negative (writes 1 n fits)
    rwa [value] at item

theorem item_encodeText {s : String} (fits : (Text.Utf8.ofString s).length < 2 ^ 64) :
    Item H levels (.text s) (Value.encode (.text s)) :=
  .text (writes 3 _ fits)

end

end CheckIn.Cbor

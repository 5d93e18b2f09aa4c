import CheckIn.Coap.Block
import CheckIn.Proofs.Cbor.Encoding
import Mathlib.Tactic.SplitIfs

/-! Block options are read back as they are written, and blocks that come in order add up. -/
namespace CheckIn.Coap

open Cbor (bigEndianBytes bigEndian spelled)

namespace Options

variable (number : Nat) (value value' : List UInt8) (os : Options)

theorem first?_add (fresh : ∀ o ∈ os, o.1 ≠ number) :
    first? number (add number value os) = some value := by
  induction os with
  | nil => simp [add, first?]
  | cons o os ih =>
    have other : o.1 ≠ number := fresh o List.mem_cons_self
    have fresh : ∀ p ∈ os, p.1 ≠ number := fun p inside => fresh p (List.mem_cons_of_mem o inside)
    rw [add]
    split_ifs
    · rw [first?, List.lookup_cons, beq_false_of_ne other.symm]
      exact ih fresh
    · simp [first?]

theorem first?_set : first? number (set number value os) = some value := by
  refine first?_add number value _ ?_
  intro o inside
  simpa using (List.mem_filter.mp inside).2

theorem filter_add :
    (add number value os).filter (·.1 != number) = os.filter (·.1 != number) := by
  induction os with
  | nil => simp [add]
  | cons o os ih =>
    rw [add]
    split_ifs
    · rw [List.filter_cons, List.filter_cons, ih]
    · simp

theorem set_set : set number value' (set number value os) = set number value' os := by
  rw [set, set, filter_add, List.filter_filter]
  simp [set]

end Options

namespace Block

theorem spelled_dropWhile_zero (bs : List UInt8) :
    spelled (bs.dropWhile (· == 0)) = spelled bs := by
  induction bs with
  | nil => rfl
  | cons b bs ih =>
    rw [List.dropWhile_cons]
    split
    · next zero =>
      rw [ih, eq_of_beq zero]
      simp [spelled, Nat.ofDigits_append]
    · rfl

theorem bigEndian_minimalBytes {n : Nat} (fits : n < 0x10000) : bigEndian (minimalBytes n) = n := by
  rw [Cbor.bigEndian_eq_spelled, minimalBytes, spelled_dropWhile_zero]
  exact Cbor.spelled_bigEndianBytes fits

theorem length_minimalBytes_le (n : Nat) : (minimalBytes n).length ≤ 2 := by
  calc (minimalBytes n).length
      _ ≤ (bigEndianBytes 2 n).length := (List.dropWhile_sublist _).length_le
      _ = 2 := Cbor.bigEndianBytes_length 2 n

/-- A block with a number of twelve bits is read back as it was written. -/
theorem decode?_encode (b : Block) (twelve : b.number < 4096) (three : b.exponent < 8) :
    decode? b.encode = some b := by
  obtain ⟨number, more, exponent⟩ := b
  have word : (⟨number, more, exponent⟩ : Block).word =
      number * 16 + (if more then 8 else 0) + exponent := by
    rw [Block.word, Nat.mod_eq_of_lt (by dsimp only at *; omega)]
  have flag : (if more = true then 8 else 0) ≤ 8 := by split_ifs <;> omega
  dsimp only at twelve three
  have short : ¬ 2 < (minimalBytes (number * 16 + (if more then 8 else 0) + exponent)).length :=
    Nat.not_lt.mpr (length_minimalBytes_le _)
  rw [encode, word, decode?, if_neg short, bigEndian_minimalBytes (by omega)]
  cases more <;> simp <;> omega

end Block

def chunk (body : List UInt8) (size k : Nat) : List UInt8 := (body.drop (k * size)).take size

theorem place_next {body : List UInt8} {b : Block} (small : b.exponent ≤ 6)
    (reaches : b.number * b.size ≤ body.length) :
    place (body.take (b.number * b.size)) b (chunk body b.size b.number) =
      some (body.take ((b.number + 1) * b.size)) := by
  have size_le : b.size ≤ gapLimit := by
    have power : b.size ≤ Nat.pow 2 10 := Nat.pow_le_pow_right (by omega) (by omega)
    exact Nat.le_trans power (by decide)
  have length : (body.take (b.number * b.size)).length = b.offset := by
    rw [List.length_take, Nat.min_eq_left reaches, Block.offset]
  have gap : b.offset + b.size - (body.take (b.number * b.size)).length = b.size := by
    rw [length, Nat.add_sub_cancel_left]
  unfold place
  dsimp only
  rw [gap, if_neg (Nat.not_lt.mpr size_le)]
  have before : (body.take (b.number * b.size) ++ List.replicate b.size 0).take b.offset =
      body.take (b.number * b.size) := by
    rw [← length, List.take_left]
  have behind : (body.take (b.number * b.size) ++ List.replicate b.size 0).drop
      (b.offset + b.size) = [] := by
    rw [List.drop_eq_nil_iff, List.length_append, length, List.length_replicate]
  rw [before, behind, List.append_nil, chunk, Nat.succ_mul, List.take_add]

theorem place_again {body : List UInt8} {b : Block} {blocks : Nat} (known : b.number < blocks)
    (reaches : blocks * b.size ≤ body.length) :
    place (body.take (blocks * b.size)) b (chunk body b.size b.number) =
      some (body.take (blocks * b.size)) := by
  have inside : b.offset + b.size ≤ blocks * b.size := by
    rw [Block.offset, ← Nat.succ_mul]
    exact Nat.mul_le_mul_right b.size known
  have room : b.offset + b.size - (body.take (blocks * b.size)).length = 0 := by
    rw [List.length_take, Nat.min_eq_left reaches]
    exact Nat.sub_eq_zero_of_le inside
  have same : chunk body b.size b.number =
      ((body.take (blocks * b.size)).drop b.offset).take b.size := by
    rw [chunk, ← Block.offset, List.drop_take, List.take_take, Nat.min_eq_left (by omega)]
  unfold place
  dsimp only
  rw [room, if_neg (Nat.not_lt_zero _), List.replicate_zero, List.append_nil, same,
    ← List.take_add, List.take_append_drop]

/-- With any block that is no farther than the next, the blocks up to it are there. -/
theorem place_known {body : List UInt8} {b : Block} {blocks : Nat} (small : b.exponent ≤ 6)
    (known : b.number ≤ blocks) (reaches : blocks * b.size ≤ body.length) :
    place (body.take (blocks * b.size)) b (chunk body b.size b.number) =
      some (body.take (max blocks (b.number + 1) * b.size)) := by
  rcases Nat.eq_or_lt_of_le known with rfl | known
  · rw [place_next small reaches, Nat.max_eq_right (Nat.le_succ _)]
  · rw [place_again known reaches, Nat.max_eq_left known]

end CheckIn.Coap

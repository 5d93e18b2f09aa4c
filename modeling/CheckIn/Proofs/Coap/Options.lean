import CheckIn.Proofs.Coap.Packet
import Mathlib.Data.List.Chain
import Mathlib.Tactic.SplitIfs

/-! Options on the wire. The bits in front of an option say how many bytes its difference and its
length take, so that options of any lengths are read as they were written, and with them every
packet whose options can be written at all. -/
namespace CheckIn.Coap

theorem extended_bits {n : Nat} (small : n < 13) (bs : List UInt8) :
    extended (UInt8.ofNat n) bs = some (n, bs) := by
  have bits : (UInt8.ofNat n).toNat = n :=
    UInt8.toNat_ofNat_of_lt' (Nat.lt_trans small (by decide))
  have other : ∀ m : UInt8, 13 ≤ m.toNat → UInt8.ofNat n ≠ m := by
    intro m large same
    rw [← same, bits] at large
    exact Nat.not_lt.mpr large small
  unfold extended
  rw [if_neg (other 15 (by decide)), if_neg (other 14 (by decide)), if_neg (other 13 (by decide)),
    bits]

theorem extended_bytes (high low : UInt8) (rest : List UInt8) :
    extended 14 (high :: low :: rest) =
      if high.toNat * 256 + low.toNat + 269 ≤ optionLimit
      then some (high.toNat * 256 + low.toNat + 269, rest) else none := rfl

/-- A difference or length is read as it was written, whatever stands behind it. -/
theorem extended_nibble {n : Nat} (fits : n ≤ optionLimit) (rest : List UInt8) :
    extended (nibble n).1 ((nibble n).2 ++ rest) = some (n, rest) := by
  unfold nibble
  by_cases small : n < 13
  · rw [if_pos small]
    exact extended_bits small rest
  · by_cases medium : n < 269
    · have byte : (UInt8.ofNat (n - 13)).toNat + 13 = n := by
        rw [UInt8.toNat_ofNat_of_lt' (by show n - 13 < 256; omega)]
        omega
      rw [if_neg small, if_pos medium]
      show some ((UInt8.ofNat (n - 13)).toNat + 13, rest) = some (n, rest)
      rw [byte]
    · have high : (UInt8.ofNat ((n - 269) / 256)).toNat = (n - 269) / 256 :=
        UInt8.toNat_ofNat_of_lt' (by unfold optionLimit at fits; show _ < 256; omega)
      have low : (UInt8.ofNat (n - 269)).toNat = (n - 269) % 256 := UInt8.toNat_ofNat'
      have whole : (n - 269) / 256 * 256 + (n - 269) % 256 + 269 = n := by omega
      rw [if_neg small, if_neg medium, bigEndianBytes_two]
      dsimp only [List.cons_append, List.nil_append]
      rw [extended_bytes, high, low, whole, if_pos fits]

theorem optionByte (difference length : Nat) :
    let first := (nibble difference).1 * 16 + (nibble length).1
    first / 16 = (nibble difference).1 ∧ first % 16 = (nibble length).1 ∧ first ≠ 0xff := by
  have apart : ∀ d l : Fin 15, let first := UInt8.ofNat d * 16 + UInt8.ofNat l
      first / 16 = UInt8.ofNat d ∧ first % 16 = UInt8.ofNat l ∧ first ≠ 0xff := by decide +kernel
  have bits : ∀ n, ∃ k : Fin 15, (nibble n).1 = UInt8.ofNat k := by
    intro n
    unfold nibble
    split_ifs with small medium
    · exact ⟨⟨n, Nat.lt_trans small (by decide)⟩, rfl⟩
    · exact ⟨13, rfl⟩
    · exact ⟨14, rfl⟩
  obtain ⟨d, difference⟩ := bits difference
  obtain ⟨l, length⟩ := bits length
  rw [difference, length]
  exact apart d l

theorem length_lt_encodeOption (difference : Nat) (value : List UInt8) :
    value.length < (encodeOption difference value).length := by
  simp only [encodeOption, List.length_cons, List.cons_append, List.length_append]
  omega

theorem parseOptions_encodeOption (fuel : Nat) {last difference : Nat} {value : List UInt8}
    (known : last + difference ≤ optionLimit) (fits : value.length ≤ optionLimit)
    (rest : List UInt8) :
    parseOptions (fuel + 1) last (encodeOption difference value ++ rest) =
      (parseOptions fuel (last + difference) rest).map fun r =>
        ((last + difference, value) :: r.1, r.2) := by
  obtain ⟨high, low, notMarker⟩ := optionByte difference value.length
  have limited : difference ≤ optionLimit := Nat.le_trans (Nat.le_add_left _ _) known
  have taken : Cbor.takeExactly value.length (value ++ rest) = some (value, rest) :=
    Cbor.takeExactly_eq_some_iff.mpr ⟨rfl, rfl⟩
  unfold encodeOption
  simp only [List.cons_append, List.append_assoc]
  rw [parseOptions, if_neg notMarker, high, low, extended_nibble limited]
  simp only [Option.bind_eq_bind, Option.bind_some, extended_nibble fits, taken,
    if_neg (Nat.not_lt.mpr known)]
  cases parseOptions fuel (last + difference) rest <;> rfl

/-- Options as they can be written behind a number: in ascending order, with numbers and lengths
of sixteen bits. -/
structure WellPlaced (last : Nat) (os : Options) : Prop where
  ascending : (last :: os.map Prod.fst).IsChain (· ≤ ·)
  known : ∀ o ∈ os, o.1 ≤ optionLimit
  fits : ∀ o ∈ os, o.2.length ≤ optionLimit

namespace WellPlaced

variable {last : Nat} {o : Nat × List UInt8} {os : Options}

theorem nil : WellPlaced last [] := ⟨.singleton last, nofun, nofun⟩

theorem le_head (placed : WellPlaced last (o :: os)) : last ≤ o.1 :=
  (List.isChain_cons_cons.mp placed.ascending).1

theorem tail (placed : WellPlaced last (o :: os)) : WellPlaced o.1 os where
  ascending := (List.isChain_cons_cons.mp placed.ascending).2
  known p member := placed.known p (List.mem_cons_of_mem o member)
  fits p member := placed.fits p (List.mem_cons_of_mem o member)

end WellPlaced

theorem parseOptions_encodeOptions (payload : List UInt8) {os : Options} {last fuel : Nat}
    (placed : WellPlaced last os)
    (enough : (encodeOptions last os ++ encodePayload payload).length ≤ fuel) :
    parseOptions fuel last (encodeOptions last os ++ encodePayload payload) =
      some (os, payload) := by
  induction os generalizing last fuel with
  | nil => exact parseOptions_payload payload fuel last enough
  | cons o os ih =>
    have ascends : last + (o.1 - last) = o.1 := Nat.add_sub_cancel' placed.le_head
    have first := length_lt_encodeOption (o.1 - last) o.2
    rw [encodeOptions, List.append_assoc] at enough ⊢
    rw [List.length_append] at enough
    obtain ⟨fuel, rfl⟩ := Nat.exists_eq_add_of_le' (Nat.le_trans (Nat.zero_lt_of_lt first)
      (Nat.le_trans (Nat.le_add_right _ _) enough))
    rw [parseOptions_encodeOption fuel (ascends.symm ▸ placed.known o List.mem_cons_self)
      (placed.fits o List.mem_cons_self), ascends, ih placed.tail (by omega)]
    rfl

section

variable {p : Packet}

theorem length_le_encode {o : Nat × List UInt8} (member : o ∈ p.options) :
    o.2.length ≤ p.encode.length := by
  have inOptions (last : Nat) (os : Options) (member : o ∈ os) :
      o.2.length ≤ (encodeOptions last os).length := by
    induction os generalizing last with
    | nil => cases member
    | cons o' os ih =>
      rw [encodeOptions, List.length_append]
      rcases List.mem_cons.mp member with rfl | later
      · exact Nat.le_trans (Nat.le_of_lt (length_lt_encodeOption _ _)) (Nat.le_add_right _ _)
      · exact Nat.le_trans (ih _ later) (Nat.le_add_left _ _)
  have := inOptions 0 p.options member
  simp only [Packet.encode, List.length_append, List.length_cons]
  omega

/-- A packet that can be written is read as it was written. -/
theorem parse?_encode (short : p.token.length ≤ tokenLimit) (placed : WellPlaced 0 p.options) :
    Packet.parse? p.encode = some p := by
  rw [parse?_encode_eq p short, parseOptions_encodeOptions p.payload placed (Nat.le_refl _)]
  rfl

end

end CheckIn.Coap

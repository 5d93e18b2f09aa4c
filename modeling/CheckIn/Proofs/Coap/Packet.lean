import CheckIn.Coap.Packet
import CheckIn.Proofs.Cbor.Encoding
import CheckIn.Proofs.Cbor.Reading
import Mathlib.Tactic.IntervalCases

/-! What stands in front of a packet's options is read as it was written: its kind, its code, its
id and its token. -/
namespace CheckIn.Coap

open Cbor (bigEndian bigEndianBytes)

theorem firstByte (kind : PacketKind) {n : Nat} (short : n ≤ tokenLimit) :
    let first := 0x40 + kind.bits * 16 + UInt8.ofNat n
    (first % 16).toNat = n ∧ PacketKind.ofBits (first / 16 % 4) = kind := by
  unfold tokenLimit at short
  cases kind <;> interval_cases n <;> decide

theorem bigEndianBytes_two (n : Nat) :
    bigEndianBytes 2 n = [UInt8.ofNat (n / 256), UInt8.ofNat n] := rfl

theorem bigEndian_messageId (id : UInt16) : bigEndian (bigEndianBytes 2 id.toNat) = id.toNat := by
  rw [Cbor.bigEndian_eq_spelled]
  exact Cbor.spelled_bigEndianBytes id.toNat_lt

/-- A written packet is read back in all but what stands behind its token. -/
theorem parse?_encode_eq (p : Packet) (short : p.token.length ≤ tokenLimit) :
    let tail := encodeOptions 0 p.options ++ encodePayload p.payload
    Packet.parse? p.encode = (parseOptions tail.length 0 tail).map fun r =>
      { p with options := r.1, payload := r.2 } := by
  intro tail
  obtain ⟨length, kinds⟩ := firstByte p.kind short
  have taken : Cbor.takeExactly p.token.length (p.token ++ tail) = some (p.token, tail) :=
    Cbor.takeExactly_eq_some_iff.mpr ⟨rfl, rfl⟩
  have number := bigEndian_messageId p.messageId
  rw [bigEndianBytes_two] at number
  unfold Packet.encode Packet.parse?
  rw [bigEndianBytes_two]
  simp only [List.cons_append, List.nil_append, List.append_assoc, length, kinds]
  rw [if_neg (Nat.not_lt.mpr short), taken]
  simp only [Option.bind_eq_bind, Option.bind_some, number, UInt16.ofNat_toNat]
  cases parseOptions tail.length 0 tail <;> rfl

theorem parseOptions_payload (payload : List UInt8) (fuel last : Nat)
    (enough : (encodePayload payload).length ≤ fuel) :
    parseOptions fuel last (encodePayload payload) = some ([], payload) := by
  cases payload with
  | nil => cases fuel <;> rfl
  | cons b payload =>
    cases fuel with
    | zero => cases enough
    | succ fuel => rfl

end CheckIn.Coap

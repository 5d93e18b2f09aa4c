import CheckIn.Heartbeat.Request
import CheckIn.Proofs.Cbor.Decoding
import CheckIn.Proofs.Cbor.Encoding

/-! Requests on the wire. A request is written as one item with shortest heads, so it is read back
whatever follows it, and its length is known. -/
namespace CheckIn.Heartbeat

open Cbor (Item Entries HeadStyle AnyHead ShortestHead Head argument headLength)

theorem argument_lt (n : Int64) : argument n.toInt < 2 ^ 64 := by
  have least := n.le_toInt
  have most := n.toInt_lt
  generalize n.toInt = i at least most
  cases i with
  | ofNat k =>
    have most : (k : Int) < 2 ^ 63 := most
    simp only [argument]
    omega
  | negSucc k =>
    simp only [argument]
    omega

theorem headLength_le_nine (n : Nat) : headLength n ≤ 9 := by
  unfold headLength
  split_ifs <;> decide

namespace Request

theorem item_encode {H : HeadStyle}
    (writes : ∀ major n, n < 2 ^ 64 → H major n (Head.write major n)) (levels : Nat) (r : Request) :
    Item H (levels + 1) r.toValue r.encode := by
  have id := Cbor.item_encodeInteger writes levels (argument_lt r.deviceId)
  have firmware := Cbor.item_encodeInteger writes levels (argument_lt r.currentFirmware)
  have version := Cbor.item_encodeInteger writes levels (n := protocolVersion) (by decide)
  have text {s : String} (short : (Text.Utf8.ofString s).length < 2 ^ 64) :=
    Cbor.item_encodeText writes levels short
  exact .map (writes 5 3 (by decide)) (.cons (text (by decide)) id
    (.cons (text (by decide)) firmware (.cons (text (by decide)) version .nil)))

theorem decode_encode (r : Request) (rest : List UInt8) :
    Cbor.decode (r.encode ++ rest) = .ok r.toValue := by
  have item := item_encode Cbor.write_anyHead 255 r
  exact Cbor.decode_of_item item rest

theorem length_encode (r : Request) :
    r.encode.length = 46 + headLength (argument r.deviceId.toInt) +
      headLength (argument r.currentFirmware.toInt) := by
  have text {s : String} (n : Nat) (length : (Text.Utf8.ofString s).length = n)
      (fits : n < 2 ^ 64) : (Cbor.encodeText s).length = headLength n + n := by
    rw [Cbor.encodeText_length (by rwa [length]), length]
  have id := Cbor.encodeInteger_length (argument_lt r.deviceId)
  have firmware := Cbor.encodeInteger_length (argument_lt r.currentFirmware)
  have version : (Cbor.encodeInteger protocolVersion).length = 1 := rfl
  have head : (Head.write 5 3).length = 1 := rfl
  have key₁ : (Cbor.encodeText "device_id").length = 10 := text 9 (by decide) (by decide)
  have key₂ : (Cbor.encodeText "current_firmware").length = 17 := text 16 (by decide) (by decide)
  have key₃ : (Cbor.encodeText "protocol_version").length = 17 := text 16 (by decide) (by decide)
  simp only [encode, toValue, Cbor.Value.encode, Cbor.encodeEntries, List.length_append,
    List.length_cons, List.length_nil, Nat.reduceAdd, head, key₁, key₂, key₃, id, firmware, version]
  omega

theorem length_encode_le (r : Request) : r.encode.length ≤ 64 := by
  have id := headLength_le_nine (argument r.deviceId.toInt)
  have firmware := headLength_le_nine (argument r.currentFirmware.toInt)
  rw [r.length_encode]
  omega

end Request

/-- A request is read back as its three entries whatever follows it, so that no other request is
written the same. All its heads are shortest, which fixes its length. -/
theorem request_round_trip (d f : Int64) :
    (∀ rest, Cbor.decode ((Request.mk d f).encode ++ rest) = .ok (.map [
      (.text "device_id", .integer d.toInt), (.text "current_firmware", .integer f.toInt),
      (.text "protocol_version", .integer 1)])) ∧
    (∀ d' f', (Request.mk d' f').encode = (Request.mk d f).encode → d' = d ∧ f' = f) ∧
    Item ShortestHead 1 (Request.mk d f).toValue (Request.mk d f).encode ∧
    (Request.mk d f).encode.length =
      46 + headLength (argument d.toInt) + headLength (argument f.toInt) ∧
    (Request.mk d f).encode.length ≤ 64 := by
  have length := Request.length_encode ⟨d, f⟩
  refine ⟨(Request.mk d f).decode_encode, fun d' f' same => ?_,
    Request.item_encode Cbor.write_shortest 0 _, length, Request.length_encode_le ⟨d, f⟩⟩
  have read := Request.decode_encode ⟨d', f'⟩ []
  rw [same, Request.decode_encode, Except.ok.injEq] at read
  simp only [Request.toValue, Cbor.Value.map.injEq, List.cons.injEq, Prod.mk.injEq,
    Cbor.Value.integer.injEq, Int64.toInt_inj, true_and, and_true] at read
  exact ⟨read.1.symm, read.2.symm⟩

end CheckIn.Heartbeat

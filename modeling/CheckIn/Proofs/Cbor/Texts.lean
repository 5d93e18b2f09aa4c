import CheckIn.Proofs.Cbor.Decoding

/-! Text items of known length. Whatever the head is spelled like, wherever the item stands and
however its bytes are cut into chunks, they are taken for the text that they are as a whole, and where
they are none the item is malformed. -/
namespace CheckIn.Cbor

open Text.Utf8

/-- The text that some bytes are, or a fault at an offset where they are none. -/
def judgement (start : Nat) (data : List UInt8) : Except Fault String :=
  if valid : data.toByteArray.IsValidUTF8 then .ok (.ofByteArray data.toByteArray valid)
  else .error (.malformed start)

theorem isValidUTF8_iff {data : List UInt8} :
    data.toByteArray.IsValidUTF8 ↔ ∃ cs, data = encode cs := by
  constructor
  · rintro ⟨cs, same⟩
    exact ⟨cs, List.toByteArray_inj.mp same⟩
  · rintro ⟨cs, rfl⟩
    exact ⟨cs, rfl⟩

theorem ofByteArray_encode (cs : List Char) (valid : (encode cs).toByteArray.IsValidUTF8) :
    String.ofByteArray (encode cs).toByteArray valid = String.ofList cs := by
  apply String.toByteArray_inj.mp
  simp [encode, List.utf8Encode]

theorem Judged.eq_judgement {start : Nat} {data : List UInt8} {c c' : Cursor}
    {result : Except Fault (List Char × Cursor)} (verdict : Judged start data.length c result)
    (moved : c.Moves data c') :
    result = (judgement start data).map fun text => (text.toList, c') := by
  by_cases valid : data.toByteArray.IsValidUTF8
  · obtain ⟨cs, rfl⟩ := isValidUTF8_iff.mp valid
    rw [verdict.eq_of_text moved rfl]
    simp [judgement, valid, ofByteArray_encode, Except.map]
  · cases verdict with
    | text moved' count =>
      obtain ⟨same, -⟩ := moved'.unique moved count
      exact absurd (isValidUTF8_iff.mpr ⟨_, same.symm⟩) valid
    | malformed => simp [judgement, valid, Except.map]
    | cut few => exact absurd moved.length_le (Nat.not_le.mpr few)

section

variable {data head : List UInt8} (spelling : AnyHead 3 data.length head) (rest : List UInt8)

include spelling

theorem item_eq_judgement (levels offset : Nat) :
    item levels ⟨head ++ data ++ rest, offset⟩ =
      (judgement (offset + head.length - headLength data.length) data).map fun text =>
        (.text text, ⟨rest, offset + head.length + data.length⟩) := by
  have read : Head.read ⟨head ++ data ++ rest, offset⟩ =
      .ok (.text (some data.length), ⟨data ++ rest, offset + head.length⟩) := by
    rw [List.append_assoc]
    exact reads_head.complete (a := .text (some data.length)) spelling (.append _ offset)
  have content := (definiteText_judged (offset + head.length - headLength data.length) data.length
    ⟨data ++ rest, offset + head.length⟩).eq_judgement (.append rest _)
  rw [item_eq, itemWith, read]
  simp only [Bind.bind, Except.bind, afterHead, content]
  cases judgement (offset + head.length - headLength data.length) data <;> simp [Except.map]

theorem decode_eq_judgement :
    decode (head ++ data ++ rest) =
      (judgement (head.length - headLength data.length) data).map Value.text := by
  rw [decode, decodeItem, item_eq_judgement spelling rest nestingLimit 0, Nat.zero_add]
  cases judgement (head.length - headLength data.length) data <;> rfl

end

/-- An item of bytes that should be a text is read exactly if they are one as a whole, and else is
malformed, on every level of nesting. The bytes of an item, which are looked at whole if there are no
more than 4096, have the verdict that they have chunk by chunk. The chunks come to an end, after a round
for every 4093 bytes begun: a chunk has no more than 4096, of which up to three are carried into it. -/
theorem text_item_judged_whole {data head : List UInt8} (spelling : AnyHead 3 data.length head)
    (rest : List UInt8) :
    (∀ v, decode (head ++ data ++ rest) = .ok v ↔
      ∃ valid : data.toByteArray.IsValidUTF8, v = .text (.ofByteArray data.toByteArray valid)) ∧
    (¬ data.toByteArray.IsValidUTF8 →
      decode (head ++ data ++ rest) = .error (.malformed (head.length - headLength data.length))) ∧
    (∀ levels offset, item levels ⟨head ++ data ++ rest, offset⟩ =
      (judgement (offset + head.length - headLength data.length) data).map fun text =>
        (.text text, ⟨rest, offset + head.length + data.length⟩)) ∧
    (∀ start offset,
      let whole := (judgement start data).map fun text =>
        (text.toList, (⟨rest, offset + data.length⟩ : Cursor))
      definiteText start data.length ⟨data ++ rest, offset⟩ = whole ∧
        textSegment start data.length ⟨data ++ rest, offset⟩ = whole) ∧
    ∀ start length c,
      (∃ n s, Chunking.After start length c n s ∧
        s.round start = .inl (textSegment start length c)) ∧
      ∀ n s, Chunking.After start length c n s → 4093 * n < length + 4093 ∧
        s.carried.length ≤ 3 ∧ s.carried.length + s.fresh ≤ 4096 := by
  refine ⟨fun v => ?_, fun broken => ?_, item_eq_judgement spelling rest, fun start offset => ?_,
    fun start length c => ⟨textSegment_ends start length c, fun n s after => ?_⟩⟩
  · rw [decode_eq_judgement spelling rest]
    by_cases valid : data.toByteArray.IsValidUTF8
    · simp [judgement, valid, Except.map, eq_comm]
    · simp [judgement, valid, Except.map]
  · rw [decode_eq_judgement spelling rest]
    simp [judgement, broken, Except.map]
  · have there : Cursor.Moves ⟨data ++ rest, offset⟩ data ⟨rest, offset + data.length⟩ :=
      .append rest offset
    exact ⟨(definiteText_judged start data.length _).eq_judgement there,
      (textSegment_judged start data.length _).eq_judgement there⟩
  · have short := after.between.short
    exact ⟨after.rounds_lt, short, Chunking.chunk_le_scratch short⟩

/-- 4095 letters and four bytes, of which only the first is in the first chunk. -/
def crossing (last : UInt8) : List UInt8 := List.replicate 4095 0x61 ++ [0xf0, 0x9f, 0x98, last]

theorem length_crossing (last : UInt8) : (crossing last).length = 4099 := by
  rw [crossing, List.length_append, List.length_replicate]
  rfl

theorem encode_letters (n : Nat) : encode (List.replicate n 'a') = List.replicate n 0x61 := by
  induction n with
  | zero => rfl
  | succ n ih =>
    rw [List.replicate_succ, encode, List.flatMap_cons, ← encode, ih]
    rfl

/-- The first chunk carries the beginning of a character into the second, which finishes it, or finds
out that it is none. -/
theorem carried_beginning_judged_later :
    AnyHead 3 (crossing 0x80).length [0x79, 0x10, 0x03] ∧
    decode ([0x79, 0x10, 0x03] ++ crossing 0x80 ++ [0x00]) =
      .ok (.text (String.ofList (List.replicate 4095 'a' ++ ['😀']))) ∧
    AnyHead 3 (crossing 0x61).length [0x7b, 0, 0, 0, 0, 0, 0, 0x10, 0x03] ∧
    decode ([0x7b, 0, 0, 0, 0, 0, 0, 0x10, 0x03] ++ crossing 0x61 ++ [0x00]) =
      .error (.malformed 6) := by
  have narrow : AnyHead 3 (crossing 0x80).length [0x79, 0x10, 0x03] := by
    rw [length_crossing]
    exact @AnyHead.following 3 1 [0x10, 0x03] (by decide) rfl
  have wide : AnyHead 3 (crossing 0x61).length [0x7b, 0, 0, 0, 0, 0, 0, 0x10, 0x03] := by
    rw [length_crossing]
    exact @AnyHead.following 3 3 [0, 0, 0, 0, 0, 0, 0x10, 0x03] (by decide) rfl
  have face : crossing 0x80 = encode (List.replicate 4095 'a' ++ ['😀']) := by
    rw [encode_append, encode_letters]
    rfl
  have broken : ¬ (crossing 0x61).toByteArray.IsValidUTF8 := by
    intro valid
    obtain ⟨cs, text⟩ := isValidUTF8_iff.mp valid
    have walk := scan_encode (List.replicate 4095 'a') [0xf0, 0x9f, 0x98, 0x61]
    rw [encode_letters, ← crossing, text, scan_text, Prod.mk.injEq] at walk
    exact absurd walk.2 (by decide)
  refine ⟨narrow, ?_, wide, ?_⟩
  · apply ((text_item_judged_whole narrow [0x00]).1 _).mpr
    simp only [face]
    exact ⟨ByteArray.isValidUTF8_utf8Encode, by rw [ofByteArray_encode]⟩
  · rw [(text_item_judged_whole wide [0x00]).2.1 broken, length_crossing]
    rfl

end CheckIn.Cbor

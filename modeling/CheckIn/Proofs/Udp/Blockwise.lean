import CheckIn.Proofs.Coap.Block
import CheckIn.Proofs.Udp.Exchange

/-! What a client does with the blocks of a body. It asks for the block behind the one that came
last, whichever that was, and what it has gathered grows with each block that is new to it. -/
namespace CheckIn.Udp

open Coap Net

/-- A body in blocks of one size. The last may be shorter than the others, or empty. -/
structure Offer where
  body : List UInt8
  exponent : Nat
  count : Nat
  small : exponent ≤ 6
  positive : 0 < count
  few : count ≤ 4096
  reaches : (count - 1) * Nat.pow 2 (exponent + 4) ≤ body.length
  covers : body.length ≤ count * Nat.pow 2 (exponent + 4)

namespace Offer

variable (o : Offer)

def size : Nat := Nat.pow 2 (o.exponent + 4)

/-- What the option of a block says. More follow all but the last. -/
def block (k : Nat) : Block := ⟨k, decide (k + 1 < o.count), o.exponent⟩

def chunk (k : Nat) : List UInt8 := Coap.chunk o.body o.size k

def gathered (blocks : Nat) : List UInt8 := o.body.take (blocks * o.size)

theorem gathered_count : o.gathered o.count = o.body := List.take_of_length_le o.covers

theorem place_gathered {blocks k : Nat} (known : k ≤ blocks) (left : blocks < o.count) :
    place (o.gathered blocks) (o.block k) (o.chunk k) = some (o.gathered (max blocks (k + 1))) := by
  have most : blocks ≤ o.count - 1 := by omega
  have inside : blocks * o.size ≤ (o.count - 1) * o.size := Nat.mul_le_mul_right o.size most
  have placed := place_known (b := o.block k) o.small known (Nat.le_trans inside o.reaches)
  exact placed

end Offer

/-- The message with an id that asks for a block. The first block need not be named. -/
def asking (message : Packet) (exponent : Nat) (id : UInt16) : Nat → Packet
  | 0 => { message with messageId := id }
  | k + 1 => { message with
      messageId := id
      options := message.options.set block2 (Block.encode ⟨k + 1, false, exponent⟩) }

/-- The number of the block that a message asks for: the first if it names none. -/
def requested (p : Packet) : Nat := (Transfer.block2? p).elim 0 Block.number

theorem requested_of_block {o : Offer} {p : Packet} {k : Nat}
    (block : Transfer.block2? p = some (o.block k)) : requested p = k := by
  rw [requested, block, Option.elim_some]
  rfl

/-- A transfer that has gathered the first blocks of a body and asks for a block. -/
def gathering (message : Packet) (o : Offer) (id : UInt16) (blocks k : Nat) : Transfer :=
  ⟨asking message o.exponent id k, [], 0, o.gathered blocks⟩

section

variable (message : Packet) (exponent : Nat) (id : UInt16)

@[simp] theorem asking_token (k : Nat) : (asking message exponent id k).token = message.token := by
  cases k <;> rfl

theorem length_encode_asking (id' : UInt16) (k : Nat) :
    (asking message exponent id k).encode.length =
      (asking message exponent id' k).encode.length := by
  have length (p : Packet) (id : UInt16) :
      { p with messageId := id }.encode.length = p.encode.length := by
    simp [Packet.encode, Cbor.bigEndianBytes_length]
  cases k with
  | zero => exact (length message id).trans (length message id').symm
  | succ k =>
    exact (length { message with options := message.options.set block2 _ } id).trans
      (length { message with options := message.options.set block2 _ } id').symm

theorem requested_asking (plain : Transfer.block2? message = none) (small : exponent ≤ 6)
    {k : Nat} (few : k < 4096) : requested (asking message exponent id k) = k := by
  cases k with
  | zero =>
    have absent : Transfer.block2? (asking message exponent id 0) = none := plain
    rw [requested, absent, Option.elim_none]
  | succ k =>
    rw [requested, Transfer.block2?, asking, Options.first?_set, Option.bind_some,
      Block.decode?_encode _ few (Nat.lt_of_le_of_lt small (by decide)), Option.elim_some]

theorem follow_asking (j k : Nat) :
    { Transfer.follow (asking message exponent id j) with
      options := (asking message exponent id j).options.set block2
        (Block.encode ⟨k + 1, false, exponent⟩) } = asking message exponent (id + 1) (k + 1) := by
  cases j with
  | zero => rfl
  | succ j => simp only [asking, Transfer.follow, Options.set_set]

/-- A block that has been asked for is put in its place, and the one behind it is asked for. With
the last block the body is whole. -/
theorem take_gathering (o : Offer) {blocks j k : Nat} {p : Packet} (code : p.code = .content)
    (block : Transfer.block2? p = some (o.block k)) (payload : p.payload = o.chunk k)
    (known : k ≤ blocks) (left : blocks < o.count) :
    (gathering message o id blocks j).take p =
      if k + 1 < o.count then .send (gathering message o (id + 1) (max blocks (k + 1)) (k + 1))
      else .finish ⟨.content, o.body⟩ := by
  change (gathering message o id blocks j).nextDownload p = _
  rw [Transfer.nextDownload, block]
  dsimp only [gathering]
  rw [payload, o.place_gathered known left]
  by_cases more : k + 1 < o.count
  · simp only [Offer.block, more, decide_true, if_true]
    exact congrArg (fun p => Step.send ⟨p, [], 0, _⟩) (follow_asking message o.exponent id j k)
  · have last : max blocks (k + 1) = o.count := by omega
    simp only [Offer.block, more, decide_false, Bool.false_eq_true, if_false]
    rw [code, last, o.gathered_count]

end

section

variable (firstId : UInt16) (host : String) (port : UInt16) (heartbeat : Heartbeat.Request)

theorem start_heartbeatPacket : Transfer.start (heartbeatPacket firstId host port heartbeat) =
    ⟨heartbeatPacket firstId host port heartbeat, [], 0, []⟩ :=
  if_pos (length_payload_heartbeatPacket firstId host port heartbeat)

theorem block2?_heartbeatPacket :
    Transfer.block2? (heartbeatPacket firstId host port heartbeat) = none := by
  have other : ∀ o ∈ (heartbeatPacket firstId host port heartbeat).options, o.1 ≠ block2 := by
    intro o inside
    rcases List.mem_append.mp inside with inside | format
    · rcases List.mem_append.mp inside with host | path
      · split_ifs at host
        · cases host
        · rw [List.mem_singleton.mp host]
          exact (by decide : uriHost ≠ block2)
      · obtain ⟨segment, _, rfl⟩ := List.mem_map.mp path
        exact (by decide : uriPath ≠ block2)
    · split_ifs at format
      · cases format
      · rw [List.mem_singleton.mp format]
        exact (by decide : contentFormat ≠ block2)
  have absent : (heartbeatPacket firstId host port heartbeat).options.first? block2 = none := by
    refine List.lookup_eq_none_iff.mpr fun o inside => ?_
    simpa using (other o inside).symm
  rw [Transfer.block2?, absent, Option.bind_none]

end

end CheckIn.Udp

import CheckIn.Coap.Block
import CheckIn.Text.Utf8
import CheckIn.Transport.Basic

/-! A request as a sequence of messages. A long payload goes out in blocks, each after an answer to
the one before; a long body comes in by asking for block after block. The sequence is a function
of the answers: it knows neither time nor loss. -/
namespace CheckIn.Udp

open Coap

/-- Exponent of the size of outgoing blocks, and that size. -/
def uploadExponent : Nat := 6
def uploadSize : Nat := 1024

/-- The packet that a request is: confirmable and without token. A host that spells an address is
left out, an empty first segment of the path as well. -/
def packet (messageId : UInt16) (r : Transport.Request) : Packet :=
  let host : Options :=
    if r.endpoint.isLiteral then [] else [(uriHost, Text.Utf8.ofString r.endpoint.host)]
  let segments := Text.fields '/' r.endpoint.path.toList
  let segments := if segments.head? = some [] then segments.drop 1 else segments
  let path := segments.map fun s => (uriPath, Text.Utf8.encode s)
  let format : Options := if r.payload.isEmpty then [] else [(contentFormat, cborFormat)]
  ⟨.confirmable, ⟨r.method.code⟩, messageId, [], host ++ path ++ format, r.payload⟩

/-- What can go wrong with the messages themselves. -/
inductive TransferFault where
  | tooLong
  | blockwiseUnsupported
  | invalidBlock
  | sizeNegotiation
  | gap
  deriving DecidableEq, Repr

def TransferFault.message : TransferFault → String
  | .tooLong => "CoAP error: invalid packet length, consider using BlockHandler"
  | .blockwiseUnsupported =>
    "endpoint does not support blockwise transfers. Try setting block1_size to a larger value"
  | .invalidBlock => "endpoint responded with invalid block"
  | .sizeNegotiation => "negotiating block size is currently unsupported"
  | .gap => "packet error"

/-- The message under way, the blocks to send after it, its own number among them, and what has
been collected of the answer. -/
structure Transfer where
  message : Packet
  ahead : List (List UInt8)
  number : Nat
  body : List UInt8
  deriving DecidableEq, Repr

/-- What an answer leads to. -/
inductive Step where
  | send (t : Transfer)
  | finish (r : Transport.Response)
  | fail (cause : TransferFault)
  deriving DecidableEq, Repr

namespace Transfer

def withBlock1 (p : Packet) (b : Block) (payload : List UInt8) : Packet :=
  { p with options := p.options.set block1 b.encode, payload }

def start (p : Packet) : Transfer :=
  if p.payload.length ≤ uploadSize then ⟨p, [], 0, []⟩
  else match blocksOf uploadSize p.payload with
    | first :: ahead => ⟨withBlock1 p ⟨0, true, uploadExponent⟩ first, ahead, 0, []⟩
    | [] => ⟨p, [], 0, []⟩

def follow (p : Packet) : Packet := { p with messageId := p.messageId + 1 }

/-- The message with the next block, if the answer to the one before allows it. -/
def nextUpload (t : Transfer) (block : List UInt8) (ahead : List (List UInt8)) (answer : Packet) :
    Step :=
  match answer.options.first? block1 with
  | none => .fail .blockwiseUnsupported
  | some value => match Block.decode? value with
    | none => .fail .invalidBlock
    | some b =>
      if b.exponent ≠ uploadExponent then .fail .sizeNegotiation
      else
        let number := t.number + 1
        .send { t with
          message := withBlock1 (follow t.message) ⟨number, !ahead.isEmpty, uploadExponent⟩ block
          ahead, number }

/-- The block that an answer is, if it is one. -/
def block2? (answer : Packet) : Option Block :=
  (answer.options.first? block2).bind Block.decode?

/-- The end, or the message that asks for the block behind the one that came. -/
def nextDownload (t : Transfer) (answer : Packet) : Step :=
  match block2? answer with
  | none => .finish ⟨answer.code, answer.payload⟩
  | some b => match place t.body b answer.payload with
    | none => .fail .gap
    | some body =>
      if b.more then
        let next : Block := ⟨b.number + 1, false, b.exponent⟩
        let p := follow t.message
        .send { t with message := { p with options := p.options.set block2 next.encode }, body }
      else .finish ⟨answer.code, body⟩

def take (t : Transfer) (answer : Packet) : Step :=
  match t.ahead with
  | [] => t.nextDownload answer
  | block :: ahead => t.nextUpload block ahead answer

end Transfer

end CheckIn.Udp

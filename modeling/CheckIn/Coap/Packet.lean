import CheckIn.Cbor.Head
import CheckIn.Coap.Code

/-! CoAP packets and their bytes. A written packet has version 1, its options in ascending order as
differences, and a payload only behind a marker. The reader is more liberal: it does not look at
the version, and it takes a marker with nothing behind it. -/
namespace CheckIn.Coap

inductive PacketKind where
  | confirmable | nonConfirmable | acknowledgement | reset
  deriving DecidableEq, Repr

/-- Options by number, ascending; those of one number in their order. -/
abbrev Options := List (Nat × List UInt8)

structure Packet where
  kind : PacketKind
  code : Code
  messageId : UInt16
  token : List UInt8
  options : Options
  payload : List UInt8
  deriving DecidableEq, Repr

namespace Options

/-- An option behind all others of its number. -/
def add (number : Nat) (value : List UInt8) : Options → Options
  | [] => [(number, value)]
  | o :: os => if o.1 ≤ number then o :: add number value os else (number, value) :: o :: os

/-- The only option of its number. -/
def set (number : Nat) (value : List UInt8) (os : Options) : Options :=
  add number value (os.filter (·.1 != number))

def first? (number : Nat) (os : Options) : Option (List UInt8) := os.lookup number

end Options

def uriHost : Nat := 3
def uriPath : Nat := 11
def contentFormat : Nat := 12
def block2 : Nat := 23
def block1 : Nat := 27

/-- Content-Format of CBOR. -/
def cborFormat : List UInt8 := [60]

namespace PacketKind

def bits : PacketKind → UInt8
  | confirmable => 0
  | nonConfirmable => 1
  | acknowledgement => 2
  | reset => 3

def ofBits : UInt8 → PacketKind
  | 0 => confirmable
  | 1 => nonConfirmable
  | 2 => acknowledgement
  | _ => reset

end PacketKind

/-- The four bits for an option's difference or length, and the bytes that extend them. -/
def nibble (n : Nat) : UInt8 × List UInt8 :=
  if n < 13 then (UInt8.ofNat n, [])
  else if n < 269 then (13, [UInt8.ofNat (n - 13)])
  else (14, Cbor.bigEndianBytes 2 (n - 269))

def encodeOption (difference : Nat) (value : List UInt8) : List UInt8 :=
  let (d, dBytes) := nibble difference
  let (l, lBytes) := nibble value.length
  (d * 16 + l) :: dBytes ++ lBytes ++ value

def encodeOptions (last : Nat) : Options → List UInt8
  | [] => []
  | o :: os => encodeOption (o.1 - last) o.2 ++ encodeOptions o.1 os

/-- A payload behind its marker; an empty one is left out. -/
def encodePayload (payload : List UInt8) : List UInt8 :=
  if payload.isEmpty then [] else 0xff :: payload

def Packet.encode (p : Packet) : List UInt8 :=
  (0x40 + p.kind.bits * 16 + UInt8.ofNat p.token.length) :: p.code.raw ::
    Cbor.bigEndianBytes 2 p.messageId.toNat ++ p.token ++ encodeOptions 0 p.options ++
    encodePayload p.payload

/-- Longest packet that is sent. -/
def Packet.sizeLimit : Nat := 1280

def Packet.acknowledge (messageId : UInt16) : Packet :=
  ⟨.acknowledgement, ⟨0⟩, messageId, [], [], []⟩

def optionLimit : Nat := 65535

/-- A difference or length from its four bits and the bytes that extend them. Of two such bytes
the first is the more significant. -/
def extended (bits : UInt8) (bs : List UInt8) : Option (Nat × List UInt8) :=
  if bits = 15 then none
  else if bits = 14 then
    match bs with
    | high :: low :: rest =>
      let n := high.toNat * 256 + low.toNat + 269
      if n ≤ optionLimit then some (n, rest) else none
    | _ => none
  else if bits = 13 then
    match bs with
    | b :: rest => some (b.toNat + 13, rest)
    | [] => none
  else some (bits.toNat, bs)

/-- The options behind number `last`, and the payload. Each option takes at least one byte. -/
def parseOptions : Nat → Nat → List UInt8 → Option (Options × List UInt8)
  | _, _, [] => some ([], [])
  | 0, _, _ => none
  | fuel + 1, last, b :: bs =>
    if b = 0xff then some ([], bs)
    else do
      let (difference, bs) ← extended (b / 16) bs
      let (length, bs) ← extended (b % 16) bs
      let (value, bs) ← Cbor.takeExactly length bs
      let number := last + difference
      if optionLimit < number then none
      else
        let (os, payload) ← parseOptions fuel number bs
        some ((number, value) :: os, payload)

def tokenLimit : Nat := 8

def Packet.parse? : List UInt8 → Option Packet
  | first :: code :: idHigh :: idLow :: bs => do
    let tokenLength := (first % 16).toNat
    if tokenLimit < tokenLength then none
    else
      let (token, bs) ← Cbor.takeExactly tokenLength bs
      let (options, payload) ← parseOptions bs.length 0 bs
      some ⟨.ofBits (first / 16 % 4), ⟨code⟩, UInt16.ofNat (Cbor.bigEndian [idHigh, idLow]), token,
        options, payload⟩
  | _ => none

end CheckIn.Coap

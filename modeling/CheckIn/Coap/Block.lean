import CheckIn.Coap.Packet

/-! Block options: a block's number, whether more follow, and the exponent of its size, packed in
at most sixteen bits without leading zero bytes. -/
namespace CheckIn.Coap

structure Block where
  number : Nat
  more : Bool
  exponent : Nat
  deriving DecidableEq, Repr

namespace Block

def size (b : Block) : Nat := Nat.pow 2 (b.exponent + 4)

def offset (b : Block) : Nat := b.number * b.size

def word (b : Block) : Nat := b.number * 16 % 0x10000 + (if b.more then 8 else 0) + b.exponent

/-- A number without leading zero bytes; zero has no bytes. -/
def minimalBytes (n : Nat) : List UInt8 := (Cbor.bigEndianBytes 2 n).dropWhile (· == 0)

def encode (b : Block) : List UInt8 := minimalBytes b.word

def decode? (value : List UInt8) : Option Block :=
  if 2 < value.length then none
  else
    let n := Cbor.bigEndian value
    some ⟨n / 16, n / 8 % 2 == 1, n % 8⟩

end Block

/-- Farthest that a block may lie behind the bytes collected before it. -/
def gapLimit : Nat := 16384

/-- The body with a block's payload in the block's place, zeros before it where nothing has been
collected. What lies behind the place stays. -/
def place (body : List UInt8) (b : Block) (payload : List UInt8) : Option (List UInt8) :=
  let stop := b.offset + b.size
  if gapLimit < stop - body.length then none
  else
    let body := body ++ List.replicate (stop - body.length) 0
    some (body.take b.offset ++ payload ++ body.drop stop)

/-- A payload in blocks; the last is not empty. -/
def blocksOf (size : Nat) (payload : List UInt8) : List (List UInt8) :=
  if _ : size = 0 ∨ payload.length ≤ size then [payload]
  else payload.take size :: blocksOf size (payload.drop size)
termination_by payload.length
decreasing_by simp only [List.length_drop]; omega

end CheckIn.Coap

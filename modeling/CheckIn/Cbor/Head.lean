/-! Heads of CBOR items. A head is a major type with an argument; `Head.read` takes every argument
width and `Head.write` writes the shortest. A cursor counts the bytes before it, so that a fault
can say where the input went wrong. -/
namespace CheckIn.Cbor

inductive Fault where
  | endOfInput
  /-- A head that no item has, or bytes that are no text, in the item at this offset. -/
  | malformed (offset : Nat)
  | unexpectedBreak
  | unknownSimple
  | integerTooLarge
  | tooDeep
  deriving DecidableEq, Repr

def Fault.message : Fault → String
  | .endOfInput =>
    "Io(Error \x7b kind: UnexpectedEof, message: \"failed to fill whole buffer\" \x7d)"
  | .malformed offset => "Syntax(" ++ toString offset ++ ")"
  | .unexpectedBreak => "Semantic(None, \"invalid type: break, expected non-break\")"
  | .unknownSimple => "Semantic(None, \"invalid type: simple, expected known simple value\")"
  | .integerTooLarge => "Semantic(None, \"integer too large\")"
  | .tooDeep => "RecursionLimitExceeded"

structure Cursor where
  rest : List UInt8
  offset : Nat
  deriving Repr

def takeExactly : Nat → List UInt8 → Option (List UInt8 × List UInt8)
  | 0, bs => some ([], bs)
  | _ + 1, [] => none
  | n + 1, b :: bs => (takeExactly n bs).map fun r => (b :: r.1, r.2)

def Cursor.take (n : Nat) (c : Cursor) : Except Fault (List UInt8 × Cursor) :=
  match takeExactly n c.rest with
  | some (bs, rest) => .ok (bs, ⟨rest, c.offset + n⟩)
  | none => .error .endOfInput

def bigEndian (bs : List UInt8) : Nat := bs.foldl (fun n b => n * 256 + b.toNat) 0

/-- The `width` bytes of `n`, most significant first. -/
def bigEndianBytes : Nat → Nat → List UInt8
  | 0, _ => []
  | width + 1, n => bigEndianBytes width (n / 256) ++ [UInt8.ofNat n]

/-- A length of `none` is left open and closed by a `stop`. -/
inductive Head where
  | unsigned (n : Nat)
  | negative (n : Nat)
  | bytes (length : Option Nat)
  | text (length : Option Nat)
  | array (length : Option Nat)
  | map (length : Option Nat)
  | tag (number : Nat)
  | simple (n : Nat)
  | float16 (word : Nat)
  | float32 (word : Nat)
  | float64 (word : Nat)
  | stop
  deriving DecidableEq, Repr

/-- Bytes that a shortest head with this argument takes. -/
def headLength (argument : Nat) : Nat :=
  if argument < 24 then 1
  else if argument < 0x100 then 2
  else if argument < 0x10000 then 3
  else if argument < 0x100000000 then 5
  else 9

/-- The head that a major type and an argument of `width` bytes make. -/
def Head.make (major width argument : Nat) : Option Head :=
  match major with
  | 0 => some (.unsigned argument)
  | 1 => some (.negative argument)
  | 2 => some (.bytes (some argument))
  | 3 => some (.text (some argument))
  | 4 => some (.array (some argument))
  | 5 => some (.map (some argument))
  | 6 => some (.tag argument)
  | _ => match width with
    | 0 | 1 => some (.simple argument)
    | 2 => some (.float16 argument)
    | 4 => some (.float32 argument)
    | _ => some (.float64 argument)

/-- The head that a major type with an open length makes. -/
def Head.open? (major : Nat) : Option Head :=
  match major with
  | 2 => some (.bytes none)
  | 3 => some (.text none)
  | 4 => some (.array none)
  | 5 => some (.map none)
  | 7 => some .stop
  | _ => none

/-- Bytes of argument after a first byte with this additional information; `none` where the
information is reserved or leaves the length open. -/
def argumentWidth (info : Nat) : Option Nat :=
  if info < 24 then some 0
  else match info with
    | 24 => some 1
    | 25 => some 2
    | 26 => some 4
    | 27 => some 8
    | _ => none

/-- The head that was made of the bytes from an offset on, if there is one. -/
def Head.found (offset : Nat) (head : Option Head) (next : Cursor) : Except Fault (Head × Cursor) :=
  match head with
  | some h => .ok (h, next)
  | none => .error (.malformed offset)

def Head.read (c : Cursor) : Except Fault (Head × Cursor) :=
  match c.rest with
  | [] => .error .endOfInput
  | b :: rest =>
    let major := b.toNat / 32
    let info := b.toNat % 32
    let next : Cursor := ⟨rest, c.offset + 1⟩
    match argumentWidth info with
    | some 0 => found c.offset (Head.make major 0 info) next
    | some width => (next.take width).bind fun (bs, next) =>
      found c.offset (Head.make major width (bigEndian bs)) next
    | none => found c.offset (if info = 31 then Head.open? major else none) next

/-- The shortest head of a major type with an argument below `2^64`. -/
def Head.write (major argument : Nat) : List UInt8 :=
  let first (info : Nat) := UInt8.ofNat (major * 32 + info)
  if argument < 24 then [first argument]
  else if argument < 0x100 then first 24 :: bigEndianBytes 1 argument
  else if argument < 0x10000 then first 25 :: bigEndianBytes 2 argument
  else if argument < 0x100000000 then first 26 :: bigEndianBytes 4 argument
  else first 27 :: bigEndianBytes 8 argument

end CheckIn.Cbor

import CheckIn.Cbor.Segment
import CheckIn.Cbor.Value
import CheckIn.Decimal.Binary

/-! Reading a CBOR item. The reader is a recursion on the levels of nesting still allowed: arrays,
maps and tags take one level each, strings and big-number tags none. Bytes after the item are not
looked at. -/
namespace CheckIn.Cbor

def nestingLimit : Nat := 256

abbrev Reader (α : Type) := Cursor → Except Fault (α × Cursor)

def times (read : Reader α) : Nat → Reader (List α)
  | 0, c => .ok ([], c)
  | n + 1, c => do
    let (a, c) ← read c
    let (as, c) ← times read n c
    .ok (a :: as, c)

/-- Items up to a `stop`. Each takes at least one byte, so `fuel` bytes of input suffice. -/
def untilStop (read : Reader α) : Nat → Reader (List α)
  | fuel, c => match c.rest, fuel with
    | 0xff :: rest, _ => .ok ([], ⟨rest, c.offset + 1⟩)
    | _, 0 => .error .endOfInput
    | _, fuel + 1 => do
      let (a, c) ← read c
      let (as, c) ← untilStop read fuel c
      .ok (a :: as, c)

/-- Items of a container: counted, or up to a `stop`. -/
def many (read : Reader α) : Option Nat → Reader (List α)
  | some n, c => times read n c
  | none, c => untilStop read c.rest.length c

def entry (read : Reader Value) : Reader (Value × Value) := fun c => do
  let (k, c) ← read c
  let (v, c) ← read c
  .ok ((k, v), c)

/-- Longest byte string that a big-number tag turns into a number. -/
def bigNumberBytes : Nat := 16

/-- Integers of the data model lie in `[-2^64, 2^64)`. -/
def integerLimit : Nat := 0x10000000000000000

/-- Negative big numbers are `-1 - n` for an `n` below `2^127`. -/
def bigNumberLimit : Nat := 0x80000000000000000000000000000000

/-- A big number that is no integer of the data model keeps its tag. -/
def bigNumber (negative : Bool) (bs : List UInt8) : Except Fault Value :=
  let n := bigEndian bs
  let minimal := bs.dropWhile (· == 0)
  if negative then
    if bigNumberLimit ≤ n then .error .integerTooLarge
    else if n < integerLimit then .ok (.integer (-1 - n))
    else .ok (.tag 3 (.bytes minimal))
  else if n < integerLimit then .ok (.integer n)
  else .ok (.tag 2 (.bytes minimal))

/-- The content of a tag, where it makes a big number: a byte string of known and small length. The
head behind a tag is read in any case, before the tag takes its level. -/
def bigNumberContent (tag : Nat) (c : Cursor) : Except Fault (Option (List UInt8 × Cursor)) := do
  match ← Head.read c with
  | (.bytes (some length), next) =>
    if (tag = 2 ∨ tag = 3) ∧ length ≤ bigNumberBytes then return some (← next.take length)
    else return none
  | _ => return none

def simple : Nat → Except Fault Value
  | 20 => .ok (.bool false)
  | 21 => .ok (.bool true)
  | 22 | 23 => .ok .null
  | _ => .error .unknownSimple

def widened (narrow : Decimal.Format) (word : Nat) : Value :=
  .float (UInt64.ofNat (narrow.widen Decimal.binary64 word))

/-- What a container or a tag reads with `inner`, which is absent where no level is left. -/
def nested (inner : Option (Reader Value)) (read : Reader Value → Reader Value) : Reader Value :=
  fun c => match inner with
    | none => .error .tooDeep
    | some inner => read inner c

/-- What follows a head, up to the end of the item; `inner` reads the items inside it. -/
def afterHead (inner : Option (Reader Value)) : Head → Reader Value
  | .unsigned n, c => .ok (.integer n, c)
  | .negative n, c => .ok (.integer (-1 - n), c)
  | .float16 word, c => .ok (widened Decimal.binary16 word, c)
  | .float32 word, c => .ok (widened Decimal.binary32 word, c)
  | .float64 word, c => .ok (.float (UInt64.ofNat word), c)
  | .simple n, c => (simple n).map (·, c)
  | .stop, _ => .error .unexpectedBreak
  | .bytes (some length), c => (c.take length).map fun (bs, c) => (.bytes bs, c)
  | .bytes none, c => (openBytes c).map fun (bs, c) => (.bytes bs, c)
  | .text (some length), c =>
    -- The fault of a text counts back from its content by a shortest head, not by the head read.
    (definiteText (c.offset - headLength length) length c).map fun (cs, c) =>
      (.text (String.ofList cs), c)
  | .text none, c => (openText c).map fun (cs, c) => (.text (String.ofList cs), c)
  | .array length, c =>
    nested inner (fun read c => (many read length c).map fun (items, c) => (.array items, c)) c
  | .map length, c =>
    nested inner (fun read c => (many (entry read) length c).map fun (es, c) => (.map es, c)) c
  | .tag number, c => do
    match ← bigNumberContent number c with
    | some (bs, c) => (bigNumber (number == 3) bs).map (·, c)
    | none => nested inner (fun read c => (read c).map fun (v, c) => (.tag number v, c)) c

/-- One item: a head and what follows it. -/
def itemWith (inner : Option (Reader Value)) : Reader Value := fun c => do
  let (head, c) ← Head.read c
  afterHead inner head c

def item : Nat → Reader Value
  | 0 => itemWith none
  | levels + 1 => itemWith (some (item levels))

/-- The first item of some bytes, and where it ends. -/
def decodeItem (bs : List UInt8) : Except Fault (Value × Cursor) := item nestingLimit ⟨bs, 0⟩

def decode (bs : List UInt8) : Except Fault Value := (decodeItem bs).map (·.1)

end CheckIn.Cbor

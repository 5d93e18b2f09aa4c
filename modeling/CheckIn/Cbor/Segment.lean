import CheckIn.Cbor.Head
import CheckIn.Text.Utf8

/-! The contents of CBOR strings. A text of known length that fits the scratch buffer is checked
whole. Any other string is read segment by segment and each segment chunk by chunk, an unfinished
character being carried into the next chunk; a segment on its own has to be well-formed. -/
namespace CheckIn.Cbor

def scratch : Nat := 4096

/-- A character unfinished at the end of a chunk has at most this many bytes. -/
def carriedLimit : Nat := 3

/-- The text of a segment with `unread` bytes left and `carried` bytes of the chunk before.
`start` is the offset that a fault names; every chunk reads at least one byte, so `fuel` never
runs out before `unread`. -/
def chunks (start : Nat) : Nat → List UInt8 → Nat → Cursor → Except Fault (List Char × Cursor)
  | fuel + 1, carried, unread + 1, c => do
    let fresh := min scratch (carried.length + (unread + 1)) - carried.length
    let (bs, c) ← c.take fresh
    let (cs, carried) := Text.Utf8.scan (carried ++ bs)
    if carriedLimit < carried.length then .error (.malformed start)
    else
      let (rest, c) ← chunks start fuel carried (unread + 1 - fresh) c
      .ok (cs ++ rest, c)
  | _, carried, _, c => if carried.isEmpty then .ok ([], c) else .error (.malformed start)

def textSegment (start length : Nat) (c : Cursor) : Except Fault (List Char × Cursor) :=
  chunks start length [] length c

/-- A text of known length whose head is at `start`. -/
def definiteText (start length : Nat) (c : Cursor) : Except Fault (List Char × Cursor) :=
  if length ≤ scratch then do
    let (bs, c) ← c.take length
    match Text.Utf8.decode? bs with
    | some cs => .ok (cs, c)
    | none => .error (.malformed start)
  else textSegment start length c

/-- The segments of an open string up to the `stop` of the outermost of `depth` open strings. A
segment's own length comes from `lengthOf`, which accepts the heads of one major type only. -/
def segments (lengthOf : Head → Option (Option Nat))
    (segment : Nat → Nat → Cursor → Except Fault (List α × Cursor)) :
    Nat → Nat → Cursor → Except Fault (List α × Cursor)
  | 0, _, _ => .error .endOfInput
  | fuel + 1, depth, c => do
    let (head, next) ← Head.read c
    match head, lengthOf head with
    | .stop, _ => match depth with
      | 0 => .ok ([], next)
      | depth + 1 => segments lengthOf segment fuel depth next
    | _, some none => segments lengthOf segment fuel (depth + 1) next
    | _, some (some length) =>
      let (content, next) ← segment c.offset length next
      let (rest, next) ← segments lengthOf segment fuel depth next
      .ok (content ++ rest, next)
    | _, none => .error (.malformed c.offset)

def openText (c : Cursor) : Except Fault (List Char × Cursor) :=
  segments (fun | .text length => some length | _ => none) textSegment c.rest.length 0 c

def openBytes (c : Cursor) : Except Fault (List UInt8 × Cursor) :=
  segments (fun | .bytes length => some length | _ => none) (fun _ length c => c.take length)
    c.rest.length 0 c

end CheckIn.Cbor

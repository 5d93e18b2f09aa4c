import CheckIn.Json.Cursor
import CheckIn.Net.Address
import CheckIn.Text.Utf8

/-! Strings of a JSON text, from behind the opening quote. Reading a string takes its escapes
apart; skipping one only checks the form of its escapes, so that it takes lone surrogates too. -/
namespace CheckIn.Json

/-- What the letter of a short escape stands for. -/
def shortEscape? : UInt8 → Option Char
  | 0x22 => some '"'
  | 0x5c => some '\\'
  | 0x2f => some '/'
  | 0x62 => some '\x08'
  | 0x66 => some '\x0c'
  | 0x6e => some '\n'
  | 0x72 => some '\r'
  | 0x74 => some '\t'
  | _ => none

def hexValue? (b : UInt8) : Option Nat := Net.hexDigit? (Char.ofNat b.toNat)

def hexEscape : Reader Nat := fun c =>
  match c.rest with
  | w :: x :: y :: z :: _ =>
    let after := c.advance 4
    match hexValue? w, hexValue? x, hexValue? y, hexValue? z with
    | some w, some x, some y, some z => .ok (((w * 16 + x) * 16 + y) * 16 + z, after)
    | _, _, _, _ => after.fail .invalidEscape
  | short => (c.advance short.length).fail .eofInString

/-- One byte that has to be there. -/
def escapePart (part : UInt8) : Reader Unit := fun c =>
  match c.peek? with
  | none => c.fail .eofInString
  | some b => if b = part then .ok ((), c.next) else c.next.fail .endOfHexEscape

def isLeading (n : Nat) : Bool := 0xd800 ≤ n && n ≤ 0xdbff
def isTrailing (n : Nat) : Bool := 0xdc00 ≤ n && n ≤ 0xdfff

/-- A character of the basic plane, or a pair of surrogates for one beyond it. -/
def unicodeEscape : Reader Char := fun c => do
  let (n, c) ← hexEscape c
  if isTrailing n then c.fail .loneSurrogate
  else if isLeading n then
    let ((), c) ← escapePart 0x5c c
    let ((), c) ← escapePart 0x75 c
    let (trail, c) ← hexEscape c
    if isTrailing trail then
      .ok (Char.ofNat ((n - 0xd800) * 0x400 + (trail - 0xdc00) + 0x10000), c)
    else c.fail .loneSurrogate
  else .ok (Char.ofNat n, c)

/-- What follows a backslash. -/
def escapeWith (unicode : Reader α) (short : Char → α) : Reader α := fun c =>
  match c.peek? with
  | none => c.fail .eofInString
  | some b => match shortEscape? b with
    | some char => .ok (short char, c.next)
    | none => if b = 0x75 then unicode c.next else c.next.fail .invalidEscape

/-- The bytes of a string. Each part takes at least one byte, so `fuel` bytes ahead suffice. -/
def stringFrom : Nat → Reader (List UInt8)
  | 0, c => c.fail .eofInString
  | fuel + 1, c => match c.peek? with
    | none => c.fail .eofInString
    | some b =>
      if b = 0x22 then .ok ([], c.next)
      else if b = 0x5c then do
        let (char, c) ← escapeWith unicodeEscape id c.next
        let (bs, c) ← stringFrom fuel c
        .ok (String.utf8EncodeChar char ++ bs, c)
      else if b < 0x20 then c.next.fail .controlCharacter
      else do
        let (bs, c) ← stringFrom fuel c.next
        .ok (b :: bs, c)

def string : Reader String := fun c => do
  let (bs, c) ← stringFrom (c.rest.length + 1) c
  .ok (String.ofList (Text.Utf8.lossy bs), c)

def skipEscape : Reader Unit :=
  escapeWith (fun c => (hexEscape c).map fun r => ((), r.2)) fun _ => ()

def skipStringFrom : Nat → Reader Unit
  | 0, c => c.fail .eofInString
  | fuel + 1, c => match c.peek? with
    | none => c.fail .eofInString
    | some b =>
      if b = 0x22 then .ok ((), c.next)
      else if b = 0x5c then do
        let ((), c) ← skipEscape c.next
        skipStringFrom fuel c
      else if b < 0x20 then c.fail .controlCharacter
      else skipStringFrom fuel c.next

def skipString : Reader Unit := fun c => skipStringFrom (c.rest.length + 1) c

end CheckIn.Json

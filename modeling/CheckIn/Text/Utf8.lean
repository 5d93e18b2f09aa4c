/-! UTF-8 as one byte machine. `step` is the table of well-formed sequences; the strict reader,
the reader of the longest well-formed beginning and the lossy reader are three walks over it, so
they agree on what a character is and differ only in what they do with a refused byte. -/
namespace CheckIn.Text.Utf8

/-- Where a walk stands: between characters, or inside one with `due` more bytes after the next,
which has to lie in `[low, high]`. -/
inductive Progress where
  | boundary
  | within (scalar due : Nat) (low high : UInt8)
  deriving DecidableEq, Repr

inductive Verdict where
  | more (progress : Progress)
  | char (c : Char)
  | refused
  deriving DecidableEq, Repr

/-- The first byte of a character. The ranges of the second byte keep out overlong forms,
surrogates and values beyond the last plane. -/
def lead (b : UInt8) : Verdict :=
  if b < 0x80 then .char (Char.ofNat b.toNat)
  else if b < 0xc2 then .refused
  else if b < 0xe0 then .more (.within (b.toNat - 0xc0) 0 0x80 0xbf)
  else if b = 0xe0 then .more (.within 0 1 0xa0 0xbf)
  else if b = 0xed then .more (.within 0xd 1 0x80 0x9f)
  else if b < 0xf0 then .more (.within (b.toNat - 0xe0) 1 0x80 0xbf)
  else if b = 0xf0 then .more (.within 0 2 0x90 0xbf)
  else if b < 0xf4 then .more (.within (b.toNat - 0xf0) 2 0x80 0xbf)
  else if b = 0xf4 then .more (.within 4 2 0x80 0x8f)
  else .refused

def step : Progress → UInt8 → Verdict
  | .boundary, b => lead b
  | .within scalar due low high, b =>
    if low ≤ b ∧ b ≤ high then
      let scalar := scalar * 64 + (b.toNat - 0x80)
      match due with
      | 0 => .char (Char.ofNat scalar)
      | due + 1 => .more (.within scalar due 0x80 0xbf)
    else .refused

/-- The characters of the longest well-formed beginning, and the bytes after it. `held` are the
bytes of the character under way, last first. -/
def scanFrom (p : Progress) (held : List UInt8) : List UInt8 → List Char × List UInt8
  | [] => ([], held.reverse)
  | b :: bs => match step p b with
    | .more p => scanFrom p (b :: held) bs
    | .char c => let r := scanFrom .boundary [] bs; (c :: r.1, r.2)
    | .refused => ([], held.reverse ++ b :: bs)

def scan (bs : List UInt8) : List Char × List UInt8 := scanFrom .boundary [] bs

def decode? (bs : List UInt8) : Option (List Char) :=
  match scan bs with
  | (cs, []) => some cs
  | _ => none

def replacement : Char := '\uFFFD'

/-- Each longest beginning of a character that a byte refuses to continue, and each byte that
begins none, is read as one replacement character. -/
def lossyFrom : Progress → List UInt8 → List Char
  | .boundary, [] => []
  | .within .., [] => [replacement]
  | p, b :: bs => match step p b with
    | .more p => lossyFrom p bs
    | .char c => c :: lossyFrom .boundary bs
    | .refused => match p with
      | .boundary => replacement :: lossyFrom .boundary bs
      | .within .. => replacement :: match lead b with
        | .more p => lossyFrom p bs
        | .char c => c :: lossyFrom .boundary bs
        | .refused => replacement :: lossyFrom .boundary bs

def lossy (bs : List UInt8) : List Char := lossyFrom .boundary bs

def encode (cs : List Char) : List UInt8 := cs.flatMap String.utf8EncodeChar

def ofString (s : String) : List UInt8 := encode s.toList

end CheckIn.Text.Utf8

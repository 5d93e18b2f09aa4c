import CheckIn.Text.Fields
import CheckIn.Text.Numeral

/-! IP addresses and their literals. An IPv4 literal is four octets without leading zeros; an IPv6
literal is eight groups of up to four hexadecimal digits, of which `::` may stand for one or more
zero groups and a final dotted quad for two. Neither has a zone. -/
namespace CheckIn.Net

structure Ipv4 where
  a : UInt8
  b : UInt8
  c : UInt8
  d : UInt8
  deriving DecidableEq, Repr

structure Ipv6 where
  groups : List UInt16
  length_eq : groups.length = 8
  deriving DecidableEq, Repr

inductive Address where
  | v4 (address : Ipv4)
  | v6 (address : Ipv6)
  deriving DecidableEq, Repr

structure SocketAddress where
  address : Address
  port : UInt16
  deriving DecidableEq, Repr

def hexDigit? (c : Char) : Option Nat :=
  if '0' ≤ c ∧ c ≤ '9' then some (c.toNat - '0'.toNat)
  else if 'a' ≤ c ∧ c ≤ 'f' then some (c.toNat - 'a'.toNat + 10)
  else if 'A' ≤ c ∧ c ≤ 'F' then some (c.toNat - 'A'.toNat + 10)
  else none

/-- The number that some digits denote; no digits denote none. -/
def digits? (base : Nat) (digit? : Char → Option Nat) (cs : List Char) : Option Nat :=
  if cs.isEmpty then none
  else cs.foldlM (fun n c => (digit? c).map (n * base + ·)) 0

/-- One to three decimal digits up to 255, the first not a zero unless alone. -/
def octet? (cs : List Char) : Option UInt8 :=
  if 3 < cs.length ∨ (cs.head? = some '0' ∧ 1 < cs.length) then none
  else match digits? 10 Text.Numeral.digit? cs with
    | some n => if n ≤ 255 then some (UInt8.ofNat n) else none
    | none => none

def Ipv4.parse? (cs : List Char) : Option Ipv4 :=
  match (Text.fields '.' cs).map octet? with
  | [some a, some b, some c, some d] => some ⟨a, b, c, d⟩
  | _ => none

def group? (cs : List Char) : Option UInt16 :=
  if 4 < cs.length then none else (digits? 16 hexDigit? cs).map UInt16.ofNat

def Ipv4.groups (q : Ipv4) : List UInt16 :=
  [q.a.toUInt16 * 256 + q.b.toUInt16, q.c.toUInt16 * 256 + q.d.toUInt16]

/-- The groups of fields between colons; the last field may be a dotted quad if `quad`. -/
def groupsOf? (quad : Bool) : List (List Char) → Option (List UInt16)
  | [] => some []
  | [f] => match group? f with
    | some g => some [g]
    | none => if quad then (Ipv4.parse? f).map Ipv4.groups else none
  | f :: fs => do
    let g ← group? f
    let gs ← groupsOf? quad fs
    some (g :: gs)

/-- The groups on one side of `::`, possibly none. -/
def side? (quad : Bool) (cs : List Char) : Option (List UInt16) :=
  if cs.isEmpty then some [] else groupsOf? quad (Text.fields ':' cs)

def Ipv6.ofGroups? (gs : List UInt16) : Option Ipv6 :=
  if h : gs.length = 8 then some ⟨gs, h⟩ else none

def Ipv6.parse? (cs : List Char) : Option Ipv6 :=
  match Text.cutPair? ':' cs with
  | none => (groupsOf? true (Text.fields ':' cs)).bind Ipv6.ofGroups?
  | some (front, back) => do
    let front ← side? false front
    let back ← side? true back
    if front.length + back.length ≤ 7 then
      Ipv6.ofGroups? (front ++ List.replicate (8 - front.length - back.length) 0 ++ back)
    else none

def Address.parse? (cs : List Char) : Option Address :=
  match Ipv4.parse? cs with
  | some a => some (.v4 a)
  | none => (Ipv6.parse? cs).map .v6

def Ipv4.display (q : Ipv4) : String :=
  ".".intercalate ([q.a, q.b, q.c, q.d].map fun o => toString o.toNat)

/-- Start and length of the first longest run of zero groups, from group `i` on. -/
def longestRun : Nat → List UInt16 → Nat × Nat
  | _, [] => (0, 0)
  | i, g :: gs =>
    let later := longestRun (i + 1) gs
    let here := ((g :: gs).takeWhile (· == 0)).length
    if here = 0 ∨ here < later.2 then later else (i, here)

def displayGroups (gs : List UInt16) : String :=
  ":".intercalate (gs.map fun g => String.ofList (Text.Numeral.hex g.toNat))

/-- The first longest run of two or more zero groups is written `::`; an address that holds an
IPv4 address ends in its dotted quad. -/
def Ipv6.display (a : Ipv6) : String :=
  match a.groups with
  | [0, 0, 0, 0, 0, 0xffff, g, h] =>
    "::ffff:" ++ (Ipv4.mk (g / 256).toUInt8 g.toUInt8 (h / 256).toUInt8 h.toUInt8).display
  | gs =>
    let (start, length) := longestRun 0 gs
    if 1 < length then
      displayGroups (gs.take start) ++ "::" ++ displayGroups (gs.drop (start + length))
    else displayGroups gs

def Address.display : Address → String
  | .v4 a => a.display
  | .v6 a => a.display

def SocketAddress.display (s : SocketAddress) : String :=
  match s.address with
  | .v4 a => a.display ++ ":" ++ toString s.port.toNat
  | .v6 a => "[" ++ a.display ++ "]:" ++ toString s.port.toNat

end CheckIn.Net

import CheckIn.Net.Address

/-! Hosts that name resolution takes as numbers although they are no literals: up to four parts,
each decimal, octal or hexadecimal, of which the last fills the bytes that are left. -/
namespace CheckIn.Net

def octalDigit? (c : Char) : Option Nat :=
  if '0' ≤ c ∧ c ≤ '7' then some (c.toNat - '0'.toNat) else none

/-- A number whose base its beginning tells: `0x`, `0` or neither. -/
def part? : List Char → Option Nat
  | '0' :: 'x' :: cs | '0' :: 'X' :: cs => digits? 16 hexDigit? cs
  | '0' :: c :: cs => digits? 8 octalDigit? (c :: cs)
  | cs => digits? 10 Text.Numeral.digit? cs

/-- All parts but the last are bytes; the last is below `bound`. -/
def fill? (acc bound : Nat) : List Nat → Option Nat
  | [] => none
  | [n] => if n < bound then some (acc * bound + n) else none
  | n :: ns => if n < 256 then fill? (acc * 256 + n) (bound / 256) ns else none

def ofWord (n : Nat) : Ipv4 :=
  ⟨UInt8.ofNat (n / 0x1000000), UInt8.ofNat (n / 0x10000), UInt8.ofNat (n / 0x100), UInt8.ofNat n⟩

/-- The address that a host of up to four numbers stands for. -/
def Ipv4.ofNumbers? (host : List Char) : Option Ipv4 := do
  let parts ← (Text.fields '.' host).mapM part?
  if 4 < parts.length then none
  else (fill? 0 0x100000000 parts).map ofWord

/-- The address that a host stands for without asking anyone. -/
def numeric? (host : List Char) : Option Address :=
  match Address.parse? host with
  | some a => some a
  | none => (Ipv4.ofNumbers? host).map .v4

end CheckIn.Net

/-! Decimal numerals of bounded integers. A numeral is an optional sign and at least one ASCII
digit; a reader says which of four things is wrong with a text that is none, and a value out of
range is noticed at the digit that leaves the range, before any later character is looked at. -/
namespace CheckIn.Text.Numeral

inductive Fault where
  | empty
  | invalidDigit
  | tooLarge
  | tooSmall
  deriving DecidableEq, Repr

def Fault.message : Fault → String
  | .empty => "cannot parse integer from empty string"
  | .invalidDigit => "invalid digit found in string"
  | .tooLarge => "number too large to fit in target type"
  | .tooSmall => "number too small to fit in target type"

def digit? (c : Char) : Option Nat :=
  if '0' ≤ c ∧ c ≤ '9' then some (c.toNat - '0'.toNat) else none

/-- The magnitude `acc` continued by the digits of a text, at most `limit`. -/
def magnitude (limit : Nat) (beyond : Fault) (acc : Nat) : List Char → Except Fault Nat
  | [] => .ok acc
  | c :: cs => match digit? c with
    | none => .error .invalidDigit
    | some d =>
      if limit < acc * 10 + d then .error beyond
      else magnitude limit beyond (acc * 10 + d) cs

/-- Reads an integer in `[-low, high]`; a minus sign is read only where `low` is not zero. -/
def read (low high : Nat) : List Char → Except Fault Int
  | [] => .error .empty
  | ['+'] | ['-'] => .error .invalidDigit
  | '+' :: cs => (magnitude high .tooLarge 0 cs).map Int.ofNat
  | '-' :: cs =>
    if low = 0 then .error .invalidDigit
    else (magnitude low .tooSmall 0 cs).map fun n => -Int.ofNat n
  | cs => (magnitude high .tooLarge 0 cs).map Int.ofNat

/-- Bounds of 64-bit integers: `2^63` and `2^64 - 1`. -/
def int64Size : Nat := 0x8000000000000000
def uint64Max : Nat := 0xffffffffffffffff

def readInt64 (s : String) : Except Fault Int64 :=
  (read int64Size (int64Size - 1) s.toList).map Int64.ofInt

def readUInt64 (s : String) : Except Fault UInt64 :=
  (read 0 uint64Max s.toList).map fun n => UInt64.ofNat n.toNat

def hex (n : Nat) : List Char := Nat.toDigits 16 n

def twoDigits (n : Nat) : String := if n < 10 then "0" ++ toString n else toString n

end CheckIn.Text.Numeral

import CheckIn.Decimal.Layout
import CheckIn.Json.Cursor

/-! Numbers of a JSON text, from their first digit on. A whole number within 64 bits keeps its
value; every other number, and negative zero, is the binary64 word that a significand of at most
64 bits and a power of ten give, each step rounded. -/
namespace CheckIn.Json

inductive Number where
  | unsigned (n : Nat)
  | negative (n : Int)
  | float (word : Nat)
  deriving DecidableEq, Repr

def Number.found : Number → Found
  | unsigned n => .integer n
  | negative n => .integer n
  | float word => .float (Decimal.binary64.layout .json word)

/-- The digits of a significand end before it would leave this range. -/
def significandLimit : Nat := 0xffffffffffffffff

/-- The largest exponent that one power of ten covers. -/
def powerLimit : Nat := 308

def power (n : Nat) : Nat := Decimal.binary64.nearest (Nat.pow 10 n) 1

/-- The word of `significand · 10^exponent`, or nothing beyond the largest finite word. A word
divided by the largest power three times is zero. -/
def scaledWord : Nat → Nat → Int → Option Nat
  | _, 0, _ => some 0
  | rounds, word, exponent =>
    if exponent.natAbs ≤ powerLimit then
      if 0 ≤ exponent then
        let product := Decimal.binary64.product word (power exponent.natAbs)
        if product = Decimal.binary64.infinity false then none else some product
      else some (Decimal.binary64.quotient word (power exponent.natAbs))
    else if 0 ≤ exponent then none
    else match rounds with
      | 0 => some 0
      | rounds + 1 =>
        scaledWord rounds (Decimal.binary64.quotient word (power powerLimit))
          (exponent + powerLimit)

def floatOf (negative : Bool) (significand : Nat) (exponent : Int) : Reader Number := fun c =>
  match scaledWord 3 (Decimal.binary64.nearest significand 1) exponent with
  | some word => .ok (.float (Decimal.binary64.signBit negative + word), c)
  | none => c.fail .numberOutOfRange

def isExponentMark (b : UInt8) : Bool := b == 0x65 || b == 0x45

/-- Exponents are counted up to here. -/
def exponentLimit : Nat := 0x7fffffff

/-- The digits of an exponent after the first; nothing beyond the limit. -/
def exponentDigits : List UInt8 → Nat → Cursor → Option Nat × Cursor
  | [], n, c => (some n, c)
  | b :: bs, n, c =>
    if isDigit b then
      if exponentLimit < n * 10 + digitValue b then (none, c.next)
      else exponentDigits bs (n * 10 + digitValue b) c.next
    else (some n, c)

def exponentPart (negative : Bool) (significand : Nat) (start : Int) : Reader Number := fun c =>
  let c := c.next
  let minus := c.seesByte 0x2d
  let c := if minus || c.seesByte 0x2b then c.next else c
  match c.peek? with
  | none => c.fail .eofInValue
  | some b =>
    if isDigit b then
      match exponentDigits c.next.rest (digitValue b) c.next with
      | (some e, c) => floatOf negative significand (if minus then start - e else start + e) c
      | (none, c) =>
        if significand ≠ 0 ∧ minus = false then c.fail .numberOutOfRange
        else .ok (.float (Decimal.binary64.signBit negative), c.skipDigits)
    else c.next.fail .invalidNumber

def exponentOrEnd (negative : Bool) (significand : Nat) (exponent : Int) : Reader Number := fun c =>
  if c.sees isExponentMark then exponentPart negative significand exponent c
  else floatOf negative significand exponent c

/-- The digits of a fraction that the significand has room for: the significand, how many digits
there were, and whether one did not fit. -/
def fractionDigits : List UInt8 → Nat → Nat → Cursor → Nat × Nat × Bool × Cursor
  | [], significand, count, c => (significand, count, false, c)
  | b :: bs, significand, count, c =>
    if isDigit b then
      if significandLimit < significand * 10 + digitValue b then (significand, count, true, c)
      else fractionDigits bs (significand * 10 + digitValue b) (count + 1) c.next
    else (significand, count, false, c)

/-- A fraction, from its point on. Digits without room are dropped. -/
def fractionPart (negative : Bool) (significand : Nat) (start : Int) : Reader Number := fun c =>
  match fractionDigits c.next.rest significand 0 c.next with
  | (significand, count, true, c) =>
    exponentOrEnd negative significand (start - count) c.skipDigits
  | (significand, count, false, c) =>
    if count = 0 then
      if c.rest.isEmpty then c.fail .eofInValue else c.failAhead .invalidNumber
    else exponentOrEnd negative significand (start - count) c

def afterInteger (negative : Bool) (significand : Nat) (exponent : Int) : Reader Number := fun c =>
  if c.seesByte 0x2e then fractionPart negative significand exponent c
  else exponentOrEnd negative significand exponent c

def whole (negative : Bool) (significand : Nat) : Number :=
  if negative then
    if significand = 0 ∨ 0x8000000000000000 < significand then
      .float (Decimal.binary64.signBit true + Decimal.binary64.nearest significand 1)
    else .negative (-significand)
  else .unsigned significand

/-- The digits of a whole part that the significand has room for, and how many more there are. -/
def wholeDigits : List UInt8 → Nat → Cursor → Nat × Nat × Cursor
  | [], significand, c => (significand, 0, c)
  | b :: bs, significand, c =>
    if isDigit b then
      if significandLimit < significand * 10 + digitValue b then
        let after := c.skipDigits
        (significand, c.rest.length - after.rest.length, after)
      else wholeDigits bs (significand * 10 + digitValue b) c.next
    else (significand, 0, c)

def isFloatMark (b : UInt8) : Bool := b == 0x2e || isExponentMark b

def number (negative : Bool) : Reader Number := fun c =>
  match c.peek? with
  | none => c.fail .eofInValue
  | some b =>
    if b = 0x30 ∧ c.next.sees isDigit then c.next.failAhead .invalidNumber
    else if isDigit b then
      match wholeDigits c.rest 0 c with
      | (significand, 0, c) =>
        if c.sees isFloatMark then afterInteger negative significand 0 c
        else .ok (whole negative significand, c)
      | (significand, surplus, c) => afterInteger negative significand surplus c
    else c.next.fail .invalidNumber

def skipExponent : Reader Unit := fun c =>
  let c := c.next
  let c := if c.sees (fun b => b == 0x2b || b == 0x2d) then c.next else c
  if c.sees isDigit then .ok ((), c.next.skipDigits) else c.next.fail .invalidNumber

def skipExponentOrEnd : Reader Unit := fun c =>
  if c.sees isExponentMark then skipExponent c else .ok ((), c)

/-- Passes over a number behind its sign; its size does not matter. -/
def skipNumber : Reader Unit := fun c =>
  if c.seesByte 0x30 && c.next.sees isDigit then c.next.failAhead .invalidNumber
  else if c.sees isDigit then
    let c := c.skipDigits
    if c.seesByte 0x2e then
      if c.next.sees isDigit then skipExponentOrEnd c.next.skipDigits
      else c.next.failAhead .invalidNumber
    else skipExponentOrEnd c
  else c.next.fail .invalidNumber

end CheckIn.Json

import CheckIn.Decimal.Binary

/-! The shortest decimal that reads back. Of the reals that round to a word, the ones on the
coarsest decimal grid that meets them are candidates and the nearest to the word is taken. -/
namespace CheckIn.Decimal

/-- `digits · 10^exponent`, where `digits` does not end in zero unless it is zero. -/
structure Digits where
  digits : Nat
  exponent : Int
  deriving DecidableEq, Repr

def decimalLength (n : Nat) : Nat := (Nat.toDigits 10 n).length

/-- The place of the leading digit of `num / den`: the `e` with `10^e ≤ num / den < 10^(e+1)`. -/
def leadingPlace (num den : Nat) : Int :=
  if den ≤ num then (decimalLength (num / den) : Int) - 1
  else -(decimalLength ((den + num - 1) / num - 1) : Int)

/-- The reals that round to a word, as numerators over a common denominator; the ends belong to
them iff the significand is even. -/
structure Interval where
  low : Nat
  value : Nat
  high : Nat
  denominator : Nat
  closed : Bool
  deriving Repr

/-- Half a unit to either side, a quarter below the beginning of a binade. -/
def interval (significand : Nat) (scale : Int) (low : Bool) : Interval :=
  let unit := Nat.pow 2 scale.toNat
  ⟨(4 * significand - if low then 1 else 2) * unit, 4 * significand * unit,
    (4 * significand + 2) * unit, 4 * Nat.pow 2 (-scale).toNat, significand % 2 == 0⟩

/-- Which of two candidates is taken that are equally near. -/
inductive Tie where
  | upper | even
  deriving DecidableEq, Repr

/-- Whether the lower of two neighbours is taken, whose distances are given. -/
def Tie.takesLower (tie : Tie) (lower toLower toUpper : Nat) : Bool :=
  toLower < toUpper || (toLower == toUpper && tie == even && lower % 2 == 0)

/-- The candidate on the grid of `10^place`, if the interval holds one of the two grid points
around its value. -/
def Interval.onGrid (i : Interval) (tie : Tie) (place : Int) : Option Nat :=
  let up := Nat.pow 10 (-place).toNat
  let down := i.denominator * Nat.pow 10 place.toNat
  let below := i.value * up / down
  let above := below + 1
  let holdsBelow := i.low * up < below * down || (i.closed && i.low * up == below * down)
  let holdsAbove := above * down < i.high * up || (i.closed && above * down == i.high * up)
  match holdsBelow, holdsAbove with
  | true, true =>
    let lower := tie.takesLower below (i.value * up - below * down) (above * down - i.value * up)
    some (if lower then below else above)
  | true, false => some below
  | false, true => some above
  | false, false => none

def stripZeros : Nat → Nat → Int → Digits
  | 0, n, e => ⟨n, e⟩
  | fuel + 1, n, e => if n ≠ 0 ∧ n % 10 = 0 then stripZeros fuel (n / 10) (e + 1) else ⟨n, e⟩

/-- Grids from the leading place downwards. -/
def Interval.search (i : Interval) (tie : Tie) : Nat → Int → Digits
  | 0, _ => ⟨0, 0⟩
  | fuel + 1, place => match i.onGrid tie place with
    | some n => stripZeros (decimalLength n) n place
    | none => i.search tie fuel (place - 1)

/-- Seventeen significant digits tell all words of 64 bits apart. -/
def shortest (tie : Tie) (significand : Nat) (scale : Int) (low : Bool) : Digits :=
  if significand = 0 then ⟨0, 0⟩
  else
    let i := interval significand scale low
    i.search tie 18 (leadingPlace i.value i.denominator)

end CheckIn.Decimal

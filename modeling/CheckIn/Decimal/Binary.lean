/-! Binary interchange formats: a sign, a biased exponent and a fraction packed in one word. A
finite word is `±significand · 2^scale` exactly; `Format.nearest` is the inverse up to rounding,
on exact ratios, a tie going to the even significand. Words are plain numbers, so that everything
here computes without hardware floating point. -/
namespace CheckIn.Decimal

structure Format where
  fractionBits : Nat
  exponentBits : Nat
  deriving DecidableEq, Repr

def binary16 : Format := ⟨10, 5⟩
def binary32 : Format := ⟨23, 8⟩
def binary64 : Format := ⟨52, 11⟩

namespace Format

def topExponent (f : Format) : Nat := Nat.pow 2 f.exponentBits - 1
def bias (f : Format) : Nat := Nat.pow 2 (f.exponentBits - 1) - 1
def hidden (f : Format) : Nat := Nat.pow 2 f.fractionBits

/-- The scale of subnormal words and of the first normal binade. -/
def leastScale (f : Format) : Int := 1 - (f.bias : Int) - f.fractionBits

end Format

/-- What a word denotes. `low` says that the next smaller magnitude is half a unit nearer, because
the word begins a binade. -/
inductive Denoted where
  | finite (negative : Bool) (significand : Nat) (scale : Int) (low : Bool)
  | infinite (negative : Bool)
  | nan
  deriving DecidableEq, Repr

def Format.denoted (f : Format) (word : Nat) : Denoted :=
  let fraction := word % f.hidden
  let exponent := word / f.hidden % Nat.pow 2 f.exponentBits
  let negative := word / f.hidden / Nat.pow 2 f.exponentBits % 2 == 1
  if exponent = f.topExponent then
    if fraction = 0 then .infinite negative else .nan
  else if exponent = 0 then .finite negative fraction f.leastScale false
  else .finite negative (fraction + f.hidden) (f.leastScale + exponent - 1)
    (fraction == 0 && exponent != 1)

def Format.signBit (f : Format) (negative : Bool) : Nat :=
  if negative then f.hidden * Nat.pow 2 f.exponentBits else 0

def Format.infinity (f : Format) (negative : Bool) : Nat :=
  f.signBit negative + f.topExponent * f.hidden

def Format.quietNan (f : Format) : Nat := f.topExponent * f.hidden + f.hidden / 2

/-- The quotient to the nearest whole number, a tie to the even one. -/
def roundDiv (num den : Nat) : Nat :=
  let q := num / den
  let r := num % den
  if den < 2 * r then q + 1
  else if 2 * r = den then q + q % 2
  else q

/-- `num / den · 2^-scale` as a quotient of whole numbers. -/
def scaled (num den : Nat) (scale : Int) : Nat × Nat :=
  (num * Nat.pow 2 (-scale).toNat, den * Nat.pow 2 scale.toNat)

/-- The word nearest to `num / den`, without sign; beyond the largest finite word, infinity. The
scale is the least at which the quotient fits the significand, or that of the subnormals. -/
def Format.nearest (f : Format) (num den : Nat) : Nat :=
  if num = 0 then 0
  else
    let guess : Int := (num.log2 : Int) - den.log2 - f.fractionBits
    let atLeast (scale : Int) := if scale < f.leastScale then f.leastScale else scale
    let fits (scale : Int) :=
      let (n, d) := scaled num den scale
      n < 2 * f.hidden * d
    let scale := atLeast (if fits (guess - 1) then guess - 1 else guess)
    let (n, d) := scaled num den scale
    let significand := roundDiv n d
    let word := significand + (scale - f.leastScale).toNat * f.hidden
    if f.topExponent * f.hidden ≤ word then f.infinity false else word

/-- The word of a wider format with the same denotation. -/
def Format.widen (narrow wide : Format) (word : Nat) : Nat :=
  match narrow.denoted word with
  | .nan => wide.quietNan
  | .infinite negative => wide.infinity negative
  | .finite negative significand scale _ =>
    wide.signBit negative +
      wide.nearest (significand * Nat.pow 2 scale.toNat) (Nat.pow 2 (-scale).toNat)

/-- A finite word without its sign, as a quotient of whole numbers. -/
def Format.ratio (f : Format) (word : Nat) : Nat × Nat :=
  match f.denoted word with
  | .finite _ significand scale _ => (significand * Nat.pow 2 scale.toNat, Nat.pow 2 (-scale).toNat)
  | _ => (0, 1)

/-- The rounded product of two finite words, without sign. -/
def Format.product (f : Format) (a b : Nat) : Nat :=
  let (an, ad) := f.ratio a
  let (bn, bd) := f.ratio b
  f.nearest (an * bn) (ad * bd)

/-- The rounded quotient of two finite words, without sign. -/
def Format.quotient (f : Format) (a b : Nat) : Nat :=
  let (an, ad) := f.ratio a
  let (bn, bd) := f.ratio b
  f.nearest (an * bd) (ad * bn)

/-- The rounded sum of two finite words, without sign. -/
def Format.sum (f : Format) (a b : Nat) : Nat :=
  let (an, ad) := f.ratio a
  let (bn, bd) := f.ratio b
  f.nearest (an * bd + bn * ad) (ad * bd)

end CheckIn.Decimal

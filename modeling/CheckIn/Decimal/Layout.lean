import CheckIn.Decimal.Shortest

/-! How the digits of a decimal are laid out. A `Style` holds every decision of the layout; the
three styles of this program differ in where positional notation ends, in two marks and in which
way a tie goes. -/
namespace CheckIn.Decimal

structure Style where
  /-- The places of the leading digit that are written positionally. -/
  positional : Int → Bool
  /-- Whole numbers in positional notation end in `.0`. -/
  wholeMark : Bool
  /-- Put between `e` and an exponent that is not negative. -/
  plus : String
  tie : Tie

/-- Positional at any size, whole numbers bare. -/
def Style.plain : Style := ⟨fun _ => true, false, "", .upper⟩

/-- Positional from `0.0001` up to below `10^16`. -/
def Style.tagged : Style := ⟨fun place => -4 ≤ place && place < 16, true, "", .upper⟩

/-- Positional from `0.00001` up to below `10^16`, with a sign before every exponent. -/
def Style.json : Style := ⟨fun place => -5 ≤ place && place < 16, true, "+", .even⟩

def zeros (n : Nat) : String := String.ofList (List.replicate n '0')

def positional (wholeMark : Bool) (digits : String) (exponent : Int) : String :=
  if 0 ≤ exponent then digits ++ zeros exponent.toNat ++ (if wholeMark then ".0" else "")
  else
    let places := (-exponent).toNat
    let cs := digits.toList
    if places < cs.length then
      String.ofList (cs.take (cs.length - places)) ++ "." ++
        String.ofList (cs.drop (cs.length - places))
    else "0." ++ zeros (places - cs.length) ++ digits

def scientific (style : Style) (digits : String) (place : Int) : String :=
  let fraction := match digits.toList with
    | c :: d :: ds => String.ofList (c :: '.' :: d :: ds)
    | cs => String.ofList cs
  fraction ++ "e" ++ (if place < 0 then "" else style.plus) ++ toString place

def Digits.layout (style : Style) (d : Digits) : String :=
  let digits := toString d.digits
  let place := d.exponent + digits.length - 1
  if d.digits = 0 ∨ style.positional place then positional style.wholeMark digits d.exponent
  else scientific style digits place

/-- The text of a word. A NaN has no sign, a zero keeps its own. -/
def Format.layout (f : Format) (style : Style) (word : Nat) : String :=
  match f.denoted word with
  | .nan => "NaN"
  | .infinite negative => if negative then "-inf" else "inf"
  | .finite negative significand scale low =>
    (if negative then "-" else "") ++ (shortest style.tie significand scale low).layout style

end CheckIn.Decimal

/-! CBOR data items as values. Integers cover both unsigned and negative items, floats are kept as
binary64 words, and a map is the list of its entries in wire order, repeated keys included. -/
namespace CheckIn.Cbor

inductive Value where
  | integer (n : Int)
  | bytes (data : List UInt8)
  | text (s : String)
  | float (word : UInt64)
  | bool (b : Bool)
  | null
  | tag (number : Nat) (content : Value)
  | array (items : List Value)
  | map (entries : List (Value × Value))
  deriving Repr, Inhabited

abbrev Entry := Value × Value

namespace Value

def kind : Value → String
  | .integer _ => "integer"
  | .bytes _ => "byte string"
  | .text _ => "text"
  | .float _ => "float"
  | .bool _ => "bool"
  | .null => "null"
  | .tag .. => "tagged value"
  | .array _ => "array"
  | .map _ => "map"

end Value

/-- Numeric equality of binary64 words: a NaN equals nothing and the two zeros are equal. -/
def sameFloat (a b : UInt64) : Bool :=
  let magnitude (w : UInt64) := w &&& 0x7fffffffffffffff
  let isNan (w : UInt64) := decide (0x7ff0000000000000 < magnitude w)
  !isNan a && !isNan b && (a == b || (magnitude a == 0 && magnitude b == 0))

mutual

/-- Equality with floats compared as numbers. -/
def Value.same : Value → Value → Bool
  | .integer a, .integer b => a == b
  | .bytes a, .bytes b => a == b
  | .text a, .text b => a == b
  | .float a, .float b => sameFloat a b
  | .bool a, .bool b => a == b
  | .null, .null => true
  | .tag m a, .tag n b => m == n && a.same b
  | .array as, .array bs => sameItems as bs
  | .map as, .map bs => sameEntries as bs
  | _, _ => false

def sameItems : List Value → List Value → Bool
  | [], [] => true
  | a :: as, b :: bs => a.same b && sameItems as bs
  | _, _ => false

def sameEntries : List (Value × Value) → List (Value × Value) → Bool
  | [], [] => true
  | (k, a) :: as, (l, b) :: bs => k.same l && a.same b && sameEntries as bs
  | _, _ => false

end

end CheckIn.Cbor

import CheckIn.Cbor.Value
import CheckIn.Decimal.Layout
import CheckIn.Text.Quoted

/-! Labelled text of values: every value is written with the name of its kind around it, so that
texts, numbers and structure cannot be taken for one another. -/
namespace CheckIn.Cbor

def commaList (items : List String) : String := String.intercalate ", " items

def floatText (style : Decimal.Style) (word : UInt64) : String :=
  Decimal.binary64.layout style word.toNat

mutual

def Value.labelled : Value → String
  | .integer n => "Integer(Integer(" ++ toString n ++ "))"
  | .bytes bs => "Bytes([" ++ commaList (bs.map fun b => toString b.toNat) ++ "])"
  | .text s => "Text(" ++ Text.quoted s ++ ")"
  | .float word => "Float(" ++ floatText .tagged word ++ ")"
  | .bool b => "Bool(" ++ (if b then "true" else "false") ++ ")"
  | .null => "Null"
  | .tag number content => "Tag(" ++ toString number ++ ", " ++ content.labelled ++ ")"
  | .array items => "Array([" ++ commaList (labelledItems items) ++ "])"
  | .map entries => "Map([" ++ commaList (labelledEntries entries) ++ "])"

def labelledItems : List Value → List String
  | [] => []
  | v :: vs => v.labelled :: labelledItems vs

def labelledEntries : List (Value × Value) → List String
  | [] => []
  | (k, v) :: es => ("(" ++ k.labelled ++ ", " ++ v.labelled ++ ")") :: labelledEntries es

end

end CheckIn.Cbor

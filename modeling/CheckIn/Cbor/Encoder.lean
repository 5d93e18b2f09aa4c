import CheckIn.Cbor.Head
import CheckIn.Cbor.Value
import CheckIn.Text.Utf8

/-! Writing CBOR values with known lengths and shortest heads. -/
namespace CheckIn.Cbor

def encodeText (s : String) : List UInt8 :=
  let bs := Text.Utf8.ofString s
  Head.write 3 bs.length ++ bs

def encodeInteger : Int → List UInt8
  | .ofNat n => Head.write 0 n
  | .negSucc n => Head.write 1 n

mutual

def Value.encode : Value → List UInt8
  | .integer n => encodeInteger n
  | .bytes bs => Head.write 2 bs.length ++ bs
  | .text s => encodeText s
  | .float word => 0xfb :: bigEndianBytes 8 word.toNat
  | .bool b => Head.write 7 (if b then 21 else 20)
  | .null => Head.write 7 22
  | .tag number content => Head.write 6 number ++ content.encode
  | .array items => Head.write 4 items.length ++ encodeItems items
  | .map entries => Head.write 5 entries.length ++ encodeEntries entries

def encodeItems : List Value → List UInt8
  | [] => []
  | v :: vs => v.encode ++ encodeItems vs

def encodeEntries : List (Value × Value) → List UInt8
  | [] => []
  | (k, v) :: es => k.encode ++ v.encode ++ encodeEntries es

end

end CheckIn.Cbor

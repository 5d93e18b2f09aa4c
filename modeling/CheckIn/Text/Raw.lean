import CheckIn.Text.Quoted
import CheckIn.Text.Utf8

/-! Texts as the system hands them over, which may turn out to be none. -/
namespace CheckIn.Text

/-- A text, or bytes that are not the bytes of one. -/
inductive Raw where
  | text (s : String)
  | bytes (bs : List UInt8) (noText : Utf8.decode? bs = none)
  deriving DecidableEq

/-- A byte that is no part of a character, by its number. -/
def Quoted.escapeByte (b : UInt8) : List Char :=
  ['\\', 'x', (Nat.digitChar (b.toNat / 16)).toUpper, (Nat.digitChar (b.toNat % 16)).toUpper]

/-- Bytes as they stand in quotes. `held` are the bytes of the character under way, last first. -/
def Quoted.bytesFrom (p : Utf8.Progress) (held : List UInt8) : List UInt8 → List Char
  | [] => held.reverse.flatMap escapeByte
  | b :: bs => match Utf8.step p b with
    | .more p => bytesFrom p (b :: held) bs
    | .char c => escape c ++ bytesFrom .boundary [] bs
    | .refused => held.reverse.flatMap escapeByte ++ match Utf8.lead b with
      | .more p => bytesFrom p [b] bs
      | .char c => escape c ++ bytesFrom .boundary [] bs
      | .refused => escapeByte b ++ bytesFrom .boundary [] bs

namespace Raw

instance : Repr Raw where
  reprPrec
    | text s, n => reprPrec s n
    | bytes bs _, n => reprPrec bs n

def ofBytes (bs : List UInt8) : Raw :=
  match decoded : Utf8.decode? bs with
  | some cs => text (String.ofList cs)
  | none => bytes bs decoded

theorem ofBytes_of_text {bs : List UInt8} {cs : List Char} (decoded : Utf8.decode? bs = some cs) :
    ofBytes bs = text (String.ofList cs) := by
  unfold ofBytes
  split
  · next same => rw [Option.some.inj (decoded.symm.trans same)]
  · next noText => cases decoded.symm.trans noText

theorem ofBytes_of_noText {bs : List UInt8} (noText : Utf8.decode? bs = none) :
    ofBytes bs = bytes bs noText := by
  unfold ofBytes
  split
  · next decoded => cases noText.symm.trans decoded
  · rfl

/-- The text with replacements for what is none. -/
def shown : Raw → String
  | text s => s
  | bytes bs _ => String.ofList (Utf8.lossy bs)

def quoted : Raw → String
  | text s => Text.quoted s
  | bytes bs _ => String.ofList ('"' :: Quoted.bytesFrom .boundary [] bs ++ ['"'])

instance : Coe String Raw := ⟨text⟩

instance : CoeOut Raw String := ⟨shown⟩

end Raw

end CheckIn.Text

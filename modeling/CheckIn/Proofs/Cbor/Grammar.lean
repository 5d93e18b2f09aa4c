import CheckIn.Cbor.Value
import CheckIn.Decimal.Binary
import CheckIn.Text.Utf8
import Mathlib.Data.Nat.Digits.Defs
import Mathlib.Data.Rat.Defs
import Mathlib.Algebra.Field.Rat

/-! The format of CBOR items as a relation between values and bytes. Nothing here reads: a reader
is held to this relation, and a writer to the same relation under shortest heads. -/
namespace CheckIn.Decimal

/-- The same signed number, the same infinity, or both no number. -/
def Denoted.Same : Denoted → Denoted → Prop
  | .finite negative significand scale _, .finite negative' significand' scale' _ =>
    negative = negative' ∧ (significand : ℚ) * 2 ^ scale = significand' * 2 ^ scale'
  | .infinite negative, .infinite negative' => negative = negative'
  | .nan, .nan => True
  | _, _ => False

/-- A binary64 word that says what a word of another format says. All that is not a number becomes
one and the same word. -/
structure Widened (f : Format) (narrow : Nat) (wide : UInt64) : Prop where
  same : (f.denoted narrow).Same (binary64.denoted wide.toNat)
  quiet : f.denoted narrow = .nan → wide = 0x7ff8000000000000

end CheckIn.Decimal

namespace CheckIn.Cbor

/-- The number that some bytes spell, most significant first. -/
def spelled (bs : List UInt8) : Nat := Nat.ofDigits 256 (bs.reverse.map UInt8.toNat)

/-- A first byte: three bits of major type and five of additional information. -/
def initial (major info : Nat) : UInt8 := UInt8.ofNat (32 * major + info)

/-- Which bytes are a head of a major type with an argument. -/
abbrev HeadStyle := Nat → Nat → List UInt8 → Prop

/-- The argument in the first byte, or in one, two, four or eight bytes after it. -/
inductive AnyHead (major : Nat) : Nat → List UInt8 → Prop where
  | direct : n < 24 → AnyHead major n [initial major n]
  | following : k ≤ 3 → bs.length = 2 ^ k →
      AnyHead major (spelled bs) (initial major (24 + k) :: bs)

/-- A head that no other head of the same meaning is shorter than. -/
def ShortestHead (major n : Nat) (bs : List UInt8) : Prop :=
  AnyHead major n bs ∧ ∀ bs', AnyHead major n bs' → bs.length ≤ bs'.length

def opening (major : Nat) : UInt8 := initial major 31

def stop : UInt8 := 0xff

section

variable (H : HeadStyle)

/-- Segments of a string of open length, one after another. A segment is a string of the same major
type: of known length, with a content of its own, or of open length again. -/
inductive Segments (major : Nat) (Content : List α → List UInt8 → Prop) :
    List α → List UInt8 → Prop where
  | nil : Segments major Content [] []
  | known : H major data.length head → Content content data →
      Segments major Content rest bs → Segments major Content (content ++ rest) (head ++ data ++ bs)
  | nested : Segments major Content content inside → Segments major Content rest bs →
      Segments major Content (content ++ rest) (opening major :: inside ++ stop :: bs)

/-- Simple values; an undefined one is read as null. -/
inductive Simple : Nat → Value → Prop where
  | no : Simple 20 (.bool false)
  | yes : Simple 21 (.bool true)
  | null : Simple 22 .null
  | undefined : Simple 23 .null

/-- The bytes without the zeros in front. -/
def Minimal (data minimal : List UInt8) : Prop :=
  (∃ zeros, data = List.replicate zeros 0 ++ minimal) ∧ minimal.head? ≠ some 0

/-- What a tag makes of a number in bytes. It is `n` under tag 2 and `-1 - n` under tag 3; one that
is no integer of 64 bits and sign stays a tag over the fewest bytes, and under tag 3 it has to be
at least `-2^127`. -/
inductive BigNumber : Nat → List UInt8 → Value → Prop where
  | positive : spelled data < 2 ^ 64 → BigNumber 2 data (.integer (spelled data))
  | negative : spelled data < 2 ^ 64 → BigNumber 3 data (.integer (-1 - spelled data))
  | largePositive : 2 ^ 64 ≤ spelled data → Minimal data minimal →
      BigNumber 2 data (.tag 2 (.bytes minimal))
  | largeNegative : 2 ^ 64 ≤ spelled data → spelled data < 2 ^ 127 → Minimal data minimal →
      BigNumber 3 data (.tag 3 (.bytes minimal))

/-- Byte strings of known length that a big-number tag takes for a number. -/
def SmallBytes (data bs : List UInt8) : Prop :=
  data.length ≤ 16 ∧ ∃ head, H 2 data.length head ∧ bs = head ++ data

/-- Tags that take a small byte string for a number. -/
def IsBigNumberTag (number : Nat) : Prop := number = 2 ∨ number = 3

mutual

/-- The bytes are an item that denotes the value, within some levels of nesting. Arrays, maps and
tags take one level each, strings and numbers none. -/
inductive Item : Nat → Value → List UInt8 → Prop where
  | unsigned : H 0 n head → Item levels (.integer n) head
  | negative : H 1 n head → Item levels (.integer (-1 - n)) head
  | bytes : H 2 data.length head → Item levels (.bytes data) (head ++ data)
  | openBytes : Segments H 2 Eq data bs → Item levels (.bytes data) (opening 2 :: bs ++ [stop])
  | text : H 3 (Text.Utf8.ofString s).length head →
      Item levels (.text s) (head ++ Text.Utf8.ofString s)
  | openText : Segments H 3 (fun cs data => data = Text.Utf8.encode cs) s.toList bs →
      Item levels (.text s) (opening 3 :: bs ++ [stop])
  | array : H 4 items.length head → Items levels items bs →
      Item (levels + 1) (.array items) (head ++ bs)
  | openArray : Items levels items bs → Item (levels + 1) (.array items) (opening 4 :: bs ++ [stop])
  | map : H 5 entries.length head → Entries levels entries bs →
      Item (levels + 1) (.map entries) (head ++ bs)
  | openMap : Entries levels entries bs →
      Item (levels + 1) (.map entries) (opening 5 :: bs ++ [stop])
  | simple : H 7 n head → head.length ≤ 2 → Simple n v → Item levels v head
  | half : bs.length = 2 → Decimal.Widened Decimal.binary16 (spelled bs) word →
      Item levels (.float word) (initial 7 25 :: bs)
  | single : bs.length = 4 → Decimal.Widened Decimal.binary32 (spelled bs) word →
      Item levels (.float word) (initial 7 26 :: bs)
  | double : bs.length = 8 → word.toNat = spelled bs →
      Item levels (.float word) (initial 7 27 :: bs)
  | bigNumber : IsBigNumberTag number → H 6 number head → SmallBytes H data bs →
      BigNumber number data v → Item levels v (head ++ bs)
  | tag : H 6 number head → Item levels v bs →
      ¬ (IsBigNumberTag number ∧ ∃ data, SmallBytes H data bs) →
      Item (levels + 1) (.tag number v) (head ++ bs)

inductive Items : Nat → List Value → List UInt8 → Prop where
  | nil : Items levels [] []
  | cons : Item levels v bs → Items levels vs rest → Items levels (v :: vs) (bs ++ rest)

/-- Entries one after another, each a key and a value. Order and repetition are kept. -/
inductive Entries : Nat → List (Value × Value) → List UInt8 → Prop where
  | nil : Entries levels [] []
  | cons : Item levels k ks → Item levels v vs → Entries levels es rest →
      Entries levels ((k, v) :: es) (ks ++ vs ++ rest)

end

end

end CheckIn.Cbor

import CheckIn.Text.Alphanumeric
import CheckIn.Text.Blank
import CheckIn.Text.Numeral

/-! Which texts can be compared with the value of a field: numbers, and patterns. A pattern is a
regular expression without look-around, back references and Unicode word boundaries. It stands
between braces, so that no brace inside it can be closed: it has no counted repetitions and no code
points or properties in braces. Patterns are only checked here, nothing is ever matched. -/
namespace CheckIn.Log

namespace Pattern

/-- The flags that change what may be written: whether a pattern is about characters rather than
bytes, and whether blanks and comments in it are skipped. -/
structure Mode where
  isUnicode : Bool
  isSpaced : Bool
  deriving DecidableEq, Repr

def skipFrom : Bool → List Char → List Char
  | _, [] => []
  | true, c :: cs => skipFrom (c != '\n') cs
  | false, c :: cs =>
    if c == '#' then skipFrom true cs else if Text.isBlank c then skipFrom false cs else c :: cs

def Mode.skip (m : Mode) (cs : List Char) : List Char :=
  if m.isSpaced then skipFrom false cs else cs

/-- What a backslash, or a character of a set, can stand for. -/
inductive Item where
  | literal (code : Nat)
  | set
  | edge
  deriving DecidableEq, Repr

/-- Where a byte is meant, none is beyond ASCII. -/
def Mode.byte? (m : Mode) (code : Nat) : Option Item :=
  if m.isUnicode ∨ code < 0x80 then some (.literal code) else none

def hexDigit? (c : Char) : Option Nat :=
  if 'a' ≤ c ∧ c ≤ 'f' then some (c.toNat - 'a'.toNat + 10)
  else if 'A' ≤ c ∧ c ≤ 'F' then some (c.toNat - 'A'.toNat + 10)
  else Text.Numeral.digit? c

def codePoint? (m : Mode) : Nat → Nat → List Char → Option (Nat × List Char)
  | 0, n, cs => if n.isValidChar then some (n, cs) else none
  | width + 1, n, cs => match m.skip cs with
    | [] => none
    | c :: cs => do codePoint? m width (n * 16 + (← hexDigit? c)) cs

def category? (m : Mode) (cs : List Char) : Option (Item × List Char) :=
  match m.skip cs with
  | c :: cs => if m.isUnicode ∧ c.toUpper ∈ "CLMNPSZ".toList then some (.set, cs) else none
  | [] => none

/-- Control characters by the letter behind a backslash. -/
def control? : Char → Option Nat
  | 'a' => some 0x07
  | 't' => some 0x09
  | 'n' => some 0x0a
  | 'v' => some 0x0b
  | 'f' => some 0x0c
  | 'r' => some 0x0d
  | _ => none

/-- What stands behind a backslash. -/
def escaped? (m : Mode) : List Char → Option (Item × List Char)
  | [] => none
  | 'x' :: cs => do
    let (n, cs) ← codePoint? m 2 0 cs
    some (← m.byte? n, cs)
  | 'u' :: cs => (codePoint? m 4 0 cs).map fun (n, cs) => (.literal n, cs)
  | 'U' :: cs => (codePoint? m 8 0 cs).map fun (n, cs) => (.literal n, cs)
  | 'p' :: cs | 'P' :: cs => category? m cs
  | 'd' :: cs | 's' :: cs | 'w' :: cs => some (.set, cs)
  | 'D' :: cs | 'S' :: cs | 'W' :: cs => if m.isUnicode then some (.set, cs) else none
  | 'b' :: cs | 'B' :: cs | '<' :: cs | '>' :: cs => if m.isUnicode then none else some (.edge, cs)
  | 'A' :: cs | 'z' :: cs => some (.edge, cs)
  | c :: cs =>
    if c.isAlphanum then (control? c).map fun n => (.literal n, cs)
    else if c.toNat < 0x80 then some (.literal c.toNat, cs)
    else none

/-- What has been read: the flags in force, those to go back to behind each open group, the names
given, the open sets, and whether something stands before that can be repeated. -/
structure Reading where
  mode : Mode
  opened : List Mode
  names : List (List Char)
  sets : Nat
  hasOperand : Bool
  deriving DecidableEq, Repr

def Reading.start : Reading := ⟨⟨true, false⟩, [], [], 0, false⟩

abbrev Step := Option (Reading × List Char)

namespace Reading

def operand (r : Reading) : Reading := { r with hasOperand := true }

def setNames : List String :=
  ["alnum", "alpha", "ascii", "blank", "cntrl", "digit", "graph", "lower", "print", "punct",
  "space", "upper", "word", "xdigit"]

/-- A set that has a name, and whether it is meant or all the rest. -/
def named? (cs : List Char) : Option (Bool × List Char) :=
  let (isNegated, cs) := match cs with
    | '^' :: cs => (true, cs)
    | cs => (false, cs)
  match cs.dropWhile (· != ':') with
  | ':' :: ']' :: rest =>
    if String.ofList (cs.takeWhile (· != ':')) ∈ setNames then some (isNegated, rest) else none
  | _ => none

/-- Behind the bracket that opens a set. A closing bracket that comes first is a member. -/
def openSet (r : Reading) (cs : List Char) : Step :=
  let inside := { r with sets := r.sets + 1 }
  let first (cs : List Char) : List Char := match cs with
    | ']' :: cs => cs
    | cs => cs
  match r.mode.skip cs with
  | '^' :: cs => if r.mode.isUnicode then some (inside, first (r.mode.skip cs)) else none
  | cs => some (inside, first cs)

def member? (m : Mode) : List Char → Option (Item × List Char)
  | [] => none
  | '\\' :: cs => do match ← escaped? m cs with
    | (.edge, _) => none
    | (.set, cs) => some (.set, cs)
    | (.literal n, cs) => some (← m.byte? n, cs)
  | c :: cs => do some (← m.byte? c.toNat, cs)

/-- A member, or a range of them. A hyphen before a hyphen or before the end is no range. -/
def range (r : Reading) (cs : List Char) : Step := do
  let (first, cs) ← member? r.mode cs
  match r.mode.skip cs with
  | '-' :: more => match r.mode.skip more with
    | ']' :: _ | '-' :: _ => some (r, '-' :: more)
    | more => match first, ← member? r.mode more with
      | .literal a, (.literal b, cs) => if a ≤ b then some (r, cs) else none
      | _, _ => none
  | cs => some (r, cs)

def inSet (r : Reading) : List Char → Step
  | ']' :: cs => some ({ r with sets := r.sets - 1, hasOperand := true }, cs)
  | '&' :: '&' :: cs | '-' :: '-' :: cs | '~' :: '~' :: cs => some (r, cs)
  | '[' :: ':' :: cs => match named? cs with
    | some (isNegated, cs) => if isNegated ∧ !r.mode.isUnicode then none else some (r, cs)
    | none => r.openSet (':' :: cs)
  | '[' :: cs => r.openSet cs
  | cs => r.range cs

def openGroup (r : Reading) (mode : Mode) (cs : List Char) : Step :=
  some ({ r with mode, opened := r.mode :: r.opened, hasOperand := false }, cs)

def isNameStart (c : Char) : Bool := c == '_' || (Text.isAlphanumeric c && !c.isDigit)
def isNameRest (c : Char) : Bool := c ∈ ['_', '.', '[', ']'] || Text.isAlphanumeric c

def isName : List Char → Bool
  | [] => false
  | c :: cs => isNameStart c && cs.all isNameRest

/-- A group with a name that no other has. -/
def openNamed (r : Reading) (cs : List Char) : Step :=
  let name := cs.takeWhile (· != '>')
  match cs.dropWhile (· != '>') with
  | _ :: cs =>
    if isName name ∧ name ∉ r.names then
      ({ r with names := name :: r.names }).openGroup r.mode cs
    else none
  | [] => none

/-- Flags, each at most once, those behind a hyphen taken back. -/
def areFlags (word : List Char) : Bool :=
  word.all ("imsUuRx-".toList.contains ·) && decide word.Nodup && word.getLast? != some '-'

def flagOf (flag : Char) (word : List Char) (otherwise : Bool) : Bool :=
  if flag ∈ word.takeWhile (· != '-') then true else if flag ∈ word then false else otherwise

/-- Flags for the rest of the group that is open, or for a group of their own. -/
def setFlags (r : Reading) (cs : List Char) : Step :=
  let isEnd (c : Char) : Bool := c == ':' || c == ')'
  let word := cs.takeWhile (!isEnd ·)
  let mode : Mode := ⟨flagOf 'u' word r.mode.isUnicode, flagOf 'x' word r.mode.isSpaced⟩
  if areFlags word then
    match cs.dropWhile (!isEnd ·) with
    | ':' :: cs => r.openGroup mode cs
    | _ :: cs => if word.isEmpty then none else some ({ r with mode, hasOperand := false }, cs)
    | [] => none
  else none

def startGroup (r : Reading) (cs : List Char) : Step :=
  match r.mode.skip cs with
  | '?' :: 'P' :: '<' :: cs | '?' :: '<' :: cs => r.openNamed cs
  | '?' :: cs => r.setFlags cs
  | cs => r.openGroup r.mode cs

def endGroup (r : Reading) (cs : List Char) : Step :=
  match r.opened with
  | mode :: opened => some ({ r with mode, opened, hasOperand := true }, cs)
  | [] => none

def outside (r : Reading) : List Char → Step
  | [] => none
  | '(' :: cs => r.startGroup cs
  | ')' :: cs => r.endGroup cs
  | '[' :: cs => r.openSet cs
  | '|' :: cs => some ({ r with hasOperand := false }, cs)
  | '?' :: cs | '*' :: cs | '+' :: cs => if r.hasOperand then some (r, cs) else none
  | '{' :: _ => none
  | '\\' :: cs => (escaped? r.mode cs).map fun (_, cs) => (r.operand, cs)
  | '.' :: cs => if r.mode.isUnicode then some (r.operand, cs) else none
  | _ :: cs => some (r.operand, cs)

def step (r : Reading) (cs : List Char) : Step := if r.sets = 0 then r.outside cs else r.inSet cs

def isComplete (r : Reading) : Bool := r.opened.isEmpty && r.sets == 0

/-- Every step takes a character at least, so `fuel` characters can be read. -/
def acceptsFrom : Nat → Reading → List Char → Bool
  | fuel, r, cs => match r.mode.skip cs, fuel with
    | [], _ => r.isComplete
    | _, 0 => false
    | cs, fuel + 1 => match r.step cs with
      | some (r, cs) => acceptsFrom fuel r cs
      | none => false

end Reading

def accepts (cs : List Char) : Bool := Reading.start.acceptsFrom cs.length cs

end Pattern

namespace FieldValue

/-- Digits with a point and an exponent, or a name of what is no finite number. -/
def isMagnitude (cs : List Char) : Bool :=
  let isDigit (c : Char) : Bool := c.isDigit
  let (fraction, rest) := match cs.dropWhile isDigit with
    | '.' :: rest => (rest.takeWhile isDigit, rest.dropWhile isDigit)
    | rest => ([], rest)
  let exponent (cs : List Char) : Bool := !cs.isEmpty && cs.all isDigit
  let isFinite := (cs.takeWhile isDigit != [] || fraction != []) && match rest with
    | [] => true
    | c :: rest => (c == 'e' || c == 'E') && match rest with
      | '+' :: rest | '-' :: rest => exponent rest
      | rest => exponent rest
  isFinite || String.ofList (cs.map Char.toLower) ∈ ["inf", "infinity", "nan"]

/-- A number without a plus sign is a pattern as well. -/
def accepts : List Char → Bool
  | '+' :: cs => isMagnitude cs
  | cs => Pattern.accepts cs

end FieldValue

end CheckIn.Log

import CheckIn.Text.Utf8

/-! Texts for a terminal that must not be steered by them. A control sequence begins with an escape
character and is left out to its end, or to the end of the text if it has none; a control character
outside a sequence is left out too, unless it is one of the ASCII blanks. A terminal reads bytes:
some sequences are closed by a byte that a character may hold in UTF-8. -/
namespace CheckIn.Text.ControlSequence

/-- How far the beginning of a device string has been read. -/
inductive Header where
  | start | parameters | intermediates
  deriving DecidableEq, Repr

/-- The part of a text under way: what is shown, or a sequence by the way it began. -/
inductive Mode where
  | shown
  | escape
  | designation
  | control
  | title
  | device (header : Header)
  | data
  deriving DecidableEq, Repr

/-- Control characters that are blanks as well. -/
def isControlBlank (c : Char) : Bool := c == '\t' || c == '\n' || c == '\x0c' || c == '\r'

def isVisible (c : Char) : Bool := isControlBlank c || (' ' ≤ c && c != '\x7f')

/-- Escape characters start a sequence anywhere; two other characters cancel one. -/
def isCancel (c : Char) : Bool := c == '\x18' || c == '\x1a'

/-- After the escape character: how the sequence goes on. -/
def ofIntroducer (c : Char) : Mode :=
  if ' ' ≤ c ∧ c ≤ '/' then .designation
  else if c = '[' then .control
  else if c = ']' then .title
  else if c = 'P' then .device .start
  else if c ∈ ['X', '^', '_'] then .data
  else if '0' ≤ c ∧ c ≤ '~' then .shown
  else .escape

/-- The mode behind a character in the beginning of a device string: parameters, then intermediates,
then data, which a character out of this order begins as well. -/
def Header.next (c : Char) (h : Header) : Mode :=
  if ' ' ≤ c ∧ c ≤ '/' then .device .intermediates
  else if '0' ≤ c ∧ c ≤ '?' then
    match h with
    | .start => .device .parameters
    | .parameters => if c ≤ ';' then .device .parameters else .data
    | .intermediates => .data
  else if '@' ≤ c ∧ c ≤ '~' then .data
  else .device h

/-- The byte that closes data, wherever in a character it stands. -/
def closing : UInt8 := 0x9c

/-- The mode behind a character inside a sequence. -/
def Mode.next (c : Char) : Mode → Mode
  | .shown => .shown
  | .escape => ofIntroducer c
  | .designation => if '0' ≤ c ∧ c ≤ '~' then .shown else .designation
  | .control => if '@' ≤ c ∧ c ≤ '~' then .shown else .control
  | .title => if c = '\x07' then .shown else .title
  | .device h => h.next c
  | .data => if closing ∈ Utf8.encode [c] then .shown else .data

/-- Sequences that a blank breaks off. -/
def Mode.isBrief : Mode → Bool
  | .escape | .designation | .control => true
  | _ => false

/-- The mode behind a character, and whether the character is shown. -/
def Mode.step (m : Mode) (c : Char) : Mode × Bool :=
  if c = '\x1b' then (.escape, false)
  else if isCancel c then (.shown, false)
  else if m.isBrief && isControlBlank c then (.shown, true)
  else (m.next c, m == .shown && isVisible c)

def stripFrom : Mode → List Char → List Char
  | _, [] => []
  | m, c :: cs =>
    let (next, isShown) := m.step c
    if isShown then c :: stripFrom next cs else stripFrom next cs

end CheckIn.Text.ControlSequence

namespace CheckIn.Text

/-- A text without control sequences and control characters. -/
def withoutControls (s : String) : String :=
  String.ofList (ControlSequence.stripFrom .shown s.toList)

end CheckIn.Text

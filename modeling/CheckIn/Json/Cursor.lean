import CheckIn.Text.Quoted

/-! Positions in a JSON text and what can be wrong there. A fault found on a byte that has been
taken stands behind it; one found by looking at the next byte stands as if that byte were taken. -/
namespace CheckIn.Json

/-- What stands where something else was expected. -/
inductive Found where
  | null
  | boolean (b : Bool)
  | integer (n : Int)
  | float (text : String)
  | string (s : String)
  | sequence
  | object
  deriving DecidableEq, Repr

def Found.text : Found → String
  | null => "null"
  | boolean b => "boolean `" ++ (if b then "true" else "false") ++ "`"
  | integer n => "integer `" ++ toString n ++ "`"
  | float text => "floating point `" ++ text ++ "`"
  | string s => "string " ++ Text.quoted s
  | sequence => "sequence"
  | object => "map"

inductive Complaint where
  | eofInValue | eofInObject | eofInList | eofInString
  | expectedValue | expectedIdent | expectedColon
  | expectedObjectCommaOrEnd | expectedListCommaOrEnd
  | keyMustBeString | trailingComma | trailingCharacters
  | invalidNumber | numberOutOfRange
  | invalidEscape | loneSurrogate | endOfHexEscape | controlCharacter
  | invalidType (found : Found) (expected : String)
  | invalidValue (found : Found) (expected : String)
  | duplicateField (name : String)
  deriving DecidableEq, Repr

def Complaint.text : Complaint → String
  | eofInValue => "EOF while parsing a value"
  | eofInObject => "EOF while parsing an object"
  | eofInList => "EOF while parsing a list"
  | eofInString => "EOF while parsing a string"
  | expectedValue => "expected value"
  | expectedIdent => "expected ident"
  | expectedColon => "expected `:`"
  | expectedObjectCommaOrEnd => "expected `,` or `\x7d`"
  | expectedListCommaOrEnd => "expected `,` or `]`"
  | keyMustBeString => "key must be a string"
  | trailingComma => "trailing comma"
  | trailingCharacters => "trailing characters"
  | invalidNumber => "invalid number"
  | numberOutOfRange => "number out of range"
  | invalidEscape => "invalid escape"
  | loneSurrogate => "lone leading surrogate in hex escape"
  | endOfHexEscape => "unexpected end of hex escape"
  | controlCharacter => "control character (\\u0000-\\u001F) found while parsing a string"
  | invalidType found expected => "invalid type: " ++ found.text ++ ", expected " ++ expected
  | invalidValue found expected => "invalid value: " ++ found.text ++ ", expected " ++ expected
  | duplicateField name => "duplicate field `" ++ name ++ "`"

structure Fault where
  complaint : Complaint
  line : Nat
  column : Nat
  deriving DecidableEq, Repr

def Fault.message (f : Fault) : String :=
  f.complaint.text ++ " at line " ++ toString f.line ++ " column " ++ toString f.column

/-- The bytes ahead, and how many line breaks and bytes since the last of them are behind. -/
structure Cursor where
  rest : List UInt8
  line : Nat
  column : Nat
  deriving DecidableEq, Repr

abbrev Reader (α : Type) := Cursor → Except Fault (α × Cursor)

namespace Cursor

def start (bs : List UInt8) : Cursor := ⟨bs, 1, 0⟩

def peek? (c : Cursor) : Option UInt8 := c.rest.head?

def next (c : Cursor) : Cursor :=
  match c.rest with
  | [] => c
  | 0x0a :: rest => ⟨rest, c.line + 1, 0⟩
  | _ :: rest => ⟨rest, c.line, c.column + 1⟩

def advance : Nat → Cursor → Cursor
  | 0, c => c
  | n + 1, c => advance n c.next

/-- A fault on bytes already taken. -/
def fail (complaint : Complaint) (c : Cursor) : Except Fault α :=
  .error ⟨complaint, c.line, c.column⟩

def failAhead (complaint : Complaint) (c : Cursor) : Except Fault α := c.next.fail complaint

/-- Behind the longest beginning of `bs`, the bytes ahead, for which `test` holds. -/
def skipWhile (test : UInt8 → Bool) (bs : List UInt8) (c : Cursor) : Cursor :=
  match bs with
  | [] => c
  | b :: bs => if test b then skipWhile test bs c.next else c

end Cursor

def isBlank (b : UInt8) : Bool := b == 0x20 || b == 0x0a || b == 0x09 || b == 0x0d

def Cursor.skipBlanks (c : Cursor) : Cursor := c.skipWhile isBlank c.rest

def isDigit (b : UInt8) : Bool := 0x30 ≤ b && b ≤ 0x39

def digitValue (b : UInt8) : Nat := b.toNat - 0x30

def Cursor.skipDigits (c : Cursor) : Cursor := c.skipWhile isDigit c.rest

def Cursor.sees (test : UInt8 → Bool) (c : Cursor) : Bool := c.peek?.any test

def Cursor.seesByte (b : UInt8) (c : Cursor) : Bool := c.sees (· == b)

/-- Reads the rest of a word whose first byte has been taken. -/
def word : List UInt8 → Reader Unit
  | [], c => .ok ((), c)
  | b :: bs, c => match c.peek? with
    | none => c.fail .eofInValue
    | some seen => if seen = b then word bs c.next else c.next.fail .expectedIdent

def wordNull : Reader Unit := word [0x75, 0x6c, 0x6c]
def wordTrue : Reader Unit := word [0x72, 0x75, 0x65]
def wordFalse : Reader Unit := word [0x61, 0x6c, 0x73, 0x65]

end CheckIn.Json

import CheckIn.Text.Numeral
import CheckIn.Text.Printable

/-! Quoted texts: a text between double quotes in which a quote, a backslash and four control
characters are written by a short escape and every other character without ink by its code point.
No quoted text holds a line break, and a quote inside it always follows a backslash. -/
namespace CheckIn.Text.Quoted

def escape (c : Char) : List Char :=
  if c = '"' then ['\\', '"']
  else if c = '\\' then ['\\', '\\']
  else if c = '\n' then ['\\', 'n']
  else if c = '\r' then ['\\', 'r']
  else if c = '\t' then ['\\', 't']
  else if c = '\x00' then ['\\', '0']
  else if isPrintable c then [c]
  else ['\\', 'u', '{'] ++ Numeral.hex c.toNat ++ ['}']

def body (cs : List Char) : List Char := cs.flatMap escape

def encode (cs : List Char) : List Char := '"' :: body cs ++ ['"']

end CheckIn.Text.Quoted

namespace CheckIn.Text

def quoted (s : String) : String := String.ofList (Quoted.encode s.toList)

end CheckIn.Text

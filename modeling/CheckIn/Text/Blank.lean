/-! Blank characters: those with the property White_Space. They are more than the ASCII blanks and
fewer than all characters without ink: U+200B and U+FEFF are not blank, nor are the separators
U+001C to U+001F. -/
namespace CheckIn.Text

def isBlank (c : Char) : Bool :=
  let n := c.toNat
  (0x09 ≤ n && n ≤ 0x0d) || n == 0x20 || n == 0x85 || n == 0xa0 || n == 0x1680 ||
    (0x2000 ≤ n && n ≤ 0x200a) || n == 0x2028 || n == 0x2029 || n == 0x202f || n == 0x205f ||
    n == 0x3000

def trimStart (s : List Char) : List Char := s.dropWhile isBlank
def trimEnd (s : List Char) : List Char := (s.reverse.dropWhile isBlank).reverse
def trim (s : List Char) : List Char := trimEnd (trimStart s)

end CheckIn.Text

/-! Texts cut at separators. -/
namespace CheckIn.Text

/-- The fields between the separators, at least one. -/
def fields (sep : Char) : List Char → List (List Char)
  | [] => [[]]
  | c :: cs =>
    if c = sep then [] :: fields sep cs
    else match fields sep cs with
      | f :: fs => (c :: f) :: fs
      | [] => [[c]]

def cut? (sep : Char) : List Char → Option (List Char × List Char)
  | [] => none
  | c :: cs => if c = sep then some ([], cs) else (cut? sep cs).map fun r => (c :: r.1, r.2)

/-- The text before and after the first pair of separators. -/
def cutPair? (sep : Char) : List Char → Option (List Char × List Char)
  | a :: b :: cs =>
    if a = sep ∧ b = sep then some ([], cs)
    else (cutPair? sep (b :: cs)).map fun r => (a :: r.1, r.2)
  | _ => none

/-- A text without the copies of a character at its start. -/
def dropLeading (c : Char) (s : List Char) : List Char := s.dropWhile (· == c)
def dropTrailing (c : Char) (s : List Char) : List Char := (s.reverse.dropWhile (· == c)).reverse

end CheckIn.Text

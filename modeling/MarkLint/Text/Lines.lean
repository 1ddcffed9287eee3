/-!
# Lines of a text

A text is cut into lines at each line feed; a carriage return before it stays part of the line. A text with `n` line
feeds has `n + 1` lines, the last of which may be empty.
-/

namespace MarkLint.Text

/-- The pieces of a text between the characters that pass the test. -/
def piecesBy (test : Char → Bool) : List Char → List (List Char)
  | [] => [[]]
  | c :: rest =>
    if test c then [] :: piecesBy test rest
    else match piecesBy test rest with
      | [] => [[c]]
      | p :: ps => (c :: p) :: ps

/-- The pieces of a text between the characters `sep`. -/
def pieces (sep : Char) (s : List Char) : List (List Char) := piecesBy (· == sep) s

/-- The lines of a text, without their line feeds. -/
def lines (s : List Char) : List (List Char) := pieces '\n' s

/-- The text with the given lines. -/
def unlines (ls : List (List Char)) : List Char := List.intercalate ['\n'] ls

/-- Carriage returns, alone or before a line feed, become line feeds. -/
def normalizeBreaks : List Char → List Char
  | [] => []
  | '\r' :: '\n' :: rest => '\n' :: normalizeBreaks rest
  | '\r' :: rest => '\n' :: normalizeBreaks rest
  | c :: rest => c :: normalizeBreaks rest

/-- The text without one final line feed, if it ends in one. -/
def dropFinalBreak (s : List Char) : List Char :=
  if s.getLast? == some '\n' then s.dropLast else s

end MarkLint.Text

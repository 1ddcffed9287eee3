/-!
# White space and trimming

Two notions of white space are in use. *Blank* characters (`isBlank`) are what trimming removes at the ends of a text;
they include the information separators, the next-line control and the spaces of other scripts. *Indentation* consists
of spaces and tabs only (`isIndent`).
-/

namespace MarkLint.Text

/-- White space in the wide sense. -/
def isBlank (c : Char) : Bool :=
  let n := c.toNat
  (9 ≤ n && n ≤ 13) || (28 ≤ n && n ≤ 32) || n == 0x85 || n == 0xA0 || n == 0x1680
    || (0x2000 ≤ n && n ≤ 0x200A) || n == 0x2028 || n == 0x2029 || n == 0x202F || n == 0x205F || n == 0x3000

/-- A space or a tab. -/
def isIndent (c : Char) : Bool := c == ' ' || c == '\t'

/-- The text without the blanks at its start. -/
def trimStart (s : List Char) : List Char := s.dropWhile isBlank

/-- The text without the blanks at its end. -/
def trimEnd (s : List Char) : List Char := (s.reverse.dropWhile isBlank).reverse

/-- The text without the blanks at both ends. -/
def trim (s : List Char) : List Char := trimEnd (trimStart s)

/-- Does the text hold nothing but blanks? -/
def isBlankText (s : List Char) : Bool := s.all isBlank

/-- Runs of blanks become single spaces, and the ends are trimmed. -/
def collapse (s : List Char) : List Char :=
  go (trim s)
where
  /-- Writes one space for a run of blanks. -/
  go : List Char → List Char
    | [] => []
    | [c] => [if isBlank c then ' ' else c]
    | c :: d :: rest =>
      if isBlank c then if isBlank d then go (d :: rest) else ' ' :: go (d :: rest) else c :: go (d :: rest)

end MarkLint.Text

import MarkLint.Text.Numeral
import MarkLint.Text.Printable

/-!
# Quoted text

A text in quotes, as error messages show file names: between single quotes, or between double quotes when it holds a
single quote and no double one. Characters that are not printable are written as escapes.
-/

namespace MarkLint.Text

/-- The escape for the code point `n`, as short as it allows. -/
def codePointEscape (n : Nat) : List Char :=
  if n < 0x100 then ['\\', 'x'] ++ hexDigits 2 n
  else if n < 0x10000 then ['\\', 'u'] ++ hexDigits 4 n
  else ['\\', 'U'] ++ hexDigits 8 n

/-- A character between the quotes `mark`. -/
def quotedChar (mark c : Char) : List Char :=
  if c == mark || c == '\\' then ['\\', c]
  else if c == '\n' then ['\\', 'n']
  else if c == '\r' then ['\\', 'r']
  else if c == '\t' then ['\\', 't']
  else if isPrintable c then [c]
  else codePointEscape c.toNat

/-- The quotes for a text. -/
def quoteMark (s : List Char) : Char := if s.contains '\'' && !s.contains '"' then '"' else '\''

/-- A text in quotes. -/
def quoted (s : List Char) : List Char :=
  let mark := quoteMark s
  [mark] ++ s.flatMap (quotedChar mark) ++ [mark]

end MarkLint.Text

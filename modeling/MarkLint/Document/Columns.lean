import MarkLint.Location
import MarkLint.Text.Blank
import MarkLint.Text.Lines

/-!
# Finding the columns of a block

A Markdown reader only says which lines a block spans. Its columns are found in the source lines: the prefixes of the
enclosing containers (`>` markers and list markers) are skipped, and most blocks then start at the first character that
is not a space or a tab.
-/

namespace MarkLint

open MarkLint.Text

/-- A container whose prefix has to be skipped on each line. -/
inductive Container where
  | quote
  | item (startLine : Nat) (indent : Nat)
  deriving Repr, DecidableEq

/-- The furthest that the content of a list item may stand from its marker. -/
def maxMarkerGap : Nat := 4

/-- The column of the first character from `column` on that is not a space or a tab. -/
def skipIndent (text : List Char) (column : Nat) : Nat :=
  column + ((text.drop column).takeWhile isIndent).length

namespace Container

/-- The column past the prefix of one container, from `column` on. A list item is passed marker and all on its first
line, and with at most its own indentation on later lines; a quote is passed only where it has its marker. -/
def skip (text : List Char) (line : Nat) (column : Nat) : Container → Nat
  | quote =>
    let probe := skipIndent text column
    if text[probe]? = some '>' then probe + 1 else column
  | item startLine indent =>
    if startLine = line then min (skipIndent text column + indent) text.length
    else min (skipIndent text column) (column + indent)

/-- The column past the prefixes of all containers, outermost first. -/
def skipAll (text : List Char) (line : Nat) (containers : List Container) : Nat :=
  containers.foldl (fun column c => c.skip text line column) 0

/-- The container of a list item whose marker of `width` characters stands at `column` of the line `text`. Content more
than four columns away is indented code, which starts one column after the marker; so does the content of an item that
is empty on this line. -/
def ofMarker (text : List Char) (line column width : Nat) : Container :=
  let stop := column + width
  let gap := skipIndent text stop - stop
  let gap := if gap = 0 ∨ maxMarkerGap < gap ∨ (trimEnd text).length ≤ stop + gap then 1 else gap
  item line (width + gap)

end Container

/-- The index of the last line from `first` to `last` that is not blank, and `first` if they all are. -/
def lastFilled (lines : List (List Char)) (first : Nat) : Nat → Nat
  | 0 => 0
  | last + 1 =>
    if last + 1 ≤ first then last + 1
    else if isBlankText (lines.getD (last + 1) []) then lastFilled lines first last else last + 1

end MarkLint

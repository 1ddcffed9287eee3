import MarkLint.Markdown.Line
import MarkLint.Markdown.Tag

/-!
# Where a block can start

A `Region` is what a sequence of blocks is read from: lines as seen from inside their container, and the indentation
that the container asks for. The tests here look at one line and say which kind of block starts there; a paragraph
ends where another block may interrupt it.
-/

namespace MarkLint.Markdown

open MarkLint.Text

/-- The lines from which the blocks of one container are read. Paragraphs end at the line `limit` at the latest; blocks
have to be indented by `indent` columns; `listIndent` is the indentation of the innermost list, if there is one. -/
structure Region where
  lines : Array Line
  limit : Nat
  indent : Int := 0
  listIndent : Option Int := none

namespace Region

/-- The line at an index; past the end there are only empty lines. -/
def line (r : Region) (i : Nat) : Line := r.lines.getD i Line.beyond

/-- Is the line indented so far that it is code, if a block starts there? -/
def isCode (r : Region) (i : Nat) : Bool := 4 ≤ (r.line i).indent - r.indent

/-- Is the line indented less than the container asks for? -/
def isOutdented (r : Region) (i : Nat) : Bool := (r.line i).indent < r.indent

/-- The first line from `i` on that is not empty, or the limit. -/
def skipEmpty (r : Region) : (fuel : Nat) → (i : Nat) → Nat
  | 0, i => i
  | fuel + 1, i => if i < r.limit ∧ (r.line i).isEmpty then r.skipEmpty fuel (i + 1) else i

/-- The contents of the lines from `start` up to `stop`, less the given indentation, without the last line break. -/
def contents (r : Region) (start stop : Nat) (indent : Int) : List Char :=
  match stop - start with
  | 0 => []
  | n + 1 =>
    ((List.range' start n).flatMap fun i => (r.line i).contentWithBreak indent) ++ (r.line (start + n)).content indent

/-- The contents of the lines from `start` up to `stop`, less the given indentation, with all line breaks. -/
def contentsWithBreaks (r : Region) (start stop : Nat) (indent : Int) : List Char :=
  (List.range' start (stop - start)).flatMap fun i => (r.line i).contentWithBreak indent

end Region

/-! ## Marks at the start of a line -/

/-- The fence that a text opens: its character, its length, and the info text after it. -/
structure Fence where
  char : Char
  length : Nat
  info : List Char

/-- Reads the opening of a fenced code block. -/
def Fence.read? (text : List Char) : Option Fence :=
  match text with
  | c :: _ =>
    if c == '~' || c == '\x60' then
      let length := (text.takeWhile (· == c)).length
      let info := text.drop length
      if length < 3 || (c == '\x60' && info.contains '\x60') then none else some ⟨c, length, info⟩
    else none
  | [] => none

/-- Does the text close the fence? -/
def Fence.closedBy (f : Fence) (text : List Char) : Bool :=
  let length := (text.takeWhile (· == f.char)).length
  f.length ≤ length && (text.drop length).all isIndent

/-- Is the text a thematic break: three or more of one mark, with spaces between them? -/
def isThematicBreak (text : List Char) : Bool :=
  match text with
  | c :: _ =>
    (c == '*' || c == '-' || c == '_') && text.all (fun d => d == c || isIndent d) && 3 ≤ text.count c
  | [] => false

/-- The level of the heading that a text of hash marks opens. -/
def headingLevel? (text : List Char) : Option Nat :=
  let level := (text.takeWhile (· == '#')).length
  if 1 ≤ level && level ≤ 6 && (text.drop level).head?.all isIndent then some level else none

/-- The marker of a list item. -/
structure ListMarker where
  char : Char
  digits : List Char
  deriving Repr, DecidableEq

namespace ListMarker

/-- The width of the marker. -/
def width (m : ListMarker) : Nat := m.digits.length + 1

/-- Does the list have numbers? -/
def isOrdered (m : ListMarker) : Bool := !m.digits.isEmpty

/-- Reads the marker of an item at the start of a text: up to nine digits before `.` or `)`, or one of `*`, `-` and `+`;
white space or nothing follows it. -/
def read? (text : List Char) : Option ListMarker :=
  let digits := text.takeWhile Char.isDigit
  match text.drop digits.length with
  | c :: rest =>
    let isMark := if digits.isEmpty then c == '*' || c == '-' || c == '+' else c == '.' || c == ')'
    if isMark && digits.length ≤ 9 && rest.head?.all isIndent then some ⟨c, digits⟩ else none
  | [] => none

end ListMarker

namespace Region

/-- Does a fenced code block open at the line? -/
def opensFence (r : Region) (i : Nat) : Bool := !r.isCode i && (Fence.read? (r.line i).text).isSome

/-- Does a block quote start at the line? -/
def opensQuote (r : Region) (i : Nat) : Bool := !r.isCode i && (r.line i).text.head? == some '>'

/-- Is the line a thematic break? -/
def isBreak (r : Region) (i : Nat) : Bool := !r.isCode i && isThematicBreak (r.line i).text

/-- The list marker at the line. An item that stands too far to the right of its list for its level is none. -/
def listMarker? (r : Region) (i : Nat) : Option ListMarker :=
  if r.isCode i || (r.listIndent.any (fun n => 4 ≤ (r.line i).indent - n) && r.isOutdented i) then none
  else ListMarker.read? (r.line i).text

/-- Does a list start at the line? In the middle of a paragraph an item must not be empty, and has to have the number 1
if it has one. -/
def opensList (r : Region) (i : Nat) (inParagraph : Bool) : Bool :=
  match r.listMarker? i with
  | none => false
  | some m =>
    if inParagraph && !r.isOutdented i then
      (!m.isOrdered || m.digits.foldl (fun n c => 10 * n + (c.toNat - 48)) 0 == 1)
        && !((r.line i).text.drop m.width).all isIndent
    else true

/-- The HTML block that starts at the line. -/
def htmlBlock? (r : Region) (i : Nat) : Option Tag.BlockKind :=
  if r.isCode i then none else Tag.blockKind? (r.line i).text

/-- Does an HTML block start at the line that may interrupt a paragraph? -/
def opensHtml (r : Region) (i : Nat) : Bool :=
  match r.htmlBlock? i with
  | some (.untilText _) => true
  | some (.untilEmpty interrupts) => interrupts
  | none => false

/-- Is the line a heading with hash marks? -/
def opensHeading (r : Region) (i : Nat) : Bool := !r.isCode i && (headingLevel? (r.line i).text).isSome

/-! ## Tables -/

/-- The cells of a table row; a pipe after a backslash does not end a cell, and loses the backslash. -/
def splitCells (cell : List Char) (escaped : Bool) : List Char → List (List Char)
  | [] => [cell.reverse]
  | c :: rest =>
    if c == '|' then
      if escaped then splitCells ('|' :: cell.drop 1) false rest else cell.reverse :: splitCells [] false rest
    else splitCells (c :: cell) (c == '\\') rest

/-- The cells of a row without the empty ones outside the outer pipes. -/
def rowCells (text : List Char) : List (List Char) :=
  let cells := splitCells [] false text
  let cells := if cells.head? == some [] then cells.drop 1 else cells
  if cells.getLast? == some [] then cells.dropLast else cells

/-- Is the text an underline of a table header cell: hyphens with an optional colon at either end? -/
def isColumnRule (text : List Char) : Bool :=
  let body := if text.head? == some ':' then text.drop 1 else text
  let body := if body.getLast? == some ':' then body.dropLast else body
  !body.isEmpty && body.all (· == '-')

/-- The number of columns of the line under a table header. -/
def ruleColumns? (text : List Char) : Option Nat :=
  let mayStart : Bool :=
    match text with
    | a :: b :: _ => (a == '|' || a == '-' || a == ':') && !(a == '-' && isIndent b)
    | _ => false
  if mayStart && text.all fun c => c == '|' || c == '-' || c == ':' || isIndent c then
    let cells := (pieces '|' text).map trim
    let cells := if cells.head? == some [] then cells.drop 1 else cells
    let cells := if cells.getLast? == some [] then cells.dropLast else cells
    if cells.all isColumnRule then some cells.length else none
  else none

/-- The header cells of the table that starts at the line; `stop` is the line where the blocks end. -/
def tableHeader? (r : Region) (i stop : Nat) : Option (List (List Char)) :=
  if stop < i + 2 || r.isOutdented (i + 1) || r.isCode (i + 1) then none
  else match ruleColumns? (r.line (i + 1)).text with
    | none => none
    | some columns =>
      let text := trim (r.line i).text
      if !text.contains '|' || r.isCode i then none
      else
        let cells := rowCells text
        if cells.isEmpty || cells.length ≠ columns then none else some cells

/-! ## Interruptions -/

/-- Does another block end the items of a list at the line? -/
def interruptsList (r : Region) (i : Nat) : Bool := r.opensFence i || r.opensQuote i || r.isBreak i

/-- Does another block end a block quote or a table at the line? -/
def interruptsQuote (r : Region) (i : Nat) : Bool :=
  r.interruptsList i || r.opensList i false || r.opensHtml i || r.opensHeading i

/-- Does another block end a paragraph at the line, when the blocks end at the line `stop`? A link definition ends
like a paragraph, but for the items of lists, any of which ends it. -/
def interruptsParagraph (r : Region) (i stop : Nat) (isDefinition : Bool) : Bool :=
  (r.tableHeader? i stop).isSome || r.interruptsList i || r.opensList i (!isDefinition) || r.opensHtml i
    || r.opensHeading i

end Region
end MarkLint.Markdown

import MarkLint.Text.Blank
import MarkLint.Text.Lines

/-!
# Lines as a block reader sees them

A block reader looks at each line from inside the containers it has entered so far. A `Line` keeps the whole line,
together with the place where the innermost container's content starts and the width of the indentation from there on.
Tabs are as wide as it takes to the next multiple of four columns.
-/

namespace MarkLint.Markdown

open MarkLint.Text

/-- A line as seen from inside its containers. Content starts at character `base`, `shift` characters of indentation
follow, and these are `indent` columns wide; `offset` columns lie before `base`. A negative `indent` marks a line that
can only continue a paragraph. `hasBreak` is false only for an unfinished last line. -/
structure Line where
  chars : Array Char
  base : Nat := 0
  shift : Nat := 0
  indent : Int := 0
  offset : Int := 0
  hasBreak : Bool := true
  deriving Repr, Inhabited

/-- The width of a tab at a column. -/
def tabWidth (column : Int) : Int := 4 - column % 4

/-- The number of spaces and tabs at the start of a text, and the column after them when they start at `column` and tabs
are aligned `offset` columns to the left. -/
def indentWidth (offset : Int) (column : Int) : List Char → Nat × Int
  | [] => (0, column)
  | c :: rest =>
    if c == '\t' then
      let (n, w) := indentWidth offset (column + tabWidth (column + offset)) rest
      (n + 1, w)
    else if c == ' ' then
      let (n, w) := indentWidth offset (column + 1) rest
      (n + 1, w)
    else (0, column)

namespace Line

/-- The line beyond the end of a text. -/
def beyond : Line := { chars := #[], hasBreak := false }

/-- A line outside all containers. -/
def ofChars (chars : List Char) (hasBreak : Bool) : Line :=
  let (shift, indent) := indentWidth 0 0 chars
  { chars := chars.toArray, shift := shift, indent := indent, hasBreak := hasBreak }

/-- The lines of a text. An unfinished last line of nothing but spaces and tabs is no line. -/
def ofText (text : List Char) : Array Line :=
  let pieces := lines text
  let finished := (pieces.dropLast.map fun l => ofChars l true).toArray
  match pieces.getLast? with
  | some last => if last.all isIndent then finished else finished.push (ofChars last false)
  | none => finished

/-- The index of the first character after the indentation. -/
def first (l : Line) : Nat := l.base + l.shift

/-- Is nothing left after the indentation? -/
def isEmpty (l : Line) : Bool := l.chars.size ≤ l.first

/-- What is left from the character at `index` on. -/
def textFrom (l : Line) (index : Nat) : List Char := l.chars.toList.drop index

/-- What is left after the indentation. -/
def text (l : Line) : List Char := l.textFrom l.first

/-- Drops characters until `target` columns are passed; the first `shift` characters count as indentation whatever they
are. A tab that reaches further leaves the columns that are too many as spaces. -/
def dropColumns (offset target : Int) (shift : Nat) (width : Int) : List Char → List Char
  | [] => List.replicate (width - target).toNat ' '
  | c :: rest =>
    if width < target then
      if c == '\t' then dropColumns offset target (shift - 1) (width + tabWidth (width + offset)) rest
      else if c == ' ' || 0 < shift then dropColumns offset target (shift - 1) (width + 1) rest
      else c :: rest
    else List.replicate (width - target).toNat ' ' ++ c :: rest

/-- The content of a line from inside its containers, less an indentation of up to `indent` columns. -/
def content (l : Line) (indent : Int) : List Char :=
  dropColumns l.offset indent l.shift 0 (l.textFrom l.base)

/-- The content with its line break. -/
def contentWithBreak (l : Line) (indent : Int) : List Char :=
  l.content indent ++ if l.hasBreak then ['\n'] else []

/-- The line from inside the block quote whose marker it starts with. One column of white space after the marker belongs
to the marker. -/
def insideQuote (l : Line) : Line :=
  let start := l.indent + 1
  let marked := l.first + 1
  match l.textFrom marked with
  | ' ' :: rest =>
    let (shift, column) := indentWidth l.offset (start + 1) rest
    { l with base := marked + 1, shift := shift, indent := column - (start + 1), offset := l.indent + 2 }
  | '\t' :: rest =>
    if (l.offset + start) % 4 = 3 then
      let (shift, column) := indentWidth l.offset (start + 1) rest
      { l with base := marked + 1, shift := shift, indent := column - (start + 1), offset := l.indent + 2 }
    else
      let (shift, column) := indentWidth (l.offset + 1) start ('\t' :: rest)
      { l with base := marked, shift := shift, indent := column - start, offset := l.indent + 2 }
  | rest =>
    let (shift, column) := indentWidth l.offset start rest
    { l with base := marked, shift := shift, indent := column - start, offset := l.indent + 1 }

end Line
end MarkLint.Markdown

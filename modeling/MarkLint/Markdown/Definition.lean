import MarkLint.Markdown.Address
import MarkLint.Markdown.LinkPart
import MarkLint.Markdown.Region

/-!
# Link definitions

A definition `[label]: destination "title"` gives a name to an address. It may go on over several lines, which are taken
up one by one as they are needed.
-/

namespace MarkLint.Markdown

/-- The text of a definition so far, and the line after it. -/
structure Draft where
  text : Array Char
  next : Nat

namespace Draft

/-- Can the definition go on with the line at `i`? -/
def canContinue (r : Region) (i : Nat) : Bool :=
  i < r.limit && !(r.line i).isEmpty
    && (r.isCode i || (r.line i).indent < 0 || !r.interruptsParagraph i r.limit true)

/-- A line with its line break. -/
def lineText (l : Line) : Array Char := (l.text ++ if l.hasBreak then ['\n'] else []).toArray

/-- The draft with one more line, if it can go on. -/
def extend? (d : Draft) (r : Region) : Option Draft :=
  if canContinue r d.next then some ⟨d.text ++ lineText (r.line d.next), d.next + 1⟩ else none

/-- The draft with one more line if it can go on. -/
def extend (d : Draft) (r : Region) : Draft := (d.extend? r).getD d

/-- A bound on the number of characters that the definition can take up. -/
def bound (r : Region) : Nat := r.lines.foldl (fun n l => n + l.chars.size + 1) 1

/-- Looks for the end of the label from `pos` on, taking up lines. -/
def findLabelEnd (r : Region) : (fuel : Nat) → (pos : Nat) → Draft → Option (Nat × Draft)
  | 0, _, _ => none
  | fuel + 1, pos, d =>
    match d.text[pos]? with
    | none => none
    | some c =>
      if c == '[' then none
      else if c == ']' then some (pos, d)
      else if c == '\n' then findLabelEnd r fuel (pos + 1) (d.extend r)
      else if c == '\\' then
        findLabelEnd r fuel (pos + 2) (if d.text[pos + 1]? == some '\n' then d.extend r else d)
      else findLabelEnd r fuel (pos + 1) d

/-- Skips white space from `pos` on, taking up lines. -/
def skipSpaces (r : Region) : (fuel : Nat) → (pos : Nat) → Draft → Nat × Draft
  | 0, pos, d => (pos, d)
  | fuel + 1, pos, d =>
    match d.text[pos]? with
    | none => (pos, d)
    | some c =>
      if c == '\n' then skipSpaces r fuel (pos + 1) (d.extend r)
      else if Text.isIndent c then skipSpaces r fuel (pos + 1) d
      else (pos, d)

/-- Goes on reading a title, taking up lines while it is unfinished. -/
def finishTitle (r : Region) : (fuel : Nat) → Title → (pos : Nat) → Draft → Title × Nat × Draft
  | 0, title, pos, d => (title, pos, d)
  | fuel + 1, title, pos, d =>
    match title with
    | .unfinished mark hasText =>
      match d.extend? r with
      | none => (title, pos, d)
      | some more =>
        finishTitle r fuel (Title.resume more.text d.text.size more.text.size mark hasText) d.text.size more
    | _ => (title, pos, d)

/-- The index after the spaces and tabs from `pos` on. -/
def skipIndent (text : Array Char) (pos : Nat) : Nat :=
  pos + ((text.toList.drop pos).takeWhile Text.isIndent).length

/-- Does the text end at `pos`, or at least the line? -/
def endsLine (text : Array Char) (pos : Nat) : Bool :=
  match text[pos]? with
  | none => true
  | some c => c == '\n'

end Draft

/-- A link definition: its label, its address, and the line after it. -/
structure Definition where
  label : String
  address : List Char
  next : Nat

/-- The line after a definition whose destination ends at `stop`, if nothing else stands on its last line. A title
that is followed by something else is no title. -/
def Definition.end? (r : Region) (d : Draft) (stop : Nat) : Option Nat :=
  let fuel := Draft.bound r
  let (start, more) := Draft.skipSpaces r fuel stop d
  let (title, pos, more) := more.finishTitle r fuel (Title.read more.text start more.text.size) start
  let text := more.text
  let withoutTitle : Option Nat :=
    if Draft.endsLine text (Draft.skipIndent text stop) then some d.next else none
  match title with
  | .finished after hasText =>
    if pos < text.size ∧ stop ≠ pos then
      if Draft.endsLine text (Draft.skipIndent text after) then some more.next
      else if hasText then withoutTitle else none
    else withoutTitle
  | _ => withoutTitle

/-- Reads the link definition that starts at a line. -/
def Definition.read? (r : Region) (i : Nat) : Option Definition :=
  if r.isCode i || (r.line i).text.head? != some '[' then none
  else do
    let fuel := Draft.bound r
    let (labelEnd, d) ← Draft.findLabelEnd r fuel 1 ⟨Draft.lineText (r.line i), i + 1⟩
    if d.text[labelEnd + 1]? != some ':' then none
    else
      let (pos, d) := Draft.skipSpaces r fuel (labelEnd + 2) d
      let destination ← Destination.read? d.text pos d.text.size
      let address := Address.normalize destination.text
      let next ← Definition.end? r d destination.stop
      let label := normalizeLabel (d.text.extract 1 labelEnd).toList
      if Address.isSafe address && label != "" then some ⟨label, address, next⟩ else none

end MarkLint.Markdown

import MarkLint.Markdown.Definition
import MarkLint.Markdown.Element

/-!
# Block structure

Reads the lines of a region into block elements. Quotes and list items are read as regions of their own, up to a depth
of `maxNesting` enclosing blocks. The text of paragraphs, headings and table cells is kept as it is in `inline`
elements.
-/

namespace MarkLint.Markdown

open MarkLint.Text

/-- How many blocks may enclose another. -/
def maxNesting : Nat := 20

/-- Blocks that were read: their elements, the line after them, and the definitions known then. -/
structure Blocks where
  elements : List Element
  next : Nat
  references : References

/-- A reader for the blocks of a region from a line up to another. -/
abbrev BlockReader := Region → (start stop : Nat) → References → Blocks

/-- The span of lines of a block. -/
def span (start stop : Nat) : Option (Int × Int) := some (start, stop)

/-- Text that is still to be read for its inline structure. -/
def inlineText (content : List Char) : Element := { kind := "inline", content := String.ofList content }

namespace Region

/-! ## Blocks without inner blocks -/

/-- The line after an indented code block; `last` is the line after the last one that belongs to it so far. -/
def codeEnd (r : Region) (stop : Nat) : (fuel : Nat) → (last i : Nat) → Nat
  | 0, last, _ => last
  | fuel + 1, last, i =>
    if stop ≤ i then last
    else if (r.line i).isEmpty then r.codeEnd stop fuel last (i + 1)
    else if r.isCode i then r.codeEnd stop fuel (i + 1) (i + 1)
    else last

/-- Reads an indented code block. -/
def readCode? (r : Region) (i stop : Nat) : Option (Element × Nat) :=
  if r.isCode i then
    let last := r.codeEnd stop (stop - i) (i + 1) (i + 1)
    some ({ kind := "code_block", tag := "code", lines := span i last,
            content := String.ofList (r.contents i last (r.indent + 4) ++ ['\n']) }, last)
  else none

/-- The line at which a fenced code block stops from `i` on, and whether the fence is closed there. -/
def fenceEnd (r : Region) (f : Fence) (stop : Nat) : (fuel : Nat) → (i : Nat) → Nat × Bool
  | 0, i => (i, false)
  | fuel + 1, i =>
    if stop ≤ i then (i, false)
    else
      let l := r.line i
      if l.isEmpty then if l.hasBreak then r.fenceEnd f stop fuel (i + 1) else (i, false)
      else if r.isOutdented i then (i, false)
      else if !r.isCode i && f.closedBy l.text then (i, true)
      else r.fenceEnd f stop fuel (i + 1)

/-- Reads a fenced code block. -/
def readFence? (r : Region) (i stop : Nat) : Option (Element × Nat) :=
  if r.isCode i then none
  else (Fence.read? (r.line i).text).map fun f =>
    let (last, isClosed) := r.fenceEnd f stop (stop - i) (i + 1)
    let next := if isClosed then last + 1 else last
    ({ kind := "fence", tag := "code", lines := span i next, info := String.ofList f.info,
       markup := String.ofList (List.replicate f.length f.char),
       content := String.ofList (r.contentsWithBreaks (i + 1) last (r.line i).indent) }, next)

/-- Reads a thematic break. -/
def readBreak? (r : Region) (i : Nat) : Option (Element × Nat) :=
  if r.isBreak i then some ({ kind := "hr", tag := "hr", lines := span i (i + 1) }, i + 1) else none

/-- The line after an HTML block that has not ended before line `i`. -/
def htmlEnd (r : Region) (kind : Tag.BlockKind) (stop : Nat) : (fuel : Nat) → (i : Nat) → Nat
  | 0, i => i
  | fuel + 1, i =>
    if stop ≤ i || r.isOutdented i then i
    else
      let text := (r.line i).text
      if kind.endsWith text then if text.isEmpty then i else i + 1
      else r.htmlEnd kind stop fuel (i + 1)

/-- Reads an HTML block. -/
def readHtml? (r : Region) (i stop : Nat) : Option (Element × Nat) :=
  (r.htmlBlock? i).map fun kind =>
    let next := if kind.endsWith (r.line i).text then i + 1 else r.htmlEnd kind stop (stop - i) (i + 1)
    ({ kind := "html_block", lines := span i next,
       content := String.ofList (r.contentsWithBreaks i next r.indent) }, next)

/-- The text of a heading after its opening marks, without the closing ones. -/
def headingText (text : List Char) : List Char :=
  let backwards := text.reverse.dropWhile isIndent
  let unmarked := backwards.dropWhile (· == '#')
  trim ((if unmarked.head?.any isIndent then unmarked else backwards).reverse)

/-- A heading element. -/
def heading (level start stop : Nat) (content : List Char) : Element :=
  { kind := "heading", tag := "h" ++ toString level, lines := span start stop, children := [inlineText content] }

/-- Reads a heading with hash marks. -/
def readHeading? (r : Region) (i : Nat) : Option (Element × Nat) :=
  if r.isCode i then none
  else (headingLevel? (r.line i).text).map fun level =>
    (heading level i (i + 1) (headingText ((r.line i).text.drop level)), i + 1)

/-- The level of the heading that the line underlines. -/
def underline? (r : Region) (i : Nat) : Option Nat :=
  if r.isOutdented i then none
  else match (r.line i).text with
    | c :: rest =>
      if (c == '-' || c == '=') && (rest.dropWhile (· == c)).all isIndent then some (if c == '=' then 1 else 2)
      else none
    | [] => none

/-- Looks for the underline of a heading whose text reaches up to line `i`. -/
def findUnderline (r : Region) (stop : Nat) : (fuel : Nat) → (i : Nat) → Option (Nat × Nat)
  | 0, _ => none
  | fuel + 1, i =>
    if stop ≤ i || (r.line i).isEmpty then none
    else if r.isCode i then r.findUnderline stop fuel (i + 1)
    else match r.underline? i with
      | some level => some (level, i)
      | none =>
        if (r.line i).indent < 0 || !r.interruptsParagraph i stop false then r.findUnderline stop fuel (i + 1)
        else none

/-- Reads an underlined heading. -/
def readUnderlined? (r : Region) (i stop : Nat) : Option (Element × Nat) :=
  (r.findUnderline stop (stop - i) (i + 1)).map fun (level, last) =>
    (heading level i (last + 1) (trim (r.contents i last r.indent)), last + 1)

/-- The line after a paragraph that reaches up to line `i`. -/
def paragraphEnd (r : Region) : (fuel : Nat) → (i : Nat) → Nat
  | 0, i => i
  | fuel + 1, i =>
    if r.limit ≤ i || (r.line i).isEmpty then i
    else if r.isCode i || (r.line i).indent < 0 || !r.interruptsParagraph i r.limit false then
      r.paragraphEnd fuel (i + 1)
    else i

/-- Reads a paragraph. -/
def readParagraph (r : Region) (i : Nat) : Element × Nat :=
  let next := r.paragraphEnd (r.limit - i) (i + 1)
  ({ kind := "paragraph", tag := "p", lines := span i next,
     children := [inlineText (trim (r.contents i next r.indent))] }, next)

/-! ## Tables -/

/-- The most cells that may be missing from the rows of a table. -/
def maxMissingCells : Int := 65536

/-- A table cell. -/
def cell (kind : String) (content : List Char) : Element :=
  { kind := kind, tag := kind, children := [inlineText (trim content)] }

/-- A table row on the line `i`. -/
def row (kind : String) (i : Nat) (cells : List (List Char)) : Element :=
  { kind := "tr", tag := "tr", lines := span i (i + 1), children := cells.map (cell kind) }

/-- Reads the rows of a table with the given number of columns. -/
def readRows (r : Region) (columns stop : Nat) : (fuel : Nat) → (missing : Int) → (i : Nat) → List Element × Nat
  | 0, _, i => ([], i)
  | fuel + 1, missing, i =>
    if stop ≤ i || r.isOutdented i || r.interruptsQuote i then ([], i)
    else
      let text := trim (r.line i).text
      let cells := rowCells text
      let missing := missing + columns - cells.length
      if text.isEmpty || r.isCode i || maxMissingCells < missing then ([], i)
      else
        let padded := cells.take columns ++ List.replicate (columns - cells.length) []
        let (rows, next) := r.readRows columns stop fuel missing (i + 1)
        (row "td" i padded :: rows, next)

/-- Reads a table. -/
def readTable? (r : Region) (i stop : Nat) : Option (Element × Nat) :=
  (r.tableHeader? i stop).map fun header =>
    let (rows, next) := r.readRows header.length stop (stop - i) 0 (i + 2)
    let head : Element := { kind := "thead", tag := "thead", lines := span i (i + 1), children := [row "th" i header] }
    let body : List Element :=
      if rows.isEmpty then [] else [{ kind := "tbody", tag := "tbody", lines := span (i + 2) next, children := rows }]
    ({ kind := "table", tag := "table", lines := span i next, children := head :: body }, next)

/-! ## Block quotes -/

/-- The lines of a block quote: their views from inside, the line after them, and whether another block cuts the quote
off. `lastEmpty` says that nothing follows the marker of the line before. -/
def quoteLines (r : Region) (stop : Nat) : (fuel : Nat) → (lastEmpty : Bool) → (i : Nat) → List Line × Nat × Bool
  | 0, _, i => ([], i, false)
  | fuel + 1, lastEmpty, i =>
    let l := r.line i
    if stop ≤ i || l.isEmpty then ([], i, false)
    else if l.text.head? == some '>' && !r.isOutdented i then
      let inner := l.insideQuote
      let (rest, next, isCut) := r.quoteLines stop fuel inner.isEmpty (i + 1)
      (inner :: rest, next, isCut)
    else if lastEmpty then ([], i, false)
    else if r.interruptsQuote i then ([], i, true)
    else
      let (rest, next, isCut) := r.quoteLines stop fuel lastEmpty (i + 1)
      ({ l with indent := -1 } :: rest, next, isCut)

/-- Puts lines in the place of those from `i` on. -/
def replaceLines (lines : Array Line) (i : Nat) : List Line → Array Line
  | [] => lines
  | l :: rest => replaceLines (lines.setIfInBounds i l) (i + 1) rest

/-- The region inside the block quote that starts at line `i`, and the line after it. Where another block cuts the quote
off, its last paragraph ends too, and that line is seen as if it stood at the margin. -/
def insideQuote (r : Region) (i stop : Nat) : Region × Nat :=
  let first := (r.line i).insideQuote
  let (rest, next, isCut) := r.quoteLines stop (stop - i) first.isEmpty (i + 1)
  let lines := replaceLines r.lines i (first :: rest)
  let lines :=
    if isCut then
      let l := r.line next
      lines.setIfInBounds next { l with indent := l.indent - r.indent }
    else lines
  ({ r with lines := lines, indent := 0, limit := if isCut then next else r.limit }, next)

/-- Reads a block quote. -/
def readQuote? (r : Region) (inner : BlockReader) (i stop : Nat) (refs : References) : Option Blocks :=
  if r.opensQuote i then
    let (region, next) := r.insideQuote i stop
    let blocks := inner region i next refs
    some ⟨[{ kind := "blockquote", tag := "blockquote", lines := span i blocks.next, markup := ">",
             children := blocks.elements }], blocks.next, blocks.references⟩
  else none

/-! ## Lists -/

/-- The region inside the list item with the given marker at line `i`, and whether nothing follows the marker there.
Content more than four columns away is indented code, one column after the marker. -/
def insideItem (r : Region) (m : ListMarker) (i : Nat) : Region × Bool :=
  let l := r.line i
  let start := l.indent + m.width
  let after := l.first + m.width
  let (shift, column) := indentWidth l.offset start (l.textFrom after)
  let isEmpty : Bool := l.chars.size ≤ after + shift
  let gap := if isEmpty || 4 < column - start then 1 else column - start
  ({ r with
      lines := r.lines.setIfInBounds i { l with shift := after + shift - l.base, indent := column }
      indent := start + gap
      listIndent := some r.indent }, isEmpty)

/-- The marker with which the list goes on at line `i`, if it does. -/
def nextMarker? (r : Region) (m : ListMarker) (i stop : Nat) : Option ListMarker :=
  if stop ≤ i || r.isOutdented i || r.isCode i || r.interruptsList i then none
  else (ListMarker.read? (r.line i).text).bind fun n =>
    if n.char = m.char ∧ n.isOrdered = m.isOrdered then some n else none

/-- Reads the items of a list, the first of which has the marker `m` at line `i`. An item that starts with two empty
lines has no content. -/
def readItems (r : Region) (inner : BlockReader) (stop : Nat) :
    (fuel : Nat) → ListMarker → (i : Nat) → References → Blocks
  | 0, _, i, refs => ⟨[], i, refs⟩
  | fuel + 1, m, i, refs =>
    let (region, isEmpty) := r.insideItem m i
    let blocks :=
      if isEmpty && (r.line (i + 1)).isEmpty then ⟨[], min (i + 2) stop, refs⟩ else inner region i stop refs
    let item : Element :=
      { kind := "list_item", tag := "li", lines := span i blocks.next, info := String.ofList m.digits,
        markup := String.ofList [m.char], children := blocks.elements }
    match r.nextMarker? m blocks.next stop with
    | none => ⟨[item], blocks.next, blocks.references⟩
    | some n =>
      let more := r.readItems inner stop fuel n blocks.next blocks.references
      ⟨item :: more.elements, more.next, more.references⟩

/-- Reads a list. -/
def readList? (r : Region) (inner : BlockReader) (i stop : Nat) (refs : References) : Option Blocks :=
  (r.listMarker? i).map fun m =>
    let items := r.readItems inner stop (stop - i) m i refs
    ⟨[{ kind := if m.isOrdered then "ordered_list" else "bullet_list", tag := if m.isOrdered then "ol" else "ul",
        lines := span i items.next, markup := String.ofList [m.char], children := items.elements }],
      items.next, items.references⟩

/-! ## Any block -/

/-- A single element as blocks. -/
def single (refs : References) (e : Element × Nat) : Blocks := ⟨[e.1], e.2, refs⟩

/-- Reads a link definition, which yields no element. -/
def readDefinition? (r : Region) (i : Nat) (refs : References) : Option Blocks :=
  (Definition.read? r i).map fun d =>
    ⟨[], d.next, if (refs.lookup d.label).isSome then refs else refs ++ [(d.label, d.address)]⟩

/-- Reads the block at line `i`; quotes and list items are read by `quote` and `item`. -/
def readBlock (r : Region) (quote item : BlockReader) (i stop : Nat) (refs : References) : Blocks :=
  ((r.readTable? i stop).map (single refs)
    <|> (r.readCode? i stop).map (single refs)
    <|> (r.readFence? i stop).map (single refs)
    <|> r.readQuote? quote i stop refs
    <|> (r.readBreak? i).map (single refs)
    <|> r.readList? item i stop refs
    <|> r.readDefinition? i refs
    <|> (r.readHtml? i stop).map (single refs)
    <|> (r.readHeading? i).map (single refs)
    <|> (r.readUnderlined? i stop).map (single refs)).getD (single refs (r.readParagraph i))

/-- Reads blocks from line `i` on. Nothing is read inside too many enclosing blocks (`isFull`). -/
def readFrom (r : Region) (isFull : Bool) (quote item : BlockReader) (stop : Nat) :
    (fuel : Nat) → (i : Nat) → References → Blocks
  | 0, i, refs => ⟨[], i, refs⟩
  | fuel + 1, i, refs =>
    if stop ≤ i then ⟨[], i, refs⟩
    else
      let i := r.skipEmpty (r.limit - i) i
      if stop ≤ i || r.isOutdented i then ⟨[], i, refs⟩
      else if isFull then ⟨[], stop, refs⟩
      else
        let blocks := r.readBlock quote item i stop refs
        let next := if blocks.next < stop ∧ (r.line blocks.next).isEmpty then blocks.next + 1 else blocks.next
        let more := r.readFrom isFull quote item stop fuel next blocks.references
        ⟨blocks.elements ++ more.elements, more.next, more.references⟩

end Region

/-- The reader of blocks that may be nested `room` deep. A quote takes one level, a list item two. -/
def readBlocks : (room : Nat) → BlockReader
  | 0, r, start, stop, refs => r.readFrom true (fun _ i _ s => ⟨[], i, s⟩) (fun _ i _ s => ⟨[], i, s⟩) stop 1 start refs
  | 1, r, start, stop, refs => r.readFrom false (readBlocks 0) (readBlocks 0) stop (stop - start) start refs
  | room + 2, r, start, stop, refs =>
    r.readFrom false (readBlocks (room + 1)) (readBlocks room) stop (stop - start) start refs

/-- The block elements of a text, and the definitions in it. -/
def blockElements (text : List Char) : List Element × References :=
  let lines := Line.ofText text
  let blocks := readBlocks maxNesting { lines := lines, limit := lines.size } 0 lines.size []
  (blocks.elements, blocks.references)

end MarkLint.Markdown

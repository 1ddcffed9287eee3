import MarkLint.Document.Columns
import MarkLint.Markdown.Element
import MarkLint.Node
import MarkLint.Text.Numeral

/-!
# From Markdown elements to a document tree

`Document.buildTree` gives the elements of a Markdown text their places in the source. Every block ends at the end of
its last line that is not blank. Inline elements get no place, and neither does a block without lines, or with lines
outside the source; what is below such a block stays without a place too. The elements `inline`, `thead` and `tbody`
are transparent: their children belong to the enclosing block.
-/

namespace MarkLint.Document

open MarkLint.Markdown
open MarkLint.Text

/-- Why elements make no document. -/
inductive TreeError where
  | headingTag (tag : String)
  | unknownInline (kind : String)
  | outOfRange (e : OutOfRange)
  | noSuchLine (index : Nat)
  deriving Repr, DecidableEq

/-- A source text with the index of its lines. -/
structure Sheet where
  location : Location
  lines : List (List Char)

namespace Sheet

/-- The sheet of a text. -/
def ofText (source : List Char) : Sheet := ⟨Location.ofText source, Text.lines source⟩

/-- A line by its index. -/
def line (s : Sheet) (index : Nat) : Except TreeError (List Char) :=
  match s.lines[index]? with
  | some text => .ok text
  | none => .error (.noSuchLine index)

/-- The point at a line and a column, both counted from 0. -/
def point (s : Sheet) (index column : Nat) : Except TreeError Point :=
  match s.location.toOffset (index + 1) (column + 1) with
  | .ok offset => .ok ⟨index + 1, column + 1, offset⟩
  | .error e => .error (.outOfRange e)

/-- The point at an offset. -/
def pointAt (s : Sheet) (offset : Nat) : Except TreeError Point :=
  match s.location.toPoint offset with
  | .ok p => .ok p
  | .error e => .error (.outOfRange e)

/-- The span between two points that are given by line and column. -/
def span (s : Sheet) (first column last stop : Nat) : Except TreeError Position := do
  let start ← s.point first column
  let stop ← s.point last stop
  return ⟨some start, some stop⟩

end Sheet

/-- The kinds of the nodes that blocks become; other blocks keep their kind. -/
def blockKinds : List (String × String) :=
  [("paragraph", "paragraph"), ("heading", "heading"), ("blockquote", "blockquote"), ("bullet_list", "list"),
    ("ordered_list", "list"), ("list_item", "listItem"), ("fence", "code"), ("code_block", "code"),
    ("html_block", "html"), ("hr", "thematicBreak"), ("table", "table"), ("tr", "tableRow"), ("th", "tableCell"),
    ("td", "tableCell")]

/-- The kinds of the nodes that inline elements become. -/
def inlineKinds : List (String × String) :=
  [("text", "text"), ("softbreak", "text"), ("hardbreak", "break"), ("code_inline", "inlineCode"),
    ("html_inline", "html"), ("em", "emphasis"), ("strong", "strong"), ("s", "delete"), ("link", "link"),
    ("image", "image")]

/-- The kind of the node that a block becomes. -/
def blockKind (kind : String) : String := (blockKinds.lookup kind).getD kind

/-- Does an element stand for its children only? -/
def isTransparent (kind : String) : Bool := kind == "inline" || kind == "thead" || kind == "tbody"

/-- The value of an inline element. -/
def inlineValue (e : Element) : Option String :=
  if e.kind = "text" ∨ e.kind = "code_inline" ∨ e.kind = "html_inline" then some e.content
  else if e.kind = "softbreak" then some "\n"
  else none

/-- The address of an inline element: what a link leads to, or where an image lies. -/
def inlineUrl (e : Element) : Option String :=
  if e.kind = "link" then some (e.href.getD "")
  else if e.kind = "image" then some (e.src.getD "")
  else none

mutual

/-- The node of an inline element. An image has its raw label for its text and no children. -/
def inlineNode : Element → Except TreeError Node
  | ⟨kind, tag, lines, content, info, markup, href, src, children⟩ =>
    match inlineKinds.lookup kind with
    | none => .error (.unknownInline kind)
    | some k =>
      let e : Element := ⟨kind, tag, lines, content, info, markup, href, src, []⟩
      let node : Node := { kind := k, value := inlineValue e, url := inlineUrl e }
      if kind = "image" then .ok { node with alt := some content }
      else match inlineNodes children with
        | .ok inner => .ok { node with children := inner }
        | .error e => .error e

/-- The nodes of inline elements. -/
def inlineNodes : List Element → Except TreeError (List Node)
  | [] => .ok []
  | e :: rest => do
    let node ← inlineNode e
    let nodes ← inlineNodes rest
    return node :: nodes

end

mutual

/-- The nodes of elements below a block without a place: they keep only their kinds. -/
def bareNodes : List Element → Except TreeError (List Node)
  | [] => .ok []
  | e :: rest => do
    let nodes ← bareNode e
    let more ← bareNodes rest
    return nodes ++ more

/-- The nodes of one such element. -/
def bareNode : Element → Except TreeError (List Node)
  | ⟨kind, tag, lines, content, info, markup, href, src, children⟩ =>
    if isTransparent kind then bareNodes children
    else if (inlineKinds.lookup kind).isSome then do
      let node ← inlineNode ⟨kind, tag, lines, content, info, markup, href, src, children⟩
      return [node]
    else do
      let inner ← bareNodes children
      return [{ kind := blockKind kind, children := inner }]

end

/-- The language and the rest of a fence's info text. -/
def fenceInfo (info : String) : Option String × Option String :=
  let words := trim info.toList
  let lang := words.takeWhile (· ≠ ' ')
  let more := trim (words.drop (lang.length + 1))
  (if lang = [] then none else some (String.ofList lang), if more = [] then none else some (String.ofList more))

/-- A block's node without place and children. -/
def blockData (e : Element) : Except TreeError Node :=
  let node : Node := { kind := blockKind e.kind }
  if e.kind = "heading" then
    match readInt? (e.tag.toList.drop 1) with
    | some depth => .ok { node with depth := some depth }
    | none => .error (.headingTag e.tag)
  else if e.kind = "fence" then
    let (lang, info) := fenceInfo e.info
    .ok { node with lang := lang, info := info, value := some (String.ofList (dropFinalBreak e.content.toList)) }
  else if e.kind = "code_block" ∨ e.kind = "html_block" then
    .ok { node with value := some (String.ofList (dropFinalBreak e.content.toList)) }
  else if e.kind = "bullet_list" ∨ e.kind = "ordered_list" then
    .ok { node with ordered := some (e.kind = "ordered_list") }
  else .ok node

/-- The lines of a block, from the first to the last that is not blank, if they lie in the source. -/
def blockLines (s : Sheet) (lines : Option (Int × Int)) : Option (Nat × Nat) :=
  match lines with
  | none => none
  | some (first, stop) =>
    if 0 ≤ first ∧ first < s.lines.length ∧ stop ≤ s.lines.length then
      some (first.toNat, lastFilled s.lines first.toNat (max first (stop - 1)).toNat)
    else none

/-- The column at which a block starts on its first line. Indented code keeps its indentation inside. -/
def startColumn (text : List Char) (line : Nat) (containers : List Container) (kind : String) : Nat :=
  let column := Container.skipAll text line containers
  if kind = "code_block" then column else skipIndent text column

/-- The place of a block. -/
def blockPosition (s : Sheet) (containers : List Container) (kind : String) (lines : Option (Int × Int)) :
    Except TreeError (Option Position) :=
  match blockLines s lines with
  | none => .ok none
  | some (first, last) => do
    let firstLine ← s.line first
    let lastLine ← s.line last
    let column := startColumn firstLine first containers kind
    let stop := (trimEnd lastLine).length
    let stop := if last = first then max stop column else stop
    let position ← s.span first column last stop
    return some position

/-- The container that a block's node makes for what is inside it. -/
def innerContainer (s : Sheet) (kind markup info : String) (position : Position) :
    Except TreeError (List Container) :=
  if kind = "blockquote" then .ok [.quote]
  else if kind = "listItem" then
    match position.start with
    | none => .ok []
    | some start => do
      let line := (start.line - 1).toNat
      let text ← s.line line
      return [.ofMarker text line (start.column - 1).toNat (markup.length + info.length)]
  else .ok []

/-- A checkbox with the white space after it at the start of a text: is it set, and how many characters does it take? -/
def checkbox? : List Char → Option (Bool × Nat)
  | '[' :: c :: ']' :: d :: _ =>
    if (isIndent c || c == 'x' || c == 'X') && isIndent d then some (c == 'x' || c == 'X', 4) else none
  | _ => none

/-- The text of a paragraph's first node without a checkbox at its start. -/
def dropCheckbox (children : List Node) : List Node :=
  match children with
  | first :: rest =>
    if first.kind = "text" then
      let text := (first.value.getD "").toList
      match checkbox? text with
      | some (_, width) => { first with value := some (String.ofList (text.drop width)) } :: rest
      | none => children
    else children
  | [] => []

/-- A span that starts at `start`, and no earlier stops. -/
def Position.startingAt (start : Point) (stop : Option Point) : Position :=
  ⟨some start, if stop.any fun p => p.offset < start.offset then some start else stop⟩

/-- Reads the checkbox of a list item: the item is marked, and its paragraph starts after the checkbox and the character
of white space that has to follow it. -/
def markTask (s : Sheet) (item : Node) : Except TreeError Node :=
  match item.children with
  | paragraph :: rest =>
    if paragraph.kind = "paragraph" then
      match paragraph.position with
      | some ⟨some start, stop⟩ => do
        let line := (start.line - 1).toNat
        let column := (start.column - 1).toNat
        let text ← s.line line
        match checkbox? (text.drop column) with
        | none => return item
        | some (checked, width) =>
          let newStart ← s.point line (column + width)
          let paragraph := { paragraph with
            position := some (Position.startingAt newStart stop), children := dropCheckbox paragraph.children }
          return { item with checked := some checked, children := paragraph :: rest }
      | _ => return item
    else return item
  | [] => return item

mutual

/-- The nodes of elements inside the given containers. -/
def placedNodes (s : Sheet) (containers : List Container) : List Element → Except TreeError (List Node)
  | [] => .ok []
  | e :: rest => do
    let nodes ← placedNode s containers e
    let more ← placedNodes s containers rest
    return nodes ++ more

/-- The nodes of one element inside the given containers. -/
def placedNode (s : Sheet) (containers : List Container) : Element → Except TreeError (List Node)
  | ⟨kind, tag, lines, content, info, markup, href, src, children⟩ =>
    if isTransparent kind then placedNodes s containers children
    else if (inlineKinds.lookup kind).isSome then do
      let node ← inlineNode ⟨kind, tag, lines, content, info, markup, href, src, children⟩
      return [node]
    else do
      let node ← blockData ⟨kind, tag, lines, content, info, markup, href, src, []⟩
      match ← blockPosition s containers kind lines with
      | none =>
        let inner ← bareNodes children
        return [{ node with children := inner }]
      | some position =>
        let added ← innerContainer s node.kind markup info position
        let inner ← placedNodes s (containers ++ added) children
        let node := { node with position := some position, children := inner }
        if node.kind = "listItem" then
          let item ← markTask s node
          return [item]
        else return [node]

end

/-- The node of a front matter of `count` lines. -/
def frontMatterNode (s : Sheet) (count : Nat) : Except TreeError Node := do
  let last := count - 1
  let text ← s.line last
  let position ← s.span 0 0 last (trimEnd text).length
  return { kind := "yaml", value := some (String.ofList (unlines ((s.lines.take last).drop 1))),
           position := some position }

/-- The document tree of a source, given its elements and the number of lines of its front matter. -/
def buildTree (source : List Char) (elements : List Element) (frontMatter : Nat) : Except TreeError Node := do
  let s := Sheet.ofText source
  let start ← s.pointAt 0
  let stop ← s.pointAt source.length
  let header ← if frontMatter = 0 then pure [] else (frontMatterNode s frontMatter).map ([·])
  let children ← placedNodes s [] elements
  return { kind := "root", children := header ++ children, position := some ⟨some start, some stop⟩ }

end MarkLint.Document

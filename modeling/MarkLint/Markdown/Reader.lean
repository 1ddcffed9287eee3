import MarkLint.Markdown.Block
import MarkLint.Markdown.Inline

/-!
# Reading Markdown

`Markdown.elements` reads a text: first its blocks and link definitions, then the inline structure of each block, in
which links may refer to any definition. All line breaks are read as line feeds, and a NUL character as the replacement
character.
-/

namespace MarkLint.Markdown

open MarkLint.Text

/-- The text that is read: with line feeds only, and without NUL characters. -/
def normalize (source : List Char) : List Char :=
  (normalizeBreaks source).map fun c => if c.toNat = 0 then Char.ofNat 0xFFFD else c

mutual

/-- The element with its inline text read. -/
def readInline (refs : References) : Element → Element
  | ⟨kind, tag, lines, content, info, markup, href, src, children⟩ =>
    ⟨kind, tag, lines, content, info, markup, href, src,
      if kind = "inline" then inlineElements refs content else readInlines refs children⟩

/-- The elements with their inline text read. -/
def readInlines (refs : References) : List Element → List Element
  | [] => []
  | e :: rest => readInline refs e :: readInlines refs rest

end

/-- The elements of a Markdown text. -/
def elements (source : List Char) : List Element :=
  let (blocks, refs) := blockElements (normalize source)
  readInlines refs blocks

end MarkLint.Markdown

import MarkLint.Markdown.Emphasis
import MarkLint.Markdown.InlineToken

/-!
# Inline structure

Reads the text of a block into inline elements: tokens and emphasis marks from left to right, the text of a link as a
level of its own.
-/

namespace MarkLint.Markdown

open MarkLint.Text

/-- The level being read: its pieces and marks, and plain characters that are not yet a piece. -/
structure Level where
  pieces : Array Piece := #[]
  marks : Array Mark := #[]
  pending : Array Char := #[]
  memo : Memo := {}

namespace Level

/-- Makes a piece of the pending characters. -/
def flush (l : Level) : Level :=
  if l.pending.isEmpty then l
  else { l with pieces := l.pieces.push (.text l.pending.toList), pending := #[] }

/-- Adds a piece. -/
def push (l : Level) (p : Piece) : Level :=
  let l := l.flush
  { l with pieces := l.pieces.push p }

/-- Adds plain characters. -/
def append (l : Level) (s : List Char) : Level := { l with pending := l.pending ++ s.toArray }

/-- Adds an element without content. -/
def pushEmpty (l : Level) (kind : String) : Level := l.push (.element { kind := kind, tag := "br" })

/-- The pending characters without the spaces at their end. -/
def trimPending (l : Level) : Level :=
  { l with pending := (l.pending.toList.reverse.dropWhile (· == ' ')).reverse.toArray }

/-- Adds a line break, which is a hard one after two spaces. -/
def breakLine (l : Level) : Level :=
  let spaces := (l.pending.toList.reverse.takeWhile (· == ' ')).length
  l.trimPending.pushEmpty (if 2 ≤ spaces then "hardbreak" else "softbreak")

/-- Adds a mark with its text. -/
def pushMark (l : Level) (s : List Char) (char : Char) (length : Nat) (flanks : Bool × Bool) : Level :=
  let l := l.push (.text s)
  let mark : Mark :=
    { char := char, length := length, piece := l.pieces.size - 1, opens := flanks.1, closes := flanks.2 }
  { l with marks := l.marks.push mark }

/-- Adds a run of tildes; an odd one out is text. -/
def pushTildes (l : Level) (count : Nat) (flanks : Bool × Bool) : Level :=
  let l := if count % 2 = 1 then l.push (.text ['~']) else l
  (List.replicate (count / 2) ()).foldl (fun l _ => l.pushMark ['~', '~'] '~' 0 flanks) l

/-- Adds a run of stars or underscores. -/
def pushStars (l : Level) (c : Char) (count : Nat) (flanks : Bool × Bool) : Level :=
  (List.replicate count ()).foldl (fun l _ => l.pushMark [c] c count flanks) l

/-- The elements of the level. -/
def elements (l : Level) : List Element :=
  let l := l.flush
  Piece.nest [] [] (Piece.applyMarks l.marks l.pieces).toList

end Level

/-- Reads the text of a link: the elements from one place up to another. -/
abbrev LabelReader := (start stop : Nat) → Memo → List Element × Memo

namespace InlineText

variable (t : InlineText)

/-- Adds a token to the level. -/
def addToken (inner : LabelReader) (l : Level) : Meaning → Level
  | .text s => l.append s
  | .special s => l.push (.special s)
  | .lineBreak => l.breakLine
  | .hardBreak => l.pushEmpty "hardbreak"
  | .code s => l.push (.element { kind := "code_inline", tag := "code", content := String.ofList s })
  | .html s => l.push (.element { kind := "html_inline", content := String.ofList s })
  | .image address label =>
    l.push (.element
      { kind := "image", tag := "img", content := String.ofList label, src := some (String.ofList address) })
  | .autolink address label =>
    l.push (.element
      { kind := "link", tag := "a", href := some (String.ofList address), children := [Piece.textElement label] })
  | .link address start stop =>
    let l := l.flush
    let (children, memo) := inner start stop l.memo
    { l with
      memo := memo
      pieces := l.pieces.push
        (.element { kind := "link", tag := "a", href := some (String.ofList address), children := children }) }

/-- Adds the run of emphasis marks at a place, if there is one, and gives the place after it. -/
def addMarks? (limit pos : Nat) (l : Level) : Option (Nat × Level) :=
  (t.at? pos).bind fun c =>
    if c == '~' || c == '*' || c == '_' then
      let stop := t.skipWhile (· == c) limit (limit - pos) pos
      let count := stop - pos
      let before := if pos = 0 then none else t.at? (pos - 1)
      let after := if stop < limit then t.at? stop else none
      let flanks := flanking before after (c != '_')
      if c == '~' then if count < 2 then none else some (stop, l.pushTildes count flanks)
      else some (stop, l.pushStars c count flanks)
    else none

/-- Reads a level from `pos` up to the limit. -/
def readLevel (skip : Skipper) (inner : LabelReader) (limit : Nat) : (fuel : Nat) → (pos : Nat) → Level → Level
  | 0, _, l => l
  | fuel + 1, pos, l =>
    if limit ≤ pos then l
    else match t.addMarks? limit pos l with
      | some (next, l) => readLevel skip inner limit fuel next l
      | none =>
        match t.token? skip limit pos l.memo with
        | (some token, memo) =>
          readLevel skip inner limit fuel token.stop (addToken inner { l with memo := memo } token.meaning)
        | (none, memo) =>
          readLevel skip inner limit fuel (pos + 1) ({ l with memo := memo }.append (t.slice pos (pos + 1)))

/-- Reads the elements between two places, with links up to `room` deep; without room everything is plain text. -/
def readLabel : (room : Nat) → LabelReader
  | 0, start, stop, memo => ({ memo := memo : Level }.append (t.slice start stop) |>.elements, memo)
  | room + 1, start, stop, memo =>
    let l := t.readLevel (t.skipToken (room + 1)) (readLabel room) stop (stop + 1 - start) start { memo := memo }
    (l.elements, l.memo)

end InlineText

/-- How deep inline elements may be nested. -/
def maxInlineNesting : Nat := 20

/-- The inline elements of a text. -/
def inlineElements (refs : References) (content : String) : List Element :=
  let chars := content.toList.toArray
  let t : InlineText := ⟨chars, refs⟩
  (t.readLabel maxInlineNesting 0 chars.size {}).1

end MarkLint.Markdown

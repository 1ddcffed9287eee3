import MarkLint.Markdown.Element
import MarkLint.Text.Blank
import MarkLint.Text.Punctuation

/-!
# Emphasis

Runs of `*`, `_` and `~~` are first read as text, together with a `Mark` for each that says whether it can open or
close a span. `Mark.balance` then pairs closing marks with opening ones, and `Piece.applyMarks` turns the pairs into
the beginnings and ends of spans.
-/

namespace MarkLint.Markdown

open MarkLint.Text

/-- A part of an inline text, at one level of links. -/
inductive Piece where
  | text (s : List Char)
  /-- Text that no mark stands for. -/
  | special (s : List Char)
  | element (e : Element)
  | opening (kind : String)
  | closing (kind : String)

/-- A mark that may open or close a span: the character, the length of its run, the piece that holds it, and the mark
that closes the span it opens. -/
structure Mark where
  char : Char
  length : Nat
  piece : Nat
  opens : Bool
  closes : Bool
  partner : Option Nat := none
  deriving Inhabited

/-- Does white space stand at this side of a run of marks? The ends of the text count as white space. -/
def isGap (c : Option Char) : Bool :=
  match c with
  | none => true
  | some c =>
    let n := c.toNat
    n == 32 || (9 ≤ n && n ≤ 13) || n == 0xA0 || n == 0x1680 || (0x2000 ≤ n && n ≤ 0x200A) || n == 0x202F
      || n == 0x205F || n == 0x3000

/-- Can a run of marks open a span, and can it close one? `splits` says that it may do so inside a word. -/
def flanking (before after : Option Char) (splits : Bool) : Bool × Bool :=
  let punctBefore := before.any isPunctuation
  let punctAfter := after.any isPunctuation
  let left := !isGap after && (!punctAfter || isGap before || punctBefore)
  let right := !isGap before && (!punctBefore || isGap after || punctAfter)
  (left && (splits || !right || punctBefore), right && (splits || !left || punctAfter))

namespace Mark

/-- The progress of the pairing: the marks, how many marks to jump over when looking back from each, the lower bounds
for closing marks of each kind, and where the current run of marks starts. -/
structure Pairing where
  marks : Array Mark
  jumps : Array Nat
  bounds : List ((Char × Bool × Nat) × Int)
  runStart : Nat
  lastPiece : Option Nat

/-- May the two marks not be paired, although one opens and the other closes? If one of them can do both, the lengths of
their runs must not add up to a multiple of 3, unless both are multiples of 3. -/
def isOddMatch (opener closer : Mark) : Bool :=
  (opener.closes || closer.opens) && (opener.length + closer.length) % 3 == 0
    && (opener.length % 3 != 0 || closer.length % 3 != 0)

namespace Pairing

/-- The mark at an index. -/
def mark (p : Pairing) (i : Nat) : Mark := p.marks.getD i default

/-- The jump at an index. -/
def jump (p : Pairing) (i : Nat) : Nat := p.jumps.getD i 0

/-- Looks back from `i`, above the bound, for a mark that `closer` can close. -/
def findOpener (p : Pairing) (closer : Mark) (bound : Int) : (fuel : Nat) → (i : Int) → Option Nat
  | 0, _ => none
  | fuel + 1, i =>
    if i ≤ bound || i < 0 then none
    else
      let opener := p.mark i.toNat
      if opener.char = closer.char ∧ opener.opens ∧ opener.partner.isNone ∧ !isOddMatch opener closer then
        some i.toNat
      else p.findOpener closer bound fuel (i - p.jump i.toNat - 1)

/-- Pairs the mark at index `i` with one before it, if possible. -/
def step (p : Pairing) (i : Nat) : Pairing :=
  let closer := p.mark i
  let continues := (p.mark p.runStart).char = closer.char ∧ p.lastPiece.any fun n => n + 1 = closer.piece
  let p := { p with
    jumps := p.jumps.push 0, runStart := if continues then p.runStart else i, lastPiece := some closer.piece }
  if !closer.closes then p
  else
    let key := (closer.char, closer.opens, closer.length % 3)
    let bound := (p.bounds.lookup key).getD (-1)
    let start : Int := (p.runStart : Int) - p.jump p.runStart - 1
    match p.findOpener closer bound (i + 1) start with
    | some j =>
      let opener := p.mark j
      let beyond := if 0 < j ∧ !(p.mark (j - 1)).opens then p.jump (j - 1) + 1 else 0
      { p with
        jumps := (p.jumps.setIfInBounds i (i - j + beyond)).setIfInBounds j beyond
        marks := (p.marks.setIfInBounds i { closer with opens := false }).setIfInBounds j
          { opener with partner := some i, closes := false }
        lastPiece := none }
    | none => if start = -1 then p else { p with bounds := (key, start) :: p.bounds }

end Pairing

/-- Pairs the marks of one level. -/
def balance (marks : Array Mark) : Array Mark :=
  ((List.range marks.size).foldl Pairing.step ⟨marks, #[], [], 0, none⟩).marks

end Mark

namespace Piece

/-- Is the piece the given text? -/
def isText (s : List Char) : Piece → Bool
  | text t => t == s
  | _ => false

/-- Is the piece the end of a deletion? -/
def closesDeletion : Piece → Bool
  | closing kind => kind == "s"
  | _ => false

/-- Turns the pairs of tildes into deletions. The result has the pieces and the indices of single tildes that stand just
before the end of one, last one first. -/
def applyTildes (marks : Array Mark) (pieces : Array Piece) : Array Piece × List Nat :=
  marks.foldl (fun (pieces, lone) m =>
    match m.char, m.partner with
    | '~', some j =>
      let close := (marks.getD j default).piece
      let pieces := (pieces.setIfInBounds m.piece (opening "s")).setIfInBounds close (closing "s")
      (pieces, if 0 < close ∧ (pieces.getD (close - 1) (text [])).isText ['~'] then (close - 1) :: lone else lone)
    | _, _ => (pieces, lone)) (pieces, [])

/-- The number of ends of deletions from the index `i` on. -/
def closingRun (pieces : Array Piece) : (fuel : Nat) → (i : Nat) → Nat
  | 0, _ => 0
  | fuel + 1, i => if (pieces[i]?).any closesDeletion then closingRun pieces fuel (i + 1) + 1 else 0

/-- Moves a single tilde behind the ends of deletions that follow it. -/
def moveTilde (pieces : Array Piece) (i : Nat) : Array Piece :=
  let j := i + closingRun pieces pieces.size (i + 1)
  match pieces[i]?, pieces[j]? with
  | some a, some b => (pieces.setIfInBounds j a).setIfInBounds i b
  | _, _ => pieces

/-- Is the pair of the mark at `i` just inside that of the mark at `i - 1`, so that the two make strong emphasis? -/
def isStrong (marks : Array Mark) (i close : Nat) : Bool :=
  let m := marks.getD i default
  let outer := marks.getD (i - 1) default
  0 < i && outer.partner == some (close + 1) && outer.char == m.char && outer.piece + 1 == m.piece
    && (marks.getD (close + 1) default).piece == (marks.getD close default).piece + 1

/-- Turns the pairs of stars and underscores into emphasis, from the mark before `i` down. -/
def applyStars (marks : Array Mark) : (i : Nat) → Array Piece → Array Piece
  | 0, pieces => pieces
  | i + 1, pieces =>
    let m := marks.getD i default
    match m.partner with
    | some close =>
      if m.char = '~' then applyStars marks i pieces
      else
        let strong := isStrong marks i close
        let kind := if strong then "strong" else "em"
        let pieces := (pieces.setIfInBounds m.piece (opening kind)).setIfInBounds
          (marks.getD close default).piece (closing kind)
        if strong then
          let pieces := (pieces.setIfInBounds (marks.getD (i - 1) default).piece (text [])).setIfInBounds
            (marks.getD (close + 1) default).piece (text [])
          match i with
          | 0 => pieces
          | j + 1 => applyStars marks j pieces
        else applyStars marks i pieces
    | none => applyStars marks i pieces

/-- Turns paired marks into the beginnings and ends of spans. -/
def applyMarks (marks : Array Mark) (pieces : Array Piece) : Array Piece :=
  let marks := Mark.balance marks
  let (pieces, lone) := applyTildes marks pieces
  applyStars marks marks.size (lone.foldl moveTilde pieces)

/-- A text element. -/
def textElement (s : List Char) : Element := { kind := "text", content := String.ofList s }

/-- Joins neighbouring texts. -/
def joinTexts : List Element → List Element
  | [] => []
  | e :: rest =>
    match joinTexts rest with
    | next :: more =>
      if e.kind == "text" && next.kind == "text" then { e with content := e.content ++ next.content } :: more
      else e :: next :: more
    | [] => [e]

/-- The elements of pieces. `open_` holds the spans that have been opened, innermost first, each with the elements
before it, backwards; `done` are the elements of the innermost one, backwards. -/
def nest (open_ : List (String × List Element)) (done : List Element) : List Piece → List Element
  | [] => joinTexts (open_.foldl (fun inner (_, before) => inner ++ before) done).reverse
  | text s :: rest => nest open_ (textElement s :: done) rest
  | special s :: rest => nest open_ (textElement s :: done) rest
  | element e :: rest => nest open_ (e :: done) rest
  | opening kind :: rest => nest ((kind, done) :: open_) [] rest
  | closing _ :: rest =>
    match open_ with
    | (kind, before) :: outer =>
      nest outer ({ kind := kind, tag := kind, children := joinTexts done.reverse } :: before) rest
    | [] => nest [] done rest

end Piece
end MarkLint.Markdown

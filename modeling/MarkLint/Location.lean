import MarkLint.Place

/-!
# Offsets and points of one text

A `Location` is a text with the index of its line starts. `Location.toPoint` and `Location.toOffset` convert between
offsets and points; the end of the text is addressable, so that a span can end there. What lies outside the text is
refused with an `OutOfRange`, never clamped.
-/

namespace MarkLint

/-- What may be given as an offset. A truth value passes for a number elsewhere, but it is no offset. -/
inductive Offset where
  | number (n : Int)
  | truth (b : Bool)
  deriving Repr, DecidableEq

/-- How an offset is quoted in a message. -/
def Offset.shown : Offset → String
  | number n => toString n
  | truth b => if b then "True" else "False"

/-- Why an offset or a point does not address a text. -/
inductive OutOfRange where
  | line (line : Int) (count : Nat)
  | offset (offset : Offset) (size : Nat)
  | column (column : Int) (width : Int) (line : Int)
  deriving Repr, DecidableEq

/-- The wording of the refusal. Its numbers are taken to be of a length that can be written. -/
def OutOfRange.message : OutOfRange → String
  | line l n => s!"Line {l} is outside 1..{n}"
  | offset o n => s!"Offset {o.shown} is outside 0..{n}"
  | column c w l => s!"Column {c} is outside 1..{w} on line {l}"

/-- A text with the offsets at which its lines start. -/
structure Location where
  source : List Char
  starts : List Nat
  deriving Repr

namespace Location

/-- The offsets just past the line feeds of `s`, which itself begins at offset `at`. -/
def startsAfter (offset : Nat) : List Char → List Nat
  | [] => []
  | c :: rest =>
    if c == '\n' then (offset + 1) :: startsAfter (offset + 1) rest else startsAfter (offset + 1) rest

/-- The index of a text. -/
def ofText (source : List Char) : Location := ⟨source, 0 :: startsAfter 0 source⟩

variable (loc : Location)

/-- The number of lines. -/
def lineCount : Nat := loc.starts.length

/-- The offset just past the last character of a line, before its line feed. -/
def lineEnd (line : Int) : Except OutOfRange Int :=
  if 1 ≤ line ∧ line ≤ loc.lineCount then
    match loc.starts[line.toNat]? with
    | some next => .ok (next - 1 : Int)
    | none => .ok loc.source.length
  else .error (.line line loc.lineCount)

/-- The point at an offset: the last line that starts no later holds it. -/
def toPoint (offset : Int) : Except OutOfRange Point :=
  if 0 ≤ offset ∧ offset ≤ loc.source.length then
    let upTo := loc.starts.takeWhile fun (s : Nat) => decide ((s : Int) ≤ offset)
    .ok ⟨upTo.length, offset - upTo.getLastD 0 + 1, offset⟩
  else .error (.offset (.number offset) loc.source.length)

/-- The point at what is given as an offset. A truth value is refused. -/
def toPointOf : Offset → Except OutOfRange Point
  | .number n => loc.toPoint n
  | .truth b => .error (.offset (.truth b) loc.source.length)

/-- The offset of a line and a column. -/
def toOffset (line column : Int) : Except OutOfRange Int :=
  match loc.lineEnd line with
  | .error e => .error e
  | .ok stop =>
    let start : Int := loc.starts.getD (line - 1).toNat 0
    if 1 ≤ column ∧ column ≤ stop - start + 1 then .ok (start + column - 1)
    else .error (.column column (stop - start + 1) line)

/-- Is the point in the text, with line and column that match its offset? -/
def isResolvable (p : Point) : Bool :=
  match loc.toPoint p.offset with
  | .ok q => q == p
  | .error _ => false

/-- The characters from one offset up to another. -/
def slice (start stop : Int) : List Char :=
  (loc.source.take stop.toNat).drop start.toNat

end Location
end MarkLint

/-!
# Places in a source text

Lines and columns count from 1, offsets from 0, all in characters. A place is data that may come from anywhere: whether
it addresses a given text is a question for `Location`. Its numbers are taken to be of a length that can be written
(`Text.IsWritable`), as those of a place in a text are.
-/

namespace MarkLint

/-- A place in a source text. -/
structure Point where
  line : Int
  column : Int
  offset : Int
  deriving Repr, DecidableEq, Inhabited

/-- The span that a node or a diagnostic covers, from `start` up to `stop`; either end may be unknown. -/
structure Position where
  start : Option Point
  stop : Option Point
  deriving Repr, DecidableEq, Inhabited

/-- A point as `line:column`, and as `1:1` when it is absent. -/
def showPoint : Option Point → String
  | none => "1:1"
  | some p => toString p.line ++ ":" ++ toString p.column

/-- A position as `line:column-line:column`. -/
def showPosition : Option Position → String
  | none => "1:1-1:1"
  | some p => showPoint p.start ++ "-" ++ showPoint p.stop

end MarkLint

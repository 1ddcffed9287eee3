import MarkLint.Analysis

/-!
# Diagnostics in an editor

An editor counts lines and characters from 0 and wants a range for every diagnostic: one without a place stands at the
start of the document, and one at a single point gets an empty range. After each change to a document its diagnostics
are published anew, and when it is closed they are taken back.
-/

namespace MarkLint.Editor

/-- A place in a document, counted from 0. -/
structure Coordinates where
  line : Nat
  character : Nat
  deriving Repr, DecidableEq

/-- The largest coordinate that can be sent. -/
def maxCoordinate : Nat := 2147483647

/-- A coordinate that cannot be sent. -/
structure Unsendable where
  coordinate : Int
  deriving Repr, DecidableEq

/-- One coordinate. -/
def coordinate (n : Int) : Except Unsendable Nat :=
  if 0 ≤ n ∧ n ≤ maxCoordinate then .ok n.toNat else .error ⟨n⟩

/-- The place of a line and a column that count from 1. -/
def coordinates (line column : Int) : Except Unsendable Coordinates := do
  let line ← coordinate (line - 1)
  let character ← coordinate (column - 1)
  return ⟨line, character⟩

/-- A diagnostic as an editor shows it. -/
structure Mark where
  start : Coordinates
  stop : Coordinates
  message : String
  severity : Nat
  deriving Repr, DecidableEq

/-- The number of a severity, the most serious first. -/
def severityNumber : Severity → Nat
  | .error => 1
  | .warning => 2
  | .information => 3
  | .hint => 4

/-- The name under which marks are published. -/
def sourceName : String := "margot"

/-- The mark for a diagnostic. -/
def markOf (d : Diagnostic) : Except Unsendable Mark := do
  let start ← coordinates d.line d.column
  let stop ← match d.stop with
    | none => pure start
    | some p => coordinates p.line p.column
  return ⟨start, stop, d.ruleId ++ " " ++ d.message, severityNumber d.severity⟩

/-- What happens to a document. -/
inductive Event where
  | opened (uri : String) (text : List Char)
  | changed (uri : String) (text : List Char)
  | closed (uri : String)

/-- The marks of a document from now on. -/
structure Publication where
  uri : String
  marks : List Mark
  deriving Repr, DecidableEq

/-- Why nothing can be published. -/
inductive PublishError where
  | tree (e : Document.TreeError)
  | unsendable (e : Unsendable)
  deriving Repr, DecidableEq

/-- The marks of a document, given how to analyse a text. -/
def publish (analyze : List Char → Except Document.TreeError Findings) (uri : String) (text : List Char) :
    Except PublishError Publication :=
  match analyze text with
  | .error e => .error (.tree e)
  | .ok findings =>
    match findings.diagnostics.mapM markOf with
    | .error e => .error (.unsendable e)
    | .ok marks => .ok ⟨uri, marks⟩

/-- What an event makes known. -/
def respond (analyze : List Char → Except Document.TreeError Findings) : Event → Except PublishError Publication
  | .opened uri text => publish analyze uri text
  | .changed uri text => publish analyze uri text
  | .closed uri => .ok ⟨uri, []⟩

/-- What a session makes known, event by event. -/
def session (analyze : List Char → Except Document.TreeError Findings) (events : List Event) :
    Except PublishError (List Publication) :=
  events.mapM (respond analyze)

end MarkLint.Editor

import MarkLint.Json
import MarkLint.Node

/-!
# Diagnostics and their reporter

A rule run against a document emits its diagnostics through a `Reporter`, which keeps them in the order in which they
were reported and drops what is reported on generated nodes.
-/

namespace MarkLint

/-- How serious a diagnostic is. -/
inductive Severity where
  | error
  | warning
  | information
  | hint
  deriving Repr, DecidableEq

/-- The name of a severity in reports. -/
def Severity.name : Severity → String
  | error => "error"
  | warning => "warning"
  | information => "information"
  | hint => "hint"

/-- One finding of a rule. Without a `start` it is about the rule's configuration; without a `stop` it marks a single
point. -/
structure Diagnostic where
  ruleId : String
  message : String
  start : Option Point
  stop : Option Point := none
  severity : Severity := .warning
  fatal : Bool := false
  deriving Repr, DecidableEq

namespace Diagnostic

/-- The line of a diagnostic, 1 without a place. -/
def line (d : Diagnostic) : Int := (d.start.map Point.line).getD 1

/-- The column of a diagnostic, 1 without a place. -/
def column (d : Diagnostic) : Int := (d.start.map Point.column).getD 1

/-- A point as a JSON object. -/
def pointJson (p : Point) : Json :=
  .obj [("line", .int p.line), ("column", .int p.column), ("offset", .int p.offset)]

/-- A place as JSON: a point, or an object with its two ends. -/
def placeJson : Option Point → Option Point → Json
  | none, _ => .null
  | some start, none => pointJson start
  | some start, some stop => .obj [("start", pointJson start), ("end", pointJson stop)]

/-- A diagnostic as a JSON object. -/
def toJson (d : Diagnostic) : Json :=
  .obj [("message", .str d.message), ("position", placeJson d.start d.stop), ("ruleId", .str d.ruleId),
    ("severity", .str d.severity.name), ("fatal", .bool d.fatal)]

end Diagnostic

/-- What a message is about. -/
inductive Place where
  | node (n : Node)
  | span (p : Position)
  | point (p : Point)
  | nowhere

/-- The collector of one rule run against one document. -/
structure Reporter where
  location : Location
  ruleId : String
  messages : List Diagnostic := []

namespace Reporter

/-- A reporter with no messages. -/
def ofSource (source : List Char) (ruleId : String) : Reporter := ⟨Location.ofText source, ruleId, []⟩

/-- Has the node no place in the reporter's text? -/
def isGenerated (r : Reporter) (n : Node) : Bool := n.isGenerated (some r.location)

/-- The ends of a place, or `none` for a generated node. -/
def ends? (r : Reporter) : Place → Option (Option Point × Option Point)
  | .node n => if r.isGenerated n then none else some (n.start?, n.stop?)
  | .span p => some (p.start, p.stop)
  | .point p => some (some p, none)
  | .nowhere => some (none, none)

/-- The warning at a place, or `none` for a generated node. -/
def warning? (r : Reporter) (text : String) (place : Place) : Option Diagnostic :=
  (r.ends? place).map fun (start, stop) =>
    { ruleId := r.ruleId, message := text, start := start, stop := stop }

/-- The fatal diagnostic with the given text. -/
def failure (r : Reporter) (text : String) : Diagnostic :=
  { ruleId := r.ruleId, message := text, start := none, severity := .error, fatal := true }

/-- Adds a warning at a place; nothing happens for a generated node. -/
def message (r : Reporter) (text : String) (place : Place) : Reporter :=
  { r with messages := r.messages ++ (r.warning? text place).toList }

/-- Adds a fatal diagnostic, with which the rule has to stop. -/
def fail (r : Reporter) (text : String) : Reporter :=
  { r with messages := r.messages ++ [r.failure text] }

end Reporter
end MarkLint

import MarkLint.Location

/-!
# Document trees

A `Node` is one element of a parsed document. Kinds are an open vocabulary (`heading`, `code`, `listItem`, …), and a
node without a reliable place in the source is *generated*: rules pass it over. Trees may be nested to any depth.
-/

namespace MarkLint

/-- One element of a document. -/
structure Node where
  kind : String
  children : List Node := []
  position : Option Position := none
  value : Option String := none
  depth : Option Int := none
  lang : Option String := none
  info : Option String := none
  checked : Option Bool := none
  ordered : Option Bool := none
  url : Option String := none
  alt : Option String := none
  deriving Repr, Inhabited

namespace Node

/-- Can a position be reported on? Both ends are known, in order and, given a text, on it. -/
def isWellFormed (position : Option Position) (loc : Option Location) : Bool :=
  match position with
  | some ⟨some start, some stop⟩ =>
    if start.offset > stop.offset then false
    else match loc with
      | none => true
      | some loc => loc.isResolvable start && loc.isResolvable stop
  | _ => false

/-- Has the node no reliable place in the text? -/
def isGenerated (n : Node) (loc : Option Location) : Bool := !isWellFormed n.position loc

/-- Where the node starts, if known. -/
def start? (n : Node) : Option Point := n.position.bind Position.start

/-- Where the node stops, if known. -/
def stop? (n : Node) : Option Point := n.position.bind Position.stop

mutual

/-- The text of a node without its markup: its value, else its alternative text, else the text of its children. -/
def plainText : Node → String
  | ⟨_, children, _, value, _, _, _, _, _, _, alt⟩ =>
    match value, alt with
    | some v, _ => v
    | none, some a => a
    | none, none => plainTexts children

/-- The text of several nodes, one after the other. -/
def plainTexts : List Node → String
  | [] => ""
  | n :: rest => n.plainText ++ plainTexts rest

end

end Node
end MarkLint

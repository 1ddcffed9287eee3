import MarkLint.Rule
import MarkLint.Style

/-!
# Block quote indentation

Flags block quotes whose content stands too far from the `>` marker, or too near. The indentation of a quote is the
number of columns from the marker to the content, so `> Hello` has an indentation of 2. The option fixes the
indentation; without one, or with `consistent` or 0, the first quote of the document decides.
-/

namespace MarkLint.BlockquoteIndentation

/-- The name of the rule. -/
def id : String := "blockquote-indentation"

/-- Reads the option: a fixed indentation, or `none` to take it from the document. The marker itself takes a column, so
no quote measures 0, and 0 asks for nothing. -/
def readIndent (option : Option Scalar) : Except OptionFault (Option Int) :=
  (Setting.readCount option "block quote indentation" none true).map fun n => if n = some 0 then none else n

/-- The columns between a quote's marker and its content. -/
def indentation (n : Node) : Option Int := do
  let content ← n.children.head?
  let inner ← content.start?
  let outer ← n.start?
  return inner.column - outer.column

/-- Is a quote passed over? It has to have a place and content with a place. -/
def isSkipped (loc : Location) (n : Node) : Bool :=
  n.isGenerated (some loc) || match n.children.head? with
    | none => true
    | some content => content.isGenerated (some loc)

/-- What the message asks for when the indentation has to grow by `diff` columns, if their number can be written. -/
def advice (diff : Int) : Except String String :=
  (Text.writeInt diff.natAbs).map fun count =>
    (if 0 < diff then "Add" else "Remove") ++ " " ++ count ++ " " ++ (if diff.natAbs = 1 then "space" else "spaces")
      ++ " between block quote and content"

/-- The message for a quote that differs from the preferred indentation. -/
def report (v : Style.Verdict Node Int) : Step :=
  match v.observed, v.item.children.head? with
  | some observed, some content =>
    match advice (v.preferred - observed) with
    | .error reason => .breakDown reason
    | .ok text =>
      match content.start? with
      | some start => .message text (.point start)
      | none => .message text .nowhere
  | _, _ => .breakDown "block quote without content"

/-- Reports every block quote whose indentation differs from the preferred one. -/
def steps (indent : Option Int) (tree : Node) (loc : Location) : List Step :=
  (Style.mismatches (isSkipped loc) indentation indent (tree.walk (.kind "blockquote"))).map report

/-- The rule. -/
def rule : Rule where
  id := id
  summary := "Flag block quotes indented too much or too little."
  optionKey := some "indent"
  read option := (readIndent option).map fun indent => ⟨indent.map Scalar.int, steps indent⟩

end MarkLint.BlockquoteIndentation

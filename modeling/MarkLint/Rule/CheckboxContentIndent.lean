import MarkLint.Rule
import MarkLint.Text.Blank

/-!
# Checkbox content indentation

Flags task list items whose checkbox is followed by more than one character of white space. The diagnostic covers the
white space that is too much.
-/

namespace MarkLint.CheckboxContentIndent

/-- The name of the rule. -/
def id : String := "checkbox-content-indent"

/-- Does the text hold a checkbox: `[ ]`, `[x]`, `[X]`, or one with a tab? -/
def hasCheckbox : List Char → Bool
  | '[' :: c :: ']' :: rest => Text.isIndent c || c == 'x' || c == 'X' || hasCheckbox (c :: ']' :: rest)
  | _ :: rest => hasCheckbox rest
  | [] => false

/-- Where the content of an item starts: at its first child, or at its own end. -/
def contentStart (loc : Location) (item : Node) : Option Point :=
  match item.children.head? with
  | some content => if content.isGenerated (some loc) then item.stop? else content.start?
  | none => item.stop?

/-- The report for an item whose content starts at `point`. -/
def report (loc : Location) (point : Point) : List Step :=
  if hasCheckbox (loc.slice (max (point.offset - 4) 0) (point.offset + 1)) then
    let extra := ((loc.source.drop point.offset.toNat).takeWhile Text.isIndent).length
    if extra = 0 then []
    else match loc.toPoint point.offset, loc.toPoint (point.offset + extra) with
      | .ok start, .ok stop =>
        [.message "Checkboxes should be followed by a single character" (.span ⟨some start, some stop⟩)]
      | _, _ => [.breakDown "white space outside the text"]
  else []

/-- What is reported for one list item. -/
def inspect (loc : Location) (item : Node) : List Step :=
  if item.checked.isNone || item.isGenerated (some loc) then []
  else match contentStart loc item with
    | some point => report loc point
    | none => [.breakDown "list item without an end"]

/-- Reports the extra white space after each checkbox. -/
def steps (tree : Node) (loc : Location) : List Step :=
  (tree.walk (.kind "listItem")).flatMap (inspect loc)

/-- The rule. -/
def rule : Rule where
  id := id
  summary := "Flag task list checkboxes followed by more than one whitespace character."
  optionKey := none
  read := Rule.readNothing id steps

end MarkLint.CheckboxContentIndent

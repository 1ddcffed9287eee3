import MarkLint.Rule
import MarkLint.Text.Case

/-!
# No duplicate headings

Flags headings whose text repeats an earlier one, whatever their levels and the case of their letters. The diagnostic
points back at the most recent earlier heading with the same text.
-/

namespace MarkLint.DuplicateHeadings

/-- The name of the rule. -/
def id : String := "no-duplicate-headings"

/-- The text under which a heading is remembered, when `fold` takes the case off a text. -/
def key (fold : List Char → List Char) (n : Node) : List Char := fold n.plainText.toList

/-- The message for a heading that repeats `earlier`. -/
def report (earlier n : Node) : Step :=
  .message ("Do not use headings with similar content (" ++ showPoint earlier.start? ++ ")") (.node n)

/-- Reports the headings that repeat one in `seen`, where the most recent stands first, or one before them. -/
def repeats (fold : List Char → List Char) (seen : List (List Char × Node)) : List Node → List Step
  | [] => []
  | n :: rest =>
    let k := key fold n
    let later := repeats fold ((k, n) :: seen) rest
    match seen.lookup k with
    | some earlier => report earlier n :: later
    | none => later

/-- Reports each heading that repeats the content of an earlier one. -/
def stepsBy (fold : List Char → List Char) (tree : Node) (loc : Location) : List Step :=
  repeats fold [] ((tree.walk (.kind "heading")).filter fun n => !n.isGenerated (some loc))

/-- The rule. -/
def rule : Rule where
  id := id
  summary := "Flag headings whose text repeats an earlier heading."
  optionKey := none
  read := Rule.readNothing id (stepsBy Text.upper)

end MarkLint.DuplicateHeadings

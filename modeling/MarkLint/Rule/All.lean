import MarkLint.Rule.BlockquoteIndentation
import MarkLint.Rule.CheckboxContentIndent
import MarkLint.Rule.CodeBlockStyle
import MarkLint.Rule.DuplicateHeadings
import MarkLint.Rule.HeadingLength

/-!
# The built-in rules
-/

namespace MarkLint

/-- The built-in rules, in the order in which they run. -/
def allRules : List Rule :=
  [BlockquoteIndentation.rule, CheckboxContentIndent.rule, CodeBlockStyle.rule, HeadingLength.rule,
    DuplicateHeadings.rule]

end MarkLint

import MarkLint.Document
import MarkLint.Rule.All
import MarkLint.Suppression

/-!
# Analysis

Runs rules over a document. The rules do not see each other: one that breaks down contributes nothing, and its name is
noted. An analysis sorts the diagnostics by line and column, without disturbing the order of those at one place, and
takes away what the comments of the source suppress.
-/

namespace MarkLint

/-- The diagnostics of several rules, and the names of the rules that broke down. -/
structure Findings where
  diagnostics : List Diagnostic
  failed : List String
  deriving Repr

namespace Analysis

/-- The findings of one rule. -/
def runRule (document : Document) (r : Rule) : Findings :=
  match r.check document.tree document.source with
  | .ok diagnostics => ⟨diagnostics, []⟩
  | .error _ => ⟨[], [r.id]⟩

/-- The findings of all rules, in the order of the rules. -/
def runRules (rules : List Rule) (document : Document) : Findings :=
  ⟨rules.flatMap fun r => (runRule document r).diagnostics, rules.flatMap fun r => (runRule document r).failed⟩

/-- Does the first diagnostic stand no later than the second? -/
def before (a b : Diagnostic) : Bool :=
  a.line < b.line || (a.line == b.line && a.column ≤ b.column)

/-- The findings for a text, when `markdown` reads its Markdown. -/
def analyzeWith (markdown : List Char → List Markdown.Element) (rules : List Rule) (source : List Char) :
    Except Document.TreeError Findings :=
  (Document.readWith markdown source).map fun document =>
    let findings := runRules rules document
    { findings with diagnostics := Suppression.apply (findings.diagnostics.mergeSort before) source }

/-- The findings for a text. -/
def analyze (rules : List Rule) (source : List Char) : Except Document.TreeError Findings :=
  analyzeWith Markdown.elements rules source

end Analysis
end MarkLint

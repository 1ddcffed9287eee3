import MarkLint.Analysis
import MarkLint.Proofs.Rule.Returns
import MarkLint.Proofs.Suppression.Coverage

/-!
# Line breaks of two characters make no difference

An analysis of a text in which a carriage return stands before each line feed gives the same findings as that of the
text without them, at the same lines and columns (`analyzeWith_withReturns`). All that is asked of the Markdown reader
is that it does not see such carriage returns; the places where blocks start have to lie before the ends of their lines.
-/

namespace MarkLint

open MarkLint.Document
open MarkLint.Text

variable {s : List Char}

/-! ## Suppressions -/

namespace Suppression

/-- A text with carriage returns has the same suppressions. -/
theorem ofText_withReturns (s : List Char) : Table.ofText (withReturns s) = Table.ofText s := by
  have hfile : (returned (lines s)).map fileScope? = (lines s).map fileScope? :=
    map_returned (firstComment?_append_singleton startsFilled_fileKeyword (by decide)) _
  have hline : (returned (lines s)).map lineScope? = (lines s).map lineScope? :=
    map_returned (firstComment?_append_singleton startsFilled_lineKeyword (by decide)) _
  have hfilter : ∀ ls : List (List Char), ls.filterMap fileScope? = (ls.map fileScope?).filterMap id := fun ls => by
    rw [List.filterMap_map]
    rfl
  rw [Table.ofText, Table.ofText, lines_withReturns, hline, hfilter, hfile, ← hfilter]

/-- Diagnostics at shifted places are suppressed as before. -/
theorem apply_withReturns (s : List Char) (ds : List Diagnostic) :
    apply (ds.map (Diagnostic.mapPoints (Point.shift s))) (withReturns s)
      = (apply ds s).map (Diagnostic.mapPoints (Point.shift s)) := by
  have hsame : (fun d => !(Table.ofText s).suppresses d) ∘ Diagnostic.mapPoints (Point.shift s)
      = fun d => !(Table.ofText s).suppresses d := by
    funext d
    simp only [Function.comp_apply, Table.suppresses, Diagnostic.line_shift]
    rfl
  rw [apply, apply, ofText_withReturns, List.filter_map, hsame]

end Suppression

/-! ## Analyses -/

/-- The findings with the points of their diagnostics changed. -/
def Findings.mapPoints (f : Point → Point) (findings : Findings) : Findings :=
  { findings with diagnostics := findings.diagnostics.map (Diagnostic.mapPoints f) }

/-- The Markdown reader does not see carriage returns before line feeds. -/
theorem Markdown.elements_congr {t u : List Char} (h : joinBreaks t = joinBreaks u) : elements t = elements u := by
  rw [elements, elements, normalize, normalize, normalizeBreaks_eq_map_joinBreaks, normalizeBreaks_eq_map_joinBreaks, h]

namespace Analysis

/-- A rule finds the same at shifted places. -/
theorem runRule_withReturns {r : Rule} {tree tree' : Node} (h : r.Shifts) (option : Option Scalar)
    (hsound : ∀ n ∈ tree.preorder, IsSound s n) (hshifted : IsShifted s tree tree') :
    runRule ⟨withReturns s, tree'⟩ { r with option := option }
      = (runRule ⟨s, tree⟩ { r with option := option }).mapPoints (Point.shift s) := by
  rw [runRule, runRule, h.check option hsound hshifted]
  cases ({ r with option := option } : Rule).check tree s <;> rfl

theorem runRules_withReturns {rules : List Rule} {tree tree' : Node}
    (hrules : ∀ r ∈ rules, ∃ b ∈ allRules, ∃ option, r = { b with option := option })
    (hsound : ∀ n ∈ tree.preorder, IsSound s n) (hshifted : IsShifted s tree tree') :
    runRules rules ⟨withReturns s, tree'⟩ = (runRules rules ⟨s, tree⟩).mapPoints (Point.shift s) := by
  have hrule : ∀ r ∈ rules, runRule ⟨withReturns s, tree'⟩ r = (runRule ⟨s, tree⟩ r).mapPoints (Point.shift s) := by
    intro r hr
    obtain ⟨b, hb, option, rfl⟩ := hrules r hr
    exact runRule_withReturns (shifts_of_mem hb) option hsound hshifted
  have hdiagnostics := List.flatMap_congr fun r hr => congrArg Findings.diagnostics (hrule r hr)
  have hfailed := List.flatMap_congr fun r hr => congrArg Findings.failed (hrule r hr)
  rw [runRules, runRules, hdiagnostics, hfailed]
  simp only [Findings.mapPoints, List.map_flatMap]

/-- Diagnostics at shifted places are sorted as before. -/
theorem mergeSort_shift (s : List Char) (ds : List Diagnostic) :
    (ds.map (Diagnostic.mapPoints (Point.shift s))).mergeSort before
      = (ds.mergeSort before).map (Diagnostic.mapPoints (Point.shift s)) := by
  refine (List.map_mergeSort fun a _ b _ => ?_).symm
  simp only [before, Diagnostic.line_shift, Diagnostic.column_shift]

/-- Take a text without carriage returns, and the same text with one before each line feed. If the reader does not see
the difference, and each block that it places starts before the end of its first line, then the built-in rules, with any
options and in any order, give the same findings for both. Only the offsets differ, each by the number of line feeds
before it. -/
theorem analyzeWith_withReturns {markdown : List Char → List Markdown.Element} {rules : List Rule} {source : List Char}
    (hsource : '\r' ∉ source) (hmarkdown : ∀ t u, joinBreaks t = joinBreaks u → markdown t = markdown u)
    (hstarts : StartsOnLines source
      (blockStarts source [] (markdown (FrontMatter.hide (FrontMatter.lineCount source) source))))
    (hrules : ∀ r ∈ rules, ∃ b ∈ allRules, ∃ option, r = { b with option := option }) :
    analyzeWith markdown rules (withReturns source)
      = (analyzeWith markdown rules source).map (Findings.mapPoints (Point.shift source)) := by
  rcases readWith_withReturns hsource hmarkdown hstarts with
    ⟨e, hread, hread'⟩ | ⟨tree, tree', hread, hread', hsound, hshifted⟩
  · rw [analyzeWith, analyzeWith, hread, hread']
    rfl
  · rw [analyzeWith, analyzeWith, hread, hread']
    simp only [Except.map, runRules_withReturns hrules hsound hshifted, Findings.mapPoints, mergeSort_shift,
      Suppression.apply_withReturns]

/-- A quote below a front matter is found on the third line, two characters later than without carriage returns. -/
theorem analyzeWith_withReturns_quote :
    withReturns "---\n---\n> b".toList = "---\r\n---\r\n> b".toList ∧
    analyzeWith Markdown.elements [{ BlockquoteIndentation.rule with option := some (.int 3) }]
        "---\r\n---\r\n> b".toList
      = (analyzeWith Markdown.elements [{ BlockquoteIndentation.rule with option := some (.int 3) }]
        "---\n---\n> b".toList).map (Findings.mapPoints (Point.shift "---\n---\n> b".toList)) ∧
    (analyzeWith Markdown.elements [{ BlockquoteIndentation.rule with option := some (.int 3) }]
        "---\n---\n> b".toList).toOption.map (fun f => f.diagnostics.map Diagnostic.start)
      = some [some ⟨3, 3, 10⟩] ∧
    Point.shift "---\n---\n> b".toList ⟨3, 3, 10⟩ = ⟨3, 3, 12⟩ := by
  have hreturns : withReturns "---\n---\n> b".toList = "---\r\n---\r\n> b".toList := by decide +kernel
  refine ⟨hreturns, ?_, by decide +kernel, by decide +kernel⟩
  rw [← hreturns]
  refine analyzeWith_withReturns (by decide) (fun _ _ => Markdown.elements_congr) (by decide +kernel) fun r hr => ?_
  exact ⟨BlockquoteIndentation.rule, by simp [allRules], some (.int 3), List.mem_singleton.1 hr⟩

end Analysis
end MarkLint

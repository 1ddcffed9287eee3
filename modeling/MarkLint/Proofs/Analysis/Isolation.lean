import MarkLint.Proofs.Sorting
import MarkLint.Proofs.Rule.Protocol
import Mathlib.Data.Prod.Lex

/-!
# Rules do not interfere

An analysis leaves out what is suppressed, sorts by place, and keeps reports at one place in the order of the rules. All
of this can be done for the reports of one rule alone (`filter_apply`, `filter_mergeSort`), and the reports of a rule
are those that carry its name (`filter_flatMap_reports`). So an analysis gives for each rule what an analysis with this
rule alone gives, whatever the other rules are and wherever they stand (`analyzeWith_isolated`).
-/

namespace MarkLint

/-- Line and column of a diagnostic, in the order in which a text is read. -/
def Diagnostic.key (d : Diagnostic) : Int ×ₗ Int := toLex (d.line, d.column)

/-- Diagnostics are sorted by their keys. -/
theorem Analysis.before_iff (a b : Diagnostic) : before a b = true ↔ a.key ≤ b.key := by
  unfold before Diagnostic.key
  rw [Prod.Lex.le_iff]
  simp

/-- Diagnostics may be left out before or after others are suppressed. -/
theorem Suppression.filter_apply (p : Diagnostic → Bool) (ds : List Diagnostic) (source : List Char) :
    (apply ds source).filter p = apply (ds.filter p) source := List.filter_comm _ _ ds

namespace Analysis

variable {markdown : List Char → List Markdown.Element} {source : List Char} {document : Document}
variable {rules : List Rule} {r : Rule}

theorem ruleId_of_mem_reports {d : Diagnostic} (h : d ∈ reports document r) : d.ruleId = r.id := by
  unfold reports at h
  cases hcheck : r.check document.tree document.source with
  | error reason =>
    rw [hcheck] at h
    cases h
  | ok ds =>
    rw [hcheck] at h
    exact Rule.ruleId_of_mem_check hcheck h

/-- No report of the other rules carries the name of a rule. -/
theorem filter_flatMap_reports_of_notMem {id : String} (h : id ∉ rules.map Rule.id) :
    (rules.flatMap (reports document)).filter (fun d => d.ruleId = id) = [] := by
  rw [List.filter_eq_nil_iff]
  intro d hd
  obtain ⟨r, hr, hd⟩ := List.mem_flatMap.1 hd
  have hid := ruleId_of_mem_reports hd
  simp only [decide_eq_true_eq, hid]
  rintro rfl
  exact h (List.mem_map_of_mem hr)

/-- The reports that carry the name of a rule are its own. -/
theorem filter_flatMap_reports (hids : (rules.map Rule.id).Nodup) (hr : r ∈ rules) :
    (rules.flatMap (reports document)).filter (fun d => d.ruleId = r.id) = reports document r := by
  obtain ⟨before, after, rfl⟩ := List.append_of_mem hr
  rw [List.map_append, List.map_cons, List.nodup_middle, List.nodup_cons, List.mem_append, not_or] at hids
  obtain ⟨⟨hbefore, hafter⟩, -⟩ := hids
  have hown : (reports document r).filter (fun d => d.ruleId = r.id) = reports document r := by
    rw [List.filter_eq_self]
    intro d hd
    simpa using ruleId_of_mem_reports hd
  rw [List.flatMap_append, List.flatMap_cons, List.filter_append, List.filter_append,
    filter_flatMap_reports_of_notMem hbefore, filter_flatMap_reports_of_notMem hafter, hown, List.nil_append,
    List.append_nil]

/-- An analysis sorts the reports of the rules and leaves out what is suppressed. -/
theorem analyzeWith_eq (hread : Document.readWith markdown source = .ok document) (rules : List Rule) :
    analyzeWith markdown rules source = .ok
      ⟨Suppression.apply ((rules.flatMap (reports document)).mergeSort before) source,
        (rules.filter (breaksDown document)).map Rule.id⟩ := by
  rw [analyzeWith, hread]
  simp only [Except.map, runRules_eq]

/-- What is given for some rules under the name of one of them depends on this rule alone. -/
theorem filter_apply_mergeSort_reports (hids : (rules.map Rule.id).Nodup) (hr : r ∈ rules) :
    (Suppression.apply ((rules.flatMap (reports document)).mergeSort before) source).filter
        (fun d => d.ruleId = r.id) =
      Suppression.apply ((reports document r).mergeSort before) source := by
  rw [Suppression.filter_apply, filter_mergeSort before_iff, filter_flatMap_reports hids hr]

/-- Take rules with different names and a text that can be read. Its analysis is sorted by line and column, and keeps at
each place the order of the rules and that of their reports. For each rule it gives what the analysis with this rule
alone gives; so any two lists of rules agree on the rules that they share. A rule that breaks down gives nothing, and
without it the analysis is the same. -/
theorem analyzeWith_isolated (hread : Document.readWith markdown source = .ok document)
    (hids : (rules.map Rule.id).Nodup) :
    ∃ findings, analyzeWith markdown rules source = .ok findings ∧
      (findings.diagnostics.Pairwise fun a b => a.key ≤ b.key) ∧
      (∀ place, findings.diagnostics.filter (fun d => d.key = place) =
        (Suppression.apply (rules.flatMap (reports document)) source).filter fun d => d.key = place) ∧
      (∀ r ∈ rules, ∃ own, analyzeWith markdown [r] source = .ok own ∧
        findings.diagnostics.filter (fun d => d.ruleId = r.id) = own.diagnostics) ∧
      (∀ others : List Rule, (others.map Rule.id).Nodup →
        ∃ findings', analyzeWith markdown others source = .ok findings' ∧ ∀ r ∈ rules, r ∈ others →
          findings.diagnostics.filter (fun d => d.ruleId = r.id) =
            findings'.diagnostics.filter fun d => d.ruleId = r.id) ∧
      ∀ first r rest, rules = first ++ r :: rest → breaksDown document r = true →
        (∀ d ∈ findings.diagnostics, d.ruleId ≠ r.id) ∧
        ∃ without, analyzeWith markdown (first ++ rest) source = .ok without ∧
          without.diagnostics = findings.diagnostics := by
  refine ⟨_, analyzeWith_eq hread rules, ?_, fun place => ?_, fun r hr => ?_, fun others hothers => ?_, ?_⟩
  · exact (pairwise_mergeSort_key before_iff _).filter _
  · rw [Suppression.filter_apply, filter_mergeSort_key before_iff, Suppression.filter_apply]
  · refine ⟨_, analyzeWith_eq hread [r], ?_⟩
    rw [filter_apply_mergeSort_reports hids hr, List.flatMap_singleton]
  · refine ⟨_, analyzeWith_eq hread others, fun r hr hother => ?_⟩
    rw [filter_apply_mergeSort_reports hids hr, filter_apply_mergeSort_reports hothers hother]
  · rintro first r rest rfl hbreaks
    have hnone := reports_of_breaksDown hbreaks
    constructor
    · intro d hd hid
      have hown : d ∈ Suppression.apply ((reports document r).mergeSort before) source := by
        rw [← filter_apply_mergeSort_reports hids (by simp)]
        exact List.mem_filter.2 ⟨hd, by simpa using hid⟩
      rw [hnone] at hown
      exact absurd hown (by simp [Suppression.apply])
    · refine ⟨_, analyzeWith_eq hread (first ++ rest), ?_⟩
      simp only [List.flatMap_append, List.flatMap_cons, hnone, List.nil_append]

/-- Two rules that report at the same places, around one that breaks down. -/
def tiedRules : List Rule := [
  scripted "first" [.message "a" (.point ⟨1, 2, 1⟩), .message "b" (.point ⟨1, 1, 0⟩)],
  breaking,
  scripted "second" [.message "c" (.point ⟨1, 2, 1⟩), .fail "d"]]

/-- At each place the first rule comes first, and the rule that breaks down can be left out. -/
theorem analyzeWith_isolated_tied :
    ∃ document, Document.readWith Markdown.elements "> a".toList = .ok document ∧ (tiedRules.map Rule.id).Nodup ∧
      ∃ findings, analyzeWith Markdown.elements tiedRules "> a".toList = .ok findings ∧
        (findings.diagnostics.filter (fun d => d.key = toLex (1, 1))).map Diagnostic.message = ["b", "d"] ∧
        (findings.diagnostics.filter (fun d => d.key = toLex (1, 2))).map Diagnostic.message = ["a", "c"] ∧
        ∃ without, analyzeWith Markdown.elements [tiedRules[0], tiedRules[2]] "> a".toList = .ok without ∧
          without.diagnostics = findings.diagnostics := by
  have hids : (tiedRules.map Rule.id).Nodup := by decide
  have hok : (Document.readWith Markdown.elements "> a".toList).isOk = true := by decide +kernel
  cases hread : Document.readWith Markdown.elements "> a".toList with
  | error e =>
    rw [hread] at hok
    cases hok
  | ok document =>
    obtain ⟨findings, hfindings, -, hplaces, -, -, hbreaks⟩ := analyzeWith_isolated hread hids
    have hreports : tiedRules.flatMap (reports document) = [
        { ruleId := "first", message := "a", start := some ⟨1, 2, 1⟩ },
        { ruleId := "first", message := "b", start := some ⟨1, 1, 0⟩ },
        { ruleId := "second", message := "c", start := some ⟨1, 2, 1⟩ }, .ofFailure "second" "d"] := rfl
    rw [hreports] at hplaces
    refine ⟨document, rfl, hids, findings, hfindings, ?_, ?_, (hbreaks [_] breaking [_] rfl rfl).2⟩
    · rw [hplaces]
      decide +kernel
    · rw [hplaces]
      decide +kernel

end Analysis
end MarkLint

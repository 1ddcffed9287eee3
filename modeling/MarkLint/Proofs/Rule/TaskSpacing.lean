import MarkLint.Proofs.Document.Tasks
import MarkLint.Proofs.Rule.Protocol
import MarkLint.Proofs.Rule.Returns

/-!
# White space after checkboxes

The rule about checkboxes looks for a checkbox right before the content of a marked item, where the builder has put it,
and measures the white space from there. On a document that is built it reports exactly the items whose checkbox is
followed by more than one space or tab, in document order, each with the white space that is too much
(`check_tasks`).
-/

namespace MarkLint.CheckboxContentIndent

open MarkLint.Document
open MarkLint.Text

variable {source : List Char} {item : Node} {i c : Nat} {blanks rest : List Char}

/-- The warning about white space of the given length after the checkbox at a column of a line and one character. -/
def excess (source : List Char) (i c extra : Nat) : Diagnostic where
  ruleId := "checkbox-content-indent"
  message := "Checkboxes should be followed by a single character"
  start := some (Point.onLine (lines source) i (c + 4))
  stop := some (Point.onLine (lines source) i (c + 4 + extra))
  severity := .warning
  fatal := false

/-- What is reported for an item: nothing without a mark, or if a single character of white space follows its checkbox;
otherwise all the white space after that character. -/
inductive IsReport (source : List Char) (item : Node) : List Diagnostic → Prop
  | unmarked : item.checked = none → IsReport source item []
  | single {i c : Nat} {rest : List Char} : MarkedBy source item i c rest → (∀ d ∈ rest.head?, isIndent d = false) →
      IsReport source item []
  | several {i c : Nat} {blanks rest : List Char} : MarkedBy source item i c (blanks ++ rest) → blanks ≠ [] →
      blanks.all isIndent = true → (∀ d ∈ rest.head?, isIndent d = false) →
      IsReport source item [excess source i c blanks.length]

/-! ## One item -/

/-- The call about white space that is too much. -/
def call (source : List Char) (i c extra : Nat) : Call where
  text := "Checkboxes should be followed by a single character"
  place := .span ⟨some (Point.onLine (lines source) i (c + 4)), some (Point.onLine (lines source) i (c + 4 + extra))⟩

/-- White space ends before a character that is none. -/
theorem takeWhile_isIndent (hblanks : blanks.all isIndent = true) (hrest : ∀ d ∈ rest.head?, isIndent d = false) :
    (blanks ++ rest).takeWhile isIndent = blanks := by
  rw [List.takeWhile_append_of_pos (List.all_eq_true.1 hblanks)]
  cases rest with
  | nil => simp
  | cons d rest => simp [hrest d rfl]

/-- From right after a checkbox the white space up to the next character of the line is reported. -/
theorem report_of_line {l : List Char} {mark space : Char} (hi : (lines source)[i]? = some l)
    (hline : l.drop c = '[' :: mark :: ']' :: space :: (blanks ++ rest)) (hmark : isMark mark = true)
    (hspace : isIndent space = true) (hblanks : blanks.all isIndent = true)
    (hrest : ∀ d ∈ rest.head?, isIndent d = false) :
    report (Location.ofText source) (Point.onLine (lines source) i (c + 4))
      = if blanks = [] then [] else [(call source i c blanks.length).step] := by
  have hbox : checkbox? (l.drop c) = some (mark == 'x' || mark == 'X', 4) :=
    checkbox?_eq_some_iff.2 ⟨mark, space, blanks ++ rest, hline, hmark, hspace, rfl, rfl⟩
  have hlength : c + 4 + blanks.length ≤ l.length := by
    have := congrArg List.length hline
    simp only [List.length_drop, List.length_cons, List.length_append] at this
    omega
  obtain ⟨next, hnext, hdrop⟩ := exists_drop_lineStart hi (show c + 4 ≤ l.length by omega)
  have hafter : l.drop (c + 4) = blanks ++ rest := by
    rw [← List.drop_drop, hline]
    rfl
  have hextra : (source.drop (Point.onLine (lines source) i (c + 4)).offset.toNat).takeWhile isIndent = blanks := by
    have hoffset : (Point.onLine (lines source) i (c + 4)).offset.toNat = lineStart (lines source) i + (c + 4) := rfl
    rw [hoffset, hdrop, hafter, List.append_assoc]
    refine takeWhile_isIndent hblanks fun d hd => ?_
    cases rest with
    | cons e rest => exact hrest d hd
    | nil =>
      rcases hnext with rfl | ⟨t, rfl⟩
      · cases hd
      · cases hd
        decide
  have hstop : (Point.onLine (lines source) i (c + 4)).offset + blanks.length
      = (Point.onLine (lines source) i (c + 4 + blanks.length)).offset := by
    simp only [Point.onLine]
    omega
  have hsource : (Location.ofText source).source = source := rfl
  simp only [report, hasCheckbox_slice hi hbox, if_true, hsource, hextra, hstop, Location.toPoint_onLine hi hlength,
    Location.toPoint_onLine hi (show c + 4 ≤ l.length by omega), List.length_eq_zero_iff]
  rfl

/-- An item without a mark is passed over. -/
theorem inspect_unmarked (h : item.checked = none) : inspect (Location.ofText source) item = [] := by
  simp [inspect, h]

/-- In a sound tree a marked item is reported from right after its checkbox. -/
theorem inspect_markedBy {tree : Node} (hsound : ∀ n ∈ tree.preorder, IsSound source n) (hitem : item ∈ tree.preorder)
    (hplace : item.position.isSome = true) (h : MarkedBy source item i c (blanks ++ rest))
    (hblanks : blanks.all isIndent = true) (hrest : ∀ d ∈ rest.head?, isIndent d = false) :
    inspect (Location.ofText source) item = if blanks = [] then [] else [(call source i c blanks.length).step] := by
  obtain ⟨⟨l, mark, space, hi, hline, hmark, hspace, hchecked⟩, content, hcontent, hstart⟩ := h
  obtain ⟨content', position, hcontent', hposition, -, hpoint⟩ :=
    contentStart_eq hsound hitem (by rw [hchecked]; rfl)
  obtain rfl : content = content' := Option.some.inj (hcontent.symm.trans hcontent')
  have hstart' : contentStart (Location.ofText source) item = some (Point.onLine (lines source) i (c + 4)) := by
    rw [hpoint, ← hstart, Node.start?, hposition]
    rfl
  have hgenerated : item.isGenerated (some (Location.ofText source)) = false := by
    rw [(hsound item hitem).isGenerated_eq, hplace]
    rfl
  simp only [inspect, hchecked, Option.isNone_some, hgenerated, Bool.or_self, Bool.false_eq_true, if_false, hstart']
  exact report_of_line hi hline hmark hspace hblanks hrest

/-- Each item of a document gives the calls of its report. -/
theorem exists_isReport {elements : List Markdown.Element} {frontMatter : Nat} {tree : Node}
    (h : buildTree source elements frontMatter = .ok tree) (hitem : item ∈ tree.walk (.kind "listItem")) :
    ∃ calls, inspect (Location.ofText source) item = calls.map Call.step ∧
      IsReport source item (Call.warnings (Location.ofText source) id calls) := by
  cases hchecked : item.checked with
  | none => exact ⟨[], inspect_unmarked hchecked, .unmarked hchecked⟩
  | some checked =>
    obtain ⟨s, inner, -, hbuilds⟩ := exists_builds_of_checked h (by decide) hitem (by rw [hchecked]; rfl)
    obtain ⟨i, c, after, hmarked⟩ := hbuilds.exists_markedBy (by rw [hchecked]; rfl)
    have hrest : ∀ d ∈ (after.dropWhile isIndent).head?, isIndent d = false := by
      intro d hd
      have hnot := List.head?_dropWhile_not isIndent after
      rw [Option.mem_def.1 hd] at hnot
      exact hnot
    rw [← List.takeWhile_append_dropWhile (p := isIndent) (l := after)] at hmarked
    have hinspect := inspect_markedBy (isTree_of_buildTree_eq_ok h).isSound ((tree.walk_sublist _).subset hitem)
      (by rw [hbuilds.kind_position.2]; rfl) hmarked List.all_takeWhile hrest
    by_cases hblanks : after.takeWhile isIndent = []
    · rw [if_pos hblanks] at hinspect
      rw [hblanks] at hmarked
      exact ⟨[], hinspect, .single hmarked hrest⟩
    · rw [if_neg hblanks] at hinspect
      exact ⟨[_], hinspect, .several hmarked hblanks List.all_takeWhile hrest⟩

/-! ## All items -/

/-- The calls of several items are the calls of each of them, in their order. -/
theorem exists_calls_flatMap {loc : Location} {P : Node → List Diagnostic → Prop} : ∀ {items : List Node},
    (∀ item ∈ items, ∃ calls, inspect loc item = calls.map Call.step ∧ P item (Call.warnings loc id calls)) →
    ∃ calls reports, items.flatMap (inspect loc) = calls.map Call.step ∧ List.Forall₂ P items reports ∧
      Call.warnings loc id calls = reports.flatten
  | [], _ => ⟨[], [], rfl, .nil, rfl⟩
  | item :: items, h => by
    obtain ⟨first, hfirst, hreport⟩ := h item List.mem_cons_self
    obtain ⟨calls, reports, hcalls, hreports, hflatten⟩ :=
      exists_calls_flatMap fun item' hitem' => h item' (List.mem_cons_of_mem _ hitem')
    refine ⟨first ++ calls, _ :: reports, ?_, .cons hreport hreports, ?_⟩
    · rw [List.flatMap_cons, hfirst, hcalls, List.map_append]
    · rw [List.flatten_cons, ← hflatten]
      simp only [Call.warnings, List.filter_append, List.map_append]

/-- On a document that is built, the rule reports the list items in document order: nothing for an item without a mark,
or with a single character of white space after its checkbox, and otherwise the white space after that character, up to
the next character or the end of the line. -/
theorem check_tasks {elements : List Markdown.Element} {frontMatter : Nat} {tree : Node}
    (h : buildTree source elements frontMatter = .ok tree) : ∃ reports,
      List.Forall₂ (IsReport source) (tree.walk (.kind "listItem")) reports ∧
      rule.check tree source = .ok reports.flatten := by
  obtain ⟨calls, reports, hcalls, hreports, hflatten⟩ := exists_calls_flatMap fun item hitem =>
    @exists_isReport source item _ _ _ h hitem
  refine ⟨reports, hreports, ?_⟩
  rw [← hflatten]
  have hsteps : steps tree (Location.ofText source) = calls.map Call.step ++ [] := by
    rw [List.append_nil]
    exact hcalls
  exact @Rule.check_of_accepted rule tree source ⟨none, steps⟩ calls [] rfl hsteps

/-- A paragraph on one line. -/
def lineText (line : Nat) (content : String) : Markdown.Element where
  kind := "paragraph"
  lines := some (line, line + 1)
  children := [{ kind := "text", content := content }]

/-- An item with a paragraph on its first line, and a line for each block below. -/
def taskOn (line : Nat) (content : String) (below : List Markdown.Element) : Markdown.Element where
  kind := "list_item"
  lines := some (line, line + 1 + below.length)
  markup := "-"
  children := lineText line content :: below

/-- A task with another one in it, a task with a tab after its checkbox, and an item that is no task. -/
def mixedTasks : List Markdown.Element := [{ kind := "bullet_list", lines := some (0, 4), children := [
  taskOn 0 "[x]  a" [{ kind := "bullet_list", lines := some (1, 2), children := [taskOn 1 "[ ]" []] }],
  taskOn 2 "[X]\tc" [], taskOn 3 "d" []] }]

/-- The text of these tasks; nothing but white space follows the inner one. -/
def mixedTasksText : List Char := "- [x]  a\n  - [ ] \t \n- [X]\tc\n- d".toList

/-- Both tasks with more than one character of white space are reported. -/
theorem check_tasks_mixed : ∃ tree reports, buildTree mixedTasksText mixedTasks 0 = .ok tree ∧
    List.Forall₂ (IsReport mixedTasksText) (tree.walk (.kind "listItem")) reports ∧
    rule.check tree mixedTasksText = .ok reports.flatten ∧
    reports.flatten = [excess mixedTasksText 0 2 1, excess mixedTasksText 1 4 2] := by
  have hbuilt : (buildTree mixedTasksText mixedTasks 0).toOption.map (fun tree =>
      (rule.check tree mixedTasksText).toOption)
        = some (some [excess mixedTasksText 0 2 1, excess mixedTasksText 1 4 2]) := by
    decide +kernel
  obtain ⟨tree, htree, hcheck⟩ := map_toOption_eq_some_iff.1 hbuilt
  obtain ⟨reports, hreports, hreported⟩ := check_tasks htree
  rw [hreported] at hcheck
  exact ⟨tree, reports, htree, hreports, hreported, Option.some.inj hcheck⟩

end MarkLint.CheckboxContentIndent

import MarkLint.Proofs.Document.Returns
import MarkLint.Proofs.Rule.Order

/-!
# Rules on texts with carriage returns

On a tree whose nodes have shifted places, in the text with carriage returns, each built-in rule takes the same steps at
shifted places (`shifts_of_mem`), so a check gives the same diagnostics at shifted places (`Rule.Shifts.check`). A rule
that reads the source itself reads it between two places, where the text is the same with its carriage returns, or right
after a checkbox, which is on one line with it.
-/

namespace MarkLint

open MarkLint.Document
open MarkLint.Text

/-! ## Steps at other points -/

/-- The diagnostic with its points changed. -/
def Diagnostic.mapPoints (f : Point → Point) (d : Diagnostic) : Diagnostic :=
  { d with start := d.start.map f, stop := d.stop.map f }

@[simp] theorem Diagnostic.line_shift (s : List Char) (d : Diagnostic) :
    (d.mapPoints (Point.shift s)).line = d.line := by
  rw [line, mapPoints, Option.map_map]
  rfl

@[simp] theorem Diagnostic.column_shift (s : List Char) (d : Diagnostic) :
    (d.mapPoints (Point.shift s)).column = d.column := by
  rw [column, mapPoints, Option.map_map]
  rfl

/-- The place with its points changed. -/
def Place.mapPoints (f : Point → Point) : Place → Place
  | .node n => .node (n.mapPoints f)
  | .span p => .span (p.mapPoints f)
  | .point p => .point (f p)
  | .nowhere => .nowhere

/-- The step with its points changed. -/
def Step.mapPoints (f : Point → Point) : Step → Step
  | .message text place => .message text (place.mapPoints f)
  | .fail text => .fail text
  | .breakDown reason => .breakDown reason

/-- The reporter of the text with carriage returns, with the same messages at shifted places. -/
def Reporter.shift (s : List Char) (r : Reporter) : Reporter where
  location := Location.ofText (withReturns s)
  ruleId := r.ruleId
  messages := r.messages.map (Diagnostic.mapPoints (Point.shift s))

variable {s : List Char} {tree tree' : Node}

/-- A node at a shifted place is generated exactly if the node is. -/
theorem Node.isGenerated_shift (s : List Char) (n : Node) :
    (n.mapPoints (Point.shift s)).isGenerated (some (Location.ofText (withReturns s)))
      = n.isGenerated (some (Location.ofText s)) := by
  rw [isGenerated, isGenerated, position_mapPoints, isWellFormed_shift]

theorem Reporter.message_shift {r : Reporter} (h : r.location = Location.ofText s) (text : String) (place : Place) :
    (r.shift s).message text (place.mapPoints (Point.shift s)) = (r.message text place).shift s := by
  have hends : (r.shift s).ends? (place.mapPoints (Point.shift s))
      = (r.ends? place).map fun p => (p.1.map (Point.shift s), p.2.map (Point.shift s)) := by
    cases place with
    | node n =>
      simp only [Place.mapPoints, ends?, Reporter.isGenerated, shift, h, Node.isGenerated_shift, Node.start?_mapPoints,
        Node.stop?_mapPoints]
      split <;> rfl
    | span p => rfl
    | point p => rfl
    | nowhere => rfl
  have hwarning : (r.shift s).warning? text (place.mapPoints (Point.shift s))
      = (r.warning? text place).map (Diagnostic.mapPoints (Point.shift s)) := by
    rw [warning?, hends, warning?, Option.map_map, Option.map_map]
    rfl
  rw [message, message, hwarning]
  simp only [shift, List.map_append]
  cases r.warning? text place <;> rfl

/-- The same steps at shifted places end as before, with the same messages at shifted places. -/
theorem Rule.play_shift : ∀ (steps : List Step) {r : Reporter}, r.location = Location.ofText s →
    Rule.play (r.shift s) (steps.map (Step.mapPoints (Point.shift s)))
      = (Rule.play r steps).map (List.map (Diagnostic.mapPoints (Point.shift s)))
  | [], _, _ => rfl
  | .message text place :: rest, r, h => by
    rw [List.map_cons, Step.mapPoints, play, play, Reporter.message_shift h]
    exact play_shift rest h
  | .fail text :: _, r, _ => by
    rw [List.map_cons, Step.mapPoints, play, play, Except.map, Reporter.fail, Reporter.fail, List.map_append]
    rfl
  | .breakDown _ :: _, _, _ => rfl

/-- On shifted trees the rule takes the same steps at shifted places, with any option that it accepts. -/
def Rule.Shifts (r : Rule) : Prop :=
  ∀ option setup, r.read option = .ok setup → ∀ {s tree tree'}, (∀ n ∈ tree.preorder, IsSound s n) →
    IsShifted s tree tree' → setup.steps tree' (Location.ofText (withReturns s))
      = (setup.steps tree (Location.ofText s)).map (Step.mapPoints (Point.shift s))

/-- The check of a rule ends as before, with the same diagnostics at shifted places. -/
theorem Rule.Shifts.check {r : Rule} (h : r.Shifts) (option : Option Scalar) (hsound : ∀ n ∈ tree.preorder, IsSound s n)
    (hshifted : IsShifted s tree tree') : ({ r with option := option } : Rule).check tree' (withReturns s)
      = (({ r with option := option } : Rule).check tree s).map (List.map (Diagnostic.mapPoints (Point.shift s))) := by
  unfold Rule.check
  dsimp only
  cases hread : r.read option with
  | error fault => cases fault <;> rfl
  | ok setup =>
    have hsteps := h option setup hread hsound hshifted
    have hplay := @Rule.play_shift s (setup.steps tree (Location.ofText s)) (Reporter.ofSource s r.id) rfl
    rw [← hsteps] at hplay
    exact hplay

/-! ## Headings -/

/-- A heading at a shifted place is reported there. -/
theorem HeadingLength.shifts : HeadingLength.rule.Shifts := by
  intro option setup hread s tree tree' _ h
  refine Rule.steps_of_map (P := fun steps => steps tree' _ = (steps tree _).map _) (fun _ => rfl) (fun limit => ?_)
    hread
  have htest : (fun n : Node => !n.isGenerated (some (Location.ofText (withReturns s))) && isTooLong limit n)
      ∘ Node.mapPoints (Point.shift s) = fun n => !n.isGenerated (some (Location.ofText s)) && isTooLong limit n := by
    funext n
    simp only [Function.comp_apply, Node.isGenerated_shift, isTooLong, Node.plainText_mapPoints]
  simp only [steps, h "heading" (by decide) (by decide), List.filter_map, htest, List.map_map]
  rfl

theorem DuplicateHeadings.lookup_map {α β γ : Type} [BEq α] (f : β → γ) (k : α) : ∀ pairs : List (α × β),
    (pairs.map fun p => (p.1, f p.2)).lookup k = (pairs.lookup k).map f
  | [] => rfl
  | (a, b) :: rest => by
    rw [List.map_cons, List.lookup_cons, List.lookup_cons, lookup_map f k rest]
    cases k == a <;> rfl

/-- Earlier headings are remembered with their lines and columns. -/
theorem DuplicateHeadings.report_shift (earlier n : Node) :
    report (earlier.mapPoints (Point.shift s)) (n.mapPoints (Point.shift s))
      = (report earlier n).mapPoints (Point.shift s) := by
  have hshow : showPoint (earlier.start?.map (Point.shift s)) = showPoint earlier.start? := by
    cases earlier.start? <;> rfl
  rw [report, report, Node.start?_mapPoints, hshow]
  rfl

theorem DuplicateHeadings.repeats_shift {fold : List Char → List Char} : ∀ {nodes : List Node}
    {seen : List (List Char × Node)}, repeats fold (seen.map fun p => (p.1, p.2.mapPoints (Point.shift s)))
        (nodes.map (Node.mapPoints (Point.shift s)))
      = (repeats fold seen nodes).map (Step.mapPoints (Point.shift s))
  | [], _ => rfl
  | n :: rest, seen => by
    have hkey : key fold (n.mapPoints (Point.shift s)) = key fold n := by
      rw [key, key, Node.plainText_mapPoints]
    have ih := @repeats_shift fold rest ((key fold n, n) :: seen)
    rw [List.map_cons] at ih
    simp only [List.map_cons, repeats, hkey, ih, lookup_map]
    cases seen.lookup (key fold n) with
    | none => rfl
    | some earlier => exact congrArg (· :: _) (report_shift earlier n)

theorem DuplicateHeadings.shifts : DuplicateHeadings.rule.Shifts := by
  intro option setup hread s tree tree' _ h
  refine Rule.steps_of_readNothing (P := fun steps => steps tree' _ = (steps tree _).map _) rfl ?_ hread
  have htest : (fun n : Node => !n.isGenerated (some (Location.ofText (withReturns s))))
      ∘ Node.mapPoints (Point.shift s) = fun n => !n.isGenerated (some (Location.ofText s)) := by
    funext n
    rw [Function.comp_apply, Node.isGenerated_shift]
  rw [stepsBy, stepsBy, h "heading" (by decide) (by decide), List.filter_map, htest]
  exact @repeats_shift s upper _ []

/-! ## Block quotes and code blocks -/

theorem BlockquoteIndentation.isSkipped_shift (n : Node) :
    isSkipped (Location.ofText (withReturns s)) (n.mapPoints (Point.shift s)) = isSkipped (Location.ofText s) n := by
  rw [isSkipped, isSkipped, Node.isGenerated_shift, Node.children_mapPoints, List.head?_map]
  cases n.children.head? with
  | none => rfl
  | some content => exact congrArg (_ || ·) (Node.isGenerated_shift s content)

/-- Columns are measured as before. -/
theorem BlockquoteIndentation.indentation_shift (n : Node) :
    indentation (n.mapPoints (Point.shift s)) = indentation n := by
  simp only [indentation, Node.children_mapPoints, List.head?_map, Node.start?_mapPoints]
  cases n.children.head? with
  | none => rfl
  | some content =>
    simp only [Option.map_some, Option.bind_eq_bind, Option.bind_some, Node.start?_mapPoints]
    cases content.start? with
    | none => rfl
    | some inner => cases n.start? <;> rfl

theorem BlockquoteIndentation.report_shift (v : Style.Verdict Node Int) :
    report (v.mapItem (Node.mapPoints (Point.shift s))) = (report v).mapPoints (Point.shift s) := by
  obtain ⟨n, preferred, observed⟩ := v
  simp only [report, Style.Verdict.mapItem, Node.children_mapPoints, List.head?_map]
  cases observed with
  | none => rfl
  | some observed =>
    cases n.children.head? with
    | none => rfl
    | some content =>
      simp only [Option.map_some, Node.start?_mapPoints]
      cases advice (preferred - observed) with
      | error reason => rfl
      | ok text => cases content.start? <;> rfl

/-- Verdicts on nodes at shifted places are reported at shifted places. -/
theorem map_mismatches_shift {σ : Type} [DecidableEq σ] {skip skip' : Node → Bool} {style style' : Node → Option σ}
    {preferred : Option σ} {report : Style.Verdict Node σ → Step} {nodes : List Node}
    (hskip : ∀ n, skip' (n.mapPoints (Point.shift s)) = skip n)
    (hstyle : ∀ n, skip n = false → style' (n.mapPoints (Point.shift s)) = style n)
    (hreport : ∀ v, report (v.mapItem (Node.mapPoints (Point.shift s))) = (report v).mapPoints (Point.shift s)) :
    (Style.mismatches skip' style' preferred (nodes.map (Node.mapPoints (Point.shift s)))).map report
      = ((Style.mismatches skip style preferred nodes).map report).map (Step.mapPoints (Point.shift s)) := by
  rw [Style.mismatches_map (fun n _ => hskip n) fun n _ => hstyle n, List.map_map, List.map_map]
  exact List.map_congr_left fun v _ => hreport v

theorem BlockquoteIndentation.shifts : BlockquoteIndentation.rule.Shifts := by
  intro option setup hread s tree tree' _ h
  refine Rule.steps_of_map (P := fun steps => steps tree' _ = (steps tree _).map _) (fun _ => rfl) (fun indent => ?_)
    hread
  rw [steps, h "blockquote" (by decide) (by decide)]
  exact map_mismatches_shift isSkipped_shift (fun n _ => indentation_shift n) report_shift

/-- A fence is three times the same character, on one line. -/
theorem CodeBlockStyle.opensFence_iff {t : List Char} :
    opensFence t = true ↔ ∃ c, (c = '~' ∨ c = '\x60') ∧ [c, c, c] <+: trimStart t := by
  unfold opensFence
  split
  · rename_i a b c rest heq
    simp only [Bool.and_eq_true, Bool.or_eq_true, beq_iff_eq, heq, List.cons_prefix_cons]
    constructor
    · rintro ⟨⟨ha, rfl⟩, rfl⟩
      exact ⟨_, ha, rfl, rfl, rfl, List.nil_prefix⟩
    · rintro ⟨d, hd, rfl, rfl, rfl, -⟩
      exact ⟨⟨hd, rfl⟩, rfl⟩
  · rename_i hshort
    refine iff_of_false Bool.false_ne_true ?_
    rintro ⟨c, -, rest, hrest⟩
    exact hshort c c c rest hrest.symm

theorem CodeBlockStyle.opensFence_withReturns (t : List Char) : opensFence (withReturns t) = opensFence t := by
  rw [Bool.eq_iff_iff, opensFence_iff, opensFence_iff, trimStart_withReturns]
  refine exists_congr fun c => and_congr_right fun hc => prefix_withReturns_iff (fun d hd => ?_) _
  simp only [List.mem_cons, List.not_mem_nil, or_false, or_self] at hd
  rcases hc with rfl | rfl <;> rw [hd] <;> decide

/-- The style shows between the ends of the code block. -/
theorem CodeBlockStyle.codeStyle_shift {n : Node} (h : n.isGenerated (some (Location.ofText s)) = false) :
    codeStyle (Location.ofText (withReturns s)) (n.mapPoints (Point.shift s)) = codeStyle (Location.ofText s) n := by
  obtain ⟨start, stop, hposition, hle, hstart, hstop⟩ := Node.ends_of_not_isGenerated h
  have hslice := @Location.slice_shift s _ _ (Location.offset_of_isResolvable hstart).1 hle
    (Location.offset_of_isResolvable hstop).2
  have hn : n.start? = some start ∧ n.stop? = some stop :=
    ⟨Node.start?_of_position hposition, Node.stop?_of_position hposition⟩
  simp only [codeStyle, Node.lang_mapPoints, Node.start?_mapPoints, Node.stop?_mapPoints, hn, Option.map_some,
    Option.bind_eq_bind, Option.bind_some, hslice, opensFence_withReturns]

theorem CodeBlockStyle.report_shift {n : Node} {style : Option CodeStyle} {preferred : CodeStyle} :
    report (Style.Verdict.mapItem (Node.mapPoints (Point.shift s)) ⟨n, preferred, style⟩)
      = (report ⟨n, preferred, style⟩).mapPoints (Point.shift s) := by
  cases style <;> rfl

theorem CodeBlockStyle.shifts : CodeBlockStyle.rule.Shifts := by
  intro option setup hread s tree tree' _ h
  refine Rule.steps_of_map (P := fun steps => steps tree' _ = (steps tree _).map _) (fun _ => rfl) (fun style => ?_)
    hread
  rw [steps, h "code" (by decide) (by decide)]
  exact map_mismatches_shift (Node.isGenerated_shift s) (fun n => codeStyle_shift) fun _ => report_shift

/-! ## Checkboxes -/

namespace CheckboxContentIndent

/-- Before the place right after a checkbox stands the checkbox. -/
theorem hasCheckbox_slice {i c width : Nat} {l : List Char} {checked : Bool} (hi : (lines s)[i]? = some l)
    (hbox : checkbox? (l.drop c) = some (checked, width)) :
    hasCheckbox ((Location.ofText s).slice (max ((Point.onLine (lines s) i (c + width)).offset - 4) 0)
      ((Point.onLine (lines s) i (c + width)).offset + 1)) = true := by
  have hle := checkbox?_add_le_length hbox
  obtain ⟨rest, -, hrest⟩ := exists_drop_lineStart hi (Nat.le_trans (Nat.le_add_right c width) hle)
  unfold checkbox? at hbox
  split at hbox
  · rename_i x d more hdrop
    split at hbox
    · rename_i hx
      obtain ⟨-, rfl⟩ : _ ∧ 4 = width := by simpa using hbox
      have hslice : (Location.ofText s).slice (max ((Point.onLine (lines s) i (c + 4)).offset - 4) 0)
          ((Point.onLine (lines s) i (c + 4)).offset + 1)
          = (s.drop (lineStart (lines s) i + c)).take 5 := by
        have hstart : (max ((Point.onLine (lines s) i (c + 4)).offset - 4) 0).toNat = lineStart (lines s) i + c := by
          simp only [Point.onLine]
          omega
        have hstop : ((Point.onLine (lines s) i (c + 4)).offset + 1).toNat = lineStart (lines s) i + c + 5 := by
          simp only [Point.onLine]
          omega
        rw [Location.slice, hstart, hstop, List.drop_take, Nat.add_sub_cancel_left]
        rfl
      rw [Bool.and_eq_true] at hx
      rw [hslice, hrest, hdrop]
      simp [hasCheckbox, hx.1]
    · cases hbox
  · cases hbox

/-- The white space from a place on holds no line feed. -/
theorem offset_shift_add {p q : Point} (hp : (Location.ofText s).isResolvable p = true)
    (hq : (Location.ofText s).toPoint (p.offset + ((s.drop p.offset.toNat).takeWhile isIndent).length) = .ok q) :
    (q.shift s).offset = (p.shift s).offset + ((s.drop p.offset.toNat).takeWhile isIndent).length := by
  have h0 := (Location.offset_of_isResolvable hp).1
  have hoffset := Location.offset_of_toPoint hq
  generalize hblanks : (s.drop p.offset.toNat).takeWhile isIndent = blanks at *
  have hprefix : (s.drop p.offset.toNat).take blanks.length = blanks := by
    rw [← hblanks]
    exact (List.prefix_iff_eq_take.1 (List.takeWhile_prefix _)).symm
  have hcount : blanks.count '\n' = 0 := by
    refine List.count_eq_zero.2 fun hmem => ?_
    have := List.all_eq_true.1 (List.all_takeWhile (p := isIndent) (l := s.drop p.offset.toNat)) '\n' (hblanks ▸ hmem)
    revert this
    decide
  have htake : (s.take q.offset.toNat).count '\n' = (s.take p.offset.toNat).count '\n' := by
    rw [hoffset, show (p.offset + blanks.length).toNat = p.offset.toNat + blanks.length by omega, List.take_add,
      hprefix, List.count_append, hcount, Nat.add_zero]
  simp only [Point.shift, htake]
  omega

/-- Right after a checkbox the white space is as long. -/
theorem report_shift {i c width : Nat} {l : List Char} {checked : Bool} (hi : (lines s)[i]? = some l)
    (hbox : checkbox? (l.drop c) = some (checked, width)) :
    report (Location.ofText (withReturns s)) ((Point.onLine (lines s) i (c + width)).shift s)
      = (report (Location.ofText s) (Point.onLine (lines s) i (c + width))).map (Step.mapPoints (Point.shift s)) := by
  have hle := checkbox?_add_le_length hbox
  have hresolvable := Location.isResolvable_onLine hi hle
  have hsame := Point.shift_onLine hi hle
  obtain ⟨l', hi', hl'⟩ := exists_line_withReturns hi
  have hbox' : checkbox? (l'.drop c) = some (checked, width) :=
    (hl'.checkbox?_eq (Nat.le_trans (Nat.le_add_right c width) hle)).trans hbox
  have hcheckbox := hasCheckbox_slice hi hbox
  have hcheckbox' := hasCheckbox_slice hi' hbox'
  rw [← hsame] at hcheckbox'
  generalize Point.onLine (lines s) i (c + width) = p at *
  obtain ⟨stop, hstop⟩ := exists_stop hresolvable
  have hstop' := Location.toPoint_shift hstop
  rw [offset_shift_add hresolvable hstop] at hstop'
  have hstart := Location.toPoint_of_isResolvable hresolvable
  have hstart' := Location.toPoint_shift hstart
  have hextra : ((withReturns s).drop (p.shift s).offset.toNat).takeWhile isIndent
      = (s.drop p.offset.toNat).takeWhile isIndent := by
    obtain ⟨h0, hlength⟩ : 0 ≤ p.offset ∧ p.offset ≤ s.length := Location.offset_of_isResolvable hresolvable
    rw [Point.toNat_offset_shift h0, drop_withReturns (by omega), takeWhile_isIndent_withReturns]
  have hsource : ∀ t, (Location.ofText t).source = t := fun _ => rfl
  simp only [report, hcheckbox, hcheckbox', if_true, hsource, hextra, hstart, hstart', hstop']
  rw [hsource] at hstop
  rw [hstop]
  split <;> rfl

theorem contentStart_shift (item : Node) :
    contentStart (Location.ofText (withReturns s)) (item.mapPoints (Point.shift s))
      = (contentStart (Location.ofText s) item).map (Point.shift s) := by
  rw [contentStart, contentStart, Node.children_mapPoints, List.head?_map]
  cases item.children.head? with
  | none => exact Node.stop?_mapPoints _ item
  | some content =>
    simp only [Option.map_some, Node.isGenerated_shift, Node.start?_mapPoints, Node.stop?_mapPoints]
    split <;> rfl

/-- An item of a sound tree is inspected at a shifted place. -/
theorem inspect_shift {item : Node} (hsound : ∀ n ∈ tree.preorder, IsSound s n) (hitem : item ∈ tree.preorder) :
    inspect (Location.ofText (withReturns s)) (item.mapPoints (Point.shift s))
      = (inspect (Location.ofText s) item).map (Step.mapPoints (Point.shift s)) := by
  rw [inspect, inspect, Node.checked_mapPoints, Node.isGenerated_shift]
  split
  · rfl
  · rename_i htask
    have hchecked : item.checked.isSome = true := by
      simp only [Bool.or_eq_true, not_or, Option.isNone_iff_eq_none] at htask
      exact Option.isSome_iff_ne_none.2 htask.1
    obtain ⟨content, position, -, -, ⟨i, c, width, l, checked, hi, hbox, hstart⟩, hcontent⟩ :=
      contentStart_eq hsound hitem hchecked
    rw [contentStart_shift, hcontent, hstart]
    exact report_shift hi hbox

end CheckboxContentIndent

theorem CheckboxContentIndent.shifts : CheckboxContentIndent.rule.Shifts := by
  intro option setup hread s tree tree' hsound h
  refine Rule.steps_of_readNothing (P := fun steps => steps tree' _ = (steps tree _).map _) rfl ?_ hread
  rw [steps, steps, h "listItem" (by decide) (by decide), List.flatMap_map, List.map_flatMap]
  exact List.flatMap_congr fun item hitem => inspect_shift hsound ((tree.walk_sublist _).subset hitem)

/-! ## All rules -/

/-- Every built-in rule takes the same steps at shifted places. -/
theorem shifts_of_mem {r : Rule} (h : r ∈ allRules) : r.Shifts := by
  simp only [allRules, List.mem_cons, List.not_mem_nil, or_false] at h
  rcases h with rfl | rfl | rfl | rfl | rfl
  · exact BlockquoteIndentation.shifts
  · exact CheckboxContentIndent.shifts
  · exact CodeBlockStyle.shifts
  · exact HeadingLength.shifts
  · exact DuplicateHeadings.shifts

end MarkLint

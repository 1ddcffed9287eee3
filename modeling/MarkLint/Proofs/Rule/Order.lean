import MarkLint.Proofs.Document.Order
import MarkLint.Proofs.Rule.Safety

/-!
# Diagnostics are in document order

On a tree that is built from well-nested elements, each built-in rule reports in document order, since its anchors are
in order (`check_ordered`). Headings and code blocks are reported where they start. Block quotes and checkboxes are
reported where their content starts, which is in order too, as nodes and their first children come in the same order
(`Node.pairwise_head_children`).
-/

namespace MarkLint

open MarkLint.Document
open MarkLint.Text

variable {source : List Char}

/-! ## Anchors -/

/-- Anchors that are in order on a tree give diagnostics that are in order, unless the rule breaks down. -/
theorem check_ordered {r : Rule} (hr : r ∈ allRules) {anchor : Location → Node → Option Point} {tree : Node}
    (h : r.Anchored r.IsStuck anchor) (option : Option Scalar)
    (horder : tree.preorder.Pairwise fun m n => ∀ p, anchor (Location.ofText source) m = some p →
      ∀ q, anchor (Location.ofText source) n = some q → p.offset ≤ q.offset) :
    (r.CannotWrite option tree (Location.ofText source) ∧
      ({ r with option := option } : Rule).check tree source = .error Text.tooLong) ∨
    ∃ ds, ({ r with option := option } : Rule).check tree source = .ok ds ∧
      (ds.filterMap Diagnostic.start).Pairwise fun p q => p.offset ≤ q.offset := by
  rcases check_cases hr h option tree source with hcannot | ⟨-, ds, hcheck, -, hplaces⟩
  · exact Or.inl hcannot
  · refine Or.inr ⟨ds, hcheck, ?_⟩
    rcases hplaces with ⟨text, rfl⟩ | ⟨nodes, hnodes, hstarts⟩
    · exact List.Pairwise.nil
    · have hsame : ds.filterMap Diagnostic.start = nodes.filterMap (anchor (Location.ofText source)) := by
        simpa [List.filterMap_map] using congrArg (List.filterMap fun p => p) hstarts
      rw [hsame, List.pairwise_filterMap]
      exact horder.sublist hnodes

/-- In a sound tree the content of an item with a checkbox starts right after it. -/
theorem CheckboxContentIndent.contentStart_eq {tree n : Node} (h : ∀ n ∈ tree.preorder, IsSound source n)
    (hn : n ∈ tree.preorder) (hchecked : n.checked.isSome = true) : ∃ content position,
      n.children.head? = some content ∧ content.position = some position ∧ FollowsCheckbox source position ∧
      contentStart (Location.ofText source) n = position.start := by
  obtain ⟨content, hcontent, position, hplace, hfollows⟩ := (h n hn).content hchecked
  have hmem : content ∈ tree.preorder := by
    rw [← Node.preorders_singleton] at hn ⊢
    exact Node.preorders_children_subset n hn (Node.mem_preorders_of_mem (List.mem_of_mem_head? hcontent))
  have hgenerated : content.isGenerated (some (Location.ofText source)) = false := by
    rw [(h content hmem).isGenerated_eq, hplace]
    rfl
  rw [Option.mem_def] at hcontent hplace
  refine ⟨content, position, hcontent, hplace, hfollows, ?_⟩
  simp [contentStart, hcontent, hgenerated, Node.start?, hplace]

/-- So it is the anchor of the item. -/
theorem CheckboxContentIndent.anchor_eq {tree n : Node} {p : Point} (h : ∀ n ∈ tree.preorder, IsSound source n)
    (hn : n ∈ tree.preorder) (hp : anchor (Location.ofText source) n = some p) : n.contentStart? = some p := by
  unfold anchor at hp
  split at hp
  · cases hp
  · rename_i hchecked
    obtain ⟨content, position, hcontent, hplace, -, hstart⟩ :=
      contentStart_eq h hn (by simpa [Option.isSome_iff_ne_none] using hchecked)
    rw [Node.contentStart?, hcontent, Option.bind_some, Node.start?, hplace, Option.bind_some, ← hstart, hp]

/-! ## Order -/

/-- The nodes of a tree that is built from well-nested elements start in document order, and each built-in rule reports
in this order, whatever its option, unless it breaks down at an integer that it cannot write. -/
theorem buildTree_ordered {elements : List Markdown.Element} {frontMatter : Nat} {tree : Node}
    (h : frontMatter = 0 ∨ frontMatter = FrontMatter.lineCount source)
    (htree : buildTree source elements frontMatter = .ok tree)
    (hw : WellNested (0, (lines source).length) true elements) (hquotes : QuotesMarked source tree.preorder) :
    ((tree.walk .any).filterMap Node.start?).Pairwise (fun p q => p.offset ≤ q.offset) ∧
    ∀ r ∈ allRules, ∀ option : Option Scalar,
      (r.CannotWrite option tree (Location.ofText source) ∧
        ({ r with option := option } : Rule).check tree source = .error Text.tooLong) ∨
      ∃ ds, ({ r with option := option } : Rule).check tree source = .ok ds ∧
        (ds.filterMap Diagnostic.start).Pairwise fun p q => p.offset ≤ q.offset := by
  have hisTree : IsTree source elements frontMatter tree := (buildTree_yields h).of_ok htree
  have hsound := hisTree.isSound
  have hstarts : tree.preorder.Pairwise fun m n => ∀ p, m.start? = some p → ∀ q, n.start? = some q →
      p.offset ≤ q.offset :=
    (hisTree.inOrder hw hquotes).order.imp fun hmn p hp q hq => (hmn p hp q hq).1
  have hcontents : tree.preorder.Pairwise fun m n => ∀ p, m.contentStart? = some p → ∀ q, n.contentStart? = some q →
      p.offset ≤ q.offset := by
    rw [← Node.preorders_singleton] at hstarts ⊢
    refine (Node.pairwise_head_children hstarts).imp fun hmn p hp q hq => ?_
    obtain ⟨c, hc, hp⟩ := Option.bind_eq_some_iff.1 hp
    obtain ⟨d, hd, hq⟩ := Option.bind_eq_some_iff.1 hq
    exact hmn c hc d hd p hp q hq
  refine ⟨?_, fun r hr option => ?_⟩
  · rw [List.pairwise_filterMap]
    exact hstarts.sublist (tree.walk_sublist .any)
  · rcases anchored_of_mem hr with hanchored | hanchored | hanchored
    · exact check_ordered hr hanchored option hstarts
    · exact check_ordered hr hanchored option hcontents
    · refine check_ordered hr hanchored option (hcontents.imp_of_mem fun hm hn hmn p hp q hq => ?_)
      exact hmn p (CheckboxContentIndent.anchor_eq hsound hm hp) q (CheckboxContentIndent.anchor_eq hsound hn hq)

/-! ## A task in a quote -/

/-- A task whose text and indented code stand on the first and the last of three lines. -/
def taskItem : Markdown.Element where
  kind := "list_item"
  lines := some (0, 3)
  markup := "-"
  children := [
    { kind := "paragraph", lines := some (0, 1), children := [{ kind := "text", content := "[x]  a" }] },
    { kind := "code_block", lines := some (2, 3) }]

/-- The task in a block quote. -/
def taskQuote : Markdown.Element where
  kind := "blockquote"
  lines := some (0, 3)
  children := [taskItem]

theorem wellNested_taskQuote : WellNested (0, 3) true [taskQuote] := by
  have hcontent : WellNested (0, 3) true taskItem.children := by
    have hblocks : blocks taskItem.children = taskItem.children := rfl
    refine .intro ?_ ?_ ?_
    all_goals rw [hblocks]
    · intro e he
      simp only [taskItem, List.mem_cons, List.not_mem_nil, or_false] at he
      rcases he with rfl | rfl
      · exact ⟨by simp, by simp, fun _ => rfl⟩
      · exact ⟨by simp, by simp, fun _ => rfl⟩
    · simp [taskItem]
    · intro e he x _
      simp only [taskItem, List.mem_cons, List.not_mem_nil, or_false] at he
      have hnil : blocks e.children = [] := by
        rcases he with rfl | rfl <;> rfl
      exact .intro (by simp [hnil]) (by simp [hnil]) (by simp [hnil])
  have hone : ∀ {e : Markdown.Element}, blocks [e] = [e] → Fits (0, 3) true e → e.lines = some (0, 3) →
      WellNested (0, 3) (holdsCode e.kind) e.children → WellNested (0, 3) true [e] := by
    intro e hblocks hfits hlines hinside
    refine .intro ?_ ?_ ?_
    all_goals rw [hblocks]
    · simpa using hfits
    · exact List.pairwise_singleton _ _
    · simpa [hlines] using hinside
  refine hone rfl ⟨by simp [taskQuote], by simp [taskQuote], by decide⟩ rfl ?_
  exact hone rfl ⟨by simp [taskItem], by simp [taskItem], by decide⟩ rfl hcontent

/-- The paragraph is moved past the checkbox, and the code starts inside the quote. -/
theorem buildTree_ordered_taskQuote :
    ∃ tree, buildTree "> - [x]  a\n>\n>       b".toList [taskQuote] 0 = .ok tree ∧
      ((tree.walk .any).filterMap Node.start?).map Point.offset = [0, 0, 2, 8, 16] ∧
      ((tree.walk .any).filterMap Node.start?).Pairwise (fun p q => p.offset ≤ q.offset) ∧
      ∀ r ∈ allRules, ∀ option : Option Scalar,
        (r.CannotWrite option tree (Location.ofText "> - [x]  a\n>\n>       b".toList) ∧
          ({ r with option := option } : Rule).check tree "> - [x]  a\n>\n>       b".toList = .error Text.tooLong) ∨
        ∃ ds, ({ r with option := option } : Rule).check tree "> - [x]  a\n>\n>       b".toList = .ok ds ∧
          (ds.filterMap Diagnostic.start).Pairwise fun p q => p.offset ≤ q.offset := by
  have hcount : (lines "> - [x]  a\n>\n>       b".toList).length = 3 := by decide +kernel
  have hok : (buildTree "> - [x]  a\n>\n>       b".toList [taskQuote] 0).toOption.map (fun tree =>
      (((tree.walk .any).filterMap Node.start?).map Point.offset,
        decide (QuotesMarked "> - [x]  a\n>\n>       b".toList tree.preorder))) = some ([0, 0, 2, 8, 16], true) := by
    decide +kernel
  cases htree : buildTree "> - [x]  a\n>\n>       b".toList [taskQuote] 0 with
  | error e =>
    rw [htree] at hok
    cases hok
  | ok tree =>
    rw [htree] at hok
    simp only [Except.toOption, Option.map_some, Option.some.injEq, Prod.mk.injEq, decide_eq_true_eq] at hok
    obtain ⟨hstarts, hquotes⟩ := hok
    have hw : WellNested (0, (lines "> - [x]  a\n>\n>       b".toList).length) true [taskQuote] := by
      rw [hcount]
      exact wellNested_taskQuote
    exact ⟨tree, rfl, hstarts, buildTree_ordered (Or.inl rfl) htree hw hquotes⟩

end MarkLint

import MarkLint.Proofs.Rule.Quotes

/-!
# The built-in rules on any tree

Each built-in rule is anchored: headings and code blocks are reported at their own start, block quotes at the start of
their content, and checkboxes where the content of their item starts (`anchored_of_mem`). So a check ends on any tree,
with reliable diagnostics, even if the tree was read from another text, unless the rule has to write an integer with too
many digits: an option that it refuses, or how far a quote is from the indentation that its option asks for
(`check_reliable`).
-/

namespace MarkLint

variable {tree : Node} {loc : Location}

/-- A node that is not generated is a place that starts where the node does. -/
theorem Place.startsAt_node {n : Node} (h : n.isGenerated (some loc) = false) :
    ∃ start, n.start? = some start ∧ (Place.node n).StartsAt loc start := by
  obtain ⟨start, stop, hpos, -⟩ := Node.ends_of_not_isGenerated h
  have hstart : n.start? = some start := Node.start?_of_position hpos
  exact ⟨start, hstart, h, hstart⟩

/-! ## Headings -/

theorem HeadingLength.anchored : HeadingLength.rule.Anchored Rule.neverStuck fun _ => Node.start? := by
  refine Rule.anchored_of_map (fun _ => rfl) fun limit tree loc => ?_
  let headings := (tree.walk (.kind "heading")).filter fun n => !n.isGenerated (some loc) && isTooLong limit n
  refine ⟨headings, List.filter_sublist.trans (tree.walk_sublist (.kind "heading")), ?_⟩
  refine List.forall₂_map_right_iff.2 (List.forall₂_same.2 fun n hn => ?_)
  have htest := (List.mem_filter.1 hn).2
  simp only [Bool.and_eq_true, Bool.not_eq_true'] at htest
  obtain ⟨start, hstart, hplace⟩ := Place.startsAt_node htest.1
  exact ⟨start, hstart, hplace.warnsAt _⟩

/-- Headings that repeat earlier ones are reported in their order. -/
theorem DuplicateHeadings.warnAll_repeats {fold : List Char → List Char} : ∀ {nodes : List Node}
    {seen : List (List Char × Node)}, (∀ n ∈ nodes, n.isGenerated (some loc) = false) →
    ∃ sub, sub.Sublist nodes ∧ WarnAll loc Node.start? sub (DuplicateHeadings.repeats fold seen nodes)
  | [], _, _ => ⟨[], List.Sublist.refl _, .nil⟩
  | n :: rest, seen, h => by
    obtain ⟨sub, hsub, hwarn⟩ := @warnAll_repeats fold rest ((key fold n, n) :: seen) fun m hm =>
      h m (List.mem_cons_of_mem _ hm)
    obtain ⟨start, hstart, hplace⟩ := Place.startsAt_node (h n List.mem_cons_self)
    unfold repeats
    dsimp only
    split
    · exact ⟨n :: sub, hsub.cons_cons n, .cons ⟨start, hstart, hplace.warnsAt _⟩ hwarn⟩
    · exact ⟨sub, hsub.cons n, hwarn⟩

theorem DuplicateHeadings.anchored : DuplicateHeadings.rule.Anchored Rule.neverStuck fun _ => Node.start? := by
  refine Rule.anchored_of_readNothing rfl fun tree loc => ?_
  obtain ⟨sub, hsub, hwarn⟩ := @warnAll_repeats loc Text.upper
    ((tree.walk (.kind "heading")).filter fun n => !n.isGenerated (some loc)) [] fun n hn => by
      simpa using (List.mem_filter.1 hn).2
  exact ⟨sub, hsub.trans (List.filter_sublist.trans (tree.walk_sublist _)), hwarn⟩

/-! ## Code blocks and block quotes -/

/-- Steps on verdicts warn at the anchors of their items, if each of them does. -/
theorem warnAll_mismatches {σ : Type} [DecidableEq σ] {anchor : Node → Option Point} {skip : Node → Bool}
    {style : Node → Option σ} {preferred : Option σ} {report : Style.Verdict Node σ → Step} {tree : Node}
    {nodes : List Node} (hnodes : nodes.Sublist tree.preorder)
    (h : ∀ v : Style.Verdict Node σ, skip v.item = false → v.observed = style v.item →
      ∃ start, anchor v.item = some start ∧ (report v).WarnsAt loc start) :
    ∃ sub, sub.Sublist tree.preorder ∧
      WarnAll loc anchor sub ((Style.mismatches skip style preferred nodes).map report) := by
  refine ⟨(Style.mismatches skip style preferred nodes).map Style.Verdict.item,
    Style.map_item_mismatches_sublist.trans hnodes, ?_⟩
  refine List.forall₂_map_left_iff.2 (List.forall₂_map_right_iff.2 (List.forall₂_same.2 fun v hv => ?_))
  obtain ⟨hskip, hobserved⟩ := Style.mem_mismatches hv
  exact h v hskip hobserved

/-- A code block with a place has a style. -/
theorem CodeBlockStyle.exists_codeStyle {n : Node} (h : n.isGenerated (some loc) = false) :
    ∃ style, codeStyle loc n = some style := by
  obtain ⟨start, stop, hpos, -⟩ := Node.ends_of_not_isGenerated h
  unfold codeStyle
  split
  · exact ⟨_, rfl⟩
  · exact ⟨if opensFence (loc.slice start.offset stop.offset) then .fenced else .indented, by
      simp only [Node.start?, Node.stop?, hpos, Option.bind_some]
      rfl⟩

theorem CodeBlockStyle.anchored : CodeBlockStyle.rule.Anchored Rule.neverStuck fun _ => Node.start? := by
  refine Rule.anchored_of_map (fun _ => rfl) fun style tree loc => ?_
  refine warnAll_mismatches (tree.walk_sublist _) fun v hskip hobserved => ?_
  obtain ⟨start, hstart, hplace⟩ := Place.startsAt_node hskip
  obtain ⟨observed, hstyle⟩ := exists_codeStyle hskip
  have hreport : report v = .message ("Code blocks should be " ++ v.preferred.name) (.node v.item) := by
    rw [report, hobserved, hstyle]
  exact ⟨start, hstart, hreport ▸ hplace.warnsAt _⟩

/-- The call about a quote warns where its content starts. -/
theorem BlockquoteIndentation.call_warnsAt {n : Node} (h : n ∈ compared tree loc) (p : Int) :
    ∃ start, n.contentStart? = some start ∧ (call p n).step.WarnsAt loc start := by
  obtain ⟨content, start, _, hcontent, hstart, -, hresolvable, -⟩ := exists_indentation h
  have hanchor : n.contentStart? = some start := by simp [Node.contentStart?, hcontent, hstart]
  have hplace : (Place.point start).StartsAt loc start := ⟨hresolvable, rfl⟩
  refine ⟨start, hanchor, _, _, rfl, ?_⟩
  rwa [call, hanchor]

theorem BlockquoteIndentation.anchored :
    BlockquoteIndentation.rule.Anchored IsStuck fun _ => Node.contentStart? := by
  intro option setup hread tree loc
  by_cases hquotes : compared tree loc = []
  · refine Or.inl ⟨?_, [], List.nil_sublist _, ?_⟩
    · rintro ⟨p, -, n, hn, -⟩
      rw [hquotes] at hn
      cases hn
    · rw [steps_eq_nil hquotes hread]
      exact .nil
  · obtain ⟨p, hp⟩ := exists_isPreferred hread hquotes
    by_cases hfar : IsTooFar p tree loc
    · exact Or.inr ⟨⟨p, hp, hfar⟩, steps_of_isTooFar hp hread hfar⟩
    · refine Or.inl ⟨?_, (compared tree loc).filter fun n => indentation n ≠ some p,
        List.filter_sublist.trans (compared_sublist tree loc), ?_⟩
      · rintro ⟨q, hq, hqfar⟩
        exact hfar (hp.eq hq ▸ hqfar)
      · rw [steps_of_not_isTooFar hp hread hfar, List.map_map]
        exact List.forall₂_map_right_iff.2 (List.forall₂_same.2 fun n hn =>
          call_warnsAt (List.mem_of_mem_filter hn) p)

/-! ## Checkboxes -/

namespace CheckboxContentIndent

/-- Where the content of a list item with a checkbox starts. -/
def anchor (loc : Location) (item : Node) : Option Point :=
  if item.checked.isNone then none else contentStart loc item

/-- The content of an item with a place starts on the text. -/
theorem exists_contentStart {item : Node} (h : item.isGenerated (some loc) = false) :
    ∃ point, contentStart loc item = some point ∧ loc.isResolvable point = true := by
  obtain ⟨_, stop, hpos, -, -, hstop⟩ := Node.ends_of_not_isGenerated h
  have hitem : item.stop? = some stop := by simp [Node.stop?, hpos]
  unfold contentStart
  split
  · rename_i content _
    split
    · exact ⟨stop, hitem, hstop⟩
    · rename_i hcontent
      obtain ⟨start, _, hpos, -, hstart, -⟩ := Node.ends_of_not_isGenerated (by simpa using hcontent)
      exact ⟨start, Node.start?_of_position hpos, hstart⟩
  · exact ⟨stop, hitem, hstop⟩

/-- The white space from a point of the text on stops in the text. -/
theorem exists_stop {point : Point} (h : loc.isResolvable point = true) : ∃ stop, loc.toPoint
    (point.offset + ((loc.source.drop point.offset.toNat).takeWhile Text.isIndent).length) = .ok stop := by
  obtain ⟨h0, hle⟩ := Location.offset_of_isResolvable h
  have hlength := (List.takeWhile_sublist Text.isIndent (l := loc.source.drop point.offset.toNat)).length_le
  rw [List.length_drop] at hlength
  exact Location.exists_toPoint (by omega) (by omega)

/-- So it can be reported on. -/
theorem report_eq {point : Point} (h : loc.isResolvable point = true) :
    report loc point = [] ∨ ∃ s, report loc point = [s] ∧ s.WarnsAt loc point := by
  obtain ⟨stop, hstop⟩ := exists_stop h
  unfold report
  split
  · dsimp only
    split
    · exact Or.inl rfl
    · have hplace : (Place.span ⟨some point, some stop⟩).StartsAt loc point := by
        have hoffset := Location.offset_of_toPoint hstop
        have hresolvable := Location.isResolvable_of_toPoint hstop
        refine ⟨?_, rfl⟩
        simp only [Node.isWellFormed, h, hresolvable]
        rw [if_neg (by omega)]
        rfl
      rw [Location.toPoint_of_isResolvable h, hstop]
      exact Or.inr ⟨_, rfl, hplace.warnsAt _⟩
  · exact Or.inl rfl

end CheckboxContentIndent

theorem CheckboxContentIndent.anchored : CheckboxContentIndent.rule.Anchored Rule.neverStuck anchor := by
  refine Rule.anchored_of_readNothing rfl fun tree loc => ?_
  obtain ⟨sub, hsub, hwarn⟩ := @warnAll_flatMap loc (anchor loc) (inspect loc) (fun item => by
    unfold inspect anchor
    split
    · exact Or.inl rfl
    · rename_i hitem
      simp only [Bool.or_eq_true, not_or, Bool.not_eq_true] at hitem
      obtain ⟨point, hpoint, hresolvable⟩ := exists_contentStart hitem.2
      rw [hpoint, if_neg (by simp [hitem.1])]
      rcases report_eq hresolvable with hnone | ⟨s, hs, hwarns⟩
      · exact Or.inl hnone
      · exact Or.inr ⟨s, point, hs, rfl, hwarns⟩) (tree.walk (.kind "listItem"))
  exact ⟨sub, hsub.trans (tree.walk_sublist _), hwarn⟩

/-! ## All rules -/

/-- Does the rule come to a number that it cannot write? Only the one about quotes does. -/
def Rule.IsStuck (r : Rule) (option : Option Scalar) (tree : Node) (loc : Location) : Prop :=
  r.id = BlockquoteIndentation.id ∧ BlockquoteIndentation.IsStuck option tree loc

/-- A rule that never comes to such a number has another name. -/
theorem Rule.Anchored.of_neverStuck {r : Rule} {anchor : Location → Node → Option Point}
    (h : r.Anchored neverStuck anchor) (hid : r.id ≠ BlockquoteIndentation.id) : r.Anchored r.IsStuck anchor :=
  h.congr_stuck fun _ _ _ => ⟨False.elim, fun hstuck => hid hstuck.1⟩

/-- Every built-in rule is anchored. -/
theorem anchored_of_mem {r : Rule} (h : r ∈ allRules) : r.Anchored r.IsStuck (fun _ => Node.start?) ∨
    r.Anchored r.IsStuck (fun _ => Node.contentStart?) ∨ r.Anchored r.IsStuck CheckboxContentIndent.anchor := by
  simp only [allRules, List.mem_cons, List.not_mem_nil, or_false] at h
  rcases h with rfl | rfl | rfl | rfl | rfl
  · exact Or.inr (Or.inl (BlockquoteIndentation.anchored.congr_stuck fun _ _ _ => ⟨fun h => ⟨rfl, h⟩, And.right⟩))
  · exact Or.inr (Or.inr (CheckboxContentIndent.anchored.of_neverStuck (by decide)))
  · exact Or.inl (CodeBlockStyle.anchored.of_neverStuck (by decide))
  · exact Or.inl (HeadingLength.anchored.of_neverStuck (by decide))
  · exact Or.inl (DuplicateHeadings.anchored.of_neverStuck (by decide))

theorem exists_anchored_of_mem {r : Rule} (h : r ∈ allRules) : ∃ anchor, r.Anchored r.IsStuck anchor := by
  rcases anchored_of_mem h with h | h | h
  · exact ⟨_, h⟩
  · exact ⟨_, h⟩
  · exact ⟨_, h⟩

/-- Does the rule have to write an integer that cannot be written? It is an option that the rule does not read, or the
distance of a quote. -/
def Rule.CannotWrite (r : Rule) (option : Option Scalar) (tree : Node) (loc : Location) : Prop :=
  (∃ n : Int, option = some (.int n) ∧ ¬ Text.IsWritable n ∧ ¬ ∃ setup, r.read option = .ok setup) ∨
    r.IsStuck option tree loc

/-- A rule that is stuck has read its option. -/
theorem Rule.exists_read_of_isStuck {r : Rule} (h : r ∈ allRules) {option : Option Scalar}
    (hstuck : r.IsStuck option tree loc) : ∃ setup, r.read option = .ok setup := by
  obtain ⟨hid, p, hp, -⟩ := hstuck
  obtain ⟨setup, hread, -⟩ := BlockquoteIndentation.exists_read_preferred hp
  simp only [allRules, List.mem_cons, List.not_mem_nil, or_false] at h
  rcases h with rfl | rfl | rfl | rfl | rfl
  · exact ⟨setup, hread⟩
  all_goals exact absurd hid (by decide)

/-- A check of a built-in rule breaks down if it comes to an integer that it cannot write. Otherwise it refuses the
option, or it warns at the anchors of some nodes, in document order. -/
theorem check_cases {r : Rule} (h : r ∈ allRules) {anchor : Location → Node → Option Point}
    (hanchored : r.Anchored r.IsStuck anchor) (option : Option Scalar) (tree : Node) (source : List Char) :
    (r.CannotWrite option tree (Location.ofText source) ∧
      ({ r with option := option } : Rule).check tree source = .error Text.tooLong) ∨
    (¬ r.CannotWrite option tree (Location.ofText source) ∧ ∃ ds,
      ({ r with option := option } : Rule).check tree source = .ok ds ∧
      (∀ d ∈ ds, d.ruleId = r.id ∧ d.IsReliable (Location.ofText source)) ∧
      ((∃ text, ds = [.ofFailure r.id text]) ∨ ∃ nodes : List Node, nodes.Sublist tree.preorder ∧
        ds.map Diagnostic.start = nodes.map (anchor (Location.ofText source)))) := by
  obtain ⟨L, hlanguage⟩ := exists_language_of_mem h
  rcases (speaks_of_mem hlanguage).read_cases option with ⟨setup, hread⟩ | ⟨value, rfl, hvalue, hrefused⟩
  · by_cases hstuck : r.IsStuck option tree (Location.ofText source)
    · exact Or.inl ⟨Or.inr hstuck, hanchored.check_of_stuck hread tree source hstuck⟩
    · obtain ⟨ds, hcheck, hds, hnodes⟩ := hanchored.check hread tree source hstuck
      refine Or.inr ⟨?_, ds, hcheck, fun d hd => ⟨(hds d hd).1, (hds d hd).2.2⟩, Or.inr hnodes⟩
      rintro (⟨n, -, -, hnone⟩ | hstuck')
      · exact hnone ⟨setup, hread⟩
      · exact hstuck hstuck'
  · have hnone : ¬ ∃ setup, r.read (some value) = .ok setup := by
      rintro ⟨setup, hread⟩
      rw [hrefused] at hread
      cases hread
    by_cases hquotable : value.IsQuotable
    · obtain ⟨quoted, hquoted⟩ := Scalar.exists_shown hquotable
      rw [OptionFault.refuse_of_shown hquoted] at hrefused
      refine Or.inr ⟨?_, _, Rule.check_of_refused hrefused, fun d hd => ?_, Or.inl ⟨_, rfl⟩⟩
      · rintro (⟨n, heq, hwritable, -⟩ | hstuck)
        · exact hwritable (hquotable n (Option.some.inj heq))
        · exact hnone (Rule.exists_read_of_isStuck h hstuck)
      · obtain rfl := List.mem_singleton.1 hd
        exact ⟨rfl, Or.inl ⟨rfl, rfl, rfl, rfl⟩⟩
    · rw [OptionFault.refuse_of_not_isQuotable hquotable] at hrefused
      refine Or.inl ⟨Or.inl ?_, Rule.check_of_brokeDown hrefused⟩
      unfold Scalar.IsQuotable at hquotable
      push Not at hquotable
      obtain ⟨n, rfl, hwritable⟩ := hquotable
      exact ⟨n, rfl, hwritable, hnone⟩

/-- With any option the check of a built-in rule breaks down if the rule has to write an integer that cannot be written.
Otherwise, on any tree whose offsets can be written, it ends, and all its diagnostics are reliable and carry the name of
the rule. -/
theorem check_reliable {r : Rule} (h : r ∈ allRules) (option : Option Scalar) (tree : Node) (source : List Char) :
    (r.CannotWrite option tree (Location.ofText source) →
      ({ r with option := option } : Rule).check tree source = .error Text.tooLong) ∧
    (¬ r.CannotWrite option tree (Location.ofText source) → tree.HasWritableOffsets → ∃ ds,
      ({ r with option := option } : Rule).check tree source = .ok ds ∧
      ∀ d ∈ ds, d.ruleId = r.id ∧ d.IsReliable (Location.ofText source)) := by
  obtain ⟨anchor, hanchored⟩ := exists_anchored_of_mem h
  rcases check_cases h hanchored option tree source with ⟨hcannot, herror⟩ | ⟨hcan, ds, hcheck, hds, -⟩
  · exact ⟨fun _ => herror, fun hcan => absurd hcannot hcan⟩
  · exact ⟨fun hcannot => absurd hcannot hcan, fun _ _ => ⟨ds, hcheck, hds⟩⟩

/-- A list item with a checkbox whose content has a place in some other text. -/
def strayItem : Node where
  kind := "listItem"
  checked := some true
  position := some ⟨some ⟨1, 1, 0⟩, some ⟨1, 4, 3⟩⟩
  children := [{ kind := "paragraph", position := some ⟨some ⟨9, 1, 70⟩, none⟩ }]

/-- A quote whose content starts one column before its marker, as a quote with an empty first line may. -/
def outdentedQuote : Node where
  kind := "blockquote"
  position := some ⟨some ⟨1, 4, 3⟩, some ⟨2, 4, 8⟩⟩
  children := [{ kind := "paragraph", position := some ⟨some ⟨2, 3, 7⟩, some ⟨2, 4, 8⟩⟩ }]

/-- The largest option that can be written asks for a move by one column more. -/
theorem BlockquoteIndentation.isStuck_outdentedQuote : IsStuck (some (.int ((10 ^ Text.maxDigits - 1 : Nat) : Int)))
    outdentedQuote (Location.ofText "   >\n> a".toList) := by
  have hpow : 1 < 10 ^ Text.maxDigits := Nat.one_lt_pow (by decide) (by decide)
  refine ⟨_, Or.inl ⟨by omega, rfl⟩, outdentedQuote, List.mem_filter.2 ⟨?_, by decide +kernel⟩, -1, rfl, ?_⟩
  · exact List.mem_cons_self
  · rw [Text.isWritable_iff]
    omega

/-- The white space after the checkbox is reported at the end of the item. The quote is not reported with an option that
is one too large to tell by how much the quote misses it. -/
theorem check_reliable_strayItem :
    CheckboxContentIndent.rule ∈ allRules ∧ BlockquoteIndentation.rule ∈ allRules ∧
    ¬ CheckboxContentIndent.rule.CannotWrite none strayItem (Location.ofText "[x]  b".toList) ∧
    strayItem.HasWritableOffsets ∧
    (∃ ds, ({ CheckboxContentIndent.rule with option := none } : Rule).check strayItem "[x]  b".toList = .ok ds ∧
      ds.map Diagnostic.start = [some ⟨1, 4, 3⟩] ∧
      ∀ d ∈ ds, d.ruleId = CheckboxContentIndent.id ∧ d.IsReliable (Location.ofText "[x]  b".toList)) ∧
    ({ BlockquoteIndentation.rule with option := some (.int ((10 ^ Text.maxDigits - 1 : Nat) : Int)) } : Rule).check
      outdentedQuote "   >\n> a".toList = .error Text.tooLong := by
  have hmem : CheckboxContentIndent.rule ∈ allRules := by simp [allRules]
  have hmem' : BlockquoteIndentation.rule ∈ allRules := by simp [allRules]
  have hcan : ¬ CheckboxContentIndent.rule.CannotWrite none strayItem (Location.ofText "[x]  b".toList) := by
    rintro (⟨n, heq, -⟩ | ⟨hid, -⟩)
    · cases heq
    · exact absurd hid (by decide)
  have hoffsets : strayItem.HasWritableOffsets := by decide +kernel
  obtain ⟨ds, hcheck, hds⟩ := (check_reliable hmem none strayItem "[x]  b".toList).2 hcan hoffsets
  have hstarts : (Except.toOption (({ CheckboxContentIndent.rule with option := none } : Rule).check strayItem
      "[x]  b".toList)).map (List.map Diagnostic.start) = some [some ⟨1, 4, 3⟩] := by decide +kernel
  rw [hcheck] at hstarts
  exact ⟨hmem, hmem', hcan, hoffsets, ⟨ds, hcheck, Option.some.inj hstarts, hds⟩, (check_reliable hmem' _ _ _).1
    (Or.inr ⟨rfl, BlockquoteIndentation.isStuck_outdentedQuote⟩)⟩

end MarkLint

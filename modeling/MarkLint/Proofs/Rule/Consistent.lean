import MarkLint.Proofs.Rule.Safety

/-!
# The first style decides

The rules about code blocks and block quotes compare styles with a preferred one. Without an option that fixes it, they
report what they report with an option that fixes the style of the first node that they compare
(`CodeBlockStyle.check_consistent`, `BlockquoteIndentation.check_consistent`); without such a node they report nothing.
With a preferred indentation, a quote is reported where its content starts, exactly if its indentation is another one,
and the message says by how much (`BlockquoteIndentation.check_preferred`). Only if the message cannot say it for some
quote, none is reported (`BlockquoteIndentation.check_of_isTooFar`). `check_first_style` puts these together.
-/

namespace MarkLint

variable {tree : Node} {source : List Char} {loc : Location}

/-- Options that lead to the same steps give the same diagnostics. -/
theorem Rule.check_congr {r : Rule} {option option' : Option Scalar} {setup setup' : Setup}
    (h : r.read option = .ok setup) (h' : r.read option' = .ok setup')
    (hsteps : setup.steps tree (Location.ofText source) = setup'.steps tree (Location.ofText source)) :
    ({ r with option := option } : Rule).check tree source =
      ({ r with option := option' } : Rule).check tree source := by
  rw [check_eq_play h, check_eq_play h', hsteps]

/-- A rule that takes no steps gives no diagnostics. -/
theorem Rule.check_of_no_steps {r : Rule} {option : Option Scalar} {setup : Setup} (h : r.read option = .ok setup)
    (hsteps : setup.steps tree (Location.ofText source) = []) :
    ({ r with option := option } : Rule).check tree source = .ok [] := by
  rw [check_eq_play h, hsteps]
  rfl

/-! ## Code blocks -/

namespace CodeBlockStyle

/-- The code blocks that have a place, in document order. -/
def compared (tree : Node) (loc : Location) : List Node :=
  tree.preorder.filter fun n => n.kind == "code" && !n.isGenerated (some loc)

/-- The options that leave the style to the document. -/
def consistentOptions : List (Option Scalar) := [none, some (.text Setting.consistent)]

theorem read_consistent {option : Option Scalar} (h : option ∈ consistentOptions) :
    rule.read option = .ok ⟨none, steps none⟩ := by
  simp only [consistentOptions, List.mem_cons, List.not_mem_nil, or_false] at h
  rcases h with rfl | rfl <;> rfl

theorem read_name (style : CodeStyle) :
    rule.read (some (.text style.name)) = .ok ⟨some (.text style.name), steps (some style)⟩ := by
  cases style <;> rfl

theorem exists_steps {option : Option Scalar} {setup : Setup} (h : rule.read option = .ok setup) :
    ∃ style, setup.steps = steps style :=
  Rule.steps_of_map (P := fun s => ∃ style, s = steps style) (fun _ => rfl) (fun style => ⟨style, rfl⟩) h

/-- Without an option the first code block fixes the style. -/
theorem check_consistent {first : Node} (hfirst : (compared tree (Location.ofText source)).head? = some first) :
    ∃ style, codeStyle (Location.ofText source) first = some style ∧ ∀ option ∈ consistentOptions,
      ({ rule with option := option } : Rule).check tree source =
        ({ rule with option := some (.text style.name) } : Rule).check tree source := by
  have hplace : first.isGenerated (some (Location.ofText source)) = false := by
    have htest := (List.mem_filter.1 (List.mem_of_mem_head? hfirst)).2
    simp only [Bool.and_eq_true, Bool.not_eq_true'] at htest
    exact htest.2
  obtain ⟨style, hstyle⟩ := exists_codeStyle hplace
  rw [compared, ← Node.filter_walk_kind] at hfirst
  refine ⟨style, hstyle, fun option hoption => Rule.check_congr (read_consistent hoption) (read_name style) ?_⟩
  simp only [steps, Style.mismatches_none hfirst hstyle]

/-- Without a code block there is nothing to report, whatever the option. -/
theorem check_of_no_code (hnone : compared tree (Location.ofText source) = []) {option : Option Scalar} {setup : Setup}
    (hread : rule.read option = .ok setup) : ({ rule with option := option } : Rule).check tree source = .ok [] := by
  obtain ⟨style, hsteps⟩ := exists_steps hread
  rw [compared, ← Node.filter_walk_kind] at hnone
  refine Rule.check_of_no_steps hread ?_
  rw [hsteps, steps, Style.mismatches_eq_nil style hnone, List.map_nil]

end CodeBlockStyle

/-! ## Block quotes -/

namespace BlockquoteIndentation

/-- Without an option the first quote fixes the indentation, unless this is negative. -/
theorem check_consistent {first : Node} (hfirst : (compared tree (Location.ofText source)).head? = some first) :
    ∃ observed, indentation first = some observed ∧ (0 ≤ observed → ∀ option ∈ consistentOptions,
      ({ rule with option := option } : Rule).check tree source =
        ({ rule with option := some (.int observed) } : Rule).check tree source) := by
  obtain ⟨_, start, outer, -, -, -, -, hobserved⟩ := exists_indentation (List.mem_of_mem_head? hfirst)
  refine ⟨_, hobserved, fun hle option hoption => ?_⟩
  generalize start.column - outer.column = observed at hobserved hle
  by_cases hzero : observed = 0
  · -- the option 0 leaves the indentation to the document again
    subst hzero
    exact Rule.check_congr (read_consistent hoption) (read_consistent (by simp [consistentOptions])) rfl
  · rw [compared_eq] at hfirst
    refine Rule.check_congr (read_consistent hoption) (read_positive (by omega)) ?_
    simp only [steps, Style.mismatches_none hfirst hobserved]

/-- Without a quote that can be compared there is nothing to report, whatever the option. -/
theorem check_of_no_quote (hnone : compared tree (Location.ofText source) = []) {option : Option Scalar}
    {setup : Setup} (hread : rule.read option = .ok setup) :
    ({ rule with option := option } : Rule).check tree source = .ok [] :=
  Rule.check_of_no_steps hread (steps_eq_nil hnone hread)

/-- The diagnostic stands where the content of the quote starts, and asks to add or to remove the spaces that lead to
the indentation `p`. -/
def IsReport (p : Int) (n : Node) (d : Diagnostic) : Prop :=
  ∃ content start outer, n.children.head? = some content ∧ content.start? = some start ∧ n.start? = some outer ∧
    d.ruleId = id ∧ d.start = some start ∧ d.stop = none ∧ d.severity = .warning ∧ d.fatal = false ∧
    ∃ count : Nat, 1 ≤ count ∧
      ((start.column - outer.column + count = p ∧
        d.message = "Add " ++ spaces count ++ " between block quote and content") ∨
      (start.column - outer.column - count = p ∧
        d.message = "Remove " ++ spaces count ++ " between block quote and content"))

/-- The request makes up the difference. -/
theorem request_eq {p observed : Int} (hne : observed ≠ p) : ∃ count : Nat, 1 ≤ count ∧
    ((observed + count = p ∧ request (p - observed) = "Add " ++ spaces count ++ " between block quote and content") ∨
      (observed - count = p ∧
        request (p - observed) = "Remove " ++ spaces count ++ " between block quote and content")) := by
  refine ⟨(p - observed).natAbs, by omega, ?_⟩
  by_cases h : 0 < p - observed
  · refine Or.inl ⟨by omega, ?_⟩
    rw [request, if_pos h]
    rfl
  · refine Or.inr ⟨by omega, ?_⟩
    rw [request, if_neg h]
    rfl

theorem isReport_warning {p : Int} {n : Node} (h : n ∈ compared tree loc) (hne : indentation n ≠ some p) :
    IsReport p n ((call p n).warning id) := by
  obtain ⟨content, start, outer, hcontent, hstart, houter, -, hobserved⟩ := exists_indentation h
  have hplace : (call p n).place = .point start := by simp [call, Node.contentStart?, hcontent, hstart]
  refine ⟨content, start, outer, hcontent, hstart, houter, rfl, ?_, ?_, rfl, rfl, ?_⟩
  · rw [Call.warning, hplace]
    rfl
  · rw [Call.warning, hplace]
    rfl
  · rw [hobserved, ne_eq, Option.some.injEq] at hne
    simpa [Call.warning, call, hobserved] using request_eq hne

/-- Reports of quotes are not dropped. -/
theorem isGenerated_call (loc : Location) (p : Int) (n : Node) : (call p n).place.isGenerated loc = false := by
  unfold call
  cases n.contentStart? <;> rfl

/-- With a preferred indentation the quotes that have another one are reported, in document order. -/
theorem check_preferred {option : Option Scalar} {p : Int} (h : IsPreferred option tree (Location.ofText source) p)
    (hfar : ¬ IsTooFar p tree (Location.ofText source)) :
    ∃ ds, ({ rule with option := option } : Rule).check tree source = .ok ds ∧
      List.Forall₂ (IsReport p)
        ((compared tree (Location.ofText source)).filter fun n => indentation n ≠ some p) ds := by
  obtain ⟨setup, hread, -⟩ := exists_read_preferred h
  refine ⟨_, Rule.check_of_calls hread (steps_of_not_isTooFar h hread hfar) fun c hc => ?_, ?_⟩
  · obtain ⟨n, -, rfl⟩ := List.mem_map.1 hc
    exact isGenerated_call (Location.ofText source) p n
  · rw [List.map_map, List.forall₂_map_right_iff, List.forall₂_same]
    intro n hn
    rw [List.mem_filter, decide_eq_true_eq] at hn
    exact isReport_warning hn.1 hn.2

/-- If some quote is too far from it, none is. -/
theorem check_of_isTooFar {option : Option Scalar} {p : Int} (h : IsPreferred option tree (Location.ofText source) p)
    (hfar : IsTooFar p tree (Location.ofText source)) :
    ({ rule with option := option } : Rule).check tree source = .error Text.tooLong := by
  obtain ⟨setup, hread, -⟩ := exists_read_preferred h
  exact anchored.check_of_stuck hread tree source ⟨p, h, hfar⟩

end BlockquoteIndentation

/-- Take any tree whose offsets can be written. A rule that takes its style from the document returns what it returns
with the style of the first compared node as its option, and nothing without such a node. With a preferred indentation
the quotes that have another one are reported in document order, and the message makes up the difference. If a
difference cannot be written, the rule breaks down. -/
theorem check_first_style (tree : Node) (source : List Char) (_ : tree.HasWritableOffsets) :
    (∀ first, (CodeBlockStyle.compared tree (Location.ofText source)).head? = some first → ∃ style ds,
      CodeBlockStyle.codeStyle (Location.ofText source) first = some style ∧
      ({ CodeBlockStyle.rule with option := some (.text style.name) } : Rule).check tree source = .ok ds ∧
      ∀ option ∈ CodeBlockStyle.consistentOptions,
        ({ CodeBlockStyle.rule with option := option } : Rule).check tree source = .ok ds) ∧
    (CodeBlockStyle.compared tree (Location.ofText source) = [] → ∀ option setup,
      CodeBlockStyle.rule.read option = .ok setup →
        ({ CodeBlockStyle.rule with option := option } : Rule).check tree source = .ok []) ∧
    (∀ first, (BlockquoteIndentation.compared tree (Location.ofText source)).head? = some first → ∃ observed,
      BlockquoteIndentation.indentation first = some observed ∧ (0 ≤ observed →
        ∀ option ∈ BlockquoteIndentation.consistentOptions,
          ({ BlockquoteIndentation.rule with option := option } : Rule).check tree source =
            ({ BlockquoteIndentation.rule with option := some (.int observed) } : Rule).check tree source)) ∧
    (BlockquoteIndentation.compared tree (Location.ofText source) = [] → ∀ option setup,
      BlockquoteIndentation.rule.read option = .ok setup →
        ({ BlockquoteIndentation.rule with option := option } : Rule).check tree source = .ok []) ∧
    (∀ option p, BlockquoteIndentation.IsPreferred option tree (Location.ofText source) p →
      (¬ BlockquoteIndentation.IsTooFar p tree (Location.ofText source) → ∃ ds,
        ({ BlockquoteIndentation.rule with option := option } : Rule).check tree source = .ok ds ∧
        List.Forall₂ (BlockquoteIndentation.IsReport p)
          ((BlockquoteIndentation.compared tree (Location.ofText source)).filter fun n =>
            BlockquoteIndentation.indentation n ≠ some p) ds) ∧
      (BlockquoteIndentation.IsTooFar p tree (Location.ofText source) →
        ({ BlockquoteIndentation.rule with option := option } : Rule).check tree source = .error Text.tooLong)) := by
  refine ⟨fun first hfirst => ?_, fun hnone option setup => CodeBlockStyle.check_of_no_code hnone,
    fun first hfirst => BlockquoteIndentation.check_consistent hfirst,
    fun hnone option setup => BlockquoteIndentation.check_of_no_quote hnone,
    fun option p hp => ⟨BlockquoteIndentation.check_preferred hp, BlockquoteIndentation.check_of_isTooFar hp⟩⟩
  obtain ⟨style, hstyle, hsame⟩ := CodeBlockStyle.check_consistent hfirst
  obtain ⟨ds, hds, -⟩ := CodeBlockStyle.anchored.check (CodeBlockStyle.read_name style) tree source id
  exact ⟨style, ds, hstyle, hds, fun option hoption => (hsame option hoption).trans hds⟩

/-- A quote at the start of a text, with an indentation. -/
def quoteAt (indent : Nat) : Node where
  kind := "blockquote"
  position := some ⟨some ⟨1, 1, 0⟩, some ⟨1, 9, 8⟩⟩
  children := [{ kind := "paragraph", position := some ⟨some ⟨1, 1 + indent, indent⟩, some ⟨1, 9, 8⟩⟩ }]

/-- A code block at the start of a text, with or without a language. -/
def codeBlock (lang : Option String) : Node where
  kind := "code"
  lang := lang
  position := some ⟨some ⟨1, 1, 0⟩, some ⟨1, 9, 8⟩⟩

/-- A quote without content before quotes of two indentations and code blocks of two styles. -/
def mixedStyles : Node where
  kind := "root"
  children := [{ kind := "blockquote" }, quoteAt 2, codeBlock (some "py"), quoteAt 4, codeBlock none]

/-- The quotes that are compared in it are at most 2 columns from an indentation of 2. -/
theorem BlockquoteIndentation.not_isTooFar_mixedStyles :
    ¬ IsTooFar 2 mixedStyles (Location.ofText "> abcdef".toList) := by
  rintro ⟨n, hn, observed, hobserved, hwritable⟩
  have hquotes : n ∈ [quoteAt 2, quoteAt 4] := hn
  simp only [List.mem_cons, List.not_mem_nil, or_false] at hquotes
  rcases hquotes with rfl | rfl
  · obtain rfl : 2 = observed := Option.some.inj hobserved
    exact hwritable (by decide)
  · obtain rfl : 4 = observed := Option.some.inj hobserved
    exact hwritable (by decide)

/-- The first code block fixes the fence. The quote without content fixes nothing, the next one fixes 2, and the one
with 4 is reported. Without quotes and code blocks there is nothing to report. An option that is one too large to tell
by how much a quote misses it is not reported. -/
theorem check_first_style_mixed :
    mixedStyles.HasWritableOffsets ∧ ({ kind := "root" } : Node).HasWritableOffsets ∧
    outdentedQuote.HasWritableOffsets ∧
    (∃ ds, ({ CodeBlockStyle.rule with option := some (.text "fenced") } : Rule).check mixedStyles
        "> abcdef".toList = .ok ds ∧ CodeBlockStyle.rule.check mixedStyles "> abcdef".toList = .ok ds) ∧
    (∃ ds, ({ BlockquoteIndentation.rule with option := some (.int 2) } : Rule).check mixedStyles
        "> abcdef".toList = .ok ds ∧ BlockquoteIndentation.rule.check mixedStyles "> abcdef".toList = .ok ds ∧
      List.Forall₂ (BlockquoteIndentation.IsReport 2) [quoteAt 4] ds) ∧
    CodeBlockStyle.rule.check { kind := "root" } "> abcdef".toList = .ok [] ∧
    BlockquoteIndentation.rule.check { kind := "root" } "> abcdef".toList = .ok [] ∧
    ({ BlockquoteIndentation.rule with option := some (.int ((10 ^ Text.maxDigits - 1 : Nat) : Int)) } : Rule).check
      outdentedQuote "   >\n> a".toList = .error Text.tooLong := by
  have hmixed : mixedStyles.HasWritableOffsets := by decide +kernel
  have hempty : ({ kind := "root" } : Node).HasWritableOffsets := by decide +kernel
  have houtdented : outdentedQuote.HasWritableOffsets := by decide +kernel
  obtain ⟨hcode, -, hquote, -, hpreferred⟩ := check_first_style mixedStyles "> abcdef".toList hmixed
  obtain ⟨-, hnoCode, -, hnoQuote, -⟩ := check_first_style { kind := "root" } "> abcdef".toList hempty
  refine ⟨hmixed, hempty, houtdented, ?_, ?_, hnoCode rfl none _ rfl, hnoQuote rfl none _ rfl, ?_⟩
  · obtain ⟨style, ds, hstyle, hfixed, hsame⟩ := hcode (codeBlock (some "py")) rfl
    obtain rfl : CodeStyle.fenced = style := Option.some.inj hstyle
    exact ⟨ds, hfixed, hsame none (by simp [CodeBlockStyle.consistentOptions])⟩
  · obtain ⟨observed, hobserved, hsame⟩ := hquote (quoteAt 2) rfl
    obtain rfl : 2 = observed := Option.some.inj hobserved
    obtain ⟨ds, hds, hreports⟩ :=
      (hpreferred none 2 (Or.inr ⟨by simp [BlockquoteIndentation.consistentOptions], rfl⟩)).1
        BlockquoteIndentation.not_isTooFar_mixedStyles
    have hfixed := hsame (by decide) none (by simp [BlockquoteIndentation.consistentOptions])
    exact ⟨ds, hfixed.symm.trans hds, hds, hreports⟩
  · obtain ⟨p, hp, hfar⟩ := BlockquoteIndentation.isStuck_outdentedQuote
    exact ((check_first_style outdentedQuote "   >\n> a".toList houtdented).2.2.2.2 _ p hp).2 hfar

end MarkLint

import MarkLint.Proofs.Rule.Consistent

/-!
# How the rules answer an option

A rule that speaks its language does not depend on how an option is spelt, warns of nothing fatal, and answers a refused
value with the refusal alone, on any document (`check_language`). Where an answer has to hold an integer that cannot be
written, there is none: the rule breaks down.
-/

namespace MarkLint

namespace Rule

variable {r : Rule} {L : OptionLanguage} {option option' : Option Scalar}

/-- A value that is refused and can be quoted gives the refusal alone. -/
theorem Speaks.check_of_refused {value : Scalar} (h : r.Speaks L) (hvalue : ¬ L.accepts value)
    (hquotable : value.IsQuotable) : ∃ quoted, value.shown = .ok quoted ∧ ∀ (tree : Node) (source : List Char),
      ({ r with option := some value } : Rule).check tree source = .ok [.ofFailure r.id (L.refusal quoted)] := by
  obtain ⟨quoted, hquoted⟩ := Scalar.exists_shown hquotable
  refine ⟨quoted, hquoted, fun tree source => Rule.check_of_refused ?_⟩
  exact (h.refuses value hvalue).trans (congrArg Except.error (OptionFault.refuse_of_shown hquoted _ _))

/-- A value that is refused and cannot be quoted breaks the rule down. -/
theorem Speaks.check_of_not_isQuotable {value : Scalar} (h : r.Speaks L) (hvalue : ¬ L.accepts value)
    (hquotable : ¬ value.IsQuotable) (tree : Node) (source : List Char) :
    ({ r with option := some value } : Rule).check tree source = .error Text.tooLong :=
  Rule.check_of_brokeDown
    ((h.refuses value hvalue).trans (congrArg Except.error (OptionFault.refuse_of_not_isQuotable hquotable _ _)))

/-- Values that mean the same as no option have the same checks. -/
theorem Speaks.check_of_isUnset (h : r.Speaks L) (hoption : L.IsUnset option) (tree : Node) (source : List Char) :
    ({ r with option := option } : Rule).check tree source = ({ r with option := none } : Rule).check tree source := by
  cases option with
  | none => rfl
  | some value =>
    obtain ⟨setup, setup', hread, hread', hsteps⟩ := h.unset value (hoption value rfl)
    exact check_congr hread' hread (by rw [hsteps])

theorem Speaks.check_of_sameMeaning (h : r.Speaks L) (hoption : L.SameMeaning option option') (tree : Node)
    (source : List Char) : ({ r with option := option } : Rule).check tree source =
      ({ r with option := option' } : Rule).check tree source := by
  rcases hoption with rfl | ⟨hunset, hunset'⟩
  · rfl
  · rw [h.check_of_isUnset hunset, h.check_of_isUnset hunset']

end Rule

/-- Each built-in rule has a language, and reads exactly the values of it. A value that is refused gives one diagnostic
on any document, which is fatal and quotes the value; if it cannot be quoted, the rule breaks down. With any other
option nothing fatal is reported on a tree whose offsets can be written, unless the rule is stuck on another number that
cannot be; then it breaks down, too. Options that mean the same give the same diagnostics. -/
theorem check_language {r : Rule} {L : OptionLanguage} (h : (r, L) ∈ ruleLanguages) (option : Option Scalar) :
    ruleLanguages.map Prod.fst = allRules ∧
    ((∃ setup, r.read option = .ok setup) ↔ L.Accepts option) ∧
    (∀ value ∈ option, ¬ L.accepts value →
      (value.IsQuotable → ∃ quoted, value.shown = .ok quoted ∧ ∀ (tree : Node) (source : List Char),
        ({ r with option := option } : Rule).check tree source = .ok [.ofFailure r.id (L.refusal quoted)]) ∧
      (¬ value.IsQuotable → ∀ (tree : Node) (source : List Char),
        ({ r with option := option } : Rule).check tree source = .error Text.tooLong)) ∧
    (L.Accepts option → ∀ (tree : Node) (source : List Char),
      (¬ r.IsStuck option tree (Location.ofText source) → tree.HasWritableOffsets → ∃ ds,
        ({ r with option := option } : Rule).check tree source = .ok ds ∧ ∀ d ∈ ds, d.fatal = false) ∧
      (r.IsStuck option tree (Location.ofText source) →
        ({ r with option := option } : Rule).check tree source = .error Text.tooLong) ∧
      ∀ option', L.SameMeaning option option' →
        ({ r with option := option' } : Rule).check tree source =
          ({ r with option := option } : Rule).check tree source) := by
  have hspeaks : r.Speaks L := speaks_of_mem h
  refine ⟨rfl, hspeaks.exists_read_iff, fun value hvalue hrefused => ?_, fun haccepts tree source => ?_⟩
  · obtain rfl := Option.mem_def.1 hvalue
    exact ⟨hspeaks.check_of_refused hrefused, hspeaks.check_of_not_isQuotable hrefused⟩
  · obtain ⟨setup, hread⟩ := hspeaks.accepts option haccepts
    obtain ⟨anchor, hanchored⟩ := exists_anchored_of_mem (List.mem_map_of_mem (f := Prod.fst) h)
    refine ⟨fun hstuck _ => ?_, hanchored.check_of_stuck hread tree source,
      fun option' hsame => (hspeaks.check_of_sameMeaning hsame tree source).symm⟩
    obtain ⟨ds, hcheck, hds, -⟩ := hanchored.check hread tree source hstuck
    exact ⟨ds, hcheck, fun d hd => (hds d hd).2.1⟩

/-- The truth value `True` is no indentation, and 0 and the word leave it to the document alike. A negative number of
too many digits is no indentation, either, but the refusal cannot be worded. -/
theorem check_language_indent :
    (BlockquoteIndentation.rule, BlockquoteIndentation.language) ∈ ruleLanguages ∧
    ¬ BlockquoteIndentation.language.accepts (.bool true) ∧
    BlockquoteIndentation.language.SameMeaning (some (.int 0)) (some (.text "consistent")) ∧
    ({ BlockquoteIndentation.rule with option := some (.bool true) } : Rule).check mixedStyles "> abcdef".toList =
      .ok [.ofFailure "blockquote-indentation"
        "Incorrect block quote indentation `True`: use either `'consistent'` or a number"] ∧
    (∃ ds, ({ BlockquoteIndentation.rule with option := some (.int 0) } : Rule).check mixedStyles "> abcdef".toList =
        .ok ds ∧ (∀ d ∈ ds, d.fatal = false) ∧
      ({ BlockquoteIndentation.rule with option := some (.text "consistent") } : Rule).check mixedStyles
        "> abcdef".toList = .ok ds) ∧
    ({ BlockquoteIndentation.rule with option := some (.int (-((10 ^ Text.maxDigits : Nat) : Int))) } : Rule).check
      mixedStyles "> abcdef".toList = .error Text.tooLong ∧
    ({ BlockquoteIndentation.rule with option := some (.int ((10 ^ Text.maxDigits - 1 : Nat) : Int)) } : Rule).check
      outdentedQuote "   >\n> a".toList = .error Text.tooLong := by
  have hmem : (BlockquoteIndentation.rule, BlockquoteIndentation.language) ∈ ruleLanguages := List.mem_cons_self
  have hrefused : ¬ BlockquoteIndentation.language.accepts (.bool true) := by simp [BlockquoteIndentation.language]
  have haccepts : ∀ n : Nat, BlockquoteIndentation.language.Accepts (some (.int n)) := by
    simp [OptionLanguage.Accepts, BlockquoteIndentation.language]
  have hsame : BlockquoteIndentation.language.SameMeaning (some (.int 0)) (some (.text "consistent")) := by
    simp [OptionLanguage.SameMeaning, OptionLanguage.IsUnset, BlockquoteIndentation.language]
  refine ⟨hmem, hrefused, hsame, ?_, ?_, ?_, ?_⟩
  · obtain ⟨quoted, hquoted, hcheck⟩ :=
      ((check_language hmem (some (.bool true))).2.2.1 _ rfl hrefused).1 fun n heq => by cases heq
    obtain rfl : "True" = quoted := Except.ok.inj hquoted
    exact hcheck mixedStyles "> abcdef".toList
  · obtain ⟨hends, -, hspelling⟩ :=
      (check_language hmem (some (.int 0))).2.2.2 (haccepts 0) mixedStyles "> abcdef".toList
    have hcan : ¬ BlockquoteIndentation.rule.IsStuck (some (.int 0)) mixedStyles
        (Location.ofText "> abcdef".toList) := by
      rintro ⟨-, p, hp, hfar⟩
      obtain rfl : p = 2 := hp.eq (Or.inr ⟨by simp [BlockquoteIndentation.consistentOptions], rfl⟩)
      exact BlockquoteIndentation.not_isTooFar_mixedStyles hfar
    obtain ⟨ds, hcheck, hfatal⟩ := hends hcan (by decide +kernel)
    exact ⟨ds, hcheck, hfatal, (hspelling _ hsame).trans hcheck⟩
  · have hpow : 0 < 10 ^ Text.maxDigits := Nat.pow_pos (by decide)
    refine ((check_language hmem _).2.2.1 _ rfl ?_).2 ?_ mixedStyles "> abcdef".toList
    · rintro (heq | ⟨n, hn, heq⟩)
      · cases heq
      · have := Scalar.int.inj heq
        omega
    · intro hquotable
      have hwritable := Text.isWritable_iff.1 (hquotable _ rfl)
      omega
  · exact ((check_language hmem _).2.2.2 (haccepts _) outdentedQuote "   >\n> a".toList).2.1
      ⟨rfl, BlockquoteIndentation.isStuck_outdentedQuote⟩

end MarkLint

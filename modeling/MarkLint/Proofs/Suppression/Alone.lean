import MarkLint.Proofs.Suppression.Coverage
import MarkLint.Proofs.Suppression.Written
import MarkLint.Proofs.Text.Lines

/-!
# The only comment of a source

A comment can only start at an `opening`. So a line without openings holds no comments, and in a source with a single
opening the comment that is written there is the only one (`IsWritten.exists_lines`). It takes away the diagnostics of
the rules that it names, as far as it reaches, and no others (`apply_written`).
-/

namespace MarkLint.Suppression

open MarkLint.Text

/-! ## Where comments start -/

/-- What starts with the opening of a comment and reaches into a later one holds an opening before. -/
theorem opening_prefix_of_append {s t : List Char} (hs : s ≠ []) (h : opening <+: s ++ '<' :: t) : opening <+: s := by
  obtain ⟨u, hu⟩ := h
  match s, hs, hu with
  | [_], _, hu => simp [opening] at hu
  | [_, _], _, hu => simp [opening] at hu
  | [_, _, _], _, hu => simp [opening] at hu
  | a :: b :: c :: d :: s, _, hu =>
    simp only [opening, List.cons_append, List.cons.injEq] at hu
    obtain ⟨rfl, rfl, rfl, rfl, -⟩ := hu
    exact ⟨s, rfl⟩

theorem opening_prefix_of_commentAt? {keyword s : List Char} {scope : Scope} (h : commentAt? keyword s = some scope) :
    opening <+: s := by
  obtain ⟨text, rest, raw, rfl, hcomment, -⟩ := commentAt?_sound h
  cases hcomment with
  | intro hopening =>
    have hcased : ∀ w ∈ opening, w.toNat < 97 := by simp [opening]
    rw [eq_of_spells hcased hopening, List.append_assoc]
    exact List.prefix_append _ _

/-- A text without openings before it does not make an opening of what follows. -/
theorem not_opening_infix_append {t s : List Char} (ht : '<' ∉ t) (hs : ¬ opening <:+: s) : ¬ opening <:+: t ++ s := by
  induction t with
  | nil => exact hs
  | cons c t ih =>
    rw [List.cons_append, List.infix_cons_iff]
    rintro (⟨u, hu⟩ | h)
    · obtain rfl : c = '<' := (List.cons.inj hu.symm).1
      exact ht List.mem_cons_self
    · exact ih (fun hmem => ht (List.mem_cons_of_mem _ hmem)) h

/-- A line without openings holds no comments. -/
theorem comments_eq_nil {keyword : List Char} : ∀ {line : List Char}, ¬ opening <:+: line → comments keyword line = []
  | [], _ => rfl
  | c :: line, h => by
    have hnone : commentAt? keyword (c :: line) = none := by
      rw [Option.eq_none_iff_forall_ne_some]
      exact fun scope hscope => h (opening_prefix_of_commentAt? hscope).isInfix
    rw [comments, hnone, comments_eq_nil fun hline => h (List.infix_cons hline)]
    rfl

/-- Text without openings before a comment makes no difference to the comments. -/
theorem comments_append {keyword t : List Char} : ∀ {s : List Char}, ¬ opening <:+: s →
    comments keyword (s ++ '<' :: t) = comments keyword ('<' :: t)
  | [], _ => rfl
  | c :: s, h => by
    have hnone : commentAt? keyword (c :: s ++ '<' :: t) = none := by
      rw [Option.eq_none_iff_forall_ne_some]
      exact fun scope hscope =>
        h (opening_prefix_of_append (List.cons_ne_nil c s) (opening_prefix_of_commentAt? hscope)).isInfix
    rw [List.cons_append] at hnone ⊢
    rw [comments, hnone, comments_append fun hs => h (List.infix_cons hs)]
    rfl

/-! ## A written comment in its line -/

/-- Which diagnostics a comment is about: those of its line, or those of the file. -/
inductive Reach where
  | line
  | file
  deriving Repr, DecidableEq

namespace Reach

/-- The keyword of a comment with the reach. -/
def keyword : Reach → List Char
  | line => lineKeyword
  | file => fileKeyword

/-- Is the diagnostic in reach of a comment on the line with the given number? -/
def holds : Reach → Nat → Diagnostic → Bool
  | line, number, d => d.line == number
  | file, _, _ => true

theorem startsFilled_keyword (r : Reach) : StartsFilled r.keyword := by
  cases r with
  | line => exact startsFilled_lineKeyword
  | file => exact startsFilled_fileKeyword

/-- The keywords start with different letters. -/
theorem dropWord?_keyword {r other : Reach} (hne : other ≠ r) {word : List Char}
    (hword : word.map Char.toLower = r.keyword) (rest : List Char) : dropWord? other.keyword (word ++ rest) = none := by
  cases word with
  | nil => cases r <;> cases hword
  | cons c word =>
    cases r with
    | line =>
      cases other with
      | line => exact absurd rfl hne
      | file => exact if_neg (not_matchesLetter (List.cons.inj hword).1 (by decide))
    | file =>
      cases other with
      | file => exact absurd rfl hne
      | line => exact if_neg (not_matchesLetter (List.cons.inj hword).1 (by decide))

end Reach

section Written

variable {reach : Reach} {ids : Option (List (List Char))} {comment : List Char}

theorem IsSpacing.forall_ne {gap : List Char} (h : IsSpacing gap) : ∀ c ∈ gap, c ≠ '<' ∧ c ≠ '\n' := fun c hc =>
  have hopen : c ≠ '<' := ne_of_apply_ne isBlank (by rw [List.all_eq_true.1 h.1 c hc]; decide)
  have hbreak : c ≠ '\n' := fun heq => h.2 (heq ▸ hc)
  ⟨hopen, hbreak⟩

/-- Capital letters do not turn a word into one that opens a comment or ends a line. -/
theorem forall_ne_of_map_toLower {word text : List Char} (h : text.map Char.toLower = word) (hopen : '<' ∉ word)
    (hbreak : '\n' ∉ word) : ∀ c ∈ text, c ≠ '<' ∧ c ≠ '\n' := by
  subst h
  intro c hc
  constructor
  · rintro rfl
    exact hopen (List.mem_map_of_mem hc)
  · rintro rfl
    exact hbreak (List.mem_map_of_mem hc)

theorem IsWrittenList.forall_ne {list : List Char} (h : IsWrittenList ids list) : ∀ c ∈ list, c ≠ '<' ∧ c ≠ '\n' := by
  cases h with
  | none => simp
  | @some gap text ids hgap hids htext =>
    intro c hc
    rw [List.mem_cons, List.mem_append] at hc
    rcases hc with rfl | hc | hc
    · decide
    · exact hgap.forall_ne c hc
    · rcases htext.forall_mem hids.chars c hc with hid | rfl | ⟨hblank, hbreak⟩
      · exact ⟨ne_of_apply_ne isIdChar (by rw [hid]; decide), ne_of_apply_ne isIdChar (by rw [hid]; decide)⟩
      · decide
      · exact ⟨ne_of_apply_ne isBlank (by rw [hblank]; decide), hbreak⟩

/-- After its opening, a written comment holds neither an opening nor a line feed. -/
theorem IsWritten.exists_cons (h : IsWritten reach.keyword ids comment) :
    ∃ rest, comment = '<' :: rest ∧ ∀ c ∈ rest, c ≠ '<' ∧ c ≠ '\n' := by
  have hkeyword : '<' ∉ reach.keyword ∧ '\n' ∉ reach.keyword := by cases reach <;> decide
  cases h with
  | @intro gap tool gap' word list gap'' _ hgap htool hgap' hword hlist hgap'' =>
    have hopening : ∀ c ∈ ['!', '-', '-'], c ≠ '<' ∧ c ≠ '\n' := by simp
    have hclosing : ∀ c ∈ ['-', '-', '>'], c ≠ '<' ∧ c ≠ '\n' := by simp
    have htool := forall_ne_of_map_toLower htool (by decide) (by decide)
    have hword := forall_ne_of_map_toLower hword hkeyword.1 hkeyword.2
    refine ⟨['!', '-', '-'] ++ (gap ++ (tool ++ (gap' ++ (word ++ (list ++ (gap'' ++ ['-', '-', '>'])))))), rfl, ?_⟩
    simp only [List.forall_mem_append]
    exact ⟨hopening, hgap.forall_ne, htool, hgap'.forall_ne, hword, hlist.forall_ne, hgap''.forall_ne, hclosing⟩

/-- A written comment is read with its own keyword. -/
theorem IsWritten.commentAt? (h : IsWritten reach.keyword ids comment) (rest : List Char) :
    commentAt? reach.keyword (comment ++ rest) = some (namedScope ids) := by
  obtain ⟨raw, hcomment, hscope⟩ := h.exists_isComment
  rw [commentAt?_complete reach.startsFilled_keyword hcomment, hscope]

/-- With another keyword it is not. -/
theorem IsWritten.commentAt?_of_ne (h : IsWritten reach.keyword ids comment) {other : Reach} (hne : other ≠ reach)
    (rest : List Char) : Suppression.commentAt? other.keyword (comment ++ rest) = none := by
  cases h with
  | @intro gap tool gap' word list gap'' _ hgap htool hgap' hword hlist hgap'' =>
    have hopening : Spells "<!--".toList opening := spells_of_map_toLower (by decide)
    have htool := spells_of_map_toLower htool
    simp only [List.append_assoc]
    rw [Suppression.commentAt?, dropWord?_eq_some_iff.2 ⟨opening, rfl, hopening⟩, Option.bind_eq_bind, Option.bind_some,
      htool.trimStart_append startsFilled_tool hgap.1, dropWord?_eq_some_iff.2 ⟨tool, rfl, htool⟩, Option.bind_some,
      (spells_of_map_toLower hword).trimStart_append reach.startsFilled_keyword hgap'.1,
      Reach.dropWord?_keyword hne hword]
    rfl

/-- The comments of a line in which nothing else opens one. -/
theorem IsWritten.comments (h : IsWritten reach.keyword ids comment) {before after : List Char}
    (hbefore : ¬ opening <:+: before) (hafter : ¬ opening <:+: after) (other : Reach) :
    comments other.keyword (before ++ (comment ++ after)) = if other = reach then [namedScope ids] else [] := by
  obtain ⟨rest, rfl, hrest⟩ := h.exists_cons
  have hnil : Suppression.comments other.keyword (rest ++ after) = [] :=
    comments_eq_nil (not_opening_infix_append (fun hmem => (hrest _ hmem).1 rfl) hafter)
  rw [List.cons_append, comments_append hbefore, Suppression.comments, hnil, ← List.cons_append, List.append_nil]
  split
  · rename_i heq
    rw [heq, h.commentAt?]
    rfl
  · rename_i hne
    rw [h.commentAt?_of_ne hne]
    rfl

/-! ## The only comment of a source -/

variable {before after : List Char}

/-- The line of the comment, and the lines before and after it, which hold no comments. -/
theorem IsWritten.exists_lines (h : IsWritten reach.keyword ids comment) (hbefore : ¬ opening <:+: before)
    (hafter : ¬ opening <:+: after) : ∃ first line rest, lines (before ++ (comment ++ after)) = first ++ line :: rest ∧
      first.length = before.count '\n' ∧ (∀ l ∈ first ++ rest, ∀ r : Reach, Suppression.comments r.keyword l = []) ∧
      ∀ r : Reach, Suppression.comments r.keyword line = if r = reach then [namedScope ids] else [] := by
  have hline : '\n' ∉ comment := by
    obtain ⟨rest, rfl, hrest⟩ := h.exists_cons
    exact fun hmem => (List.mem_cons.1 hmem).elim (by decide) fun hmem => (hrest _ hmem).2 rfl
  obtain ⟨first, last, next, rest, hlast, hnext, hlines⟩ := exists_lines_append hline before after
  have hbefore' : ∀ l ∈ first ++ [last], ¬ opening <:+: l := fun l hl hopening =>
    hbefore (hopening.trans (infix_of_mem_lines (hlast ▸ hl)))
  have hafter' : ∀ l ∈ next :: rest, ¬ opening <:+: l := fun l hl hopening =>
    hafter (hopening.trans (infix_of_mem_lines (hnext ▸ hl)))
  refine ⟨first, _, rest, hlines, ?_, fun l hl r => comments_eq_nil ?_,
    h.comments (hbefore' last (by simp)) (hafter' next (by simp))⟩
  · have hcount := length_lines before
    rw [hlast, List.length_append, List.length_singleton] at hcount
    omega
  · rcases List.mem_append.1 hl with hl | hl
    · exact hbefore' l (List.mem_append_left _ hl)
    · exact hafter' l (List.mem_cons_of_mem _ hl)

/-- The comment counts for the file if that is its reach. -/
theorem IsWritten.fileComment? (h : IsWritten reach.keyword ids comment) (hbefore : ¬ opening <:+: before)
    (hafter : ¬ opening <:+: after) :
    fileComment? (before ++ (comment ++ after)) = if reach = .file then some (namedScope ids) else none := by
  obtain ⟨first, line, rest, hlines, -, hothers, hline⟩ := h.exists_lines hbefore hafter
  have hnone : ∀ {ls : List (List Char)}, (∀ l ∈ ls, l ∈ first ++ rest) →
      ls.filterMap (fun l => (Suppression.comments fileKeyword l).head?) = [] := by
    intro ls hls
    refine List.filterMap_eq_nil_iff.2 fun l hl => ?_
    rw [show Suppression.comments fileKeyword l = [] from hothers l (hls l hl) .file]
    rfl
  rw [Suppression.fileComment?, hlines, List.filterMap_append, hnone fun l => List.mem_append_left _, List.nil_append,
    List.filterMap_cons, show Suppression.comments fileKeyword line = _ from hline .file,
    hnone fun l => List.mem_append_right _]
  cases reach <;> rfl

/-- The comment counts for its own line if that is its reach. -/
theorem IsWritten.lineComment? (h : IsWritten reach.keyword ids comment) (hbefore : ¬ opening <:+: before)
    (hafter : ¬ opening <:+: after) (number : Int) : lineComment? (before ++ (comment ++ after)) number
      = if reach = .line ∧ number = (before.count '\n' + 1 : Nat) then some (namedScope ids) else none := by
  obtain ⟨first, line, rest, hlines, hlength, hothers, hline⟩ := h.exists_lines hbefore hafter
  rw [Suppression.lineComment?, lineAt?, hlines]
  by_cases hnumber : number = (before.count '\n' + 1 : Nat)
  · have hindex : (number - 1).toNat = first.length := by omega
    rw [if_pos (by omega), hindex, List.getElem?_append_right (Nat.le_refl _), Nat.sub_self, List.getElem?_cons_zero,
      Option.bind_some, show Suppression.comments lineKeyword line = _ from hline .line]
    cases reach with
    | line => simp [hnumber]
    | file => simp
  · have hno : ¬ (reach = .line ∧ number = (before.count '\n' + 1 : Nat)) := fun hand => hnumber hand.2
    rw [if_neg hno]
    split
    · rw [Option.bind_eq_none_iff]
      intro l hl
      have hmem : l ∈ (first ++ line :: rest).eraseIdx first.length :=
        List.mem_eraseIdx_iff_getElem?.2 ⟨_, by omega, hl⟩
      rw [List.eraseIdx_append_of_length_le (Nat.le_refl _), Nat.sub_self, List.eraseIdx_cons_zero] at hmem
      rw [show Suppression.comments lineKeyword l = [] from hothers l hmem .line]
      rfl
    · rfl

/-- A diagnostic is taken away if the comment names its rule and reaches its place. -/
theorem IsWritten.isTakenAway (h : IsWritten reach.keyword ids comment) (hbefore : ¬ opening <:+: before)
    (hafter : ¬ opening <:+: after) (d : Diagnostic) : isTakenAway (before ++ (comment ++ after)) d
      = (names ids d.ruleId && reach.holds (before.count '\n' + 1) d) := by
  rw [Suppression.isTakenAway, h.fileComment? hbefore hafter, h.lineComment? hbefore hafter, ← covers_namedScope]
  cases reach with
  | file => simp [Reach.holds]
  | line =>
    by_cases hline : d.line = (before.count '\n' + 1 : Nat)
    · simp [Reach.holds, hline]
    · rw [if_neg (by simp), if_neg fun hand => hline hand.2]
      have hholds : Reach.line.holds (before.count '\n' + 1) d = false := beq_eq_false_iff_ne.2 hline
      rw [hholds, Bool.and_false]
      rfl

/-- Take a source whose only comment names some rules, or none to be about all of them. Of the diagnostics it takes away
those of the rules that it names, and of its own line if that is its reach, unless they are fatal. So no diagnostic of a
rule that it does not name is taken away. -/
theorem apply_written (h : IsWritten reach.keyword ids comment) (hbefore : ¬ opening <:+: before)
    (hafter : ¬ opening <:+: after) (ds : List Diagnostic) :
    apply ds (before ++ (comment ++ after))
        = ds.filter (fun d => d.fatal || !(names ids d.ruleId && reach.holds (before.count '\n' + 1) d)) ∧
      ∀ d ∈ ds, names ids d.ruleId = false → d ∈ apply ds (before ++ (comment ++ after)) := by
  have happly : apply ds (before ++ (comment ++ after))
      = ds.filter (fun d => d.fatal || !(names ids d.ruleId && reach.holds (before.count '\n' + 1) d)) := by
    rw [apply_eq_filter]
    exact List.filter_congr fun d _ => by rw [h.isTakenAway hbefore hafter]
  refine ⟨happly, fun d hd hnames => ?_⟩
  rw [happly, List.mem_filter]
  exact ⟨hd, by simp [hnames]⟩

end Written

/-- A comment for its line in mixed case, without a space before its end, whose names end in hyphens. -/
theorem apply_written_hyphens :
    IsWritten Reach.line.keyword (some ["Ab--".toList, "c3-".toList]) "<!-- Margot:\tnoQA:Ab-- , c3--->".toList ∧
    ¬ opening <:+: "a\n> <!".toList ∧ ¬ opening <:+: "<! -- b\nc".toList ∧
    apply [findingAt "ab--" 2, findingAt "ab" 2, findingAt "c3-" 1, findingAt "c3-" 2]
        ("a\n> <!".toList ++ ("<!-- Margot:\tnoQA:Ab-- , c3--->".toList ++ "<! -- b\nc".toList))
      = [findingAt "ab" 2, findingAt "c3-" 1] := by
  have hnothing : IsSpacing [] := ⟨rfl, List.not_mem_nil⟩
  have hspace : IsSpacing " ".toList := ⟨by decide, by decide⟩
  have htab : IsSpacing "\t".toList := ⟨by decide, by decide⟩
  have htool : "Margot:".toList.map Char.toLower = "margot:".toList := by decide
  have hword : "noQA".toList.map Char.toLower = Reach.line.keyword := by decide
  have hids : AreIds ["Ab--".toList, "c3-".toList] := ⟨by decide, by decide, by decide⟩
  have hlist := IsWrittenList.some hnothing hids (.more hspace hspace (.one _))
  have htext : "<!-- Margot:\tnoQA:Ab-- , c3--->".toList = opening ++ (" ".toList ++ ("Margot:".toList ++
      ("\t".toList ++ ("noQA".toList ++
        ((':' :: ([] ++ ("Ab--".toList ++ (" ".toList ++ ',' :: (" ".toList ++ "c3-".toList))))) ++
          ([] ++ ['-', '-', '>'])))))) := by decide +kernel
  have hcomment : IsWritten Reach.line.keyword (some ["Ab--".toList, "c3-".toList])
      "<!-- Margot:\tnoQA:Ab-- , c3--->".toList := htext ▸ .intro hspace htool htab hword hlist hnothing
  have hbefore : ¬ opening <:+: "a\n> <!".toList := by decide +kernel
  have hafter : ¬ opening <:+: "<! -- b\nc".toList := by decide +kernel
  exact ⟨hcomment, hbefore, hafter, (apply_written hcomment hbefore hafter _).1.trans (by decide +kernel)⟩

end MarkLint.Suppression

import MarkLint.Proofs.Suppression.Comment

/-!
# Which comments take effect

`Covered source d` says that some comment of the source is about the diagnostic: one for the file on any line, or one
for the line on the line of the diagnostic. Only diagnostics that are covered are taken away, but not all of them: of
several comments the last line's first one counts for the file, and the first one for its line (`isTakenAway`). All
covered diagnostics are taken away exactly if these are about all rules that the other comments are about
(`NothingShadowed`).
-/

namespace MarkLint.Suppression

open MarkLint.Text

/-! ## Coverage -/

/-- The keyword of comments for their line. -/
def lineKeyword : List Char := "noqa".toList

/-- The keyword of comments for the file. -/
def fileKeyword : List Char := "disable-file".toList

/-- Some text in the line is a comment with the keyword and is about the rule. -/
def Mentions (keyword line : List Char) (id : String) : Prop :=
  ∃ before text rest raw, line = before ++ (text ++ rest) ∧ IsComment keyword raw text ∧ (scopeOf raw).covers id = true

/-- The line with the given number. -/
def lineAt? (source : List Char) (number : Int) : Option (List Char) :=
  if 1 ≤ number then (lines source)[(number - 1).toNat]? else none

/-- Some comment for the file is about the diagnostic, or some comment for its line. -/
def Covered (source : List Char) (d : Diagnostic) : Prop :=
  (∃ line ∈ lines source, Mentions fileKeyword line d.ruleId) ∨
    ∃ line ∈ lineAt? source d.line, Mentions lineKeyword line d.ruleId

theorem startsFilled_lineKeyword : StartsFilled lineKeyword := ⟨'n', _, rfl, by decide⟩

theorem startsFilled_fileKeyword : StartsFilled fileKeyword := ⟨'d', _, rfl, by decide⟩

theorem mentions_iff {keyword line : List Char} {id : String} (hkeyword : StartsFilled keyword) :
    Mentions keyword line id ↔ ∃ scope ∈ comments keyword line, scope.covers id = true := by
  constructor
  · rintro ⟨before, text, rest, raw, hline, hcomment, hcovers⟩
    exact ⟨scopeOf raw, (mem_comments hkeyword).2 ⟨before, text, rest, raw, hline, hcomment, rfl⟩, hcovers⟩
  · rintro ⟨scope, hscope, hcovers⟩
    obtain ⟨before, text, rest, raw, hline, hcomment, rfl⟩ := (mem_comments hkeyword).1 hscope
    exact ⟨before, text, rest, raw, hline, hcomment, hcovers⟩

/-- Coverage can be computed from the comments of the lines. -/
theorem covered_iff {source : List Char} {d : Diagnostic} : Covered source d ↔
    (∃ line ∈ lines source, ∃ scope ∈ comments fileKeyword line, scope.covers d.ruleId = true) ∨
      ∃ line ∈ (lineAt? source d.line).toList, ∃ scope ∈ comments lineKeyword line, scope.covers d.ruleId = true := by
  simp only [Covered, mentions_iff startsFilled_fileKeyword, mentions_iff startsFilled_lineKeyword, Option.mem_toList,
    Option.mem_def]

instance (source : List Char) : DecidablePred (Covered source) := fun _ => decidable_of_iff _ covered_iff.symm

/-! ## The comments that count -/

/-- The comment that counts for the file: the first one on the last line that has any. -/
def fileComment? (source : List Char) : Option Scope :=
  ((lines source).filterMap fun line => (comments fileKeyword line).head?).getLast?

/-- The comment that counts for the line with the given number: the first one. -/
def lineComment? (source : List Char) (number : Int) : Option Scope :=
  (lineAt? source number).bind fun line => (comments lineKeyword line).head?

/-- Is a diagnostic taken away, unless it is fatal? -/
def isTakenAway (source : List Char) (d : Diagnostic) : Bool :=
  (fileComment? source).any (·.covers d.ruleId) || (lineComment? source d.line).any (·.covers d.ruleId)

/-- The table holds the comments that count. -/
theorem suppresses_ofText (source : List Char) (d : Diagnostic) :
    (Table.ofText source).suppresses d = (!d.fatal && isTakenAway source d) := by
  have hfile : (Table.ofText source).file = fileComment? source := by
    simp only [Table.ofText, fileComment?, head?_comments]
    rfl
  have hline : (Table.ofText source).atLine? d.line = lineComment? source d.line := by
    simp only [Table.ofText, Table.atLine?, lineComment?, lineAt?, head?_comments]
    split
    · rw [List.getElem?_map]
      cases (lines source)[(d.line - 1).toNat]? <;> rfl
    · rfl
  rw [Table.suppresses, hfile, hline, isTakenAway]

theorem apply_eq_filter (ds : List Diagnostic) (source : List Char) :
    apply ds source = ds.filter fun d => d.fatal || !isTakenAway source d := by
  refine List.filter_congr fun d _ => ?_
  rw [suppresses_ofText, Bool.not_and, Bool.not_not]

/-- Only covered diagnostics are taken away. -/
theorem covered_of_isTakenAway {source : List Char} {d : Diagnostic} (h : isTakenAway source d = true) :
    Covered source d := by
  rw [covered_iff]
  rcases Bool.or_eq_true_iff.1 h with h | h
  · obtain ⟨scope, hscope, hcovers⟩ := (Option.any_eq_true _ _).1 h
    obtain ⟨line, hline, hhead⟩ := List.mem_filterMap.1 (List.mem_of_getLast? hscope)
    exact Or.inl ⟨line, hline, scope, List.mem_of_mem_head? hhead, hcovers⟩
  · obtain ⟨scope, hscope, hcovers⟩ := (Option.any_eq_true _ _).1 h
    obtain ⟨line, hline, hhead⟩ := Option.bind_eq_some_iff.1 hscope
    exact Or.inr ⟨line, Option.mem_toList.2 hline, scope, List.mem_of_mem_head? hhead, hcovers⟩

/-- The comments that count are about all rules that the others are about. -/
structure NothingShadowed (source : List Char) : Prop where
  file : ∀ line ∈ lines source, ∀ id, Mentions fileKeyword line id → (fileComment? source).any (·.covers id) = true
  line : ∀ line ∈ lines source, ∀ id, Mentions lineKeyword line id →
    (fileComment? source).any (·.covers id) = true ∨ (comments lineKeyword line).head?.any (·.covers id) = true

/-- A diagnostic of the given rule on the given line. -/
def findingAt (id : String) (line : Int) : Diagnostic := { ruleId := id, message := "", start := some ⟨line, 1, 0⟩ }

/-- If nothing is shadowed, then covered diagnostics are taken away. -/
theorem NothingShadowed.isTakenAway {source : List Char} {d : Diagnostic} (h : NothingShadowed source)
    (hd : Covered source d) : isTakenAway source d = true := by
  rcases hd with ⟨line, hline, hmentions⟩ | ⟨line, hline, hmentions⟩
  · exact Bool.or_eq_true_iff.2 (Or.inl (h.file line hline _ hmentions))
  · have hmem : line ∈ lines source := by
      unfold lineAt? at hline
      split at hline
      · exact List.mem_of_getElem? hline
      · cases hline
    refine Bool.or_eq_true_iff.2 ((h.line line hmem _ hmentions).imp_right fun hfirst => ?_)
    rwa [lineComment?, hline, Option.bind_some]

/-- If all covered diagnostics are taken away, then nothing is shadowed. -/
theorem nothingShadowed_of_forall {source : List Char}
    (h : ∀ id line, Covered source (findingAt id line) → isTakenAway source (findingAt id line) = true) :
    NothingShadowed source := by
  constructor
  · intro line hline id hmentions
    -- a diagnostic on line 0 is covered by comments for the file only
    have hnone : lineComment? source (findingAt id 0).line = none := rfl
    rcases Bool.or_eq_true_iff.1 (h id 0 (Or.inl ⟨line, hline, hmentions⟩)) with hfile | hfirst
    · exact hfile
    · rw [hnone] at hfirst
      cases hfirst
  · intro line hline id hmentions
    obtain ⟨i, hi⟩ := List.mem_iff_getElem?.1 hline
    have hat : lineAt? source (findingAt id (i + 1)).line = some line := by
      show lineAt? source (i + 1) = some line
      rw [lineAt?, if_pos (by omega), Int.add_sub_cancel, Int.toNat_natCast, hi]
    rcases Bool.or_eq_true_iff.1 (h id (i + 1) (Or.inr ⟨line, hat, hmentions⟩)) with hfile | hfirst
    · exact Or.inl hfile
    · rw [lineComment?, hat, Option.bind_some] at hfirst
      exact Or.inr hfirst

/-- The comments that count take away all their diagnostics but fatal ones, which are all covered; and all covered ones
are taken away exactly if nothing is shadowed. -/
theorem apply_eq_filter_iff (source : List Char) :
    (∀ ds, apply ds source = ds.filter fun d => d.fatal || !isTakenAway source d) ∧
    (∀ d, isTakenAway source d = true → Covered source d) ∧
    ((∀ ds, apply ds source = ds.filter fun d => d.fatal || !decide (Covered source d)) ↔ NothingShadowed source) := by
  refine ⟨fun ds => apply_eq_filter ds source, fun d => covered_of_isTakenAway, fun h => ?_, fun h ds => ?_⟩
  · refine nothingShadowed_of_forall fun id line hcovered => ?_
    by_contra hkept
    have hone := (apply_eq_filter [findingAt id line] source).symm.trans (h [findingAt id line])
    have hfatal : (findingAt id line).fatal = false := rfl
    simp [hcovered, hkept, hfatal] at hone
  · rw [apply_eq_filter]
    refine List.filter_congr fun d _ => ?_
    have hsame : isTakenAway source d = decide (Covered source d) := by
      rw [Bool.eq_iff_iff, decide_eq_true_iff]
      exact ⟨covered_of_isTakenAway, h.isTakenAway⟩
    rw [hsame]

/-- A second comment for the file, which is about another rule, brings a diagnostic back. -/
theorem apply_shadowed :
    apply [findingAt "a" 1] "<!-- margot: disable-file -->".toList = [] ∧
    apply [findingAt "a" 1] "<!-- margot: disable-file -->\n<!-- margot: disable-file: x -->".toList
      = [findingAt "a" 1] ∧
    ([findingAt "a" 1].filter fun d => d.fatal ||
      !decide (Covered "<!-- margot: disable-file -->\n<!-- margot: disable-file: x -->".toList d)) = [] := by
  decide +kernel

end MarkLint.Suppression

import MarkLint.Proofs.Document.Readable
import MarkLint.Proofs.Editor.Marks
import MarkLint.Proofs.Text.Breaks
import Mathlib.Data.List.TakeWhile

/-!
# What an editor reads

An editor counts the units of UTF-16 from the start of a line, of which a character beyond U+FFFF takes two, and for it
every carriage return ends a line (`offsetAt`). A mark counts characters from the last line feed. So it addresses the
offset of the point that it is made for exactly if no character on the line before the point takes two units, and every
carriage return before it stands before a line feed (`offsetAt_eq_iff`). This is so for every mark of a finding of the
rules (`marks_readAs`).
-/

namespace MarkLint

open MarkLint.Text

namespace Text

/-! ## After the last line feed -/

theorem afterBreak_of_not_mem {s : List Char} (h : '\n' ∉ s) : afterBreak s = s :=
  afterBreak_append_of_not_mem h []

/-- What stands before a line feed makes no difference. -/
theorem afterBreak_cons_of_mem {s : List Char} (h : '\n' ∈ s) (c : Char) : afterBreak (c :: s) = afterBreak s := by
  rw [afterBreak, List.reverse_cons, List.takeWhile_append, if_neg, afterBreak]
  intro hlength
  have hall := List.takeWhile_eq_self_iff.1 ((List.takeWhile_prefix _).eq_of_length hlength)
  exact of_decide_eq_true (hall '\n' (List.mem_reverse.2 h)) rfl

theorem afterBreak_break (s : List Char) : afterBreak ('\n' :: s) = afterBreak s := by
  by_cases h : '\n' ∈ s
  · exact afterBreak_cons_of_mem h '\n'
  · exact (afterBreak_append_of_not_mem h ['\n']).trans (afterBreak_of_not_mem h).symm

theorem joinBreaks_of_no_feed {s : List Char} (h : '\n' ∉ s) : joinBreaks s = s := by
  fun_induction joinBreaks s with
  | case1 => rfl
  | case2 rest => simp at h
  | case3 c rest _ ih => rw [ih fun hmem => h (List.mem_cons_of_mem _ hmem)]

end Text

namespace Editor

/-! ## Reading coordinates -/

/-- The number of units that a character takes. -/
def units (c : Char) : Nat := if c.toNat < 0x10000 then 1 else 2

/-- The characters of a line before which the units stand. Past the end of the line its end counts, and between the
units of one character there is no place. -/
def columnAt : List Char → Nat → Option Nat
  | [], _ => some 0
  | c :: rest, n =>
    if c = '\n' ∨ c = '\r' ∨ n = 0 then some 0
    else if n < units c then none
    else (columnAt rest (n - units c)).map (· + 1)

/-- Does the character end a line for an editor? A carriage return before a line feed does not end it yet. -/
def EndsLine (c : Char) (rest : List Char) : Prop := c = '\n' ∨ c = '\r' ∧ rest.head? ≠ some '\n'

instance (c : Char) (rest : List Char) : Decidable (EndsLine c rest) := inferInstanceAs (Decidable (_ ∨ _))

/-- The offset at which an editor finds a place, if there is such a line. -/
def offsetAt : List Char → Nat → Nat → Option Nat
  | s, 0, n => columnAt s n
  | [], _ + 1, _ => none
  | c :: rest, line + 1, n => (offsetAt rest (if EndsLine c rest then line else line + 1) n).map (· + 1)

variable {before rest : List Char} {c : Char} {line n k : Nat}

theorem offsetAt_zero (s : List Char) (n : Nat) : offsetAt s 0 n = columnAt s n := by
  cases s <;> rfl

theorem offsetAt_cons (c : Char) (rest : List Char) (line n : Nat) : offsetAt (c :: rest) (line + 1) n =
    (offsetAt rest (if EndsLine c rest then line else line + 1) n).map (· + 1) := rfl

theorem columnAt_zero (s : List Char) : columnAt s 0 = some 0 := by
  cases s <;> simp [columnAt]

theorem units_pos (c : Char) : 0 < units c := by
  unfold units
  split <;> decide

/-- Each character takes a unit at least. -/
theorem columnAt_le {s : List Char} (h : columnAt s n = some k) : k ≤ n := by
  fun_induction columnAt s n generalizing k with
  | case1 => cases h; exact Nat.zero_le _
  | case2 => cases h; exact Nat.zero_le _
  | case3 => cases h
  | case4 c rest n hstop hunits ih =>
    obtain ⟨k, hk, rfl⟩ := Option.map_eq_some_iff.1 h
    have := ih hk
    have := units_pos c
    omega

/-- No place of a line is past its line feed. -/
theorem columnAt_lt (hmem : '\n' ∈ before) (h : columnAt (before ++ rest) n = some k) : k < before.length := by
  induction before generalizing n k with
  | nil => cases hmem
  | cons c before ih =>
    rw [List.cons_append, columnAt] at h
    split at h
    · cases h
      exact Nat.succ_pos _
    · rename_i hstop
      rw [not_or] at hstop
      split at h
      · cases h
      · obtain ⟨k, hk, rfl⟩ := Option.map_eq_some_iff.1 h
        have hrest := (List.mem_cons.1 hmem).resolve_left (Ne.symm hstop.1)
        exact Nat.succ_lt_succ (ih hrest hk)

/-- On one line, a place is addressed by the number of characters before it if each of them takes one unit. -/
theorem columnAt_length_iff (hmem : '\n' ∉ before) : columnAt (before ++ rest) before.length = some before.length ↔
    '\r' ∉ before ∧ ∀ c ∈ before, units c = 1 := by
  induction before with
  | nil => cases rest <;> simp [columnAt]
  | cons c before ih =>
    obtain ⟨hfeed, hmem⟩ := not_or.1 (fun h => hmem (List.mem_cons.2 h))
    by_cases hreturn : c = '\r'
    · simp [columnAt, hreturn]
    · have hstop : ¬ (c = '\n' ∨ c = '\r' ∨ (c :: before).length = 0) := by
        simp [Ne.symm hfeed, hreturn]
      rw [List.cons_append, columnAt, if_neg hstop, List.length_cons]
      by_cases hunits : units c = 1
      · rw [hunits, if_neg (by omega), Nat.add_sub_cancel, List.mem_cons, List.forall_mem_cons, not_or,
          and_iff_right hunits, and_iff_right (Ne.symm hreturn), ← ih hmem]
        simp
      · have htwo : units c = 2 := by
          revert hunits
          unfold units
          split <;> simp
        refine iff_of_false (fun h => ?_) fun h => hunits (h.2 c List.mem_cons_self)
        -- the characters that follow cannot make up for the second unit
        split at h
        · cases h
        · obtain ⟨k, hk, hlength⟩ := Option.map_eq_some_iff.1 h
          have := columnAt_le hk
          omega

/-- No place of a line is past the line feed after as many others. -/
theorem offsetAt_lt (hline : line < before.count '\n') (h : offsetAt (before ++ rest) line n = some k) :
    k < before.length := by
  induction before generalizing line k with
  | nil => exact absurd hline (Nat.not_lt_zero _)
  | cons c before ih =>
    cases line with
    | zero =>
      rw [offsetAt_zero] at h
      exact columnAt_lt (List.count_pos_iff.1 hline) h
    | succ line =>
      rw [List.cons_append, offsetAt_cons] at h
      obtain ⟨k, hk, rfl⟩ := Option.map_eq_some_iff.1 h
      refine Nat.succ_lt_succ (ih ?_ hk)
      by_cases hfeed : c = '\n'
      · rw [hfeed, List.count_cons_self] at hline
        have hends : EndsLine c (before ++ rest) := Or.inl hfeed
        rw [if_pos hends]
        omega
      · rw [List.count_cons_of_ne hfeed] at hline
        split <;> omega

/-- The text before a place tells an editor where it is: all carriage returns in it stand before line feeds, and since
the last line feed each character takes one unit. -/
def IsCounted (before : List Char) : Prop := '\r' ∉ joinBreaks before ∧ ∀ c ∈ afterBreak before, units c = 1

instance (before : List Char) : Decidable (IsCounted before) := inferInstanceAs (Decidable (_ ∧ _))

theorem isCounted_of_not_mem (hmem : '\n' ∉ before) :
    IsCounted before ↔ '\r' ∉ before ∧ ∀ c ∈ before, units c = 1 := by
  rw [IsCounted, afterBreak_of_not_mem hmem, joinBreaks_of_no_feed hmem]

theorem isCounted_feed : IsCounted ('\n' :: before) ↔ IsCounted before := by
  rw [IsCounted, IsCounted, afterBreak_break, joinBreaks_cons (by decide), List.mem_cons, or_iff_right (by decide)]

/-- A character that does not end a line tells an editor nothing if there is a line feed after it. -/
theorem isCounted_cons (hmem : '\n' ∈ before) (hends : ¬ EndsLine c before) :
    IsCounted (c :: before) ↔ IsCounted before := by
  rw [EndsLine, not_or, not_and, not_not] at hends
  rw [IsCounted, IsCounted, afterBreak_cons_of_mem hmem]
  by_cases hreturn : c = '\r'
  · obtain ⟨rest, rfl⟩ : ∃ rest, before = '\n' :: rest := List.head?_eq_some_iff.1 (hends.2 hreturn)
    rw [hreturn, joinBreaks, joinBreaks_cons (by decide)]
  · rw [joinBreaks_cons hreturn, List.mem_cons, or_iff_right (Ne.symm hreturn)]

/-- A carriage return that is not followed by a line feed misleads an editor. -/
theorem not_isCounted_return (hends : before.head? ≠ some '\n') : ¬ IsCounted ('\r' :: before) := by
  have hjoin : joinBreaks ('\r' :: before) = '\r' :: joinBreaks before :=
    joinBreaks.eq_3 _ _ fun rest _ h => hends (by rw [h]; rfl)
  rw [IsCounted, hjoin]
  exact fun h => h.1 List.mem_cons_self

/-- The end of a text is addressed by its line feeds, and by its characters since the last of them, exactly if the text
tells an editor where it is. -/
theorem offsetAt_eq_iff : offsetAt (before ++ rest) (before.count '\n') (afterBreak before).length =
    some before.length ↔ IsCounted before := by
  induction before with
  | nil => simp [IsCounted, offsetAt_zero, columnAt_zero, afterBreak, joinBreaks]
  | cons c before ih =>
    have hstep : ∀ {line k : Nat}, (offsetAt (before ++ rest) line k).map (· + 1) = some (c :: before).length ↔
        offsetAt (before ++ rest) line k = some before.length := by
      simp
    by_cases hfeed : c = '\n'
    · subst hfeed
      have hends : EndsLine '\n' (before ++ rest) := Or.inl rfl
      rw [List.count_cons_self, List.cons_append, afterBreak_break, offsetAt_cons, if_pos hends, hstep, ih,
        isCounted_feed]
    · by_cases hmem : '\n' ∈ before
      · obtain ⟨line, hline⟩ := Nat.exists_eq_succ_of_ne_zero (Nat.ne_of_gt (List.count_pos_iff.2 hmem))
        have hsame : EndsLine c (before ++ rest) ↔ EndsLine c before := by
          rw [EndsLine, EndsLine, List.head?_append_of_ne_nil _ (List.ne_nil_of_mem hmem)]
        rw [List.count_cons_of_ne hfeed, List.cons_append, afterBreak_cons_of_mem hmem, hline, offsetAt_cons, hstep]
        by_cases hends : EndsLine c before
        · -- the return counts for a line, and so the line that is looked for starts too early
          obtain ⟨rfl, hnext⟩ := hends.resolve_left hfeed
          rw [if_pos (hsame.2 hends)]
          refine iff_of_false (fun h => ?_) (not_isCounted_return hnext)
          exact Nat.lt_irrefl _ (offsetAt_lt (by omega) h)
        · rw [if_neg fun h => hends (hsame.1 h), isCounted_cons hmem hends, ← ih, hline]
      · have hnone : '\n' ∉ c :: before := by
          rw [List.mem_cons, not_or]
          exact ⟨Ne.symm hfeed, hmem⟩
        rw [List.count_eq_zero.2 hnone, afterBreak_of_not_mem hnone, offsetAt_zero, columnAt_length_iff hnone,
          isCounted_of_not_mem hnone]

/-! ## Marks -/

/-- An editor finds the offset at the place. -/
def Coordinates.Addresses (text : List Char) (a : Coordinates) (x : Int) : Prop :=
  (offsetAt text a.line a.character).map Int.ofNat = some x

instance (text : List Char) (a : Coordinates) (x : Int) : Decidable (a.Addresses text x) :=
  inferInstanceAs (Decidable (_ = _))

variable {text : List Char} {d : Diagnostic} {m : Mark} {p : Point} {a : Coordinates}

/-- The coordinates of a point address its offset exactly if the text before it tells an editor where it is. -/
theorem addresses_iff (hp : (Location.ofText text).isResolvable p = true) (ha : a.IsAt p.line p.column) :
    a.Addresses text p.offset ↔ IsCounted (text.take p.offset.toNat) := by
  obtain ⟨x, hx, hoffset, hpoint⟩ := Location.toPoint_eq_ok_iff.1 (Location.toPoint_of_isResolvable hp)
  obtain ⟨line, character⟩ := a
  obtain ⟨hline, hcharacter⟩ := ha
  rw [hpoint] at hline hcharacter
  simp only [Point.ofOffset] at hline hcharacter
  obtain rfl : line = (text.take x).count '\n' := by omega
  obtain rfl : character = (afterBreak (text.take x)).length := by omega
  have hread := @offsetAt_eq_iff (text.take x) (text.drop x)
  rw [List.take_append_drop, List.length_take, Nat.min_eq_left hx] at hread
  rw [Coordinates.Addresses, hoffset, Int.toNat_natCast, ← hread]
  exact (Option.map_injective fun _ _ => Int.ofNat.inj).eq_iff (b := some x)

theorem eq_of_coordinate {i : Int} {n : Nat} (h : coordinate i = .ok n) : (n : Int) = i := by
  unfold coordinate at h
  split at h
  · cases h
    omega
  · cases h

/-- What is sent for a line and a column is their place. -/
theorem isAt_of_coordinates {line column : Int} (h : coordinates line column = .ok a) : a.IsAt line column := by
  obtain ⟨i, hi, h⟩ := bind_eq_ok_iff.1 h
  obtain ⟨j, hj, h⟩ := bind_eq_ok_iff.1 h
  cases h
  have := eq_of_coordinate hi
  have := eq_of_coordinate hj
  exact ⟨by simp only; omega, by simp only; omega⟩

/-- How an editor reads the mark of a diagnostic. Each end addresses the offset of its point exactly if the text before
the point tells an editor where it is. -/
structure Mark.ReadsAs (text : List Char) (d : Diagnostic) (m : Mark) : Prop where
  start_iff : ∀ p, d.start = some p → (m.start.Addresses text p.offset ↔ IsCounted (text.take p.offset.toNat))
  stop_iff : ∀ p, d.stop = some p → (m.stop.Addresses text p.offset ↔ IsCounted (text.take p.offset.toNat))
  start_of_none : d.start = none → m.start.Addresses text 0
  stop_of_none : d.stop = none → m.stop = m.start

/-- The ends of a mark are sent for those of the diagnostic; without a stop, it stops where it starts. -/
theorem markOf_eq_ok (h : markOf d = .ok m) : coordinates d.line d.column = .ok m.start ∧
    (∀ p, d.stop = some p → coordinates p.line p.column = .ok m.stop) ∧ (d.stop = none → m.stop = m.start) := by
  obtain ⟨start, hstart, h⟩ := bind_eq_ok_iff.1 h
  cases hstop : d.stop with
  | none =>
    rw [hstop] at h
    cases h
    exact ⟨hstart, fun p hp => by (cases hp), fun _ => rfl⟩
  | some p =>
    rw [hstop] at h
    obtain ⟨stop, hend, h⟩ := bind_eq_ok_iff.1 h
    cases h
    exact ⟨hstart, fun p' hp' => by cases hp'; exact hend, fun hnone => by (cases hnone)⟩

/-- Every mark of a reliable diagnostic is read so. -/
theorem readsAs_of_markOf (hd : d.IsReliable (Location.ofText text)) (h : markOf d = .ok m) : m.ReadsAs text d := by
  obtain ⟨hstart, hstop, hsame⟩ := markOf_eq_ok h
  have hends : ∀ p, d.start = some p ∨ d.stop = some p → (Location.ofText text).isResolvable p = true := by
    intro p hp
    rcases hd with ⟨-, -, hnone, hnone'⟩ | ⟨-, -, p', hp', hresolves, hresolves'⟩
    · rw [hnone, hnone'] at hp
      rcases hp with hp | hp <;> cases hp
    · rcases hp with hp | hp
      · rw [hp'] at hp
        cases hp
        exact hresolves
      · exact (hresolves' p hp).1
  refine ⟨fun p hp => ?_, fun p hp => ?_, fun hnone => ?_, hsame⟩
  · refine addresses_iff (hends p (Or.inl hp)) ?_
    have hat := isAt_of_coordinates hstart
    rwa [Diagnostic.line, Diagnostic.column, hp] at hat
  · exact addresses_iff (hends p (Or.inr hp)) (isAt_of_coordinates (hstop p hp))
  · rw [Diagnostic.line, Diagnostic.column, hnone] at hstart
    have hzero : m.start = ⟨0, 0⟩ := (Except.ok.inj hstart).symm
    rw [Coordinates.Addresses, hzero, offsetAt_zero, columnAt_zero]
    rfl

/-- Each end of the mark of each finding addresses the offset of its point exactly if, in the text before the point, all
carriage returns stand before line feeds, and since the last line feed no character takes two units. -/
theorem marks_readAs {markdown : List Char → List Markdown.Element} {rules : List Rule}
    (hrules : ∀ r ∈ rules, ∃ b ∈ allRules, ∃ option, r = { b with option := option })
    (hread : ∃ document, Document.readWith markdown text = .ok document) :
    ∃ findings, Analysis.analyzeWith markdown rules text = .ok findings ∧
      ∀ d ∈ findings.diagnostics, (text.length ≤ maxCoordinate → ∃ m, markOf d = .ok m) ∧
        ∀ m, markOf d = .ok m → m.ReadsAs text d := by
  obtain ⟨findings, hfindings, hreliable⟩ := Analysis.exists_reliable_findings hrules hread
  refine ⟨findings, hfindings, fun d hd => ⟨fun hsize => ?_, fun m => readsAs_of_markOf (hreliable d hd)⟩⟩
  obtain ⟨m, hm, -⟩ := exists_mark hsize (hreliable d hd)
  exact ⟨m, hm⟩

/-- A heading that is repeated is marked from its start to its end, though a letter outside ASCII and carriage returns
before line feeds stand before the end. -/
theorem marks_readAs_accented :
    let text := "# é\r\n\r\n# é".toList
    (∀ r ∈ [DuplicateHeadings.rule], ∃ b ∈ allRules, ∃ option, r = { b with option := option }) ∧
    (∃ document, Document.readWith Markdown.elements text = .ok document) ∧
    ∃ findings d m, Analysis.analyzeWith Markdown.elements [DuplicateHeadings.rule] text = .ok findings ∧
      findings.diagnostics = [d] ∧ markOf d = .ok m ∧ m.start.Addresses text 7 ∧ m.stop.Addresses text 10 := by
  intro text
  have hrules : ∀ r ∈ [DuplicateHeadings.rule], ∃ b ∈ allRules, ∃ option, r = { b with option := option } := by
    intro r hr
    rw [List.mem_singleton.1 hr]
    exact ⟨DuplicateHeadings.rule, by simp [allRules], none, rfl⟩
  have hread : ∃ document, Document.readWith Markdown.elements text = .ok document := Document.exists_read text
  obtain ⟨findings, hfindings, hall⟩ := marks_readAs hrules hread
  have hends : (Analysis.analyzeWith Markdown.elements [DuplicateHeadings.rule] text).toOption.map
      (fun f => f.diagnostics.map fun d => (d.start, d.stop)) = some [(some ⟨3, 1, 7⟩, some ⟨3, 4, 10⟩)] := by
    decide +kernel
  rw [hfindings] at hends
  obtain ⟨d, hd, hends⟩ := List.map_eq_singleton_iff.1 (Option.some.inj hends)
  obtain ⟨hstart, hstop⟩ := Prod.mk.inj hends
  obtain ⟨hexists, hmarks⟩ := hall d (hd ▸ List.mem_singleton_self d)
  obtain ⟨m, hm⟩ := hexists (by decide)
  have hreads := hmarks m hm
  exact ⟨hrules, hread, findings, d, m, hfindings, hd, hm, (hreads.start_iff _ hstart).2 (by decide),
    (hreads.stop_iff _ hstop).2 (by decide)⟩

/-- The mark of a repeated heading that ends in a character beyond U+FFFF stops within it. -/
theorem not_addresses_emoji :
    let text := "# 😀\n\n# 😀".toList
    ∃ findings d m p, Analysis.analyze [DuplicateHeadings.rule] text = .ok findings ∧ findings.diagnostics = [d] ∧
      markOf d = .ok m ∧ d.stop = some p ∧ ¬ m.stop.Addresses text p.offset := by
  intro text
  have hrun : (Analysis.analyze [DuplicateHeadings.rule] text).toOption.map
      (fun f => f.diagnostics.map fun d => (d.stop, (markOf d).toOption.map Mark.stop)) =
        some [(some ⟨3, 4, 8⟩, some ⟨2, 3⟩)] := by
    decide +kernel
  obtain ⟨findings, hfindings, hrun⟩ := map_toOption_eq_some_iff.1 hrun
  obtain ⟨d, hd, hends⟩ := List.map_eq_singleton_iff.1 hrun
  obtain ⟨hstop, hmark⟩ := Prod.mk.inj hends
  obtain ⟨m, hm, hplace⟩ := map_toOption_eq_some_iff.1 hmark
  refine ⟨findings, d, m, _, hfindings, hd, hm, hstop, ?_⟩
  rw [hplace]
  decide

end Editor
end MarkLint

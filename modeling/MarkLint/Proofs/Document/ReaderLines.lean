import MarkLint.Analysis
import MarkLint.Proofs.Document.FrontMatter
import MarkLint.Proofs.Document.Sheet
import MarkLint.Proofs.Text.Breaks

/-!
# Lines of the source and lines of the reader

The Markdown reader takes every carriage return for a line break, alone or before a line feed, while the source is cut
into lines at its line feeds only. The two agree (`LinesAgree`) exactly if below the front matter no line holds a
carriage return, apart from one at its end; then a block is found on the lines that it was read from
(`linesAgree_iff`). A lone carriage return moves all later blocks (`not_linesAgree_loneReturn`).
-/

namespace MarkLint.Document

open MarkLint.FrontMatter
open MarkLint.Text

/-- The text that is read as Markdown: the front matter is hidden, and all line breaks are line feeds. -/
def readerText (source : List Char) : List Char := normalizeBreaks (hide (lineCount source) source)

/-- The number of lines that the reader sees; what follows the last line break is a line only if it is not empty. -/
def readerLineCount (source : List Char) : Nat :=
  (Markdown.Line.ofText (Markdown.normalize (hide (lineCount source) source))).size

/-- Below the front matter the reader sees the lines of the source, without a carriage return at their ends, and no
others but empty ones. -/
structure LinesAgree (source : List Char) : Prop where
  same : ∀ (i : Nat) (l : List Char), lineCount source ≤ i → (lines source)[i]? = some l →
    (lines (readerText source))[i]? = some (dropReturn l)
  rest : ∀ (i : Nat) (l : List Char), (lines source).length ≤ i → (lines (readerText source))[i]? = some l → l = []

/-! ## Lines without their carriage returns -/

/-- A line is left as it is, or loses a carriage return. -/
theorem eq_dropReturn_or (l : List Char) : l = dropReturn l ∨ l = dropReturn l ++ ['\r'] := by
  rcases List.eq_nil_or_concat l with rfl | ⟨m, c, rfl⟩
  · exact Or.inl rfl
  · by_cases hc : c = '\r'
    · exact Or.inr (by simp [dropReturn, hc])
    · exact Or.inl (by simp [dropReturn, hc])

/-- A carriage return is blank. -/
theorem isBlankText_dropReturn (l : List Char) : isBlankText (dropReturn l) = isBlankText l := by
  rcases eq_dropReturn_or l with h | h
  · rw [← h]
  · conv_rhs => rw [h]
    simp [isBlankText, show isBlank '\r' = true by decide]

/-- The lines of the text that the reader makes of lines without carriage returns, apart from one at their ends. If the
last line has one, then an empty line follows. -/
theorem lines_normalizeBreaks_unlines : ∀ {ls : List (List Char)}, (∀ l ∈ ls, '\n' ∉ l) →
    (∀ l ∈ ls, '\r' ∉ dropReturn l) → ∃ rest, (rest = [] ∨ rest = [[]]) ∧
      lines (normalizeBreaks (unlines ls)) = ls.map dropReturn ++ rest
  | [], _, _ => ⟨[[]], Or.inr rfl, rfl⟩
  | [l], hbreak, hreturn => by
    have hr := hreturn l List.mem_cons_self
    have hl := hbreak l List.mem_cons_self
    rw [unlines_singleton, List.map_singleton]
    rcases eq_dropReturn_or l with h | h
    · rw [← h] at hr ⊢
      exact ⟨[], Or.inl rfl, by rw [normalizeBreaks_of_not_mem hr, lines_of_not_mem hl]; rfl⟩
    · rw [h, List.mem_append, not_or] at hl
      refine ⟨[[]], Or.inr rfl, ?_⟩
      conv_lhs => rw [h]
      rw [normalizeBreaks_append hr]
      exact lines_append_break hl.1 []
  | l :: l' :: ls, hbreak, hreturn => by
    have hr := hreturn l List.mem_cons_self
    have hl := hbreak l List.mem_cons_self
    obtain ⟨rest, hrest, ih⟩ := @lines_normalizeBreaks_unlines (l' :: ls)
      (fun m hm => hbreak m (List.mem_cons_of_mem _ hm)) fun m hm => hreturn m (List.mem_cons_of_mem _ hm)
    refine ⟨rest, hrest, ?_⟩
    have hstep : normalizeBreaks (unlines (l :: l' :: ls))
        = dropReturn l ++ '\n' :: normalizeBreaks (unlines (l' :: ls)) := by
      rw [unlines_cons_cons]
      rcases eq_dropReturn_or l with h | h
      · rw [← h] at hr ⊢
        rw [normalizeBreaks_append hr]
        rfl
      · conv_lhs => rw [h, List.append_assoc]
        rw [normalizeBreaks_append hr]
        rfl
    have hdrop : '\n' ∉ dropReturn l := fun hmem => hl (by
      rcases eq_dropReturn_or l with h | h
      · exact h ▸ hmem
      · exact h ▸ List.mem_append_left _ hmem)
    rw [hstep, lines_append_break hdrop, ih]
    rfl

/-! ## The text behind the front matter -/

variable {source : List Char}

theorem lines_readerText (source : List Char) : lines (readerText source) =
    List.replicate (lineCount source) []
      ++ lines (normalizeBreaks (unlines ((lines source).drop (lineCount source)))) := by
  rw [readerText, hide_eq, normalizeBreaks_append (fun h => by cases List.eq_of_mem_replicate h),
    lines_replicate_append]

/-- Without lone carriage returns the reader sees empty lines for the front matter, then the lines of the source, and
perhaps an empty line. -/
theorem exists_lines_readerText (h : ∀ l ∈ (lines source).drop (lineCount source), '\r' ∉ dropReturn l) :
    ∃ rest, (rest = [] ∨ rest = [[]]) ∧ lines (readerText source) =
      List.replicate (lineCount source) [] ++ (((lines source).drop (lineCount source)).map dropReturn ++ rest) := by
  obtain ⟨rest, hrest, heq⟩ := lines_normalizeBreaks_unlines
    (fun l hl => not_mem_of_mem_lines (List.mem_of_mem_drop hl)) h
  exact ⟨rest, hrest, by rw [lines_readerText, heq]⟩

/-- The reader counts no empty line at the end. -/
theorem readerLineCount_le {front rest : List (List Char)} (hrest : rest = [] ∨ rest = [[]])
    (h : lines (readerText source) = front ++ rest) : readerLineCount source ≤ front.length := by
  have hlines : ∃ f : List Char → List Char, f [] = [] ∧
      lines (Markdown.normalize (hide (lineCount source) source)) = front.map f ++ rest.map f := by
    refine ⟨List.map fun c => if c.toNat = 0 then Char.ofNat 0xFFFD else c, rfl, ?_⟩
    rw [← List.map_append, ← h]
    refine lines_map (fun c => ?_) _
    split
    · rename_i hc
      refine ⟨fun h => absurd h (by decide), ?_⟩
      rintro rfl
      cases hc
    · rfl
  obtain ⟨f, hf, hlines⟩ := hlines
  rw [readerLineCount, Markdown.Line.ofText, hlines]
  rcases hrest with rfl | rfl
  · cases hlast : (front.map f ++ List.map f []).getLast? with
    | none => simp
    | some last =>
      have hpos : front ≠ [] := by
        rintro rfl
        cases hlast
      have := List.length_pos_iff.2 hpos
      dsimp only
      split
      · simp
      · simp
        omega
  · simp [hf]

/-! ## Agreement -/

theorem linesAgree_of_forall (h : ∀ l ∈ (lines source).drop (lineCount source), '\r' ∉ dropReturn l) :
    LinesAgree source := by
  obtain ⟨rest, hrest, heq⟩ := exists_lines_readerText h
  have hcount := lineCount_le source
  constructor
  · intro i l hi hl
    have hlt := (List.getElem?_eq_some_iff.1 hl).1
    have hdrop : ((lines source).drop (lineCount source))[i - lineCount source]? = some l := by
      rw [List.getElem?_drop, Nat.add_sub_cancel' hi, hl]
    rw [heq, List.getElem?_append_right (by simpa using hi), List.length_replicate, List.getElem?_append_left,
      List.getElem?_map, hdrop]
    · rfl
    · rw [List.length_map, List.length_drop]
      omega
  · intro i l hi hl
    have hmem : l ∈ rest := by
      rw [heq, ← List.append_assoc, List.getElem?_append_right] at hl
      · exact List.mem_of_getElem? hl
      · simp only [List.length_append, List.length_replicate, List.length_map, List.length_drop]
        omega
    rcases hrest with rfl | rfl
    · cases hmem
    · exact List.mem_singleton.1 hmem

/-- A block that the reader maps is found on the lines from which it was read. -/
theorem blockLines_of_reader (h : ∀ l ∈ (lines source).drop (lineCount source), '\r' ∉ dropReturn l)
    {first stop : Nat} (hfirst : lineCount source ≤ first) (hlt : first < stop)
    (hstop : stop ≤ readerLineCount source) :
    blockLines (Sheet.ofText source) (some (first, stop))
      = some (first, lastFilled (lines (readerText source)) first (stop - 1)) := by
  have hagree := linesAgree_of_forall h
  obtain ⟨rest, hrest, heq⟩ := exists_lines_readerText h
  rw [← List.append_assoc] at heq
  have hcount := lineCount_le source
  have hle : readerLineCount source ≤ (lines source).length := by
    refine Nat.le_trans (readerLineCount_le hrest heq) ?_
    simp only [List.length_append, List.length_replicate, List.length_map, List.length_drop]
    omega
  have hlines : blockLines (Sheet.ofText source) (some (first, stop)) = some ((first : Int).toNat, _) :=
    if_pos ⟨by omega, by rw [lines_sheet]; omega, by rw [lines_sheet]; omega⟩
  have hlast : (max (first : Int) (stop - 1)).toNat = stop - 1 := by omega
  rw [hlines, hlast, Int.toNat_natCast, lines_sheet]
  refine congrArg (fun last => some (first, last)) (lastFilled_congr fun i hi hilt => ?_)
  have hline : (lines source)[i]? = some ((lines source).getD i []) := getElem?_line (by omega)
  rw [List.getD_eq_getElem?_getD (l := lines (readerText source)), hagree.same i _ (Nat.le_trans hfirst hi) hline,
    Option.getD_some, isBlankText_dropReturn]

/-- The lines of the source and of the reader agree exactly if below the front matter no line holds a carriage return,
apart from one at its end; and if they agree, then each block that the reader maps is found, on the lines from which it
was read. -/
theorem linesAgree_iff (source : List Char) :
    (LinesAgree source ↔
      ∀ i l, lineCount source ≤ i → (lines source)[i]? = some l → '\r' ∉ dropReturn l) ∧
    (LinesAgree source → ∀ first stop : Nat, lineCount source ≤ first → first < stop → stop ≤ readerLineCount source →
      blockLines (Sheet.ofText source) (some (first, stop))
        = some (first, lastFilled (lines (readerText source)) first (stop - 1))) := by
  have hnone : LinesAgree source →
      ∀ i l, lineCount source ≤ i → (lines source)[i]? = some l → '\r' ∉ dropReturn l := fun h i l hi hl hmem =>
    not_mem_normalizeBreaks _ (mem_of_mem_lines hmem (List.mem_of_getElem? (h.same i l hi hl)))
  have hdrop : (∀ i l, lineCount source ≤ i → (lines source)[i]? = some l → '\r' ∉ dropReturn l) →
      ∀ l ∈ (lines source).drop (lineCount source), '\r' ∉ dropReturn l := fun h l hl => by
    obtain ⟨i, hi⟩ := List.mem_iff_getElem?.1 hl
    rw [List.getElem?_drop] at hi
    exact h _ l (Nat.le_add_right _ _) hi
  refine ⟨⟨hnone, fun h => linesAgree_of_forall (hdrop h)⟩, fun h first stop => ?_⟩
  exact blockLines_of_reader (hdrop (hnone h))

/-- After a lone carriage return, a heading on the third line of the source is on the fourth line of the reader. It gets
no place, and nothing is reported on it. -/
theorem not_linesAgree_loneReturn :
    ¬ LinesAgree "x\ry\n\n# h".toList ∧
    (lines "x\ry\n\n# h".toList)[2]? = some "# h".toList ∧
    (lines (readerText "x\ry\n\n# h".toList))[3]? = some "# h".toList ∧
    blockLines (Sheet.ofText "x\ry\n\n# h".toList) (some (3, 4)) = none ∧
    (Analysis.analyze [{ HeadingLength.rule with option := some (.int 0) }] "x\ry\n\n# h".toList).toOption.map
      Findings.diagnostics = some [] ∧
    ((Analysis.analyze [{ HeadingLength.rule with option := some (.int 0) }] "x\ny\n\n# h".toList).toOption.map
      Findings.diagnostics).map List.length = some 1 := by
  refine ⟨fun h => ?_, by decide +kernel, by decide +kernel, by decide +kernel, by decide +kernel, by decide +kernel⟩
  have hrest := h.rest 3 "# h".toList (by decide +kernel) (by decide +kernel)
  cases hrest

end MarkLint.Document

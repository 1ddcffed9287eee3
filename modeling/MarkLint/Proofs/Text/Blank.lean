import MarkLint.Proofs.Text.Pieces
import MarkLint.Text.Blank

/-!
# Trimming

Blanks at the start of a text make no difference to `trimStart` (`trimStart_append`), and blanks at its end none to
`trim` (`trim_append`), not even in the last piece of a text (`map_trim_pieces_append`).
-/

namespace MarkLint.Text

variable {blanks s : List Char} {c : Char}

theorem trimEnd_sublist (s : List Char) : (trimEnd s).Sublist s := by
  have hdrop := (List.dropWhile_sublist isBlank (l := s.reverse)).reverse
  rwa [List.reverse_reverse] at hdrop

theorem trimEnd_length_le (s : List Char) : (trimEnd s).length ≤ s.length := (trimEnd_sublist s).length_le

theorem trim_sublist (s : List Char) : (trim s).Sublist s :=
  (trimEnd_sublist _).trans (List.dropWhile_sublist isBlank)

/-- A space or a tab is blank. -/
theorem isBlank_of_isIndent (h : isIndent c = true) : isBlank c = true := by
  simp only [isIndent, Bool.or_eq_true, beq_iff_eq] at h
  rcases h with rfl | rfl <;> decide

/-- Blanks, and what is left without them. -/
theorem exists_eq_append_trimStart (s : List Char) : ∃ blanks, blanks.all isBlank = true ∧ s = blanks ++ trimStart s :=
  ⟨s.takeWhile isBlank, List.all_takeWhile, List.takeWhile_append_dropWhile.symm⟩

/-- What is left without blanks, and the blanks. -/
theorem exists_eq_trimEnd_append (s : List Char) : ∃ blanks, blanks.all isBlank = true ∧ s = trimEnd s ++ blanks := by
  obtain ⟨blanks, hblanks, hs⟩ := exists_eq_append_trimStart s.reverse
  refine ⟨blanks.reverse, by rwa [List.all_reverse], ?_⟩
  rw [List.reverse_eq_iff, List.reverse_append] at hs
  exact hs

/-- A character that is not blank is not trimmed. -/
theorem lt_length_trimEnd {i : Nat} (h : s[i]? = some c) (hc : isBlank c = false) : i < (trimEnd s).length := by
  obtain ⟨blanks, hblanks, hs⟩ := exists_eq_trimEnd_append s
  by_contra hle
  rw [hs, List.getElem?_append_right (by omega)] at h
  rw [List.all_eq_true.1 hblanks c (List.mem_of_getElem? h)] at hc
  cases hc

theorem trimStart_append (h : blanks.all isBlank = true) (s : List Char) : trimStart (blanks ++ s) = trimStart s :=
  List.dropWhile_append_of_pos fun c hc => List.all_eq_true.1 h c hc

/-- Wherever a text is cut off, blanks before what is left make no difference to its trimmed start. -/
theorem trimStart_drop_take {rest : List Char} {start : Nat} (h : s.drop start = blanks ++ rest)
    (hblanks : blanks.all isBlank = true) (stop : Nat) :
    trimStart ((s.take stop).drop start) = trimStart ((s.take stop).drop (start + blanks.length)) := by
  have hfront : (blanks.take (stop - start)).all isBlank = true :=
    List.all_eq_true.2 fun c hc => List.all_eq_true.1 hblanks c (List.mem_of_mem_take hc)
  rw [List.drop_take, List.drop_take, h, ← List.drop_drop, h, List.drop_left, List.take_append,
    trimStart_append hfront, Nat.sub_sub]

theorem trimStart_of_not_isBlank (h : isBlank c = false) (s : List Char) : trimStart (c :: s) = c :: s := by
  simp [trimStart, h]

/-- Text that goes on with blanks is trimmed to nothing, or goes on with them after trimming. -/
theorem trimStart_append_right (h : blanks.all isBlank = true) :
    ∀ s : List Char, trimStart s = [] ∧ trimStart (s ++ blanks) = [] ∨ trimStart (s ++ blanks) = trimStart s ++ blanks
  | [] => Or.inl ⟨rfl, by rw [List.nil_append, ← List.append_nil blanks, trimStart_append h]; rfl⟩
  | c :: s => by
    cases hc : isBlank c with
    | true => simpa [trimStart, hc] using trimStart_append_right h s
    | false => exact Or.inr (by simp [trimStart, hc])

theorem trimEnd_append (h : blanks.all isBlank = true) (s : List Char) : trimEnd (s ++ blanks) = trimEnd s := by
  have hdrop : (blanks.reverse ++ s.reverse).dropWhile isBlank = s.reverse.dropWhile isBlank :=
    List.dropWhile_append_of_pos fun c hc => List.all_eq_true.1 h c (List.mem_reverse.1 hc)
  rw [trimEnd, List.reverse_append, hdrop, trimEnd]

/-- A text that ends in a character that is not blank has no blanks at its end. -/
theorem trimEnd_concat_of_not_isBlank (h : isBlank c = false) (s : List Char) : trimEnd (s ++ [c]) = s ++ [c] := by
  simp [trimEnd, h]

theorem trim_append (h : blanks.all isBlank = true) (s : List Char) : trim (s ++ blanks) = trim s := by
  rcases trimStart_append_right h s with ⟨hs, happend⟩ | happend
  · rw [trim, trim, happend, hs]
  · rw [trim, trim, happend, trimEnd_append h]

/-- Blanks at the end of a text make no difference to its trimmed pieces. -/
theorem map_trim_pieces_append {sep : Char} (hsep : isBlank sep = false) (h : blanks.all isBlank = true)
    (s : List Char) : (pieces sep (s ++ blanks)).map trim = (pieces sep s).map trim := by
  have htest : ∀ c ∈ blanks, (c == sep) = false := by
    intro c hc
    have hblank := List.all_eq_true.1 h c hc
    rw [beq_eq_false_iff_ne]
    rintro rfl
    rw [hsep] at hblank
    cases hblank
  obtain ⟨first, last, hs, happend⟩ := piecesBy_append _ htest s
  rw [pieces, pieces, hs, happend, List.map_append, List.map_append, List.map_singleton, List.map_singleton,
    trim_append h]

end MarkLint.Text

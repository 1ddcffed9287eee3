import MarkLint.Document.FrontMatter
import MarkLint.Proofs.Text.Lines
import Mathlib.Data.Nat.Find

/-!
# The lines of front matter

Front matter takes no more lines than the text has (`lineCount_le`), and hiding lines leaves their line feeds
(`hide_eq`). It ends at the first delimiter after its first line, unless this is the second line and another delimiter
follows (`lineCount_eq_firstClosing_iff`): then it goes on to that one (`lineCount_emptyBlock`).
-/

namespace MarkLint.FrontMatter

open MarkLint.Text

/-- A delimiter is one of the lines that are searched. -/
theorem findDelimiter_lt : ∀ {ls : List (List Char)} {index found : Nat}, findDelimiter index ls = some found →
    found < index + ls.length
  | [], _, _, h => by cases h
  | line :: rest, index, found, h => by
    rw [findDelimiter] at h
    split at h
    · cases h
      simp
    · have := findDelimiter_lt h
      rw [List.length_cons]
      omega

/-- Front matter ends on a line of the text. -/
theorem lineCount_le (source : List Char) : lineCount source ≤ (lines source).length := by
  unfold lineCount
  split
  · rename_i opening second rest hlines
    rw [hlines, List.length_cons, List.length_cons]
    split
    · split
      · rename_i found hfound
        have := findDelimiter_lt hfound
        omega
      · split <;> omega
    · exact Nat.zero_le _
  · exact Nat.zero_le _

/-- Hiding lines leaves their line feeds. -/
theorem hide_eq (n : Nat) (source : List Char) :
    hide n source = List.replicate n '\n' ++ unlines ((lines source).drop n) := by
  unfold hide
  split
  · rename_i h
    rw [h, List.replicate_zero, List.drop_zero, unlines_lines]
    rfl
  · rfl

/-! ## Delimiters -/

/-- Line `i` of a text with the lines `ls` is three hyphens with spaces and tabs after them. Before its line break,
which the last line does not have, may stand a carriage return. -/
def IsDelimiterAt (ls : List (List Char)) (i : Nat) : Prop :=
  ∃ blanks : List Char, blanks.all isIndent = true ∧ (ls[i]? = some ('-' :: '-' :: '-' :: blanks) ∨
    i + 1 < ls.length ∧ ls[i]? = some ('-' :: '-' :: '-' :: (blanks ++ ['\r'])))

theorem isRule_iff {l : List Char} :
    isRule l = true ↔ ∃ blanks : List Char, blanks.all isIndent = true ∧ l = '-' :: '-' :: '-' :: blanks := by
  unfold isRule
  split
  · rename_i rest
    simp
  · rename_i hne
    refine iff_of_false Bool.false_ne_true ?_
    rintro ⟨blanks, -, rfl⟩
    exact hne blanks rfl

/-- Spaces and tabs do not end in a carriage return. -/
theorem getLast?_ne_return {blanks : List Char} (h : blanks.all isIndent = true) :
    ('-' :: '-' :: '-' :: blanks).getLast? ≠ some '\r' := by
  intro hlast
  have hmem := List.mem_of_getLast? hlast
  simp only [List.mem_cons, show ('\r' : Char) ≠ '-' by decide, false_or] at hmem
  have := List.all_eq_true.1 h '\r' hmem
  revert this
  decide

/-- The test of the program for a delimiter, in terms of what the line is. -/
theorem isDelimiter_iff {l : List Char} {isLast : Bool} : isDelimiter l isLast = true ↔
    ∃ blanks : List Char, blanks.all isIndent = true ∧ (l = '-' :: '-' :: '-' :: blanks ∨
      isLast = false ∧ l = '-' :: '-' :: '-' :: (blanks ++ ['\r'])) := by
  cases isLast with
  | true => simp [isDelimiter, isRule_iff]
  | false =>
    simp only [isDelimiter, Bool.false_eq_true, if_false, isRule_iff, true_and]
    refine exists_congr fun blanks => and_congr_right fun hblanks => ?_
    unfold dropReturn
    split
    · rename_i hlast
      obtain ⟨m, rfl⟩ := List.getLast?_eq_some_iff.1 (beq_iff_eq.1 hlast)
      rw [List.dropLast_concat]
      constructor
      · rintro rfl
        exact Or.inr rfl
      · rintro (heq | heq)
        · exact absurd (heq ▸ beq_iff_eq.1 hlast) (getLast?_ne_return hblanks)
        · exact List.append_cancel_right (show m ++ ['\r'] = ('-' :: '-' :: '-' :: blanks) ++ ['\r'] from heq)
    · rename_i hlast
      refine ⟨Or.inl, ?_⟩
      rintro (heq | rfl)
      · exact heq
      · exact absurd (beq_iff_eq.2 (List.getLast?_concat (l := '-' :: '-' :: '-' :: blanks))) hlast

theorem isDelimiterAt_cons_zero {l : List Char} {rest : List (List Char)} :
    IsDelimiterAt (l :: rest) 0 ↔ isDelimiter l rest.isEmpty = true := by
  rw [isDelimiter_iff]
  refine exists_congr fun blanks => and_congr_right fun _ => ?_
  cases rest <;> simp

theorem isDelimiterAt_cons_succ {l : List Char} {rest : List (List Char)} {i : Nat} :
    IsDelimiterAt (l :: rest) (i + 1) ↔ IsDelimiterAt rest i := by
  simp [IsDelimiterAt]

theorem IsDelimiterAt.lt_length {ls : List (List Char)} {i : Nat} (h : IsDelimiterAt ls i) : i < ls.length := by
  obtain ⟨blanks, -, h | ⟨-, h⟩⟩ := h
  · exact (List.getElem?_eq_some_iff.1 h).1
  · exact (List.getElem?_eq_some_iff.1 h).1

instance decidableIsDelimiterAt : ∀ (ls : List (List Char)) (i : Nat), Decidable (IsDelimiterAt ls i)
  | [], i => .isFalse fun h => Nat.not_lt_zero i h.lt_length
  | _ :: _, 0 => decidable_of_iff _ isDelimiterAt_cons_zero.symm
  | _ :: rest, i + 1 => @decidable_of_iff _ _ isDelimiterAt_cons_succ.symm (decidableIsDelimiterAt rest i)

/-! ## The search for a delimiter -/

/-- Without a delimiter among the lines nothing is found. -/
theorem findDelimiter_eq_none_iff : ∀ {ls : List (List Char)} {index : Nat},
    findDelimiter index ls = none ↔ ∀ i, ¬ IsDelimiterAt ls i
  | [], index => iff_of_true rfl fun i h => Nat.not_lt_zero i h.lt_length
  | line :: rest, index => by
    have ih := @findDelimiter_eq_none_iff rest (index + 1)
    rw [findDelimiter]
    split
    · rename_i hline
      exact iff_of_false (by simp) fun h => h 0 (isDelimiterAt_cons_zero.2 hline)
    · rename_i hline
      rw [ih]
      constructor
      · intro h i
        cases i with
        | zero => exact fun hzero => hline (isDelimiterAt_cons_zero.1 hzero)
        | succ i => exact fun hsucc => h i (isDelimiterAt_cons_succ.1 hsucc)
      · exact fun h i hi => h (i + 1) (isDelimiterAt_cons_succ.2 hi)

/-- The delimiter that is found is the first one. -/
theorem findDelimiter_eq_some : ∀ {ls : List (List Char)} {index i : Nat}, IsDelimiterAt ls i →
    (∀ j, j < i → ¬ IsDelimiterAt ls j) → findDelimiter index ls = some (index + i)
  | [], _, i, h, _ => absurd h.lt_length (Nat.not_lt_zero i)
  | line :: rest, index, 0, h, _ => by
    rw [findDelimiter, if_pos (isDelimiterAt_cons_zero.1 h), Nat.add_zero]
  | line :: rest, index, i + 1, h, hbefore => by
    have hline : ¬ isDelimiter line rest.isEmpty = true := fun hline =>
      hbefore 0 (Nat.succ_pos i) (isDelimiterAt_cons_zero.2 hline)
    have ih := @findDelimiter_eq_some rest (index + 1) i (isDelimiterAt_cons_succ.1 h) fun j hj hmem =>
      hbefore (j + 1) (Nat.succ_lt_succ hj) (isDelimiterAt_cons_succ.2 hmem)
    rw [findDelimiter, if_neg hline, ih]
    exact congrArg some (by omega)

/-! ## Where front matter ends -/

/-- The front matter of the source is closed first by line `k`: the first line is a delimiter, and `k` is the least
index of a later one. -/
structure FirstClosing (source : List Char) (k : Nat) : Prop where
  opening : IsDelimiterAt (lines source) 0
  later : 1 ≤ k
  closing : IsDelimiterAt (lines source) k
  least : ∀ j, 1 ≤ j → j < k → ¬ IsDelimiterAt (lines source) j

variable {source : List Char}

/-- The number of lines of the front matter, when the text has at least two lines. -/
theorem lineCount_cons_cons {opening second : List Char} {rest : List (List Char)}
    (h : lines source = opening :: second :: rest) : lineCount source =
      if IsDelimiterAt (lines source) 0 then
        ((findDelimiter 2 rest).map (· + 1)).getD (if IsDelimiterAt (lines source) 1 then 2 else 0)
      else 0 := by
  rw [lineCount, h]
  simp only [isDelimiterAt_cons_succ, isDelimiterAt_cons_zero, List.isEmpty_cons]
  cases findDelimiter 2 rest <;> rfl

/-- From any line on, a first delimiter can be found if there is one. -/
theorem exists_first {ls : List (List Char)} {m i : Nat} (hm : m ≤ i) (h : IsDelimiterAt ls i) :
    ∃ k, m ≤ k ∧ IsDelimiterAt ls k ∧ ∀ j, m ≤ j → j < k → ¬ IsDelimiterAt ls j := by
  have hex : ∃ k, m ≤ k ∧ IsDelimiterAt ls k := ⟨i, hm, h⟩
  obtain ⟨hle, hk⟩ := Nat.find_spec hex
  exact ⟨Nat.find hex, hle, hk, fun j hj hlt hdelimiter => Nat.find_min hex hlt ⟨hj, hdelimiter⟩⟩

/-- A text of one line has no front matter. -/
theorem lineCount_of_short {l : List Char} (h : lines source = [l]) : lineCount source = 0 := by
  simp only [lineCount, h]

/-- A text that does not open with a delimiter has no front matter. -/
theorem lineCount_of_not_opening (h : ¬ IsDelimiterAt (lines source) 0) : lineCount source = 0 := by
  match hlines : lines source with
  | [] => exact absurd hlines (lines_ne_nil source)
  | [_] => exact lineCount_of_short hlines
  | opening :: second :: rest => rw [lineCount_cons_cons hlines, if_neg h]

/-- A delimiter after the second line closes the front matter, if no other does before it. -/
theorem lineCount_of_third {j : Nat} (hopening : IsDelimiterAt (lines source) 0) (hj : 2 ≤ j)
    (hclosing : IsDelimiterAt (lines source) j) (hleast : ∀ i, 2 ≤ i → i < j → ¬ IsDelimiterAt (lines source) i) :
    lineCount source = j + 1 := by
  obtain ⟨i, rfl⟩ := Nat.exists_eq_add_of_le' hj
  have hlength := hclosing.lt_length
  match hlines : lines source with
  | [] => exact absurd hlines (lines_ne_nil source)
  | [_] =>
    rw [hlines, List.length_singleton] at hlength
    omega
  | opening :: second :: rest =>
    have hcount := lineCount_cons_cons hlines
    rw [if_pos hopening] at hcount
    rw [hlines] at hclosing hleast
    have hfind : findDelimiter 2 rest = some (2 + i) := by
      refine findDelimiter_eq_some (isDelimiterAt_cons_succ.1 (isDelimiterAt_cons_succ.1 hclosing)) fun k hk h => ?_
      exact hleast (k + 2) (Nat.le_add_left 2 k) (by omega) (isDelimiterAt_cons_succ.2 (isDelimiterAt_cons_succ.2 h))
    rw [hcount, hfind, Nat.add_comm 2 i]
    rfl

/-- Without a delimiter after the second line, the second line can close the front matter. -/
theorem lineCount_of_second (hopening : IsDelimiterAt (lines source) 0)
    (hnone : ∀ i, 2 ≤ i → ¬ IsDelimiterAt (lines source) i) :
    lineCount source = if IsDelimiterAt (lines source) 1 then 2 else 0 := by
  match hlines : lines source with
  | [] => exact absurd hlines (lines_ne_nil source)
  | [l] => rw [lineCount_of_short hlines, if_neg fun h => absurd h.lt_length (by simp)]
  | opening :: second :: rest =>
    have hcount := lineCount_cons_cons hlines
    rw [if_pos hopening] at hcount
    rw [hlines] at hcount hnone
    have hfind : findDelimiter 2 rest = none := findDelimiter_eq_none_iff.2 fun i h =>
      hnone (i + 2) (Nat.le_add_left 2 i) (isDelimiterAt_cons_succ.2 (isDelimiterAt_cons_succ.2 h))
    rw [hcount, hfind]
    rfl

/-- The first `n` lines of the source lie between two delimiters, which are the first and the last of them. -/
structure IsFenced (source : List Char) (n : Nat) : Prop where
  two_le : 2 ≤ n
  le_length : n ≤ (lines source).length
  opening : IsDelimiterAt (lines source) 0
  closing : IsDelimiterAt (lines source) (n - 1)

/-- There is no front matter, or it lies between two delimiters. -/
theorem lineCount_eq_zero_or (source : List Char) : lineCount source = 0 ∨ IsFenced source (lineCount source) := by
  by_cases hopening : IsDelimiterAt (lines source) 0
  · by_cases hlater : ∃ i, 2 ≤ i ∧ IsDelimiterAt (lines source) i
    · obtain ⟨i, hi, hdelimiter⟩ := hlater
      obtain ⟨j, hj, hclosing, hleast⟩ := exists_first hi hdelimiter
      rw [lineCount_of_third hopening hj hclosing hleast]
      exact Or.inr ⟨by omega, hclosing.lt_length, hopening, hclosing⟩
    · rw [lineCount_of_second hopening fun i hi hdelimiter => hlater ⟨i, hi, hdelimiter⟩]
      split
      · rename_i hclosing
        exact Or.inr ⟨Nat.le_refl 2, hclosing.lt_length, hopening, hclosing⟩
      · exact Or.inl rfl
  · exact Or.inl (lineCount_of_not_opening hopening)

/-- Front matter that is closed first by the second line ends there only if no other delimiter follows; with one, it
runs up to the next. Front matter that is closed first by a later line ends with this line, and a text whose front
matter is not closed has none. -/
theorem lineCount_eq_firstClosing_iff (source : List Char) :
    ((∀ k, ¬ FirstClosing source k) → lineCount source = 0) ∧
    ∀ k, FirstClosing source k →
      (lineCount source = k + 1 ↔ (k = 1 → ∀ j, 2 ≤ j → ¬ IsDelimiterAt (lines source) j)) ∧
      ∀ j, k = 1 → 2 ≤ j → IsDelimiterAt (lines source) j →
        (∀ i, 2 ≤ i → i < j → ¬ IsDelimiterAt (lines source) i) → lineCount source = j + 1 := by
  refine ⟨fun hnone => ?_, fun k hk => ?_⟩
  · by_cases hopening : IsDelimiterAt (lines source) 0
    · have hlater : ∀ i, 1 ≤ i → ¬ IsDelimiterAt (lines source) i := fun i hi h =>
        have ⟨k, hle, hclosing, hleast⟩ := exists_first hi h
        hnone k ⟨hopening, hle, hclosing, hleast⟩
      rw [lineCount_of_second hopening fun i hi => hlater i (by omega), if_neg (hlater 1 (Nat.le_refl 1))]
    · exact lineCount_of_not_opening hopening
  · have hthird : ∀ j, k = 1 → 2 ≤ j → IsDelimiterAt (lines source) j →
        (∀ i, 2 ≤ i → i < j → ¬ IsDelimiterAt (lines source) i) → lineCount source = j + 1 :=
      fun j _ hj => lineCount_of_third hk.opening hj
    refine ⟨?_, hthird⟩
    rcases Nat.lt_or_eq_of_le hk.later with hlt | rfl
    · have hcount := lineCount_of_third hk.opening hlt hk.closing fun i hi => hk.least i (by omega)
      exact iff_of_true hcount fun hone => absurd hone (by omega)
    · -- the second line closes the front matter only if the search after it fails
      constructor
      · intro hcount _ j hj hdelimiter
        obtain ⟨i, hi, hclosing, hleast⟩ := exists_first hj hdelimiter
        have := hthird i rfl hi hclosing hleast
        omega
      · intro hnone
        rw [lineCount_of_second hk.opening (hnone rfl), if_pos hk.closing]

/-- An empty block is not closed by its second line when a delimiter follows further down: the text between them is
swallowed. -/
theorem lineCount_emptyBlock :
    FirstClosing "---\n---\n\n---\n".toList 1 ∧ lineCount "---\n---\n\n---\n".toList = 4 ∧
    ¬ (∀ source k, FirstClosing source k → lineCount source = k + 1) := by
  have hclosing : FirstClosing "---\n---\n\n---\n".toList 1 :=
    ⟨by decide +kernel, Nat.le_refl 1, by decide +kernel, fun j hj hlt => absurd hj (by omega)⟩
  have hcount : lineCount "---\n---\n\n---\n".toList = 4 := by decide +kernel
  refine ⟨hclosing, hcount, fun h => ?_⟩
  have hfirst := h _ 1 hclosing
  rw [hcount] at hfirst
  cases hfirst

end MarkLint.FrontMatter

import MarkLint.Document.Tree
import MarkLint.Proofs.Text.Blank

/-!
# Columns stay on their line

However containers are nested, and whether or not their prefixes are there, skipping them stays on the line
(`skipAll_le_length`), and so do the column at which a block starts (`startColumn_le_length`) and the end of a checkbox
(`checkbox?_add_le_length`). The last filled line of a block is one of its lines (`lastFilled_mem`). On the line of
their markers quotes and list items are passed at least up to their own start (`le_skip_quote`, `le_skip_item`).
-/

namespace MarkLint

open MarkLint.Text

/-! ## Skipping -/

variable {text : List Char} {column line : Nat}

theorem le_skipIndent (text : List Char) (column : Nat) : column ≤ skipIndent text column := Nat.le_add_right _ _

theorem skipIndent_le_length (h : column ≤ text.length) : skipIndent text column ≤ text.length := by
  have := (List.takeWhile_sublist isIndent (l := text.drop column)).length_le
  rw [List.length_drop] at this
  unfold skipIndent
  omega

namespace Container

/-- Skipping a container stays on the line. -/
theorem skip_le_length (h : column ≤ text.length) : ∀ c : Container, c.skip text line column ≤ text.length
  | quote => by
    have := skipIndent_le_length h
    simp only [skip]
    split
    · rename_i hmark
      obtain ⟨hlt, -⟩ := List.getElem?_eq_some_iff.1 hmark
      omega
    · exact h
  | item startLine indent => by
    have := skipIndent_le_length h
    simp only [skip]
    split <;> omega

theorem foldl_skip_le_length : ∀ (cs : List Container) {column : Nat}, column ≤ text.length →
    cs.foldl (fun column c => c.skip text line column) column ≤ text.length
  | [], _, h => h
  | c :: cs, _, h => foldl_skip_le_length cs (skip_le_length h c)

/-- Skipping goes no way back. -/
theorem le_skip (h : column ≤ text.length) : ∀ c : Container, column ≤ c.skip text line column
  | quote => by
    have := le_skipIndent text column
    simp only [skip]
    split <;> omega
  | item startLine indent => by
    have := le_skipIndent text column
    simp only [skip]
    split <;> omega

theorem le_foldl_skip : ∀ (cs : List Container) {column : Nat}, column ≤ text.length →
    column ≤ cs.foldl (fun column c => c.skip text line column) column
  | [], _, _ => Nat.le_refl _
  | c :: cs, _, h => Nat.le_trans (le_skip h c) (le_foldl_skip cs (skip_le_length h c))

/-- Skipping any stack of containers stays on the line. -/
theorem skipAll_le_length (text : List Char) (line : Nat) (cs : List Container) :
    skipAll text line cs ≤ text.length :=
  foldl_skip_le_length cs (Nat.zero_le _)

/-- The innermost container is skipped last. -/
theorem skipAll_append_singleton (text : List Char) (line : Nat) (cs : List Container) (c : Container) :
    skipAll text line (cs ++ [c]) = c.skip text line (skipAll text line cs) := by
  rw [skipAll, List.foldl_append]
  rfl

/-- A quote is passed on the line of its marker. -/
theorem le_skip_quote (h : text[skipIndent text column]? = some '>') :
    skipIndent text column ≤ quote.skip text line column := by
  simp only [skip, if_pos h]
  omega

/-- A list item is passed on the line of its marker. -/
theorem le_skip_item {indent : Nat} (h : column ≤ text.length) :
    skipIndent text column ≤ (item line indent).skip text line column := by
  have := skipIndent_le_length h
  simp only [skip, if_pos]
  omega

end Container

namespace Document

/-! ## Blocks -/

/-- A block starts on its first line. -/
theorem startColumn_le_length (text : List Char) (line : Nat) (cs : List Container) (kind : String) :
    startColumn text line cs kind ≤ text.length := by
  have h := Container.skipAll_le_length text line cs
  simp only [startColumn]
  split
  · exact h
  · exact skipIndent_le_length h

/-- A block starts where its containers end, or after the white space there. -/
theorem skipAll_le_startColumn (text : List Char) (line : Nat) (cs : List Container) (kind : String) :
    Container.skipAll text line cs ≤ startColumn text line cs kind := by
  simp only [startColumn]
  split
  · exact Nat.le_refl _
  · exact le_skipIndent _ _

theorem startColumn_le_skipIndent (text : List Char) (line : Nat) (cs : List Container) (kind : String) :
    startColumn text line cs kind ≤ skipIndent text (Container.skipAll text line cs) := by
  simp only [startColumn]
  split
  · exact le_skipIndent _ _
  · exact Nat.le_refl _

/-- Other blocks than indented code start after the white space. -/
theorem startColumn_of_ne {kind : String} (h : kind ≠ "code_block") (text : List Char) (line : Nat)
    (cs : List Container) : startColumn text line cs kind = skipIndent text (Container.skipAll text line cs) := by
  rw [startColumn, if_neg h]

/-- The last filled line lies between the first line and the last. -/
theorem lastFilled_mem (lines : List (List Char)) (first : Nat) : ∀ last : Nat, first ≤ last →
    first ≤ lastFilled lines first last ∧ lastFilled lines first last ≤ last
  | 0, h => ⟨h, Nat.le_refl _⟩
  | last + 1, h => by
    rw [lastFilled]
    split
    · omega
    · split
      · have := lastFilled_mem lines first last (by omega)
        omega
      · omega

/-- The last filled line depends only on which lines are blank. -/
theorem lastFilled_congr {ls ms : List (List Char)} {first : Nat} : ∀ {last : Nat},
    (∀ i, first ≤ i → i ≤ last → isBlankText (ls.getD i []) = isBlankText (ms.getD i [])) →
    lastFilled ls first last = lastFilled ms first last
  | 0, _ => rfl
  | last + 1, h => by
    rw [lastFilled, lastFilled]
    split
    · rfl
    · rw [h (last + 1) (by omega) (Nat.le_refl _), lastFilled_congr fun i hi hle => h i hi (by omega)]

/-- A checkbox ends on its line. -/
theorem checkbox?_add_le_length {checked : Bool} {width : Nat}
    (h : checkbox? (text.drop column) = some (checked, width)) : column + width ≤ text.length := by
  have hlen := List.length_drop (l := text) (i := column)
  unfold checkbox? at h
  split at h
  · rename_i hdrop
    split at h
    · rw [hdrop] at hlen
      simp only [List.length_cons] at hlen
      simp only [Option.some.injEq, Prod.mk.injEq] at h
      omega
    · cases h
  · cases h

end Document
end MarkLint

import MarkLint.Proofs.Document.Readable
import MarkLint.Proofs.Results

/-!
# Hiding the front matter

The Markdown reader sees an empty line for each line of the front matter, and every later line where it stands in the
source (`hidden_hide`). The front matter itself becomes the first node below the root (`head?_children_of_buildTree`).
Together, reading a document leaves what follows the front matter where it was (`readWith_frontMatter`).
-/

namespace MarkLint.Document

open MarkLint.FrontMatter
open MarkLint.Markdown
open MarkLint.Text

variable {source : List Char}

/-- The text has an empty line for each of the first `n` lines of the source and then the other lines of the source; if
there are none, it has one more empty line. So each line after the first `n` keeps its index. -/
structure Hidden (source : List Char) (n : Nat) (text : List Char) : Prop where
  split : lines text = List.replicate n [] ++ if n = (lines source).length then [[]] else (lines source).drop n
  hidden : ∀ i, i < n → (lines text)[i]? = some []
  kept : ∀ i l, n ≤ i → (lines source)[i]? = some l → (lines text)[i]? = some l

/-- Hiding lines leaves empty lines in their place. -/
theorem lines_hide {n : Nat} (h : n ≤ (lines source).length) : lines (hide n source) =
    List.replicate n [] ++ if n = (lines source).length then [[]] else (lines source).drop n := by
  rw [hide_eq, lines_replicate_append]
  refine congrArg (List.replicate n [] ++ ·) ?_
  split
  · rename_i hall
    rw [hall, List.drop_length]
    rfl
  · rename_i hsome
    refine lines_unlines (fun hnone => ?_) fun l hl => not_mem_of_mem_lines (List.mem_of_mem_drop hl)
    have := List.drop_eq_nil_iff.1 hnone
    omega

theorem hidden_hide {n : Nat} (h : n ≤ (lines source).length) : Hidden source n (hide n source) := by
  have hsplit := lines_hide h
  refine ⟨hsplit, fun i hi => ?_, fun i l hi hl => ?_⟩
  · rw [hsplit, List.getElem?_append_left (by simpa using hi), List.getElem?_replicate_of_lt hi]
  · have hlt := (List.getElem?_eq_some_iff.1 hl).1
    rw [hsplit, if_neg (by omega), List.getElem?_append_right (by simpa using hi), List.length_replicate,
      List.getElem?_drop, Nat.add_sub_cancel' hi, hl]

/-- The front matter is the first node below the root. -/
theorem head?_children_of_buildTree {elements : List Element} {frontMatter : Nat} {tree : Node}
    (h0 : frontMatter ≠ 0) (h : buildTree source elements frontMatter = .ok tree) :
    tree.children.head? = some (headerNode source frontMatter) := by
  have hle := le_of_buildTree_eq_ok h
  obtain ⟨i, l, hi, hstop⟩ := pointAt_length source
  simp only [buildTree, pointAt_zero, hstop] at h
  revert h
  show (if frontMatter = 0 then _ else _) = _ → _
  rw [if_neg h0, frontMatterNode_eq h0 hle]
  intro h
  obtain ⟨header, hheader, h⟩ := bind_eq_ok_iff.1 h
  obtain ⟨children, -, h⟩ := bind_eq_ok_iff.1 h
  cases hheader
  cases h
  rfl

/-- Every text can be read. Without front matter the Markdown reader sees the text itself. Front matter takes at least
two lines of the text, the first and the last of which are delimiters; the reader sees empty lines in their place, and
all later lines where they were. What is between the delimiters is the value of a node that comes first in the document,
and spans the front matter up to the end of its last line, without the blanks there. -/
theorem readWith_frontMatter (source : List Char) : (∃ document, Document.read source = .ok document) ∧
    ∃ text, (∀ markdown, readWith markdown source =
        (buildTree source (markdown text) (lineCount source)).map (Document.mk source)) ∧
      (lineCount source = 0 ∧ text = source ∨
        IsFenced source (lineCount source) ∧ Hidden source (lineCount source) text ∧
          ∀ markdown document, readWith markdown source = .ok document →
            document.tree.children.head? = some (headerNode source (lineCount source))) := by
  refine ⟨exists_read source, hide (lineCount source) source, fun markdown => rfl, ?_⟩
  rcases lineCount_eq_zero_or source with hnone | hfenced
  · exact Or.inl ⟨hnone, by rw [hide, if_pos hnone]⟩
  · refine Or.inr ⟨hfenced, hidden_hide hfenced.le_length, fun markdown document hread => ?_⟩
    have h0 : lineCount source ≠ 0 := by
      have := hfenced.two_le
      omega
    obtain ⟨tree, htree, rfl⟩ := map_eq_ok_iff.1 hread
    exact head?_children_of_buildTree h0 htree

end MarkLint.Document

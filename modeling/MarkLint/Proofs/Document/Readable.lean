import MarkLint.Document
import MarkLint.Proofs.Document.Faults
import MarkLint.Proofs.Markdown.Blocks

/-!
# Every text can be read

Parts of a line are never at fault (`firstFault_of_isLinePart`), and neither are blocks (`firstFault_of_isBlock`). The
reader yields nothing else, so every text has a document (`exists_read`).
-/

namespace MarkLint.Document

open MarkLint.Markdown
open MarkLint.Text

variable {count : Nat}

/-- Parts of a line are not at fault, wherever they stand. -/
theorem firstFault_of_isLinePart (es : List Element) : ∀ {above : List Element}, (∀ e ∈ es, e.IsLinePart) →
    firstFault count above es = none := by
  induction es using Element.forest_induction with
  | nil => exact fun _ => rfl
  | cons e rest ihe ihrest =>
    intro above h
    obtain ⟨⟨hkind, hchildren⟩, hrest⟩ := List.forall_mem_cons.1 h
    rw [firstFault_cons, Site.fault?_of_isInline count above hkind, ihe hchildren, ihrest hrest]
    rfl

/-- Blocks are not at fault outside of lines. -/
theorem firstFault_of_isBlock (es : List Element) : ∀ {above : List Element}, anyInline above = false →
    (∀ e ∈ es, e.IsBlock) → firstFault count above es = none := by
  induction es using Element.forest_induction with
  | nil => exact fun _ _ => rfl
  | cons e rest ihe ihrest =>
    intro above habove h
    obtain ⟨hblock, hrest⟩ := List.forall_mem_cons.1 h
    rw [firstFault_cons, ihrest habove hrest, Site.fault?_of_not_anyInline count e habove]
    cases hblock with
    | line hline =>
      have hheading : e.kind ≠ "heading" := by rw [hline.kind]; decide
      rw [if_neg fun h => hheading h.1, firstFault_of_isLinePart e.children hline.parts]
      rfl
    | block hkind hlevel hchildren =>
      have hinside : anyInline (e :: above) = false := by simpa [anyInline, hkind] using habove
      have hread : ¬ (e.kind = "heading" ∧ anyUnplaced count above = false ∧
          readInt? (e.tag.toList.drop 1) = none) := by
        rintro ⟨hheading, -, hnone⟩
        have hsome := (hlevel hheading).1
        rw [hnone] at hsome
        cases hsome
      rw [if_neg hread, ihe hinside hchildren]
      rfl

/-- Every text has a document. -/
theorem exists_read (source : List Char) : ∃ document, Document.read source = .ok document := by
  obtain ⟨header, position, -, -, -, hbuild⟩ := exists_buildTree_eq (FrontMatter.lineCount_le source)
  have hblocks := isBlock_of_mem_elements (FrontMatter.hide (FrontMatter.lineCount source) source)
  have hfault := faultOf_placedNodes source (elements (FrontMatter.hide (FrontMatter.lineCount source) source))
    [] (show anyInline [] = false from rfl) rfl
  rw [firstFault_of_isBlock _ rfl hblocks] at hfault
  simp only [Document.read, readWith, hbuild]
  cases hplaced : placedNodes (Sheet.ofText source) [] (elements (FrontMatter.hide (FrontMatter.lineCount source)
      source)) with
  | error f =>
    rw [hplaced] at hfault
    cases hfault
  | ok nodes => exact ⟨_, rfl⟩

end MarkLint.Document

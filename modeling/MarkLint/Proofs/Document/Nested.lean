import MarkLint.Proofs.Document.Origin

/-!
# Well-nested elements

`blocks es` are the blocks of elements where transparent elements have given way to their children. `WellNested` says
that the lines of blocks are nested as a reader of Markdown nests them: inside those of the enclosing block, and after
those of the blocks before. Only blocks with lines are looked into.
-/

namespace MarkLint.Document

open MarkLint.Markdown

mutual

/-- The blocks of elements, in their order. Transparent elements give way to their children, and parts of lines are left
out. -/
def blocks : List Element → List Element
  | [] => []
  | e :: rest => blocksOf e ++ blocks rest

/-- The blocks of one element: itself, or those of its children. -/
def blocksOf : Element → List Element
  | ⟨kind, tag, lines, content, info, markup, href, src, children⟩ =>
    if isTransparent kind then blocks children
    else if isInline kind then []
    else [⟨kind, tag, lines, content, info, markup, href, src, children⟩]

end

/-- Can a block hold nothing but parts of lines? -/
def isLeaf (kind : String) : Bool :=
  ["paragraph", "heading", "fence", "code_block", "html_block", "hr"].contains kind

/-- Can a block hold indented code? -/
def holdsCode (kind : String) : Bool := blockKind kind == "blockquote" || blockKind kind == "listItem"

/-- A block can stand inside a block with the given lines, which holds indented code or not. -/
structure Fits (range : Int × Int) (code : Bool) (e : Element) : Prop where
  lines : ∀ x ∈ e.lines, range.1 ≤ x.1 ∧ x.1 < x.2 ∧ x.2 ≤ range.2
  code : e.kind = "code_block" → code = true
  content : isLeaf e.kind = true → blocks e.children = []

/-- The elements are well nested inside a block with the given lines, which holds indented code or not. -/
inductive WellNested : Int × Int → Bool → List Element → Prop
  | intro {range : Int × Int} {code : Bool} {es : List Element} : (∀ e ∈ blocks es, Fits range code e) →
      ((blocks es).Pairwise fun d e => ∀ x ∈ d.lines, ∀ y ∈ e.lines, x.2 ≤ y.1) →
      (∀ e ∈ blocks es, ∀ x ∈ e.lines, WellNested x (holdsCode e.kind) e.children) → WellNested range code es

/-! ## Blocks, element by element -/

theorem blocksOf_eq (e : Element) : blocksOf e =
    if isTransparent e.kind then blocks e.children else if isInline e.kind then [] else [e] := by
  cases e
  rw [blocksOf]

theorem blocks_transparent {e : Element} (h : isTransparent e.kind = true) (rest : List Element) :
    blocks (e :: rest) = blocks e.children ++ blocks rest := by
  rw [blocks, blocksOf_eq, if_pos h]

theorem blocks_inline {e : Element} (h : isInline e.kind = true) (rest : List Element) :
    blocks (e :: rest) = blocks rest := by
  rw [blocks, blocksOf_eq, if_neg (by simp [isTransparent_of_isInline h]), if_pos h, List.nil_append]

theorem blocks_block {e : Element} (ht : isTransparent e.kind = false) (hi : isInline e.kind = false)
    (rest : List Element) : blocks (e :: rest) = e :: blocks rest := by
  rw [blocks, blocksOf_eq, if_neg (by simp [ht]), if_neg (by simp [hi]), List.singleton_append]

/-! ## Parts of well-nested elements -/

namespace WellNested

variable {range : Int × Int} {code : Bool} {es fs : List Element} {e : Element}

theorem fits (h : WellNested range code es) : ∀ e ∈ blocks es, Fits range code e := by
  cases h
  assumption

theorem ordered (h : WellNested range code es) :
    (blocks es).Pairwise fun d e => ∀ x ∈ d.lines, ∀ y ∈ e.lines, x.2 ≤ y.1 := by
  cases h
  assumption

theorem inside (h : WellNested range code es) :
    ∀ e ∈ blocks es, ∀ x ∈ e.lines, WellNested x (holdsCode e.kind) e.children := by
  cases h
  assumption

/-- With some of the blocks left out, the others are well nested. -/
theorem of_sublist (h : WellNested range code fs) (hsub : (blocks es).Sublist (blocks fs)) : WellNested range code es :=
  .intro (fun e he => h.fits e (hsub.subset he)) (h.ordered.sublist hsub) fun e he => h.inside e (hsub.subset he)

/-- The children of a transparent element are well nested in its place. -/
theorem children (h : WellNested range code (e :: es)) (ht : isTransparent e.kind = true) :
    WellNested range code e.children := by
  refine h.of_sublist ?_
  rw [blocks_transparent ht]
  exact List.sublist_append_left _ _

theorem tail (h : WellNested range code (e :: es)) : WellNested range code es := by
  refine h.of_sublist ?_
  rw [blocks]
  exact List.sublist_append_right _ _

end WellNested
end MarkLint.Document

import MarkLint.Document.Tree
import Mathlib.Data.List.Forall2

/-!
# Where nodes come from

`documentOrigins` lists, in document order, what the nodes of a document tree come from: the document itself, its front
matter, and the elements that become nodes, each with the information whether it stands below an element without a
place. From this alone it is known which nodes have a place (`Origin.isPlaced`): neither parts of a line, nor blocks
whose lines lie outside the source, nor what is below them.
-/

namespace MarkLint.Markdown

/-- Induction on lists of elements: from the children of the first element and the other elements to the list. -/
theorem Element.forest_induction {P : List Element → Prop} (nil : P [])
    (cons : ∀ e rest, P e.children → P rest → P (e :: rest)) : ∀ es, P es
  | [] => nil
  | e :: rest => cons e rest (forest_induction nil cons e.children) (forest_induction nil cons rest)
termination_by es => sizeOf es
decreasing_by all_goals cases e; simp only [List.cons.sizeOf_spec, Element.mk.sizeOf_spec]; omega

end MarkLint.Markdown

namespace MarkLint.Document

open MarkLint.Markdown

/-- Is an element part of a line of text? -/
def isInline (kind : String) : Bool := (inlineKinds.lookup kind).isSome

/-- The kind of the node that an element becomes. -/
def nodeKind (kind : String) : String := (inlineKinds.lookup kind).getD (blockKind kind)

/-- Do the lines of a block lie in a text of `count` lines? Its first line has to be one of them, and it must not stop
past the last one. -/
def liesIn (count : Nat) : Option (Int × Int) → Bool
  | none => false
  | some (first, stop) => 0 ≤ first && first < count && stop ≤ count

theorem nodeKind_block {kind : String} (h : isInline kind = false) : nodeKind kind = blockKind kind := by
  rw [isInline, Option.isSome_eq_false_iff, Option.isNone_iff_eq_none] at h
  rw [nodeKind, h]
  rfl

/-- Of each pair of kinds, a lookup finds one in the list. -/
theorem mem_of_lookup_eq_some {kinds : List (String × String)} {kind k : String} (h : kinds.lookup kind = some k) :
    (kind, k) ∈ kinds := by
  obtain ⟨before, after, rfl, -⟩ := List.lookup_eq_some_iff.1 h
  exact List.mem_append_right _ List.mem_cons_self

/-- A kind that no other kind of block becomes. -/
theorem eq_of_blockKind_eq {kind k : String} (hblock : ∀ p ∈ blockKinds, p.2 = k → p.1 = k) (h : blockKind kind = k) :
    kind = k := by
  unfold blockKind at h
  cases hlookup : blockKinds.lookup kind with
  | none => rwa [hlookup] at h
  | some found =>
    rw [hlookup] at h
    exact hblock _ (mem_of_lookup_eq_some hlookup) h

/-- A kind that no other kind of element becomes. -/
theorem eq_of_nodeKind_eq {kind k : String} (hblock : ∀ p ∈ blockKinds, p.2 = k → p.1 = k)
    (hinline : ∀ p ∈ inlineKinds, p.2 ≠ k) (h : nodeKind kind = k) : kind = k := by
  unfold nodeKind at h
  cases hlookup : inlineKinds.lookup kind with
  | none =>
    rw [hlookup] at h
    exact eq_of_blockKind_eq hblock h
  | some found =>
    rw [hlookup] at h
    exact absurd h (hinline _ (mem_of_lookup_eq_some hlookup))

/-- What a node comes from. -/
inductive Origin where
  | document
  | frontMatter
  | element (e : Element) (below : Bool)

namespace Origin

/-- The kind of the node. -/
def kind : Origin → String
  | document => "root"
  | frontMatter => "yaml"
  | element e _ => nodeKind e.kind

/-- Does the node have a place in a text of `count` lines? -/
def isPlaced (count : Nat) : Origin → Bool
  | document => true
  | frontMatter => true
  | element e below => !below && !isInline e.kind && liesIn count e.lines

end Origin

mutual

/-- The origins of the nodes of elements, in document order; `below` tells whether they stand below an element without
a place. Transparent elements become no nodes, and nothing below an image does. -/
def origins (count : Nat) (below : Bool) : List Element → List Origin
  | [] => []
  | e :: rest => originsOf count below e ++ origins count below rest

/-- The origins of the nodes of one element. -/
def originsOf (count : Nat) (below : Bool) : Element → List Origin
  | ⟨kind, tag, lines, content, info, markup, href, src, children⟩ =>
    let e : Element := ⟨kind, tag, lines, content, info, markup, href, src, children⟩
    if isTransparent kind then origins count below children
    else if kind = "image" then [.element e below]
    else .element e below :: origins count (!(Origin.element e below).isPlaced count) children

end

/-- The origins of the nodes of a document tree. -/
def documentOrigins (count : Nat) (elements : List Element) (frontMatter : Nat) : List Origin :=
  .document :: ((if frontMatter = 0 then [] else [.frontMatter]) ++ origins count false elements)

/-! ## Origins, element by element -/

theorem originsOf_eq (count : Nat) (below : Bool) (e : Element) : originsOf count below e =
    if isTransparent e.kind then origins count below e.children
    else if e.kind = "image" then [.element e below]
    else .element e below :: origins count (!(Origin.element e below).isPlaced count) e.children := by
  cases e
  rw [originsOf]

theorem originsOf_transparent {count : Nat} {below : Bool} {e : Element} (h : isTransparent e.kind = true) :
    originsOf count below e = origins count below e.children := by
  rw [originsOf_eq, if_pos h]

/-- A part of a line is no transparent element. -/
theorem isTransparent_of_isInline {kind : String} (h : isInline kind = true) : isTransparent kind = false := by
  cases ht : isTransparent kind with
  | false => rfl
  | true =>
    simp only [isTransparent, Bool.or_eq_true, beq_iff_eq] at ht
    rcases ht with (rfl | rfl) | rfl <;> revert h <;> decide

/-- A block that is not transparent stands before what is inside it. -/
theorem originsOf_block {count : Nat} {below : Bool} {e : Element} (ht : isTransparent e.kind = false)
    (hi : isInline e.kind = false) :
    originsOf count below e = .element e below :: origins count (below || !liesIn count e.lines) e.children := by
  have himage : e.kind ≠ "image" := by
    intro h
    rw [h] at hi
    revert hi
    decide
  have hplaced : (!(Origin.element e below).isPlaced count) = (below || !liesIn count e.lines) := by
    simp [Origin.isPlaced, hi]
  rw [originsOf_eq, if_neg (by simp [ht]), if_neg himage, hplaced]

/-- A part of a line has no place, and nothing inside it has. -/
theorem originsOf_inline {count : Nat} {below : Bool} {e : Element} (hi : isInline e.kind = true) :
    originsOf count below e
      = .element e below :: if e.kind = "image" then [] else origins count true e.children := by
  have hplaced : (Origin.element e below).isPlaced count = false := by simp [Origin.isPlaced, hi]
  rw [originsOf_eq, if_neg (by simp [isTransparent_of_isInline hi]), hplaced]
  split <;> rfl

end MarkLint.Document

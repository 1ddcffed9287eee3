import MarkLint.Proofs.Document.Placement
import MarkLint.Proofs.Document.Prefix
import MarkLint.Proofs.Results
import Mathlib.Data.List.Infix

/-!
# The spots where blocks stand

A `Spot` is a block with the containers around it and the lines that it takes. The builder makes a node at each spot of
its elements, in document order, from the nodes inside it (`Spot.Builds`), and no other node of a document has a place
but the document itself and its front matter. Reading the checkbox of an outer item changes nothing afterwards but its
paragraph and the text there (`Marked.kept`), so nodes of other kinds are found in the document as they were made
(`walk_spots`). `Spot.Opens` says where the content of a block opens on its first line, past the prefixes of the
containers and the white space there.
-/

namespace MarkLint.Document

open MarkLint.Markdown
open MarkLint.Text

variable {source : List Char}

/-! ## Spots -/

/-- A block inside containers, on the lines from the first to the last that is not blank. -/
structure Spot where
  containers : List Container
  element : Element
  first : Nat
  last : Nat

namespace Spot

/-- The kind of the node at the spot. -/
def kind (s : Spot) : String := blockKind s.element.kind

/-- The column at which the block starts. -/
def column (source : List Char) (s : Spot) : Nat :=
  startColumn ((lines source).getD s.first []) s.first s.containers s.element.kind

/-- The place of the block. -/
def place (source : List Char) (s : Spot) : Position := blockPlace source s.containers s.element.kind s.first s.last

/-- The containers around what is inside the block. -/
def inside (source : List Char) (s : Spot) : List Container :=
  s.containers ++ opened source s.kind s.element.markup s.element.info s.first (s.column source)

/-- The block takes the lines of the spot, and the node is made there from the nodes inside it. -/
def Builds (source : List Char) (s : Spot) (inner : List Node) (n : Node) : Prop :=
  blockLines (Sheet.ofText source) s.element.lines = some (s.first, s.last) ∧ ∃ node, blockData s.element = .ok node ∧
    placedNodes (Sheet.ofText source) (s.inside source) s.element.children = .ok inner ∧
    readTask (Sheet.ofText source) { node with position := some (s.place source), children := inner } = .ok n

end Spot

mutual

/-- The spots of elements inside the given containers, in document order. Blocks whose lines lie outside the source have
none, and neither has what is below them. -/
def spots (source : List Char) (cs : List Container) : List Element → List Spot
  | [] => []
  | e :: rest => spotsOf source cs e ++ spots source cs rest

/-- The spot of a block and those of the blocks inside it. -/
def spotsOf (source : List Char) (cs : List Container) : Element → List Spot
  | ⟨kind, tag, mapped, content, info, markup, href, src, children⟩ =>
    if isTransparent kind then spots source cs children
    else if isInline kind then []
    else match blockLines (Sheet.ofText source) mapped with
      | none => []
      | some (first, last) =>
        let s : Spot := ⟨cs, ⟨kind, tag, mapped, content, info, markup, href, src, children⟩, first, last⟩
        s :: spots source (s.inside source) children

end

theorem spotsOf_eq (source : List Char) (cs : List Container) (e : Element) : spotsOf source cs e =
    if isTransparent e.kind then spots source cs e.children
    else if isInline e.kind then []
    else match blockLines (Sheet.ofText source) e.lines with
      | none => []
      | some (first, last) =>
        let s : Spot := ⟨cs, e, first, last⟩
        s :: spots source (s.inside source) e.children := by
  cases e
  rw [spotsOf]

/-! ## Nodes that are changed later -/

/-- The second node has the kind and the mark of the first, and a place if that has one. Only a paragraph or a text may
differ from it in anything else. -/
structure Kept (m n : Node) : Prop where
  kind : n.kind = m.kind
  checked : n.checked = m.checked
  place : n.position.isSome = m.position.isSome
  same : m.kind ≠ "paragraph" → m.kind ≠ "text" → n = m

theorem Kept.refl (n : Node) : Kept n n := ⟨rfl, rfl, rfl, fun _ _ => rfl⟩

theorem Kept.trans {m n n' : Node} (h : Kept m n) (h' : Kept n n') : Kept m n' := by
  refine ⟨h'.kind.trans h.kind, h'.checked.trans h.checked, h'.place.trans h.place, fun hparagraph htext => ?_⟩
  obtain rfl := h.same hparagraph htext
  exact h'.same hparagraph htext

/-- Marking a task changes nothing below the item but its paragraph and the text there. -/
theorem Marked.kept {item item' : Node} (h : Marked source item item') :
    List.Forall₂ Kept (Node.preorders item.children) (Node.preorders item'.children) :=
  h.forall₂_preorders Kept.refl (fun _ _ hkind => ⟨rfl, rfl, rfl, fun _ hne => absurd hkind hne⟩)
    fun _ _ _ _ _ _ hkind hpos _ _ => ⟨rfl, rfl, by rw [hpos]; rfl, fun hne => absurd hkind hne⟩

/-- Without a place there is no mark. -/
theorem Placed.checked_eq_none {cs : List Container} {es : List Element} {ns : List Node} (h : Placed source cs es ns) :
    ∀ n ∈ Node.preorders ns, n.position = none → n.checked = none := by
  have hplain : ∀ {os : List Origin} {ms : List Node}, List.Forall₂ (Origin.Plain 0) os ms →
      ∀ m ∈ ms, m.checked = none := by
    intro os ms hms m hm
    obtain ⟨_, _, hm⟩ := exists_of_forall₂ hms m hm
    exact hm.2.2.2
  induction h with
  | nil => simp
  | transparent _ _ _ ihns ihms =>
    intro n hn
    rw [Node.preorders_append, List.mem_append] at hn
    exact hn.elim (ihns n) (ihms n)
  | @inline cs e rest n ms _ _ hn _ ihms =>
    intro m hm hpos
    rw [Node.preorders, List.mem_append] at hm
    exact hm.elim (hplain ((inlineNode_yields 0 true e).of_ok hn) m) (ihms m · hpos)
  | @bare cs e rest node inner ms _ _ hnode _ hinner _ ihms =>
    intro m hm hpos
    simp only [Node.preorders_cons, List.mem_cons, List.mem_append] at hm
    rcases hm with rfl | hm | hm
    · exact ((blockData_yields e).of_ok hnode).2.2.2
    · exact hplain ((bareNodes_yields 0 e.children).of_ok hinner) m hm
    · exact ihms m hm hpos
  | @block cs e rest node n inner ms first last _ _ hnode hlines _ hmarked _ ihinner ihms =>
    intro m hm hpos
    simp only [Node.preorders_cons, List.mem_cons, List.mem_append] at hm
    rcases hm with rfl | hm | hm
    · rw [hmarked.kind_position.2] at hpos
      cases hpos
    · obtain ⟨m', hm', hkept⟩ := exists_of_forall₂ hmarked.kept m hm
      have hplace := hkept.place
      rw [hpos, Option.isSome_none, eq_comm, Option.isSome_eq_false_iff, Option.isNone_iff_eq_none] at hplace
      rw [hkept.checked]
      exact ihinner m' hm' hplace
    · exact ihms m hm hpos

/-! ## The builder -/

/-- Has the node a place? -/
def hasPlace (n : Node) : Bool := n.position.isSome

/-- The node is what became of the one that is made at the spot. -/
def Spot.Becomes (source : List Char) (s : Spot) (n : Node) : Prop :=
  ∃ inner m, s.Builds source inner m ∧ Kept m n

theorem placedNodes_cons_eq_ok {cs : List Container} {e : Element} {rest : List Element} {ns : List Node}
    (h : placedNodes (Sheet.ofText source) cs (e :: rest) = .ok ns) : ∃ nodes more,
      placedNode (Sheet.ofText source) cs e = .ok nodes ∧ placedNodes (Sheet.ofText source) cs rest = .ok more ∧
        ns = nodes ++ more := by
  rw [placedNodes, bind_eq_ok_iff] at h
  obtain ⟨nodes, hnodes, h⟩ := h
  obtain ⟨more, hmore, h⟩ := bind_eq_ok_iff.1 h
  exact ⟨nodes, more, hnodes, hmore, (Except.ok.inj h).symm⟩

/-- Plain nodes have no place. -/
theorem filter_hasPlace_of_plain {count : Nat} {os : List Origin} {ns : List Node}
    (h : List.Forall₂ (Origin.Plain count) os ns) : ns.filter hasPlace = [] := by
  rw [List.filter_eq_nil_iff]
  intro n hn
  obtain ⟨_, _, hplain⟩ := exists_of_forall₂ h n hn
  simp [hasPlace, hplain.2.2.1]

/-- What became of a node is what became of the one before it. -/
theorem Spot.Becomes.of_kept {s : Spot} {m n : Node} (h : s.Becomes source m) (hkept : Kept m n) :
    s.Becomes source n := by
  obtain ⟨inner, made, hbuilds, hmade⟩ := h
  exact ⟨inner, made, hbuilds, hmade.trans hkept⟩

/-- The node is the block at the spot, with its checkbox read. -/
theorem Spot.Builds.exists_marked {s : Spot} {inner : List Node} {n : Node} (h : s.Builds source inner n) :
    ∃ node, blockData s.element = .ok node ∧
      Marked source { node with position := some (s.place source), children := inner } n := by
  obtain ⟨-, node, hnode, hinner, hn⟩ := h
  obtain ⟨block, hblock, hmarked⟩ := @readTask_ofText source
    { node with position := some (s.place source), children := inner }
    ((placedNodes_yields source _ _).of_ok hinner).isSound
  obtain rfl : block = n := Except.ok.inj (hblock.symm.trans hn)
  exact ⟨node, hnode, hmarked⟩

/-- The node has the kind and the place of the spot. -/
theorem Spot.Builds.kind_position {s : Spot} {inner : List Node} {n : Node} (h : s.Builds source inner n) :
    n.kind = s.kind ∧ n.position = some (s.place source) := by
  obtain ⟨node, hnode, hmarked⟩ := h.exists_marked
  exact ⟨hmarked.kind_position.1.trans ((blockData_yields s.element).of_ok hnode).1, hmarked.kind_position.2⟩

theorem Spot.Builds.start? {s : Spot} {inner : List Node} {n : Node} (h : s.Builds source inner n) :
    n.start? = some (Point.onLine (lines source) s.first (s.column source)) := by
  rw [Node.start?, h.kind_position.2]
  rfl

/-- A node is made at the spot of a block, before what becomes of the nodes inside it. -/
theorem Spot.Builds.becomes {s : Spot} {inner : List Node} {n : Node} {ss : List Spot}
    (h : s.Builds source inner n) (hss : List.Forall₂ (Becomes source) ss ((Node.preorders inner).filter hasPlace)) :
    List.Forall₂ (Becomes source) (s :: ss) ((Node.preorders [n]).filter hasPlace) := by
  obtain ⟨node, -, hmarked⟩ := h.exists_marked
  have hplace : hasPlace n = true := by
    rw [hasPlace, h.kind_position.2]
    rfl
  rw [Node.preorders_singleton, Node.preorder_eq, List.filter_cons_of_pos hplace]
  refine .cons ⟨inner, n, h, .refl n⟩ (forall₂_of_forall₂ (fun _ _ _ hm hkept => hm.of_kept hkept) hss ?_)
  exact List.rel_filter (fun m n hkept => by simp only [hasPlace, hkept.place]) hmarked.kept

/-- The nodes with a place of one element are what became of those at its spots, if those of its children are. -/
theorem placedNode_spots {e : Element} {cs : List Container} {ns : List Node}
    (ih : ∀ {cs : List Container} {ns : List Node}, placedNodes (Sheet.ofText source) cs e.children = .ok ns →
      List.Forall₂ (Spot.Becomes source) (spots source cs e.children) ((Node.preorders ns).filter hasPlace))
    (h : placedNode (Sheet.ofText source) cs e = .ok ns) :
    List.Forall₂ (Spot.Becomes source) (spotsOf source cs e) ((Node.preorders ns).filter hasPlace) := by
  rw [spotsOf_eq]
  cases ht : isTransparent e.kind with
  | true =>
    rw [placedNode_transparent ht] at h
    exact ih h
  | false =>
    cases hi : isInline e.kind with
    | true =>
      rw [placedNode_inline hi] at h
      obtain ⟨n, hn, rfl⟩ := map_eq_ok_iff.1 h
      rw [Node.preorders_singleton, filter_hasPlace_of_plain ((inlineNode_yields 0 true e).of_ok hn)]
      exact .nil
    | false =>
      cases hnode : blockData e with
      | error f =>
        rw [placedNode_fault ht hi hnode] at h
        cases h
      | ok node =>
        obtain ⟨hkind, -, hposition, -⟩ := (blockData_yields e).of_ok hnode
        cases hlines : blockLines (Sheet.ofText source) e.lines with
        | none =>
          rw [placedNode_bare ht hi hnode hlines] at h
          obtain ⟨inner, hinner, rfl⟩ := map_eq_ok_iff.1 h
          rw [Node.preorders_singleton, Node.preorder_eq, List.filter_cons_of_neg (by simp [hasPlace, hposition]),
            filter_hasPlace_of_plain ((bareNodes_yields 0 e.children).of_ok hinner)]
          exact .nil
        | some p =>
          obtain ⟨first, last⟩ := p
          rw [placedNode_block ht hi hnode hlines] at h
          obtain ⟨inner, hinner, h⟩ := bind_eq_ok_iff.1 h
          obtain ⟨n, hn, h⟩ := bind_eq_ok_iff.1 h
          cases h
          rw [hkind] at hinner
          have hbuilds : (⟨cs, e, first, last⟩ : Spot).Builds source inner n := ⟨hlines, node, hnode, hinner, hn⟩
          exact hbuilds.becomes (ih hinner)

/-- The nodes with a place are what became of those at the spots of the elements, in document order. -/
theorem placedNodes_spots (es : List Element) : ∀ {cs : List Container} {ns : List Node},
    placedNodes (Sheet.ofText source) cs es = .ok ns →
      List.Forall₂ (Spot.Becomes source) (spots source cs es) ((Node.preorders ns).filter hasPlace) := by
  induction es using Element.forest_induction with
  | nil =>
    intro cs ns h
    cases h
    exact .nil
  | cons e rest ihe ihrest =>
    intro cs ns h
    obtain ⟨nodes, more, hnodes, hmore, rfl⟩ := placedNodes_cons_eq_ok h
    rw [spots, Node.preorders_append, List.filter_append]
    exact List.rel_append (placedNode_spots ihe hnodes) (ihrest hmore)

/-! ## The document -/

/-- The nodes of one kind that have a place, apart from paragraphs, texts, the document and its front matter, are those
made at the spots of the elements, in document order. -/
theorem walk_spots {elements : List Element} {frontMatter : Nat} {tree : Node} {kind : String}
    (h : buildTree source elements frontMatter = .ok tree)
    (hkind : kind ∉ ["root", "yaml", "paragraph", "text"]) :
    List.Forall₂ (fun s n => s.kind = kind ∧ ∃ inner, s.Builds source inner n)
      ((spots source [] elements).filter fun s => s.kind == kind) ((tree.walk (.kind kind)).filter hasPlace) := by
  obtain ⟨header, children, position, rfl, -, -, hheader, hchildren⟩ := exists_of_buildTree_eq_ok h
  simp only [List.mem_cons, List.not_mem_nil, or_false, not_or] at hkind
  obtain ⟨hroot, hyaml, hparagraph, htext⟩ := hkind
  have hsame : ∀ s n, Spot.Becomes source s n → ((s.kind == kind) = true ↔ (Node.Test.kind kind).accepts n = true) := by
    rintro s n ⟨inner, m, hbuilds, hkept⟩
    rw [Node.Test.accepts, hkept.kind, hbuilds.kind_position.1]
  have hspots := List.rel_filter hsame (placedNodes_spots elements hchildren)
  rw [walk_root hheader hroot hyaml, List.filter_comm]
  have hkinds : ∀ s ∈ (spots source [] elements).filter fun s => s.kind == kind, s.kind = kind := fun s hs =>
    beq_iff_eq.1 (List.mem_filter.1 hs).2
  refine ((List.forall₂_and_left _ _).2 ⟨hkinds, hspots⟩).imp fun s n hs => ?_
  obtain ⟨rfl, inner, m, hbuilds, hkept⟩ := hs
  obtain rfl : n = m := hkept.same (by rwa [hbuilds.kind_position.1]) (by rwa [hbuilds.kind_position.1])
  exact ⟨rfl, inner, hbuilds⟩

/-- Of these kinds, a node with a mark is made at a spot. -/
theorem exists_builds_of_checked {elements : List Element} {frontMatter : Nat} {tree n : Node} {kind : String}
    (h : buildTree source elements frontMatter = .ok tree) (hkind : kind ∉ ["root", "yaml", "paragraph", "text"])
    (hn : n ∈ tree.walk (.kind kind)) (hchecked : n.checked.isSome = true) :
    ∃ (s : Spot) (inner : List Node), s.kind = kind ∧ s.Builds source inner n := by
  have hplace : hasPlace n = true := by
    obtain ⟨header, children, position, rfl, -, -, hheader, hchildren⟩ := exists_of_buildTree_eq_ok h
    simp only [List.mem_cons, List.not_mem_nil, or_false, not_or] at hkind
    rw [walk_root hheader hkind.1 hkind.2.1] at hn
    by_contra hnone
    have hpos : n.position = none := by simpa [hasPlace] using hnone
    rw [((placedNodes_yields source elements []).of_ok hchildren).checked_eq_none n (List.mem_filter.1 hn).1 hpos]
      at hchecked
    cases hchecked
  obtain ⟨s, -, hs, inner, hbuilds⟩ := exists_of_forall₂ (walk_spots h hkind) n (List.mem_filter.2 ⟨hn, hplace⟩)
  exact ⟨s, inner, hs, hbuilds⟩

/-- A block other than a list item is not changed by reading it for a checkbox. -/
theorem Spot.Builds.of_ne {s : Spot} {inner : List Node} {n : Node} (h : s.Builds source inner n)
    (hkind : s.kind ≠ "listItem") : ∃ node, blockData s.element = .ok node ∧
      n = { node with position := some (s.place source), children := inner } := by
  obtain ⟨-, node, hnode, -, hn⟩ := h
  have hnode' : node.kind ≠ "listItem" := by
    rw [((blockData_yields s.element).of_ok hnode).1]
    exact hkind
  rw [readTask, if_neg hnode'] at hn
  exact ⟨node, hnode, (Except.ok.inj hn).symm⟩

/-! ## Where content opens -/

namespace Spot

/-- The content of the block opens at the column of its first line: the containers have their prefixes there, nothing
but white space comes before the content, and the content starts with none. -/
inductive Opens (source : List Char) (s : Spot) : Nat → List Char → Prop
  | intro {p blanks opening : List Char} {c : Char} : (lines source)[s.first]? = some (p ++ (blanks ++ c :: opening)) →
      Prefixed source s.first 0 s.containers p → blanks.all isIndent = true → isIndent c = false →
      Opens source s (p.length + blanks.length) (c :: opening)

variable {s : Spot} {column : Nat} {opening : List Char}

/-- The content is what is left of the line from its column on. Skipping the containers and white space ends there. -/
theorem Opens.exists_line (h : s.Opens source column opening) : ∃ l, (lines source)[s.first]? = some l ∧
    l.drop column = opening ∧ column + opening.length = l.length ∧
    skipIndent l (Container.skipAll l s.first s.containers) = column := by
  cases h with
  | @intro p blanks opening c hline hprefixed hblanks hc =>
    refine ⟨_, hline, by rw [← List.drop_drop, List.drop_left, List.drop_left], ?_,
      hprefixed.skipIndent_skipAll hline rfl hblanks hc⟩
    rw [List.length_append, List.length_append, Nat.add_assoc]

/-- A block starts where its content opens, or in the white space before; only indented code does the latter. -/
theorem Opens.exists_blanks (h : s.Opens source column opening) : ∃ l blanks, (lines source)[s.first]? = some l ∧
    l.drop (s.column source) = blanks ++ opening ∧ blanks.all isIndent = true ∧
    s.column source + blanks.length = column ∧ (s.element.kind ≠ "code_block" → s.column source = column) := by
  obtain ⟨l, hl, hdrop, -, hskip⟩ := h.exists_line
  have hlow := skipAll_le_startColumn l s.first s.containers s.element.kind
  have hhigh := startColumn_le_skipIndent l s.first s.containers s.element.kind
  have hstart : s.column source = startColumn l s.first s.containers s.element.kind := by
    rw [Spot.column, getD_line hl]
  have hnext : skipIndent l (s.column source) = column := by rw [hstart, skipIndent_of_le hlow hhigh, hskip]
  refine ⟨l, (l.drop (s.column source)).takeWhile isIndent, hl, ?_, List.all_takeWhile, hnext, fun hkind => ?_⟩
  · rw [← hdrop, ← hnext, skipIndent, ← List.drop_drop]
    exact List.prefix_append_drop (List.takeWhile_prefix _)
  · rw [hstart, startColumn_of_ne hkind, hskip]

end Spot

end MarkLint.Document

import MarkLint.Proofs.Document.Faults

/-!
# What a document tree is made of

The `Shape` of a tree is its kinds with their nesting. The shape of a document tree is that of the elements once
transparent elements have given way to their children (`elementShapes`), whatever lines the elements claim: with and
without a place, blocks are built alike (`Placed.shapes`, `shapes_bareNodes`). Read in document order, the kinds are
those of the sites that become nodes (`kinds_elementShapes`). So nothing is lost or made up, and the builder fails
exactly if some element is at fault (`buildTree_conserves`).
-/

namespace MarkLint

/-- Kinds with their nesting. -/
inductive Shape where
  | node (kind : String) (inside : List Shape)

namespace Shape

mutual

/-- The kinds of a shape in document order. -/
def kinds : Shape → List String
  | node kind inside => kind :: allKinds inside

/-- The kinds of several shapes in document order. -/
def allKinds : List Shape → List String
  | [] => []
  | s :: rest => s.kinds ++ allKinds rest

end

theorem allKinds_append : ∀ a b : List Shape, allKinds (a ++ b) = allKinds a ++ allKinds b
  | [], _ => rfl
  | s :: a, b => by rw [List.cons_append, allKinds, allKinds, allKinds_append a b, List.append_assoc]

end Shape

namespace Node

mutual

/-- The shape of a tree. -/
def shape : Node → Shape
  | ⟨kind, children, _, _, _, _, _, _, _, _, _⟩ => .node kind (shapes children)

/-- The shapes of several trees. -/
def shapes : List Node → List Shape
  | [] => []
  | n :: rest => n.shape :: shapes rest

end

theorem shape_eq (n : Node) : n.shape = .node n.kind (shapes n.children) := by
  cases n
  rw [shape]

@[simp] theorem shapes_nil : shapes [] = [] := rfl

@[simp] theorem shapes_cons (n : Node) (rest : List Node) : shapes (n :: rest) = n.shape :: shapes rest := rfl

@[simp] theorem shapes_append : ∀ a b : List Node, shapes (a ++ b) = shapes a ++ shapes b
  | [], _ => rfl
  | n :: a, b => by rw [List.cons_append, shapes_cons, shapes_cons, shapes_append a b, List.cons_append]

/-- The shape keeps the document order of the kinds. -/
theorem allKinds_shapes (ns : List Node) : Shape.allKinds (shapes ns) = (preorders ns).map kind := by
  induction ns using forest_induction with
  | nil => rfl
  | cons n rest ihn ihrest =>
    rw [shapes_cons, shape_eq, Shape.allKinds, Shape.kinds, ihn, ihrest, preorders_cons, List.map_cons, List.map_append,
      List.cons_append]

/-- A walk through the whole tree meets the kinds of its shape. -/
theorem map_kind_walk (tree : Node) : (tree.walk .any).map kind = tree.shape.kinds := by
  have hall := allKinds_shapes [tree]
  rw [shapes_cons, shapes_nil, Shape.allKinds, Shape.allKinds, List.append_nil, preorders_singleton] at hall
  rw [walk_any, hall]

end Node

namespace Document

open MarkLint.Markdown
open MarkLint.Text

/-! ## Shapes of elements -/

mutual

/-- The shapes of elements when transparent elements have given way to their children, and images are empty. -/
def elementShapes : List Element → List Shape
  | [] => []
  | e :: rest => elementShapesOf e ++ elementShapes rest

/-- The shapes of one element. -/
def elementShapesOf : Element → List Shape
  | ⟨kind, _, _, _, _, _, _, _, children⟩ =>
    if isTransparent kind then elementShapes children
    else [.node (nodeKind kind) (if kind = "image" then [] else elementShapes children)]

end

theorem elementShapesOf_eq (e : Element) : elementShapesOf e = if isTransparent e.kind then elementShapes e.children
    else [.node (nodeKind e.kind) (if e.kind = "image" then [] else elementShapes e.children)] := by
  cases e
  rw [elementShapesOf]

/-- Does the element become a node? -/
def Site.isKept (s : Site) : Bool := !isTransparent s.element.kind && !anyImage s.above

/-- The kind of the node that the element becomes. -/
def Site.kind (s : Site) : String := nodeKind s.element.kind

/-- Nothing in an image becomes a node. -/
theorem filter_isKept_of_anyImage {above : List Element} (h : anyImage above = true) (es : List Element) :
    (sites above es).filter Site.isKept = [] := by
  rw [List.filter_eq_nil_iff]
  intro s hs
  simp [Site.isKept, anyImage_of_mem_sites h hs]

/-- Outside of images, an element becomes a node unless it is transparent, and so do the elements in it unless it is an
image. -/
theorem filter_isKept_sitesOf {above : List Element} {e : Element} (h : anyImage above = false) :
    (sitesOf above e).filter Site.isKept =
      if isTransparent e.kind then (sites (e :: above) e.children).filter Site.isKept
      else ⟨above, e⟩ :: if e.kind = "image" then [] else (sites (e :: above) e.children).filter Site.isKept := by
  rw [sitesOf_eq, List.filter_cons]
  cases ht : isTransparent e.kind with
  | true => simp [Site.isKept, ht]
  | false =>
    have hself : Site.isKept ⟨above, e⟩ = true := by simp [Site.isKept, ht, h]
    rw [hself, if_pos rfl, if_neg Bool.false_ne_true]
    refine congrArg (_ :: ·) ?_
    split
    · rename_i hkind
      exact filter_isKept_of_anyImage (by simp [anyImage, hkind]) e.children
    · rfl

/-- Within an element that is no image nothing is in an image that was not before. -/
theorem anyImage_cons {above : List Element} {e : Element} (h : anyImage above = false) (hkind : e.kind ≠ "image") :
    anyImage (e :: above) = false := by simpa [anyImage, hkind] using h

/-- The kinds of the shapes are those of the elements that become nodes, in document order. -/
theorem kinds_elementShapes (es : List Element) : ∀ {above : List Element}, anyImage above = false →
    Shape.allKinds (elementShapes es) = ((sites above es).filter Site.isKept).map Site.kind := by
  induction es using Element.forest_induction with
  | nil => exact fun _ => rfl
  | cons e rest ihe ihrest =>
    intro above habove
    rw [elementShapes, Shape.allKinds_append, ihrest habove, sites, List.filter_append, List.map_append,
      elementShapesOf_eq, filter_isKept_sitesOf habove]
    refine congrArg (· ++ _) ?_
    cases ht : isTransparent e.kind with
    | true =>
      have hkind : e.kind ≠ "image" := ne_of_apply_ne isTransparent (by rw [ht]; decide)
      rw [if_pos rfl, if_pos rfl, ihe (anyImage_cons habove hkind)]
    | false =>
      rw [if_neg Bool.false_ne_true, if_neg Bool.false_ne_true, List.map_cons]
      refine congrArg (nodeKind e.kind :: ·) ((List.append_nil _).trans ?_)
      by_cases hkind : e.kind = "image"
      · rw [if_pos hkind, if_pos hkind]
        rfl
      · rw [if_neg hkind, if_neg hkind, ihe (anyImage_cons habove hkind)]

/-! ## Shapes of nodes -/

theorem elementShapesOf_inline {e : Element} (hi : isInline e.kind = true) : elementShapesOf e
    = [.node (nodeKind e.kind) (if e.kind = "image" then [] else elementShapes e.children)] := by
  rw [elementShapesOf_eq, if_neg (by simp [isTransparent_of_isInline hi])]

theorem elementShapesOf_block {e : Element} (ht : isTransparent e.kind = false) (hi : isInline e.kind = false) :
    elementShapesOf e = [.node (blockKind e.kind) (elementShapes e.children)] := by
  have hkind : e.kind ≠ "image" := ne_of_apply_ne isInline (by rw [hi]; decide)
  rw [elementShapesOf_eq, if_neg (by simp [ht]), if_neg hkind, nodeKind_block hi]

/-- A part of a line keeps its shape, if its children do. -/
theorem shape_inlineNode_of {e : Element} (h : Yields (fun ns => Node.shapes ns = elementShapes e.children)
    (inlineNodes e.children)) : Yields (fun n => [n.shape] = elementShapesOf e) (inlineNode e) := by
  rw [inlineNode_eq]
  split
  · exact trivial
  · rename_i k hk
    have hkind : nodeKind e.kind = k := by simp [nodeKind, hk]
    have hi : isInline e.kind = true := by simp [isInline, hk]
    rw [elementShapesOf_inline hi, hkind]
    split
    · exact congrArg (fun s => [s]) (Node.shape_eq _)
    · split
      · rename_i inner hinner
        show [Node.shape _] = _
        rw [Node.shape_eq, h.of_ok hinner]
      · rename_i f hf
        rw [hf] at h
        exact h

theorem shapes_inlineNodes (es : List Element) :
    Yields (fun ns => Node.shapes ns = elementShapes es) (inlineNodes es) := by
  induction es using Element.forest_induction with
  | nil => exact rfl
  | cons e rest ihe ihrest =>
    rw [inlineNodes, elementShapes]
    exact (shape_inlineNode_of ihe).bind fun node _ hnode => ihrest.bind fun nodes _ hnodes => by
      show Node.shapes (node :: nodes) = _
      rw [Node.shapes_cons, hnodes, ← hnode, List.singleton_append]

theorem shape_inlineNode (e : Element) : Yields (fun n => [n.shape] = elementShapesOf e) (inlineNode e) :=
  shape_inlineNode_of (shapes_inlineNodes e.children)

/-- Nodes without a place have the shapes of their elements. -/
theorem shapes_bareNodes (es : List Element) : Yields (fun ns => Node.shapes ns = elementShapes es) (bareNodes es) := by
  induction es using Element.forest_induction with
  | nil => exact rfl
  | cons e rest ihe ihrest =>
    rw [bareNodes, bareNode_eq, elementShapes]
    refine Yields.bind (P := fun ns => Node.shapes ns = elementShapesOf e) ?_ fun nodes _ hnodes =>
      ihrest.bind fun more _ hmore => by
        show Node.shapes (nodes ++ more) = _
        rw [Node.shapes_append, hnodes, hmore]
    split
    · rename_i ht
      rw [elementShapesOf_eq, if_pos ht]
      exact ihe
    · rename_i ht
      split
      · exact (shape_inlineNode e).bind fun n _ hn => hn
      · rename_i hi
        rw [elementShapesOf_block (by simpa using ht) (by simpa using hi)]
        refine ihe.bind fun inner _ hinner => ?_
        show [Node.shape _] = _
        rw [Node.shape_eq, hinner]

/-- Marking a task changes no shape. -/
theorem Marked.shape {source : List Char} {item item' : Node} (h : Marked source item item') :
    item'.shape = item.shape := by
  cases h with
  | same => rfl
  | task checked hch hkind hpos hi hbox =>
    rename_i paragraph rest i c width l stop
    have hdrop : Node.shapes (dropCheckbox paragraph.children) = Node.shapes paragraph.children := by
      rcases dropCheckbox_eq paragraph.children with heq | ⟨first, more, text, hfirst, -, heq⟩
      · rw [heq]
      · rw [heq, hfirst, Node.shapes_cons, Node.shapes_cons, Node.shape_eq, Node.shape_eq first]
    simp only [Node.shape_eq, hch, Node.shapes_cons, hdrop]

/-- The nodes that are built have the shapes of their elements. -/
theorem Placed.shapes {source : List Char} {cs : List Container} {es : List Element} {ns : List Node}
    (h : Placed source cs es ns) : Node.shapes ns = elementShapes es := by
  induction h with
  | nil => rfl
  | @transparent _ e _ _ _ ht _ _ ihns ihms =>
    rw [Node.shapes_append, ihns, ihms, elementShapes, elementShapesOf_eq, if_pos ht]
  | @inline _ e _ n _ _ _ hn _ ihms =>
    rw [Node.shapes_cons, ihms, elementShapes, ← (shape_inlineNode e).of_ok hn, List.singleton_append]
  | @bare _ e _ node inner _ ht hi hnode _ hinner _ ihms =>
    obtain ⟨hkind, -⟩ := (blockData_yields e).of_ok hnode
    rw [Node.shapes_cons, Node.shape_eq, ihms, elementShapes, elementShapesOf_block ht hi,
      (shapes_bareNodes e.children).of_ok hinner, hkind, List.singleton_append]
  | @block _ e _ node n inner _ first last ht hi hnode _ _ hmarked _ ihinner ihms =>
    obtain ⟨hkind, -⟩ := (blockData_yields e).of_ok hnode
    rw [Node.shapes_cons, hmarked.shape, Node.shape_eq, ihinner, ihms, elementShapes, elementShapesOf_block ht hi,
      hkind, List.singleton_append]

/-! ## The document -/

variable {source : List Char} {elements : List Element} {frontMatter : Nat}

/-- The shape of the front matter. -/
def headerShapes (frontMatter : Nat) : List Shape := if frontMatter = 0 then [] else [.node "yaml" []]

theorem IsHeader.shapes {header : List Node} (h : IsHeader source frontMatter header) :
    Node.shapes header = headerShapes frontMatter := by
  unfold IsHeader at h
  unfold headerShapes
  split at h
  · rw [h, if_pos ‹_›]
    rfl
  · obtain ⟨value, position, rfl, -, -⟩ := h
    rw [if_neg ‹_›]
    rfl

/-- Whatever lines the elements claim, the tree has a node for each element that is not transparent and does not stand
in an image, of its kind and in its order, below the nodes of the elements that enclose it. There is no tree exactly if
some heading lacks its level or some element strays into a line, and the first of these is the reason. -/
theorem buildTree_conserves (source : List Char) (elements : List Element) (frontMatter : Nat) :
    (∀ tree, buildTree source elements frontMatter = .ok tree →
      tree.shape = .node "root" (headerShapes frontMatter ++ elementShapes elements) ∧
      (tree.walk .any).map Node.kind = "root" :: ((if frontMatter = 0 then [] else ["yaml"]) ++
        ((sites [] elements).filter Site.isKept).map Site.kind)) ∧
    (frontMatter ≤ (lines source).length →
      ((∃ f, buildTree source elements frontMatter = .error f) ↔
        ∃ s ∈ sites [] elements, s.lacksLevel (lines source).length = true ∨ s.isStray = true) ∧
      ∀ f, buildTree source elements frontMatter = .error f ↔
        (sites [] elements).findSome? (Site.fault? (lines source).length) = some f) := by
  refine ⟨fun tree htree => ?_, fun hle => ?_⟩
  · obtain ⟨header, position, hheader, -, -, hbuild⟩ := exists_buildTree_eq (le_of_buildTree_eq_ok htree)
    rw [hbuild] at htree
    have hyields := placedNodes_yields source elements []
    cases hplaced : placedNodes (Sheet.ofText source) [] elements with
    | error f =>
      rw [hplaced] at htree
      cases htree
    | ok children =>
      rw [hplaced] at htree hyields
      cases htree
      have hshape : (Node.mk "root" (header ++ children) (some position) none none none none none none none none).shape
          = .node "root" (headerShapes frontMatter ++ elementShapes elements) := by
        rw [Node.shape_eq, Node.shapes_append, hheader.shapes, hyields.shapes]
      refine ⟨hshape, ?_⟩
      rw [Node.map_kind_walk, hshape, Shape.kinds, Shape.allKinds_append,
        kinds_elementShapes elements (show anyImage [] = false from rfl)]
      unfold headerShapes
      split <;> rfl
  · obtain ⟨header, position, -, -, -, hbuild⟩ := exists_buildTree_eq hle
    have hfirst : ∀ f, buildTree source elements frontMatter = .error f ↔
        (sites [] elements).findSome? (Site.fault? (lines source).length) = some f := by
      intro f
      rw [← faultOf_eq_some_iff, hbuild, faultOf_map,
        faultOf_placedNodes source elements (show List Container from []) (show anyInline [] = false from rfl) rfl]
      exact Iff.rfl
    refine ⟨?_, hfirst⟩
    calc (∃ f, buildTree source elements frontMatter = .error f)
        ↔ ∃ f, (sites [] elements).findSome? (Site.fault? (lines source).length) = some f := exists_congr hfirst
      _ ↔ ∃ s ∈ sites [] elements, (s.fault? (lines source).length).isSome = true := by
        rw [← Option.isSome_iff_exists, List.findSome?_isSome_iff]
      _ ↔ ∃ s ∈ sites [] elements, s.lacksLevel (lines source).length = true ∨ s.isStray = true :=
        exists_congr fun s => and_congr_right fun _ => Site.isSome_fault?

/-- A list item with lines outside the source, whose heading has no level; an image in it holds a break. -/
def looseItem : Element :=
  { kind := "list_item", lines := some (4, 2), children := [
    { kind := "heading", tag := "h?", children := [
      { kind := "inline", children := [{ kind := "image", children := [{ kind := "hr" }] }, { kind := "softbreak" }] }] }] }

/-- A break in emphasis, before a heading without a level. -/
def strayBreak : List Element :=
  [{ kind := "paragraph", lines := some (1, 2), children := [{ kind := "em", children := [{ kind := "hr" }] }] },
    { kind := "heading", tag := "hx" }]

/-- Below front matter, the loose item keeps its kinds, and is not at fault; the stray break is, before the heading. -/
theorem buildTree_conserves_looseItem :
    (∃ tree, buildTree "---\n---\n- a".toList
        [{ kind := "bullet_list", lines := some (2, 3), children := [looseItem] }] 2 = .ok tree ∧
      (tree.walk .any).map Node.kind = ["root", "yaml", "list", "listItem", "heading", "image", "text"]) ∧
    2 ≤ (lines "---\n---\n- a".toList).length ∧
    buildTree "---\n---\n- a".toList (looseItem :: strayBreak) 2 = .error (.unknownInline "hr") := by
  have hle : 2 ≤ (lines "---\n---\n- a".toList).length := by decide +kernel
  refine ⟨?_, hle, (((buildTree_conserves _ _ 2).2 hle).2 _).2 (by decide +kernel)⟩
  generalize htree : buildTree _ _ _ = answer
  have hok : answer.isOk = true := by
    rw [← htree]
    decide +kernel
  cases answer with
  | error f => cases hok
  | ok tree => exact ⟨tree, rfl, ((buildTree_conserves _ _ 2).1 tree htree).2.trans (by decide +kernel)⟩

end Document
end MarkLint

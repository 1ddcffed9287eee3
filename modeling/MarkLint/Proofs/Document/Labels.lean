import MarkLint.Analysis
import MarkLint.Proofs.Document.Shape
import MarkLint.Proofs.Document.Spots
import MarkLint.Proofs.Markdown.Blocks

/-!
# Labels in the text of headings

The text of a heading consists of the texts in it and of the labels of its images (`fragments`). The texts are free of
markup, but the node of an image has its label as it stands in the source (`plainText_image`), with all markup that is
read into the children of the image. So the text of a heading is free of markup if that holds of its labels, and only
if, as far as a single label decides it (`buildTree_headingTexts`). A label with emphasis makes the text longer than
what is read there (`plainText_starLabel`).
-/

namespace MarkLint.Document

open MarkLint.Markdown
open MarkLint.Text

/-! ## Texts and labels -/

mutual

/-- The text of elements without markup. -/
def readTexts : List Element → List Char
  | [] => []
  | e :: rest => readText e ++ readTexts rest

/-- The text of an element without markup: its value if it has one, and otherwise the text of its children, also of what
was read in the label of an image. -/
def readText : Element → List Char
  | ⟨kind, tag, lines, content, info, markup, href, src, children⟩ =>
    match inlineValue ⟨kind, tag, lines, content, info, markup, href, src, children⟩ with
    | some value => value.toList
    | none => readTexts children

end

/-- What the text of a node consists of: a text, or the label of an image. -/
inductive Fragment where
  | text (s : String)
  | label (image : Element)

namespace Fragment

/-- The fragment as nodes have it: labels are as they stand in the source. -/
def shown : Fragment → List Char
  | text s => s.toList
  | label image => image.content.toList

/-- The fragment without markup. -/
def read : Fragment → List Char
  | text s => s.toList
  | label image => readTexts image.children

end Fragment

mutual

/-- The fragments of elements, in document order. -/
def fragments : List Element → List Fragment
  | [] => []
  | e :: rest => fragmentsOf e ++ fragments rest

/-- The fragments of one element. -/
def fragmentsOf : Element → List Fragment
  | ⟨kind, tag, lines, content, info, markup, href, src, children⟩ =>
    let e : Element := ⟨kind, tag, lines, content, info, markup, href, src, children⟩
    match inlineValue e with
    | some value => [.text value]
    | none => if kind = "image" then [.label e] else fragments children

end

/-- The label of the image is, as it stands in the source, its own text. -/
def HasPlainLabel (image : Element) : Prop := image.content.toList = readTexts image.children

theorem readText_eq (e : Element) : readText e =
    match inlineValue e with
    | some value => value.toList
    | none => readTexts e.children := by
  cases e
  rw [readText]

theorem fragmentsOf_eq (e : Element) : fragmentsOf e =
    match inlineValue e with
    | some value => [.text value]
    | none => if e.kind = "image" then [.label e] else fragments e.children := by
  cases e
  rw [fragmentsOf]

/-- Without markup, the fragments make up the text of the elements. -/
theorem flatMap_read_fragments (es : List Element) : (fragments es).flatMap Fragment.read = readTexts es := by
  induction es using Element.forest_induction with
  | nil => rfl
  | cons e rest ihe ihrest =>
    rw [fragments, readTexts, List.flatMap_append, ihrest, fragmentsOf_eq, readText_eq]
    refine congrArg (· ++ _) ?_
    cases inlineValue e with
    | some value => exact List.append_nil _
    | none =>
      dsimp only
      split
      · exact List.append_nil _
      · exact ihe

/-- Plain labels are shown as they are read. -/
theorem Fragment.shown_eq_read {f : Fragment} (h : ∀ image, f = .label image → HasPlainLabel image) :
    f.shown = f.read := by
  cases f with
  | text s => rfl
  | label image => exact h image rfl

theorem flatMap_shown_eq_read {fs : List Fragment} (h : ∀ image, .label image ∈ fs → HasPlainLabel image) :
    fs.flatMap Fragment.shown = fs.flatMap Fragment.read :=
  List.flatMap_congr fun _ hf => Fragment.shown_eq_read fun image himage => h image (himage ▸ hf)

/-- If all labels but one are plain, it depends on this one whether the whole is shown as it is read. -/
theorem flatMap_shown_eq_read_iff {before after : List Fragment} {image : Element}
    (h : ∀ other, .label other ∈ before ++ after → HasPlainLabel other) :
    (before ++ .label image :: after).flatMap Fragment.shown = (before ++ .label image :: after).flatMap Fragment.read ↔
      HasPlainLabel image := by
  have hbefore := flatMap_shown_eq_read fun other hother => h other (List.mem_append_left after hother)
  have hafter := flatMap_shown_eq_read fun other hother => h other (List.mem_append_right before hother)
  rw [List.flatMap_append, List.flatMap_append, List.flatMap_cons, List.flatMap_cons, hbefore, hafter,
    List.append_cancel_left_eq, List.append_cancel_right_eq]
  rfl

/-! ## Parts of lines -/

/-- The node of a part of a line has its value. The node of an image has the label as it stands in the source, and
other nodes have the nodes of their children. -/
theorem inlineNode_cases {e : Element} {n : Node} (h : inlineNode e = .ok n) :
    isInline e.kind = true ∧ n.kind = nodeKind e.kind ∧ n.value = inlineValue e ∧
      (e.kind = "image" ∧ n.alt = some e.content ∧ n.children = [] ∨
        e.kind ≠ "image" ∧ n.alt = none ∧ inlineNodes e.children = .ok n.children) := by
  rw [inlineNode_eq] at h
  cases hlookup : inlineKinds.lookup e.kind with
  | none =>
    rw [hlookup] at h
    cases h
  | some kind =>
    rw [hlookup] at h
    have hkind : nodeKind e.kind = kind := by rw [nodeKind, hlookup, Option.getD_some]
    have hinline : isInline e.kind = true := by rw [isInline, hlookup, Option.isSome_some]
    dsimp only at h
    split at h
    · rename_i himage
      cases h
      exact ⟨hinline, hkind.symm, rfl, Or.inl ⟨himage, rfl, rfl⟩⟩
    · rename_i himage
      split at h
      · rename_i inner hinner
        cases h
        exact ⟨hinline, hkind.symm, rfl, Or.inr ⟨himage, rfl, hinner⟩⟩
      · cases h

theorem inlineNodes_cons_eq_ok {e : Element} {rest : List Element} {ns : List Node}
    (h : inlineNodes (e :: rest) = .ok ns) : ∃ n more, inlineNode e = .ok n ∧ inlineNodes rest = .ok more ∧
      ns = n :: more := by
  rw [inlineNodes] at h
  obtain ⟨n, hn, h⟩ := bind_eq_ok_iff.1 h
  obtain ⟨more, hmore, h⟩ := bind_eq_ok_iff.1 h
  exact ⟨n, more, hn, hmore, (Except.ok.inj h).symm⟩

/-- The text of a part of a line is made up of its fragments as they are shown, if that holds of its children. -/
theorem plainText_inlineNode_of {e : Element} {n : Node} (ih : ∀ {ns : List Node}, inlineNodes e.children = .ok ns →
      (Node.plainTexts ns).toList = (fragments e.children).flatMap Fragment.shown) (h : inlineNode e = .ok n) :
    n.plainText.toList = (fragmentsOf e).flatMap Fragment.shown := by
  obtain ⟨-, -, hvalue, hchildren⟩ := inlineNode_cases h
  rw [Node.plainText_eq, hvalue, fragmentsOf_eq]
  cases hv : inlineValue e with
  | some value => exact (List.append_nil _).symm
  | none =>
    rcases hchildren with ⟨himage, halt, -⟩ | ⟨himage, halt, hinner⟩
    · rw [halt, if_pos himage]
      exact (List.append_nil _).symm
    · rw [halt, if_neg himage]
      exact ih hinner

theorem plainTexts_inlineNodes (es : List Element) : ∀ {ns : List Node}, inlineNodes es = .ok ns →
    (Node.plainTexts ns).toList = (fragments es).flatMap Fragment.shown := by
  induction es using Element.forest_induction with
  | nil =>
    intro ns h
    cases h
    rfl
  | cons e rest ihe ihrest =>
    intro ns h
    obtain ⟨n, more, hn, hmore, rfl⟩ := inlineNodes_cons_eq_ok h
    rw [Node.plainTexts, String.toList_append, plainText_inlineNode_of ihe hn, ihrest hmore, fragments,
      List.flatMap_append]

theorem plainText_inlineNode {e : Element} {n : Node} (h : inlineNode e = .ok n) :
    n.plainText.toList = (fragmentsOf e).flatMap Fragment.shown :=
  plainText_inlineNode_of (plainTexts_inlineNodes e.children) h

/-- The text of an image is its label as it stands in the source. -/
theorem plainText_image {e : Element} (h : e.kind = "image") :
    ∃ n, inlineNode e = .ok n ∧ n.plainText = e.content := by
  have hlookup : inlineKinds.lookup e.kind = some "image" := by
    rw [h]
    decide
  have hvalue : inlineValue e = none := by simp [inlineValue, h]
  refine ⟨_, by rw [inlineNode_eq, hlookup]; exact if_pos h, ?_⟩
  rw [Node.plainText_eq]
  simp only [hvalue]

/-! ## Headings -/

/-- There is nothing but text in the element: it is a part of a line, or transparent with such elements in it. -/
inductive IsText : Element → Prop
  | part {e : Element} : isInline e.kind = true → IsText e
  | line {e : Element} : isTransparent e.kind = true → (∀ c ∈ e.children, IsText c) → IsText e

/-- Text is built in the same way inside containers and below a block without a place. -/
theorem placedNodes_eq_bareNodes (s : Sheet) (es : List Element) : ∀ {cs : List Container}, (∀ e ∈ es, IsText e) →
    placedNodes s cs es = bareNodes es := by
  induction es using Element.forest_induction with
  | nil => exact fun _ => rfl
  | cons e rest ihe ihrest =>
    intro cs h
    obtain ⟨he, hrest⟩ := List.forall_mem_cons.1 h
    have hnode : placedNode s cs e = bareNode e := by
      rw [placedNode_eq, bareNode_eq]
      cases he with
      | part hi => simp only [isTransparent_of_isInline hi, hi, Bool.false_eq_true, if_false, if_true]
      | line ht hchildren => rw [if_pos ht, if_pos ht, ihe hchildren]
    rw [placedNodes, bareNodes, hnode, ihrest hrest]

theorem bareNodes_cons_eq_ok {e : Element} {rest : List Element} {ns : List Node}
    (h : bareNodes (e :: rest) = .ok ns) : ∃ nodes more, bareNode e = .ok nodes ∧ bareNodes rest = .ok more ∧
      ns = nodes ++ more := by
  rw [bareNodes] at h
  obtain ⟨nodes, hnodes, h⟩ := bind_eq_ok_iff.1 h
  obtain ⟨more, hmore, h⟩ := bind_eq_ok_iff.1 h
  exact ⟨nodes, more, hnodes, hmore, (Except.ok.inj h).symm⟩

/-- Text becomes nodes whose text is made up of its fragments as they are shown. -/
theorem plainTexts_bareNodes (es : List Element) : ∀ {ns : List Node}, (∀ e ∈ es, IsText e) → bareNodes es = .ok ns →
    (Node.plainTexts ns).toList = (fragments es).flatMap Fragment.shown := by
  induction es using Element.forest_induction with
  | nil =>
    intro ns _ h
    cases h
    rfl
  | cons e rest ihe ihrest =>
    intro ns hes h
    obtain ⟨he, hrest⟩ := List.forall_mem_cons.1 hes
    obtain ⟨nodes, more, hnodes, hmore, rfl⟩ := bareNodes_cons_eq_ok h
    rw [Node.plainTexts_append, String.toList_append, ihrest hrest hmore, fragments, List.flatMap_append]
    refine congrArg (· ++ _) ?_
    rw [bareNode_eq] at hnodes
    cases he with
    | part hi =>
      rw [if_neg (by simp [isTransparent_of_isInline hi]), if_pos hi] at hnodes
      obtain ⟨n, hn, hnodes⟩ := bind_eq_ok_iff.1 hnodes
      cases hnodes
      rw [Node.plainTexts, String.toList_append, plainText_inlineNode hn]
      exact List.append_nil _
    | line ht hchildren =>
      rw [if_pos ht] at hnodes
      have hkind : ∀ kind, isTransparent kind = false → e.kind ≠ kind := fun kind hkind =>
        ne_of_apply_ne isTransparent (by rw [ht, hkind]; decide)
      have hvalue : inlineValue e = none := by
        simp [inlineValue, hkind "text" (by decide), hkind "code_inline" (by decide),
          hkind "html_inline" (by decide), hkind "softbreak" (by decide)]
      rw [fragmentsOf_eq, hvalue]
      dsimp only
      rw [if_neg (hkind "image" (by decide)), ihe hchildren hnodes]

/-- The node has the kind of its element. If this is a heading with nothing but text in it, then the text of the node is
made up of the fragments in the heading as they are shown. -/
structure Site.Reads (s : Site) (n : Node) : Prop where
  kind : n.kind = s.kind
  text : s.element.kind = "heading" → (∀ c ∈ s.element.children, IsText c) →
    n.plainText.toList = (fragments s.element.children).flatMap Fragment.shown

theorem Site.Reads.of_ne {s : Site} {n : Node} (hkind : n.kind = s.kind) (hne : s.element.kind ≠ "heading") :
    s.Reads n :=
  ⟨hkind, fun hheading => absurd hheading hne⟩

/-- What is changed later is no heading. -/
theorem Site.Reads.of_kept {s : Site} {m n : Node} (h : s.Reads m) (hkept : Kept m n) : s.Reads n := by
  refine ⟨hkept.kind.trans h.kind, fun hheading hchildren => ?_⟩
  have hkind : m.kind = "heading" := by
    rw [h.kind, Site.kind, hheading]
    decide
  obtain rfl := hkept.same (by rw [hkind]; decide) (by rw [hkind]; decide)
  exact h.text hheading hchildren

/-- The node of a heading has no text of its own. -/
theorem blockData_heading {e : Element} {node : Node} (hkind : e.kind = "heading") (h : blockData e = .ok node) :
    node.value = none ∧ node.alt = none := by
  rw [blockData, if_pos hkind] at h
  split at h
  · cases h
    exact ⟨rfl, rfl⟩
  · cases h

/-- No part of a line is a heading. -/
theorem inlineNodes_reads (es : List Element) : ∀ {above : List Element} {ns : List Node}, anyImage above = false →
    inlineNodes es = .ok ns →
    List.Forall₂ Site.Reads ((sites above es).filter Site.isKept) (Node.preorders ns) := by
  induction es using Element.forest_induction with
  | nil =>
    intro above ns _ h
    cases h
    exact .nil
  | cons e rest ihe ihrest =>
    intro above ns habove h
    obtain ⟨n, more, hn, hmore, rfl⟩ := inlineNodes_cons_eq_ok h
    obtain ⟨hi, hkind, -, hchildren⟩ := inlineNode_cases hn
    rw [sites, List.filter_append, filter_isKept_sitesOf habove, if_neg (by simp [isTransparent_of_isInline hi]),
      Node.preorders_cons]
    have hne : e.kind ≠ "heading" := ne_of_apply_ne isInline (by rw [hi]; decide)
    refine .cons (.of_ne hkind hne) (List.rel_append ?_ (ihrest habove hmore))
    rcases hchildren with ⟨himage, -, hnone⟩ | ⟨himage, -, hinner⟩
    · rw [if_pos himage, hnone]
      exact .nil
    · rw [if_neg himage]
      exact ihe (anyImage_cons habove himage) hinner

theorem inlineNode_reads {above : List Element} {e : Element} {n : Node} (habove : anyImage above = false)
    (h : inlineNode e = .ok n) :
    List.Forall₂ Site.Reads ((sitesOf above e).filter Site.isKept) (Node.preorders [n]) := by
  have hall : inlineNodes [e] = .ok [n] := by
    rw [inlineNodes, h]
    rfl
  have hreads := inlineNodes_reads [e] habove hall
  rwa [sites, sites, List.append_nil] at hreads

/-- A node made of a block reads it, if it has its kind and, as a heading, nothing but the nodes of the text in it. -/
theorem Site.reads_block {above : List Element} {e : Element} {node : Node} {inner : List Node}
    (hi : isInline e.kind = false) (hkind : node.kind = blockKind e.kind)
    (hnone : e.kind = "heading" → node.value = none ∧ node.alt = none)
    (hinner : (∀ c ∈ e.children, IsText c) → bareNodes e.children = .ok inner) :
    Site.Reads ⟨above, e⟩ { node with children := inner } := by
  refine ⟨hkind.trans (nodeKind_block hi).symm, fun hheading hchildren => ?_⟩
  obtain ⟨hvalue, halt⟩ := hnone hheading
  rw [Node.plainText_eq]
  simp only [hvalue, halt]
  exact plainTexts_bareNodes e.children hchildren (hinner hchildren)

/-- Below a block without a place, nodes read their elements. -/
theorem bareNodes_reads (es : List Element) : ∀ {above : List Element} {ns : List Node}, anyImage above = false →
    bareNodes es = .ok ns →
    List.Forall₂ Site.Reads ((sites above es).filter Site.isKept) (Node.preorders ns) := by
  induction es using Element.forest_induction with
  | nil =>
    intro above ns _ h
    cases h
    exact .nil
  | cons e rest ihe ihrest =>
    intro above ns habove h
    obtain ⟨nodes, more, hnodes, hmore, rfl⟩ := bareNodes_cons_eq_ok h
    rw [sites, List.filter_append, Node.preorders_append]
    refine List.rel_append ?_ (ihrest habove hmore)
    rw [bareNode_eq] at hnodes
    cases ht : isTransparent e.kind with
    | true =>
      rw [if_pos ht] at hnodes
      rw [filter_isKept_sitesOf habove, if_pos ht]
      exact ihe (anyImage_cons habove (ne_of_apply_ne isTransparent (by rw [ht]; decide))) hnodes
    | false =>
      rw [if_neg (by simp [ht])] at hnodes
      cases hi : isInline e.kind with
      | true =>
        rw [if_pos hi] at hnodes
        obtain ⟨n, hn, hnodes⟩ := bind_eq_ok_iff.1 hnodes
        cases hnodes
        exact inlineNode_reads habove hn
      | false =>
        rw [if_neg (by simp [hi])] at hnodes
        obtain ⟨inner, hinner, hnodes⟩ := bind_eq_ok_iff.1 hnodes
        cases hnodes
        have himage : e.kind ≠ "image" := ne_of_apply_ne isInline (by rw [hi]; decide)
        rw [filter_isKept_sitesOf habove, if_neg (by simp [ht]), if_neg himage, Node.preorders_cons,
          Node.preorders_nil, List.append_nil]
        have hreads := @Site.reads_block above e { kind := blockKind e.kind } inner hi rfl (fun _ => ⟨rfl, rfl⟩)
          fun _ => hinner
        exact .cons hreads (ihe (anyImage_cons habove himage) hinner)

variable {source : List Char}

/-- Reading a block for a checkbox changes no heading. -/
theorem Site.reads_task {s : Sheet} {above : List Element} {e : Element} {node n : Node} {inner : List Node}
    (hi : isInline e.kind = false) (hkind : node.kind = blockKind e.kind)
    (hnone : e.kind = "heading" → node.value = none ∧ node.alt = none)
    (hinner : (∀ c ∈ e.children, IsText c) → bareNodes e.children = .ok inner) (hsame : n.kind = node.kind)
    (hn : readTask s { node with children := inner } = .ok n) : Site.Reads ⟨above, e⟩ n := by
  by_cases hheading : e.kind = "heading"
  · have hne : node.kind ≠ "listItem" := by
      rw [hkind, hheading]
      decide
    rw [readTask, if_neg hne] at hn
    cases hn
    exact Site.reads_block hi hkind hnone hinner
  · exact .of_ne (hsame.trans (hkind.trans (nodeKind_block hi).symm)) hheading

/-- The nodes of one element read it and what is in it, if those of its children do. -/
theorem placedNode_reads {above : List Element} {e : Element} {cs : List Container} {ns : List Node}
    (habove : anyImage above = false)
    (ih : ∀ {cs : List Container} {ns : List Node}, anyImage (e :: above) = false →
      placedNodes (Sheet.ofText source) cs e.children = .ok ns →
      List.Forall₂ Site.Reads ((sites (e :: above) e.children).filter Site.isKept) (Node.preorders ns))
    (h : placedNode (Sheet.ofText source) cs e = .ok ns) :
    List.Forall₂ Site.Reads ((sitesOf above e).filter Site.isKept) (Node.preorders ns) := by
  cases ht : isTransparent e.kind with
  | true =>
    rw [placedNode_transparent ht] at h
    rw [filter_isKept_sitesOf habove, if_pos ht]
    exact ih (anyImage_cons habove (ne_of_apply_ne isTransparent (by rw [ht]; decide))) h
  | false =>
    cases hi : isInline e.kind with
    | true =>
      rw [placedNode_inline hi] at h
      obtain ⟨n, hn, rfl⟩ := map_eq_ok_iff.1 h
      exact inlineNode_reads habove hn
    | false =>
      cases hnode : blockData e with
      | error f =>
        rw [placedNode_fault ht hi hnode] at h
        cases h
      | ok node =>
        have himage : e.kind ≠ "image" := ne_of_apply_ne isInline (by rw [hi]; decide)
        have hkind := ((blockData_yields e).of_ok hnode).1
        have hnone := fun hheading => blockData_heading (e := e) hheading hnode
        have hinside := anyImage_cons habove himage
        rw [filter_isKept_sitesOf habove, if_neg (by simp [ht]), if_neg himage]
        cases hlines : blockLines (Sheet.ofText source) e.lines with
        | none =>
          rw [placedNode_bare ht hi hnode hlines] at h
          obtain ⟨inner, hinner, rfl⟩ := map_eq_ok_iff.1 h
          rw [Node.preorders_singleton, Node.preorder_eq]
          exact .cons (Site.reads_block hi hkind hnone fun _ => hinner) (bareNodes_reads _ hinside hinner)
        | some p =>
          obtain ⟨first, last⟩ := p
          rw [placedNode_block ht hi hnode hlines] at h
          obtain ⟨inner, hinner, h⟩ := bind_eq_ok_iff.1 h
          obtain ⟨n, hn, h⟩ := bind_eq_ok_iff.1 h
          cases h
          obtain ⟨block, hblock, hmarked⟩ := @readTask_ofText source
            { node with position := some (blockPlace source cs e.kind first last), children := inner }
            ((placedNodes_yields source _ _).of_ok hinner).isSound
          obtain rfl : block = n := Except.ok.inj (hblock.symm.trans hn)
          rw [Node.preorders_singleton, Node.preorder_eq]
          refine .cons ?_ (forall₂_of_forall₂ (fun _ _ _ hm hkept => hm.of_kept hkept) (ih hinside hinner) hmarked.kept)
          exact @Site.reads_task _ above e { node with position := some _ } _ inner hi hkind hnone
            (fun hchildren => placedNodes_eq_bareNodes _ _ hchildren ▸ hinner) hmarked.kind_position.1 hn

theorem placedNodes_reads (es : List Element) : ∀ {above : List Element} {cs : List Container} {ns : List Node},
    anyImage above = false → placedNodes (Sheet.ofText source) cs es = .ok ns →
    List.Forall₂ Site.Reads ((sites above es).filter Site.isKept) (Node.preorders ns) := by
  induction es using Element.forest_induction with
  | nil =>
    intro above cs ns _ h
    cases h
    exact .nil
  | cons e rest ihe ihrest =>
    intro above cs ns habove h
    obtain ⟨nodes, more, hnodes, hmore, rfl⟩ := placedNodes_cons_eq_ok h
    rw [sites, List.filter_append, Node.preorders_append]
    exact List.rel_append (placedNode_reads habove ihe hnodes) (ihrest habove hmore)

/-! ## The document -/

/-- The headings among elements, in document order; in images there are none. -/
def headingSites (elements : List Element) : List Site :=
  (sites [] elements).filter fun s => s.isKept && s.element.kind == "heading"

/-- The headings of a document read those of its elements. -/
theorem walk_headings {elements : List Element} {frontMatter : Nat} {tree : Node}
    (h : buildTree source elements frontMatter = .ok tree) :
    List.Forall₂ (fun s n => (∀ c ∈ s.element.children, IsText c) →
        n.plainText.toList = (fragments s.element.children).flatMap Fragment.shown)
      (headingSites elements) (tree.walk (.kind "heading")) := by
  obtain ⟨header, children, position, rfl, -, -, hheader, hchildren⟩ := exists_of_buildTree_eq_ok h
  have hsame : ∀ s n, Site.Reads s n →
      ((s.element.kind == "heading") = true ↔ (Node.Test.kind "heading").accepts n = true) := by
    intro s n hreads
    rw [Node.Test.accepts, hreads.kind, Site.kind, beq_iff_eq, beq_iff_eq]
    exact ⟨fun hkind => by rw [hkind]; decide, eq_of_nodeKind_eq (by decide) (by decide)⟩
  have hreads := List.rel_filter hsame (@placedNodes_reads source elements [] _ _ rfl hchildren)
  have hsites : headingSites elements =
      ((sites [] elements).filter Site.isKept).filter fun s => s.element.kind == "heading" := by
    rw [headingSites, List.filter_filter]
    exact List.filter_congr fun s _ => Bool.and_comm _ _
  have hkinds : ∀ s ∈ headingSites elements, s.element.kind = "heading" := fun s hs => by
    rw [hsites] at hs
    exact beq_iff_eq.1 (List.mem_filter.1 hs).2
  rw [walk_root hheader (by decide) (by decide)]
  rw [← hsites] at hreads
  exact ((List.forall₂_and_left _ _).2 ⟨hkinds, hreads⟩).imp fun s n h => h.2.text h.1

/-- Headings that are read from a text hold nothing but text. -/
theorem isText_of_mem_sites (es : List Element) : ∀ {above : List Element}, (∀ e ∈ es, e.IsBlock ∨ e.IsLinePart) →
    ∀ s ∈ sites above es, s.element.kind = "heading" → ∀ c ∈ s.element.children, IsText c := by
  induction es using Element.forest_induction with
  | nil => exact fun _ s hs => nomatch hs
  | cons e rest ihe ihrest =>
    intro above h s hs hheading
    obtain ⟨he, hrest⟩ := List.forall_mem_cons.1 h
    rw [sites, sitesOf_eq, List.cons_append, List.mem_cons, List.mem_append] at hs
    rcases hs with rfl | hs | hs
    · rcases he with (hline | ⟨-, hlines, -⟩) | hpart
      · exact absurd (hheading.symm.trans hline.kind) (by decide)
      · intro c hc
        have hline := (hlines hheading).2 c hc
        refine .line (by rw [hline.kind]; decide) fun part hpart => ?_
        obtain ⟨hkind, -⟩ := hline.parts part hpart
        exact .part hkind
      · obtain ⟨hkind, -⟩ := hpart
        exact absurd (hheading ▸ hkind) (by decide)
    · refine ihe (fun c hc => ?_) s hs hheading
      rcases he with (hline | ⟨-, -, hblocks⟩) | hpart
      · exact Or.inr (hline.parts c hc)
      · exact Or.inl (hblocks c hc)
      · obtain ⟨-, hparts⟩ := hpart
        exact Or.inr (hparts c hc)
    · exact ihrest hrest s hs hheading

/-! ## Headings as the rules see them -/

/-- The text of the heading is that of the elements without markup. So it is for the rules: this text is measured, and
it is compared with that of other headings. -/
structure IsSeenPlain (es : List Element) (n : Node) : Prop where
  text : n.plainText.toList = readTexts es
  length : ∀ limit : Int, HeadingLength.isTooLong limit n = decide (limit < (readTexts es).length)
  key : ∀ fold : List Char → List Char, DuplicateHeadings.key fold n = fold (readTexts es)

/-- It is the text alone from which the rules know a heading. -/
theorem isSeenPlain_iff {es : List Element} {n : Node} : IsSeenPlain es n ↔ n.plainText.toList = readTexts es := by
  refine ⟨IsSeenPlain.text, fun h => ⟨h, fun limit => ?_, fun fold => ?_⟩⟩
  · rw [HeadingLength.isTooLong, ← String.length_toList, h]
  · rw [DuplicateHeadings.key, h]

/-- The node of an image has the label as it stands in the source for its text, which is the text that is read in the
label only if this is plain. Headings that are read from a text hold nothing but text, and of such headings, in any
document, the text is free of markup if all labels in it are plain. If all but one are, it depends on this one. -/
theorem buildTree_headingTexts (source : List Char) (elements : List Element) (frontMatter : Nat) :
    (∀ image : Element, image.kind = "image" → ∃ n, inlineNode image = .ok n ∧ n.plainText = image.content ∧
      (n.plainText.toList = readTexts image.children ↔ HasPlainLabel image)) ∧
    (∀ s ∈ headingSites (Markdown.elements source), ∀ c ∈ s.element.children, IsText c) ∧
    ∀ tree, buildTree source elements frontMatter = .ok tree → List.Forall₂ (fun s n =>
        (∀ c ∈ s.element.children, IsText c) →
          ((∀ image, .label image ∈ fragments s.element.children → HasPlainLabel image) →
            IsSeenPlain s.element.children n) ∧
          ∀ before image after, fragments s.element.children = before ++ .label image :: after →
            (∀ other, .label other ∈ before ++ after → HasPlainLabel other) →
              (IsSeenPlain s.element.children n ↔ HasPlainLabel image))
      (headingSites elements) (tree.walk (.kind "heading")) := by
  refine ⟨fun image himage => ?_, fun s hs => ?_, fun tree h => (walk_headings h).imp fun s n htext hchildren => ?_⟩
  · obtain ⟨n, hn, htext⟩ := plainText_image himage
    exact ⟨n, hn, htext, by rw [htext]; rfl⟩
  · obtain ⟨hmem, hkept⟩ := List.mem_filter.1 hs
    rw [Bool.and_eq_true, beq_iff_eq] at hkept
    exact isText_of_mem_sites _ (fun e he => Or.inl (isBlock_of_mem_elements source e he)) s hmem hkept.2
  · rw [isSeenPlain_iff, htext hchildren, ← flatMap_read_fragments]
    refine ⟨flatMap_shown_eq_read, fun before image after hsplit hother => ?_⟩
    rw [hsplit]
    exact flatMap_shown_eq_read_iff hother

/-- An image with its label and with what is read in it. -/
def labelled (label : String) (children : List Element) : Element :=
  { kind := "image", content := label, children := children }

/-- What is read in the label `*a*`. -/
def emphasized : List Element := [{ kind := "em", children := [{ kind := "text", content := "a" }] }]

/-- How many headings of a document are longer than two characters, if there is only one, with nothing but the image in
it. -/
def countLong (source : String) (image : Element) : Option Nat := do
  let line : Element := { kind := "inline", children := [image] }
  let heading : Element := { kind := "heading", tag := "h1", lines := some (0, 1), children := [line] }
  let tree ← (buildTree source.toList [heading] 0).toOption
  let reports ← ({ HeadingLength.rule with option := some (.int 2) }.check tree source.toList).toOption
  return reports.length

/-- Of the label `*a*` only the letter is read, but a heading of this label is three characters long, and reported for
it. With the plain label `a` it is not. -/
theorem plainText_starLabel :
    (¬ ∀ (image : Element) (n : Node), image.kind = "image" → inlineNode image = .ok n →
      n.plainText.toList = readTexts image.children) ∧
    readTexts emphasized = ['a'] ∧
    countLong "# ![*a*](x)" (labelled "*a*" emphasized) = some 1 ∧
    countLong "# ![a](x)" (labelled "a" [{ kind := "text", content := "a" }]) = some 0 := by
  refine ⟨fun h => ?_, by decide +kernel, by decide +kernel, by decide +kernel⟩
  obtain ⟨n, hn, htext⟩ := @plainText_image (labelled "*a*" emphasized) rfl
  have hread := h _ n rfl hn
  rw [htext] at hread
  exact absurd hread (by decide +kernel)

end MarkLint.Document

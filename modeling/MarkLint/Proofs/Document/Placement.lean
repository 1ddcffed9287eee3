import MarkLint.Proofs.Document.FrontMatter
import MarkLint.Proofs.Document.Placed
import MarkLint.Proofs.Node.Rounds

/-!
# Which nodes have a place

A document tree is built from any elements, whatever lines they claim, unless an element is at fault
(`buildTree_yields`). Each node of it has no place or one that can be reported on (`IsTree.isSound`), and which of the
two follows from where the node comes from (`IsTree.map_outline`).
-/

namespace MarkLint.Document

open MarkLint.Markdown
open MarkLint.Text

variable {source : List Char}

/-! ## Outlines -/

/-- The kind of a node and whether it has a place. -/
def nodeOutline (n : Node) : String × Bool := (n.kind, n.position.isSome)

/-- The kind of a node and whether it has a place, as its origin has it. -/
def Origin.outline (count : Nat) (o : Origin) : String × Bool := (o.kind, o.isPlaced count)

theorem map_outline_of_plain {count : Nat} {os : List Origin} {ns : List Node}
    (h : List.Forall₂ (Origin.Plain count) os ns) : ns.map nodeOutline = os.map (Origin.outline count) := by
  induction h with
  | nil => rfl
  | cons hplain _ ih =>
    obtain ⟨hkind, hplaced, hpos, -⟩ := hplain
    rw [List.map_cons, List.map_cons, ih]
    simp [nodeOutline, Origin.outline, hkind, hplaced, hpos]

/-- Marking a task changes no node's outline. -/
theorem Marked.map_outline {item item' : Node} (h : Marked source item item') :
    item'.preorder.map nodeOutline = item.preorder.map nodeOutline := by
  have hitem : nodeOutline item' = nodeOutline item := by
    rw [nodeOutline, h.kind_position.1, h.kind_position.2, nodeOutline]
  have hbelow : List.Forall₂ (fun n n' => nodeOutline n' = nodeOutline n) (Node.preorders item.children)
      (Node.preorders item'.children) :=
    h.forall₂_preorders (fun _ => rfl) (fun _ _ _ => rfl) fun n i c width l stop _ hpos _ _ => by
      simp [nodeOutline, hpos]
  have hmap : List.Forall₂ (· = ·) ((Node.preorders item'.children).map nodeOutline)
      ((Node.preorders item.children).map nodeOutline) :=
    List.forall₂_map_left_iff.2 (List.forall₂_map_right_iff.2 hbelow.flip)
  rw [List.forall₂_eq_eq_eq] at hmap
  rw [Node.preorder_eq, Node.preorder_eq, List.map_cons, List.map_cons, hitem, hmap]

/-- The lines of a block are found exactly when they lie in the source. -/
theorem isSome_blockLines (source : List Char) (mapped : Option (Int × Int)) :
    (blockLines (Sheet.ofText source) mapped).isSome = liesIn (lines source).length mapped := by
  cases mapped with
  | none => rfl
  | some p =>
    obtain ⟨first, stop⟩ := p
    by_cases hin : 0 ≤ first ∧ first < ((lines source).length : Int) ∧ stop ≤ (lines source).length
    · have hblock : blockLines (Sheet.ofText source) (some (first, stop)) = some _ := if_pos hin
      rw [hblock]
      simp [liesIn, hin]
    · have hblock : blockLines (Sheet.ofText source) (some (first, stop)) = none := if_neg hin
      rw [hblock]
      simpa [liesIn, imp_iff_not_or, not_and_or, or_assoc] using hin

/-- The nodes that are built have the outlines of their origins. -/
theorem Placed.map_outline {cs : List Container} {es : List Element} {ns : List Node} (h : Placed source cs es ns) :
    (Node.preorders ns).map nodeOutline
      = (origins (lines source).length false es).map (Origin.outline (lines source).length) := by
  induction h with
  | nil => rfl
  | transparent ht _ _ ihns ihms =>
    rw [Node.preorders_append, List.map_append, ihns, ihms, origins, originsOf_transparent ht, List.map_append]
  | @inline cs e rest n ms _ _ hn _ ihms =>
    have hplain := map_outline_of_plain ((inlineNode_yields (lines source).length false e).of_ok hn)
    rw [Node.preorders, List.map_append, hplain, ihms, origins, List.map_append]
  | @bare cs e rest node inner ms ht hi hnode hlines hinner _ ihms =>
    obtain ⟨hkind, -, hpos, -⟩ := (blockData_yields e).of_ok hnode
    have hplain := map_outline_of_plain ((bareNodes_yields (lines source).length e.children).of_ok hinner)
    have hlies : liesIn (lines source).length e.lines = false := by rw [← isSome_blockLines, hlines]; rfl
    have hhead : nodeOutline { node with children := inner }
        = (Origin.element e false).outline (lines source).length := by
      simp [nodeOutline, Origin.outline, Origin.isPlaced, Origin.kind, hkind, hpos, hlies, nodeKind_block hi]
    rw [Node.preorders_cons, List.map_cons, List.map_append, hhead, hplain, ihms, origins, originsOf_block ht hi, hlies,
      List.cons_append, List.map_cons, List.map_append]
    rfl
  | @block cs e rest node n inner ms first last ht hi hnode hlines _ hmarked _ ihinner ihms =>
    obtain ⟨hkind, -, -, -⟩ := (blockData_yields e).of_ok hnode
    have hlies : liesIn (lines source).length e.lines = true := by rw [← isSome_blockLines, hlines]; rfl
    have hhead : nodeOutline { node with position := some (blockPlace source cs e.kind first last), children := inner }
        = (Origin.element e false).outline (lines source).length := by
      simp [nodeOutline, Origin.outline, Origin.isPlaced, Origin.kind, hkind, hlies, hi, nodeKind_block hi]
    rw [Node.preorders, List.map_append, hmarked.map_outline, Node.preorder_eq, List.map_cons, hhead, ihinner, ihms,
      origins, originsOf_block ht hi, hlies, List.map_append, List.map_cons]
    rfl

/-! ## The document -/

/-- The first place of a source. -/
theorem pointAt_zero (source : List Char) :
    (Sheet.ofText source).pointAt 0 = .ok (Point.onLine (lines source) 0 0) := by
  obtain ⟨l, ls, h⟩ := exists_lines_cons source
  have hpoint : (Location.ofText source).toPoint ((0 : Nat) : Int) = .ok (Point.onLine (lines source) 0 0) := by
    have hline : (lines source)[0]? = some l := by rw [h]; rfl
    simpa [Point.onLine] using Location.toPoint_onLine hline (Nat.zero_le _)
  have hloc : (Sheet.ofText source).location = Location.ofText source := rfl
  simp only [Sheet.pointAt, hloc, hpoint]

/-- The last place of a source is the end of its last line. -/
theorem pointAt_length (source : List Char) : ∃ i l, (lines source)[i]? = some l ∧
    (Sheet.ofText source).pointAt source.length = .ok (Point.onLine (lines source) i l.length) := by
  have hpos := lines_length_pos source
  have hlast : (lines source)[(lines source).length - 1]? = some ((lines source).getD ((lines source).length - 1) []) :=
    getElem?_line (by omega)
  have hoffset : (Point.onLine (lines source) ((lines source).length - 1)
      ((lines source).getD ((lines source).length - 1) []).length).offset = (source.length : Nat) := by
    have htotal := lineStart_length source
    have hnext := lineStart_succ hlast
    rw [Nat.sub_add_cancel hpos] at hnext
    simp only [Point.onLine]
    omega
  have hloc : (Sheet.ofText source).location = Location.ofText source := rfl
  have hpoint := Location.toPoint_onLine hlast (Nat.le_refl _)
  rw [hoffset] at hpoint
  exact ⟨_, _, hlast, by simp only [Sheet.pointAt, hloc, hpoint]⟩

/-- The nodes of the front matter: none, or one with a span that starts where the source does. -/
def IsHeader (source : List Char) (frontMatter : Nat) (header : List Node) : Prop :=
  if frontMatter = 0 then header = []
  else ∃ value position, header = [{ kind := "yaml", value := value, position := some position }] ∧
    IsSpan source position ∧ position.start = some (Point.onLine (lines source) 0 0)

/-- The node of a front matter of `count` lines: its text is what stands between its first line and its last one, and it
runs from the start of the source to the end of its last line, without the blanks there. -/
def headerNode (source : List Char) (count : Nat) : Node :=
  let stop := (trimEnd ((lines source).getD (count - 1) [])).length
  { kind := "yaml", value := some (String.ofList (unlines (((lines source).take (count - 1)).drop 1))),
    position := some ⟨some ⟨1, 1, 0⟩, some (Point.onLine (lines source) (count - 1) stop)⟩ }

/-- Front matter that does not go past the source has its node. -/
theorem frontMatterNode_eq {frontMatter : Nat} (h0 : frontMatter ≠ 0) (h : frontMatter ≤ (lines source).length) :
    frontMatterNode (Sheet.ofText source) frontMatter = .ok (headerNode source frontMatter) := by
  have hfirst := getElem?_line (lines_length_pos source)
  have hlast : frontMatter - 1 < (lines source).length := by omega
  rw [frontMatterNode, line_ofText hlast]
  show (Sheet.span _ _ _ _ _ >>= _) = _
  rw [span_ofText hfirst (Nat.zero_le _) (getElem?_line hlast) (trimEnd_length_le _)]
  simp only [headerNode, Point.onLine, lineStart_zero]
  rfl

/-- The node of the front matter has a span that starts where the source does. -/
theorem frontMatterNode_ofText {frontMatter : Nat} (h0 : frontMatter ≠ 0) (h : frontMatter ≤ (lines source).length) :
    ∃ node, frontMatterNode (Sheet.ofText source) frontMatter = .ok node ∧ IsHeader source frontMatter [node] := by
  have hstart : Point.onLine (lines source) 0 0 = ⟨1, 1, 0⟩ := by simp [Point.onLine]
  have hlast : frontMatter - 1 < (lines source).length := by omega
  refine ⟨_, frontMatterNode_eq h0 h, ?_⟩
  rw [IsHeader, if_neg h0, hstart]
  refine ⟨_, _, rfl, ?_, rfl⟩
  exact ⟨0, 0, _, _, _, _, getElem?_line (lines_length_pos source), Nat.zero_le _, getElem?_line hlast,
    trimEnd_length_le _, by omega, by rw [hstart]⟩

/-- A document tree: a root with a span that starts where the source does, over the front matter and the nodes of the
elements. -/
def IsTree (source : List Char) (elements : List Element) (frontMatter : Nat) (tree : Node) : Prop :=
  ∃ header children position, tree = { kind := "root", children := header ++ children, position := some position } ∧
    IsSpan source position ∧ position.start = some (Point.onLine (lines source) 0 0) ∧
    IsHeader source frontMatter header ∧ Placed source [] elements children

/-- Whatever the elements become, the document and its front matter have their nodes, if the front matter does not go
past the source. -/
theorem exists_buildTree_eq {frontMatter : Nat} (h : frontMatter ≤ (lines source).length) :
    ∃ header position, IsHeader source frontMatter header ∧ IsSpan source position ∧
      position.start = some (Point.onLine (lines source) 0 0) ∧ ∀ elements, buildTree source elements frontMatter
        = (placedNodes (Sheet.ofText source) [] elements).map fun children =>
          { kind := "root", children := header ++ children, position := some position } := by
  have hfirst := getElem?_line (lines_length_pos source)
  obtain ⟨i, l, hi, hstop⟩ := pointAt_length source
  have hspan : IsSpan source ⟨some (Point.onLine (lines source) 0 0), some (Point.onLine (lines source) i l.length)⟩ :=
    ⟨0, 0, _, i, _, l, hfirst, Nat.zero_le _, hi, Nat.le_refl _, by omega, rfl⟩
  by_cases h0 : frontMatter = 0
  · refine ⟨[], _, by rw [IsHeader, if_pos h0], hspan, rfl, fun elements => ?_⟩
    simp only [buildTree, pointAt_zero, hstop]
    show (if frontMatter = 0 then _ else _) = _
    rw [if_pos h0]
    cases placedNodes (Sheet.ofText source) [] elements <;> rfl
  · obtain ⟨node, hnode, hheader⟩ := frontMatterNode_ofText h0 h
    refine ⟨[node], _, hheader, hspan, rfl, fun elements => ?_⟩
    simp only [buildTree, pointAt_zero, hstop]
    show (if frontMatter = 0 then _ else _) = _
    rw [if_neg h0, hnode]
    cases placedNodes (Sheet.ofText source) [] elements <;> rfl

/-- There is no document with a front matter that goes past the source. -/
theorem le_of_buildTree_eq_ok {elements : List Element} {frontMatter : Nat} {tree : Node}
    (h : buildTree source elements frontMatter = .ok tree) :
    frontMatter ≤ (lines source).length := by
  by_contra hgt
  have hnone : (lines source)[frontMatter - 1]? = none := List.getElem?_eq_none (by omega)
  have hline : (Sheet.ofText source).line (frontMatter - 1) = .error (.noSuchLine (frontMatter - 1)) := by
    simp only [Sheet.line, Sheet.ofText, hnone]
  have hheader : frontMatterNode (Sheet.ofText source) frontMatter = .error (.noSuchLine (frontMatter - 1)) := by
    rw [frontMatterNode, hline]
    rfl
  obtain ⟨i, l, hi, hstop⟩ := pointAt_length source
  simp only [buildTree, pointAt_zero, hstop, hheader] at h
  revert h
  show (if frontMatter = 0 then _ else _) = _ → False
  rw [if_neg (by omega)]
  intro h
  cases h

/-- A document that is built is a root over the front matter and the nodes of the elements. -/
theorem exists_of_buildTree_eq_ok {elements : List Element} {frontMatter : Nat} {tree : Node}
    (h : buildTree source elements frontMatter = .ok tree) : ∃ header children position,
      tree = { kind := "root", children := header ++ children, position := some position } ∧
      IsSpan source position ∧ position.start = some (Point.onLine (lines source) 0 0) ∧
      IsHeader source frontMatter header ∧ placedNodes (Sheet.ofText source) [] elements = .ok children := by
  obtain ⟨header, position, hheader, hspan, hstart, heq⟩ := exists_buildTree_eq (le_of_buildTree_eq_ok h)
  rw [heq] at h
  cases hchildren : placedNodes (Sheet.ofText source) [] elements with
  | error e =>
    rw [hchildren] at h
    cases h
  | ok children =>
    rw [hchildren] at h
    cases h
    exact ⟨header, children, position, rfl, hspan, hstart, hheader, rfl⟩

/-- A document that is built is a document tree, however many lines its front matter has. -/
theorem isTree_of_buildTree_eq_ok {elements : List Element} {frontMatter : Nat} {tree : Node}
    (h : buildTree source elements frontMatter = .ok tree) : IsTree source elements frontMatter tree := by
  obtain ⟨header, children, position, rfl, hspan, hstart, hheader, hchildren⟩ := exists_of_buildTree_eq_ok h
  exact ⟨header, children, position, rfl, hspan, hstart, hheader,
    (placedNodes_yields source elements []).of_ok hchildren⟩

/-- The builder makes a document tree, or an element is at fault. -/
theorem buildTree_yields {elements : List Element} {frontMatter : Nat}
    (h : frontMatter = 0 ∨ frontMatter = FrontMatter.lineCount source) :
    Yields (IsTree source elements frontMatter) (buildTree source elements frontMatter) := by
  have hle : frontMatter ≤ (lines source).length := by
    have := FrontMatter.lineCount_le source
    omega
  obtain ⟨header, position, hheader, hspan, hstart, heq⟩ := exists_buildTree_eq hle
  rw [heq]
  exact (placedNodes_yields source elements []).map fun children _ hchildren =>
    ⟨header, children, position, rfl, hspan, hstart, hheader, hchildren⟩

/-- Below the document and its front matter, a walk finds the nodes of the elements. -/
theorem walk_root {frontMatter : Nat} {header children : List Node} {position : Option Position}
    {kind : String} (hheader : IsHeader source frontMatter header) (hroot : kind ≠ "root") (hyaml : kind ≠ "yaml") :
    ({ kind := "root", children := header ++ children, position := position } : Node).walk (.kind kind)
      = (Node.preorders children).filter (Node.Test.kind kind).accepts := by
  have hnone : (Node.preorders header).filter (Node.Test.kind kind).accepts = [] := by
    unfold IsHeader at hheader
    split at hheader
    · rw [hheader]
      rfl
    · obtain ⟨value, p, rfl, -⟩ := hheader
      simp [Node.Test.accepts, hyaml.symm]
  rw [Node.walk_eq_filter, Node.preorder_eq, Node.preorders_append, List.filter_cons_of_neg, List.filter_append, hnone,
    List.nil_append]
  simp [Node.Test.accepts, hroot.symm]

/-! ## Nodes with a place -/

/-- A sound node has no place, or one that can be reported on. -/
theorem IsSound.position_eq_none_or {n : Node} (h : IsSound source n) :
    n.position = none ∨ Node.isWellFormed n.position (some (Location.ofText source)) = true := by
  cases hpos : n.position with
  | none => exact Or.inl rfl
  | some p => exact Or.inr (h.span p hpos).isWellFormed

/-- A sound node is generated exactly if it has no place. -/
theorem IsSound.isGenerated_eq {n : Node} (h : IsSound source n) :
    n.isGenerated (some (Location.ofText source)) = !n.position.isSome := by
  rcases h.position_eq_none_or with hpos | hwell
  · rw [Node.isGenerated, hpos]
    rfl
  · have hsome : n.position.isSome = true := by
      cases hpos : n.position with
      | none => rw [hpos] at hwell; cases hwell
      | some p => rfl
    rw [Node.isGenerated, hwell, hsome]

theorem IsHeader.isSound {frontMatter : Nat} {header : List Node} (h : IsHeader source frontMatter header) :
    ∀ n ∈ Node.preorders header, IsSound source n := by
  unfold IsHeader at h
  split at h
  · subst h
    simp
  · obtain ⟨value, position, rfl, hspan, -⟩ := h
    intro n hn
    rw [Node.preorders_cons, Node.preorders_nil, List.append_nil, List.mem_singleton] at hn
    subst hn
    exact ⟨fun p hp => by cases hp; exact hspan, fun hchecked => by cases hchecked⟩

/-- All nodes of a document tree are sound. -/
theorem IsTree.isSound {elements : List Element} {frontMatter : Nat} {tree : Node}
    (h : IsTree source elements frontMatter tree) : ∀ n ∈ tree.preorder, IsSound source n := by
  obtain ⟨header, children, position, rfl, hspan, -, hheader, hchildren⟩ := h
  intro n hn
  rw [Node.preorder_eq, Node.preorders_append, List.mem_cons, List.mem_append] at hn
  rcases hn with rfl | hn | hn
  · exact ⟨fun p hp => by cases hp; exact hspan, fun hchecked => by cases hchecked⟩
  · exact hheader.isSound n hn
  · exact hchildren.isSound n hn

/-- The nodes of a document tree have the outlines of their origins. -/
theorem IsTree.map_outline {elements : List Element} {frontMatter : Nat} {tree : Node}
    (h : IsTree source elements frontMatter tree) : tree.preorder.map nodeOutline
      = (documentOrigins (lines source).length elements frontMatter).map (Origin.outline (lines source).length) := by
  obtain ⟨header, children, position, rfl, -, -, hheader, hchildren⟩ := h
  have hhead : (Node.preorders header).map nodeOutline
      = (if frontMatter = 0 then [] else [Origin.frontMatter]).map (Origin.outline (lines source).length) := by
    unfold IsHeader at hheader
    split at hheader
    · rw [hheader, if_pos ‹_›]
      rfl
    · obtain ⟨value, p, rfl, -, -⟩ := hheader
      rw [if_neg ‹_›]
      rfl
  rw [documentOrigins, Node.preorder_eq, Node.preorders_append, List.map_cons, List.map_append, hhead,
    hchildren.map_outline, List.map_cons, List.map_append]
  rfl

/-- Whatever the elements are, and whatever lines they claim, no place is asked for that the source does not have. Each
node of the tree has no place or one that can be reported on, so it is generated exactly if it has none; and these nodes
are the parts of lines, the blocks whose lines lie outside the source, and what is below such a block. -/
theorem buildTree_places {elements : List Element} {frontMatter : Nat}
    (h : frontMatter = 0 ∨ frontMatter = FrontMatter.lineCount source) :
    (∀ e, buildTree source elements frontMatter ≠ .error (.outOfRange e)) ∧
    (∀ i, buildTree source elements frontMatter ≠ .error (.noSuchLine i)) ∧
    ∀ tree, buildTree source elements frontMatter = .ok tree →
      (∀ n ∈ tree.preorder, n.position = none ∨ Node.isWellFormed n.position (some (Location.ofText source)) = true) ∧
      (∀ n ∈ tree.preorder, n.isGenerated (some (Location.ofText source)) = true ↔ n.position = none) ∧
      tree.preorder.map (fun n => (n.kind, n.isGenerated (some (Location.ofText source))))
        = (documentOrigins (lines source).length elements frontMatter).map fun o =>
          (o.kind, !o.isPlaced (lines source).length) := by
  have hyields : Yields (IsTree source elements frontMatter) _ := buildTree_yields h
  refine ⟨fun e he => ?_, fun i hi => ?_, fun tree htree => ?_⟩
  · rw [he] at hyields
    exact hyields
  · rw [hi] at hyields
    exact hyields
  · have hisTree := hyields.of_ok htree
    have hsound := hisTree.isSound
    refine ⟨fun n hn => (hsound n hn).position_eq_none_or, fun n hn => ?_, ?_⟩
    · rw [(hsound n hn).isGenerated_eq]
      cases n.position <;> simp
    · have houtline := congrArg (List.map fun p : String × Bool => (p.1, !p.2)) hisTree.map_outline
      rw [List.map_map, List.map_map] at houtline
      refine (List.map_congr_left fun n hn => ?_).trans houtline
      rw [(hsound n hn).isGenerated_eq]
      rfl

/-- Below the front matter, a task in a quote that claims lines past the end of the source, and a break that claims them
in reverse. -/
theorem buildTree_places_task :
    FrontMatter.lineCount "---\na: 1\n---\n> - [x] b\n".toList = 3 ∧
    ∃ tree, buildTree "---\na: 1\n---\n> - [x] b\n".toList
        [{ kind := "blockquote", lines := some (3, 5), children := [
            { kind := "list_item", lines := some (3, 5), markup := "-", children := [
              { kind := "paragraph", lines := some (3, 5), children := [
                { kind := "inline", children := [{ kind := "text", content := "[x] b" }] }] },
              { kind := "hr", lines := some (4, 9) }] }] },
          { kind := "hr", lines := some (4, -2) }] 3 = .ok tree ∧
      (∀ n ∈ tree.preorder, n.position = none ∨
        Node.isWellFormed n.position (some (Location.ofText "---\na: 1\n---\n> - [x] b\n".toList)) = true) ∧
      tree.preorder.map (fun n => (n.kind, n.isGenerated (some (Location.ofText "---\na: 1\n---\n> - [x] b\n".toList))))
        = [("root", false), ("yaml", false), ("blockquote", false), ("listItem", false), ("paragraph", false),
          ("text", true), ("thematicBreak", true), ("thematicBreak", false)] := by
  have hcount : FrontMatter.lineCount "---\na: 1\n---\n> - [x] b\n".toList = 3 := by decide +kernel
  refine ⟨hcount, ?_⟩
  generalize htree : buildTree _ _ _ = answer
  have hok : answer.isOk = true := by
    rw [← htree]
    decide +kernel
  cases answer with
  | error e => cases hok
  | ok tree =>
    obtain ⟨hplaces, -, horigins⟩ := (buildTree_places (Or.inr hcount.symm)).2.2 tree htree
    exact ⟨tree, rfl, hplaces, horigins.trans (by decide +kernel)⟩

end MarkLint.Document

import MarkLint.Proofs.Document.Spots

/-!
# Checkboxes are taken from the text

A list item is marked by the checkbox in its source line, and the checkbox is taken from the text that the reader made
of this line (`HoldsLine`). The reader trims the text, so the two fail to agree on an item with nothing but a checkbox
and white space on its first line: it is marked, but the checkbox stays in the text (`IsBare`). All other items are
marked exactly if their checkbox is taken from the text (`buildTree_tasks`).
-/

namespace MarkLint.Document

open MarkLint.Markdown
open MarkLint.Text

/-! ## Checkboxes -/

/-- Can the character stand in a checkbox? -/
def isMark (c : Char) : Bool := isIndent c || c == 'x' || c == 'X'

/-- A checkbox is one mark in brackets with a space or a tab after it. -/
theorem checkbox?_eq_some_iff {t : List Char} {checked : Bool} {width : Nat} : checkbox? t = some (checked, width) ↔
    ∃ mark space rest, t = '[' :: mark :: ']' :: space :: rest ∧ isMark mark = true ∧ isIndent space = true ∧
      checked = (mark == 'x' || mark == 'X') ∧ width = 4 := by
  constructor
  · intro h
    unfold checkbox? at h
    split at h
    · rename_i mark space rest
      split at h
      · rename_i hmark
        rw [Bool.and_eq_true] at hmark
        cases h
        exact ⟨mark, space, rest, rfl, hmark.1, hmark.2, rfl, rfl⟩
      · cases h
    · cases h
  · rintro ⟨mark, space, rest, rfl, hmark, hspace, rfl, rfl⟩
    rw [checkbox?, if_pos (by rw [Bool.and_eq_true]; exact ⟨hmark, hspace⟩)]

/-- What follows a checkbox makes no difference to it. -/
theorem checkbox?_append {v : List Char} {box : Bool × Nat} (h : checkbox? v = some box) (tail : List Char) :
    checkbox? (v ++ tail) = some box := by
  obtain ⟨checked, width⟩ := box
  obtain ⟨mark, space, rest, rfl, hbox⟩ := checkbox?_eq_some_iff.1 h
  exact checkbox?_eq_some_iff.2 ⟨mark, space, rest ++ tail, rfl, hbox⟩

/-- The text is a checkbox without the white space after it, which the tail starts with. -/
def IsBare (v tail : List Char) : Prop :=
  ∃ mark space rest, v = ['[', mark, ']'] ∧ tail = space :: rest ∧ isMark mark = true ∧ isIndent space = true

/-- With blanks after it, only a bare text becomes a checkbox. -/
theorem isSome_checkbox?_append_iff {v tail : List Char} (h : checkbox? v = none) (htail : tail.all isBlank = true) :
    (checkbox? (v ++ tail)).isSome = true ↔ IsBare v tail := by
  constructor
  · intro hsome
    obtain ⟨⟨checked, width⟩, hbox⟩ := Option.isSome_iff_exists.1 hsome
    obtain ⟨mark, space, rest, heq, hmark, hspace, -, -⟩ := checkbox?_eq_some_iff.1 hbox
    -- the closing bracket is no blank, so it stands in the text
    have hlength : 3 ≤ v.length := by
      by_contra hshort
      have hclose : (v ++ tail)[2]? = some ']' := by rw [heq]; rfl
      rw [List.getElem?_append_right (by omega)] at hclose
      have hblank := List.all_eq_true.1 htail _ (List.mem_of_getElem? hclose)
      revert hblank
      decide
    obtain ⟨more, rfl⟩ : ['[', mark, ']'] <+: v :=
      List.prefix_of_prefix_length_le ⟨space :: rest, heq.symm⟩ (List.prefix_append v tail) hlength
    have hmore : more ++ tail = space :: rest := by simpa using heq
    cases more with
    | nil => exact ⟨mark, space, rest, rfl, hmore, hmark, hspace⟩
    | cons d more =>
      obtain ⟨rfl, -⟩ := List.cons.inj hmore
      have hbox : checkbox? (['[', mark, ']'] ++ d :: more) = some (mark == 'x' || mark == 'X', 4) :=
        checkbox?_eq_some_iff.2 ⟨mark, d, more, rfl, hmark, hspace, rfl, rfl⟩
      rw [hbox] at h
      cases h
  · rintro ⟨mark, space, rest, rfl, rfl, hmark, hspace⟩
    have hbox : checkbox? (['[', mark, ']'] ++ space :: rest) = some (mark == 'x' || mark == 'X', 4) :=
      checkbox?_eq_some_iff.2 ⟨mark, space, rest, rfl, hmark, hspace, rfl, rfl⟩
    rw [hbox]
    rfl

/-- The item is marked by a checkbox at a column of a line, with the rest of the line after it: the mark is that of the
checkbox, and the content of the item starts one character of white space after it. -/
structure MarkedBy (source : List Char) (item : Node) (i c : Nat) (rest : List Char) : Prop where
  box : ∃ l mark space, (lines source)[i]? = some l ∧ l.drop c = '[' :: mark :: ']' :: space :: rest ∧
    isMark mark = true ∧ isIndent space = true ∧ item.checked = some (mark == 'x' || mark == 'X')
  content : ∃ content ∈ item.children.head?, content.start? = some (Point.onLine (lines source) i (c + 4))

/-- An item that is made with a mark is marked by a checkbox. -/
theorem Spot.Builds.exists_markedBy {source : List Char} {s : Spot} {inner : List Node} {item : Node}
    (h : s.Builds source inner item) (hchecked : item.checked.isSome = true) :
    ∃ i c rest, MarkedBy source item i c rest := by
  obtain ⟨node, hnode, hmarked⟩ := h.exists_marked
  cases hmarked with
  | same =>
    rw [((blockData_yields s.element).of_ok hnode).2.2.2] at hchecked
    cases hchecked
  | @task paragraph more i c width l stop checked hch hkind hpos hi hbox =>
    obtain ⟨mark, space, rest, hline, hmark, hspace, rfl, rfl⟩ := checkbox?_eq_some_iff.1 hbox
    exact ⟨i, c, rest, ⟨l, mark, space, hi, hline, hmark, hspace, rfl⟩, _, rfl, rfl⟩

/-! ## The text of an item -/

/-- The text with which nodes open: the first text of a paragraph that is the first of them. -/
def openingText? (ns : List Node) : Option (List Char) :=
  match ns with
  | paragraph :: _ =>
    match paragraph.children with
    | text :: _ => if paragraph.kind = "paragraph" ∧ text.kind = "text" then text.value.map String.toList else none
    | [] => none
  | [] => none

/-- What the source has on the first line of the first node, from its start on. -/
def openingLine? (source : List Char) (ns : List Node) : Option (List Char) :=
  match ns.head?.bind Node.start? with
  | some start => ((lines source)[(start.line - 1).toNat]?).map fun l => l.drop (start.column - 1).toNat
  | none => none

/-- The nodes open with a text that is the line on which their paragraph starts, from there on, without the blanks of
the tail. -/
def HoldsLine (source : List Char) (ns : List Node) (v tail : List Char) : Prop :=
  openingText? ns = some v ∧ openingLine? source ns = some (v ++ tail) ∧ tail.all isBlank = true

instance (source : List Char) (ns : List Node) (v tail : List Char) : Decidable (HoldsLine source ns v tail) :=
  inferInstanceAs (Decidable (_ ∧ _ ∧ _))

/-- The second text is the first without a checkbox and the one character of white space after it. -/
def IsRemoved (v v' : List Char) : Prop :=
  ∃ mark space, v = '[' :: mark :: ']' :: space :: v' ∧ isMark mark = true ∧ isIndent space = true

theorem openingText?_eq_some {ns : List Node} {v : List Char} (h : openingText? ns = some v) :
    ∃ paragraph rest text more, ns = paragraph :: rest ∧ paragraph.kind = "paragraph" ∧
      paragraph.children = text :: more ∧ text.kind = "text" ∧ text.value = some (String.ofList v) := by
  unfold openingText? at h
  split at h
  · rename_i paragraph rest
    split at h
    · rename_i text more hchildren
      split at h
      · rename_i hkinds
        obtain ⟨value, hvalue, rfl⟩ := Option.map_eq_some_iff.1 h
        exact ⟨paragraph, rest, text, more, rfl, hkinds.1, hchildren, hkinds.2, by rw [hvalue, String.ofList_toList]⟩
      · cases h
    · cases h
  · cases h

/-- The text from which a checkbox is dropped. -/
theorem openingText?_dropCheckbox {paragraph text : Node} {rest more : List Node} {v : List Char}
    {position : Option Position} (hkind : paragraph.kind = "paragraph") (hchildren : paragraph.children = text :: more)
    (htext : text.kind = "text") (hvalue : text.value = some (String.ofList v)) :
    openingText? ({ paragraph with position := position, children := dropCheckbox paragraph.children } :: rest)
      = some (match checkbox? v with | some (_, width) => v.drop width | none => v) := by
  have hlist : (text.value.getD "").toList = v := by rw [hvalue, Option.getD_some, String.toList_ofList]
  rw [hchildren, dropCheckbox, if_pos htext]
  dsimp only
  rw [hlist]
  cases checkbox? v with
  | none => simp [openingText?, hkind, htext, hvalue]
  | some box => simp [openingText?, hkind, htext]

/-- The item is marked exactly if a checkbox is removed from its text, and its text stays as it is without a mark. -/
def TakesTogether (item : Node) (v v' : List Char) : Prop :=
  (item.checked.isSome = true ↔ IsRemoved v v') ∧ (item.checked = none → v' = v)

theorem IsRemoved.length_eq {v v' : List Char} (h : IsRemoved v v') : v.length = v'.length + 4 := by
  obtain ⟨mark, space, rfl, -⟩ := h
  rfl

theorem IsBare.length_eq {v tail : List Char} (h : IsBare v tail) : v.length = 3 := by
  obtain ⟨mark, space, rest, rfl, -⟩ := h
  rfl

variable {source : List Char}

/-- The line with which nodes open starts where their paragraph does. -/
theorem exists_position_of_openingLine? {paragraph : Node} {rest : List Node} {t : List Char}
    (h : openingLine? source (paragraph :: rest) = some t) (hspan : ∀ p ∈ paragraph.position, IsSpan source p) :
    ∃ i c l stop, paragraph.position = some ⟨some (Point.onLine (lines source) i c), stop⟩ ∧
      (lines source)[i]? = some l ∧ l.drop c = t := by
  unfold openingLine? at h
  split at h
  · rename_i start hstart
    obtain ⟨position, hpos, hpoint⟩ := Option.bind_eq_some_iff.1 (show paragraph.start? = some start from hstart)
    obtain ⟨i, c, l, j, d, m, hi, -, -, -, -, rfl⟩ := hspan position hpos
    cases hpoint
    rw [Point.toNat_line_onLine, Point.toNat_column_onLine, hi] at h
    exact ⟨i, c, l, _, hpos, hi, Option.some.inj h⟩
  · cases h

/-- An item that opens with the line of its paragraph is marked and loses its checkbox together, unless its text is a
bare checkbox: then it is marked and keeps its text. -/
theorem markTask_takesTogether {item : Node} {v tail : List Char} (hitem : item.checked = none)
    (hspan : ∀ paragraph ∈ item.children.head?, ∀ p ∈ paragraph.position, IsSpan source p)
    (h : HoldsLine source item.children v tail) : ∃ item' v', markTask (Sheet.ofText source) item = .ok item' ∧
      openingText? item'.children = some v' ∧ (TakesTogether item' v v' ↔ ¬ IsBare v tail) ∧
      (IsBare v tail → item'.checked.isSome = true ∧ v' = v) := by
  obtain ⟨htext, hopens, htail⟩ := h
  obtain ⟨paragraph, rest, text, more, hch, hkind, hchildren, htextKind, hvalue⟩ := openingText?_eq_some htext
  obtain ⟨i, c, l, stop, hpos, hi, hdrop⟩ :=
    exists_position_of_openingLine? (hch ▸ hopens) (hspan paragraph (by rw [hch]; rfl))
  have hmark := markTask_eq hch hkind hpos hi
  rw [hdrop] at hmark
  have hdropped {position : Option Position} :=
    @openingText?_dropCheckbox _ _ rest _ _ position hkind hchildren htextKind hvalue
  cases hbox : checkbox? v with
  | some box =>
    obtain ⟨checked, width⟩ := box
    obtain ⟨mark, space, v', rfl, hmarked, hspace, -, rfl⟩ := checkbox?_eq_some_iff.1 hbox
    have hbare : ¬ IsBare ('[' :: mark :: ']' :: space :: v') tail := fun hbare => by
      have := hbare.length_eq
      simp at this
    rw [checkbox?_append hbox] at hmark
    rw [hbox] at hdropped
    refine ⟨_, v', hmark, hdropped, iff_of_true ⟨iff_of_true rfl ⟨mark, space, rfl, hmarked, hspace⟩, ?_⟩ hbare,
      fun h => absurd h hbare⟩
    intro hnone
    cases hnone
  | none =>
    have hkept : ¬ IsRemoved v v := fun hremoved => by
      have := hremoved.length_eq
      omega
    rw [hbox] at hdropped
    by_cases hbare : IsBare v tail
    · obtain ⟨⟨checked, width⟩, hline⟩ :=
        Option.isSome_iff_exists.1 ((isSome_checkbox?_append_iff hbox htail).2 hbare)
      rw [hline] at hmark
      exact ⟨_, v, hmark, hdropped, iff_of_false (fun htogether => hkept (htogether.1.1 rfl)) (not_not_intro hbare),
        fun _ => ⟨rfl, rfl⟩⟩
    · have hline : checkbox? (v ++ tail) = none := by
        rw [← Option.not_isSome_iff_eq_none, isSome_checkbox?_append_iff hbox htail]
        exact hbare
      rw [hline] at hmark
      refine ⟨_, v, hmark, htext, iff_of_true ⟨?_, fun _ => rfl⟩ hbare, fun h => absurd h hbare⟩
      exact iff_of_false (by simp [hitem]) hkept

/-- The list items with a place are made at the spots of their elements, in document order. An item that opens with the
line of its paragraph is marked exactly if its checkbox and the character of white space after it are removed from its
text, and otherwise keeps its text, unless its text is a bare checkbox: then it is marked and keeps its text. -/
theorem buildTree_tasks {elements : List Element} {frontMatter : Nat} {tree : Node}
    (h : buildTree source elements frontMatter = .ok tree) :
    List.Forall₂ (fun s item => ∃ inner, s.Builds source inner item ∧ ∀ v tail, HoldsLine source inner v tail →
        ∃ v', openingText? item.children = some v' ∧ (TakesTogether item v v' ↔ ¬ IsBare v tail) ∧
          (IsBare v tail → item.checked.isSome = true ∧ v' = v))
      ((spots source [] elements).filter fun s => s.kind == "listItem")
      ((tree.walk (.kind "listItem")).filter hasPlace) := by
  refine (walk_spots h (by decide)).imp fun s item hs => ?_
  obtain ⟨hkind, inner, hbuilds⟩ := hs
  refine ⟨inner, hbuilds, fun v tail hholds => ?_⟩
  obtain ⟨-, node, hnode, hinner, hitem⟩ := hbuilds
  have hsound := ((placedNodes_yields source _ _).of_ok hinner).isSound
  obtain ⟨hnodeKind, -, -, hchecked⟩ := (blockData_yields s.element).of_ok hnode
  rw [readTask, if_pos (hnodeKind.trans hkind)] at hitem
  obtain ⟨item', v', hitem', htext, htogether⟩ := @markTask_takesTogether source
    { node with position := some (s.place source), children := inner } v tail hchecked
    (fun paragraph hfirst => (hsound paragraph (Node.mem_preorders_of_mem (List.mem_of_mem_head? hfirst))).span) hholds
  obtain rfl : item' = item := Except.ok.inj (hitem'.symm.trans hitem)
  exact ⟨v', htext, htogether⟩

/-- The paragraph of an item with one line of text. -/
def lineParagraph (text : String) : Element where
  kind := "paragraph"
  lines := some (0, 1)
  children := [{ kind := "inline", children := [{ kind := "text", content := text }] }]

/-- An item with one line of text. -/
def lineItem (text : String) : Element where
  kind := "list_item"
  lines := some (0, 1)
  markup := "-"
  children := [lineParagraph text]

/-- A list of one item with one line of text. -/
def lineList (text : String) : List Element :=
  [{ kind := "bullet_list", lines := some (0, 1), markup := "-", children := [lineItem text] }]

/-- The spot of this item. -/
def lineSpot (text : String) : Spot := ⟨[], lineItem text, 0, 0⟩

/-- The nodes inside the item open with a line if those that are built do. -/
theorem holdsLine_of_builds {text : String} {inner : List Node} {item : Node} {v tail : List Char}
    (h : (lineSpot text).Builds source inner item)
    (hdecide : (placedNodes (Sheet.ofText source) ((lineSpot text).inside source) [lineParagraph text]).toOption.map
      (fun inner => decide (HoldsLine source inner v tail)) = some true) : HoldsLine source inner v tail := by
  obtain ⟨-, -, -, hinner, -⟩ := h
  obtain ⟨inner', hinner', hholds⟩ := map_toOption_eq_some_iff.1 hdecide
  obtain rfl : inner' = inner := Except.ok.inj (hinner'.symm.trans hinner)
  exact of_decide_eq_true hholds

/-- A task with blanks at the end of its line is marked and loses its checkbox. -/
theorem buildTree_tasks_line : ∃ tree item, buildTree "- [x] a  ".toList (lineList "[x] a") 0 = .ok tree ∧
    (tree.walk (.kind "listItem")).filter hasPlace = [item] ∧ openingText? item.children = some "a".toList ∧
    TakesTogether item "[x] a".toList "a".toList := by
  have hspots : (spots "- [x] a  ".toList [] (lineList "[x] a")).filter (fun s => s.kind == "listItem")
      = [lineSpot "[x] a"] := rfl
  have hbuilt : (buildTree "- [x] a  ".toList (lineList "[x] a") 0).toOption.map (fun tree =>
      ((tree.walk (.kind "listItem")).filter hasPlace).map fun item => openingText? item.children)
        = some [some "a".toList] := by
    decide +kernel
  have hbare : ¬ IsBare "[x] a".toList "  ".toList := fun h => absurd h.length_eq (by decide)
  obtain ⟨tree, htree, hitems⟩ := map_toOption_eq_some_iff.1 hbuilt
  obtain ⟨item, hitem, htext⟩ := List.map_eq_singleton_iff.1 hitems
  refine ⟨tree, item, htree, hitem, htext, ?_⟩
  have htasks := buildTree_tasks htree
  rw [hspots, hitem, List.forall₂_cons] at htasks
  obtain ⟨⟨inner, hbuilds, hall⟩, -⟩ := htasks
  obtain ⟨v', hv', htogether, -⟩ := hall "[x] a".toList "  ".toList (holdsLine_of_builds hbuilds (by decide +kernel))
  obtain rfl : "a".toList = v' := Option.some.inj (htext.symm.trans hv')
  exact htogether.2 hbare

/-- An item with nothing but a checkbox and a blank is marked, but its checkbox stays in the text. -/
theorem not_takesTogether_bare : ∃ tree, buildTree "- [ ] ".toList (lineList "[ ]") 0 = .ok tree ∧
    ¬ List.Forall₂ (fun s item => ∃ inner, s.Builds "- [ ] ".toList inner item ∧
        ∀ v tail, HoldsLine "- [ ] ".toList inner v tail →
          ∃ v', openingText? item.children = some v' ∧ TakesTogether item v v')
      ((spots "- [ ] ".toList [] (lineList "[ ]")).filter fun s => s.kind == "listItem")
      ((tree.walk (.kind "listItem")).filter hasPlace) := by
  have hspots : (spots "- [ ] ".toList [] (lineList "[ ]")).filter (fun s => s.kind == "listItem")
      = [lineSpot "[ ]"] := rfl
  have hbuilt : (buildTree "- [ ] ".toList (lineList "[ ]") 0).toOption.map (fun tree =>
      ((tree.walk (.kind "listItem")).filter hasPlace).map fun item => (item.checked, openingText? item.children))
        = some [(some false, some "[ ]".toList)] := by
    decide +kernel
  obtain ⟨tree, htree, hitems⟩ := map_toOption_eq_some_iff.1 hbuilt
  obtain ⟨item, hitem, hdata⟩ := List.map_eq_singleton_iff.1 hitems
  obtain ⟨hchecked, htext⟩ := Prod.mk.inj hdata
  refine ⟨tree, htree, fun htasks => ?_⟩
  rw [hspots, hitem, List.forall₂_cons] at htasks
  obtain ⟨⟨inner, hbuilds, hall⟩, -⟩ := htasks
  obtain ⟨v', hv', htogether, -⟩ := hall "[ ]".toList " ".toList (holdsLine_of_builds hbuilds (by decide +kernel))
  obtain rfl : "[ ]".toList = v' := Option.some.inj (htext.symm.trans hv')
  exact absurd (htogether.1 (by rw [hchecked]; rfl)).length_eq (by decide)

end MarkLint.Document

import MarkLint.Document
import MarkLint.Proofs.Document.Placement
import MarkLint.Proofs.Node.MapPoints

/-!
# Documents with carriage returns

A carriage return at the end of a line takes part in nothing that a document is built from: it is blank, it ends white
space, and it is neither marker nor checkbox. So a text with a carriage return before each line feed has the same front
matter (`lineCount_withReturns`), and the same elements become the same nodes with shifted points
(`placedNodes_withReturns`). Only a list item that is passed up to the very end of its line is passed one column
further, which shows in no block that starts before the end of its line; `blockStarts` are the places where blocks
start.
-/

namespace MarkLint

open MarkLint.Text

/-! ## Front matter -/

namespace FrontMatter

theorem dropReturn_of_not_mem {l : List Char} (h : '\r' ∉ l) : dropReturn l = l := by
  have hlast : l.getLast? ≠ some '\r' := fun hlast => h (List.mem_of_getLast? hlast)
  rw [dropReturn, if_neg (by simpa using hlast)]

/-- The carriage return before a line feed is no part of a delimiter. -/
theorem isDelimiter_returned {l : List Char} (h : '\r' ∉ l) :
    isDelimiter (l ++ ['\r']) false = isDelimiter l false := by
  have hreturned : dropReturn (l ++ ['\r']) = l := by simp [dropReturn]
  simp only [isDelimiter, Bool.false_eq_true, if_false, hreturned, dropReturn_of_not_mem h]

/-- The first delimiter stands at the same index; the last line, which gets no carriage return, is asked as before. -/
theorem findDelimiter_returned : ∀ {ls : List (List Char)} (index : Nat), (∀ l ∈ ls, '\r' ∉ l) →
    findDelimiter index (returned ls) = findDelimiter index ls
  | [], _, _ => rfl
  | [_], _, _ => rfl
  | l :: l' :: ls, index, h => by
    have ih := @findDelimiter_returned (l' :: ls) (index + 1) fun m hm => h m (List.mem_cons_of_mem _ hm)
    have hrest : (returned (l' :: ls)).isEmpty = false := by cases ls <;> rfl
    rw [returned, findDelimiter, findDelimiter, ih, hrest, isDelimiter_returned (h l List.mem_cons_self)]
    rfl

/-- The front matter has as many lines. -/
theorem lineCount_withReturns {s : List Char} (h : '\r' ∉ s) : lineCount (withReturns s) = lineCount s := by
  have hlines : ∀ l ∈ lines s, '\r' ∉ l := fun l hl hmem => h (mem_of_mem_lines hmem hl)
  unfold lineCount
  rw [lines_withReturns]
  match lines s, hlines with
  | [], _ => rfl
  | [_], _ => rfl
  | [opening, second], hlines =>
    simp only [returned, isDelimiter_returned (hlines opening List.mem_cons_self)]
  | opening :: second :: next :: rest, hlines =>
    obtain ⟨m, ms, hrest⟩ : ∃ m ms, returned (next :: rest) = m :: ms := by cases rest <;> exact ⟨_, _, rfl⟩
    have hfind := @findDelimiter_returned (next :: rest) 2 fun l hl => hlines l (by simp_all)
    rw [hrest] at hfind
    simp only [returned, hrest, isDelimiter_returned (hlines opening (by simp)),
      isDelimiter_returned (hlines second (by simp)), hfind, List.isEmpty_cons]

/-- What is read as Markdown is the same text, with its carriage returns. -/
theorem hide_withReturns (n : Nat) (s : List Char) :
    hide n (withReturns s) = List.replicate n '\n' ++ withReturns (unlines ((lines s).drop n)) := by
  rw [hide_eq, lines_withReturns, drop_returned,
    unlines_returned fun l hl => not_mem_of_mem_lines (List.mem_of_mem_drop hl)]

/-- A reader that ignores carriage returns before line feeds is given the same text. -/
theorem joinBreaks_hide_withReturns (n : Nat) {s : List Char} (h : '\r' ∉ s) :
    joinBreaks (hide n (withReturns s)) = joinBreaks (hide n s) := by
  have hfront : '\r' ∉ List.replicate n '\n' := fun hmem => by cases List.eq_of_mem_replicate hmem
  have hrest : '\r' ∉ unlines ((lines s).drop n) := by
    rcases Nat.lt_or_ge n (lines s).length with hn | hn
    · rw [← drop_lineStart hn]
      exact fun hmem => h (List.mem_of_mem_drop hmem)
    · rw [List.drop_eq_nil_of_le hn]
      exact List.not_mem_nil
  rw [hide_withReturns, hide_eq, joinBreaks_append hfront, joinBreaks_append hfront,
    joinBreaks_withReturns hrest, joinBreaks_of_not_mem hrest]

end FrontMatter

/-! ## Lines and their columns -/

namespace Document

theorem checkbox?_eq_none {t : List Char} (h : ¬ ∃ c d rest, t = '[' :: c :: ']' :: d :: rest) :
    checkbox? t = none := by
  unfold checkbox?
  split
  · exact absurd ⟨_, _, _, rfl⟩ h
  · rfl

/-- A carriage return does not stand for the white space after a checkbox. -/
theorem checkbox?_append_return (t : List Char) : checkbox? (t ++ ['\r']) = checkbox? t := by
  by_cases ht : ∃ c d rest, t = '[' :: c :: ']' :: d :: rest
  · obtain ⟨c, d, rest, rfl⟩ := ht
    rfl
  · rw [checkbox?_eq_none ht]
    by_cases hreturn : ∃ c d rest, t ++ ['\r'] = '[' :: c :: ']' :: d :: rest
    · obtain ⟨c, d, rest, heq⟩ := hreturn
      -- Only the text with its return has four characters, if that is the fourth: no white space stands there.
      rcases List.eq_nil_or_concat rest with rfl | ⟨before, last, rfl⟩
      · obtain ⟨-, hd⟩ := List.append_inj' (show t ++ ['\r'] = ['[', c, ']'] ++ [d] from heq) rfl
        rw [heq, ← (List.cons.inj hd).1]
        simp [checkbox?, show isIndent '\r' = false by decide]
      · obtain ⟨ht', -⟩ := List.append_inj'
          (show t ++ ['\r'] = ('[' :: c :: ']' :: d :: before) ++ [last] from by simpa using heq) rfl
        exact absurd ⟨c, d, before, ht'⟩ ht
    · exact checkbox?_eq_none hreturn

end Document

namespace Text.Returns

open MarkLint.Document

variable {l l' : List Char} {column line : Nat}

theorem trimEnd_eq (h : Returns l l') : trimEnd l' = trimEnd l := by
  cases h with
  | same => rfl
  | returned => exact trimEnd_append (by decide) l

theorem isBlankText_eq (h : Returns l l') : isBlankText l' = isBlankText l := by
  cases h with
  | same => rfl
  | returned => simp [isBlankText, show isBlank '\r' = true by decide]

theorem skipIndent_eq (h : Returns l l') (column : Nat) : skipIndent l' column = skipIndent l column := by
  have htake : ∀ t : List Char, (t ++ ['\r']).takeWhile isIndent = t.takeWhile isIndent := by
    intro t
    induction t with
    | nil => rfl
    | cons c t ih => rw [List.cons_append, List.takeWhile_cons, List.takeWhile_cons, ih]
  cases h with
  | same => rfl
  | returned =>
    rcases Nat.lt_or_ge l.length column with hlong | hle
    · rw [skipIndent, skipIndent, List.drop_eq_nil_of_le (Nat.le_of_lt hlong), List.drop_eq_nil_of_le]
      rw [List.length_append, List.length_singleton]
      exact hlong
    · rw [skipIndent, skipIndent, List.drop_append_of_le_length hle, htake]

/-- A list item has the same container. -/
theorem ofMarker_eq (h : Returns l l') (line column width : Nat) :
    Container.ofMarker l' line column width = Container.ofMarker l line column width := by
  rw [Container.ofMarker, Container.ofMarker, h.skipIndent_eq, h.trimEnd_eq]

/-- A container is passed up to the same column, if this is not the end of the line. -/
theorem skip_eq (h : Returns l l') {c : Container} (hlt : c.skip l line column < l.length) :
    c.skip l' line column = c.skip l line column := by
  cases c with
  | quote =>
    have hmark : l'[skipIndent l column]? = some '>' ↔ l[skipIndent l column]? = some '>' := by
      cases h with
      | same => rfl
      | returned =>
        rcases Nat.lt_or_ge (skipIndent l column) l.length with hin | hout
        · rw [List.getElem?_append_left hin]
        · simp [List.getElem?_append_right hout, List.getElem?_eq_none hout, List.getElem?_singleton]
    simp only [Container.skip, h.skipIndent_eq, hmark]
  | item startLine indent =>
    have hlength := h.length_le
    simp only [Container.skip, h.skipIndent_eq] at hlt ⊢
    split
    -- An item on the line of its marker is passed up to the end of the line at most, which moves with the return.
    · rw [if_pos ‹_›] at hlt
      omega
    · rfl

/-- Containers are passed up to the same column, if this is not the end of the line. -/
theorem foldl_skip_eq (h : Returns l l') : ∀ {cs : List Container} {column : Nat}, column ≤ l.length →
    cs.foldl (fun column c => c.skip l line column) column < l.length →
    cs.foldl (fun column c => c.skip l' line column) column = cs.foldl (fun column c => c.skip l line column) column
  | [], _, _, _ => rfl
  | c :: cs, column, hle, hlt => by
    rw [List.foldl_cons] at hlt ⊢
    have hskip := @Container.skip_le_length l column line hle c
    rw [h.skip_eq (Nat.lt_of_le_of_lt (Container.le_foldl_skip cs hskip) hlt)]
    exact foldl_skip_eq h hskip hlt

theorem skipAll_eq (h : Returns l l') {cs : List Container} (hlt : Container.skipAll l line cs < l.length) :
    Container.skipAll l' line cs = Container.skipAll l line cs :=
  h.foldl_skip_eq (Nat.zero_le _) hlt

/-- A checkbox on the line is read as before. -/
theorem checkbox?_eq (h : Returns l l') (hc : column ≤ l.length) :
    checkbox? (l'.drop column) = checkbox? (l.drop column) := by
  cases h with
  | same => rfl
  | returned => rw [List.drop_append_of_le_length hc, checkbox?_append_return]

/-- A block starts at the same column, if this is not the end of the line. -/
theorem startColumn_eq (h : Returns l l') {cs : List Container} {kind : String}
    (hlt : startColumn l line cs kind < l.length) : startColumn l' line cs kind = startColumn l line cs kind := by
  have hskip : Container.skipAll l line cs < l.length := Nat.lt_of_le_of_lt (skipAll_le_startColumn _ _ _ _) hlt
  simp only [startColumn, h.skipAll_eq hskip, h.skipIndent_eq]

end Text.Returns

namespace Document

open MarkLint.Markdown

/-! ## Places of blocks -/

variable {s : List Char}

/-- The lines of the text with carriage returns, by their indices. -/
theorem returns_line (s : List Char) (i : Nat) :
    Returns ((lines s).getD i []) ((lines (withReturns s)).getD i []) := by
  rw [lines_withReturns]
  exact returns_getD (lines s) i

theorem length_lines_withReturns (s : List Char) : (lines (withReturns s)).length = (lines s).length := by
  rw [lines_withReturns, length_returned]

/-- A block has the same lines. -/
theorem blockLines_withReturns (s : List Char) (mapped : Option (Int × Int)) :
    blockLines (Sheet.ofText (withReturns s)) mapped = blockLines (Sheet.ofText s) mapped := by
  have hfilled : ∀ first last, lastFilled (lines (withReturns s)) first last = lastFilled (lines s) first last :=
    fun _ _ => lastFilled_congr fun i _ _ => (returns_line s i).isBlankText_eq
  unfold blockLines
  simp only [lines_sheet, length_lines_withReturns, hfilled]
  rfl

/-- A column of a line, which has the same column in the text with carriage returns. -/
theorem onLine_withReturns {i c : Nat} (hi : i < (lines s).length) (hc : c ≤ ((lines s).getD i []).length) :
    Point.onLine (lines (withReturns s)) i c = (Point.onLine (lines s) i c).shift s :=
  (Point.shift_onLine (getElem?_line hi) hc).symm

/-- A block that starts before the end of its line has a shifted place. -/
theorem blockPlace_withReturns {cs : List Container} {kind : String} {first last : Nat}
    (hfirst : first < (lines s).length) (hlast : last < (lines s).length)
    (hcolumn : startColumn ((lines s).getD first []) first cs kind < ((lines s).getD first []).length) :
    blockPlace (withReturns s) cs kind first last = (blockPlace s cs kind first last).mapPoints (Point.shift s) := by
  have hstop := trimEnd_length_le ((lines s).getD last [])
  simp only [blockPlace, (returns_line s first).startColumn_eq hcolumn, (returns_line s last).trimEnd_eq,
    onLine_withReturns hfirst (Nat.le_of_lt hcolumn), Position.mapPoints, Option.map_some]
  rw [onLine_withReturns hlast]
  split
  · rename_i heq
    subst heq
    omega
  · exact hstop

/-- A block opens the same containers. -/
theorem opened_withReturns (s : List Char) (kind markup info : String) (line column : Nat) :
    opened (withReturns s) kind markup info line column = opened s kind markup info line column := by
  rw [opened, opened, (returns_line s line).ofMarker_eq]

/-! ## Checkboxes -/

theorem dropCheckbox_map_mapPoints (f : Point → Point) (ns : List Node) :
    dropCheckbox (ns.map (Node.mapPoints f)) = (dropCheckbox ns).map (Node.mapPoints f) := by
  cases ns with
  | nil => rfl
  | cons first rest =>
    simp only [List.map_cons, dropCheckbox, Node.kind_mapPoints, Node.value_mapPoints]
    split
    · split
      · rw [List.map_cons, Node.mapPoints_eq, Node.mapPoints_eq]
      · rfl
    · rfl

/-- The checkbox of an item is read as before. -/
theorem markTask_withReturns {item : Node}
    (h : ∀ paragraph ∈ item.children.head?, ∀ p ∈ paragraph.position, IsSpan s p) :
    markTask (Sheet.ofText (withReturns s)) (item.mapPoints (Point.shift s))
      = (markTask (Sheet.ofText s) item).map (Node.mapPoints (Point.shift s)) := by
  unfold markTask
  rw [Node.children_mapPoints]
  cases hchildren : item.children with
  | nil => rfl
  | cons paragraph rest =>
    simp only [List.map_cons, Node.kind_mapPoints, Node.position_mapPoints]
    split
    · cases hposition : paragraph.position with
      | none => rfl
      | some position =>
        obtain ⟨i, c, l, j, d, m, hi, hc, hj, hd, hle, rfl⟩ := h paragraph (by rw [hchildren]; rfl) _ hposition
        have hlt := (List.getElem?_eq_some_iff.1 hi).1
        have hlt' : i < (lines (withReturns s)).length := by rwa [length_lines_withReturns]
        have hreturns := returns_line s i
        simp only [Option.map_some, Position.mapPoints, Point.line_shift, Point.column_shift, Point.toNat_line_onLine,
          Point.toNat_column_onLine, line_ofText hlt, line_ofText hlt', bind, Except.bind,
          hreturns.checkbox?_eq ((getD_line hi).symm ▸ hc)]
        cases hbox : checkbox? (((lines s).getD i []).drop c) with
        | none => rfl
        | some box =>
          obtain ⟨checked, width⟩ := box
          have hwidth := checkbox?_add_le_length hbox
          have hwidth' := Nat.le_trans hwidth hreturns.length_le
          simp only [point_ofText (getElem?_line hlt) hwidth, point_ofText (getElem?_line hlt') hwidth',
            onLine_withReturns hlt hwidth]
          have hstart := Position.startingAt_shift s (Point.onLine (lines s) i (c + width))
            (some (Point.onLine (lines s) j d))
          rw [Option.map_some] at hstart
          simp only [pure, Except.pure, Except.map, Node.mapPoints_eq, List.map_cons, Option.map_some, hstart,
            dropCheckbox_map_mapPoints]
    · rfl

/-! ## Where blocks start -/

mutual

/-- The first lines of blocks inside the given containers, each with the column at which the block starts. Blocks whose
lines lie outside the source are left out, with all that is below them. -/
def blockStarts (source : List Char) (cs : List Container) : List Element → List (Nat × Nat)
  | [] => []
  | e :: rest => blockStartsOf source cs e ++ blockStarts source cs rest

/-- The starts of a block and of the blocks inside it. -/
def blockStartsOf (source : List Char) (cs : List Container) : Element → List (Nat × Nat)
  | ⟨kind, _, mapped, _, info, markup, _, _, children⟩ =>
    if isTransparent kind then blockStarts source cs children
    else if isInline kind then []
    else match blockLines (Sheet.ofText source) mapped with
      | none => []
      | some (first, _) =>
        let column := startColumn ((lines source).getD first []) first cs kind
        (first, column) :: blockStarts source (cs ++ opened source (blockKind kind) markup info first column) children

end

/-- The blocks start before the ends of their first lines. -/
def StartsOnLines (source : List Char) (starts : List (Nat × Nat)) : Prop :=
  ∀ p ∈ starts, p.2 < ((lines source).getD p.1 []).length

instance (source : List Char) (starts : List (Nat × Nat)) : Decidable (StartsOnLines source starts) :=
  inferInstanceAs (Decidable (∀ p ∈ starts, p.2 < ((lines source).getD p.1 []).length))

theorem StartsOnLines.of_append {a b : List (Nat × Nat)} (h : StartsOnLines s (a ++ b)) :
    StartsOnLines s a ∧ StartsOnLines s b :=
  List.forall_mem_append.1 h

theorem StartsOnLines.of_cons {p : Nat × Nat} {b : List (Nat × Nat)} (h : StartsOnLines s (p :: b)) :
    p.2 < ((lines s).getD p.1 []).length ∧ StartsOnLines s b :=
  List.forall_mem_cons.1 h

theorem blockStartsOf_transparent {cs : List Container} {e : Element} (h : isTransparent e.kind = true) :
    blockStartsOf s cs e = blockStarts s cs e.children := by
  cases e
  rw [blockStartsOf, if_pos h]

theorem blockStartsOf_block {cs : List Container} {e : Element} {first last : Nat} (ht : isTransparent e.kind = false)
    (hi : isInline e.kind = false) (hlines : blockLines (Sheet.ofText s) e.lines = some (first, last)) :
    blockStartsOf s cs e = (first, startColumn ((lines s).getD first []) first cs e.kind) ::
      blockStarts s (cs ++ opened s (blockKind e.kind) e.markup e.info first
        (startColumn ((lines s).getD first []) first cs e.kind)) e.children := by
  cases e
  rw [blockStartsOf, if_neg (by simpa using ht), if_neg (by simpa using hi), hlines]

/-! ## Nodes -/

/-- Parts of lines and what is below a block without a place have no points. -/
theorem map_mapPoints_of_plain {count : Nat} {os : List Origin} {ns : List Node} (f : Point → Point)
    (h : List.Forall₂ (Origin.Plain count) os (Node.preorders ns)) : ns.map (Node.mapPoints f) = ns := by
  refine Node.map_mapPoints_of_forall f fun n hn => ?_
  obtain ⟨_, _, hplain⟩ := exists_of_forall₂ h n hn
  exact hplain.2.2.1

/-- A block without a place has no points. -/
theorem mapPoints_of_bareNodes {e : Element} {node : Node} {inner : List Node} (f : Point → Point)
    (hnode : blockData e = .ok node) (hinner : bareNodes e.children = .ok inner) :
    ({ node with children := inner } : Node).mapPoints f = { node with children := inner } := by
  obtain ⟨-, -, hposition, -⟩ := (blockData_yields e).of_ok hnode
  rw [Node.mapPoints_eq, map_mapPoints_of_plain f ((bareNodes_yields 0 e.children).of_ok hinner), hposition]
  rfl

/-- A block is read for a checkbox as before. -/
theorem readTask_withReturns {block : Node} (h : ∀ n ∈ Node.preorders block.children, IsSound s n) :
    readTask (Sheet.ofText (withReturns s)) (block.mapPoints (Point.shift s))
      = (readTask (Sheet.ofText s) block).map (Node.mapPoints (Point.shift s)) := by
  unfold readTask
  rw [Node.kind_mapPoints]
  split
  · exact markTask_withReturns fun c hc => (h c (Node.mem_preorders_of_mem (List.mem_of_mem_head? hc))).span
  · rfl

/-- A block with its nodes inside is built at its shifted place, if what is inside it is. -/
theorem placedNode_withReturns {e : Element} {cs : List Container}
    (ih : ∀ ds, StartsOnLines s (blockStarts s ds e.children) → placedNodes (Sheet.ofText (withReturns s)) ds e.children
      = (placedNodes (Sheet.ofText s) ds e.children).map (List.map (Node.mapPoints (Point.shift s))))
    (h : StartsOnLines s (blockStartsOf s cs e)) : placedNode (Sheet.ofText (withReturns s)) cs e
      = (placedNode (Sheet.ofText s) cs e).map (List.map (Node.mapPoints (Point.shift s))) := by
  cases ht : isTransparent e.kind with
  | true =>
    rw [placedNode_transparent ht, placedNode_transparent ht]
    exact ih cs (blockStartsOf_transparent ht ▸ h)
  | false =>
    cases hi : isInline e.kind with
    | true =>
      rw [placedNode_inline hi, placedNode_inline hi]
      cases hn : inlineNode e with
      | error _ => rfl
      | ok n =>
        have hplain := (inlineNode_yields 0 true e).of_ok hn
        rw [← Node.preorders_singleton] at hplain
        exact congrArg Except.ok (map_mapPoints_of_plain _ hplain).symm
    | false =>
      cases hnode : blockData e with
      | error _ => rw [placedNode_fault ht hi hnode, placedNode_fault ht hi hnode]; rfl
      | ok node =>
        have hsame := blockLines_withReturns s e.lines
        cases hlines : blockLines (Sheet.ofText s) e.lines with
        | none =>
          rw [placedNode_bare ht hi hnode hlines, placedNode_bare ht hi hnode (hsame.trans hlines)]
          cases hinner : bareNodes e.children with
          | error _ => rfl
          | ok inner => exact congrArg (fun n => Except.ok [n]) (mapPoints_of_bareNodes _ hnode hinner).symm
        | some p =>
          obtain ⟨first, last⟩ := p
          obtain ⟨hle, hlast⟩ := blockLines_bounds hlines
          have hkind : node.kind = blockKind e.kind := ((blockData_yields e).of_ok hnode).1
          rw [blockStartsOf_block ht hi hlines] at h
          obtain ⟨hcolumn, hinside⟩ := h.of_cons
          rw [placedNode_block ht hi hnode hlines, placedNode_block ht hi hnode (hsame.trans hlines),
            (returns_line s first).startColumn_eq hcolumn, opened_withReturns,
            blockPlace_withReturns (Nat.lt_of_le_of_lt hle hlast) hlast hcolumn, ih _ (hkind ▸ hinside)]
          cases hinner : placedNodes (Sheet.ofText s) _ e.children with
          | error _ => rfl
          | ok inner =>
            -- The nodes inside are sound, so the line and column of a first paragraph are those of its text.
            have hsound := ((placedNodes_yields s e.children _).of_ok hinner).isSound
            have hread := @readTask_withReturns s
              { node with position := some (blockPlace s cs e.kind first last), children := inner } hsound
            rw [Node.mapPoints_eq] at hread
            show (readTask _ _ >>= _) = Except.map _ (readTask _ _ >>= _)
            rw [Option.map_some] at hread
            rw [hread]
            cases readTask (Sheet.ofText s)
              { node with position := some (blockPlace s cs e.kind first last), children := inner } <;> rfl

/-- The same elements become the same nodes at shifted places, if their blocks start before the ends of their lines. -/
theorem placedNodes_withReturns (es : List Element) : ∀ {cs : List Container}, StartsOnLines s (blockStarts s cs es) →
    placedNodes (Sheet.ofText (withReturns s)) cs es
      = (placedNodes (Sheet.ofText s) cs es).map (List.map (Node.mapPoints (Point.shift s))) := by
  induction es using Element.forest_induction with
  | nil => intro cs _; rfl
  | cons e rest ihe ihrest =>
    intro cs h
    rw [blockStarts] at h
    obtain ⟨he, hrest⟩ := h.of_append
    rw [placedNodes, placedNodes, placedNode_withReturns (fun ds => @ihe ds) he, ihrest hrest]
    cases placedNode (Sheet.ofText s) cs e with
    | error _ => rfl
    | ok nodes =>
      cases placedNodes (Sheet.ofText s) cs rest with
      | error _ => rfl
      | ok more => exact congrArg Except.ok List.map_append.symm

/-! ## The document -/

/-- Apart from the document itself and its front matter, the second tree has the nodes of the first, at shifted
places. -/
def IsShifted (s : List Char) (tree tree' : Node) : Prop :=
  ∀ kind, kind ≠ "root" → kind ≠ "yaml" →
    tree'.walk (.kind kind) = (tree.walk (.kind kind)).map (Node.mapPoints (Point.shift s))

theorem isShifted_root {source source' : List Char} {count count' : Nat} {header header' children : List Node}
    {position position' : Option Position} (hheader : IsHeader source count header)
    (hheader' : IsHeader source' count' header') :
    IsShifted s { kind := "root", children := header ++ children, position := position }
      { kind := "root", children := header' ++ children.map (Node.mapPoints (Point.shift s)),
        position := position' } := by
  intro kind hroot hyaml
  have hkind : (Node.Test.kind kind).accepts ∘ Node.mapPoints (Point.shift s) = (Node.Test.kind kind).accepts := by
    funext n
    simp [Node.Test.accepts]
  rw [walk_root hheader hroot hyaml, walk_root hheader' hroot hyaml, Node.preorders_map_mapPoints, List.filter_map,
    hkind]

/-- The document that is read from a text with carriage returns has the same nodes at shifted places, or the same
element is at fault. -/
theorem readWith_withReturns {markdown : List Char → List Element} (hsource : '\r' ∉ s)
    (hmarkdown : ∀ t u, joinBreaks t = joinBreaks u → markdown t = markdown u)
    (hstarts : StartsOnLines s (blockStarts s [] (markdown (FrontMatter.hide (FrontMatter.lineCount s) s)))) :
    (∃ e, readWith markdown s = .error e ∧ readWith markdown (withReturns s) = .error e) ∨
    ∃ tree tree', readWith markdown s = .ok ⟨s, tree⟩ ∧ readWith markdown (withReturns s) = .ok ⟨withReturns s, tree'⟩ ∧
      (∀ n ∈ tree.preorder, IsSound s n) ∧ IsShifted s tree tree' := by
  have hcount := FrontMatter.lineCount_withReturns hsource
  have helements := hmarkdown _ _ (FrontMatter.joinBreaks_hide_withReturns (FrontMatter.lineCount s) hsource)
  obtain ⟨header, position, hheader, -, -, hbuild⟩ := @exists_buildTree_eq s _ (FrontMatter.lineCount_le _)
  obtain ⟨header', position', hheader', -, -, hbuild'⟩ := @exists_buildTree_eq (withReturns s) _ (FrontMatter.lineCount_le _)
  rw [hcount] at hbuild' hheader'
  simp only [readWith, hcount, helements, hbuild, hbuild', placedNodes_withReturns _ hstarts]
  cases hplaced : placedNodes (Sheet.ofText s) [] (markdown (FrontMatter.hide (FrontMatter.lineCount s) s)) with
  | error e => exact Or.inl ⟨e, rfl, rfl⟩
  | ok children =>
    have hyields := @buildTree_yields s (markdown (FrontMatter.hide (FrontMatter.lineCount s) s)) _ (Or.inr rfl)
    rw [hbuild, hplaced] at hyields
    exact Or.inr ⟨_, _, rfl, rfl, hyields.isSound, isShifted_root hheader hheader'⟩

end Document
end MarkLint

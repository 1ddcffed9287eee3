import MarkLint.Proofs.Document.Columns
import MarkLint.Proofs.Location

/-!
# Reading places off a sheet

On the sheet of a source, everything that asks for a line and a column of it succeeds. So the place of a block
(`blockPosition_ofText`) and the container that it opens (`innerContainer_ofText`) are given outright, and reading a
checkbox (`markTask_ofText`) leaves a list item as it is or moves its paragraph to a later column of the same line
(`Marked`). `IsSpan` says that a position runs from one place of the source to the same or a later one; all of these are
spans, and a span can be reported on (`IsSpan.isWellFormed`).
-/

namespace MarkLint

open MarkLint.Text

/-! ## Spans -/

/-- The position runs from a column of a line to the same or a later column of it, or to a later line. -/
def IsSpan (source : List Char) (p : Position) : Prop :=
  ∃ i c l j d m, (lines source)[i]? = some l ∧ c ≤ l.length ∧ (lines source)[j]? = some m ∧ d ≤ m.length ∧
    (i < j ∨ i = j ∧ c ≤ d) ∧ p = ⟨some (Point.onLine (lines source) i c), some (Point.onLine (lines source) j d)⟩

/-- A span can be reported on. -/
theorem IsSpan.isWellFormed {source : List Char} {p : Position} (h : IsSpan source p) :
    Node.isWellFormed (some p) (some (Location.ofText source)) = true := by
  obtain ⟨i, c, l, j, d, m, hi, hc, hj, hd, hle, rfl⟩ := h
  have hoff : (Point.onLine (lines source) i c).offset ≤ (Point.onLine (lines source) j d).offset := by
    rcases hle with hij | ⟨rfl, hcd⟩
    · exact Int.le_of_lt (offset_onLine_lt hi hc hij (List.getElem?_eq_some_iff.1 hj).1)
    · exact offset_onLine_le hcd
  simp [Node.isWellFormed, Location.isResolvable_onLine hi hc, Location.isResolvable_onLine hj hd, hoff]

namespace Document

variable {source : List Char}

/-! ## Lines, points and spans of a sheet -/

@[simp] theorem lines_sheet (source : List Char) : (Sheet.ofText source).lines = lines source := rfl

theorem getElem?_line {i : Nat} (h : i < (lines source).length) :
    (lines source)[i]? = some ((lines source).getD i []) := by
  rw [List.getD_eq_getElem?_getD, List.getElem?_eq_getElem h]
  rfl

theorem getD_line {i : Nat} {l : List Char} (h : (lines source)[i]? = some l) : (lines source).getD i [] = l := by
  rw [List.getD_eq_getElem?_getD, h, Option.getD_some]

theorem line_ofText {i : Nat} (h : i < (lines source).length) :
    (Sheet.ofText source).line i = .ok ((lines source).getD i []) := by
  rw [Sheet.line, lines_sheet, getElem?_line h]

theorem point_ofText {i c : Nat} {l : List Char} (h : (lines source)[i]? = some l) (hc : c ≤ l.length) :
    (Sheet.ofText source).point i c = .ok (Point.onLine (lines source) i c) := by
  have hloc : (Sheet.ofText source).location = Location.ofText source := rfl
  simp only [Sheet.point, hloc, Location.toOffset_onLine h hc]
  rfl

theorem span_ofText {i c j d : Nat} {l m : List Char} (hi : (lines source)[i]? = some l) (hc : c ≤ l.length)
    (hj : (lines source)[j]? = some m) (hd : d ≤ m.length) :
    (Sheet.ofText source).span i c j d
      = .ok ⟨some (Point.onLine (lines source) i c), some (Point.onLine (lines source) j d)⟩ := by
  rw [Sheet.span, point_ofText hi hc, point_ofText hj hd]
  rfl

/-! ## The place of a block -/

/-- The place of a block whose first line and last filled line are given. -/
def blockPlace (source : List Char) (cs : List Container) (kind : String) (first last : Nat) : Position :=
  let column := startColumn ((lines source).getD first []) first cs kind
  let stop := (trimEnd ((lines source).getD last [])).length
  ⟨some (Point.onLine (lines source) first column),
    some (Point.onLine (lines source) last (if last = first then max stop column else stop))⟩

/-- The lines of a block lie in the source, the first before the last. -/
theorem blockLines_bounds {mapped : Option (Int × Int)} {first last : Nat}
    (h : blockLines (Sheet.ofText source) mapped = some (first, last)) :
    first ≤ last ∧ last < (lines source).length := by
  unfold blockLines at h
  split at h
  · cases h
  · rename_i f stop
    split at h
    · rename_i hin
      simp only [lines_sheet] at hin
      simp only [Option.some.injEq, Prod.mk.injEq] at h
      obtain ⟨rfl, rfl⟩ := h
      have := lastFilled_mem (lines source) f.toNat (max f (stop - 1)).toNat (by omega)
      simp only [lines_sheet]
      omega
    · cases h

/-- A block is placed exactly when its lines lie in the source. -/
theorem blockPosition_ofText (source : List Char) (cs : List Container) (kind : String) (mapped : Option (Int × Int)) :
    blockPosition (Sheet.ofText source) cs kind mapped
      = .ok ((blockLines (Sheet.ofText source) mapped).map fun p => blockPlace source cs kind p.1 p.2) := by
  cases h : blockLines (Sheet.ofText source) mapped with
  | none => simp [blockPosition, h]
  | some p =>
    obtain ⟨first, last⟩ := p
    obtain ⟨hle, hlast⟩ := blockLines_bounds h
    have hfirst : first < (lines source).length := by omega
    have hc := startColumn_le_length ((lines source).getD first []) first cs kind
    have hd := trimEnd_length_le ((lines source).getD last [])
    have hstop : (if last = first then max (trimEnd ((lines source).getD last [])).length
          (startColumn ((lines source).getD first []) first cs kind)
        else (trimEnd ((lines source).getD last [])).length) ≤ ((lines source).getD last []).length := by
      split
      · rename_i heq
        subst heq
        omega
      · exact hd
    simp only [blockPosition, h, line_ofText hfirst, line_ofText hlast, Option.map_some]
    show ((Sheet.ofText source).span _ _ _ _ >>= fun position => pure (some position)) = _
    rw [span_ofText (getElem?_line hfirst) hc (getElem?_line hlast) hstop]
    rfl

/-- The place of a block is a span. -/
theorem isSpan_blockPlace {cs : List Container} {kind : String} {first last : Nat} (hle : first ≤ last)
    (hlast : last < (lines source).length) : IsSpan source (blockPlace source cs kind first last) := by
  have hfirst : first < (lines source).length := by omega
  have hc := startColumn_le_length ((lines source).getD first []) first cs kind
  have hd := trimEnd_length_le ((lines source).getD last [])
  refine ⟨first, _, _, last, _, _, getElem?_line hfirst, hc, getElem?_line hlast, ?_, ?_, rfl⟩
  · split
    · rename_i heq
      subst heq
      omega
    · exact hd
  · rcases Nat.lt_or_eq_of_le hle with hlt | heq
    · exact Or.inl hlt
    · rw [if_pos heq.symm]
      exact Or.inr ⟨heq, Nat.le_max_right _ _⟩

/-! ## Containers -/

/-- The containers that a block of the given node kind opens for what is inside it, when it starts at a column of a
line. -/
def opened (source : List Char) (kind markup info : String) (line column : Nat) : List Container :=
  if kind = "blockquote" then [.quote]
  else if kind = "listItem" then
    [.ofMarker ((lines source).getD line []) line column (markup.length + info.length)]
  else []

theorem innerContainer_ofText {kind markup info : String} {position : Position} {i c : Nat}
    (h : position.start = some (Point.onLine (lines source) i c)) (hi : i < (lines source).length) :
    innerContainer (Sheet.ofText source) kind markup info position = .ok (opened source kind markup info i c) := by
  unfold innerContainer opened
  split
  · rfl
  · split
    · simp only [h, Point.toNat_line_onLine, Point.toNat_column_onLine, line_ofText hi]
      rfl
    · rfl

/-! ## Checkboxes -/

/-- The item is left as it is, or it is marked and its paragraph starts after the checkbox, on the same line. -/
inductive Marked (source : List Char) (item : Node) : Node → Prop
  | same : Marked source item item
  | task {paragraph : Node} {rest : List Node} {i c width : Nat} {l : List Char} {stop : Option Point}
      (checked : Bool) : item.children = paragraph :: rest → paragraph.kind = "paragraph" →
      paragraph.position = some ⟨some (Point.onLine (lines source) i c), stop⟩ →
      (lines source)[i]? = some l → checkbox? (l.drop c) = some (checked, width) →
      Marked source item { item with
        checked := some checked,
        children := { paragraph with
          position := some (Position.startingAt (Point.onLine (lines source) i (c + width)) stop),
          children := dropCheckbox paragraph.children } :: rest }

/-- An item whose paragraph starts at a column of a line is read for a checkbox there. -/
theorem markTask_eq {item paragraph : Node} {rest : List Node} {i c : Nat} {l : List Char} {stop : Option Point}
    (hch : item.children = paragraph :: rest) (hkind : paragraph.kind = "paragraph")
    (hpos : paragraph.position = some ⟨some (Point.onLine (lines source) i c), stop⟩)
    (hi : (lines source)[i]? = some l) : markTask (Sheet.ofText source) item = .ok (match checkbox? (l.drop c) with
      | none => item
      | some (checked, width) => { item with
          checked := some checked,
          children := { paragraph with
            position := some (Position.startingAt (Point.onLine (lines source) i (c + width)) stop),
            children := dropCheckbox paragraph.children } :: rest }) := by
  have hlt := (List.getElem?_eq_some_iff.1 hi).1
  simp only [markTask, hch, hkind, if_true, hpos, Point.toNat_line_onLine, Point.toNat_column_onLine, line_ofText hlt,
    getD_line hi, bind, Except.bind]
  cases hbox : checkbox? (l.drop c) with
  | none => rfl
  | some box =>
    obtain ⟨checked, width⟩ := box
    simp only [point_ofText hi (checkbox?_add_le_length hbox)]
    rfl

/-- Reading a checkbox succeeds if the item's paragraph has a span. -/
theorem markTask_ofText {item : Node}
    (h : ∀ paragraph ∈ item.children.head?, ∀ p ∈ paragraph.position, IsSpan source p) :
    ∃ item', markTask (Sheet.ofText source) item = .ok item' ∧ Marked source item item' := by
  cases hch : item.children with
  | nil => exact ⟨item, by simp only [markTask, hch]; rfl, .same⟩
  | cons paragraph rest =>
    by_cases hkind : paragraph.kind = "paragraph"
    · cases hpos : paragraph.position with
      | none => exact ⟨item, by simp only [markTask, hch, if_pos hkind, hpos]; rfl, .same⟩
      | some position =>
        obtain ⟨i, c, l, j, d, m, hi, hc, hj, hd, hle, rfl⟩ := h paragraph (by rw [hch]; rfl) position hpos
        refine ⟨_, markTask_eq hch hkind hpos hi, ?_⟩
        cases hbox : checkbox? (l.drop c) with
        | none => exact .same
        | some box => exact .task box.1 hch hkind hpos hi hbox
    · exact ⟨item, by simp only [markTask, hch, if_neg hkind]; rfl, .same⟩

end Document
end MarkLint

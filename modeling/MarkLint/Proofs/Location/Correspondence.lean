import MarkLint.Proofs.Location

/-!
# Offsets and places correspond

The offsets of a text and the columns of its lines, ends included, are two names for the same places
(`Location.ofText_corresponds`): each operation answers exactly on its own domain and refuses everything else, the two
conversions undo each other, and offsets are ordered as lines and columns are. The line of an offset is given by the
line feeds before it, and the column by the characters since the last of them (`Point.ofOffset`).
-/

namespace MarkLint

open MarkLint.Text

/-- Do the lines have such a line? Lines count from 1. -/
def HasLine (ls : List (List Char)) (line : Int) : Prop := 1 ≤ line ∧ line ≤ ls.length

/-- The width of a line: its characters and its end. -/
def lineWidth (ls : List (List Char)) (line : Int) : Int := (ls.getD (line - 1).toNat []).length + 1

/-- Do the lines have such a column? Columns count from 1, too. -/
def HasColumn (ls : List (List Char)) (line column : Int) : Prop :=
  HasLine ls line ∧ 1 ≤ column ∧ column ≤ lineWidth ls line

/-- The place of an offset: one line more than there are line feeds before it, and one column more than there are
characters since the last of them. -/
def Point.ofOffset (s : List Char) (x : Nat) : Point :=
  ⟨1 + (s.take x).count '\n', 1 + (afterBreak (s.take x)).length, x⟩

/-- A location addresses the text `s`. -/
structure Location.Corresponds (loc : Location) (s : List Char) : Prop where
  /-- The integers from 0 to the length of the text have a point. No other integer has, and no truth value. -/
  toPoint_ok : ∀ o p, loc.toPointOf o = .ok p ↔ ∃ x : Nat, x ≤ s.length ∧ o = .number x ∧ p = Point.ofOffset s x
  toPoint_error : ∀ o e, loc.toPointOf o = .error e ↔
    (∀ x : Nat, x ≤ s.length → o ≠ .number x) ∧ e = .offset o s.length
  /-- The lines of the text have an end, which is the offset of their last column, and no other number has. -/
  lineEnd_ok : ∀ line stop, loc.lineEnd line = .ok stop ↔
    HasLine (lines s) line ∧ loc.toOffset line (lineWidth (lines s) line) = .ok stop
  lineEnd_error : ∀ line e, loc.lineEnd line = .error e ↔
    ¬ HasLine (lines s) line ∧ e = .line line (lines s).length
  /-- The columns of the text have an offset, and no other pair has. -/
  toOffset_ok : ∀ line column, (∃ x, loc.toOffset line column = .ok x) ↔ HasColumn (lines s) line column
  toOffset_error : ∀ line column e, loc.toOffset line column = .error e ↔
    ¬ HasLine (lines s) line ∧ e = .line line (lines s).length ∨
    HasLine (lines s) line ∧ ¬ HasColumn (lines s) line column ∧ e = .column column (lineWidth (lines s) line) line
  toOffset_toPoint : ∀ x p, loc.toPoint x = .ok p → loc.toOffset p.line p.column = .ok x
  toPoint_toOffset : ∀ line column x, loc.toOffset line column = .ok x → loc.toPoint x = .ok ⟨line, column, x⟩
  lt_iff : ∀ x y p q, loc.toPoint x = .ok p → loc.toPoint y = .ok q →
    (x < y ↔ p.line < q.line ∨ p.line = q.line ∧ p.column < q.column)
  isResolvable_iff : ∀ p, loc.isResolvable p = true ↔
    HasColumn (lines s) p.line p.column ∧ loc.toOffset p.line p.column = .ok p.offset

namespace Location

variable {s : List Char}

/-! ## Lines and columns by their indices -/

/-- The lines of a text are those with an index. -/
theorem hasLine_iff {line : Int} :
    HasLine (lines s) line ↔ ∃ i l, (lines s)[i]? = some l ∧ line = ((i : Nat) : Int) + 1 := by
  constructor
  · rintro ⟨h1, hle⟩
    have hi : (line - 1).toNat < (lines s).length := by omega
    exact ⟨_, _, List.getElem?_eq_getElem hi, by omega⟩
  · rintro ⟨i, l, hi, rfl⟩
    have := (List.getElem?_eq_some_iff.1 hi).1
    exact ⟨by omega, by omega⟩

/-- The width of a line that is given by its index. -/
theorem lineWidth_eq {i : Nat} {l : List Char} (h : (lines s)[i]? = some l) :
    lineWidth (lines s) ((i : Int) + 1) = l.length + 1 := by
  rw [lineWidth, Int.add_sub_cancel, Int.toNat_natCast, List.getD_eq_getElem?_getD, h, Option.getD_some]

/-- The columns of a text are those with an index in a line, or the end of one. -/
theorem hasColumn_iff {line column : Int} : HasColumn (lines s) line column ↔
    ∃ i l c, (lines s)[i]? = some l ∧ c ≤ l.length ∧ line = ((i : Nat) : Int) + 1 ∧ column = ((c : Nat) : Int) + 1 := by
  constructor
  · rintro ⟨hline, h1, hle⟩
    obtain ⟨i, l, hi, rfl⟩ := hasLine_iff.1 hline
    rw [lineWidth_eq hi] at hle
    exact ⟨i, l, (column - 1).toNat, hi, by omega, rfl, by omega⟩
  · rintro ⟨i, l, c, hi, hc, rfl, rfl⟩
    refine ⟨hasLine_iff.2 ⟨i, l, hi, rfl⟩, by omega, ?_⟩
    rw [lineWidth_eq hi]
    omega

/-! ## From offsets to points -/

/-- The place of a column's offset is the column. -/
theorem ofOffset_lineStart {i c : Nat} {l : List Char} (h : (lines s)[i]? = some l) (hc : c ≤ l.length) :
    Point.ofOffset s (lineStart (lines s) i + c) = Point.onLine (lines s) i c := by
  rw [Point.ofOffset, count_take_lineStart h hc, afterBreak_take_lineStart h hc, List.length_take,
    Nat.min_eq_left hc, Point.onLine, Int.add_comm, Int.add_comm 1]

/-- Every offset of the text has a point. -/
theorem toPoint_natCast {x : Nat} (h : x ≤ s.length) : (ofText s).toPoint x = .ok (Point.ofOffset s x) := by
  obtain ⟨i, l, c, hi, hc, rfl⟩ := exists_column_of_le h
  rw [ofOffset_lineStart hi hc]
  exact toPoint_onLine hi hc

/-- Points are asked for at offsets of the text, or refused. -/
theorem toPoint_eq_ok_iff {x : Int} {p : Point} :
    (ofText s).toPoint x = .ok p ↔ ∃ n : Nat, n ≤ s.length ∧ x = n ∧ p = Point.ofOffset s n := by
  constructor
  · intro h
    have hx : 0 ≤ x ∧ x ≤ s.length := by
      by_contra hout
      have herror : (ofText s).toPoint x = .error (.offset (.number x) s.length) := if_neg hout
      rw [herror] at h
      cases h
    obtain ⟨n, rfl⟩ := Int.eq_ofNat_of_zero_le hx.1
    have hn : n ≤ s.length := by omega
    rw [toPoint_natCast hn] at h
    exact ⟨n, hn, rfl, (Except.ok.inj h).symm⟩
  · rintro ⟨n, hn, rfl, rfl⟩
    exact toPoint_natCast hn

/-- The point at an offset is a column of a line. -/
theorem exists_onLine_of_toPoint {x : Int} {p : Point} (h : (ofText s).toPoint x = .ok p) :
    ∃ i l c, (lines s)[i]? = some l ∧ c ≤ l.length ∧ p = Point.onLine (lines s) i c := by
  obtain ⟨n, hn, -, rfl⟩ := toPoint_eq_ok_iff.1 h
  obtain ⟨i, l, c, hi, hc, rfl⟩ := exists_column_of_le hn
  exact ⟨i, l, c, hi, hc, ofOffset_lineStart hi hc⟩

theorem toPointOf_eq_ok_iff {o : Offset} {p : Point} : (ofText s).toPointOf o = .ok p ↔
    ∃ x : Nat, x ≤ s.length ∧ o = .number x ∧ p = Point.ofOffset s x := by
  cases o with
  | number x => simpa [toPointOf] using toPoint_eq_ok_iff
  | truth b => simp [toPointOf]

/-- What is no offset of the text is refused. -/
theorem toPointOf_eq_error_iff {o : Offset} {e : OutOfRange} : (ofText s).toPointOf o = .error e ↔
    (∀ x : Nat, x ≤ s.length → o ≠ .number x) ∧ e = .offset o s.length := by
  have hsize : (ofText s).source.length = s.length := rfl
  cases o with
  | number x =>
    simp only [toPointOf, toPoint, hsize]
    split
    · rename_i hx
      obtain ⟨n, rfl⟩ := Int.eq_ofNat_of_zero_le hx.1
      exact ⟨fun h => (by cases h), fun h => absurd rfl (h.1 n (by omega))⟩
    · rename_i hx
      rw [Except.error.injEq]
      refine ⟨fun h => ⟨fun n hn heq => hx ?_, h.symm⟩, fun h => h.2.symm⟩
      obtain rfl : x = n := Offset.number.inj heq
      omega
  | truth b => simp [toPointOf, hsize, eq_comm]

/-! ## From lines to their ends -/

/-- What is no line is refused. -/
theorem lineEnd_of_not_hasLine {line : Int} (h : ¬ HasLine (lines s) line) :
    (ofText s).lineEnd line = .error (.line line (lines s).length) := by
  rw [lineEnd, lineCount_ofText]
  exact if_neg h

/-- A line ends at its last column. -/
theorem lineEnd_of_hasLine {line : Int} (h : HasLine (lines s) line) :
    (ofText s).lineEnd line = (ofText s).toOffset line (lineWidth (lines s) line) ∧
      ∃ stop, (ofText s).lineEnd line = .ok stop := by
  obtain ⟨i, l, hi, rfl⟩ := hasLine_iff.1 h
  rw [lineEnd_ofText hi, lineWidth_eq hi, toOffset_onLine hi (Nat.le_refl _)]
  exact ⟨rfl, _, rfl⟩

theorem lineEnd_eq_ok_iff {line stop : Int} : (ofText s).lineEnd line = .ok stop ↔
    HasLine (lines s) line ∧ (ofText s).toOffset line (lineWidth (lines s) line) = .ok stop := by
  by_cases hline : HasLine (lines s) line
  · rw [(lineEnd_of_hasLine hline).1]
    exact (and_iff_right hline).symm
  · rw [lineEnd_of_not_hasLine hline]
    exact ⟨fun h => (by cases h), fun h => absurd h.1 hline⟩

theorem lineEnd_eq_error_iff {line : Int} {e : OutOfRange} : (ofText s).lineEnd line = .error e ↔
    ¬ HasLine (lines s) line ∧ e = .line line (lines s).length := by
  by_cases hline : HasLine (lines s) line
  · obtain ⟨stop, hstop⟩ := (lineEnd_of_hasLine hline).2
    rw [hstop]
    exact ⟨fun h => (by cases h), fun h => absurd hline h.1⟩
  · rw [lineEnd_of_not_hasLine hline, Except.error.injEq, eq_comm]
    exact (and_iff_right hline).symm

/-! ## From columns to offsets -/

theorem toOffset_of_not_hasLine {line column : Int} (h : ¬ HasLine (lines s) line) :
    (ofText s).toOffset line column = .error (.line line (lines s).length) := by
  rw [toOffset, lineEnd_of_not_hasLine h]

/-- What is no column of a line is refused. -/
theorem toOffset_of_not_hasColumn {line column : Int} (hline : HasLine (lines s) line)
    (h : ¬ HasColumn (lines s) line column) :
    (ofText s).toOffset line column = .error (.column column (lineWidth (lines s) line) line) := by
  obtain ⟨i, l, hi, rfl⟩ := hasLine_iff.1 hline
  have hstart : (ofText s).starts.getD ((i : Int) + 1 - 1).toNat 0 = lineStart (lines s) i := by
    rw [Int.add_sub_cancel, Int.toNat_natCast, List.getD_eq_getElem?_getD,
      starts_getElem? (List.getElem?_eq_some_iff.1 hi).1, Option.getD_some]
  have hwidth : ((lineStart (lines s) i + l.length : Nat) : Int) - lineStart (lines s) i + 1 = l.length + 1 := by omega
  have hcolumn : ¬ (1 ≤ column ∧ column ≤ (l.length : Int) + 1) := fun hc =>
    h ⟨hline, by rwa [lineWidth_eq hi]⟩
  simp only [toOffset, lineEnd_ofText hi, hstart, hwidth, if_neg hcolumn, lineWidth_eq hi]

theorem exists_toOffset_iff {line column : Int} :
    (∃ x, (ofText s).toOffset line column = .ok x) ↔ HasColumn (lines s) line column := by
  constructor
  · rintro ⟨x, hx⟩
    by_contra h
    by_cases hline : HasLine (lines s) line
    · rw [toOffset_of_not_hasColumn hline h] at hx
      cases hx
    · rw [toOffset_of_not_hasLine hline] at hx
      cases hx
  · intro h
    obtain ⟨i, l, c, hi, hc, rfl, rfl⟩ := hasColumn_iff.1 h
    exact ⟨_, toOffset_onLine hi hc⟩

theorem toOffset_eq_error_iff {line column : Int} {e : OutOfRange} : (ofText s).toOffset line column = .error e ↔
    ¬ HasLine (lines s) line ∧ e = .line line (lines s).length ∨
    HasLine (lines s) line ∧ ¬ HasColumn (lines s) line column ∧
      e = .column column (lineWidth (lines s) line) line := by
  by_cases hline : HasLine (lines s) line
  · by_cases hcolumn : HasColumn (lines s) line column
    · obtain ⟨x, hx⟩ := exists_toOffset_iff.2 hcolumn
      simp [hx, hline, hcolumn]
    · simp [toOffset_of_not_hasColumn hline hcolumn, hline, hcolumn, eq_comm]
  · simp [toOffset_of_not_hasLine hline, hline, eq_comm]

/-- An offset is the offset of a column of a line. -/
theorem exists_onLine_of_toOffset {line column x : Int} (h : (ofText s).toOffset line column = .ok x) :
    ∃ i l c, (lines s)[i]? = some l ∧ c ≤ l.length ∧ (⟨line, column, x⟩ : Point) = Point.onLine (lines s) i c := by
  obtain ⟨i, l, c, hi, hc, rfl, rfl⟩ := hasColumn_iff.1 (exists_toOffset_iff.1 ⟨x, h⟩)
  rw [toOffset_onLine hi hc] at h
  exact ⟨i, l, c, hi, hc, by rw [← Except.ok.inj h]; rfl⟩

/-! ## There and back -/

theorem toOffset_of_toPoint {x : Int} {p : Point} (h : (ofText s).toPoint x = .ok p) :
    (ofText s).toOffset p.line p.column = .ok x := by
  obtain ⟨i, l, c, hi, hc, rfl⟩ := exists_onLine_of_toPoint h
  rw [← offset_of_toPoint h]
  exact toOffset_onLine hi hc

theorem toPoint_of_toOffset {line column x : Int} (h : (ofText s).toOffset line column = .ok x) :
    (ofText s).toPoint x = .ok ⟨line, column, x⟩ := by
  obtain ⟨i, l, c, hi, hc, heq⟩ := exists_onLine_of_toOffset h
  have hx : x = (Point.onLine (lines s) i c).offset := congrArg Point.offset heq
  rw [heq, hx]
  exact toPoint_onLine hi hc

/-- The points that resolve are the columns with their offsets. -/
theorem isResolvable_iff {p : Point} : (ofText s).isResolvable p = true ↔
    HasColumn (lines s) p.line p.column ∧ (ofText s).toOffset p.line p.column = .ok p.offset := by
  constructor
  · intro h
    have hoffset := toOffset_of_toPoint (toPoint_of_isResolvable h)
    exact ⟨exists_toOffset_iff.1 ⟨_, hoffset⟩, hoffset⟩
  · rintro ⟨-, hoffset⟩
    exact isResolvable_of_toPoint (toPoint_of_toOffset hoffset)

/-! ## Order -/

/-- Columns are ordered as their offsets are. -/
theorem offset_onLine_lt_iff {i j c d : Nat} {l m : List Char} (hi : (lines s)[i]? = some l) (hc : c ≤ l.length)
    (hj : (lines s)[j]? = some m) (hd : d ≤ m.length) :
    (Point.onLine (lines s) i c).offset < (Point.onLine (lines s) j d).offset ↔ i < j ∨ i = j ∧ c < d := by
  have hilt := (List.getElem?_eq_some_iff.1 hi).1
  have hjlt := (List.getElem?_eq_some_iff.1 hj).1
  rcases Nat.lt_trichotomy i j with hij | rfl | hij
  · have := offset_onLine_lt (d := d) hi hc hij hjlt
    omega
  · have hsame : (Point.onLine (lines s) i c).offset < (Point.onLine (lines s) i d).offset ↔ c < d := by
      simp only [Point.onLine]
      omega
    simp [hsame]
  · have := offset_onLine_lt (d := c) hj hd hij hilt
    omega

theorem lt_iff_of_toPoint {x y : Int} {p q : Point} (hp : (ofText s).toPoint x = .ok p)
    (hq : (ofText s).toPoint y = .ok q) : x < y ↔ p.line < q.line ∨ p.line = q.line ∧ p.column < q.column := by
  obtain rfl := offset_of_toPoint hp
  obtain rfl := offset_of_toPoint hq
  obtain ⟨i, l, c, hi, hc, rfl⟩ := exists_onLine_of_toPoint hp
  obtain ⟨j, m, d, hj, hd, rfl⟩ := exists_onLine_of_toPoint hq
  rw [offset_onLine_lt_iff hi hc hj hd]
  simp only [Point.onLine]
  omega

end Location
end MarkLint

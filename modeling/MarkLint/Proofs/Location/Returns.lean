import MarkLint.Document.Tree
import MarkLint.Proofs.Location.Correspondence
import MarkLint.Proofs.Text.Returns

/-!
# Places in a text with carriage returns

With a carriage return before each line feed a place of a text has the same line and column, and an offset that is
larger by the number of line feeds before it (`Point.shift_onLine`). Shifted so, a point resolves exactly if it did
before (`Location.isResolvable_shift`), a position can be reported on exactly if it could be
(`Node.isWellFormed_shift`), and between two offsets stands the same text, with its carriage returns
(`Location.slice_shift`).
-/

namespace MarkLint

open MarkLint.Text

variable {s : List Char}

/-- The point with its offset counted as if a carriage return stood before each line feed of the text. -/
def Point.shift (s : List Char) (p : Point) : Point :=
  { p with offset := p.offset + (s.take p.offset.toNat).count '\n' }

/-- The position with both ends changed. -/
def Position.mapPoints (f : Point → Point) (p : Position) : Position := ⟨p.start.map f, p.stop.map f⟩

namespace Point

@[simp] theorem line_shift (s : List Char) (p : Point) : (p.shift s).line = p.line := rfl

@[simp] theorem column_shift (s : List Char) (p : Point) : (p.shift s).column = p.column := rfl

theorem toNat_offset_shift {p : Point} (h : 0 ≤ p.offset) :
    (p.shift s).offset.toNat = p.offset.toNat + (s.take p.offset.toNat).count '\n' := by
  simp only [shift]
  omega

/-- Shifted points are those at the same columns. -/
theorem shift_onLine {i c : Nat} {l : List Char} (h : (lines s)[i]? = some l) (hc : c ≤ l.length) :
    (onLine (lines s) i c).shift s = onLine (lines (withReturns s)) i c := by
  have hi := (List.getElem?_eq_some_iff.1 h).1
  simp only [shift, onLine, Int.toNat_natCast, count_take_lineStart h hc, lines_withReturns, lineStart_returned hi]
  congr 1
  omega

/-- Points keep their order. -/
theorem offset_shift_lt_iff (s : List Char) (p q : Point) : (p.shift s).offset < (q.shift s).offset ↔
    p.offset < q.offset := by
  have hmono : ∀ {a b : Point}, a.offset ≤ b.offset → (a.shift s).offset ≤ (b.shift s).offset ∧
      (a.offset < b.offset → (a.shift s).offset < (b.shift s).offset) := by
    intro a b hab
    have hprefix : s.take a.offset.toNat <+: s.take b.offset.toNat := List.take_prefix_take_left (by omega)
    have hcount := hprefix.sublist.count_le '\n'
    simp only [shift]
    omega
  constructor
  · intro h
    by_contra hle
    have := (hmono (Int.not_lt.1 hle)).1
    omega
  · intro h
    exact (hmono (Int.le_of_lt h)).2 h

/-- Different points stay different. -/
theorem shift_injective (s : List Char) {p q : Point} (h : p.shift s = q.shift s) : p = q := by
  have hpq := offset_shift_lt_iff s p q
  have hqp := offset_shift_lt_iff s q p
  rw [h] at hpq hqp
  have hoffset : p.offset = q.offset := by omega
  have hline : (p.shift s).line = (q.shift s).line := by rw [h]
  have hcolumn : (p.shift s).column = (q.shift s).column := by rw [h]
  obtain ⟨line, column, offset⟩ := p
  rw [Point.mk.injEq]
  exact ⟨hline, hcolumn, hoffset⟩

/-- The shifted offset lies in the text with carriage returns exactly if the offset lies in the text. -/
theorem offset_shift_mem_iff (s : List Char) (p : Point) :
    (0 ≤ (p.shift s).offset ∧ (p.shift s).offset ≤ (withReturns s).length) ↔ 0 ≤ p.offset ∧ p.offset ≤ s.length := by
  rw [length_withReturns]
  simp only [shift]
  rcases Int.lt_or_le p.offset 0 with hneg | hpos
  · have hzero : p.offset.toNat = 0 := by omega
    simp only [hzero, List.take_zero, List.count_nil]
    omega
  · have hcount : (s.take p.offset.toNat).count '\n' ≤ s.count '\n' := (List.take_sublist _ _).count_le '\n'
    rcases Int.lt_or_le s.length p.offset with hlong | hle
    · rw [List.take_of_length_le (show s.length ≤ p.offset.toNat by omega)]
      omega
    · omega

end Point

namespace Location

/-- A shifted point resolves exactly if the point does. -/
theorem isResolvable_shift (s : List Char) (p : Point) :
    (ofText (withReturns s)).isResolvable (p.shift s) = (ofText s).isResolvable p := by
  rw [Bool.eq_iff_iff]
  constructor
  · intro h
    obtain ⟨h0, hle⟩ := (Point.offset_shift_mem_iff s p).1 (offset_of_isResolvable h)
    obtain ⟨q, hq⟩ := @exists_toPoint (ofText s) _ h0 hle
    obtain ⟨i, l, c, hi, hc, rfl⟩ := exists_onLine_of_toPoint hq
    obtain ⟨l', hi', hl'⟩ := exists_line_withReturns hi
    -- both points have the same offset, before and after, so they are the same point
    have hoffset : ((Point.onLine (lines s) i c).shift s).offset = (p.shift s).offset := by
      simp only [Point.shift, offset_of_toPoint hq]
    have hsame := toPoint_onLine hi' (Nat.le_trans hc hl'.length_le)
    rw [← Point.shift_onLine hi hc, hoffset, toPoint_of_isResolvable h] at hsame
    rw [Point.shift_injective s (Except.ok.inj hsame)]
    exact isResolvable_onLine hi hc
  · intro h
    obtain ⟨i, l, c, hi, hc, rfl⟩ := exists_onLine_of_toPoint (toPoint_of_isResolvable h)
    obtain ⟨l', hi', hl'⟩ := exists_line_withReturns hi
    rw [Point.shift_onLine hi hc]
    exact isResolvable_onLine hi' (Nat.le_trans hc hl'.length_le)

/-- The points of a text have shifted points. -/
theorem toPoint_shift {x : Int} {p : Point} (h : (ofText s).toPoint x = .ok p) :
    (ofText (withReturns s)).toPoint (p.shift s).offset = .ok (p.shift s) :=
  toPoint_of_isResolvable ((isResolvable_shift s p).trans (isResolvable_of_toPoint h))

/-- Between two shifted offsets stands the text between the offsets, with its carriage returns. -/
theorem slice_shift {p q : Point} (h0 : 0 ≤ p.offset) (hpq : p.offset ≤ q.offset) (hq : q.offset ≤ s.length) :
    (ofText (withReturns s)).slice (p.shift s).offset (q.shift s).offset
      = withReturns ((ofText s).slice p.offset q.offset) := by
  have hle : p.offset.toNat ≤ q.offset.toNat := by omega
  have hbefore : s.take p.offset.toNat = (s.take q.offset.toNat).take p.offset.toNat := by
    rw [List.take_take, Nat.min_eq_left hle]
  show ((withReturns s).take _).drop _ = withReturns ((s.take _).drop _)
  rw [Point.toNat_offset_shift h0, Point.toNat_offset_shift (Int.le_trans h0 hpq), take_withReturns (by omega), hbefore,
    drop_withReturns]
  rw [List.length_take]
  omega

end Location

/-! ## Positions -/

/-- A shifted position can be reported on exactly if the position can. -/
theorem Node.isWellFormed_shift (s : List Char) (position : Option Position) :
    isWellFormed (position.map (Position.mapPoints (Point.shift s))) (some (Location.ofText (withReturns s)))
      = isWellFormed position (some (Location.ofText s)) := by
  rcases position with _ | ⟨_ | start, _ | stop⟩
  · rfl
  · rfl
  · rfl
  · rfl
  · simp only [Option.map_some, Position.mapPoints, isWellFormed, Location.isResolvable_shift, gt_iff_lt,
      Point.offset_shift_lt_iff]

/-- A position that starts at a shifted point, and no earlier stops. -/
theorem Document.Position.startingAt_shift (s : List Char) (start : Point) (stop : Option Point) :
    startingAt (start.shift s) (stop.map (Point.shift s)) = (startingAt start stop).mapPoints (Point.shift s) := by
  cases stop with
  | none => rfl
  | some stop =>
    simp only [startingAt, MarkLint.Position.mapPoints, Option.map_some, Option.any_some, Point.offset_shift_lt_iff]
    split <;> rfl

end MarkLint

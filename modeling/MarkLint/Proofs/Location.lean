import MarkLint.Location
import MarkLint.Proofs.Text.Lines
import Mathlib.Data.List.Basic

/-!
# Lines of a text and its index

The index of a text holds the starts of its lines (`starts_ofText`). So a column of a line has an offset, which is in
the text (`toOffset_onLine`), and the point at this offset has that line and column (`toPoint_onLine`,
`isResolvable_onLine`). Offsets follow the order of lines, and of columns within a line (`offset_onLine_lt`,
`offset_onLine_le`).
-/

namespace MarkLint

open MarkLint.Text

/-- The place at a line and a column, both counted from 0, of a text with the lines `ls`. -/
def Point.onLine (ls : List (List Char)) (i c : Nat) : Point := ⟨i + 1, c + 1, (lineStart ls i + c : Nat)⟩

/-- The line of the place, counted from 0. -/
theorem Point.toNat_line_onLine (ls : List (List Char)) (i c : Nat) : ((onLine ls i c).line - 1).toNat = i := by
  simp [onLine]

/-- The column of the place, counted from 0. -/
theorem Point.toNat_column_onLine (ls : List (List Char)) (i c : Nat) : ((onLine ls i c).column - 1).toNat = c := by
  simp [onLine]

/-- Places on different lines come in the order of the lines. -/
theorem offset_onLine_lt {ls : List (List Char)} {l : List Char} {i j c d : Nat} (h : ls[i]? = some l)
    (hc : c ≤ l.length) (hij : i < j) (hj : j < ls.length) :
    (Point.onLine ls i c).offset < (Point.onLine ls j d).offset := by
  have := lineStart_add_length_lt h hij (Nat.le_of_lt hj)
  simp only [Point.onLine]
  omega

/-- Places on one line come in the order of the columns. -/
theorem offset_onLine_le {ls : List (List Char)} {i c d : Nat} (h : c ≤ d) :
    (Point.onLine ls i c).offset ≤ (Point.onLine ls i d).offset := by
  simp only [Point.onLine]
  omega

namespace Location

/-! ## The index -/

theorem startsAfter_eq (offset : Nat) : ∀ s : List Char,
    offset :: startsAfter offset s = (List.range (lines s).length).map fun i => offset + lineStart (lines s) i
  | [] => by simp [startsAfter, lines, pieces, piecesBy]
  | c :: s => by
    have ih := startsAfter_eq (offset + 1) s
    obtain ⟨l, ls, h⟩ := exists_lines_cons s
    by_cases hc : c = '\n'
    · subst hc
      have hstep : startsAfter offset ('\n' :: s) = (offset + 1) :: startsAfter (offset + 1) s := by simp [startsAfter]
      rw [hstep, ih, lines_break, List.length_cons, List.range_succ_eq_map, List.map_cons, List.map_map]
      congr 1
      refine List.map_congr_left fun i _ => ?_
      simp only [Function.comp_apply, lineStart_cons_succ, List.length_nil]
      omega
    · have hstep : startsAfter offset (c :: s) = startsAfter (offset + 1) s := by simp [startsAfter, hc]
      rw [h, List.length_cons, List.range_succ_eq_map, List.map_cons, List.map_map, List.cons.injEq] at ih
      rw [hstep, ih.2, lines_char hc h, List.length_cons, List.range_succ_eq_map, List.map_cons, List.map_map]
      congr 1
      refine List.map_congr_left fun i _ => ?_
      simp only [Function.comp_apply, lineStart_cons_succ, List.length_cons]
      omega

/-- The index holds the starts of the lines. -/
theorem starts_ofText (s : List Char) :
    (ofText s).starts = (List.range (lines s).length).map (lineStart (lines s)) := by
  simpa [ofText] using startsAfter_eq 0 s

/-- A text has as many lines as its index has starts. -/
@[simp] theorem lineCount_ofText (s : List Char) : (ofText s).lineCount = (lines s).length := by
  simp [lineCount, starts_ofText]

theorem starts_getElem? {s : List Char} {i : Nat} (h : i < (lines s).length) :
    (ofText s).starts[i]? = some (lineStart (lines s) i) := by
  simp [starts_ofText, h]

/-! ## Columns of a line -/

variable {s l : List Char} {i c : Nat}

/-- A line ends where its characters end. -/
theorem lineEnd_ofText (h : (lines s)[i]? = some l) :
    (ofText s).lineEnd (i + 1) = .ok ((lineStart (lines s) i + l.length : Nat) : Int) := by
  have hi := (List.getElem?_eq_some_iff.1 h).1
  have hcond : (1 : Int) ≤ i + 1 ∧ (i + 1 : Int) ≤ (ofText s).lineCount := by
    rw [lineCount_ofText]
    omega
  have hnext := lineStart_succ h
  rw [lineEnd, if_pos hcond]
  rcases Nat.lt_or_eq_of_le (Nat.succ_le_of_lt hi) with hlt | heq
  · have hs : (ofText s).starts[((i : Int) + 1).toNat]? = some (lineStart (lines s) (i + 1)) := starts_getElem? hlt
    rw [hs]
    simp only [Except.ok.injEq]
    omega
  · have hs : (ofText s).starts[((i : Int) + 1).toNat]? = none := by
      rw [List.getElem?_eq_none]
      simp [starts_ofText]
      omega
    have htotal := lineStart_length s
    have hsize : (ofText s).source.length = s.length := rfl
    rw [hs]
    simp only [hsize, Except.ok.injEq]
    rw [← heq, hnext] at htotal
    omega

/-- A column of a line, or the one past its last character, has an offset. -/
theorem toOffset_onLine (h : (lines s)[i]? = some l) (hc : c ≤ l.length) :
    (ofText s).toOffset (i + 1) (c + 1) = .ok (Point.onLine (lines s) i c).offset := by
  have hi := (List.getElem?_eq_some_iff.1 h).1
  have hstart : (ofText s).starts.getD ((i : Int) + 1 - 1).toNat 0 = lineStart (lines s) i := by
    rw [show ((i : Int) + 1 - 1).toNat = i by omega, List.getD_eq_getElem?_getD, starts_getElem? hi]
    rfl
  simp only [toOffset, lineEnd_ofText h, hstart, Point.onLine]
  rw [if_pos (by omega)]
  simp only [Except.ok.injEq]
  omega

/-- The starts up to an offset on line `i` are those of the first `i + 1` lines. -/
theorem takeWhile_starts {x : Int} (h : (lines s)[i]? = some l) (h0 : lineStart (lines s) i ≤ x)
    (hx : x ≤ lineStart (lines s) i + l.length) :
    ((ofText s).starts.takeWhile fun (k : Nat) => decide ((k : Int) ≤ x))
      = (List.range (i + 1)).map (lineStart (lines s)) := by
  have hi := (List.getElem?_eq_some_iff.1 h).1
  obtain ⟨m, hm⟩ : ∃ m, (lines s).length = (i + 1) + m := ⟨(lines s).length - (i + 1), by omega⟩
  rw [starts_ofText, hm, List.range_add, List.map_append, List.takeWhile_append_of_pos]
  · -- the line after `i`, if there is one, starts past the offset
    cases m with
    | zero => simp
    | succ m =>
      have hlt : lineStart (lines s) i + l.length < lineStart (lines s) (i + 1 + 0) :=
        lineStart_add_length_lt h (Nat.lt_succ_self i) (by omega)
      rw [List.range_succ_eq_map (n := m), List.map_cons, List.map_cons, List.takeWhile_cons_of_neg, List.append_nil]
      simp only [decide_eq_true_eq]
      omega
  · intro k hk
    obtain ⟨j, hj, rfl⟩ := List.mem_map.1 hk
    have hle : lineStart (lines s) j ≤ lineStart (lines s) i :=
      lineStart_mono (Nat.lt_succ_iff.1 (List.mem_range.1 hj)) (Nat.le_of_lt hi)
    simp only [decide_eq_true_eq]
    omega

/-- The point at an offset of line `i`. -/
theorem toPoint_ofText {x : Int} (h : (lines s)[i]? = some l) (h0 : lineStart (lines s) i ≤ x)
    (hx : x ≤ lineStart (lines s) i + l.length) :
    (ofText s).toPoint x = .ok ⟨i + 1, x - lineStart (lines s) i + 1, x⟩ := by
  have hle := lineStart_add_length_le h
  have hsize : (ofText s).source.length = s.length := rfl
  have hlast : ((List.range (i + 1)).map (lineStart (lines s))).getLastD 0 = lineStart (lines s) i := by
    simp [List.range_succ]
  rw [toPoint, if_pos (by omega)]
  simp only [takeWhile_starts h h0 hx, hlast, List.length_map, List.length_range, Int.natCast_succ]

/-- The point at an offset has the line and the column that the offset was taken from. -/
theorem toPoint_onLine (h : (lines s)[i]? = some l) (hc : c ≤ l.length) :
    (ofText s).toPoint (Point.onLine (lines s) i c).offset = .ok (Point.onLine (lines s) i c) := by
  have hoff : (Point.onLine (lines s) i c).offset = lineStart (lines s) i + c := Int.natCast_add ..
  have hcol : (lineStart (lines s) i + c : Int) - lineStart (lines s) i + 1 = c + 1 := by omega
  rw [toPoint_ofText h (by omega) (by omega), hoff, hcol]
  rfl

theorem isResolvable_onLine (h : (lines s)[i]? = some l) (hc : c ≤ l.length) :
    (ofText s).isResolvable (Point.onLine (lines s) i c) = true := by
  simp [isResolvable, toPoint_onLine h hc]

/-! ## Points that resolve -/

variable {loc : Location} {x : Int} {p : Point}

/-- The point at an offset resolves, and its offset is the given one. -/
theorem offset_of_toPoint (h : loc.toPoint x = .ok p) : p.offset = x := by
  unfold toPoint at h
  split at h
  · cases h; rfl
  · cases h

theorem isResolvable_of_toPoint (h : loc.toPoint x = .ok p) : loc.isResolvable p = true := by
  simp [isResolvable, offset_of_toPoint h, h]

/-- Offsets from 0 to the length of the text have a point. -/
theorem exists_toPoint (h0 : 0 ≤ x) (hx : x ≤ loc.source.length) : ∃ p, loc.toPoint x = .ok p := by
  simp [toPoint, h0, hx]

/-- The point at the offset of a point that resolves is the point itself. -/
theorem toPoint_of_isResolvable (h : loc.isResolvable p = true) : loc.toPoint p.offset = .ok p := by
  unfold isResolvable at h
  split at h
  · rename_i q hq
    rw [hq, beq_iff_eq.1 h]
  · cases h

/-- A point that resolves has an offset of the text. -/
theorem offset_of_isResolvable (h : loc.isResolvable p = true) : 0 ≤ p.offset ∧ p.offset ≤ loc.source.length := by
  unfold isResolvable toPoint at h
  split at h
  · rename_i q hq
    split at hq
    · assumption
    · cases hq
  · cases h

end Location
end MarkLint

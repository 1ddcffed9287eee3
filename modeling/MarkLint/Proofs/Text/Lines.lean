import MarkLint.Proofs.Text.Pieces

/-!
# Where lines start

`lineStart ls i` is the offset at which line `i` of a text with the lines `ls` starts. From there on the text is the
lines that are left (`drop_lineStart`), each line ends before the next one starts (`lineStart_add_length_lt`), and the
lines take up the whole text (`lineStart_length`). Before a column of a line stand the lines before it, each with its
line feed, and the characters of the line up to the column (`take_lineStart`).
-/

namespace MarkLint.Text

/-! ## Cutting a text into lines -/

theorem lines_ne_nil (s : List Char) : lines s ≠ [] := piecesBy_ne_nil _ s

theorem lines_length_pos (s : List Char) : 0 < (lines s).length := List.length_pos_iff.2 (lines_ne_nil s)

/-- The first line of a text and the others. -/
theorem exists_lines_cons (s : List Char) : ∃ l ls, lines s = l :: ls :=
  List.exists_cons_of_ne_nil (lines_ne_nil s)

/-- A line feed ends an empty line. -/
theorem lines_break (s : List Char) : lines ('\n' :: s) = [] :: lines s :=
  piecesBy_cons_sep (· == '\n') (beq_self_eq_true _) s

/-- Any other character opens the first line. -/
theorem lines_char {c : Char} {s l : List Char} {ls : List (List Char)} (hc : c ≠ '\n') (h : lines s = l :: ls) :
    lines (c :: s) = (c :: l) :: ls :=
  piecesBy_cons (· == '\n') (beq_eq_false_iff_ne.2 hc) h

/-- No character of the text is a line feed. -/
theorem forall_beq_of_not_mem {l : List Char} (h : '\n' ∉ l) : ∀ c ∈ l, (c == '\n') = false :=
  fun _ hc => beq_eq_false_iff_ne.2 fun heq => h (heq ▸ hc)

/-- The line before a line feed, and the lines after it. -/
theorem lines_append_break {l : List Char} (h : '\n' ∉ l) (s : List Char) : lines (l ++ '\n' :: s) = l :: lines s :=
  piecesBy_append_cons (· == '\n') (beq_self_eq_true _) s (forall_beq_of_not_mem h)

/-- A text without line feeds is its only line. -/
theorem lines_of_not_mem {l : List Char} (h : '\n' ∉ l) : lines l = [l] :=
  piecesBy_of_not_mem (· == '\n') (forall_beq_of_not_mem h)

/-- A text within a line stands between the last line of the text before it and the first line of the text after it. -/
theorem exists_lines_append {m : List Char} (hm : '\n' ∉ m) (s t : List Char) : ∃ before last next after,
    lines s = before ++ [last] ∧ lines t = next :: after ∧
      lines (s ++ (m ++ t)) = before ++ (last ++ (m ++ next)) :: after := by
  obtain ⟨before, last, first, rest, hs, hmiddle, happend⟩ := exists_piecesBy_append (· == '\n') (m ++ t) s
  obtain ⟨nothing, m', next, after, hm', ht, happend'⟩ := exists_piecesBy_append (· == '\n') t m
  rw [piecesBy_of_not_mem _ (forall_beq_of_not_mem hm)] at hm'
  obtain ⟨rfl, rfl⟩ : nothing = [] ∧ m' = m := by
    cases nothing with
    | nil => exact ⟨rfl, (List.cons.inj hm').1.symm⟩
    | cons p ps => cases ps <;> cases hm'
  obtain ⟨rfl, rfl⟩ := List.cons.inj (happend'.symm.trans hmiddle)
  exact ⟨before, last, next, after, hs, ht, happend⟩

/-- A text has one more line than line feeds. -/
theorem length_lines : ∀ s : List Char, (lines s).length = s.count '\n' + 1
  | [] => rfl
  | c :: s => by
    have ih := length_lines s
    by_cases hc : c = '\n'
    · rw [hc, lines_break, List.length_cons, ih, List.count_cons_self]
    · obtain ⟨l, ls, hs⟩ := exists_lines_cons s
      rw [lines_char hc hs, List.count_cons_of_ne hc, ← ih, hs]
      rfl

/-- Line feeds at the start of a text are empty lines. -/
theorem lines_replicate_append (n : Nat) (s : List Char) :
    lines (List.replicate n '\n' ++ s) = List.replicate n [] ++ lines s := by
  induction n with
  | zero => rfl
  | succ n ih => rw [List.replicate_succ, List.cons_append, lines_break, ih, List.replicate_succ, List.cons_append]

/-- A change of characters that keeps line feeds, and makes none, changes the characters of the lines. -/
theorem lines_map {f : Char → Char} (h : ∀ c, f c = '\n' ↔ c = '\n') : ∀ s : List Char,
    lines (s.map f) = (lines s).map (List.map f)
  | [] => rfl
  | c :: s => by
    obtain ⟨l, ls, hs⟩ := exists_lines_cons s
    have ih := lines_map h s
    by_cases hc : c = '\n'
    · rw [List.map_cons, (h c).2 hc, hc, lines_break, lines_break, ih]
      rfl
    · rw [hs] at ih
      rw [List.map_cons, lines_char (fun heq => hc ((h c).1 heq)) ih, lines_char hc hs]
      rfl

theorem unlines_singleton (l : List Char) : unlines [l] = l := List.intercalate_singleton

theorem unlines_cons_cons (l l' : List Char) (ls : List (List Char)) :
    unlines (l :: l' :: ls) = l ++ '\n' :: unlines (l' :: ls) := by
  rw [unlines, List.intercalate_cons_cons, ← unlines, List.append_assoc, List.singleton_append]

/-- The lines, joined again, are the text. -/
theorem unlines_lines : ∀ s : List Char, unlines (lines s) = s
  | [] => by simp [lines, pieces, piecesBy, unlines]
  | c :: s => by
    obtain ⟨l, ls, h⟩ := exists_lines_cons s
    have ih := unlines_lines s
    rw [h] at ih
    by_cases hc : c = '\n'
    · subst hc
      rw [lines_break, h, unlines_cons_cons, ih, List.nil_append]
    · rw [lines_char hc h]
      cases ls with
      | nil => rw [unlines_singleton] at ih ⊢; rw [ih]
      | cons l' ls =>
        rw [unlines_cons_cons] at ih ⊢
        rw [List.cons_append, ih]

/-- Lines that hold no line feeds are the lines of the text that they make. -/
theorem lines_unlines {ls : List (List Char)} (hne : ls ≠ []) (h : ∀ l ∈ ls, '\n' ∉ l) : lines (unlines ls) = ls :=
  pieces_intercalate hne h

/-- The characters of a line are characters of the text. -/
theorem mem_unlines {c : Char} {l : List Char} (hc : c ∈ l) : ∀ {ls : List (List Char)}, l ∈ ls → c ∈ unlines ls
  | [_], h => by
    obtain rfl := List.mem_singleton.1 h
    rwa [unlines_singleton]
  | m :: m' :: ls, h => by
    rw [unlines_cons_cons, List.mem_append, List.mem_cons]
    rcases List.mem_cons.1 h with rfl | h
    · exact Or.inl hc
    · exact Or.inr (Or.inr (mem_unlines hc h))

theorem mem_of_mem_lines {c : Char} {s l : List Char} (hc : c ∈ l) (hl : l ∈ lines s) : c ∈ s :=
  unlines_lines s ▸ mem_unlines hc hl

/-! ## Starts -/

/-- The offset at which line `i` starts, when `ls` are the lines of a text. -/
def lineStart : List (List Char) → Nat → Nat
  | _, 0 => 0
  | [], _ => 0
  | l :: ls, i + 1 => l.length + 1 + lineStart ls i

@[simp] theorem lineStart_zero (ls : List (List Char)) : lineStart ls 0 = 0 := by cases ls <;> rfl

@[simp] theorem lineStart_cons_succ (l : List Char) (ls : List (List Char)) (i : Nat) :
    lineStart (l :: ls) (i + 1) = l.length + 1 + lineStart ls i := rfl

/-- The next line starts past the line and its line feed. -/
theorem lineStart_succ : ∀ {ls : List (List Char)} {i : Nat} {l : List Char}, ls[i]? = some l →
    lineStart ls (i + 1) = lineStart ls i + l.length + 1
  | [], _, _, h => by simp at h
  | l' :: ls, 0, l, h => by
    simp only [List.getElem?_cons_zero, Option.some.injEq] at h
    subst h
    simp
  | l' :: ls, i + 1, l, h => by
    have ih := lineStart_succ (show ls[i]? = some l by simpa using h)
    simp only [lineStart_cons_succ, ih]
    omega

/-- A line ends before any later line starts; `j` may be the index past the last line. -/
theorem lineStart_add_length_lt {ls : List (List Char)} {i : Nat} {l : List Char} (h : ls[i]? = some l) :
    ∀ {j : Nat}, i < j → j ≤ ls.length → lineStart ls i + l.length < lineStart ls j
  | 0, hij, _ => by omega
  | j + 1, hij, hj => by
    rcases Nat.lt_succ_iff_lt_or_eq.1 hij with hlt | rfl
    · have ih := lineStart_add_length_lt h hlt (by omega)
      have hjl : ls[j]? = some ls[j] := List.getElem?_eq_getElem (by omega)
      rw [lineStart_succ hjl]
      omega
    · rw [lineStart_succ h]
      omega

/-- Lines start in their order. -/
theorem lineStart_mono {ls : List (List Char)} {i j : Nat} (hij : i ≤ j) (hj : j ≤ ls.length) :
    lineStart ls i ≤ lineStart ls j := by
  rcases Nat.lt_or_eq_of_le hij with h | rfl
  · have hi : ls[i]? = some ls[i] := List.getElem?_eq_getElem (by omega)
    have := lineStart_add_length_lt hi h hj
    omega
  · exact Nat.le_refl _

/-- From the start of a line on, the text is the lines that are left. -/
theorem drop_lineStart_unlines : ∀ {ls : List (List Char)} {i : Nat}, i < ls.length →
    (unlines ls).drop (lineStart ls i) = unlines (ls.drop i)
  | [], _, h => by simp at h
  | _ :: _, 0, _ => by simp
  | [_], i + 1, h => by simp at h
  | l :: l' :: ls, i + 1, h => by
    have ih := drop_lineStart_unlines (show i < (l' :: ls).length by simpa using h)
    rw [unlines_cons_cons, lineStart_cons_succ, Nat.add_assoc, ← List.drop_drop, List.drop_left, Nat.add_comm,
      List.drop_succ_cons, ih]
    rfl

theorem drop_lineStart {s : List Char} {i : Nat} (h : i < (lines s).length) :
    s.drop (lineStart (lines s) i) = unlines ((lines s).drop i) := by
  have := drop_lineStart_unlines h
  rwa [unlines_lines] at this

/-- The lines with their line feeds take up the whole text; the last line has none. -/
theorem lineStart_unlines_length : ∀ {ls : List (List Char)}, ls ≠ [] →
    lineStart ls ls.length = (unlines ls).length + 1
  | [], h => absurd rfl h
  | [l], _ => by simp [unlines]
  | l :: l' :: ls, _ => by
    have ih := lineStart_unlines_length (List.cons_ne_nil l' ls)
    rw [unlines_cons_cons, List.length_cons, lineStart_cons_succ, ih, List.length_append, List.length_cons]
    omega

theorem lineStart_length (s : List Char) : lineStart (lines s) (lines s).length = s.length + 1 := by
  rw [lineStart_unlines_length (lines_ne_nil s), unlines_lines]

/-- Every line ends inside the text. -/
theorem lineStart_add_length_le {s l : List Char} {i : Nat} (h : (lines s)[i]? = some l) :
    lineStart (lines s) i + l.length ≤ s.length := by
  have hi := (List.getElem?_eq_some_iff.1 h).1
  have := lineStart_add_length_lt h hi (Nat.le_refl _)
  rw [lineStart_length] at this
  omega

/-- From a column on stand the rest of its line, and a line feed if any more text does. -/
theorem exists_drop_lineStart {s l : List Char} {i c : Nat} (h : (lines s)[i]? = some l) (hc : c ≤ l.length) :
    ∃ rest, (rest = [] ∨ ∃ t, rest = '\n' :: t) ∧ s.drop (lineStart (lines s) i + c) = l.drop c ++ rest := by
  obtain ⟨hi, hl⟩ := List.getElem?_eq_some_iff.1 h
  rw [← List.drop_drop, drop_lineStart hi, List.drop_eq_getElem_cons hi, hl]
  cases (lines s).drop (i + 1) with
  | nil => exact ⟨[], Or.inl rfl, by rw [unlines_singleton, List.append_nil]⟩
  | cons l' ls => exact ⟨_, Or.inr ⟨_, rfl⟩, by rw [unlines_cons_cons, List.drop_append_of_le_length hc]⟩

/-- The characters of a line, and the end of the line, are those of the text from the start of the line on. -/
theorem getElem?_lineStart {s l : List Char} {i c : Nat} {d : Char} (h : (lines s)[i]? = some l) (hc : c ≤ l.length)
    (hd : d ≠ '\n') (hs : s[lineStart (lines s) i + c]? = some d) : l[c]? = some d := by
  obtain ⟨rest, hrest, hdrop⟩ := exists_drop_lineStart h hc
  rw [← Nat.add_zero (lineStart (lines s) i + c), ← List.getElem?_drop, hdrop] at hs
  rw [← Nat.add_zero c, ← List.getElem?_drop]
  cases hl : l.drop c with
  | cons e more =>
    rw [hl] at hs
    exact hs
  | nil =>
    rw [hl, List.nil_append] at hs
    rcases hrest with rfl | ⟨t, rfl⟩
    · cases hs
    · exact absurd (Option.some.inj hs).symm hd

/-- A line is a part of its text. -/
theorem infix_of_mem_lines {s l : List Char} (h : l ∈ lines s) : l <:+: s := by
  obtain ⟨i, hi⟩ := List.mem_iff_getElem?.1 h
  obtain ⟨rest, -, hdrop⟩ := exists_drop_lineStart hi (Nat.zero_le _)
  rw [Nat.add_zero, List.drop_zero] at hdrop
  exact ⟨s.take (lineStart (lines s) i), rest, by rw [List.append_assoc, ← hdrop, List.take_append_drop]⟩

/-! ## What stands before a column -/

/-- No line holds a line feed. -/
theorem not_mem_of_mem_lines : ∀ {s l : List Char}, l ∈ lines s → '\n' ∉ l
  | [], l, h => by
    obtain rfl : l = [] := by simpa [lines, pieces, piecesBy] using h
    exact List.not_mem_nil
  | c :: s, l, h => by
    obtain ⟨first, rest, hs⟩ := exists_lines_cons s
    have ih : ∀ m ∈ first :: rest, '\n' ∉ m := fun m hm => not_mem_of_mem_lines (hs ▸ hm)
    by_cases hc : c = '\n'
    · subst hc
      rw [lines_break, hs] at h
      rcases List.mem_cons.1 h with rfl | h
      · exact List.not_mem_nil
      · exact ih l h
    · rw [lines_char hc hs] at h
      rcases List.mem_cons.1 h with rfl | h
      · exact fun hmem => (List.mem_cons.1 hmem).elim (fun heq => hc heq.symm) (ih first List.mem_cons_self)
      · exact ih l (List.mem_cons_of_mem _ h)

/-- Lines, each with its line feed. -/
def closed (ls : List (List Char)) : List Char := ls.flatMap (· ++ ['\n'])

theorem closed_cons (l : List Char) (ls : List (List Char)) : closed (l :: ls) = (l ++ ['\n']) ++ closed ls :=
  List.flatMap_cons

theorem take_lineStart_unlines : ∀ {ls : List (List Char)} {i c : Nat} {l : List Char}, ls[i]? = some l →
    c ≤ l.length → (unlines ls).take (lineStart ls i + c) = closed (ls.take i) ++ l.take c
  | [], _, _, _, h, _ => by simp at h
  | [l'], 0, c, l, h, _ => by
    obtain rfl : l' = l := by simpa using h
    simp [unlines, closed]
  | [_], _ + 1, _, _, h, _ => by simp at h
  | l' :: m :: ls, 0, c, l, h, hc => by
    obtain rfl : l' = l := by simpa using h
    rw [lineStart_zero, Nat.zero_add, unlines_cons_cons, List.take_append_of_le_length hc]
    rfl
  | l' :: m :: ls, i + 1, c, l, h, hc => by
    have ih := @take_lineStart_unlines (m :: ls) i _ _ (by simpa using h) hc
    have hl : unlines (l' :: m :: ls) = (l' ++ ['\n']) ++ unlines (m :: ls) := by
      rw [unlines_cons_cons, List.append_assoc, List.singleton_append]
    have hs : lineStart (l' :: m :: ls) (i + 1) + c = (l' ++ ['\n']).length + (lineStart (m :: ls) i + c) := by
      simp only [lineStart_cons_succ, List.length_append, List.length_singleton]
      omega
    rw [hl, hs, List.take_length_add_append, ih, List.take_succ_cons, closed_cons, List.append_assoc (l' ++ ['\n'])]

/-- Before a column of a line stand the lines before it and the characters of the line up to the column. -/
theorem take_lineStart {s l : List Char} {i c : Nat} (h : (lines s)[i]? = some l) (hc : c ≤ l.length) :
    s.take (lineStart (lines s) i + c) = closed ((lines s).take i) ++ l.take c := by
  have := take_lineStart_unlines h hc
  rwa [unlines_lines] at this

/-- Lines with their line feeds hold as many line feeds as they are lines. -/
theorem count_closed : ∀ {ls : List (List Char)}, (∀ l ∈ ls, '\n' ∉ l) → (closed ls).count '\n' = ls.length
  | [], _ => rfl
  | l :: ls, h => by
    have ih := count_closed fun m hm => h m (List.mem_cons_of_mem _ hm)
    have hl : l.count '\n' = 0 := List.count_eq_zero.2 (h l List.mem_cons_self)
    rw [closed_cons, List.count_append, List.count_append, hl, ih, List.length_cons]
    simp only [List.count_singleton_self]
    omega

/-- As many line feeds stand before a column of a line as there are lines before it. -/
theorem count_take_lineStart {s l : List Char} {i c : Nat} (h : (lines s)[i]? = some l) (hc : c ≤ l.length) :
    (s.take (lineStart (lines s) i + c)).count '\n' = i := by
  have hi := (List.getElem?_eq_some_iff.1 h).1
  have hl : (l.take c).count '\n' = 0 :=
    List.count_eq_zero.2 fun hmem => not_mem_of_mem_lines (List.mem_of_getElem? h) (List.mem_of_mem_take hmem)
  have hbefore : (closed ((lines s).take i)).count '\n' = i := by
    rw [count_closed fun m hm => not_mem_of_mem_lines (List.mem_of_mem_take hm), List.length_take]
    omega
  rw [take_lineStart h hc, List.count_append, hbefore, hl, Nat.add_zero]

/-- What stands after the last line feed of a text. -/
def afterBreak (s : List Char) : List Char := (s.reverse.takeWhile (· ≠ '\n')).reverse

theorem afterBreak_append_of_not_mem {t : List Char} (ht : '\n' ∉ t) (s : List Char) :
    afterBreak (s ++ t) = afterBreak s ++ t := by
  have hall : ∀ c ∈ t.reverse, (decide (c ≠ '\n')) = true := fun c hc =>
    decide_eq_true fun heq => ht (heq ▸ List.mem_reverse.1 hc)
  rw [afterBreak, List.reverse_append, List.takeWhile_append_of_pos hall, List.reverse_append, List.reverse_reverse,
    afterBreak]

/-- Lines with their line feeds end in one, if there are any. -/
theorem afterBreak_closed (ls : List (List Char)) : afterBreak (closed ls) = [] := by
  rcases List.eq_nil_or_concat ls with rfl | ⟨before, l, rfl⟩
  · rfl
  · simp [afterBreak, closed]

/-- Between the last line feed and a column of a line stand the characters of the line up to the column. -/
theorem afterBreak_take_lineStart {s l : List Char} {i c : Nat} (h : (lines s)[i]? = some l) (hc : c ≤ l.length) :
    afterBreak (s.take (lineStart (lines s) i + c)) = l.take c := by
  have hl : '\n' ∉ l.take c := fun hmem =>
    not_mem_of_mem_lines (List.mem_of_getElem? h) (List.mem_of_mem_take hmem)
  rw [take_lineStart h hc, afterBreak_append_of_not_mem hl, afterBreak_closed, List.nil_append]

/-- Every offset before the start of the line past the last is on some line. -/
theorem exists_column : ∀ {ls : List (List Char)} {x : Nat}, x < lineStart ls ls.length →
    ∃ i l c, ls[i]? = some l ∧ c ≤ l.length ∧ x = lineStart ls i + c
  | [], x, h => by simp at h
  | l :: ls, x, h => by
    by_cases hx : x ≤ l.length
    · exact ⟨0, l, x, rfl, hx, by simp⟩
    · rw [List.length_cons, lineStart_cons_succ] at h
      obtain ⟨i, m, c, hi, hc, heq⟩ := @exists_column ls (x - (l.length + 1)) (by omega)
      refine ⟨i + 1, m, c, by simpa using hi, hc, ?_⟩
      rw [lineStart_cons_succ]
      omega

/-- Every offset of a text is a column of a line, or the end of one. -/
theorem exists_column_of_le {s : List Char} {x : Nat} (h : x ≤ s.length) :
    ∃ i l c, (lines s)[i]? = some l ∧ c ≤ l.length ∧ x = lineStart (lines s) i + c :=
  exists_column (by rw [lineStart_length]; omega)

end MarkLint.Text

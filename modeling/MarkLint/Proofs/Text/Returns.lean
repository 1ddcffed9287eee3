import MarkLint.Proofs.Text.Blank
import MarkLint.Proofs.Text.Breaks

/-!
# Line breaks of two characters

`withReturns` puts a carriage return before each line feed of a text. Every line but the last then ends in a carriage
return (`lines_withReturns`) and starts as many characters later as there are lines before it (`lineStart_returned`),
and what stands before and after an offset is the same text with its own carriage returns (`take_withReturns`,
`drop_withReturns`). `joinBreaks` gives the text back (`joinBreaks_withReturns`).
-/

namespace MarkLint.Text

/-- The text with a carriage return before each line feed. -/
def withReturns (s : List Char) : List Char := s.flatMap fun c => if c = '\n' then ['\r', '\n'] else [c]

/-- The lines, of which each but the last ends in one more carriage return. -/
def returned : List (List Char) → List (List Char)
  | [] => []
  | [l] => [l]
  | l :: l' :: ls => (l ++ ['\r']) :: returned (l' :: ls)

/-- The second line is the first, perhaps with one more carriage return at its end. -/
inductive Returns (l : List Char) : List Char → Prop
  | same : Returns l l
  | returned : Returns l (l ++ ['\r'])

/-! ## Texts -/

variable {s t : List Char}

theorem withReturns_break (s : List Char) : withReturns ('\n' :: s) = '\r' :: '\n' :: withReturns s := by
  simp [withReturns]

theorem withReturns_char {c : Char} (hc : c ≠ '\n') (s : List Char) : withReturns (c :: s) = c :: withReturns s := by
  simp [withReturns, hc]

theorem withReturns_append (s t : List Char) : withReturns (s ++ t) = withReturns s ++ withReturns t :=
  List.flatMap_append

/-- A text without line feeds is left as it is. -/
theorem withReturns_of_not_mem : ∀ {s : List Char}, '\n' ∉ s → withReturns s = s
  | [], _ => rfl
  | c :: s, h => by
    have hc : c ≠ '\n' := fun heq => h (heq ▸ List.mem_cons_self)
    rw [withReturns_char hc, withReturns_of_not_mem fun hmem => h (List.mem_cons_of_mem _ hmem)]

/-- The text grows by one character for each of its line feeds. -/
theorem length_withReturns : ∀ s : List Char, (withReturns s).length = s.length + s.count '\n'
  | [] => rfl
  | c :: s => by
    have ih := length_withReturns s
    by_cases hc : c = '\n'
    · rw [hc, withReturns_break, List.count_cons_self]
      simp only [List.length_cons, ih]
      omega
    · rw [withReturns_char hc, List.count_cons_of_ne hc]
      simp only [List.length_cons, ih]
      omega

/-- What stands before an offset, with its carriage returns. -/
theorem take_withReturns {x : Nat} (h : x ≤ s.length) :
    (withReturns s).take (x + (s.take x).count '\n') = withReturns (s.take x) := by
  have hlength : x + (s.take x).count '\n' = (withReturns (s.take x)).length := by
    rw [length_withReturns, List.length_take, Nat.min_eq_left h]
  conv_lhs => rw [← List.take_append_drop x s, withReturns_append, List.take_append_drop, hlength]
  exact List.take_left

/-- What stands after an offset, with its carriage returns. -/
theorem drop_withReturns {x : Nat} (h : x ≤ s.length) :
    (withReturns s).drop (x + (s.take x).count '\n') = withReturns (s.drop x) := by
  have hlength : x + (s.take x).count '\n' = (withReturns (s.take x)).length := by
    rw [length_withReturns, List.length_take, Nat.min_eq_left h]
  conv_lhs => rw [← List.take_append_drop x s, withReturns_append, List.take_append_drop, hlength]
  exact List.drop_left

/-- Carriage returns end spaces and tabs, as line feeds do. -/
theorem takeWhile_isIndent_withReturns : ∀ s : List Char, (withReturns s).takeWhile isIndent = s.takeWhile isIndent
  | [] => rfl
  | c :: s => by
    by_cases hc : c = '\n'
    · rw [hc, withReturns_break]
      rfl
    · rw [withReturns_char hc, List.takeWhile_cons, List.takeWhile_cons, takeWhile_isIndent_withReturns s]

/-- Carriage returns are trimmed, as line feeds are. -/
theorem trimStart_withReturns : ∀ s : List Char, trimStart (withReturns s) = withReturns (trimStart s)
  | [] => rfl
  | c :: s => by
    by_cases hc : c = '\n'
    · rw [hc, withReturns_break]
      exact trimStart_withReturns s
    · rw [withReturns_char hc]
      cases hblank : isBlank c with
      | true =>
        have ih := trimStart_withReturns s
        simpa [trimStart, hblank] using ih
      | false => rw [trimStart_of_not_isBlank hblank, trimStart_of_not_isBlank hblank, withReturns_char hc]

/-- The text starts with the same words on its first line. -/
theorem prefix_withReturns_iff : ∀ {w : List Char}, (∀ c ∈ w, c ≠ '\n' ∧ c ≠ '\r') → ∀ s : List Char,
    w <+: withReturns s ↔ w <+: s
  | [], _, s => iff_of_true List.nil_prefix List.nil_prefix
  | c :: w, _, [] => Iff.rfl
  | c :: w, h, d :: s => by
    have ih := prefix_withReturns_iff (fun d hd => h d (List.mem_cons_of_mem c hd)) s
    by_cases hd : d = '\n'
    · have hc := h c List.mem_cons_self
      rw [hd, withReturns_break, List.cons_prefix_cons, List.cons_prefix_cons]
      exact iff_of_false (fun hr => hc.2 hr.1) fun hn => hc.1 hn.1
    · rw [withReturns_char hd, List.cons_prefix_cons, List.cons_prefix_cons, ih]

/-- A reader that takes `joinBreaks` of a text for the text does not see the carriage returns. -/
theorem joinBreaks_withReturns : ∀ {s : List Char}, '\r' ∉ s → joinBreaks (withReturns s) = s
  | [], _ => rfl
  | c :: s, h => by
    have hc : c ≠ '\r' := fun heq => h (heq ▸ List.mem_cons_self)
    have ih := joinBreaks_withReturns fun hmem => h (List.mem_cons_of_mem c hmem)
    by_cases hbreak : c = '\n'
    · rw [hbreak, withReturns_break, joinBreaks, ih]
    · rw [withReturns_char hbreak, joinBreaks_cons hc, ih]

/-! ## Lines -/

theorem Returns.length_le {l l' : List Char} (h : Returns l l') : l.length ≤ l'.length := by
  cases h with
  | same => exact Nat.le_refl _
  | returned => simp

theorem returned_cons {ls : List (List Char)} (h : ls ≠ []) (l : List Char) :
    returned (l :: ls) = (l ++ ['\r']) :: returned ls := by
  cases ls with
  | nil => exact absurd rfl h
  | cons l' ls => rfl

/-- The lines of the text end in carriage returns. -/
theorem lines_withReturns : ∀ s : List Char, lines (withReturns s) = returned (lines s)
  | [] => rfl
  | c :: s => by
    have ih := lines_withReturns s
    by_cases hc : c = '\n'
    · rw [hc, withReturns_break, lines_char (by decide) (lines_break _), ih, lines_break,
        returned_cons (lines_ne_nil s)]
      rfl
    · obtain ⟨l, ls, hs⟩ := exists_lines_cons s
      rw [withReturns_char hc, lines_char hc hs]
      rw [hs] at ih
      cases ls with
      | nil => exact lines_char hc ih
      | cons l' ls => exact lines_char hc ih

@[simp] theorem length_returned : ∀ ls : List (List Char), (returned ls).length = ls.length
  | [] => rfl
  | [_] => rfl
  | _ :: l' :: ls => congrArg (· + 1) (length_returned (l' :: ls))

theorem drop_returned : ∀ (ls : List (List Char)) (n : Nat), (returned ls).drop n = returned (ls.drop n)
  | [], _ => by simp [returned]
  | _, 0 => rfl
  | [l], n + 1 => by simp [returned]
  | l :: l' :: ls, n + 1 => drop_returned (l' :: ls) n

/-- Each line is left as it is, or ends in one more carriage return. -/
theorem returns_getD : ∀ (ls : List (List Char)) (i : Nat), Returns (ls.getD i []) ((returned ls).getD i [])
  | [], _ => .same
  | [_], _ => .same
  | _ :: _ :: _, 0 => .returned
  | _ :: l' :: ls, i + 1 => returns_getD (l' :: ls) i

theorem exists_line_withReturns {i : Nat} {l : List Char} (h : (lines s)[i]? = some l) :
    ∃ l', (lines (withReturns s))[i]? = some l' ∧ Returns l l' := by
  have hi : i < (returned (lines s)).length := by
    rw [length_returned]
    exact (List.getElem?_eq_some_iff.1 h).1
  have hreturns := returns_getD (lines s) i
  rw [List.getD_eq_getElem?_getD, List.getD_eq_getElem?_getD, h, List.getElem?_eq_getElem hi, Option.getD_some,
    Option.getD_some] at hreturns
  exact ⟨_, by rw [lines_withReturns, List.getElem?_eq_getElem hi], hreturns⟩

/-- What does not show a carriage return at the end of a line shows none in the lines. -/
theorem map_returned {α : Type} {f : List Char → α} (h : ∀ l, f (l ++ ['\r']) = f l) :
    ∀ ls : List (List Char), (returned ls).map f = ls.map f
  | [] => rfl
  | [_] => rfl
  | l :: l' :: ls => by
    rw [returned, List.map_cons, List.map_cons, h l, map_returned h (l' :: ls)]

/-- A line starts as many characters later as there are lines before it. -/
theorem lineStart_returned : ∀ {ls : List (List Char)} {i : Nat}, i < ls.length →
    lineStart (returned ls) i = lineStart ls i + i
  | [], _, h => by simp at h
  | [_], 0, _ => rfl
  | _ :: _ :: _, 0, _ => rfl
  | [_], i + 1, h => by simp at h
  | l :: l' :: ls, i + 1, h => by
    have ih := @lineStart_returned (l' :: ls) i (by simpa using h)
    rw [returned, lineStart_cons_succ, lineStart_cons_succ, ih, List.length_append, List.length_singleton]
    omega

/-- The text of lines with their carriage returns. -/
theorem unlines_returned : ∀ {ls : List (List Char)}, (∀ l ∈ ls, '\n' ∉ l) →
    unlines (returned ls) = withReturns (unlines ls)
  | [], _ => rfl
  | [l], h => by
    rw [returned, unlines_singleton, withReturns_of_not_mem (h l List.mem_cons_self)]
  | l :: l' :: ls, h => by
    have ih := unlines_returned fun m hm => h m (List.mem_cons_of_mem l hm)
    obtain ⟨m, ms, hrest⟩ : ∃ m ms, returned (l' :: ls) = m :: ms := by cases ls <;> exact ⟨_, _, rfl⟩
    rw [returned, unlines_cons_cons, withReturns_append, withReturns_of_not_mem (h l List.mem_cons_self),
      withReturns_break, ← ih, hrest, unlines_cons_cons, List.append_assoc]
    rfl

end MarkLint.Text

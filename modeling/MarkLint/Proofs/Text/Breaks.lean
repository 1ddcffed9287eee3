import MarkLint.Proofs.Text.Lines

/-!
# Line breaks as line feeds

`joinBreaks` takes away the carriage returns before line feeds, and `normalizeBreaks` makes line feeds of the others as
well (`normalizeBreaks_eq_map_joinBreaks`), so that none is left (`not_mem_normalizeBreaks`). Both leave text without
carriage returns as it is, piece by piece (`joinBreaks_append`, `normalizeBreaks_append`).
-/

namespace MarkLint.Text

/-- The text without carriage returns before line feeds. -/
def joinBreaks : List Char → List Char
  | [] => []
  | '\r' :: '\n' :: rest => '\n' :: joinBreaks rest
  | c :: rest => c :: joinBreaks rest

theorem joinBreaks_cons {c : Char} (hc : c ≠ '\r') (s : List Char) : joinBreaks (c :: s) = c :: joinBreaks s := by
  rw [joinBreaks.eq_3 c s fun _ h _ => hc h]

/-- Text without carriage returns is left as it is. -/
theorem joinBreaks_append : ∀ {t : List Char}, '\r' ∉ t → ∀ s : List Char, joinBreaks (t ++ s) = t ++ joinBreaks s
  | [], _, _ => rfl
  | c :: t, h, s => by
    have hc : c ≠ '\r' := fun heq => h (heq ▸ List.mem_cons_self)
    rw [List.cons_append, joinBreaks_cons hc, joinBreaks_append (fun hmem => h (List.mem_cons_of_mem _ hmem)),
      List.cons_append]

theorem joinBreaks_of_not_mem {s : List Char} (h : '\r' ∉ s) : joinBreaks s = s := by
  have := joinBreaks_append h []
  rwa [List.append_nil, joinBreaks, List.append_nil] at this

/-- Where all carriage returns are line breaks, those before line feeds make no difference. -/
theorem normalizeBreaks_eq_map_joinBreaks (s : List Char) :
    normalizeBreaks s = (joinBreaks s).map fun c => if c = '\r' then '\n' else c := by
  fun_induction normalizeBreaks s with
  | case1 => rfl
  | case2 rest ih => rw [joinBreaks, List.map_cons, ih]; rfl
  | case3 rest hrest ih => rw [joinBreaks.eq_3 '\r' rest fun x _ => hrest x, List.map_cons, ih]; rfl
  | case4 c rest _ hc ih => rw [joinBreaks_cons hc, List.map_cons, ih, if_neg hc]

theorem not_mem_normalizeBreaks (s : List Char) : '\r' ∉ normalizeBreaks s := by
  rw [normalizeBreaks_eq_map_joinBreaks, List.mem_map]
  rintro ⟨c, -, hc⟩
  split at hc
  · revert hc
    decide
  · contradiction

/-- Text without carriage returns is left as it is. -/
theorem normalizeBreaks_append {t : List Char} (h : '\r' ∉ t) (s : List Char) :
    normalizeBreaks (t ++ s) = t ++ normalizeBreaks s := by
  have hsame : ∀ c ∈ t, (if c = '\r' then '\n' else c) = c := fun c hc => if_neg (ne_of_mem_of_not_mem hc h)
  have hmap : t.map (fun c => if c = '\r' then '\n' else c) = t := (List.map_congr_left hsame).trans (List.map_id' t)
  rw [normalizeBreaks_eq_map_joinBreaks, joinBreaks_append h, List.map_append, hmap, normalizeBreaks_eq_map_joinBreaks]

theorem normalizeBreaks_of_not_mem {t : List Char} (h : '\r' ∉ t) : normalizeBreaks t = t := by
  have := normalizeBreaks_append h []
  rwa [List.append_nil, normalizeBreaks, List.append_nil] at this

end MarkLint.Text

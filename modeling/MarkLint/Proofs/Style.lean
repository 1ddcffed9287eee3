import MarkLint.Style
import Mathlib.Data.List.Basic

/-!
# Verdicts on styles

Verdicts follow the order of the items, one at most for each (`map_item_mismatches_sublist`), and a verdict is on an
item that is not skipped and has the observed style (`mem_mismatches`). Nothing else of the items shows in the verdicts
(`mismatches_map`). With a preferred style the mismatches are on the items that have another one (`mismatches_some`);
without one they are those with the style of the first item that is not skipped (`mismatches_none`).
-/

namespace MarkLint.Style

variable {α σ : Type} {skip : α → Bool} {style : α → Option σ}

/-- Items get their verdicts in order. -/
theorem map_item_infer_sublist : ∀ {items : List α} {preferred : Option σ},
    ((infer skip style preferred items).map Verdict.item).Sublist items
  | [], _ => List.Sublist.refl _
  | item :: rest, preferred => by
    unfold infer
    split
    · exact map_item_infer_sublist.cons item
    · split
      · exact map_item_infer_sublist.cons item
      · exact map_item_infer_sublist.cons_cons item

/-- A verdict is on an item that is not skipped, and holds the style of the item. -/
theorem mem_infer {v : Verdict α σ} : ∀ {items : List α} {preferred : Option σ}, v ∈ infer skip style preferred items →
    skip v.item = false ∧ v.observed = style v.item
  | item :: rest, preferred, hv => by
    unfold infer at hv
    split at hv
    · exact mem_infer hv
    · rename_i hskip
      split at hv
      · exact mem_infer hv
      · rcases List.mem_cons.1 hv with rfl | hv
        · exact ⟨by simpa using hskip, rfl⟩
        · exact mem_infer hv

/-- With a preferred style there is a verdict on each item that is not skipped. -/
theorem infer_some (p : σ) (items : List α) :
    infer skip style (some p) items = (items.filter fun a => !skip a).map fun a => ⟨a, p, style a⟩ := by
  induction items with
  | nil => rfl
  | cons item rest ih =>
    unfold infer
    by_cases h : skip item = true
    · simp [h, ih]
    · simp [h, ih]

variable {β : Type} {skip' : β → Bool} {style' : β → Option σ} {f : α → β}

/-- The same verdict on another item. -/
def Verdict.mapItem (f : α → β) (v : Verdict α σ) : Verdict β σ := ⟨f v.item, v.preferred, v.observed⟩

/-- Items that are skipped as before, and have the same styles otherwise, get the same verdicts. -/
theorem infer_map : ∀ {items : List α} {preferred : Option σ}, (∀ a ∈ items, skip' (f a) = skip a) →
    (∀ a ∈ items, skip a = false → style' (f a) = style a) →
    infer skip' style' preferred (items.map f) = (infer skip style preferred items).map (Verdict.mapItem f)
  | [], _, _, _ => rfl
  | item :: rest, preferred, hskip, hstyle => by
    have ih : ∀ p, infer skip' style' p (rest.map f) = (infer skip style p rest).map (Verdict.mapItem f) := fun p =>
      infer_map (fun a ha => hskip a (List.mem_cons_of_mem _ ha)) fun a ha => hstyle a (List.mem_cons_of_mem _ ha)
    rw [List.map_cons]
    unfold infer
    rw [hskip item List.mem_cons_self]
    split
    · exact ih preferred
    · rename_i hitem
      rw [hstyle item List.mem_cons_self (by simpa using hitem)]
      cases preferred with
      | none => exact ih _
      | some p => exact congrArg (_ :: ·) (ih _)

variable [DecidableEq σ] {preferred : Option σ} {items : List α}

theorem map_item_mismatches_sublist :
    ((mismatches skip style preferred items).map Verdict.item).Sublist items :=
  (List.filter_sublist.map _).trans map_item_infer_sublist

theorem mem_mismatches {v : Verdict α σ} (h : v ∈ mismatches skip style preferred items) :
    skip v.item = false ∧ v.observed = style v.item :=
  mem_infer (List.mem_filter.1 h).1

theorem mismatches_map (hskip : ∀ a ∈ items, skip' (f a) = skip a)
    (hstyle : ∀ a ∈ items, skip a = false → style' (f a) = style a) :
    mismatches skip' style' preferred (items.map f)
      = (mismatches skip style preferred items).map (Verdict.mapItem f) := by
  rw [mismatches, infer_map hskip hstyle, List.filter_map]
  rfl

/-! ## The two modes -/

theorem mismatches_some (p : σ) (items : List α) : mismatches skip style (some p) items =
    ((items.filter fun a => !skip a).filter fun a => style a ≠ some p).map fun a => ⟨a, p, style a⟩ := by
  rw [mismatches, infer_some, List.filter_map]
  congr 1
  exact List.filter_congr fun a _ => by simp [Verdict.isMismatch, bne, beq_eq_decide]

variable {item : α} {rest : List α} {p : σ}

theorem mismatches_cons_skipped (h : skip item = true) :
    mismatches skip style preferred (item :: rest) = mismatches skip style preferred rest := by
  simp [mismatches, infer, h]

/-- An item without a preferred style only sets it. -/
theorem mismatches_cons_first (h : skip item = false) :
    mismatches skip style none (item :: rest) = mismatches skip style (style item) rest := by
  simp [mismatches, infer, h]

/-- An item with the preferred style is no mismatch. -/
theorem mismatches_cons_same (h : style item = some p) :
    mismatches skip style (some p) (item :: rest) = mismatches skip style (some p) rest := by
  by_cases hitem : skip item = true
  · exact mismatches_cons_skipped hitem
  · simp [mismatches, infer, hitem, Verdict.isMismatch, h]

/-- If all items are skipped, there are no mismatches. -/
theorem mismatches_eq_nil (preferred : Option σ) (h : (items.filter fun a => !skip a) = []) :
    mismatches skip style preferred items = [] := by
  induction items with
  | nil => rfl
  | cons item rest ih =>
    simp only [List.filter_eq_nil_iff, List.forall_mem_cons, Bool.not_eq_true', Bool.not_eq_false] at h ih
    rw [mismatches_cons_skipped h.1, ih h.2]

/-- The first item that is not skipped decides. Comparing all items with its style gives no other mismatches, since it
has that style itself. -/
theorem mismatches_none {first : α} (hfirst : (items.filter fun a => !skip a).head? = some first)
    (hstyle : style first = some p) : mismatches skip style none items = mismatches skip style (some p) items := by
  induction items with
  | nil => cases hfirst
  | cons item rest ih =>
    by_cases hitem : skip item = true
    · rw [List.filter_cons_of_neg (by simp [hitem])] at hfirst
      rw [mismatches_cons_skipped hitem, mismatches_cons_skipped hitem, ih hfirst]
    · rw [Bool.not_eq_true] at hitem
      rw [List.filter_cons_of_pos (by simp [hitem]), List.head?_cons, Option.some.injEq] at hfirst
      rw [hfirst, mismatches_cons_same hstyle, ← hfirst, mismatches_cons_first hitem, hfirst, hstyle]

end MarkLint.Style

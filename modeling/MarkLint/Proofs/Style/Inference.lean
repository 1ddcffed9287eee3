import MarkLint.Proofs.Style

/-!
# The style that is inferred

A sequence of items is compared with one style throughout: the preferred one or, without one, the style of the first
item that has any (`infer_of_isFirstStyled`). Only the items after that one are compared then, and it makes no
difference for the mismatches if it is compared as well (`mismatches_of_isFirstStyled`). Items without a style before it
are passed over, and so are the skipped items anywhere (`infer_filter`). `infer_closed` puts these together.
-/

namespace MarkLint.Style

variable {α σ : Type} {skip : α → Bool} {style : α → Option σ} {items after : List α} {first : α} {p : σ}

/-! ## What is compared -/

/-- The items that are not skipped. -/
def kept (skip : α → Bool) (items : List α) : List α := items.filter fun a => !skip a

/-- Every item is compared with one style. -/
def compareAll (style : α → Option σ) (p : σ) (items : List α) : List (Verdict α σ) :=
  items.map fun a => ⟨a, p, style a⟩

/-- The item `first` with the style `p` is the first one that has any style, and `after` are the items behind it. -/
def IsFirstStyled (style : α → Option σ) (items : List α) (first : α) (p : σ) (after : List α) : Prop :=
  style first = some p ∧ ∃ before, items = before ++ first :: after ∧ ∀ a ∈ before, style a = none

/-- Some item is the first one that has a style, unless none has one. -/
theorem exists_isFirstStyled (style : α → Option σ) (items : List α) :
    (∃ first p after, IsFirstStyled style items first p after) ∨ ∀ a ∈ items, style a = none := by
  induction items with
  | nil => exact Or.inr (by simp)
  | cons a items ih =>
    cases ha : style a with
    | some p => exact Or.inl ⟨a, p, items, ha, [], rfl, by simp⟩
    | none =>
      rcases ih with ⟨first, p, after, hfirst, before, rfl, hbefore⟩ | hnone
      · exact Or.inl ⟨first, p, after, hfirst, a :: before, rfl, List.forall_mem_cons.2 ⟨ha, hbefore⟩⟩
      · exact Or.inr (List.forall_mem_cons.2 ⟨ha, hnone⟩)

/-! ## The run -/

theorem infer_cons_skipped {a : α} (h : skip a = true) (preferred : Option σ) (rest : List α) :
    infer skip style preferred (a :: rest) = infer skip style preferred rest := by
  cases preferred with
  | none => rw [infer, if_pos h]
  | some p => rw [infer, if_pos h]

/-- Skipped items make no difference, whether the style is still to be found or not. -/
theorem infer_filter (skip : α → Bool) (style : α → Option σ) (items : List α) : ∀ preferred,
    infer skip style preferred items = infer skip style preferred (kept skip items) := by
  induction items with
  | nil => exact fun _ => rfl
  | cons a items ih =>
    intro preferred
    by_cases ha : skip a = true
    · have hkept : kept skip (a :: items) = kept skip items := List.filter_cons_of_neg (by simp [ha])
      rw [infer_cons_skipped ha, hkept, ih]
    · have hkept : kept skip (a :: items) = a :: kept skip items := List.filter_cons_of_pos (by simp [ha])
      -- the step is the same on both sides, but it may set the style for the rest
      cases preferred with
      | none => rw [hkept, infer, infer, if_neg ha, if_neg ha, ih]
      | some p => rw [hkept, infer, infer, if_neg ha, if_neg ha, ih]

/-- Items without a style leave the style to those that follow. -/
theorem infer_append_of_unstyled {before : List α} (rest : List α) (h : ∀ a ∈ before, style a = none) :
    infer skip style none (before ++ rest) = infer skip style none rest := by
  induction before with
  | nil => rfl
  | cons a before ih =>
    rw [List.forall_mem_cons] at h
    rw [List.cons_append, infer, h.1, ih h.2, ite_self]

/-- An item that has a style sets it and is not compared itself. -/
theorem infer_cons_styled (hskip : skip first = false) (hstyle : style first = some p) (rest : List α) :
    infer skip style none (first :: rest) = infer skip style (some p) rest := by
  rw [infer, hskip, hstyle]
  rfl

theorem infer_some_kept (p : σ) (items : List α) :
    infer skip style (some p) items = compareAll style p (kept skip items) :=
  infer_some p items

theorem skip_of_mem_kept {a : α} (h : a ∈ kept skip items) : skip a = false := by
  simpa using (List.mem_filter.1 h).2

theorem kept_eq_self (h : ∀ a ∈ items, skip a = false) : kept skip items = items :=
  List.filter_eq_self.2 fun a ha => by rw [h a ha]; rfl

/-- Without a preferred style only the items behind the first one that has a style are compared, with its style. -/
theorem infer_of_isFirstStyled (h : IsFirstStyled style (kept skip items) first p after) :
    infer skip style none items = compareAll style p after := by
  obtain ⟨hstyle, before, hitems, hbefore⟩ := h
  have hskip : ∀ a ∈ before ++ first :: after, skip a = false := fun a ha => skip_of_mem_kept (hitems ▸ ha)
  have hfirst : skip first = false := hskip first (by simp)
  have hafter : ∀ a ∈ after, skip a = false := fun a ha => hskip a (by simp [ha])
  calc infer skip style none items
      = infer skip style none (before ++ first :: after) := by rw [infer_filter, hitems]
    _ = infer skip style none (first :: after) := infer_append_of_unstyled _ hbefore
    _ = infer skip style (some p) after := infer_cons_styled hfirst hstyle after
    _ = compareAll style p after := by rw [infer_some_kept, kept_eq_self hafter]

/-- Without any style nothing is compared. -/
theorem infer_of_unstyled (h : ∀ a ∈ kept skip items, style a = none) : infer skip style none items = [] := by
  have hrun := @infer_append_of_unstyled _ _ skip _ _ [] h
  rw [List.append_nil] at hrun
  rw [infer_filter, hrun]
  rfl

/-! ## The mismatches -/

variable [DecidableEq σ]

theorem mismatches_eq_filter (preferred : Option σ) (items : List α) : mismatches skip style preferred items =
    (infer skip style preferred items).filter fun v => v.observed ≠ some v.preferred := by
  refine List.filter_congr fun v _ => ?_
  simp only [Verdict.isMismatch, bne, beq_eq_decide, ne_eq, decide_not]

/-- The item that sets the style has this style, so it may be compared as well. -/
theorem mismatches_of_isFirstStyled (h : IsFirstStyled style (kept skip items) first p after) :
    mismatches skip style none items = mismatches skip style (some p) (first :: after) := by
  obtain ⟨hstyle, before, hitems, -⟩ := id h
  have hafter : ∀ a ∈ after, skip a = false := by
    intro a ha
    have hmem : a ∈ kept skip items := by simp [hitems, ha]
    exact skip_of_mem_kept hmem
  rw [mismatches_cons_same hstyle, mismatches, mismatches, infer_of_isFirstStyled h, infer_some_kept,
    kept_eq_self hafter]

/-- With a preferred style each item that is not skipped is compared with it. Without one the first of these items that
has a style sets it: nothing before it is compared, nor is the item itself, and each item behind it is; if no item has a
style, then nothing is compared. The mismatches are the verdicts whose styles differ. Without a preferred style they are
those of the item that sets the style and the items behind it, compared with its style. -/
theorem infer_closed (skip : α → Bool) (style : α → Option σ) (items : List α) :
    (∀ p, infer skip style (some p) items = compareAll style p (kept skip items)) ∧
    (∀ first p after, IsFirstStyled style (kept skip items) first p after →
      infer skip style none items = compareAll style p after ∧
      mismatches skip style none items = mismatches skip style (some p) (first :: after)) ∧
    ((∃ first p after, IsFirstStyled style (kept skip items) first p after) ∨
      (∀ a ∈ kept skip items, style a = none) ∧ infer skip style none items = []) ∧
    ∀ preferred, mismatches skip style preferred items =
      (infer skip style preferred items).filter fun v => v.observed ≠ some v.preferred := by
  refine ⟨fun p => infer_some_kept p items,
    fun first p after h => ⟨infer_of_isFirstStyled h, mismatches_of_isFirstStyled h⟩, ?_,
    fun preferred => mismatches_eq_filter preferred items⟩
  exact (exists_isFirstStyled style (kept skip items)).imp_right fun hnone => ⟨hnone, infer_of_unstyled hnone⟩

/-- Styles of which the first is missing. -/
def lateStyles : List (Option Nat) := [none, some 1, some 2, none, some 1, some 3, some 2]

/-- If the style 1 is skipped, then 2 is the first one, and the styles behind it are compared with it, the missing one
too. -/
theorem infer_closed_late :
    IsFirstStyled id (kept (· == some 1) lateStyles) (some 2) 2 [none, some 3, some 2] ∧
    infer (· == some 1) id none lateStyles = [⟨none, 2, none⟩, ⟨some 3, 2, some 3⟩, ⟨some 2, 2, some 2⟩] ∧
    mismatches (· == some 1) id none lateStyles =
      mismatches (· == some 1) id (some 2) [some 2, none, some 3, some 2] := by
  have hfirst : IsFirstStyled id (kept (· == some 1) lateStyles) (some 2) 2 [none, some 3, some 2] :=
    ⟨rfl, [none], rfl, by simp⟩
  obtain ⟨hinfer, hmismatches⟩ := (infer_closed (· == some 1) id lateStyles).2.1 _ _ _ hfirst
  exact ⟨hfirst, hinfer, hmismatches⟩

end MarkLint.Style

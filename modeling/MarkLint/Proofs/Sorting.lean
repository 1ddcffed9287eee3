import Mathlib.Data.List.Nodup
import Mathlib.Order.Lattice

/-!
# Sorting by a key

A sorted list is in the order of its keys (`pairwise_mergeSort_key`), and elements with one key stay as they were
(`filter_mergeSort_key`). A sorted list is known from its parts with each key (`eq_of_filter_key_eq`). So it makes no
difference whether some of the elements are left out before or after sorting (`filter_mergeSort`), and if no two have
one key, then none in which order they were listed (`mergeSort_congr`).
-/

namespace MarkLint

variable {α κ : Type} [LinearOrder κ] {key : α → κ} {le : α → α → Bool}

theorem trans_of_key (hle : ∀ a b, le a b = true ↔ key a ≤ key b) (a b c : α) (hab : le a b = true)
    (hbc : le b c = true) : le a c = true := by
  rw [hle] at hab hbc ⊢
  exact le_trans hab hbc

theorem total_of_key (hle : ∀ a b, le a b = true ↔ key a ≤ key b) (a b : α) : (le a b || le b a) = true := by
  rw [Bool.or_eq_true, hle, hle]
  exact le_total _ _

theorem pairwise_mergeSort_key (hle : ∀ a b, le a b = true ↔ key a ≤ key b) (l : List α) :
    (l.mergeSort le).Pairwise fun a b => key a ≤ key b :=
  (List.pairwise_mergeSort (trans_of_key hle) (total_of_key hle) l).imp fun h => (hle _ _).1 h

/-- Sorting does not change the order of elements with one key. -/
theorem filter_mergeSort_key (hle : ∀ a b, le a b = true ↔ key a ≤ key b) (l : List α) (k : κ) :
    (l.mergeSort le).filter (fun a => key a = k) = l.filter fun a => key a = k := by
  have hsame : (l.filter fun a => key a = k).Pairwise fun a b => le a b = true := by
    refine List.pairwise_of_forall_mem_list fun a ha b hb => ?_
    have hka : key a = k := by simpa using (List.mem_filter.1 ha).2
    have hkb : key b = k := by simpa using (List.mem_filter.1 hb).2
    rw [hle, hka, hkb]
  -- they are sorted already, so they stay a sublist, and there are no others
  have hsub := (List.sublist_mergeSort (trans_of_key hle) (total_of_key hle) hsame List.filter_sublist).filter
    fun a => key a = k
  rw [List.filter_filter] at hsub
  simp only [Bool.and_self] at hsub
  exact (hsub.eq_of_length ((List.mergeSort_perm l le).filter _).length_eq.symm).symm

/-- A sorted list is known from its elements with each key. -/
theorem eq_of_filter_key_eq {l m : List α} (hl : l.Pairwise fun a b => key a ≤ key b)
    (hm : m.Pairwise fun a b => key a ≤ key b)
    (h : ∀ k, l.filter (fun a => key a = k) = m.filter fun a => key a = k) : l = m := by
  have hmem : ∀ a, a ∈ l ↔ a ∈ m := by
    intro a
    have := congrArg (a ∈ ·) (h (key a))
    simpa using this
  induction l generalizing m with
  | nil =>
    cases m with
    | nil => rfl
    | cons b m => exact absurd ((hmem b).2 List.mem_cons_self) List.not_mem_nil
  | cons a l ih =>
    cases m with
    | nil => exact absurd ((hmem a).1 List.mem_cons_self) List.not_mem_nil
    | cons b m =>
      rw [List.pairwise_cons] at hl hm
      have hab : key a ≤ key b := by
        rcases List.mem_cons.1 ((hmem b).2 List.mem_cons_self) with hb | hb
        · rw [hb]
        · exact hl.1 b hb
      have hba : key b ≤ key a := by
        rcases List.mem_cons.1 ((hmem a).1 List.mem_cons_self) with ha | ha
        · rw [ha]
        · exact hm.1 a ha
      have hkey : key b = key a := le_antisymm hba hab
      -- both lists begin with their first element at this place
      have hfirst := h (key a)
      simp only [List.filter_cons, hkey, decide_true, if_true, List.cons.injEq] at hfirst
      obtain ⟨rfl, -⟩ := hfirst
      have htail : ∀ k, l.filter (fun a => key a = k) = m.filter fun a => key a = k := by
        intro k
        have hk := h k
        by_cases hak : key a = k
        · simpa [List.filter_cons, hak] using hk
        · simpa [List.filter_cons, hak] using hk
      rw [ih hl.2 hm.2 htail fun c => by simpa using congrArg (c ∈ ·) (htail (key c))]

/-- Elements may be left out before or after sorting. -/
theorem filter_mergeSort (hle : ∀ a b, le a b = true ↔ key a ≤ key b) (p : α → Bool) (l : List α) :
    (l.mergeSort le).filter p = (l.filter p).mergeSort le := by
  refine eq_of_filter_key_eq ((pairwise_mergeSort_key hle l).filter p) (pairwise_mergeSort_key hle _) fun k => ?_
  rw [filter_mergeSort_key hle, List.filter_comm, filter_mergeSort_key hle, List.filter_comm]

/-- Elements with different keys are sorted into one order. -/
theorem mergeSort_congr (hle : ∀ a b, le a b = true ↔ key a ≤ key b) {l m : List α} (hperm : l.Perm m)
    (hkeys : (l.map key).Nodup) : l.mergeSort le = m.mergeSort le := by
  have hboth := (List.mergeSort_perm l le).trans (hperm.trans (List.mergeSort_perm m le).symm)
  refine hboth.eq_of_pairwise ?_ (pairwise_mergeSort_key hle l) (pairwise_mergeSort_key hle m)
  intro a b ha hb hab hba
  rw [List.mem_mergeSort] at ha hb
  exact List.inj_on_of_nodup_map hkeys ha (hperm.mem_iff.2 hb) (le_antisymm hab hba)

end MarkLint

import MarkLint.Config
import MarkLint.Proofs.Sorting
import Mathlib.Data.String.Basic

/-!
# Names in alphabetical order

A sorted list of names holds each name once (`nodup_sorted`) and depends only on which names there are (`sorted_congr`).
In a table, what is under a name is found as before when other names are left out (`lookup_filter`).
-/

namespace MarkLint.Config

/-! ## Lists of names -/

theorem nodup_eraseDups {α : Type} [BEq α] [LawfulBEq α] : ∀ l : List α, l.eraseDups.Nodup
  | [] => by simp
  | a :: l => by
    rw [List.eraseDups_cons, List.nodup_cons]
    constructor
    · simp
    · exact nodup_eraseDups (l.filter fun b => !b == a)
termination_by l => l.length
decreasing_by exact Nat.lt_succ_of_le (List.length_filter_le _ _)

@[simp] theorem mem_sorted {id : String} {names : List String} : id ∈ sorted names ↔ id ∈ names := by
  simp [sorted, List.mem_eraseDups]

theorem nodup_sorted (names : List String) : (sorted names).Nodup :=
  (List.mergeSort_perm _ _).nodup_iff.2 (nodup_eraseDups names)

/-- Names are compared in alphabetical order. -/
theorem not_lt_iff (a b : String) : (!(b < a : Bool)) = true ↔ a ≤ b := by
  rw [Bool.not_eq_true', decide_eq_false_iff_not, not_lt]

/-- Sorted lists of the same names are the same. -/
theorem sorted_congr {names names' : List String} (h : ∀ id, id ∈ names ↔ id ∈ names') :
    sorted names = sorted names' := by
  have hperm : names.eraseDups.Perm names'.eraseDups := by
    rw [List.perm_ext_iff_of_nodup (nodup_eraseDups names) (nodup_eraseDups names')]
    simpa [List.mem_eraseDups] using h
  have hkeys : (names.eraseDups.map id).Nodup := by
    rw [List.map_id]
    exact nodup_eraseDups names
  exact mergeSort_congr not_lt_iff hperm hkeys

/-! ## Tables -/

section Tables

variable {α β : Type}

/-- A name is looked up in the first entry, and then in the others. -/
theorem lookup_cons_eq (name other : String) (a : α) (l : List (String × α)) :
    ((other, a) :: l).lookup name = if name = other then some a else l.lookup name := by
  rw [List.lookup_cons]
  by_cases h : name = other
  · rw [if_pos h, beq_iff_eq.2 h]
  · rw [if_neg h, beq_eq_false_iff_ne.2 h]

/-- Leaving out other names does not change what is found under a name. -/
theorem lookup_filter (keep : String → Bool) {name : String} (hname : keep name = true) (l : List (String × α)) :
    (l.filter fun p => keep p.1).lookup name = l.lookup name := by
  induction l with
  | nil => rfl
  | cons p l ih =>
    obtain ⟨other, a⟩ := p
    rw [List.filter_cons, lookup_cons_eq]
    by_cases hother : name = other
    · rw [if_pos (hother ▸ hname), lookup_cons_eq, if_pos hother, if_pos hother]
    · rw [if_neg hother, ← ih]
      split
      · rw [lookup_cons_eq, if_neg hother]
      · rfl

theorem lookup_map (f : String → α → β) (name : String) (l : List (String × α)) :
    (l.map fun p => (p.1, f p.1 p.2)).lookup name = (l.lookup name).map (f name) := by
  induction l with
  | nil => rfl
  | cons p l ih =>
    obtain ⟨other, a⟩ := p
    rw [List.map_cons, lookup_cons_eq, lookup_cons_eq, ih]
    split
    · rename_i hother
      rw [hother, Option.map_some]
    · rfl

/-- Among different names, what is listed under a name is found there. -/
theorem lookup_of_mem {name : String} {a : α} {l : List (String × α)} (hnames : (l.map Prod.fst).Nodup)
    (h : (name, a) ∈ l) : l.lookup name = some a := by
  induction l with
  | nil => cases h
  | cons p l ih =>
    obtain ⟨other, b⟩ := p
    rw [List.map_cons, List.nodup_cons] at hnames
    rw [lookup_cons_eq]
    rcases List.mem_cons.1 h with h | h
    · cases h
      exact if_pos rfl
    · have hmem : name ∈ l.map Prod.fst := List.mem_map_of_mem h
      rw [if_neg (ne_of_mem_of_not_mem hmem hnames.1), ih hnames.2 h]

end Tables

end MarkLint.Config

import MarkLint.Node.Walk
import Mathlib.Data.List.Basic

/-!
# Forests and their document order

What holds of a list of trees is shown by induction on the number of their nodes (`forest_induction`). If the nodes of
a forest are in some order, then so are their first children (`pairwise_head_children`).
-/

namespace MarkLint.Node

theorem size_eq (n : Node) : n.size = sizes n.children + 1 := by cases n; rfl

theorem preorder_eq (n : Node) : n.preorder = n :: preorders n.children := by cases n; rfl

@[simp] theorem preorders_nil : preorders [] = [] := rfl

@[simp] theorem preorders_cons (n : Node) (rest : List Node) :
    preorders (n :: rest) = n :: (preorders n.children ++ preorders rest) := by
  rw [preorders, preorder_eq, List.cons_append]

theorem preorders_singleton (n : Node) : preorders [n] = n.preorder := List.append_nil _

@[simp] theorem preorders_append : ∀ a b : List Node, preorders (a ++ b) = preorders a ++ preorders b
  | [], _ => rfl
  | n :: a, b => by simp [preorders_append a b]

@[simp] theorem sizes_append : ∀ a b : List Node, sizes (a ++ b) = sizes a + sizes b
  | [], b => by simp [sizes]
  | n :: a, b => by simp only [List.cons_append, sizes, sizes_append a b]; omega

/-- The top of a stack counts as one node and its children. -/
theorem sizes_cons (n : Node) (rest : List Node) : sizes (n :: rest) = sizes (n.children ++ rest) + 1 := by
  rw [sizes, size_eq, sizes_append]
  omega

theorem sizes_singleton (n : Node) : sizes [n] = n.size := Nat.add_zero _

theorem sizes_reverse (ns : List Node) : sizes ns.reverse = sizes ns := by
  induction ns with
  | nil => rfl
  | cons n ns ih =>
    rw [List.reverse_cons, sizes_append, ih, sizes, sizes, sizes]
    omega

theorem plainText_eq (n : Node) : n.plainText =
    match n.value, n.alt with
    | some v, _ => v
    | none, some a => a
    | none, none => plainTexts n.children := by
  have h := plainText.eq_def n
  cases n
  exact h

theorem plainTexts_append : ∀ a b : List Node, plainTexts (a ++ b) = plainTexts a ++ plainTexts b
  | [], _ => String.empty_append.symm
  | n :: a, b => by rw [List.cons_append, plainTexts, plainTexts_append a b, plainTexts, String.append_assoc]

theorem plainTexts_singleton (n : Node) : plainTexts [n] = n.plainText := String.append_empty

/-- Induction on forests: from the children of the first tree and the other trees to the forest. -/
theorem forest_induction {P : List Node → Prop} (nil : P [])
    (cons : ∀ n rest, P n.children → P rest → P (n :: rest)) : ∀ ns, P ns
  | [] => nil
  | n :: rest => cons n rest (forest_induction nil cons n.children) (forest_induction nil cons rest)
termination_by ns => sizes ns
decreasing_by all_goals simp only [sizes, size_eq]; omega

/-! ## Children in document order -/

theorem mem_preorders_of_mem {n : Node} {ns : List Node} (h : n ∈ ns) : n ∈ preorders ns := by
  obtain ⟨a, b, rfl⟩ := List.append_of_mem h
  simp

/-- What is below a node of a forest is in the forest. -/
theorem preorders_children_subset {ns : List Node} : ∀ n ∈ preorders ns, preorders n.children ⊆ preorders ns := by
  induction ns using forest_induction with
  | nil => simp
  | cons n rest ihn ihrest =>
    intro m hm d hd
    rw [preorders_cons, List.mem_cons, List.mem_append] at hm ⊢
    rcases hm with rfl | hm | hm
    · exact Or.inr (Or.inl hd)
    · exact Or.inr (Or.inl (ihn m hm hd))
    · exact Or.inr (Or.inr (ihrest m hm hd))

/-- What is below a node of a forest comes after the first node of the forest. -/
theorem preorders_children_subset_tail {c n : Node} {cs : List Node} (h : n ∈ preorders (c :: cs)) :
    preorders n.children ⊆ preorders c.children ++ preorders cs := by
  intro d hd
  rw [preorders_cons, List.mem_cons, List.mem_append] at h
  rw [List.mem_append]
  rcases h with rfl | h | h
  · exact Or.inl hd
  · exact Or.inl (preorders_children_subset n h hd)
  · exact Or.inr (preorders_children_subset n h hd)

/-- If the nodes of a forest are in the order `R`, then so are the first children of any two of its nodes. -/
theorem pairwise_head_children {R : Node → Node → Prop} {ns : List Node} : (preorders ns).Pairwise R →
    (preorders ns).Pairwise fun m n => ∀ c ∈ m.children.head?, ∀ d ∈ n.children.head?, R c d := by
  have hmem {n d : Node} (hd : d ∈ n.children.head?) : d ∈ preorders n.children :=
    mem_preorders_of_mem (List.mem_of_mem_head? hd)
  induction ns using forest_induction with
  | nil => intro _; exact List.Pairwise.nil
  | cons n rest ihn ihrest =>
    intro h
    rw [preorders_cons, List.pairwise_cons, List.pairwise_append] at h ⊢
    obtain ⟨-, hn, hrest, hcross⟩ := h
    refine ⟨fun x hx c hc d hd => ?_, ihn hn, ihrest hrest, fun x hx y hy c hc d hd => ?_⟩
    · rcases List.mem_append.1 hx with hx | hx
      · -- `x` is below `n`, so its child comes after the first child of `n`
        cases hch : n.children with
        | nil => rw [hch] at hc; cases hc
        | cons c' cs =>
          rw [hch] at hc hx hn
          cases hc
          rw [preorders_cons, List.pairwise_cons] at hn
          exact hn.1 d (preorders_children_subset_tail hx (hmem hd))
      · exact hcross c (hmem hc) d (preorders_children_subset x hx (hmem hd))
    · exact hcross c (preorders_children_subset x hx (hmem hc)) d (preorders_children_subset y hy (hmem hd))

end MarkLint.Node

import MarkLint.Proofs.Location.Returns
import MarkLint.Proofs.Node.Forest

/-!
# Trees with other points

`Node.mapPoints f` changes the points of all nodes of a tree by `f` and nothing else: the nodes come in the same order
(`preorders_map_mapPoints`) and have the same texts (`plainText_mapPoints`). A tree without points stays as it is
(`map_mapPoints_of_forall`).
-/

namespace MarkLint.Node

mutual

/-- The node with all points in it changed. -/
def mapPoints (f : Point → Point) : Node → Node
  | ⟨kind, children, position, value, depth, lang, info, checked, ordered, url, alt⟩ =>
    ⟨kind, mapAllPoints f children, position.map (Position.mapPoints f), value, depth, lang, info, checked, ordered,
      url, alt⟩

/-- The nodes with all points in them changed. -/
def mapAllPoints (f : Point → Point) : List Node → List Node
  | [] => []
  | n :: rest => n.mapPoints f :: mapAllPoints f rest

end

variable (f : Point → Point)

theorem mapAllPoints_eq_map : ∀ ns : List Node, mapAllPoints f ns = ns.map (mapPoints f)
  | [] => rfl
  | n :: rest => by rw [mapAllPoints, mapAllPoints_eq_map rest, List.map_cons]

theorem mapPoints_eq (n : Node) : n.mapPoints f =
    { n with position := n.position.map (Position.mapPoints f), children := n.children.map (mapPoints f) } := by
  cases n
  rw [mapPoints, mapAllPoints_eq_map]

@[simp] theorem kind_mapPoints (n : Node) : (n.mapPoints f).kind = n.kind := by rw [mapPoints_eq]

@[simp] theorem position_mapPoints (n : Node) :
    (n.mapPoints f).position = n.position.map (Position.mapPoints f) := by rw [mapPoints_eq]

@[simp] theorem children_mapPoints (n : Node) : (n.mapPoints f).children = n.children.map (mapPoints f) := by
  rw [mapPoints_eq]

@[simp] theorem value_mapPoints (n : Node) : (n.mapPoints f).value = n.value := by rw [mapPoints_eq]

@[simp] theorem lang_mapPoints (n : Node) : (n.mapPoints f).lang = n.lang := by rw [mapPoints_eq]

@[simp] theorem checked_mapPoints (n : Node) : (n.mapPoints f).checked = n.checked := by rw [mapPoints_eq]

@[simp] theorem start?_mapPoints (n : Node) : (n.mapPoints f).start? = n.start?.map f := by
  rw [start?, position_mapPoints, start?]
  cases n.position <;> rfl

@[simp] theorem stop?_mapPoints (n : Node) : (n.mapPoints f).stop? = n.stop?.map f := by
  rw [stop?, position_mapPoints, stop?]
  cases n.position <;> rfl

/-! ## Whole forests -/

/-- The nodes of a forest come in the same order. -/
theorem preorders_map_mapPoints (ns : List Node) :
    preorders (ns.map (mapPoints f)) = (preorders ns).map (mapPoints f) := by
  induction ns using forest_induction with
  | nil => rfl
  | cons n rest ihn ihrest =>
    rw [List.map_cons, preorders_cons, children_mapPoints, ihn, ihrest, preorders_cons, List.map_cons, List.map_append]

theorem plainTexts_map_mapPoints (ns : List Node) : plainTexts (ns.map (mapPoints f)) = plainTexts ns := by
  induction ns using forest_induction with
  | nil => rfl
  | cons n rest ihn ihrest =>
    have halt : (n.mapPoints f).alt = n.alt := by rw [mapPoints_eq]
    rw [List.map_cons, plainTexts, plainTexts, ihrest, plainText_eq, plainText_eq n, value_mapPoints, halt,
      children_mapPoints, ihn]

/-- A node has the same text. -/
theorem plainText_mapPoints (n : Node) : (n.mapPoints f).plainText = n.plainText := by
  have h := plainTexts_map_mapPoints f [n]
  rwa [List.map_singleton, plainTexts_singleton, plainTexts_singleton] at h

/-- Nodes without places stay as they are. -/
theorem map_mapPoints_of_forall {ns : List Node} :
    (∀ n ∈ preorders ns, n.position = none) → ns.map (mapPoints f) = ns := by
  induction ns using forest_induction with
  | nil => intro _; rfl
  | cons n rest ihn ihrest =>
    intro h
    simp only [preorders_cons, List.mem_cons, List.mem_append] at h
    have hposition := h n (Or.inl rfl)
    rw [List.map_cons, ihrest fun m hm => h m (Or.inr (Or.inr hm)), mapPoints_eq,
      ihn fun m hm => h m (Or.inr (Or.inl hm)), hposition, Option.map_none, ← hposition]
    cases n
    rfl

end MarkLint.Node

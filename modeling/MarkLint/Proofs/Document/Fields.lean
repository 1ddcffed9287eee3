import MarkLint.Proofs.Document.Labels

/-!
# Fields of blocks

Some blocks have more to them than a kind: headings have a level, code and raw HTML a value, and lists an order
(`blockData_hasFields`). A block below one without a place keeps only its kind, so that there are only so many fields to
lose in a forest (`lostFields`). Reading an item for a checkbox makes no fields and takes none away
(`fieldCount_cons_of_readTask`).
-/

namespace MarkLint

namespace Node

/-- Has the node fields besides its kind and its place? The value of a text is what the node stands for and does not
count. -/
def hasFields (n : Node) : Bool :=
  n.kind != "text" && (n.value.isSome || n.depth.isSome || n.lang.isSome || n.info.isSome || n.ordered.isSome ||
    n.url.isSome || n.alt.isSome)

/-- The number of nodes with fields in a forest. -/
def fieldCount (ns : List Node) : Nat := (preorders ns).countP hasFields

@[simp] theorem fieldCount_nil : fieldCount [] = 0 := rfl

theorem fieldCount_cons (n : Node) (rest : List Node) :
    fieldCount (n :: rest) = n.hasFields.toNat + fieldCount n.children + fieldCount rest := by
  rw [fieldCount, preorders_cons, List.countP_cons, List.countP_append, fieldCount, fieldCount]
  cases n.hasFields <;> simp only [Bool.toNat_true, Bool.toNat_false, if_true, Bool.false_eq_true, if_false] <;> omega

@[simp] theorem fieldCount_append (a b : List Node) : fieldCount (a ++ b) = fieldCount a + fieldCount b := by
  rw [fieldCount, preorders_append, List.countP_append, fieldCount, fieldCount]

theorem fieldCount_singleton (n : Node) : fieldCount [n] = n.hasFields.toNat + fieldCount n.children :=
  (fieldCount_cons n []).trans (Nat.add_zero _)

end Node

namespace Document

open MarkLint.Markdown
open MarkLint.Text

/-! ## What an element becomes -/

/-- What an element becomes below a block without a place. -/
inductive BareNode (e : Element) : List Node → Prop
  | transparent {ns : List Node} : isTransparent e.kind = true → bareNodes e.children = .ok ns → BareNode e ns
  | inline {n : Node} : isInline e.kind = true → inlineNode e = .ok n → BareNode e [n]
  | block {inner : List Node} : isTransparent e.kind = false → isInline e.kind = false →
      bareNodes e.children = .ok inner → BareNode e [{ kind := blockKind e.kind, children := inner }]

theorem bareNode_eq_ok_iff {e : Element} {ns : List Node} : bareNode e = .ok ns ↔ BareNode e ns := by
  constructor
  · intro h
    rw [bareNode_eq] at h
    cases ht : isTransparent e.kind with
    | true =>
      rw [if_pos ht] at h
      exact .transparent ht h
    | false =>
      rw [if_neg (by simp [ht])] at h
      cases hi : isInline e.kind with
      | true =>
        rw [if_pos hi] at h
        obtain ⟨n, hn, h⟩ := bind_eq_ok_iff.1 h
        cases h
        exact .inline hi hn
      | false =>
        rw [if_neg (by simp [hi])] at h
        obtain ⟨inner, hinner, h⟩ := bind_eq_ok_iff.1 h
        cases h
        exact .block ht hi hinner
  · intro h
    rw [bareNode_eq]
    cases h with
    | transparent ht h => rw [if_pos ht, h]
    | inline hi h =>
      rw [if_neg (by simp [isTransparent_of_isInline hi]), if_pos hi, h]
      rfl
    | block ht hi h =>
      rw [if_neg (by simp [ht]), if_neg (by simp [hi]), h]
      rfl

/-- What an element becomes inside the containers `cs`. -/
inductive PlacedNode (source : List Char) (cs : List Container) (e : Element) : List Node → Prop
  | transparent {ns : List Node} : isTransparent e.kind = true →
      placedNodes (Sheet.ofText source) cs e.children = .ok ns → PlacedNode source cs e ns
  | inline {n : Node} : isInline e.kind = true → inlineNode e = .ok n → PlacedNode source cs e [n]
  | bare {node : Node} {inner : List Node} : isTransparent e.kind = false → isInline e.kind = false →
      blockData e = .ok node → blockLines (Sheet.ofText source) e.lines = none → bareNodes e.children = .ok inner →
      PlacedNode source cs e [{ node with children := inner }]
  | block {node n : Node} {inner : List Node} {first last : Nat} : isTransparent e.kind = false →
      isInline e.kind = false → blockData e = .ok node →
      blockLines (Sheet.ofText source) e.lines = some (first, last) →
      placedNodes (Sheet.ofText source) (cs ++ opened source node.kind e.markup e.info first
        (startColumn ((lines source).getD first []) first cs e.kind)) e.children = .ok inner →
      readTask (Sheet.ofText source)
        { node with position := some (blockPlace source cs e.kind first last), children := inner } = .ok n →
      PlacedNode source cs e [n]

theorem placedNode_eq_ok_iff {source : List Char} {cs : List Container} {e : Element} {ns : List Node} :
    placedNode (Sheet.ofText source) cs e = .ok ns ↔ PlacedNode source cs e ns := by
  constructor
  · intro h
    cases ht : isTransparent e.kind with
    | true =>
      rw [placedNode_transparent ht] at h
      exact .transparent ht h
    | false =>
      cases hi : isInline e.kind with
      | true =>
        rw [placedNode_inline hi] at h
        obtain ⟨n, hn, rfl⟩ := map_eq_ok_iff.1 h
        exact .inline hi hn
      | false =>
        cases hnode : blockData e with
        | error f =>
          rw [placedNode_fault ht hi hnode] at h
          cases h
        | ok node =>
          cases hlines : blockLines (Sheet.ofText source) e.lines with
          | none =>
            rw [placedNode_bare ht hi hnode hlines] at h
            obtain ⟨inner, hinner, rfl⟩ := map_eq_ok_iff.1 h
            exact .bare ht hi hnode hlines hinner
          | some p =>
            rw [placedNode_block ht hi hnode hlines] at h
            obtain ⟨inner, hinner, h⟩ := bind_eq_ok_iff.1 h
            obtain ⟨n, hn, h⟩ := bind_eq_ok_iff.1 h
            cases h
            exact .block ht hi hnode hlines hinner hn
  · intro h
    cases h with
    | transparent ht h => rw [placedNode_transparent ht, h]
    | inline hi h =>
      rw [placedNode_inline hi, h]
      rfl
    | bare ht hi hnode hlines h =>
      rw [placedNode_bare ht hi hnode hlines, h]
      rfl
    | block ht hi hnode hlines h hn =>
      rw [placedNode_block ht hi hnode hlines, h]
      exact (congrArg (· >>= fun block => pure [block]) hn)

/-! ## Reading tasks -/

/-- Reading a block for a checkbox leaves it as it is, or it becomes a task, and a paragraph that comes first in it loses
its checkbox. -/
theorem readTask_cases {s : Sheet} {m n : Node} (h : readTask s m = .ok n) : n = m ∨
    ∃ paragraph rest checked position, m.children = paragraph :: rest ∧ n = { m with
      checked := some checked,
      children := { paragraph with position := position, children := dropCheckbox paragraph.children } :: rest } := by
  unfold readTask at h
  split at h
  · unfold markTask at h
    split at h
    · rename_i paragraph rest hchildren
      split at h
      · split at h
        · obtain ⟨text, -, h⟩ := bind_eq_ok_iff.1 h
          split at h
          · cases h
            exact Or.inl rfl
          · obtain ⟨start, -, h⟩ := bind_eq_ok_iff.1 h
            cases h
            exact Or.inr ⟨paragraph, rest, _, _, hchildren, rfl⟩
        · cases h
          exact Or.inl rfl
      · cases h
        exact Or.inl rfl
    · cases h
      exact Or.inl rfl
  · cases h
    exact Or.inl rfl

theorem fieldCount_dropCheckbox (ns : List Node) : Node.fieldCount (dropCheckbox ns) = Node.fieldCount ns := by
  rcases dropCheckbox_eq ns with heq | ⟨first, rest, text, hns, hkind, heq⟩
  · rw [heq]
  · rw [heq, hns, Node.fieldCount_cons, Node.fieldCount_cons]
    simp [Node.hasFields, hkind]

/-- Reading a block for a checkbox makes no fields, and takes none away. -/
theorem fieldCount_cons_of_readTask {s : Sheet} {m n : Node} (h : readTask s m = .ok n) (rest : List Node) :
    Node.fieldCount (n :: rest) = m.hasFields.toNat + Node.fieldCount m.children + Node.fieldCount rest := by
  rw [Node.fieldCount_cons]
  rcases readTask_cases h with rfl | ⟨paragraph, others, checked, position, hchildren, rfl⟩
  · rfl
  · rw [hchildren, Node.fieldCount_cons, Node.fieldCount_cons, fieldCount_dropCheckbox]
    rfl

/-! ## Which blocks have fields -/

/-- The kinds of blocks with fields. -/
def fieldKinds : List String := ["heading", "fence", "code_block", "html_block", "bullet_list", "ordered_list"]

/-- A kind of block that no block with fields has is neither transparent nor inline. -/
theorem not_mem_fieldKinds {kind : String} (h : isTransparent kind = true ∨ isInline kind = true) :
    kind ∉ fieldKinds := by
  have hall : ∀ k ∈ fieldKinds, isTransparent k = false ∧ isInline k = false := by decide
  intro hmem
  obtain ⟨ht, hi⟩ := hall kind hmem
  rw [ht, hi] at h
  rcases h with h | h <;> cases h

/-- No block is a text. -/
theorem blockKind_ne_text {kind : String} (hi : isInline kind = false) : blockKind kind ≠ "text" := by
  intro h
  rw [eq_of_blockKind_eq (by decide) h] at hi
  revert hi
  decide

/-- The node of a block has fields exactly if the block is of one of these kinds. -/
theorem blockData_hasFields {e : Element} {node : Node} (hi : isInline e.kind = false) (h : blockData e = .ok node) :
    node.hasFields = fieldKinds.contains e.kind := by
  have htext : (blockKind e.kind != "text") = true := bne_iff_ne.2 (blockKind_ne_text hi)
  unfold blockData at h
  split at h
  · rename_i hkind
    split at h
    · cases h
      simp only [Node.hasFields, htext, Option.isSome_some, Bool.true_or, Bool.or_true, Bool.and_true]
      rw [hkind]
      decide
    · cases h
  · rename_i hheading
    split at h
    · rename_i hkind
      cases h
      simp only [Node.hasFields, htext, Option.isSome_some, Bool.true_or, Bool.and_true]
      rw [hkind]
      decide
    · rename_i hfence
      split at h
      · rename_i hkind
        cases h
        simp only [Node.hasFields, htext, Option.isSome_some, Bool.true_or, Bool.and_true]
        rcases hkind with hkind | hkind <;> rw [hkind] <;> decide
      · rename_i hcode
        split at h
        · rename_i hkind
          cases h
          simp only [Node.hasFields, htext, Option.isSome_some, Bool.true_or, Bool.or_true, Bool.and_true]
          rcases hkind with hkind | hkind <;> rw [hkind] <;> decide
        · rename_i hlist
          cases h
          simp only [Node.hasFields, Option.isSome_none, Bool.or_false, Bool.and_false]
          rw [eq_comm, ← Bool.not_eq_true, List.contains_iff_mem]
          simp [fieldKinds, hheading, hfence, not_or.1 hcode, not_or.1 hlist]

/-- Is the element a block whose node has fields unless it stands below a block without a place? -/
def Site.bearsFields (count : Nat) (s : Site) : Bool :=
  fieldKinds.contains s.element.kind && !anyUnplaced count s.above && !anyInline s.above

/-- The number of blocks in a forest whose nodes lose their fields when the forest is built without places. -/
def lostFields (count : Nat) (above es : List Element) : Nat := (sites above es).countP (Site.bearsFields count)

variable {count : Nat} {above : List Element} {e : Element}

theorem lostFields_cons (count : Nat) (above : List Element) (e : Element) (rest : List Element) :
    lostFields count above (e :: rest) = (Site.bearsFields count ⟨above, e⟩).toNat +
      lostFields count (e :: above) e.children + lostFields count above rest := by
  rw [lostFields, sites, sitesOf_eq, List.cons_append, List.countP_cons, List.countP_append, ← lostFields, ← lostFields]
  cases Site.bearsFields count ⟨above, e⟩ <;>
    simp only [Bool.toNat_true, Bool.toNat_false, if_true, Bool.false_eq_true, if_false] <;> omega

/-- Below a block without a place, and in a part of a line, there are no fields to lose. -/
theorem lostFields_of_hidden (h : anyUnplaced count above = true ∨ anyInline above = true) (es : List Element) :
    lostFields count above es = 0 := by
  rw [lostFields, List.countP_eq_zero]
  intro s hs
  have hsubset := (suffix_of_mem_sites hs).subset
  rcases h with h | h
  · obtain ⟨e, he, hunplaced⟩ := List.any_eq_true.1 h
    have hany : anyUnplaced count s.above = true := List.any_eq_true.2 ⟨e, hsubset he, hunplaced⟩
    simp [Site.bearsFields, hany]
  · obtain ⟨e, he, hinline⟩ := List.any_eq_true.1 h
    have hany : anyInline s.above = true := List.any_eq_true.2 ⟨e, hsubset he, hinline⟩
    simp [Site.bearsFields, hany]

end Document
end MarkLint

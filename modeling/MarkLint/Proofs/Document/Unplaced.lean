import MarkLint.Proofs.Document.Fields

/-!
# What is lost with a place

If a block is given lines outside the source, then its node and those below it lose their places, and an item loses the
checkbox that is read at a place (`LosesPlace`). The relation names the node by its number in document order, and
`ReplacedAt` tells that it is the node of the block. Below the block, other blocks lose their fields, too: they keep
only their kinds. So a place is all that is lost exactly if no block there has fields, apart from those that are below a
block without a place anyway (`buildTree_replaced`).
-/

namespace MarkLint.Document

open MarkLint.Markdown
open MarkLint.Text

/-! ## Nodes without places -/

/-- What a node is by itself: all but its children, its place and its checkbox. -/
def ownData (n : Node) : Node := { n with children := [], position := none, checked := none }

/-- The node stays as it is or, unless it is a text, keeps only its kind. -/
def KeepsKind (a b : Node) : Prop := b = a ∨ a.kind ≠ "text" ∧ b = { kind := a.kind }

variable {source : List Char} {R : Node → Node → Prop}

/-- The nodes of the second forest are those of the first before they were read for checkboxes, without their places.
What they are by themselves is related by `R`. -/
inductive LosesPlaces (source : List Char) (R : Node → Node → Prop) : List Node → List Node → Prop
  | nil : LosesPlaces source R [] []
  | cons {m n n' : Node} {rest rest' : List Node} : readTask (Sheet.ofText source) m = .ok n → m.checked = none →
      R (ownData m) (ownData n') → n'.position = none → n'.checked = none →
      LosesPlaces source R m.children n'.children → LosesPlaces source R rest rest' →
      LosesPlaces source R (n :: rest) (n' :: rest')

/-- One node of a forest loses its place, and all below it do: the one with the number `k` in document order. What the
nodes below are by themselves is related by `R`. The nodes around stay as they are, except that blocks which enclose the
node are read for checkboxes again. -/
inductive LosesPlace (source : List Char) (R : Node → Node → Prop) : Nat → List Node → List Node → Prop
  | here {m n n' : Node} {rest : List Node} : readTask (Sheet.ofText source) m = .ok n → m.checked = none →
      ownData m = ownData n' → n'.position = none → n'.checked = none →
      LosesPlaces source R m.children n'.children → LosesPlace source R 0 (n :: rest) (n' :: rest)
  | later {k : Nat} {rest rest' : List Node} (n : Node) : LosesPlace source R k rest rest' →
      LosesPlace source R (n.preorder.length + k) (n :: rest) (n :: rest')
  | inside {k : Nat} {m n n' : Node} {rest children' : List Node} : m.checked = none →
      readTask (Sheet.ofText source) m = .ok n →
      readTask (Sheet.ofText source) { m with children := children' } = .ok n' →
      LosesPlace source R k m.children children' → LosesPlace source R (k + 1) (n :: rest) (n' :: rest)

theorem LosesPlaces.append {a a' b b' : List Node} (ha : LosesPlaces source R a a') (hb : LosesPlaces source R b b') :
    LosesPlaces source R (a ++ b) (a' ++ b') := by
  induction ha with
  | nil => exact hb
  | cons hread hchecked hdata hposition hchecked' hchildren _ _ ih =>
    exact .cons hread hchecked hdata hposition hchecked' hchildren ih

theorem LosesPlace.append_right {k : Nat} {a a' : List Node} (h : LosesPlace source R k a a') (b : List Node) :
    LosesPlace source R k (a ++ b) (a' ++ b) := by
  induction h with
  | here hread hchecked hdata hposition hchecked' hchildren =>
    exact .here hread hchecked hdata hposition hchecked' hchildren
  | later n _ ih => exact .later n ih
  | inside hchecked hread hread' hinside => exact .inside hchecked hread hread' hinside

theorem LosesPlace.append_left {k : Nat} {b b' : List Node} (h : LosesPlace source R k b b') : ∀ a : List Node,
    LosesPlace source R ((Node.preorders a).length + k) (a ++ b) (a ++ b')
  | [] => by rwa [Node.preorders_nil, List.length_nil, Nat.zero_add]
  | n :: a => by
    rw [Node.preorders, List.length_append, Nat.add_assoc]
    exact .later n (h.append_left a)

/-- Without a place there is no checkbox to read. -/
theorem readTask_of_position_eq_none {s : Sheet} {m : Node} (h : ∀ c ∈ m.children.head?, c.position = none) :
    readTask s m = .ok m := by
  unfold readTask
  split
  · unfold markTask
    split
    · rename_i paragraph rest hchildren
      rw [hchildren] at h
      have hposition := h paragraph rfl
      split
      · rw [hposition]
        rfl
      · rfl
    · rfl
  · rfl

/-- Nodes without places and checkboxes have none to lose. -/
theorem LosesPlaces.refl (hR : ∀ n, R n n) {ns : List Node}
    (h : ∀ n ∈ Node.preorders ns, n.position = none ∧ n.checked = none) : LosesPlaces source R ns ns := by
  induction ns using Node.forest_induction with
  | nil => exact .nil
  | cons n rest ihn ihrest =>
    rw [Node.preorders_cons, List.forall_mem_cons, List.forall_mem_append] at h
    obtain ⟨⟨hposition, hchecked⟩, hchildren, hrest⟩ := h
    have hread : readTask (Sheet.ofText source) n = .ok n := readTask_of_position_eq_none fun c hc =>
      (hchildren c (Node.mem_preorders_of_mem (List.mem_of_mem_head? hc))).1
    exact .cons hread hchecked (hR _) hposition hchecked (ihn hchildren) (ihrest hrest)

/-! ## Fields that are lost -/

theorem hasFields_ownData (n : Node) : (ownData n).hasFields = n.hasFields := rfl

theorem hasFields_eq {m n : Node} (h : ownData m = ownData n) : m.hasFields = n.hasFields := by
  rw [← hasFields_ownData m, h, hasFields_ownData]

/-- A node that keeps only its kind has no fields. -/
theorem KeepsKind.hasFields_le {a b : Node} (h : KeepsKind a b) : b.hasFields.toNat ≤ a.hasFields.toNat := by
  rcases h with rfl | ⟨-, rfl⟩
  · exact Nat.le_refl _
  · simp [Node.hasFields]

/-- A node without fields has no more than its kind, unless it is a text. -/
theorem ownData_of_not_hasFields {n : Node} (htext : n.kind ≠ "text") (h : n.hasFields = false) :
    ownData n = { kind := n.kind } := by
  have hkind : (n.kind != "text") = true := bne_iff_ne.2 htext
  simp only [Node.hasFields, hkind, Bool.true_and, Bool.or_eq_false_iff, Option.isSome_eq_false_iff,
    Option.isNone_iff_eq_none] at h
  obtain ⟨⟨⟨⟨⟨⟨hvalue, hdepth⟩, hlang⟩, hinfo⟩, hordered⟩, hurl⟩, halt⟩ := h
  rw [ownData, hvalue, hdepth, hlang, hinfo, hordered, hurl, halt]

/-- If no fields are lost, then the node stays as it is. -/
theorem KeepsKind.eq_of_hasFields_le {m n : Node} (h : KeepsKind (ownData m) (ownData n))
    (hle : m.hasFields.toNat ≤ n.hasFields.toNat) : ownData m = ownData n := by
  rcases h with heq | ⟨htext, heq⟩
  · exact heq.symm
  · have hnone : n.hasFields = false := by
      rw [← hasFields_ownData, heq]
      simp [Node.hasFields]
    have hnone' : m.hasFields = false := by
      rw [hnone] at hle
      cases hm : m.hasFields with
      | false => rfl
      | true => rw [hm] at hle; cases hle
    exact (ownData_of_not_hasFields htext hnone').trans heq.symm

theorem LosesPlaces.fieldCount_le {ns ns' : List Node} (h : LosesPlaces source KeepsKind ns ns') :
    Node.fieldCount ns' ≤ Node.fieldCount ns := by
  induction h with
  | nil => exact Nat.le_refl _
  | @cons m n n' rest rest' hread _ hdata _ _ _ _ ihchildren ihrest =>
    have hfields : n'.hasFields.toNat ≤ m.hasFields.toNat := hdata.hasFields_le
    rw [fieldCount_cons_of_readTask hread, Node.fieldCount_cons]
    omega

/-- If there are as many nodes with fields as before, then only places are lost. -/
theorem LosesPlaces.eq_of_fieldCount_le {ns ns' : List Node} (h : LosesPlaces source KeepsKind ns ns') :
    Node.fieldCount ns ≤ Node.fieldCount ns' → LosesPlaces source Eq ns ns' := by
  induction h with
  | nil => exact fun _ => .nil
  | @cons m n n' rest rest' hread hchecked hdata hposition hchecked' hchildren hrest ihchildren ihrest =>
    intro hle
    have hfields : n'.hasFields.toNat ≤ m.hasFields.toNat := hdata.hasFields_le
    have hinside := hchildren.fieldCount_le
    have hafter := hrest.fieldCount_le
    rw [fieldCount_cons_of_readTask hread, Node.fieldCount_cons] at hle
    exact .cons hread hchecked (hdata.eq_of_hasFields_le (by omega)) hposition hchecked' (ihchildren (by omega))
      (ihrest (by omega))

theorem LosesPlaces.fieldCount_eq {ns ns' : List Node} (h : LosesPlaces source Eq ns ns') :
    Node.fieldCount ns' = Node.fieldCount ns := by
  induction h with
  | nil => rfl
  | cons hread _ hdata _ _ _ _ ihchildren ihrest =>
    rw [fieldCount_cons_of_readTask hread, Node.fieldCount_cons, ihchildren, ihrest, hasFields_eq hdata]

theorem LosesPlace.fieldCount_eq {k : Nat} {ns ns' : List Node} (h : LosesPlace source Eq k ns ns') :
    Node.fieldCount ns' = Node.fieldCount ns := by
  induction h with
  | here hread _ hdata _ _ hchildren =>
    rw [fieldCount_cons_of_readTask hread, Node.fieldCount_cons, hchildren.fieldCount_eq, hasFields_eq hdata]
  | later n _ ih => rw [Node.fieldCount_cons, Node.fieldCount_cons, ih]
  | inside _ hread hread' _ ih =>
    rw [fieldCount_cons_of_readTask hread, fieldCount_cons_of_readTask hread', ih]
    rfl

/-- If there are as many nodes with fields as before, then only places are lost. -/
theorem LosesPlace.eq_of_fieldCount_le {k : Nat} {ns ns' : List Node} (h : LosesPlace source KeepsKind k ns ns') :
    Node.fieldCount ns ≤ Node.fieldCount ns' → LosesPlace source Eq k ns ns' := by
  induction h with
  | here hread hchecked hdata hposition hchecked' hchildren =>
    intro hle
    rw [fieldCount_cons_of_readTask hread, Node.fieldCount_cons, hasFields_eq hdata] at hle
    exact .here hread hchecked hdata hposition hchecked' (hchildren.eq_of_fieldCount_le (by omega))
  | later n _ ih =>
    intro hle
    rw [Node.fieldCount_cons, Node.fieldCount_cons] at hle
    exact .later n (ih (by omega))
  | @inside _ m n n' rest children' hchecked hread hread' _ ih =>
    intro hle
    rw [fieldCount_cons_of_readTask hread, fieldCount_cons_of_readTask hread'] at hle
    refine .inside hchecked hread hread' (ih ?_)
    exact Nat.le_of_add_le_add_left (Nat.le_of_add_le_add_right hle)

/-! ## Texts -/

/-- Without a checkbox, nothing was read. -/
theorem eq_of_readTask {s : Sheet} {m n : Node} (h : readTask s m = .ok n) (hchecked : n.checked = none) : n = m := by
  rcases readTask_cases h with heq | ⟨_, _, _, _, -, rfl⟩
  · exact heq
  · cases hchecked

/-- Whether a block becomes a task depends on the kind and the place of its first child. -/
theorem checked_readTask {s : Sheet} {m : Node} {children' : List Node}
    (h : children'.head?.map (fun c => (c.kind, c.position)) = m.children.head?.map fun c => (c.kind, c.position)) :
    (readTask s { m with children := children' }).map Node.checked = (readTask s m).map Node.checked := by
  obtain ⟨kind, children, position, value, depth, lang, info, checked, ordered, url, alt⟩ := m
  cases children with
  | nil =>
    obtain rfl : children' = [] := by simpa using h
    rfl
  | cons c rest =>
    cases children' with
    | nil => cases h
    | cons c' rest' =>
      obtain ⟨hkind, hposition⟩ := Prod.mk.inj (Option.some.inj h)
      simp only [readTask, markTask, hkind, hposition]
      by_cases hitem : kind = "listItem"
      · rw [if_pos hitem, if_pos hitem]
        by_cases hparagraph : c.kind = "paragraph"
        · rw [if_pos hparagraph, if_pos hparagraph]
          rcases c.position with _ | ⟨_ | start, stop⟩
          · rfl
          · rfl
          · simp only [bind, Except.bind]
            cases s.line (start.line - 1).toNat with
            | error f => rfl
            | ok text =>
              dsimp only
              rcases checkbox? (text.drop (start.column - 1).toNat) with _ | ⟨marked, width⟩
              · rfl
              · dsimp only
                cases s.point (start.line - 1).toNat ((start.column - 1).toNat + width) <;> rfl
        · rw [if_neg hparagraph, if_neg hparagraph]
          rfl
      · rw [if_neg hitem, if_neg hitem]
        rfl

theorem kind_position_readTask {s : Sheet} {m n : Node} (h : readTask s m = .ok n) :
    n.kind = m.kind ∧ n.position = m.position := by
  rcases readTask_cases h with rfl | ⟨_, _, _, _, -, rfl⟩ <;> exact ⟨rfl, rfl⟩

/-- The first node of a forest keeps its kind and its place, or loses the place. -/
theorem LosesPlace.head {k : Nat} {ns ns' : List Node} (h : LosesPlace source R k ns ns') :
    (∀ c ∈ ns'.head?, c.position = none) ∨
      ns'.head?.map (fun c => (c.kind, c.position)) = ns.head?.map fun c => (c.kind, c.position) := by
  cases h with
  | here _ _ _ hposition =>
    left
    rintro c ⟨⟩
    exact hposition
  | later n _ => exact Or.inr rfl
  | inside _ hread hread' _ =>
    obtain ⟨hkind, hposition⟩ := kind_position_readTask hread
    obtain ⟨hkind', hposition'⟩ := kind_position_readTask hread'
    right
    rw [List.head?_cons, List.head?_cons, Option.map_some, Option.map_some, hkind, hkind', hposition, hposition']

/-- A block that is no task does not become one. -/
theorem LosesPlace.eq_of_readTask {k : Nat} {m n' : Node} {children' : List Node}
    (h : LosesPlace source R k m.children children') (hread : readTask (Sheet.ofText source) m = .ok m)
    (hchecked : m.checked = none) (hread' : readTask (Sheet.ofText source) { m with children := children' } = .ok n') :
    n' = { m with children := children' } := by
  rcases h.head with hnone | hsame
  · exact Except.ok.inj (hread'.symm.trans (readTask_of_position_eq_none hnone))
  · have hboth := checked_readTask (s := Sheet.ofText source) hsame
    rw [hread, hread'] at hboth
    exact Document.eq_of_readTask hread' ((Except.ok.inj hboth).trans hchecked)

theorem plainText_eq_of_ownData {m n : Node} (h : ownData m = ownData n)
    (hchildren : Node.plainTexts n.children = Node.plainTexts m.children) : n.plainText = m.plainText := by
  have hvalue : (ownData m).value = (ownData n).value := congrArg Node.value h
  have halt : (ownData m).alt = (ownData n).alt := congrArg Node.alt h
  simp only [ownData] at hvalue halt
  rw [Node.plainText_eq, Node.plainText_eq, hvalue, halt, hchildren]

/-- Node by node, the texts of two forests are the same. Excepted are the nodes of the first forest that are tasks or
have tasks in them, and the first paragraph of a task. -/
inductive KeepsTexts : List Node → List Node → Prop
  | nil : KeepsTexts [] []
  | task {n n' : Node} {rest rest' : List Node} : n.checked ≠ none →
      KeepsTexts n.children.tail n'.children.tail → KeepsTexts rest rest' → KeepsTexts (n :: rest) (n' :: rest')
  | free {n n' : Node} {rest rest' : List Node} : n.checked = none →
      ((∀ k ∈ Node.preorders n.children, k.checked = none) → n'.plainText = n.plainText) →
      KeepsTexts n.children n'.children → KeepsTexts rest rest' → KeepsTexts (n :: rest) (n' :: rest')

theorem KeepsTexts.tail {ns ns' : List Node} (h : KeepsTexts ns ns') : KeepsTexts ns.tail ns'.tail := by
  cases h with
  | nil => exact .nil
  | task _ _ hrest => exact hrest
  | free _ _ _ hrest => exact hrest

theorem KeepsTexts.append {a a' b b' : List Node} (ha : KeepsTexts a a') (hb : KeepsTexts b b') :
    KeepsTexts (a ++ b) (a' ++ b') := by
  induction ha with
  | nil => exact hb
  | task hchecked htail _ _ ih => exact .task hchecked htail ih
  | free hchecked htext hchildren _ _ ih => exact .free hchecked htext hchildren ih

theorem KeepsTexts.refl (ns : List Node) : KeepsTexts ns ns := by
  induction ns using Node.forest_induction with
  | nil => exact .nil
  | cons n rest ihn ihrest =>
    cases hchecked : n.checked with
    | some b => exact .task (by simp [hchecked]) ihn.tail ihrest
    | none => exact .free hchecked (fun _ => rfl) ihn ihrest

/-- Without tasks, the forests have the same text. -/
theorem KeepsTexts.plainTexts_eq {ns ns' : List Node} (h : KeepsTexts ns ns') :
    (∀ n ∈ Node.preorders ns, n.checked = none) → Node.plainTexts ns' = Node.plainTexts ns := by
  induction h with
  | nil => exact fun _ => rfl
  | task hchecked _ _ _ _ => exact fun hnone => absurd (hnone _ (Node.mem_preorders_of_mem List.mem_cons_self)) hchecked
  | free _ htext _ _ _ ihrest =>
    intro hnone
    rw [Node.preorders_cons, List.forall_mem_cons, List.forall_mem_append] at hnone
    rw [Node.plainTexts, Node.plainTexts, htext hnone.2.1, ihrest hnone.2.2]

theorem tail_readTask {s : Sheet} {m n : Node} (h : readTask s m = .ok n) : n.children.tail = m.children.tail := by
  rcases readTask_cases h with rfl | ⟨_, _, _, _, hchildren, rfl⟩
  · rfl
  · rw [hchildren]
    rfl

/-- A node keeps its text, if its children do and it was read for a checkbox before. -/
theorem KeepsTexts.cons_of_readTask {m n n' : Node} {rest rest' : List Node}
    (hread : readTask (Sheet.ofText source) m = .ok n) (hdata : ownData m = ownData n')
    (hchildren : KeepsTexts m.children n'.children) (hrest : KeepsTexts rest rest') :
    KeepsTexts (n :: rest) (n' :: rest') := by
  cases hchecked : n.checked with
  | some b => exact .task (by simp [hchecked]) (by rw [tail_readTask hread]; exact hchildren.tail) hrest
  | none =>
    obtain rfl := eq_of_readTask hread hchecked
    exact .free hchecked (fun hnone => plainText_eq_of_ownData hdata (hchildren.plainTexts_eq hnone)) hchildren hrest

/-- If only places are lost, then so are only the texts of checkboxes. -/
theorem LosesPlaces.keepsTexts {ns ns' : List Node} (h : LosesPlaces source Eq ns ns') : KeepsTexts ns ns' := by
  induction h with
  | nil => exact .nil
  | cons hread _ hdata _ _ _ _ ihchildren ihrest => exact .cons_of_readTask hread hdata ihchildren ihrest

theorem LosesPlace.keepsTexts {k : Nat} {ns ns' : List Node} (h : LosesPlace source Eq k ns ns') :
    KeepsTexts ns ns' := by
  induction h with
  | here hread _ hdata _ _ hchildren => exact .cons_of_readTask hread hdata hchildren.keepsTexts (.refl _)
  | later n _ ih => exact (KeepsTexts.refl [n]).append ih
  | @inside _ m n n' rest children' _ hread hread' hinside ih =>
    cases hchecked : n.checked with
    | some b =>
      refine .task (by simp [hchecked]) ?_ (.refl rest)
      rw [tail_readTask hread, tail_readTask hread']
      exact ih.tail
    | none =>
      obtain rfl := Document.eq_of_readTask hread hchecked
      obtain rfl := hinside.eq_of_readTask hread hchecked hread'
      exact .cons_of_readTask hread rfl ih (.refl rest)

/-! ## Building without places -/

/-- Nodes that are built without places have neither places nor checkboxes. -/
theorem plain_of_bareNodes {es : List Element} {ns : List Node} (h : bareNodes es = .ok ns) :
    ∀ n ∈ Node.preorders ns, n.position = none ∧ n.checked = none := by
  intro n hn
  obtain ⟨_, _, -, -, hposition, hchecked⟩ := exists_of_forall₂ ((bareNodes_yields 0 es).of_ok h) n hn
  exact ⟨hposition, hchecked⟩

/-- A block by itself keeps its kind, and has neither a place nor a checkbox. -/
theorem ownData_blockData {e : Element} {node : Node} (hi : isInline e.kind = false) (h : blockData e = .ok node) :
    node.checked = none ∧ node.position = none ∧ KeepsKind (ownData node) { kind := blockKind e.kind } := by
  obtain ⟨hkind, -, hposition, hchecked⟩ := (blockData_yields e).of_ok h
  refine ⟨hchecked, hposition, Or.inr ⟨?_, ?_⟩⟩
  · exact fun htext => blockKind_ne_text hi (hkind.symm.trans htext)
  · rw [← hkind]
    rfl

theorem bearsFields_of_not_mem {count : Nat} {above : List Element} {e : Element} (h : e.kind ∉ fieldKinds) :
    Site.bearsFields count ⟨above, e⟩ = false := by
  simp [Site.bearsFields, h]

/-- Outside of lines and of blocks without a place, a block bears fields if its node has them. -/
theorem bearsFields_eq {count : Nat} {above : List Element} {e : Element} {node : Node} (hi : isInline e.kind = false)
    (hinline : anyInline above = false) (hplaced : anyUnplaced count above = false) (h : blockData e = .ok node) :
    Site.bearsFields count ⟨above, e⟩ = node.hasFields := by
  rw [blockData_hasFields hi h, Site.bearsFields, hinline, hplaced, Bool.not_false, Bool.and_true, Bool.and_true]

theorem fieldCount_bare (kind : String) (inner : List Node) :
    Node.fieldCount [{ kind := kind, children := inner }] = Node.fieldCount inner := by
  rw [Node.fieldCount_singleton]
  simp [Node.hasFields]

/-- The nodes of one element lose their places and their fields, if those of its children do. -/
theorem exists_bareNode {above : List Element} {cs : List Container} {e : Element} {nodes : List Node}
    (hinline : anyInline above = false) (hplaced : anyUnplaced (lines source).length above = false)
    (ih : ∀ {cs : List Container} {ns : List Node}, anyInline (e :: above) = false →
      anyUnplaced (lines source).length (e :: above) = false →
      placedNodes (Sheet.ofText source) cs e.children = .ok ns → ∃ bare, bareNodes e.children = .ok bare ∧
        LosesPlaces source KeepsKind ns bare ∧
        Node.fieldCount ns = Node.fieldCount bare + lostFields (lines source).length (e :: above) e.children)
    (h : PlacedNode source cs e nodes) : ∃ bare, BareNode e bare ∧ LosesPlaces source KeepsKind nodes bare ∧
      Node.fieldCount nodes = Node.fieldCount bare + (Site.bearsFields (lines source).length ⟨above, e⟩).toNat +
        lostFields (lines source).length (e :: above) e.children := by
  have hrefl : ∀ n, KeepsKind n n := fun _ => Or.inl rfl
  cases h with
  | transparent ht hns =>
    have hi : isInline e.kind = false := by
      cases hi : isInline e.kind with
      | false => rfl
      | true => rw [isTransparent_of_isInline hi] at ht; cases ht
    obtain ⟨bare, hbare, hloses, hcount⟩ := ih (by simpa [anyInline, hi] using hinline)
      (by rw [anyUnplaced_cons hi hplaced, ht]; rfl) hns
    refine ⟨bare, .transparent ht hbare, hloses, ?_⟩
    rw [bearsFields_of_not_mem (not_mem_fieldKinds (Or.inl ht)), hcount]
    rfl
  | @inline n hi hn =>
    have hplain : ∀ k ∈ Node.preorders [n], k.position = none ∧ k.checked = none := by
      intro k hk
      rw [Node.preorders_singleton] at hk
      obtain ⟨_, _, -, -, hposition, hchecked⟩ := exists_of_forall₂ ((inlineNode_yields 0 true e).of_ok hn) k hk
      exact ⟨hposition, hchecked⟩
    refine ⟨[n], .inline hi hn, .refl hrefl hplain, ?_⟩
    rw [bearsFields_of_not_mem (not_mem_fieldKinds (Or.inr hi)),
      lostFields_of_hidden (Or.inr (by simp [anyInline, hi]))]
    rfl
  | @bare node inner ht hi hnode hlines hinner =>
    obtain ⟨hchecked, hposition, hkeeps⟩ := ownData_blockData hi hnode
    have hplain := plain_of_bareNodes hinner
    have hread : readTask (Sheet.ofText source) { node with children := inner } = .ok { node with children := inner } :=
      readTask_of_position_eq_none fun c hc => (hplain c (Node.mem_preorders_of_mem (List.mem_of_mem_head? hc))).1
    have hunplaced : anyUnplaced (lines source).length (e :: above) = true := by
      have hlies : liesIn (lines source).length e.lines = false := by rw [← isSome_blockLines, hlines]; rfl
      rw [anyUnplaced_cons hi hplaced, ht, hlies]
      rfl
    refine ⟨[_], .block ht hi hinner, .cons hread hchecked hkeeps rfl rfl (.refl hrefl hplain) .nil, ?_⟩
    rw [lostFields_of_hidden (Or.inl hunplaced), bearsFields_eq hi hinline hplaced hnode, fieldCount_bare,
      Node.fieldCount_singleton]
    exact Nat.add_comm node.hasFields.toNat (Node.fieldCount inner)
  | @block node n inner first last ht hi hnode hlines hinner hread =>
    obtain ⟨hchecked, hposition, hkeeps⟩ := ownData_blockData hi hnode
    have hlies : liesIn (lines source).length e.lines = true := by rw [← isSome_blockLines, hlines]; rfl
    obtain ⟨bare, hbare, hloses, hcount⟩ := ih (by simpa [anyInline, hi] using hinline)
      (by rw [anyUnplaced_cons hi hplaced, ht, hlies]; rfl) hinner
    refine ⟨[_], .block ht hi hbare, .cons hread hchecked hkeeps rfl rfl hloses .nil, ?_⟩
    have hsame : Node.hasFields
        { node with position := some (blockPlace source cs e.kind first last), children := inner }
          = node.hasFields := rfl
    rw [bearsFields_eq hi hinline hplaced hnode, fieldCount_cons_of_readTask hread, fieldCount_bare, hsame, hcount,
      Node.fieldCount_nil]
    omega

/-- Elements that can be built with places can be built without. The nodes lose their places, and as many of them lose
their fields as there are blocks to lose them. -/
theorem exists_bareNodes (es : List Element) : ∀ {above : List Element} {cs : List Container} {ns : List Node},
    anyInline above = false → anyUnplaced (lines source).length above = false →
    placedNodes (Sheet.ofText source) cs es = .ok ns → ∃ bare, bareNodes es = .ok bare ∧
      LosesPlaces source KeepsKind ns bare ∧
      Node.fieldCount ns = Node.fieldCount bare + lostFields (lines source).length above es := by
  induction es using Element.forest_induction with
  | nil =>
    intro above cs ns _ _ h
    cases h
    exact ⟨[], rfl, .nil, rfl⟩
  | cons e rest ihe ihrest =>
    intro above cs ns hinline hplaced h
    obtain ⟨nodes, more, hnodes, hmore, rfl⟩ := placedNodes_cons_eq_ok h
    obtain ⟨bare, hbare, hloses, hcount⟩ := exists_bareNode hinline hplaced ihe (placedNode_eq_ok_iff.1 hnodes)
    obtain ⟨bareMore, hbareMore, hlosesMore, hcountMore⟩ := ihrest hinline hplaced hmore
    refine ⟨bare ++ bareMore, ?_, hloses.append hlosesMore, ?_⟩
    · rw [bareNodes, bareNode_eq_ok_iff.2 hbare, hbareMore]
      rfl
    · rw [Node.fieldCount_append, Node.fieldCount_append, lostFields_cons]
      omega

/-! ## A block without lines -/

/-- An element of a forest, inside the elements of `above`, is replaced by another one. -/
inductive Replaced (e e' : Element) : List Element → List Element → List Element → Prop
  | here (rest : List Element) : Replaced e e' [] (e :: rest) (e' :: rest)
  | later {above rest rest' : List Element} (f : Element) : Replaced e e' above rest rest' →
      Replaced e e' above (f :: rest) (f :: rest')
  | inside {above children' : List Element} (f : Element) (rest : List Element) :
      Replaced e e' above f.children children' →
      Replaced e e' (above ++ [f]) (f :: rest) ({ f with children := children' } :: rest)

/-- Has a block that stands inside the elements of `above` a place of its own in a text of `count` lines? -/
def hasOwnPlace (count : Nat) (above : List Element) (e : Element) : Bool :=
  !isTransparent e.kind && !isInline e.kind && liesIn count e.lines && !anyUnplaced count above && !anyInline above

variable {e : Element} {mapped : Option (Int × Int)} {above es es' : List Element}

theorem inlineNode_congr {f : Element} {children' : List Element} (h : inlineNodes children' = inlineNodes f.children) :
    inlineNode { f with children := children' } = inlineNode f := by
  rw [inlineNode_eq, inlineNode_eq]
  simp only [h]
  rfl

/-- Parts of lines are built without regard to the lines of blocks. -/
theorem inlineNodes_of_replaced (h : Replaced e { e with lines := mapped } above es es') :
    inlineNodes es' = inlineNodes es := by
  induction h with
  | here rest =>
    have hnode : inlineNode { e with lines := mapped } = inlineNode e := by rw [inlineNode_eq, inlineNode_eq]; rfl
    rw [inlineNodes, inlineNodes, hnode]
  | later f _ ih => rw [inlineNodes, inlineNodes, ih]
  | inside f rest _ ih => rw [inlineNodes, inlineNodes, inlineNode_congr ih]

/-- So is what is below a block without a place. -/
theorem bareNodes_of_replaced (h : Replaced e { e with lines := mapped } above es es') :
    bareNodes es' = bareNodes es := by
  induction h with
  | here rest =>
    have hnode : bareNode { e with lines := mapped } = bareNode e := by
      rw [bareNode_eq, bareNode_eq, inlineNode_eq, inlineNode_eq]
      rfl
    rw [bareNodes, bareNodes, hnode]
  | later f _ ih => rw [bareNodes, bareNodes, ih]
  | @inside above children' f rest h ih =>
    have hnode : bareNode { f with children := children' } = bareNode f := by
      rw [bareNode_eq, bareNode_eq, inlineNode_congr (inlineNodes_of_replaced h)]
      simp only [ih]
    rw [bareNodes, bareNodes, hnode]

theorem blockLines_eq_none_iff : blockLines (Sheet.ofText source) mapped = none ↔
    liesIn (lines source).length mapped = false := by
  rw [← isSome_blockLines, Option.isSome_eq_false_iff, Option.isNone_iff_eq_none]

/-- An element has a place of its own inside one more element if this is transparent, or a block with lines in the
text. -/
theorem hasOwnPlace_append {count : Nat} {f : Element} : hasOwnPlace count (above ++ [f]) e =
    (hasOwnPlace count above e && !isInline f.kind && (isTransparent f.kind || liesIn count f.lines)) := by
  rw [hasOwnPlace, hasOwnPlace, anyUnplaced, anyInline, List.any_append, List.any_append, ← anyUnplaced, ← anyInline,
    List.any_cons, List.any_cons, List.any_nil, List.any_nil]
  cases isTransparent f.kind <;> cases isInline f.kind <;> cases liesIn count f.lines <;> simp

/-- The lines of an element do not matter if it is no block, or has no place with them. -/
theorem placedNode_of_lines (cs : List Container) (hmapped : liesIn (lines source).length mapped = false)
    (h : isTransparent e.kind = true ∨ isInline e.kind = true ∨ liesIn (lines source).length e.lines = false) :
    placedNode (Sheet.ofText source) cs { e with lines := mapped } = placedNode (Sheet.ofText source) cs e := by
  rw [placedNode_eq, placedNode_eq, inlineNode_eq, inlineNode_eq]
  simp only [blockPosition_ofText, blockLines_eq_none_iff.2 hmapped]
  rcases h with ht | hi | hlies
  · rw [if_pos ht, if_pos ht]
  · rw [if_pos hi, if_pos hi]
    rfl
  · rw [blockLines_eq_none_iff.2 hlies]
    rfl

/-- The nodes of an element depend on what its children become as parts of lines, without a place and, where it has
one, inside containers. -/
theorem placedNode_congr {f : Element} {children' : List Element} (cs : List Container)
    (hinline : inlineNodes children' = inlineNodes f.children) (hbare : bareNodes children' = bareNodes f.children)
    (hplaced : isInline f.kind = false → isTransparent f.kind = true ∨ liesIn (lines source).length f.lines = true →
      ∀ cs, placedNodes (Sheet.ofText source) cs children' = placedNodes (Sheet.ofText source) cs f.children) :
    placedNode (Sheet.ofText source) cs { f with children := children' } = placedNode (Sheet.ofText source) cs f := by
  rw [placedNode_eq, placedNode_eq, inlineNode_congr hinline]
  simp only [blockPosition_ofText, hbare]
  cases hi : isInline f.kind with
  | true => simp only [isTransparent_of_isInline hi, Bool.false_eq_true, if_false, if_true]
  | false =>
    cases hlies : liesIn (lines source).length f.lines with
    | true =>
      simp only [hplaced hi (Or.inr hlies)]
      rfl
    | false =>
      rw [blockLines_eq_none_iff.2 hlies]
      cases ht : isTransparent f.kind with
      | true =>
        simp only [hplaced hi (Or.inl ht)]
        rfl
      | false => rfl

/-- If the element has no place to lose, then nothing changes. -/
theorem placedNodes_of_not_hasOwnPlace (hmapped : liesIn (lines source).length mapped = false)
    (h : Replaced e { e with lines := mapped } above es es') : hasOwnPlace (lines source).length above e = false →
    ∀ cs, placedNodes (Sheet.ofText source) cs es' = placedNodes (Sheet.ofText source) cs es := by
  induction h with
  | here rest =>
    intro hplace cs
    rw [placedNodes, placedNodes, placedNode_of_lines cs hmapped]
    cases ht : isTransparent e.kind with
    | true => exact Or.inl rfl
    | false =>
      cases hi : isInline e.kind with
      | true => exact Or.inr (Or.inl rfl)
      | false => exact Or.inr (Or.inr (by simpa [hasOwnPlace, ht, hi, anyUnplaced, anyInline] using hplace))
  | later f _ ih =>
    intro hplace cs
    rw [placedNodes, placedNodes, ih hplace]
  | inside f rest h ih =>
    intro hplace cs
    rw [placedNodes, placedNodes, placedNode_congr cs (inlineNodes_of_replaced h) (bareNodes_of_replaced h)]
    intro hi hlies
    rw [hasOwnPlace_append, hi, Bool.not_false, Bool.and_true, Bool.or_eq_true_iff.2 hlies, Bool.and_true] at hplace
    exact ih hplace

/-- One node of a forest loses its place and all below it do, and `lost` of these lose their fields. -/
def LosesFields (source : List Char) (lost k : Nat) (ns ns' : List Node) : Prop :=
  LosesPlace source KeepsKind k ns ns' ∧ Node.fieldCount ns = Node.fieldCount ns' + lost

theorem LosesFields.append_left {lost k : Nat} {b b' : List Node} (h : LosesFields source lost k b b')
    (a : List Node) : LosesFields source lost ((Node.preorders a).length + k) (a ++ b) (a ++ b') := by
  refine ⟨h.1.append_left a, ?_⟩
  rw [Node.fieldCount_append, Node.fieldCount_append, h.2, Nat.add_assoc]

theorem LosesFields.append_right {lost k : Nat} {a a' : List Node} (h : LosesFields source lost k a a')
    (b : List Node) : LosesFields source lost k (a ++ b) (a' ++ b) := by
  refine ⟨h.1.append_right b, ?_⟩
  rw [Node.fieldCount_append, Node.fieldCount_append, h.2, Nat.add_right_comm]

/-- A block loses what its children lose. -/
theorem LosesFields.inside {lost k : Nat} {m n n' : Node} {children' : List Node} (hchecked : m.checked = none)
    (hread : readTask (Sheet.ofText source) m = .ok n)
    (hread' : readTask (Sheet.ofText source) { m with children := children' } = .ok n')
    (h : LosesFields source lost k m.children children') : LosesFields source lost (k + 1) [n] [n'] := by
  refine ⟨.inside hchecked hread hread' h.1, ?_⟩
  have hfields : Node.fieldCount [n] = m.hasFields.toNat + Node.fieldCount m.children :=
    fieldCount_cons_of_readTask hread []
  have hfields' : Node.fieldCount [n'] = m.hasFields.toNat + Node.fieldCount children' :=
    fieldCount_cons_of_readTask hread' []
  rw [hfields, hfields', h.2, Nat.add_assoc]

/-- If none of them loses fields, then only places are lost. -/
theorem LosesFields.losesPlace {k : Nat} {ns ns' : List Node} (h : LosesFields source 0 k ns ns') :
    LosesPlace source Eq k ns ns' :=
  h.1.eq_of_fieldCount_le (Nat.le_of_eq h.2)

/-- Of two lists of origins, the ones with the number `k` are the element `e` and what it is replaced by. Nodes have the
numbers of their origins (`Placed.map_outline`). -/
def ReplacedAt (e e' : Element) (k : Nat) (os os' : List Origin) : Prop :=
  os[k]? = some (.element e false) ∧ os'[k]? = some (.element e' false)

theorem ReplacedAt.append_left {e e' : Element} {k : Nat} {os os' : List Origin} (h : ReplacedAt e e' k os os')
    (before : List Origin) : ReplacedAt e e' (before.length + k) (before ++ os) (before ++ os') := by
  refine ⟨?_, ?_⟩
  · rw [List.getElem?_append_right (Nat.le_add_right _ _), Nat.add_sub_cancel_left, h.1]
  · rw [List.getElem?_append_right (Nat.le_add_right _ _), Nat.add_sub_cancel_left, h.2]

theorem ReplacedAt.append_right {e e' : Element} {k : Nat} {os os' : List Origin} (h : ReplacedAt e e' k os os')
    (after : List Origin) : ReplacedAt e e' k (os ++ after) (os' ++ after) := by
  obtain ⟨hlt, -⟩ := List.getElem?_eq_some_iff.1 h.1
  obtain ⟨hlt', -⟩ := List.getElem?_eq_some_iff.1 h.2
  refine ⟨?_, ?_⟩
  · rw [List.getElem?_append_left hlt, h.1]
  · rw [List.getElem?_append_left hlt', h.2]

/-- There are as many nodes as there are origins. -/
theorem length_preorders_of_placedNodes {cs : List Container} {ns : List Node}
    (h : placedNodes (Sheet.ofText source) cs es = .ok ns) :
    (Node.preorders ns).length = (origins (lines source).length false es).length := by
  have houtlines := congrArg List.length ((placedNodes_yields source es cs).of_ok h).map_outline
  rwa [List.length_map, List.length_map] at houtlines

theorem length_preorders_of_placedNode {cs : List Container} {nodes : List Node}
    (h : placedNode (Sheet.ofText source) cs e = .ok nodes) :
    (Node.preorders nodes).length = (originsOf (lines source).length false e).length := by
  have hone : placedNodes (Sheet.ofText source) cs [e] = .ok nodes := by
    rw [placedNodes, h, placedNodes]
    simp [bind, Except.bind, pure, Except.pure]
  rw [length_preorders_of_placedNodes hone, origins, origins, List.append_nil]

/-- A block with a place has a node without it as well. -/
theorem exists_placedNode_unplaced {cs : List Container} {nodes : List Node}
    (hmapped : liesIn (lines source).length mapped = false) (hplace : hasOwnPlace (lines source).length [] e = true)
    (h : PlacedNode source cs e nodes) : ∃ nodes', PlacedNode source cs { e with lines := mapped } nodes' ∧
      LosesFields source (lostFields (lines source).length [] e.children) 0 nodes nodes' := by
  simp only [hasOwnPlace, Bool.and_eq_true, Bool.not_eq_true'] at hplace
  obtain ⟨⟨⟨⟨ht, hi⟩, hlies⟩, -⟩, -⟩ := hplace
  cases h with
  | transparent ht' => rw [ht] at ht'; cases ht'
  | inline hi' => rw [hi] at hi'; cases hi'
  | bare _ _ _ hlines _ => rw [blockLines_eq_none_iff, hlies] at hlines; cases hlines
  | @block node n inner first last _ _ hnode _ hinner hread =>
    obtain ⟨hchecked, hposition, -⟩ := ownData_blockData hi hnode
    obtain ⟨bare, hbare, hloses, hcount⟩ := @exists_bareNodes source e.children [] _ _ rfl rfl hinner
    refine ⟨[{ node with children := bare }], .bare ht hi hnode (blockLines_eq_none_iff.2 hmapped) hbare,
      .here hread hchecked rfl hposition hchecked hloses, ?_⟩
    have hfields : Node.fieldCount [n] = node.hasFields.toNat + Node.fieldCount inner :=
      fieldCount_cons_of_readTask hread []
    have hfields' : Node.fieldCount [{ node with children := bare }] = node.hasFields.toNat + Node.fieldCount bare :=
      Node.fieldCount_singleton _
    rw [hfields, hfields', hcount, Nat.add_assoc]

/-- The origin of a block with a place stands first. -/
theorem replacedAt_originsOf {count : Nat} (hplace : hasOwnPlace count [] e = true) :
    ReplacedAt e { e with lines := mapped } 0 (originsOf count false e)
      (originsOf count false { e with lines := mapped }) := by
  simp only [hasOwnPlace, Bool.and_eq_true, Bool.not_eq_true'] at hplace
  obtain ⟨⟨⟨⟨ht, hi⟩, -⟩, -⟩, -⟩ := hplace
  rw [originsOf_block ht hi, originsOf_block (e := { e with lines := mapped }) ht hi]
  exact ⟨rfl, rfl⟩

/-- An element around a block with a place loses what its children lose. -/
theorem exists_placedNode_around {lost : Nat} {f : Element} {children' : List Element} {cs : List Container}
    {nodes : List Node} (hi : isInline f.kind = false)
    (hlies : (isTransparent f.kind || liesIn (lines source).length f.lines) = true)
    (ih : ∀ {cs : List Container} {ns : List Node}, placedNodes (Sheet.ofText source) cs f.children = .ok ns →
      ∃ k ns', placedNodes (Sheet.ofText source) cs children' = .ok ns' ∧ ReplacedAt e { e with lines := mapped } k
        (origins (lines source).length false f.children) (origins (lines source).length false children') ∧
        LosesFields source lost k ns ns')
    (h : PlacedNode source cs f nodes) :
    ∃ k nodes', PlacedNode source cs { f with children := children' } nodes' ∧
      ReplacedAt e { e with lines := mapped } k (originsOf (lines source).length false f)
        (originsOf (lines source).length false { f with children := children' }) ∧
      LosesFields source lost k nodes nodes' := by
  cases h with
  | transparent ht hinner =>
    obtain ⟨k, inner', hinner', hreplaced, hloses⟩ := ih hinner
    refine ⟨k, inner', .transparent ht hinner', ?_, hloses⟩
    rwa [originsOf_transparent ht, originsOf_transparent (e := { f with children := children' }) ht]
  | inline hi' => rw [hi] at hi'; cases hi'
  | bare ht _ _ hlines _ =>
    rw [blockLines_eq_none_iff] at hlines
    rw [ht, hlines] at hlies
    cases hlies
  | @block node n inner first last ht _ hnode hlines hinner hread =>
    obtain ⟨hchecked, -, -⟩ := ownData_blockData hi hnode
    obtain ⟨k, inner', hinner', hreplaced, hloses⟩ := ih hinner
    obtain ⟨n', hread', -⟩ := @readTask_ofText source
      { node with position := some (blockPlace source cs f.kind first last), children := inner' }
      ((placedNodes_yields source _ _).of_ok hinner').isSound
    refine ⟨k + 1, [n'], .block ht hi hnode hlines hinner' hread', ?_, ?_⟩
    · rw [ht, Bool.false_or] at hlies
      rw [originsOf_block ht hi, originsOf_block (e := { f with children := children' }) ht hi, hlies]
      exact hreplaced
    · exact .inside (m := { node with position := some (blockPlace source cs f.kind first last), children := inner })
        hchecked hread hread' hloses

/-- If the element has a place, then there are nodes without it as well. Its node loses its place and all below it do,
and as many nodes lose their fields as there are blocks in the element to lose them. -/
theorem exists_placedNodes_of_replaced (hmapped : liesIn (lines source).length mapped = false)
    (h : Replaced e { e with lines := mapped } above es es') : hasOwnPlace (lines source).length above e = true →
    ∀ {cs : List Container} {ns : List Node}, placedNodes (Sheet.ofText source) cs es = .ok ns →
    ∃ k ns', placedNodes (Sheet.ofText source) cs es' = .ok ns' ∧ ReplacedAt e { e with lines := mapped } k
      (origins (lines source).length false es) (origins (lines source).length false es') ∧
      LosesFields source (lostFields (lines source).length [] e.children) k ns ns' := by
  induction h with
  | here rest =>
    intro hplace cs ns hns
    obtain ⟨nodes, more, hnodes, hmore, rfl⟩ := placedNodes_cons_eq_ok hns
    obtain ⟨nodes', hnodes', hloses⟩ := exists_placedNode_unplaced hmapped hplace (placedNode_eq_ok_iff.1 hnodes)
    refine ⟨0, nodes' ++ more, ?_, (replacedAt_originsOf hplace).append_right _, hloses.append_right more⟩
    rw [placedNodes, placedNode_eq_ok_iff.2 hnodes', hmore]
    rfl
  | later f _ ih =>
    intro hplace cs ns hns
    obtain ⟨nodes, more, hnodes, hmore, rfl⟩ := placedNodes_cons_eq_ok hns
    obtain ⟨k, more', hmore', hreplaced, hloses⟩ := ih hplace hmore
    refine ⟨(Node.preorders nodes).length + k, nodes ++ more', ?_, ?_, hloses.append_left nodes⟩
    · rw [placedNodes, hnodes, hmore']
      rfl
    · rw [length_preorders_of_placedNode hnodes]
      exact hreplaced.append_left _
  | inside f rest _ ih =>
    intro hplace cs ns hns
    obtain ⟨nodes, more, hnodes, hmore, rfl⟩ := placedNodes_cons_eq_ok hns
    rw [hasOwnPlace_append, Bool.and_eq_true, Bool.and_eq_true, Bool.not_eq_true'] at hplace
    obtain ⟨⟨hplace, hi⟩, hlies⟩ := hplace
    obtain ⟨k, nodes', hnodes', hreplaced, hloses⟩ :=
      exists_placedNode_around hi hlies (ih hplace) (placedNode_eq_ok_iff.1 hnodes)
    refine ⟨k, nodes' ++ more, ?_, hreplaced.append_right _, hloses.append_right more⟩
    rw [placedNodes, placedNode_eq_ok_iff.2 hnodes', hmore]
    rfl

/-! ## The document -/

/-- Is a place all that can be lost with the lines of the element? In the element there is no block with fields, apart
from those that are below a block without a place. -/
def LosesOnlyPlaces (count : Nat) (e : Element) : Prop := ∀ s ∈ sites [] e.children, s.bearsFields count = false

instance {count : Nat} {e : Element} : Decidable (LosesOnlyPlaces count e) :=
  inferInstanceAs (Decidable (∀ s ∈ sites [] e.children, s.bearsFields count = false))

theorem lostFields_eq_zero_iff {count : Nat} {e : Element} :
    lostFields count [] e.children = 0 ↔ LosesOnlyPlaces count e := by
  rw [lostFields, List.countP_eq_zero, LosesOnlyPlaces]
  exact forall₂_congr fun s _ => iff_of_eq (Bool.not_eq_true _)

/-- In front of the nodes of the elements stand the document and its front matter. -/
theorem exists_documentOrigins_eq {count frontMatter : Nat} {header : List Node}
    (hheader : IsHeader source frontMatter header) :
    ∃ before : List Origin, before.length = (Node.preorders header).length ∧
      ∀ es, documentOrigins count es frontMatter = .document :: (before ++ origins count false es) := by
  refine ⟨if frontMatter = 0 then [] else [.frontMatter], ?_, fun _ => rfl⟩
  unfold IsHeader at hheader
  split at hheader
  · rename_i hzero
    rw [if_pos hzero, hheader]
    rfl
  · rename_i hpos
    obtain ⟨value, position, rfl, -, -⟩ := hheader
    rw [if_neg hpos]
    rfl

/-- Whatever block of a document is given lines outside the source, the document is built as before. If the block has a
place to lose, then its node loses it, and as many nodes lose their fields as there are blocks in it to lose them. -/
theorem exists_buildTree_of_replaced {frontMatter : Nat} {tree : Node}
    (hmapped : liesIn (lines source).length mapped = false) (h : Replaced e { e with lines := mapped } above es es')
    (htree : buildTree source es frontMatter = .ok tree) : ∃ tree', buildTree source es' frontMatter = .ok tree' ∧
      (hasOwnPlace (lines source).length above e = false → tree' = tree) ∧
      (hasOwnPlace (lines source).length above e = true → ∃ k, ReplacedAt e { e with lines := mapped } k
          (documentOrigins (lines source).length es frontMatter)
          (documentOrigins (lines source).length es' frontMatter) ∧
        LosesFields source (lostFields (lines source).length [] e.children) k [tree] [tree']) := by
  obtain ⟨header, position, hheader, -, -, hbuild⟩ := exists_buildTree_eq (le_of_buildTree_eq_ok htree)
  rw [hbuild] at htree
  obtain ⟨children, hchildren, rfl⟩ := map_eq_ok_iff.1 htree
  cases hplace : hasOwnPlace (lines source).length above e with
  | false =>
    refine ⟨_, ?_, fun _ => rfl, fun h => nomatch h⟩
    rw [hbuild, placedNodes_of_not_hasOwnPlace hmapped h hplace, hchildren]
    rfl
  | true =>
    obtain ⟨k, children', hchildren', hreplaced, hloses⟩ := exists_placedNodes_of_replaced hmapped h hplace hchildren
    refine ⟨{ kind := "root", children := header ++ children', position := some position }, ?_, fun h => (nomatch h),
      fun _ => ⟨(Node.preorders header).length + k + 1, ?_, ?_⟩⟩
    · rw [hbuild, hchildren']
      rfl
    · obtain ⟨before, hlength, hbefore⟩ := exists_documentOrigins_eq hheader
      rw [hbefore, hbefore, ← hlength]
      exact hreplaced.append_left before
    · exact .inside (m := { kind := "root", children := header ++ children, position := some position }) rfl rfl rfl
        (hloses.append_left header)

/-- Whatever block of a document is given lines outside the source, the document is built as before. If the block has no
place to lose, then nothing changes. If it has one, then its node loses it, and all below it do; the other nodes stay as
they are but for the tasks of the items around. Below the block, nodes that are no texts may lose all but their kinds.
So places and checkboxes are all that changes exactly if no block there has fields, apart from those that are below a
block without a place before. Then all texts without tasks stay as they are. -/
theorem buildTree_replaced {frontMatter : Nat} {tree : Node} (hmapped : liesIn (lines source).length mapped = false)
    (hreplaced : Replaced e { e with lines := mapped } above es es')
    (htree : buildTree source es frontMatter = .ok tree) : ∃ tree', buildTree source es' frontMatter = .ok tree' ∧
      (hasOwnPlace (lines source).length above e = false → tree' = tree) ∧
      (hasOwnPlace (lines source).length above e = true → ∃ k, ReplacedAt e { e with lines := mapped } k
          (documentOrigins (lines source).length es frontMatter)
          (documentOrigins (lines source).length es' frontMatter) ∧
        LosesPlace source KeepsKind k [tree] [tree'] ∧
        (LosesOnlyPlaces (lines source).length e → LosesPlace source Eq k [tree] [tree'])) ∧
      ((tree' = tree ∨ ∃ k, LosesPlace source Eq k [tree] [tree']) ↔
        (hasOwnPlace (lines source).length above e = true → LosesOnlyPlaces (lines source).length e)) ∧
      ((tree' = tree ∨ ∃ k, LosesPlace source Eq k [tree] [tree']) → KeepsTexts [tree] [tree']) := by
  obtain ⟨tree', htree', hsame, hloses⟩ := exists_buildTree_of_replaced hmapped hreplaced htree
  have honly : ∀ k, LosesFields source (lostFields (lines source).length [] e.children) k [tree] [tree'] →
      LosesOnlyPlaces (lines source).length e → LosesPlace source Eq k [tree] [tree'] := by
    intro k hfields hzero
    rw [lostFields_eq_zero_iff.2 hzero] at hfields
    exact hfields.losesPlace
  refine ⟨tree', htree', hsame, fun hplace => ?_, ⟨fun hkept hplace => ?_, fun hzero => ?_⟩, ?_⟩
  · obtain ⟨k, hat, hfields⟩ := hloses hplace
    exact ⟨k, hat, hfields.1, honly k hfields⟩
  · obtain ⟨k, -, -, hcount⟩ := hloses hplace
    have hsameCount : Node.fieldCount [tree'] = Node.fieldCount [tree] := by
      rcases hkept with rfl | ⟨_, hkept⟩
      · rfl
      · exact hkept.fieldCount_eq
    rw [← lostFields_eq_zero_iff]
    omega
  · cases hplace : hasOwnPlace (lines source).length above e with
    | false => exact Or.inl (hsame hplace)
    | true =>
      obtain ⟨k, -, hfields⟩ := hloses hplace
      exact Or.inr ⟨k, honly k hfields (hzero hplace)⟩
  · rintro (rfl | ⟨k, hkept⟩)
    · exact .refl [tree']
    · exact hkept.keepsTexts

/-- A block on the first line of a source, with its children. -/
def onFirstLine (kind : String) (children : List Element) : Element :=
  { kind := kind, lines := some (0, 1), children := children }

/-- A block quote on the first line with a paragraph in it. -/
def letterQuote : Element :=
  onFirstLine "blockquote" [onFirstLine "paragraph" [
    { kind := "inline", children := [{ kind := "text", content := "a" }] }]]

/-- A list on the first line with one item, and a block in the item. -/
def listAround (child : Element) : Element := onFirstLine "bullet_list" [onFirstLine "list_item" [child]]

/-- The number of nodes with places in a document. -/
def countPlaced (tree : Node) : Nat := tree.preorder.countP fun n => n.position.isSome

/-- Of the document, the list, the item, the quote, its paragraph and the text, the quote has the number three. -/
theorem eq_three_of_replacedAt {es' : List Element} {k : Nat}
    (h : ReplacedAt letterQuote { letterQuote with lines := none } k
      (documentOrigins 1 [listAround letterQuote] 0) (documentOrigins 1 es' 0)) : k = 3 := by
  have hkinds : (documentOrigins 1 [listAround letterQuote] 0).map Origin.kind
      = ["root", "list", "listItem", "blockquote", "paragraph", "text"] := by decide +kernel
  have hkind := congrArg (Option.map Origin.kind) h.1
  rw [← List.getElem?_map, hkinds] at hkind
  match k, hkind with
  | 3, _ => rfl
  | 0, h | 1, h | 2, h | 4, h | 5, h => revert h; decide
  | k + 6, h => cases h

/-- A quote in a list that is given no lines loses places, and only places. -/
theorem buildTree_replaced_quote : liesIn (lines "- > a".toList).length none = false ∧
    Replaced letterQuote { letterQuote with lines := none }
      [onFirstLine "list_item" [letterQuote], listAround letterQuote] [listAround letterQuote]
      [listAround { letterQuote with lines := none }] ∧
    ∃ tree, buildTree "- > a".toList [listAround letterQuote] 0 = .ok tree ∧
      ∃ tree', buildTree "- > a".toList [listAround { letterQuote with lines := none }] 0 = .ok tree' ∧
        countPlaced tree = 5 ∧ countPlaced tree' = 3 ∧ LosesPlace "- > a".toList Eq 3 [tree] [tree'] := by
  have hreplaced : Replaced letterQuote { letterQuote with lines := none }
      ([] ++ [onFirstLine "list_item" [letterQuote]] ++ [listAround letterQuote]) [listAround letterQuote]
      [listAround { letterQuote with lines := none }] := .inside _ [] (.inside _ [] (.here []))
  have hplaced : (buildTree "- > a".toList [listAround letterQuote] 0).toOption.map countPlaced = some 5 := by
    decide +kernel
  have hplaced' : (buildTree "- > a".toList [listAround { letterQuote with lines := none }] 0).toOption.map countPlaced
      = some 3 := by
    decide +kernel
  obtain ⟨tree, htree, hcount⟩ := map_toOption_eq_some_iff.1 hplaced
  obtain ⟨_, hbuilt, hcount'⟩ := map_toOption_eq_some_iff.1 hplaced'
  obtain ⟨tree', htree', -, hloses, -, -⟩ := buildTree_replaced rfl hreplaced htree
  obtain rfl := Except.ok.inj (hbuilt.symm.trans htree')
  obtain ⟨k, hat, -, honly⟩ := hloses (by decide +kernel)
  obtain rfl := eq_three_of_replacedAt hat
  exact ⟨rfl, hreplaced, tree, htree, _, htree', hcount, hcount', honly (by decide +kernel)⟩

/-- A block quote on the first line with code in it. -/
def fenceQuote : Element := onFirstLine "blockquote" [{ onFirstLine "fence" [] with content := "x\n" }]

/-- Without the lines of the quote around it, a code block loses not only its place: its code is lost. -/
theorem not_losesPlace_fence : ∃ tree tree',
    buildTree "a\nb".toList [fenceQuote] 0 = .ok tree ∧
    buildTree "a\nb".toList [{ fenceQuote with lines := none }] 0 = .ok tree' ∧
    ¬ (tree' = tree ∨ ∃ k, LosesPlace "a\nb".toList Eq k [tree] [tree']) := by
  have hfields : (buildTree "a\nb".toList [fenceQuote] 0).toOption.map
      (fun tree => Node.fieldCount [tree]) = some 1 := by
    decide +kernel
  have hfields' : (buildTree "a\nb".toList [{ fenceQuote with lines := none }] 0).toOption.map
      (fun tree => Node.fieldCount [tree]) = some 0 := by
    decide +kernel
  obtain ⟨tree, htree, hcount⟩ := map_toOption_eq_some_iff.1 hfields
  obtain ⟨tree', htree', hcount'⟩ := map_toOption_eq_some_iff.1 hfields'
  refine ⟨tree, tree', htree, htree', ?_⟩
  rintro (rfl | ⟨k, hloses⟩)
  · rw [hcount] at hcount'
    cases hcount'
  · rw [hloses.fieldCount_eq, hcount] at hcount'
    cases hcount'

end MarkLint.Document

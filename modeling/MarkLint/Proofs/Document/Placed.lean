import MarkLint.Proofs.Document.Origin
import MarkLint.Proofs.Document.Sheet
import MarkLint.Proofs.Node.Forest

/-!
# What the builder builds

`Placed source cs es ns` relates elements inside the containers `cs` to the nodes that are built from them: transparent
elements give way to their children, a block whose lines lie outside the source passes on no place, and any other block
stands where `blockPlace` says. The builder's answers are related so, and when it has none then an element is at fault
and not a place (`placedNodes_yields`).
-/

namespace MarkLint.Document

open MarkLint.Markdown
open MarkLint.Text

/-! ## Answers and faults -/

/-- The fault lies with an element, not with a place. -/
def TreeError.isOfElement : TreeError → Prop
  | headingTag _ => True
  | unknownInline _ => True
  | outOfRange _ => False
  | noSuchLine _ => False

/-- An answer has the property `P`, and a failure is the fault of an element. -/
def Yields {α : Type} (P : α → Prop) : Except TreeError α → Prop
  | .ok a => P a
  | .error e => e.isOfElement

section Yields

variable {α β : Type} {P Q : α → Prop} {R : β → Prop} {x : Except TreeError α} {f : α → Except TreeError β}

theorem Yields.mono (h : Yields P x) (hPQ : ∀ a, P a → Q a) : Yields Q x := by
  cases x with
  | ok a => exact hPQ a h
  | error e => exact h

theorem Yields.bind (h : Yields P x) (hf : ∀ a, x = .ok a → P a → Yields R (f a)) : Yields R (x >>= f) := by
  cases x with
  | ok a => exact hf a rfl h
  | error e => exact h

theorem Yields.map {f : α → β} (h : Yields P x) (hf : ∀ a, x = .ok a → P a → R (f a)) : Yields R (x.map f) := by
  cases x with
  | ok a => exact hf a rfl h
  | error e => exact h

theorem Yields.of_ok {a : α} (h : Yields P x) (ha : x = .ok a) : P a := by
  subst ha
  exact h

end Yields

/-! ## Elements -/

theorem inlineNode_eq (e : Element) : inlineNode e =
    match inlineKinds.lookup e.kind with
    | none => .error (.unknownInline e.kind)
    | some k =>
      let node : Node := { kind := k, value := inlineValue e, url := inlineUrl e }
      if e.kind = "image" then .ok { node with alt := some e.content }
      else match inlineNodes e.children with
        | .ok inner => .ok { node with children := inner }
        | .error e => .error e := by
  cases e
  rw [inlineNode]
  rfl

theorem bareNode_eq (e : Element) : bareNode e =
    if isTransparent e.kind then bareNodes e.children
    else if isInline e.kind then do
      let node ← inlineNode e
      return [node]
    else do
      let inner ← bareNodes e.children
      return [{ kind := blockKind e.kind, children := inner }] := by
  cases e
  rw [bareNode]
  rfl

theorem placedNode_eq (s : Sheet) (cs : List Container) (e : Element) : placedNode s cs e =
    if isTransparent e.kind then placedNodes s cs e.children
    else if isInline e.kind then do
      let node ← inlineNode e
      return [node]
    else do
      let node ← blockData e
      match ← blockPosition s cs e.kind e.lines with
      | none =>
        let inner ← bareNodes e.children
        return [{ node with children := inner }]
      | some position =>
        let added ← innerContainer s node.kind e.markup e.info position
        let inner ← placedNodes s (cs ++ added) e.children
        let node := { node with position := some position, children := inner }
        if node.kind = "listItem" then
          let item ← markTask s node
          return [item]
        else return [node] := by
  cases e
  rw [placedNode]
  rfl

/-- A block's own data give it a kind, and neither place nor children. -/
theorem blockData_yields (e : Element) : Yields (fun node => node.kind = blockKind e.kind ∧ node.children = [] ∧
    node.position = none ∧ node.checked = none) (blockData e) := by
  unfold blockData
  split
  · split
    · exact ⟨rfl, rfl, rfl, rfl⟩
    · exact trivial
  · split
    · exact ⟨rfl, rfl, rfl, rfl⟩
    · split
      · exact ⟨rfl, rfl, rfl, rfl⟩
      · split
        · exact ⟨rfl, rfl, rfl, rfl⟩
        · exact ⟨rfl, rfl, rfl, rfl⟩

/-! ## Nodes without a place -/

/-- The node has the kind that its origin gives it, and neither a place, as its origin has it, nor a checkbox. -/
def Origin.Plain (count : Nat) (o : Origin) (n : Node) : Prop :=
  n.kind = o.kind ∧ o.isPlaced count = false ∧ n.position = none ∧ n.checked = none

/-- Each of the later items is related to one of the first. -/
theorem exists_of_forall₂ {α β : Type} {R : α → β → Prop} {as : List α} {bs : List β} (h : List.Forall₂ R as bs) :
    ∀ b ∈ bs, ∃ a ∈ as, R a b := by
  induction h with
  | nil => simp
  | cons hab _ ih =>
    intro b hb
    rcases List.mem_cons.1 hb with rfl | hb
    · exact ⟨_, List.mem_cons_self, hab⟩
    · obtain ⟨a, ha, hab⟩ := ih b hb
      exact ⟨a, List.mem_cons_of_mem _ ha, hab⟩

/-- What is related to items that are related to others is so to these. -/
theorem forall₂_of_forall₂ {α β γ : Type} {R : α → β → Prop} {S : β → γ → Prop} {T : α → γ → Prop}
    (hstep : ∀ a b c, R a b → S b c → T a c) {as : List α} {bs : List β} (h : List.Forall₂ R as bs) :
    ∀ {cs : List γ}, List.Forall₂ S bs cs → List.Forall₂ T as cs := by
  induction h with
  | nil =>
    intro cs hcs
    cases hcs
    exact .nil
  | cons hR _ ih =>
    intro cs hcs
    cases hcs with
    | cons hS hrest => exact .cons (hstep _ _ _ hR hS) (ih hrest)

/-- A part of a line becomes plain nodes, if its children do; it fails for an unknown kind only. -/
theorem inlineNode_yields_of {count : Nat} {e : Element} (below : Bool)
    (h : Yields (fun ns => List.Forall₂ (Origin.Plain count) (origins count true e.children) (Node.preorders ns))
      (inlineNodes e.children)) :
    Yields (fun n => List.Forall₂ (Origin.Plain count) (originsOf count below e) n.preorder) (inlineNode e) := by
  rw [inlineNode_eq]
  split
  · exact trivial
  · rename_i k hk
    have hkind : nodeKind e.kind = k := by simp [nodeKind, hk]
    have hi : isInline e.kind = true := by simp [isInline, hk]
    have hplaced : (Origin.element e below).isPlaced count = false := by simp [Origin.isPlaced, hi]
    rw [originsOf_inline hi]
    split
    · exact .cons ⟨hkind.symm, hplaced, rfl, rfl⟩ .nil
    · split
      · rename_i inner hinner
        exact .cons ⟨hkind.symm, hplaced, rfl, rfl⟩ (h.of_ok hinner)
      · rename_i f hf
        rw [hf] at h
        exact h

theorem inlineNodes_yields (count : Nat) (below : Bool) (es : List Element) : Yields (fun ns =>
    List.Forall₂ (Origin.Plain count) (origins count below es) (Node.preorders ns)) (inlineNodes es) := by
  induction es using Element.forest_induction generalizing below with
  | nil => exact .nil
  | cons e rest ihe ihrest =>
    rw [inlineNodes, origins]
    exact (inlineNode_yields_of below (ihe true)).bind fun node _ hnode => (ihrest below).bind fun nodes _ hnodes =>
      List.rel_append hnode hnodes

theorem inlineNode_yields (count : Nat) (below : Bool) (e : Element) :
    Yields (fun n => List.Forall₂ (Origin.Plain count) (originsOf count below e) n.preorder) (inlineNode e) :=
  inlineNode_yields_of below (inlineNodes_yields count true e.children)

/-- What is below a block without a place becomes plain nodes; it fails for an unknown kind only. -/
theorem bareNodes_yields (count : Nat) (es : List Element) : Yields (fun ns =>
    List.Forall₂ (Origin.Plain count) (origins count true es) (Node.preorders ns)) (bareNodes es) := by
  induction es using Element.forest_induction with
  | nil => exact .nil
  | cons e rest ihe ihrest =>
    rw [bareNodes, bareNode_eq, origins]
    refine Yields.bind
      (P := fun ns => List.Forall₂ (Origin.Plain count) (originsOf count true e) (Node.preorders ns)) ?_
      fun nodes _ hnodes => ihrest.bind fun more _ hmore => by
        show List.Forall₂ _ _ (Node.preorders (nodes ++ more))
        rw [Node.preorders_append]
        exact List.rel_append hnodes hmore
    split
    · rw [originsOf_transparent ‹_›]
      exact ihe
    · rename_i ht
      split
      · exact (inlineNode_yields count true e).bind fun n _ hn => by
          show List.Forall₂ _ _ (n.preorder ++ [])
          rwa [List.append_nil]
      · rename_i hi
        rw [originsOf_block (by simpa using ht) (by simpa using hi)]
        refine ihe.bind fun inner _ hinner => ?_
        show List.Forall₂ _ _ (Node.preorders [_])
        rw [Node.preorders_cons, Node.preorders_nil, List.append_nil]
        exact .cons ⟨(nodeKind_block (by simpa using hi)).symm, by simp [Origin.isPlaced], rfl, rfl⟩ hinner

/-! ## The builder as a relation -/

/-- The nodes that elements become inside the given containers. -/
inductive Placed (source : List Char) : List Container → List Element → List Node → Prop
  | nil {cs : List Container} : Placed source cs [] []
  | transparent {cs : List Container} {e : Element} {rest : List Element} {ns ms : List Node} :
      isTransparent e.kind = true → Placed source cs e.children ns → Placed source cs rest ms →
      Placed source cs (e :: rest) (ns ++ ms)
  | inline {cs : List Container} {e : Element} {rest : List Element} {n : Node} {ms : List Node} :
      isTransparent e.kind = false → isInline e.kind = true → inlineNode e = .ok n → Placed source cs rest ms →
      Placed source cs (e :: rest) (n :: ms)
  | bare {cs : List Container} {e : Element} {rest : List Element} {node : Node} {inner ms : List Node} :
      isTransparent e.kind = false → isInline e.kind = false → blockData e = .ok node →
      blockLines (Sheet.ofText source) e.lines = none → bareNodes e.children = .ok inner → Placed source cs rest ms →
      Placed source cs (e :: rest) ({ node with children := inner } :: ms)
  | block {cs : List Container} {e : Element} {rest : List Element} {node n : Node} {inner ms : List Node}
      {first last : Nat} :
      isTransparent e.kind = false → isInline e.kind = false → blockData e = .ok node →
      blockLines (Sheet.ofText source) e.lines = some (first, last) →
      Placed source (cs ++ opened source node.kind e.markup e.info first
        (startColumn ((lines source).getD first []) first cs e.kind)) e.children inner →
      Marked source { node with position := some (blockPlace source cs e.kind first last), children := inner } n →
      Placed source cs rest ms → Placed source cs (e :: rest) (n :: ms)

/-! ## Places of built nodes -/

theorem offset_lt_of_columns {ls : List (List Char)} {i c d : Nat}
    (h : ¬ (Point.onLine ls i d).offset < (Point.onLine ls i c).offset) : c ≤ d := by
  simp only [Point.onLine] at h
  omega

/-- A paragraph that is moved past its checkbox has a span again. -/
theorem isSpan_startingAt {source l : List Char} {i c width : Nat} {stop : Option Point}
    (h : IsSpan source ⟨some (Point.onLine (lines source) i c), stop⟩) (hi : (lines source)[i]? = some l)
    (hw : c + width ≤ l.length) :
    IsSpan source (Position.startingAt (Point.onLine (lines source) i (c + width)) stop) := by
  obtain ⟨i', c', l', j, d, m, -, -, hj, hd, hle, heq⟩ := h
  simp only [Position.mk.injEq, Option.some.injEq, Point.onLine, Point.mk.injEq] at heq
  obtain ⟨⟨hline, -, -⟩, rfl⟩ := heq
  have hij : i ≤ j := by omega
  simp only [Position.startingAt, Option.any_some, decide_eq_true_eq]
  split
  · exact ⟨i, _, _, i, _, _, hi, hw, hi, hw, Or.inr ⟨rfl, Nat.le_refl _⟩, rfl⟩
  · rename_i hstop
    refine ⟨i, _, _, j, _, _, hi, hw, hj, hd, ?_, rfl⟩
    rcases Nat.lt_or_eq_of_le hij with hlt | rfl
    · exact Or.inl hlt
    · exact Or.inr ⟨rfl, offset_lt_of_columns hstop⟩

/-- The position starts right after a checkbox. -/
def FollowsCheckbox (source : List Char) (p : Position) : Prop :=
  ∃ i c width l checked, (lines source)[i]? = some l ∧ checkbox? (l.drop c) = some (checked, width) ∧
    p.start = some (Point.onLine (lines source) i (c + width))

/-- The node has no place, or a span of the source; if it has a checkbox, then its content starts right after it. -/
structure IsSound (source : List Char) (n : Node) : Prop where
  span : ∀ p ∈ n.position, IsSpan source p
  content : n.checked.isSome → ∃ c ∈ n.children.head?, ∃ p ∈ c.position, FollowsCheckbox source p

/-- Plain nodes are sound. -/
theorem isSound_of_plain (source : List Char) {count : Nat} {os : List Origin} {ns : List Node}
    (h : List.Forall₂ (Origin.Plain count) os ns) : ∀ n ∈ ns, IsSound source n := by
  intro n hn
  obtain ⟨_, _, -, -, hpos, hchecked⟩ := exists_of_forall₂ h n hn
  exact ⟨by simp [hpos], by simp [hchecked]⟩

/-- Dropping a checkbox changes nothing but the value of a text that comes first. -/
theorem dropCheckbox_eq (ns : List Node) : dropCheckbox ns = ns ∨ ∃ first rest text, ns = first :: rest ∧
    first.kind = "text" ∧ dropCheckbox ns = { first with value := some text } :: rest := by
  unfold dropCheckbox
  split
  · rename_i first rest
    split
    · rename_i hkind
      dsimp only
      split
      · exact Or.inr ⟨first, rest, _, rfl, hkind, rfl⟩
      · exact Or.inl rfl
    · exact Or.inl rfl
  · exact Or.inl rfl

/-- Marking a task leaves the item its kind and its place. -/
theorem Marked.kind_position {source : List Char} {item item' : Node} (h : Marked source item item') :
    item'.kind = item.kind ∧ item'.position = item.position := by
  cases h with
  | same => exact ⟨rfl, rfl⟩
  | task => exact ⟨rfl, rfl⟩

/-- Below the item, marking a task changes nothing but the place of its paragraph and the text there. -/
theorem Marked.forall₂_preorders {source : List Char} {item item' : Node} {R : Node → Node → Prop}
    (h : Marked source item item') (hrefl : ∀ n, R n n)
    (htext : ∀ n value, n.kind = "text" → R n { n with value := some value })
    (hparagraph : ∀ n i c width l stop, n.kind = "paragraph" →
      n.position = some ⟨some (Point.onLine (lines source) i c), stop⟩ → (lines source)[i]? = some l →
      c + width ≤ l.length → R n { n with
        position := some (Position.startingAt (Point.onLine (lines source) i (c + width)) stop),
        children := dropCheckbox n.children }) :
    List.Forall₂ R (Node.preorders item.children) (Node.preorders item'.children) := by
  have hsame : ∀ ns, List.Forall₂ R ns ns := fun ns => List.forall₂_same.2 fun n _ => hrefl n
  cases h with
  | same => exact hsame _
  | @task paragraph rest i c width l stop checked hch hkind hpos hi hbox =>
    have hdrop : List.Forall₂ R (Node.preorders paragraph.children)
        (Node.preorders (dropCheckbox paragraph.children)) := by
      rcases dropCheckbox_eq paragraph.children with heq | ⟨first, more, text, hfirst, hkind, heq⟩
      · rw [heq]
        exact hsame _
      · rw [heq, hfirst, Node.preorders_cons, Node.preorders_cons]
        exact .cons (htext first text hkind) (hsame _)
    rw [hch, Node.preorders_cons, Node.preorders_cons]
    exact .cons (hparagraph paragraph i c width l stop hkind hpos hi (checkbox?_add_le_length hbox))
      (List.rel_append hdrop (hsame _))

/-- Marking a task keeps all nodes of the item sound. -/
theorem Marked.isSound {source : List Char} {item item' : Node} (h : Marked source item item')
    (hs : ∀ n ∈ item.preorder, IsSound source n) : ∀ n ∈ item'.preorder, IsSound source n := by
  rw [Node.preorder_eq, List.forall_mem_cons] at hs ⊢
  constructor
  · refine ⟨h.kind_position.2 ▸ hs.1.span, fun hchecked => ?_⟩
    cases h with
    | same => exact hs.1.content hchecked
    | @task _ _ i c width l _ checked hch hkind hpos hi hbox =>
      exact ⟨_, rfl, _, rfl, i, c, width, l, checked, hi, hbox, rfl⟩
  · intro n' hn'
    have hbelow := h.forall₂_preorders (R := fun n n' => IsSound source n → IsSound source n') (fun _ => id)
      (fun _ _ _ hn => ⟨hn.span, hn.content⟩) fun n i c width l stop _ hpos hi hw hn => by
        refine ⟨fun p hp => by cases hp; exact isSpan_startingAt (hn.span _ hpos) hi hw, fun hchecked => ?_⟩
        obtain ⟨content, hcontent, hplace⟩ := hn.content hchecked
        rcases dropCheckbox_eq n.children with heq | ⟨first, more, text, hfirst, -, heq⟩
        · exact ⟨content, by rwa [heq], hplace⟩
        · rw [hfirst] at hcontent
          cases hcontent
          exact ⟨{ content with value := some text }, by rw [heq]; rfl, hplace⟩
    obtain ⟨n, hn, himp⟩ := exists_of_forall₂ hbelow n' hn'
    exact himp (hs.2 n hn)

/-- All nodes that are built are sound. -/
theorem Placed.isSound {source : List Char} {cs : List Container} {es : List Element} {ns : List Node}
    (h : Placed source cs es ns) : ∀ n ∈ Node.preorders ns, IsSound source n := by
  induction h with
  | nil => simp
  | transparent _ _ _ ihns ihms =>
    intro n hn
    rw [Node.preorders_append, List.mem_append] at hn
    exact hn.elim (ihns n) (ihms n)
  | @inline cs e rest n ms _ _ hn _ ihms =>
    have hplain := isSound_of_plain source ((inlineNode_yields 0 true e).of_ok hn)
    intro m hm
    rw [Node.preorders, List.mem_append] at hm
    exact hm.elim (hplain m) (ihms m)
  | @bare cs e rest node inner ms _ _ hnode _ hinner _ ihms =>
    obtain ⟨-, -, hpos, hchecked⟩ := (blockData_yields e).of_ok hnode
    have hplain := isSound_of_plain source ((bareNodes_yields 0 e.children).of_ok hinner)
    intro m hm
    simp only [Node.preorders_cons, List.mem_cons, List.mem_append] at hm
    rcases hm with rfl | hm | hm
    · exact ⟨by simp [hpos], by simp [hchecked]⟩
    · exact hplain m hm
    · exact ihms m hm
  | @block cs e rest node n inner ms first last _ _ hnode hlines _ hmarked _ ihinner ihms =>
    obtain ⟨-, -, -, hchecked⟩ := (blockData_yields e).of_ok hnode
    obtain ⟨hle, hlast⟩ := blockLines_bounds hlines
    have hitem := hmarked.isSound fun m hm => by
      rw [Node.preorder_eq, List.mem_cons] at hm
      rcases hm with rfl | hm
      · refine ⟨fun p hp => ?_, by simp [hchecked]⟩
        cases hp
        exact isSpan_blockPlace hle hlast
      · exact ihinner m hm
    intro m hm
    rw [Node.preorders, List.mem_append] at hm
    exact hm.elim (hitem m) (ihms m)

/-! ## The builder, case by case -/

section Cases

variable {source : List Char} {cs : List Container} {e : Element} {node : Node}

theorem placedNode_transparent (ht : isTransparent e.kind = true) :
    placedNode (Sheet.ofText source) cs e = placedNodes (Sheet.ofText source) cs e.children := by
  rw [placedNode_eq, if_pos ht]

theorem placedNode_inline (hi : isInline e.kind = true) :
    placedNode (Sheet.ofText source) cs e = (inlineNode e).map fun n => [n] := by
  rw [placedNode_eq, if_neg (by simp [isTransparent_of_isInline hi]), if_pos hi]
  cases inlineNode e <;> rfl

theorem placedNode_fault {f : TreeError} (ht : isTransparent e.kind = false) (hi : isInline e.kind = false)
    (hnode : blockData e = .error f) : placedNode (Sheet.ofText source) cs e = .error f := by
  rw [placedNode_eq, if_neg (by simp [ht]), if_neg (by simp [hi]), hnode]
  rfl

/-- A block whose lines lie outside the source is built without regard to the source. -/
theorem placedNode_bare (ht : isTransparent e.kind = false) (hi : isInline e.kind = false)
    (hnode : blockData e = .ok node) (hlines : blockLines (Sheet.ofText source) e.lines = none) :
    placedNode (Sheet.ofText source) cs e
      = (bareNodes e.children).map fun inner => [{ node with children := inner }] := by
  rw [placedNode_eq, if_neg (by simp [ht]), if_neg (by simp [hi]), hnode, blockPosition_ofText, hlines]
  show (bareNodes e.children >>= _) = _
  cases bareNodes e.children <;> rfl

/-- A list item is read for a checkbox, and any other block is left as it is. -/
def readTask (s : Sheet) (block : Node) : Except TreeError Node :=
  if block.kind = "listItem" then markTask s block else .ok block

/-- A block whose lines lie in the source gets its place and the nodes that are built inside it. -/
theorem placedNode_block {first last : Nat} (ht : isTransparent e.kind = false) (hi : isInline e.kind = false)
    (hnode : blockData e = .ok node) (hlines : blockLines (Sheet.ofText source) e.lines = some (first, last)) :
    placedNode (Sheet.ofText source) cs e = (do
      let inner ← placedNodes (Sheet.ofText source) (cs ++ opened source node.kind e.markup e.info first
        (startColumn ((lines source).getD first []) first cs e.kind)) e.children
      let block ← readTask (Sheet.ofText source)
        { node with position := some (blockPlace source cs e.kind first last), children := inner }
      return [block]) := by
  obtain ⟨hle, hlast⟩ := blockLines_bounds hlines
  rw [placedNode_eq, if_neg (by simp [ht]), if_neg (by simp [hi]), hnode, blockPosition_ofText, hlines]
  show (innerContainer _ _ _ _ (blockPlace source cs e.kind first last) >>= _) = _
  rw [innerContainer_ofText rfl (by omega)]
  refine congrArg (placedNodes _ _ e.children >>= ·) (funext fun inner => ?_)
  dsimp only [readTask]
  split <;> rfl

end Cases

/-- Reading a block for a checkbox succeeds if the nodes inside it are sound. -/
theorem readTask_ofText {source : List Char} {block : Node}
    (h : ∀ n ∈ Node.preorders block.children, IsSound source n) :
    ∃ block', readTask (Sheet.ofText source) block = .ok block' ∧ Marked source block block' := by
  unfold readTask
  split
  · exact markTask_ofText fun c hc => (h c (Node.mem_preorders_of_mem (List.mem_of_mem_head? hc))).span
  · exact ⟨block, rfl, .same⟩

/-- The builder's answers are related to its elements, and it fails by the fault of an element only. -/
theorem placedNodes_yields (source : List Char) (es : List Element) :
    ∀ cs, Yields (Placed source cs es) (placedNodes (Sheet.ofText source) cs es) := by
  induction es using Element.forest_induction with
  | nil => exact fun cs => .nil
  | cons e rest ihe ihrest =>
    intro cs
    rw [placedNodes]
    refine Yields.bind (P := fun ns => ∀ ms, Placed source cs rest ms → Placed source cs (e :: rest) (ns ++ ms)) ?_
      fun nodes _ hnodes => (ihrest cs).bind fun more _ hmore => hnodes more hmore
    cases ht : isTransparent e.kind with
    | true =>
      rw [placedNode_transparent ht]
      exact (ihe cs).mono fun ns hns ms hms => .transparent ht hns hms
    | false =>
      cases hi : isInline e.kind with
      | true =>
        rw [placedNode_inline hi]
        exact (inlineNode_yields 0 true e).map fun n hn _ ms hms => .inline ht hi hn hms
      | false =>
        have hfault := blockData_yields e
        cases hnode : blockData e with
        | error f =>
          rw [placedNode_fault ht hi hnode]
          rwa [hnode] at hfault
        | ok node =>
          cases hlines : blockLines (Sheet.ofText source) e.lines with
          | none =>
            rw [placedNode_bare ht hi hnode hlines]
            exact (bareNodes_yields 0 e.children).map fun inner hinner _ ms hms =>
              .bare ht hi hnode hlines hinner hms
          | some p =>
            rw [placedNode_block ht hi hnode hlines]
            refine (ihe _).bind fun inner _ hinner => ?_
            obtain ⟨block, hblock, hmarked⟩ := @readTask_ofText source
              { node with position := some (blockPlace source cs e.kind p.1 p.2), children := inner } hinner.isSound
            rw [hblock]
            exact fun ms hms => .block ht hi hnode hlines hinner hmarked hms

end MarkLint.Document

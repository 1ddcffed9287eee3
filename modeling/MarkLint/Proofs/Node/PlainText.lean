import MarkLint.Proofs.Node.Rounds

/-!
# Where the text of a node comes from

An `Occurrence` is a node of a tree with the nodes above it; a walk goes through the occurrences in document order
(`map_node_occurrences`), and they are all the ways down from the tree (`mem_occurrences_iff`). The text of a tree is
put together from its outermost nodes that have a text of their own (`plainText_eq_join`): what stands below such a node
is not read. If nothing stands there, it is put together from all nodes (`plainText_eq_join_of_leaves`). A tree has the
same text if one of its nodes gives way to another with the same text (`ChildReplaced.plainText_eq`).
-/

namespace MarkLint.Node

/-! ## Own texts -/

/-- The text that a node has itself: its value, even an empty one, else its alternative text. -/
def ownText? (n : Node) : Option String := n.value.or n.alt

/-- Without a text of its own a node has the text of its children. -/
theorem plainText_eq_getD (n : Node) : n.plainText = n.ownText?.getD (plainTexts n.children) := by
  rw [plainText_eq, ownText?]
  cases n.value with
  | some v => rfl
  | none => cases n.alt <;> rfl

/-! ## Occurrences -/

/-- A node of a tree with the nodes above it there, the nearest first. -/
structure Occurrence where
  node : Node
  above : List Node

mutual

/-- The occurrences in a tree that is below the given nodes, in document order. -/
def occurrencesIn (above : List Node) : Node → List Occurrence
  | n@⟨_, children, _, _, _, _, _, _, _, _, _⟩ => ⟨n, above⟩ :: allOccurrencesIn (n :: above) children

/-- The occurrences in several trees that are below the given nodes, in document order. -/
def allOccurrencesIn (above : List Node) : List Node → List Occurrence
  | [] => []
  | n :: rest => occurrencesIn above n ++ allOccurrencesIn above rest

end

/-- The occurrences in a tree, in document order. -/
def occurrences (tree : Node) : List Occurrence := allOccurrencesIn [] [tree]

theorem allOccurrencesIn_nil (above : List Node) : allOccurrencesIn above [] = [] := rfl

theorem allOccurrencesIn_cons (above : List Node) (n : Node) (rest : List Node) : allOccurrencesIn above (n :: rest) =
    ⟨n, above⟩ :: (allOccurrencesIn (n :: above) n.children ++ allOccurrencesIn above rest) := by
  have h : occurrencesIn above n = ⟨n, above⟩ :: allOccurrencesIn (n :: above) n.children := by
    cases n
    rfl
  rw [allOccurrencesIn, h, List.cons_append]

theorem map_node_allOccurrencesIn (ns : List Node) : ∀ above,
    (allOccurrencesIn above ns).map Occurrence.node = preorders ns := by
  induction ns using forest_induction with
  | nil => exact fun _ => rfl
  | cons n rest ihn ihrest =>
    intro above
    rw [allOccurrencesIn_cons, List.map_cons, List.map_append, ihn, ihrest, preorders_cons]

/-- A walk goes through the occurrences in their order. -/
theorem map_node_occurrences (tree : Node) : tree.occurrences.map Occurrence.node = tree.walk .any := by
  rw [occurrences, map_node_allOccurrencesIn, preorders_singleton, walk_any]

/-- The way down from a node that is below `above` leads to another node, with the nodes above that. -/
inductive LeadsTo : (n : Node) → (above : List Node) → Occurrence → Prop
  | here (n : Node) (above : List Node) : LeadsTo n above ⟨n, above⟩
  | child {n c : Node} {above : List Node} {o : Occurrence} (hchild : c ∈ n.children) (h : LeadsTo c (n :: above) o) :
      LeadsTo n above o

theorem leadsTo_iff {n : Node} {above : List Node} {o : Occurrence} :
    LeadsTo n above o ↔ o = ⟨n, above⟩ ∨ ∃ c ∈ n.children, LeadsTo c (n :: above) o := by
  constructor
  · intro h
    cases h with
    | here => exact Or.inl rfl
    | child hchild h => exact Or.inr ⟨_, hchild, h⟩
  · rintro (rfl | ⟨c, hchild, h⟩)
    · exact .here n above
    · exact .child hchild h

theorem mem_allOccurrencesIn_iff {o : Occurrence} (ns : List Node) : ∀ above,
    o ∈ allOccurrencesIn above ns ↔ ∃ n ∈ ns, LeadsTo n above o := by
  induction ns using forest_induction with
  | nil => exact fun above => by simp [allOccurrencesIn_nil]
  | cons n rest ihn ihrest =>
    intro above
    rw [allOccurrencesIn_cons, List.mem_cons, List.mem_append, ihn, ihrest, List.exists_mem_cons_iff, leadsTo_iff, or_assoc]

/-- The occurrences are all the ways down from the tree. -/
theorem mem_occurrences_iff {tree : Node} {o : Occurrence} : o ∈ tree.occurrences ↔ LeadsTo tree [] o := by
  rw [occurrences, mem_allOccurrencesIn_iff, List.exists_mem_cons_iff]
  exact or_iff_left (by simp)

/-! ## The text of a tree -/

/-- The node has a text of its own, and no node above it has one. -/
def Occurrence.IsOutermost (o : Occurrence) : Prop := o.node.ownText? ≠ none ∧ ∀ a ∈ o.above, a.ownText? = none

instance (o : Occurrence) : Decidable o.IsOutermost := inferInstanceAs (Decidable (_ ∧ _))

/-- The texts of the outermost ones of some occurrences. -/
def outermostTexts (os : List Occurrence) : List String :=
  (os.filter fun o => o.IsOutermost).filterMap fun o => o.node.ownText?

theorem outermostTexts_append (os ps : List Occurrence) :
    outermostTexts (os ++ ps) = outermostTexts os ++ outermostTexts ps := by
  rw [outermostTexts, List.filter_append, List.filterMap_append]
  rfl

theorem outermostTexts_cons_of_isOutermost {o : Occurrence} {text : String} (h : o.IsOutermost)
    (htext : o.node.ownText? = some text) (os : List Occurrence) :
    outermostTexts (o :: os) = text :: outermostTexts os := by
  rw [outermostTexts, List.filter_cons_of_pos (by simpa using h),
    @List.filterMap_cons_some _ _ (fun o : Occurrence => o.node.ownText?) o _ _ htext]
  rfl

theorem outermostTexts_cons_of_not_isOutermost {o : Occurrence} (h : ¬ o.IsOutermost) (os : List Occurrence) :
    outermostTexts (o :: os) = outermostTexts os := by
  rw [outermostTexts, List.filter_cons_of_neg (by simpa using h)]
  rfl

/-- Below a node that has a text none is outermost. -/
theorem outermostTexts_of_above (ns : List Node) : ∀ {above : List Node}, (∃ a ∈ above, a.ownText? ≠ none) →
    outermostTexts (allOccurrencesIn above ns) = [] := by
  induction ns using forest_induction with
  | nil => exact fun _ => rfl
  | cons n rest ihn ihrest =>
    intro above habove
    obtain ⟨a, ha, htext⟩ := id habove
    have hhere : ¬ (⟨n, above⟩ : Occurrence).IsOutermost := fun h => htext (h.2 a ha)
    rw [allOccurrencesIn_cons, outermostTexts_cons_of_not_isOutermost hhere, outermostTexts_append, ihrest habove,
      ihn ⟨a, List.mem_cons_of_mem n ha, htext⟩, List.append_nil]

/-- Below nodes without a text the text is that of the outermost nodes. -/
theorem plainTexts_eq_join (ns : List Node) : ∀ {above : List Node}, (∀ a ∈ above, a.ownText? = none) →
    plainTexts ns = String.join (outermostTexts (allOccurrencesIn above ns)) := by
  induction ns using forest_induction with
  | nil => exact fun _ => rfl
  | cons n rest ihn ihrest =>
    intro above habove
    rw [allOccurrencesIn_cons, plainTexts, plainText_eq_getD, ihrest habove]
    cases hn : n.ownText? with
    | none =>
      have hhere : ¬ (⟨n, above⟩ : Occurrence).IsOutermost := fun h => h.1 hn
      rw [outermostTexts_cons_of_not_isOutermost hhere, outermostTexts_append, String.join_append,
        ← ihn (List.forall_mem_cons.2 ⟨hn, habove⟩)]
      rfl
    | some text =>
      -- its children are below a text and so add nothing
      have hhere : (⟨n, above⟩ : Occurrence).IsOutermost := ⟨by simp [hn], habove⟩
      rw [outermostTexts_cons_of_isOutermost hhere hn, outermostTexts_append,
        outermostTexts_of_above n.children ⟨n, List.mem_cons_self, by simp [hn]⟩, List.nil_append, String.join_cons]
      rfl

/-- The text of a tree is that of its outermost nodes with a text. -/
theorem plainText_eq_join (tree : Node) : tree.plainText = String.join (outermostTexts tree.occurrences) := by
  rw [← plainTexts_singleton, occurrences]
  exact plainTexts_eq_join [tree] (by simp)

/-- If only leaves have texts of their own, then the text of a forest is that of all its nodes. -/
theorem plainTexts_eq_join_of_leaves (ns : List Node) : (∀ n ∈ preorders ns, n.ownText? ≠ none → n.children = []) →
    plainTexts ns = String.join ((preorders ns).filterMap ownText?) := by
  induction ns using forest_induction with
  | nil => exact fun _ => rfl
  | cons n rest ihn ihrest =>
    intro hleaves
    simp only [preorders_cons, List.forall_mem_cons, List.forall_mem_append] at hleaves
    obtain ⟨hn, hbelow, hrest⟩ := hleaves
    rw [preorders_cons, plainTexts, plainText_eq_getD, ihrest hrest]
    cases htext : n.ownText? with
    | none =>
      rw [List.filterMap_cons_none htext, List.filterMap_append, String.join_append, ← ihn hbelow]
      rfl
    | some text =>
      rw [List.filterMap_cons_some htext, hn (by simp [htext]), preorders_nil, List.nil_append, String.join_cons]
      rfl

/-! ## Replacing a node -/

/-- Somewhere below the first node a child has given way to one with the same text. -/
inductive ChildReplaced : Node → Node → Prop
  | here {n c c' : Node} {before after : List Node} (hchildren : n.children = before ++ c :: after)
      (htext : c'.plainText = c.plainText) : ChildReplaced n { n with children := before ++ c' :: after }
  | deeper {n c c' : Node} {before after : List Node} (hchildren : n.children = before ++ c :: after)
      (h : ChildReplaced c c') : ChildReplaced n { n with children := before ++ c' :: after }

/-- A node reads the same with a child that reads the same. -/
theorem plainText_replace {n c c' : Node} {before after : List Node} (hchildren : n.children = before ++ c :: after)
    (htext : c'.plainText = c.plainText) :
    ({ n with children := before ++ c' :: after } : Node).plainText = n.plainText := by
  have htexts : plainTexts (before ++ c' :: after) = plainTexts n.children := by
    rw [hchildren, plainTexts_append, plainTexts_append, plainTexts, plainTexts, htext]
  rw [plainText_eq, plainText_eq n]
  simp only [htexts]

theorem ChildReplaced.plainText_eq {n n' : Node} (h : ChildReplaced n n') : n'.plainText = n.plainText := by
  induction h with
  | here hchildren htext => exact plainText_replace hchildren htext
  | deeper hchildren _ ih => exact plainText_replace hchildren ih

/-- A walk goes through the occurrences of nodes in a tree, which are all the ways down from the tree. The text of the
tree is put together from the nodes that have a text of their own and are not below another such node. If there are only
leaves among the nodes that have a text, it is put together from all nodes of the walk. A tree reads the same if a child
of one of its nodes gives way to one that reads the same. -/
theorem plainText_walk (tree : Node) :
    tree.occurrences.map Occurrence.node = tree.walk .any ∧
    (∀ o, o ∈ tree.occurrences ↔ LeadsTo tree [] o) ∧
    tree.plainText = String.join (outermostTexts tree.occurrences) ∧
    ((∀ n ∈ tree.walk .any, n.ownText? ≠ none → n.children = []) →
      tree.plainText = String.join ((tree.walk .any).filterMap ownText?)) ∧
    ∀ tree', ChildReplaced tree tree' → tree'.plainText = tree.plainText := by
  refine ⟨map_node_occurrences tree, fun o => mem_occurrences_iff, plainText_eq_join tree, fun hleaves => ?_,
    fun tree' => ChildReplaced.plainText_eq⟩
  rw [walk_any, ← preorders_singleton] at hleaves ⊢
  rw [← plainTexts_singleton]
  exact plainTexts_eq_join_of_leaves [tree] hleaves

/-- A heading with a text, an image whose alternative text is empty, and another child. -/
def illustrated (child : Node) : Node where
  kind := "root"
  children := [{ kind := "heading", children :=
    [{ kind := "text", value := some "a" }, { kind := "image", alt := some "" }, child] }]

/-- A text in bold print, which is its own text as well. -/
def bold : Node where
  kind := "strong"
  children := [{ kind := "text", value := some "b" }]

/-- Only texts and the image have texts of their own, and the bold text may be printed plainly. -/
theorem plainText_walk_illustrated :
    (∀ n ∈ (illustrated bold).walk .any, n.ownText? ≠ none → n.children = []) ∧
    (illustrated bold).plainText = String.join ["a", "", "b"] ∧
    ChildReplaced (illustrated bold) (illustrated { kind := "text", value := some "b" }) ∧
    (illustrated { kind := "text", value := some "b" }).plainText = (illustrated bold).plainText := by
  have hleaves : ∀ n ∈ (illustrated bold).walk .any, n.ownText? ≠ none → n.children = [] := by decide
  have hreplaced : ChildReplaced (illustrated bold) (illustrated { kind := "text", value := some "b" }) :=
    @ChildReplaced.deeper _ _ _ [] [] rfl (@ChildReplaced.here _ _ _ [_, _] [] rfl (by decide))
  obtain ⟨-, -, -, hall, hreplace⟩ := plainText_walk (illustrated bold)
  exact ⟨hleaves, hall hleaves, hreplaced, hreplace _ hreplaced⟩

end MarkLint.Node

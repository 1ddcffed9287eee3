import MarkLint.Proofs.Document.Nested
import MarkLint.Proofs.Document.Placement

/-!
# Built trees are in document order

The nodes that are built from well-nested elements start in their order (`Placed.inOrder`). Blocks next to each other
lie on different lines (`Placed.line_lt`). A block and what is inside it may start on one line: then the inner block
starts no earlier, since the container that the outer one opens is passed at least up to the outer block's own start
(`holds_opened`). Reading a checkbox moves a paragraph along its line, where nothing else follows (`Moved`).
-/

namespace MarkLint.Document

open MarkLint.Markdown
open MarkLint.Text

variable {source : List Char}

/-! ## Starts -/

/-- The point is a place of the text. -/
def IsPlace (source : List Char) (p : Point) : Prop :=
  ∃ i c l, (lines source)[i]? = some l ∧ c ≤ l.length ∧ p = Point.onLine (lines source) i c

theorem IsPlace.offset_lt {p q : Point} (hp : IsPlace source p) (hq : IsPlace source q) (h : p.line < q.line) :
    p.offset < q.offset := by
  obtain ⟨i, c, l, hi, hc, rfl⟩ := hp
  obtain ⟨j, d, m, hj, -, rfl⟩ := hq
  have hij : i < j := by
    simp only [Point.onLine] at h
    omega
  exact offset_onLine_lt hi hc hij (List.getElem?_eq_some_iff.1 hj).1

/-- A sound node starts at a place of the text, if at all. -/
theorem IsSound.isPlace {n : Node} {p : Point} (h : IsSound source n) (hp : n.start? = some p) : IsPlace source p := by
  obtain ⟨position, hpos, hstart⟩ := Option.bind_eq_some_iff.1 hp
  obtain ⟨i, c, l, j, d, m, hi, hc, -, -, -, rfl⟩ := h.span position hpos
  cases hstart
  exact ⟨i, c, l, hi, hc, rfl⟩

/-- Plain nodes have no start. -/
theorem start?_of_plain {count : Nat} {os : List Origin} {ns : List Node}
    (h : List.Forall₂ (Origin.Plain count) os ns) : ∀ n ∈ ns, n.start? = none := by
  intro n hn
  obtain ⟨_, _, hplain⟩ := exists_of_forall₂ h n hn
  rw [Node.start?, hplain.2.2.1]
  rfl

/-- A part of a line has no start, and nothing inside it has. -/
theorem start?_of_inlineNode {e : Element} {n : Node} (h : inlineNode e = .ok n) : ∀ m ∈ n.preorder, m.start? = none :=
  start?_of_plain ((inlineNode_yields 0 true e).of_ok h)

/-- A block without a place has no start, and nothing inside it has. -/
theorem start?_of_bareNodes {e : Element} {node : Node} {inner : List Node} (hnode : blockData e = .ok node)
    (hinner : bareNodes e.children = .ok inner) :
    ∀ m ∈ ({ node with children := inner } : Node).preorder, m.start? = none := by
  obtain ⟨-, -, hpos, -⟩ := (blockData_yields e).of_ok hnode
  intro m hm
  rw [Node.preorder_eq, List.mem_cons] at hm
  rcases hm with rfl | hm
  · rw [Node.start?, hpos]
    rfl
  · exact start?_of_plain ((bareNodes_yields 0 e.children).of_ok hinner) m hm

/-- The second node starts no earlier than the first, and on a later line than a paragraph. -/
def Precedes (m n : Node) : Prop :=
  ∀ p ∈ m.start?, ∀ q ∈ n.start?, p.offset ≤ q.offset ∧ (m.kind = "paragraph" → p.line < q.line)

/-! ## Moved paragraphs -/

/-- The second node is the first, at the same place or, for a paragraph, at a later column of its line. -/
def Moved (n n' : Node) : Prop :=
  n'.kind = n.kind ∧ (n.kind ≠ "paragraph" → n'.start? = n.start?) ∧
    ∀ p' ∈ n'.start?, ∃ p ∈ n.start?, p.line = p'.line ∧ p.offset ≤ p'.offset

/-- A node with the same kind and place. -/
theorem moved_of_eq {n n' : Node} (hkind : n'.kind = n.kind) (hstart : n'.start? = n.start?) : Moved n n' :=
  ⟨hkind, fun _ => hstart, fun p hp => ⟨p, hstart ▸ hp, rfl, Int.le_refl _⟩⟩

/-- Marking a task moves its paragraph, and nothing else. -/
theorem Marked.moved {item item' : Node} (h : Marked source item item') :
    List.Forall₂ Moved item.preorder item'.preorder := by
  rw [Node.preorder_eq, Node.preorder_eq]
  refine .cons (moved_of_eq h.kind_position.1 (congrArg (Option.bind · Position.start) h.kind_position.2)) ?_
  refine h.forall₂_preorders (fun _ => moved_of_eq rfl rfl) (fun _ _ _ => moved_of_eq rfl rfl)
    fun n i c width l stop hkind hpos _ _ => ⟨rfl, fun hne => absurd hkind hne, fun p' hp' => ?_⟩
  cases hp'
  exact ⟨Point.onLine (lines source) i c, by rw [Node.start?, hpos]; rfl, rfl, offset_onLine_le (Nat.le_add_right _ _)⟩

section Moved

variable {ns ns' : List Node}

/-- Every moved node was one before. -/
theorem exists_of_moved (h : List.Forall₂ Moved ns ns') : ∀ n' ∈ ns', ∃ n ∈ ns, Moved n n' :=
  exists_of_forall₂ h

/-- Every node is one still after moving. -/
theorem exists_moved (h : List.Forall₂ Moved ns ns') : ∀ n ∈ ns, ∃ n' ∈ ns', Moved n n' :=
  exists_of_forall₂ h.flip

/-- Two nodes in order are still in order when they are moved. -/
theorem Precedes.of_moved {m m' n n' : Node} (h : Precedes m n) (hm : Moved m m') (hn : Moved n n')
    (hm' : IsSound source m') (hn' : IsSound source n') : Precedes m' n' := by
  intro p' hp' q' hq'
  obtain ⟨p, hp, hpline, hple⟩ := hm.2.2 p' hp'
  obtain ⟨q, hq, hqline, hqle⟩ := hn.2.2 q' hq'
  obtain ⟨hle, hparagraph⟩ := h p hp q hq
  by_cases hkind : m.kind = "paragraph"
  · have hline : p'.line < q'.line := by
      have := hparagraph hkind
      omega
    exact ⟨Int.le_of_lt ((hm'.isPlace hp').offset_lt (hn'.isPlace hq') hline), fun _ => hline⟩
  · have hsame : p' = p := by
      have hstart := hm.2.1 hkind
      rw [Option.mem_def] at hp hp'
      rw [hstart, hp] at hp'
      exact (Option.some.inj hp').symm
    refine ⟨?_, fun hkind' => absurd (hm.1 ▸ hkind') hkind⟩
    rw [hsame]
    omega

theorem pairwise_of_moved (h : List.Forall₂ Moved ns ns') (hsound : ∀ n ∈ ns', IsSound source n) :
    ns.Pairwise Precedes → ns'.Pairwise Precedes := by
  induction h with
  | nil => exact id
  | @cons n n' ns ns' hmoved hrest ih =>
    intro hpair
    rw [List.pairwise_cons] at hpair ⊢
    refine ⟨fun m' hm' => ?_, ih (fun m hm => hsound m (List.mem_cons_of_mem _ hm)) hpair.2⟩
    obtain ⟨m, hm, hmm'⟩ := exists_of_moved hrest m' hm'
    exact (hpair.1 m hm).of_moved hmoved hmm' (hsound _ List.mem_cons_self) (hsound m' (List.mem_cons_of_mem _ hm'))

end Moved

/-! ## Lines -/

/-- A block with a place has the lines that it claims. -/
theorem lines_of_blockLines {mapped : Option (Int × Int)} {first last : Nat}
    (h : blockLines (Sheet.ofText source) mapped = some (first, last)) :
    first < (lines source).length ∧ ∃ stop, mapped = some ((first : Int), stop) := by
  obtain ⟨hle, hlast⟩ := blockLines_bounds h
  refine ⟨by omega, ?_⟩
  unfold blockLines at h
  split at h
  · cases h
  · rename_i f stop
    split at h
    · rename_i hin
      cases h
      exact ⟨stop, by rw [Int.toNat_of_nonneg hin.1]⟩
    · cases h

/-- The start of a block that is built. -/
theorem start?_block {n : Node} {inner : List Node} {cs : List Container} {kind : String} {first last : Nat} :
    ({ n with position := some (blockPlace source cs kind first last), children := inner } : Node).start?
      = some (Point.onLine (lines source) first (startColumn ((lines source).getD first []) first cs kind)) := rfl

/-- Every node with a start stands on the lines of a block. -/
theorem Placed.exists_lines {cs : List Container} {es : List Element} {ns : List Node} (h : Placed source cs es ns) :
    ∀ {range code}, WellNested range code es → ∀ n ∈ Node.preorders ns, ∀ p ∈ n.start?,
      ∃ e ∈ blocks es, ∃ x ∈ e.lines, x.1 < p.line ∧ p.line ≤ x.2 := by
  induction h with
  | nil => simp
  | @transparent cs e rest ns ms ht _ _ ihns ihms =>
    intro range code hw n hn p hp
    rw [Node.preorders_append, List.mem_append] at hn
    rw [blocks_transparent ht]
    rcases hn with hn | hn
    · obtain ⟨d, hd, hx⟩ := ihns (hw.children ht) n hn p hp
      exact ⟨d, List.mem_append_left _ hd, hx⟩
    · obtain ⟨d, hd, hx⟩ := ihms hw.tail n hn p hp
      exact ⟨d, List.mem_append_right _ hd, hx⟩
  | @inline cs e rest node ms ht hi hnode _ ihms =>
    intro range code hw n hn p hp
    rw [Node.preorders, List.mem_append] at hn
    rw [blocks_inline hi]
    rcases hn with hn | hn
    · rw [start?_of_inlineNode hnode n hn] at hp
      cases hp
    · exact ihms hw.tail n hn p hp
  | @bare cs e rest node inner ms ht hi hnode hlines hinner _ ihms =>
    intro range code hw n hn p hp
    rw [Node.preorders, List.mem_append] at hn
    rw [blocks_block ht hi]
    rcases hn with hn | hn
    · rw [start?_of_bareNodes hnode hinner n hn] at hp
      cases hp
    · obtain ⟨d, hd, hx⟩ := ihms hw.tail n hn p hp
      exact ⟨d, List.mem_cons_of_mem _ hd, hx⟩
  | @block cs e rest node item inner ms first last ht hi hnode hlines _ hmarked _ ihinner ihms =>
    intro range code hw n hn p hp
    have hblocks := blocks_block ht hi rest
    obtain ⟨hfirst, stop, hmapped⟩ := lines_of_blockLines hlines
    have hmem : e ∈ blocks (e :: rest) := by rw [hblocks]; exact List.mem_cons_self
    have hx : ((first : Int), stop) ∈ e.lines := hmapped
    rw [Node.preorders, List.mem_append] at hn
    rcases hn with hn | hn
    · refine ⟨e, hmem, _, hx, ?_⟩
      obtain ⟨m, hm, hmoved⟩ := exists_of_moved hmarked.moved n hn
      obtain ⟨q, hq, hline, -⟩ := hmoved.2.2 p hp
      rw [← hline]
      have hin := (hw.fits e hmem).lines _ hx
      rw [Node.preorder_eq, List.mem_cons] at hm
      rcases hm with rfl | hm
      · rw [start?_block] at hq
        cases hq
        simp only [Point.onLine]
        omega
      · obtain ⟨d, hd, y, hy, hlt, hle⟩ := ihinner (hw.inside e hmem _ hx) m hm q hq
        have hyx := ((hw.inside e hmem _ hx).fits d hd).lines y hy
        omega
    · obtain ⟨d, hd, hx⟩ := ihms hw.tail n hn p hp
      exact ⟨d, hblocks ▸ List.mem_cons_of_mem _ hd, hx⟩

/-- Without blocks nothing has a start. -/
theorem Placed.start?_eq_none {cs : List Container} {es : List Element} {ns : List Node} {range : Int × Int}
    {code : Bool} (h : Placed source cs es ns) (hw : WellNested range code es) (hnil : blocks es = []) :
    ∀ n ∈ Node.preorders ns, n.start? = none := by
  intro n hn
  cases hstart : n.start? with
  | none => rfl
  | some p =>
    obtain ⟨e, he, -⟩ := h.exists_lines hw n hn p hstart
    rw [hnil] at he
    cases he

/-- Nodes of earlier blocks start on earlier lines. -/
theorem Placed.line_lt {cs ds : List Container} {es fs gs : List Element} {ns ms : List Node} {range : Int × Int}
    {code : Bool} (hns : Placed source cs es ns) (hms : Placed source ds fs ms)
    (hblocks : blocks gs = blocks es ++ blocks fs) (hw : WellNested range code gs) :
    ∀ m ∈ Node.preorders ns, ∀ n ∈ Node.preorders ms, ∀ p ∈ m.start?, ∀ q ∈ n.start?, p.line < q.line := by
  intro m hm n hn p hp q hq
  have hordered := hw.ordered
  rw [hblocks, List.pairwise_append] at hordered
  have hes := hw.of_sublist (hblocks ▸ List.sublist_append_left (blocks es) (blocks fs))
  have hfs := hw.of_sublist (hblocks ▸ List.sublist_append_right (blocks es) (blocks fs))
  obtain ⟨d, hd, x, hx, -, hle⟩ := hns.exists_lines hes m hm p hp
  obtain ⟨e, he, y, hy, hlt, -⟩ := hms.exists_lines hfs n hn q hq
  have := hordered.2.2 d hd e he x hx y hy
  omega

/-! ## Columns -/

/-- On the line, what is inside the containers starts no earlier than at the column; indented code may be inside. -/
def Holds (source : List Char) (cs : List Container) (line column : Nat) (code : Bool) : Prop :=
  column ≤ skipIndent ((lines source).getD line []) (Container.skipAll ((lines source).getD line []) line cs) ∧
    (code = true → column ≤ Container.skipAll ((lines source).getD line []) line cs)

theorem Holds.le_startColumn {cs : List Container} {line column : Nat} {code : Bool} {kind : String}
    (h : Holds source cs line column code) (hcode : kind = "code_block" → code = true) :
    column ≤ startColumn ((lines source).getD line []) line cs kind := by
  by_cases hkind : kind = "code_block"
  · exact Nat.le_trans (h.2 (hcode hkind)) (skipAll_le_startColumn _ _ _ _)
  · rw [startColumn_of_ne hkind]
    exact h.1

theorem Holds.le_length {cs : List Container} {line column : Nat} {code : Bool} (h : Holds source cs line column code) :
    column ≤ ((lines source).getD line []).length :=
  Nat.le_trans h.1 (skipIndent_le_length (Container.skipAll_le_length _ _ _))

/-- A block inside the containers starts no earlier than at the column. -/
theorem Holds.offset_le {cs : List Container} {line column first : Nat} {code : Bool} {kind : String}
    (h : Holds source cs line column code) (hline : line ≤ first) (hfirst : first < (lines source).length)
    (hcode : kind = "code_block" → code = true) : (Point.onLine (lines source) line column).offset ≤
      (Point.onLine (lines source) first (startColumn ((lines source).getD first []) first cs kind)).offset := by
  rcases Nat.lt_or_eq_of_le hline with hlt | rfl
  · exact Int.le_of_lt (offset_onLine_lt (getElem?_line (by omega)) h.le_length hlt hfirst)
  · exact offset_onLine_le (h.le_startColumn hcode)

/-- What is inside a block starts no earlier than the block, if a quote has its marker where it starts. -/
theorem holds_opened {e : Element} {cs : List Container} {line : Nat}
    (hquote : blockKind e.kind = "blockquote" →
      ((lines source).getD line [])[startColumn ((lines source).getD line []) line cs e.kind]? = some '>') :
    Holds source (cs ++ opened source (blockKind e.kind) e.markup e.info line
      (startColumn ((lines source).getD line []) line cs e.kind)) line
      (startColumn ((lines source).getD line []) line cs e.kind) (holdsCode e.kind) := by
  generalize htext : (lines source).getD line [] = text at hquote ⊢
  have hlength := Container.skipAll_le_length text line cs
  by_cases hcontainer : blockKind e.kind = "blockquote" ∨ blockKind e.kind = "listItem"
  · have hne : e.kind ≠ "code_block" := by
      intro h
      rw [h] at hcontainer
      revert hcontainer
      decide
    suffices hle : startColumn text line cs e.kind ≤ Container.skipAll text line (cs ++ opened source (blockKind e.kind)
        e.markup e.info line (startColumn text line cs e.kind)) by
      rw [Holds, htext]
      exact ⟨Nat.le_trans hle (le_skipIndent _ _), fun _ => hle⟩
    rw [startColumn_of_ne hne] at hquote ⊢
    rcases hcontainer with hkind | hkind
    · rw [opened, if_pos hkind, Container.skipAll_append_singleton]
      exact Container.le_skip_quote (hquote hkind)
    · rw [opened, if_neg (by rw [hkind]; decide), if_pos hkind, Container.skipAll_append_singleton]
      exact Container.le_skip_item hlength
  · rw [not_or] at hcontainer
    rw [opened, if_neg hcontainer.1, if_neg hcontainer.2, List.append_nil, Holds, htext]
    refine ⟨startColumn_le_skipIndent _ _ _ _, fun hcode => ?_⟩
    rw [holdsCode, Bool.or_eq_true, beq_iff_eq, beq_iff_eq] at hcode
    exact absurd hcode (not_or.2 hcontainer)

/-! ## Order -/

/-- The block quotes among the nodes have their marker where they start. -/
def QuotesMarked (source : List Char) (ns : List Node) : Prop :=
  ∀ n ∈ ns, n.kind = "blockquote" → ∀ p ∈ n.start?, source[p.offset.toNat]? = some '>'

instance (source : List Char) (ns : List Node) : Decidable (QuotesMarked source ns) :=
  inferInstanceAs (Decidable (∀ n ∈ ns, n.kind = "blockquote" → ∀ p ∈ n.start?, source[p.offset.toNat]? = some '>'))

theorem precedes_of_line_lt {m n : Node} (hm : IsSound source m) (hn : IsSound source n)
    (h : ∀ p ∈ m.start?, ∀ q ∈ n.start?, p.line < q.line) : Precedes m n := fun p hp q hq =>
  ⟨Int.le_of_lt ((hm.isPlace hp).offset_lt (hn.isPlace hq) (h p hp q hq)), fun _ => h p hp q hq⟩

theorem precedes_of_start?_eq_none {m n : Node} (h : m.start? = none) : Precedes m n := by
  intro p hp
  rw [h] at hp
  cases hp

/-- The nodes are in order, and none starts before the offset. -/
structure InOrder (offset : Int) (ns : List Node) : Prop where
  start : ∀ n ∈ ns, ∀ q ∈ n.start?, offset ≤ q.offset
  order : ns.Pairwise Precedes

theorem InOrder.append {offset : Int} {ns ms : List Node} (hns : InOrder offset ns) (hms : InOrder offset ms)
    (h : ∀ m ∈ ns, ∀ n ∈ ms, Precedes m n) : InOrder offset (ns ++ ms) := by
  refine ⟨fun n hn => ?_, List.pairwise_append.2 ⟨hns.order, hms.order, h⟩⟩
  rcases List.mem_append.1 hn with hn | hn
  · exact hns.start n hn
  · exact hms.start n hn

/-- A block starts before what is inside it; inside a paragraph nothing has a start. -/
theorem InOrder.cons {offset : Int} {start : Point} {n : Node} {ns : List Node} (h : InOrder start.offset ns)
    (hn : n.start? = some start) (hle : offset ≤ start.offset)
    (hparagraph : n.kind = "paragraph" → ∀ m ∈ ns, m.start? = none) : InOrder offset (n :: ns) := by
  refine ⟨fun m hm q hq => ?_, List.pairwise_cons.2 ⟨fun m hm p hp q hq => ?_, h.order⟩⟩
  · rcases List.mem_cons.1 hm with rfl | hm
    · rw [hn] at hq
      cases hq
      exact hle
    · exact Int.le_trans hle (h.start m hm q hq)
  · rw [hn] at hp
    cases hp
    refine ⟨h.start m hm q hq, fun hkind => ?_⟩
    rw [hparagraph hkind m hm] at hq
    cases hq

/-- Nodes without a start are in order. -/
theorem inOrder_of_start?_eq_none {offset : Int} {ns : List Node} (h : ∀ n ∈ ns, n.start? = none) :
    InOrder offset ns := by
  refine ⟨fun n hn q hq => ?_, List.pairwise_iff_forall_sublist.2 fun hsub =>
    precedes_of_start?_eq_none (h _ (hsub.subset List.mem_cons_self))⟩
  rw [h n hn] at hq
  cases hq

/-- An item that is read for a checkbox stays in order. -/
theorem InOrder.of_marked {offset : Int} {item item' : Node} (h : InOrder offset item.preorder)
    (hmarked : Marked source item item') (hsound : ∀ n ∈ item'.preorder, IsSound source n) :
    InOrder offset item'.preorder := by
  refine ⟨fun n hn q hq => ?_, pairwise_of_moved hmarked.moved hsound h.order⟩
  obtain ⟨m, hm, hmoved⟩ := exists_of_moved hmarked.moved n hn
  obtain ⟨p, hp, -, hle⟩ := hmoved.2.2 q hq
  exact Int.le_trans (h.start m hm p hp) hle

/-- A quote that has its marker where it starts has had it there before checkboxes are read. -/
theorem QuotesMarked.of_marked {item item' : Node} (h : QuotesMarked source item'.preorder)
    (hmarked : Marked source item item') : QuotesMarked source item.preorder := by
  intro n hn hkind p hp
  obtain ⟨n', hn', hkind', hstart, -⟩ := exists_moved hmarked.moved n hn
  have hne : n.kind ≠ "paragraph" := by
    rw [hkind]
    decide
  exact h n' hn' (hkind'.trans hkind) p (hstart hne ▸ hp)

/-- The nodes that are built inside containers start in their order, and not before the column up to which the
containers are passed. -/
theorem Placed.inOrder {cs : List Container} {es : List Element} {ns : List Node} (h : Placed source cs es ns) :
    ∀ {line column : Nat} {stop : Int} {code : Bool}, WellNested (line, stop) code es →
      Holds source cs line column code → QuotesMarked source (Node.preorders ns) →
      InOrder (Point.onLine (lines source) line column).offset (Node.preorders ns) := by
  induction h with
  | nil =>
    intro line column stop code _ _ _
    exact ⟨by simp, List.Pairwise.nil⟩
  | @transparent cs e rest ns ms ht hns hms ihns ihms =>
    intro line column stop code hw hholds hquotes
    rw [Node.preorders_append] at hquotes ⊢
    refine InOrder.append ?_ ?_ fun m hm n hn => ?_
    · exact ihns (hw.children ht) hholds fun n hn => hquotes n (List.mem_append_left _ hn)
    · exact ihms hw.tail hholds fun n hn => hquotes n (List.mem_append_right _ hn)
    · have hlines := hns.line_lt hms (blocks_transparent ht rest) hw m hm n hn
      exact precedes_of_line_lt (hns.isSound m hm) (hms.isSound n hn) hlines
  | @inline cs e rest node ms ht hi hnode _ ihms =>
    intro line column stop code hw hholds hquotes
    have hnone := start?_of_inlineNode hnode
    rw [Node.preorders] at hquotes ⊢
    refine InOrder.append (inOrder_of_start?_eq_none hnone) ?_ fun m hm n _ => precedes_of_start?_eq_none (hnone m hm)
    exact ihms hw.tail hholds fun n hn => hquotes n (List.mem_append_right _ hn)
  | @bare cs e rest node inner ms ht hi hnode hlines hinner _ ihms =>
    intro line column stop code hw hholds hquotes
    have hnone := start?_of_bareNodes hnode hinner
    rw [Node.preorders] at hquotes ⊢
    refine InOrder.append (inOrder_of_start?_eq_none hnone) ?_ fun m hm n _ => precedes_of_start?_eq_none (hnone m hm)
    exact ihms hw.tail hholds fun n hn => hquotes n (List.mem_append_right _ hn)
  | @block cs e rest node item inner ms first last ht hi hnode hlines hinner hmarked hms ihinner ihms =>
    intro line column stop code hw hholds hquotes
    have hone : Placed source cs [e] [item] := .block ht hi hnode hlines hinner hmarked .nil
    have hblocks := blocks_block ht hi rest
    have hmem : e ∈ blocks (e :: rest) := by rw [hblocks]; exact List.mem_cons_self
    obtain ⟨hfirst, stop', hmapped⟩ := lines_of_blockLines hlines
    obtain ⟨hkind, -, -, -⟩ := (blockData_yields e).of_ok hnode
    rw [Node.preorders] at hquotes ⊢
    have hquotes' := QuotesMarked.of_marked (fun n hn => hquotes n (List.mem_append_left _ hn)) hmarked
    rw [Node.preorder_eq] at hquotes'
    -- the block starts not before the column, and what is inside it not before the block
    have hle := hholds.offset_le (Int.ofNat_le.1 ((hw.fits e hmem).lines _ hmapped).1) hfirst (hw.fits e hmem).code
    have hopened := holds_opened fun hquote => getElem?_lineStart (getElem?_line hfirst)
      (startColumn_le_length _ first cs e.kind) (by decide) (hquotes' _ List.mem_cons_self (hkind.trans hquote) _ rfl)
    rw [← hkind] at hopened
    have hinside := hw.inside e hmem _ hmapped
    have hinnerOrder := ihinner hinside hopened fun n hn => hquotes' n (List.mem_cons_of_mem _ hn)
    have hcontent : node.kind = "paragraph" → ∀ m ∈ Node.preorders inner, m.start? = none := by
      intro hparagraph
      have hleaf : isLeaf e.kind = true := by
        rw [eq_of_blockKind_eq (by decide) (hkind.symm.trans hparagraph)]
        rfl
      exact hinner.start?_eq_none hinside ((hw.fits e hmem).content hleaf)
    have hitem : InOrder (Point.onLine (lines source) line column).offset item.preorder := by
      refine InOrder.of_marked ?_ hmarked fun n hn => hone.isSound n (List.mem_append_left _ hn)
      rw [Node.preorder_eq]
      exact hinnerOrder.cons start?_block hle hcontent
    refine hitem.append ?_ fun m hm n hn => ?_
    · exact ihms hw.tail hholds fun n hn => hquotes n (List.mem_append_right _ hn)
    · have hm : m ∈ Node.preorders [item] := List.mem_append_left _ hm
      have hsplit : blocks (e :: rest) = blocks [e] ++ blocks rest := by
        rw [hblocks, blocks_block ht hi]
        rfl
      exact precedes_of_line_lt (hone.isSound m hm) (hms.isSound n hn) (hone.line_lt hms hsplit hw m hm n hn)

/-- The nodes of a document tree with well-nested elements start in document order. -/
theorem IsTree.inOrder {elements : List Element} {frontMatter : Nat} {tree : Node}
    (h : IsTree source elements frontMatter tree) (hw : WellNested (0, (lines source).length) true elements)
    (hquotes : QuotesMarked source tree.preorder) : InOrder 0 tree.preorder := by
  obtain ⟨header, children, position, rfl, -, hstart, hheader, hchildren⟩ := h
  have hzero : (Point.onLine (lines source) 0 0).offset = 0 := by simp [Point.onLine]
  have hholds : Holds source [] 0 0 true := ⟨Nat.zero_le _, fun _ => Nat.zero_le _⟩
  rw [Node.preorder_eq, Node.preorders_append] at hquotes ⊢
  have horder := hchildren.inOrder hw hholds fun n hn =>
    hquotes n (List.mem_cons_of_mem _ (List.mem_append_right _ hn))
  have hbelow : InOrder (Point.onLine (lines source) 0 0).offset
      (Node.preorders header ++ Node.preorders children) := by
    unfold IsHeader at hheader
    split at hheader
    · subst hheader
      exact horder
    · obtain ⟨value, span, rfl, -, hspan⟩ := hheader
      exact horder.cons (n := { kind := "yaml", value := value, position := some span }) hspan (Int.le_refl _)
        fun hkind => absurd hkind (by simp)
  exact hbelow.cons hstart (Int.le_of_eq hzero.symm) fun hkind => absurd hkind (by simp)

end MarkLint.Document

import MarkLint.Proofs.Document.Nested
import MarkLint.Proofs.Document.Spots
import MarkLint.Proofs.Rule.Consistent

/-!
# From the marker of a quote to its content

The indentation of a quote is the distance from its own start to that of its content. When they are on different lines,
as after empty lines of markers, these are columns of two lines. `Spot.MarkedOn` says where a line has the marker of a
quote. In a source where each quote starts at its marker, and has its marker before every block that starts in it
(`Spot.QuoteAgrees`), the indentation is the distance from the marker to the content on the line of the content exactly
if the marker stands there at the same column as where the quote starts (`indentation_eq_iff`), and so for all quotes
whose content starts on their first line.
-/

namespace MarkLint

open MarkLint.Document
open MarkLint.Markdown
open MarkLint.Text

variable {source : List Char}

/-! ## The first block inside a block -/

namespace Document

/-- Elements that become no nodes hold no blocks. -/
theorem Placed.blocks_eq_nil {cs : List Container} {es : List Element} {ns : List Node} (h : Placed source cs es ns)
    (hns : ns = []) : blocks es = [] := by
  induction h with
  | nil => rfl
  | transparent ht _ _ ihns ihms =>
    obtain ⟨hns, hms⟩ := List.append_eq_nil_iff.1 hns
    rw [blocks_transparent ht, ihns hns, ihms hms, List.append_nil]
  | inline => cases hns
  | bare => cases hns
  | block => cases hns

/-- When the first node that elements become has a place, it is that of their first block. -/
theorem Placed.head_place {cs : List Container} {es : List Element} {ns : List Node} (h : Placed source cs es ns) :
    ∀ n ∈ ns.head?, ∀ p ∈ n.position, ∃ e first last, (blocks es).head? = some e ∧
      blockLines (Sheet.ofText source) e.lines = some (first, last) ∧ p = blockPlace source cs e.kind first last := by
  induction h with
  | nil => simp
  | @transparent cs e rest ns ms ht hns _ ihns ihms =>
    intro n hn p hp
    rw [blocks_transparent ht, List.head?_append]
    cases ns with
    | nil =>
      rw [hns.blocks_eq_nil rfl]
      exact ihms n hn p hp
    | cons m ns =>
      obtain ⟨e, first, last, he, hplace⟩ := ihns n hn p hp
      exact ⟨e, first, last, by rw [he]; rfl, hplace⟩
  | @inline cs e rest n ms _ _ hn _ _ =>
    intro m hm p hp
    obtain rfl : n = m := Option.some.inj hm
    obtain ⟨_, _, -, -, hnone, -⟩ :=
      exists_of_forall₂ ((inlineNode_yields 0 true e).of_ok hn) n (by rw [Node.preorder_eq]; exact List.mem_cons_self)
    rw [hnone] at hp
    cases hp
  | @bare cs e rest node inner ms _ _ hnode _ _ _ _ =>
    intro m hm p hp
    obtain rfl : { node with children := inner } = m := Option.some.inj hm
    obtain ⟨-, -, hnone, -⟩ := (blockData_yields e).of_ok hnode
    rw [hnone] at hp
    cases hp
  | @block cs e rest node n inner ms first last ht hi _ hlines _ hmarked _ _ _ =>
    intro m hm p hp
    obtain rfl : n = m := Option.some.inj hm
    rw [hmarked.kind_position.2] at hp
    exact ⟨e, first, last, by rw [blocks_block ht hi]; rfl, hlines, (Option.some.inj hp).symm⟩

namespace Spot

/-- The spot of the first block inside the block, if its lines lie in the source. -/
def content (source : List Char) (s : Spot) : Option Spot := do
  let e ← (blocks s.element.children).head?
  let (first, last) ← blockLines (Sheet.ofText source) e.lines
  return ⟨s.inside source, e, first, last⟩

theorem content_eq_some_iff {s t : Spot} : s.content source = some t ↔ t.containers = s.inside source ∧
    (blocks s.element.children).head? = some t.element ∧
      blockLines (Sheet.ofText source) t.element.lines = some (t.first, t.last) := by
  constructor
  · intro h
    obtain ⟨e, he, h⟩ := Option.bind_eq_some_iff.1 h
    obtain ⟨⟨first, last⟩, hlines, h⟩ := Option.bind_eq_some_iff.1 h
    obtain rfl := Option.some.inj h
    exact ⟨rfl, he, hlines⟩
  · obtain ⟨containers, e, first, last⟩ := t
    rintro ⟨rfl, he, hlines⟩
    simp only [content, he, hlines, Option.bind_eq_bind, Option.bind_some]
    rfl

/-- In a block other than a list item, a first node with a place is made at the spot of the first block inside. -/
theorem Builds.content_place {s : Spot} {inner : List Node} {n : Node} (h : s.Builds source inner n)
    (hkind : s.kind ≠ "listItem") :
    ∀ c ∈ n.children.head?, ∀ p ∈ c.position, ∃ t, s.content source = some t ∧ p = t.place source := by
  intro c hc p hp
  obtain ⟨node, -, rfl⟩ := h.of_ne hkind
  obtain ⟨-, -, -, hinner, -⟩ := h
  obtain ⟨e, first, last, he, hlines, rfl⟩ := ((placedNodes_yields source _ _).of_ok hinner).head_place c hc p hp
  exact ⟨⟨s.inside source, e, first, last⟩, content_eq_some_iff.2 ⟨rfl, he, hlines⟩, rfl⟩

/-! ## Markers -/

/-- The line has the marker of the quote at the column: the containers around the quote have their prefixes, and nothing
but white space comes before the marker. -/
inductive MarkedOn (source : List Char) (s : Spot) (line : Nat) : Nat → Prop
  | intro {p before rest : List Char} : (lines source)[line]? = some (p ++ (before ++ '>' :: rest)) →
      Prefixed source line 0 s.containers p → before.all isIndent = true →
      MarkedOn source s line (p.length + before.length)

/-- The quote starts at its marker, and each block that starts in it has the marker of the quote on its first line. -/
structure QuoteAgrees (source : List Char) (s : Spot) : Prop where
  start : s.MarkedOn source s.first (s.column source)
  inside : ∀ e ∈ blocks s.element.children, ∀ first last,
    blockLines (Sheet.ofText source) e.lines = some (first, last) → ∃ marker, s.MarkedOn source first marker

variable {s t : Spot} {line marker : Nat}

/-- The marker comes after the containers around the quote, and skipping the quote ends right after it. -/
theorem MarkedOn.skipAll (h : s.MarkedOn source line marker) : ∃ l, (lines source)[line]? = some l ∧
    skipIndent l (Container.skipAll l line s.containers) = marker ∧
    Container.skipAll l line (s.containers ++ [.quote]) = marker + 1 := by
  cases h with
  | @intro p before rest hline hprefixed hbefore =>
    have hmark := hprefixed.skipIndent_skipAll hline rfl hbefore (by decide)
    have hat : (p ++ (before ++ '>' :: rest)).drop (p.length + before.length) = '>' :: rest := by
      rw [← List.drop_drop, List.drop_left, List.drop_left]
    refine ⟨_, hline, hmark, ?_⟩
    rw [Container.skipAll_append_singleton]
    exact skip_quote_eq (hmark.trans (@skipIndent_eq _ [] _ _ _ hat rfl (by decide)).symm) hat

/-- A line has at most one marker of a quote. -/
theorem MarkedOn.unique (h : s.MarkedOn source line marker) {marker' : Nat} (h' : s.MarkedOn source line marker') :
    marker' = marker := by
  obtain ⟨l, hl, hmarker, -⟩ := h.skipAll
  obtain ⟨l', hl', hmarker', -⟩ := h'.skipAll
  obtain rfl : l = l' := Option.some.inj (hl.symm.trans hl')
  exact hmarker'.symm.trans hmarker

/-- The first block in a quote starts after the quote's marker on the same line. -/
theorem MarkedOn.lt_column (hkind : s.kind = "blockquote") (hcontent : s.content source = some t)
    (h : s.MarkedOn source t.first marker) : marker < t.column source := by
  obtain ⟨l, hl, -, hskip⟩ := h.skipAll
  have hinside : t.containers = s.containers ++ [.quote] := by
    rw [(content_eq_some_iff.1 hcontent).1, inside, opened, if_pos hkind]
  have hle := skipAll_le_startColumn l t.first t.containers t.element.kind
  rw [hinside, hskip] at hle
  rw [column, getD_line hl, hinside]
  omega

/-- A quote with one block inside agrees with the source if it starts at its marker and has it before the block. -/
theorem QuoteAgrees.of_singleton (hcontent : s.content source = some t)
    (hblocks : blocks s.element.children = [t.element]) (hstart : s.MarkedOn source s.first (s.column source))
    (hmarker : s.MarkedOn source t.first marker) : s.QuoteAgrees source := by
  refine ⟨hstart, fun e he first last hlines => ⟨marker, ?_⟩⟩
  rw [hblocks, List.mem_singleton] at he
  rw [he, (content_eq_some_iff.1 hcontent).2.2] at hlines
  obtain ⟨rfl, -⟩ := Prod.mk.inj (Option.some.inj hlines)
  exact hmarker

end Spot
end Document

/-! ## Indentations -/

namespace BlockquoteIndentation

open Document.Spot

/-- The node is made at the spot of a quote, and its content at that of the first block inside. -/
structure IsQuote (source : List Char) (s t : Spot) (n : Node) : Prop where
  kind : s.kind = "blockquote"
  builds : ∃ inner, s.Builds source inner n
  content : s.content source = some t
  start : n.contentStart? = some (Point.onLine (lines source) t.first (t.column source))

/-- A quote that is compared is made at a spot. Its indentation is the difference of the columns, whatever the lines. -/
theorem exists_isQuote {elements : List Element} {frontMatter : Nat} {tree n : Node}
    (h : buildTree source elements frontMatter = .ok tree) (hn : n ∈ compared tree (Location.ofText source)) :
    ∃ s ∈ spots source [] elements, ∃ t, IsQuote source s t n ∧
      indentation n = some ((t.column source : Int) - s.column source) := by
  obtain ⟨content, start, outer, hcontent, hstart, houter, -, hindent⟩ := exists_indentation hn
  rw [compared_eq] at hn
  have hplace : hasPlace n = true := by
    obtain ⟨p, hp, -⟩ := Option.bind_eq_some_iff.1 houter
    rw [hasPlace, hp]
    rfl
  obtain ⟨s, hs, hkind, inner, hbuilds⟩ :=
    exists_of_forall₂ (walk_spots h (by decide)) n (List.mem_filter.2 ⟨(List.mem_filter.1 hn).1, hplace⟩)
  obtain ⟨p, hp, hpstart⟩ := Option.bind_eq_some_iff.1 hstart
  obtain ⟨t, ht, rfl⟩ := hbuilds.content_place (by rw [hkind]; decide) content hcontent p hp
  have hinner : start = Point.onLine (lines source) t.first (t.column source) := (Option.some.inj hpstart).symm
  have hquote : outer = Point.onLine (lines source) s.first (s.column source) :=
    Option.some.inj (houter.symm.trans hbuilds.start?)
  have hcontentStart : n.contentStart? = some start := by rw [Node.contentStart?, hcontent, Option.bind_some, hstart]
  refine ⟨s, (List.mem_filter.1 hs).1, t, ⟨hkind, ⟨inner, hbuilds⟩, ht, hinner ▸ hcontentStart⟩, ?_⟩
  rw [hindent, hinner, hquote, Option.some.injEq]
  simp only [Point.onLine]
  omega

/-- Where the quotes agree with the source, the content of each quote that is compared comes after the quote's own
marker on the same line. The indentation that is observed is the number of columns from this marker to the content, and
so at least 1, exactly if the marker stands in the column in which the quote starts; on the quote's first line it
does. -/
theorem indentation_eq_iff {elements : List Element} {frontMatter : Nat} {tree : Node}
    (h : buildTree source elements frontMatter = .ok tree)
    (hagrees : ∀ s ∈ spots source [] elements, s.kind = "blockquote" → s.QuoteAgrees source) :
    ∀ n ∈ compared tree (Location.ofText source), ∃ s ∈ spots source [] elements, ∃ t marker observed,
      IsQuote source s t n ∧ s.MarkedOn source t.first marker ∧ marker < t.column source ∧
      indentation n = some observed ∧ (observed = (t.column source : Int) - marker ↔ marker = s.column source) ∧
      (marker = s.column source → 1 ≤ observed) ∧ (t.first = s.first → marker = s.column source) := by
  intro n hn
  obtain ⟨s, hs, t, hquote, hindent⟩ := exists_isQuote h hn
  have hagree := hagrees s hs hquote.kind
  obtain ⟨-, hfirst, hlines⟩ := content_eq_some_iff.1 hquote.content
  obtain ⟨marker, hmarker⟩ := hagree.inside t.element (List.mem_of_mem_head? hfirst) t.first t.last hlines
  have hlt := hmarker.lt_column hquote.kind hquote.content
  refine ⟨s, hs, t, marker, _, hquote, hmarker, hlt, hindent, by omega, fun _ => by omega, fun hline => ?_⟩
  rw [hline] at hmarker
  exact hagree.start.unique hmarker

/-- A quote with blocks inside. -/
def quote (first stop : Nat) (children : List Element) : Element where
  kind := "blockquote"
  lines := some (first, stop)
  children := children

/-- A paragraph on one line. -/
def paragraph (line : Nat) : Element where
  kind := "paragraph"
  lines := some (line, line + 1)

/-- A quote whose first line is empty, with another one inside. -/
def nestedQuotes : List Element := [quote 0 2 [quote 1 2 [paragraph 1]]]

/-- The text of these quotes. -/
def nestedQuotesText : List Char := ">\n> > a".toList

/-- Both quotes are measured from their own marker on the line of their content. -/
theorem indentation_eq_iff_nested : ∃ tree, buildTree nestedQuotesText nestedQuotes 0 = .ok tree ∧
    (compared tree (Location.ofText nestedQuotesText)).length = 2 ∧
    ∀ n ∈ compared tree (Location.ofText nestedQuotesText), ∃ s t marker, IsQuote nestedQuotesText s t n ∧
      s.MarkedOn nestedQuotesText t.first marker ∧
      indentation n = some ((t.column nestedQuotesText : Int) - marker) := by
  have hspots : spots nestedQuotesText [] nestedQuotes
      = [⟨[], quote 0 2 [quote 1 2 [paragraph 1]], 0, 1⟩, ⟨[.quote], quote 1 2 [paragraph 1], 1, 1⟩,
        ⟨[.quote, .quote], paragraph 1, 1, 1⟩] := rfl
  have hprefix : Prefixed nestedQuotesText 1 0 [.quote] "> ".toList := .cons (@Stands.quote _ _ _ [] [' '] rfl rfl) .nil
  have houter : (⟨[], quote 0 2 [quote 1 2 [paragraph 1]], 0, 1⟩ : Spot).MarkedOn nestedQuotesText 0 0 :=
    @MarkedOn.intro _ _ _ [] [] [] (by decide +kernel) .nil rfl
  have houterBelow : (⟨[], quote 0 2 [quote 1 2 [paragraph 1]], 0, 1⟩ : Spot).MarkedOn nestedQuotesText 1 0 :=
    @MarkedOn.intro _ _ _ [] [] " > a".toList (by decide +kernel) .nil rfl
  have hinner : (⟨[.quote], quote 1 2 [paragraph 1], 1, 1⟩ : Spot).MarkedOn nestedQuotesText 1 2 :=
    @MarkedOn.intro _ _ _ "> ".toList [] " a".toList (by decide +kernel) hprefix rfl
  have hagrees : ∀ s ∈ spots nestedQuotesText [] nestedQuotes, s.kind = "blockquote" →
      s.QuoteAgrees nestedQuotesText := by
    rw [hspots]
    simp only [List.forall_mem_cons, List.not_mem_nil, false_imp_iff, implies_true, and_true]
    exact ⟨fun _ => .of_singleton (t := ⟨[.quote], quote 1 2 [paragraph 1], 1, 1⟩) rfl rfl houter houterBelow,
      fun _ => .of_singleton (t := ⟨[.quote, .quote], paragraph 1, 1, 1⟩) rfl rfl hinner hinner,
      fun h => absurd h (by decide)⟩
  have hbuilt : (buildTree nestedQuotesText nestedQuotes 0).toOption.map (fun tree =>
      (compared tree (Location.ofText nestedQuotesText)).length) = some 2 := by
    decide +kernel
  obtain ⟨tree, htree, hcount⟩ := map_toOption_eq_some_iff.1 hbuilt
  refine ⟨tree, htree, hcount, fun n hn => ?_⟩
  obtain ⟨s, hs, t, marker, observed, hquote, hmarker, -, hobserved, hexact, -, hsame⟩ :=
    indentation_eq_iff htree hagrees n hn
  refine ⟨s, t, marker, hquote, hmarker, hobserved.trans (congrArg some (hexact.2 ?_))⟩
  have hcontent := hquote.content
  rw [hspots] at hs
  simp only [List.mem_cons, List.not_mem_nil, or_false] at hs
  rcases hs with rfl | rfl | rfl
  · obtain rfl := Option.some.inj hcontent
    exact houterBelow.unique hmarker
  · obtain rfl := Option.some.inj hcontent
    exact hsame rfl
  · exact absurd hquote.kind (by decide)

/-- The text of a quote whose marker stands further to the left on its second line. -/
def shiftedQuoteText : List Char := "   >\n>  a".toList

/-- The content is three columns to the right of the quote's marker on its line and starts below the marker of the first
line, so nothing is measured between marker and content. -/
theorem indentation_shifted : ∃ tree, buildTree shiftedQuoteText [quote 0 2 [paragraph 1]] 0 = .ok tree ∧
    (∀ s ∈ spots shiftedQuoteText [] [quote 0 2 [paragraph 1]], s.kind = "blockquote" →
      s.QuoteAgrees shiftedQuoteText) ∧
    ∃ n ∈ compared tree (Location.ofText shiftedQuoteText), ∃ s t, IsQuote shiftedQuoteText s t n ∧
      s.MarkedOn shiftedQuoteText t.first 0 ∧ t.column shiftedQuoteText = 3 ∧ indentation n = some 0 := by
  have hspots : spots shiftedQuoteText [] [quote 0 2 [paragraph 1]]
      = [⟨[], quote 0 2 [paragraph 1], 0, 1⟩, ⟨[.quote], paragraph 1, 1, 1⟩] := rfl
  have hstart : (⟨[], quote 0 2 [paragraph 1], 0, 1⟩ : Spot).MarkedOn shiftedQuoteText 0 3 :=
    @MarkedOn.intro _ _ _ [] [' ', ' ', ' '] [] (by decide +kernel) .nil rfl
  have hbelow : (⟨[], quote 0 2 [paragraph 1], 0, 1⟩ : Spot).MarkedOn shiftedQuoteText 1 0 :=
    @MarkedOn.intro _ _ _ [] [] "  a".toList (by decide +kernel) .nil rfl
  have hbuilt : (buildTree shiftedQuoteText [quote 0 2 [paragraph 1]] 0).toOption.map (fun tree =>
      (compared tree (Location.ofText shiftedQuoteText)).map indentation) = some [some 0] := by
    decide +kernel
  obtain ⟨tree, htree, hindents⟩ := map_toOption_eq_some_iff.1 hbuilt
  obtain ⟨n, hcompared, hindent⟩ := List.map_eq_singleton_iff.1 hindents
  have hn : n ∈ compared tree (Location.ofText shiftedQuoteText) := by
    rw [hcompared]
    exact List.mem_singleton_self n
  obtain ⟨s, hs, t, hquote, -⟩ := exists_isQuote htree hn
  have hcontent := hquote.content
  rw [hspots] at hs ⊢
  simp only [List.mem_cons, List.not_mem_nil, or_false] at hs
  rcases hs with rfl | rfl
  · obtain rfl := Option.some.inj hcontent
    refine ⟨tree, htree, ?_, n, hn, _, _, hquote, hbelow, by decide +kernel, hindent⟩
    simp only [List.forall_mem_cons, List.not_mem_nil, false_imp_iff, implies_true, and_true]
    exact ⟨fun _ => .of_singleton hcontent rfl hstart hbelow, fun h => absurd h (by decide)⟩
  · exact absurd hquote.kind (by decide)

end BlockquoteIndentation
end MarkLint

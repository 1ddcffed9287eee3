import MarkLint.Markdown.Reader
import MarkLint.Proofs.Markdown.Parts

/-!
# The reader yields blocks

The elements of a Markdown text are blocks, each heading has a level and holds nothing but text, and parts of lines
stand only where the text of a line does (`isBlock_of_mem_elements`). Each reader of one kind of block keeps this, quotes
and lists if the readers of what is inside them do (`allBlocks_readBlock`), so a region read line by line does
(`allBlocks_readFrom`).
-/

namespace MarkLint.Markdown

open MarkLint.Document
open MarkLint.Text

/-- The element is the text of a line, of which everything below it is a part. -/
structure Element.IsLine (e : Element) : Prop where
  kind : e.kind = "inline"
  parts : ∀ c ∈ e.children, c.IsLinePart

/-- The element is no part of a line. It is the text of a line, or it holds other blocks; if it is a heading it has a
level, and it holds nothing but text. -/
inductive Element.IsBlock : Element → Prop where
  | line {e : Element} : e.IsLine → IsBlock e
  | block {e : Element} : isInline e.kind = false →
      (e.kind = "heading" → (readInt? (e.tag.toList.drop 1)).isSome = true ∧ ∀ c ∈ e.children, c.IsLine) →
      (∀ c ∈ e.children, IsBlock c) → IsBlock e

/-- Blocks other than headings need no level. -/
theorem Element.IsBlock.other {e : Element} (kind : String) (he : e.kind = kind)
    (hkind : isInline kind = false ∧ kind ≠ "heading") (hchildren : ∀ c ∈ e.children, c.IsBlock) : e.IsBlock :=
  .block (he ▸ hkind.1) (fun h => absurd (he ▸ h) hkind.2) hchildren

theorem isLine_inlineText (content : List Char) : (inlineText content).IsLine := ⟨rfl, by simp [inlineText]⟩

theorem isBlock_inlineText (content : List Char) : (inlineText content).IsBlock := .line (isLine_inlineText content)

/-- All elements are blocks. -/
def Blocks.AllBlocks (b : Blocks) : Prop := ∀ e ∈ b.elements, e.IsBlock

/-- The reader yields blocks. -/
def ReadsBlocks (reader : BlockReader) : Prop := ∀ r start stop refs, (reader r start stop refs).AllBlocks

namespace Region

variable {r : Region} {i stop : Nat} {x : Element × Nat} {refs : References} {b : Blocks}

/-! ## Blocks without inner blocks -/

theorem isBlock_of_readCode? (h : r.readCode? i stop = some x) : x.1.IsBlock := by
  unfold readCode? at h
  split at h
  · cases h
    exact .other "code_block" rfl (by decide) (by simp)
  · cases h

theorem isBlock_of_readFence? (h : r.readFence? i stop = some x) : x.1.IsBlock := by
  unfold readFence? at h
  split at h
  · cases h
  · obtain ⟨f, -, rfl⟩ := Option.map_eq_some_iff.1 h
    exact .other "fence" rfl (by decide) (by simp)

theorem isBlock_of_readBreak? (h : r.readBreak? i = some x) : x.1.IsBlock := by
  unfold readBreak? at h
  split at h
  · cases h
    exact .other "hr" rfl (by decide) (by simp)
  · cases h

theorem isBlock_of_readHtml? (h : r.readHtml? i stop = some x) : x.1.IsBlock := by
  obtain ⟨kind, -, rfl⟩ := Option.map_eq_some_iff.1 h
  exact .other "html_block" rfl (by decide) (by simp)

theorem isBlock_readParagraph (r : Region) (i : Nat) : (r.readParagraph i).1.IsBlock :=
  .other "paragraph" rfl (by decide) (by simpa [readParagraph] using isBlock_inlineText _)

/-! ## Headings -/

/-- Levels up to six can be read back from the tags of headings. -/
theorem isBlock_heading {level : Nat} (h : level ≤ 6) (start stop : Nat) (content : List Char) :
    (heading level start stop content).IsBlock := by
  have hlevels : ∀ level ≤ 6, (readInt? (("h" ++ toString level).toList.drop 1)).isSome = true := by decide +kernel
  exact .block (show isInline "heading" = false by decide)
    (fun _ => ⟨hlevels level h, by simpa [heading] using isLine_inlineText content⟩)
    (by simpa [heading] using isBlock_inlineText content)

theorem isBlock_of_readHeading? (h : r.readHeading? i = some x) : x.1.IsBlock := by
  unfold readHeading? at h
  split at h
  · cases h
  · obtain ⟨level, hlevel, rfl⟩ := Option.map_eq_some_iff.1 h
    refine isBlock_heading ?_ _ _ _
    unfold headingLevel? at hlevel
    simp only [Option.ite_none_right_eq_some, Bool.and_eq_true, decide_eq_true_eq, Option.some.injEq] at hlevel
    omega

theorem le_of_underline? {level : Nat} (h : r.underline? i = some level) : level ≤ 2 := by
  unfold underline? at h
  split at h
  · cases h
  · split at h
    · split at h
      · cases h
        split <;> omega
      · cases h
    · cases h

theorem le_of_findUnderline {level last : Nat} : ∀ {fuel i : Nat},
    r.findUnderline stop fuel i = some (level, last) → level ≤ 2
  | 0, _, h => by cases h
  | fuel + 1, i, h => by
    rw [findUnderline] at h
    split at h
    · cases h
    · split at h
      · exact le_of_findUnderline h
      · split at h
        · rename_i level' hunderline
          cases h
          exact le_of_underline? hunderline
        · split at h
          · exact le_of_findUnderline h
          · cases h

theorem isBlock_of_readUnderlined? (h : r.readUnderlined? i stop = some x) : x.1.IsBlock := by
  obtain ⟨⟨level, last⟩, hlevel, rfl⟩ := Option.map_eq_some_iff.1 h
  have := le_of_findUnderline hlevel
  exact isBlock_heading (by omega) _ _ _

/-! ## Tables -/

theorem isBlock_cell {kind : String} (hkind : isInline kind = false ∧ kind ≠ "heading") (content : List Char) :
    (cell kind content).IsBlock :=
  .other kind rfl hkind (by simpa [cell] using isBlock_inlineText _)

theorem isBlock_row {kind : String} (hkind : isInline kind = false ∧ kind ≠ "heading") (i : Nat)
    (cells : List (List Char)) : (row kind i cells).IsBlock := by
  refine .other "tr" rfl (by decide) fun c hc => ?_
  obtain ⟨content, -, rfl⟩ := List.mem_map.1 hc
  exact isBlock_cell hkind content

theorem isBlock_of_mem_readRows {columns : Nat} : ∀ {fuel : Nat} {missing : Int} {i : Nat},
    ∀ e ∈ (r.readRows columns stop fuel missing i).1, e.IsBlock
  | 0, _, _ => by simp [readRows]
  | fuel + 1, missing, i => by
    rw [readRows]
    split
    · simp
    · dsimp only
      split
      · simp
      · exact List.forall_mem_cons.2 ⟨isBlock_row (by decide) _ _, isBlock_of_mem_readRows⟩

theorem isBlock_of_readTable? (h : r.readTable? i stop = some x) : x.1.IsBlock := by
  obtain ⟨header, -, rfl⟩ := Option.map_eq_some_iff.1 h
  have hrows := @isBlock_of_mem_readRows r stop header.length (stop - i) 0 (i + 2)
  refine .other "table" rfl (by decide) (List.forall_mem_cons.2 ⟨?_, fun c hc => ?_⟩)
  · refine .other "thead" rfl (by decide) fun c hc => ?_
    obtain rfl := List.mem_singleton.1 hc
    exact isBlock_row (by decide) _ _
  · split at hc
    · cases hc
    · obtain rfl := List.mem_singleton.1 hc
      exact .other "tbody" rfl (by decide) hrows

/-! ## Quotes and lists -/

variable {inner : BlockReader}

theorem allBlocks_of_readQuote? (hinner : ReadsBlocks inner) (h : r.readQuote? inner i stop refs = some b) :
    b.AllBlocks := by
  unfold readQuote? at h
  split at h
  · cases h
    exact List.forall_mem_singleton.2 (.other "blockquote" rfl (by decide) (hinner _ _ _ _))
  · cases h

theorem allBlocks_readItems (hinner : ReadsBlocks inner) : ∀ (fuel : Nat) (m : ListMarker) (i : Nat)
    (refs : References), (r.readItems inner stop fuel m i refs).AllBlocks
  | 0, _, _, _ => by simp [readItems, Blocks.AllBlocks]
  | fuel + 1, m, i, refs => by
    rw [readItems]
    dsimp only
    generalize hblocks : (if (r.insideItem m i).2 && (r.line (i + 1)).isEmpty then _ else _ : Blocks) = blocks
    have hcontent : blocks.AllBlocks := by
      rw [← hblocks]
      split
      · simp [Blocks.AllBlocks]
      · exact hinner _ _ _ _
    split
    · exact List.forall_mem_singleton.2 (.other "list_item" rfl (by decide) hcontent)
    · exact List.forall_mem_cons.2
        ⟨.other "list_item" rfl (by decide) hcontent, allBlocks_readItems hinner fuel _ _ _⟩

theorem allBlocks_of_readList? (hinner : ReadsBlocks inner) (h : r.readList? inner i stop refs = some b) :
    b.AllBlocks := by
  obtain ⟨m, -, rfl⟩ := Option.map_eq_some_iff.1 h
  have hkind : ∀ isOrdered : Bool, isInline (if isOrdered then "ordered_list" else "bullet_list") = false ∧
      (if isOrdered then "ordered_list" else "bullet_list") ≠ "heading" := by decide
  exact List.forall_mem_singleton.2 (.other _ rfl (hkind m.isOrdered) (allBlocks_readItems hinner _ _ _ _))

/-! ## Any block -/

theorem allBlocks_of_map_single {found : Option (Element × Nat)} (hfound : ∀ x, found = some x → x.1.IsBlock)
    (h : found.map (single refs) = some b) : b.AllBlocks := by
  obtain ⟨x, hx, rfl⟩ := Option.map_eq_some_iff.1 h
  exact List.forall_mem_singleton.2 (hfound x hx)

theorem allBlocks_of_readDefinition? (h : r.readDefinition? i refs = some b) : b.AllBlocks := by
  obtain ⟨d, -, rfl⟩ := Option.map_eq_some_iff.1 h
  simp [Blocks.AllBlocks]

/-- Of two readers, the second of which is tried if the first finds nothing, both yield blocks. -/
theorem allBlocks_of_orElse {x y : Option Blocks} (hx : ∀ b, x = some b → b.AllBlocks)
    (hy : ∀ b, y = some b → b.AllBlocks) (b : Blocks) (h : (x <|> y) = some b) : b.AllBlocks := by
  cases x with
  | none => exact hy b h
  | some a => exact hx b h

theorem allBlocks_readBlock {quote item : BlockReader} (hquote : ReadsBlocks quote) (hitem : ReadsBlocks item) :
    (r.readBlock quote item i stop refs).AllBlocks := by
  rw [readBlock]
  generalize hfound : (_ <|> _ : Option Blocks) = found
  cases found with
  | none => exact List.forall_mem_singleton.2 (isBlock_readParagraph r i)
  | some b =>
    refine allBlocks_of_orElse (fun _ => allBlocks_of_map_single fun _ => isBlock_of_readTable?) ?_ b hfound
    refine allBlocks_of_orElse (fun _ => allBlocks_of_map_single fun _ => isBlock_of_readCode?) ?_
    refine allBlocks_of_orElse (fun _ => allBlocks_of_map_single fun _ => isBlock_of_readFence?) ?_
    refine allBlocks_of_orElse (fun _ => allBlocks_of_readQuote? hquote) ?_
    refine allBlocks_of_orElse (fun _ => allBlocks_of_map_single fun _ => isBlock_of_readBreak?) ?_
    refine allBlocks_of_orElse (fun _ => allBlocks_of_readList? hitem) ?_
    refine allBlocks_of_orElse (fun _ => allBlocks_of_readDefinition?) ?_
    refine allBlocks_of_orElse (fun _ => allBlocks_of_map_single fun _ => isBlock_of_readHtml?) ?_
    refine allBlocks_of_orElse (fun _ => allBlocks_of_map_single fun _ => isBlock_of_readHeading?) ?_
    exact fun _ => allBlocks_of_map_single fun _ => isBlock_of_readUnderlined?

theorem allBlocks_readFrom (isFull : Bool) {quote item : BlockReader} (hquote : ReadsBlocks quote)
    (hitem : ReadsBlocks item) : ∀ (fuel i : Nat) (refs : References),
    (r.readFrom isFull quote item stop fuel i refs).AllBlocks
  | 0, _, _ => by simp [readFrom, Blocks.AllBlocks]
  | fuel + 1, i, refs => by
    rw [readFrom]
    split
    · simp [Blocks.AllBlocks]
    · dsimp only
      split
      · simp [Blocks.AllBlocks]
      · split
        · simp [Blocks.AllBlocks]
        · exact List.forall_mem_append.2
            ⟨allBlocks_readBlock hquote hitem, allBlocks_readFrom isFull hquote hitem _ _ _⟩

end Region

theorem readsBlocks_readBlocks : ∀ room, ReadsBlocks (readBlocks room)
  | 0 => fun _ _ _ _ => by
    have hnone : ReadsBlocks fun _ i _ s => ⟨[], i, s⟩ := fun _ _ _ _ => by simp [Blocks.AllBlocks]
    rw [readBlocks]
    exact Region.allBlocks_readFrom true hnone hnone _ _ _
  | 1 => fun _ _ _ _ => by
    rw [readBlocks]
    exact Region.allBlocks_readFrom false (readsBlocks_readBlocks 0) (readsBlocks_readBlocks 0) _ _ _
  | room + 2 => fun _ _ _ _ => by
    rw [readBlocks]
    exact Region.allBlocks_readFrom false (readsBlocks_readBlocks (room + 1)) (readsBlocks_readBlocks room) _ _ _

/-! ## The whole reader -/

theorem readInlines_eq (refs : References) : ∀ es : List Element, readInlines refs es = es.map (readInline refs)
  | [] => by rw [readInlines, List.map_nil]
  | e :: rest => by rw [readInlines, readInlines_eq refs rest, List.map_cons]

@[simp] theorem kind_readInline (refs : References) (e : Element) : (readInline refs e).kind = e.kind := by
  cases e
  rw [readInline]

@[simp] theorem tag_readInline (refs : References) (e : Element) : (readInline refs e).tag = e.tag := by
  cases e
  rw [readInline]

/-- The text of a line is read, and in other elements their children are. -/
theorem children_readInline (refs : References) (e : Element) : (readInline refs e).children =
    if e.kind = "inline" then inlineElements refs e.content else e.children.map (readInline refs) := by
  cases e
  rw [readInline, readInlines_eq]

theorem isLine_readInline (refs : References) {e : Element} (h : e.kind = "inline") : (readInline refs e).IsLine := by
  refine ⟨by rwa [kind_readInline], ?_⟩
  rw [children_readInline, if_pos h]
  exact isLinePart_of_mem_inlineElements refs e.content

/-- Reading the text of lines leaves blocks blocks. -/
theorem isBlock_readInline (refs : References) {e : Element} (h : e.IsBlock) : (readInline refs e).IsBlock := by
  induction h with
  | line hline => exact .line (isLine_readInline refs hline.kind)
  | @block e hkind hheading _ ih =>
    by_cases hinline : e.kind = "inline"
    · exact .line (isLine_readInline refs hinline)
    · have hchildren : (readInline refs e).children = e.children.map (readInline refs) := by
        rw [children_readInline, if_neg hinline]
      refine .block (by rwa [kind_readInline]) (fun hkind => ?_) ?_
      · rw [kind_readInline] at hkind
        obtain ⟨hlevel, hlines⟩ := hheading hkind
        rw [tag_readInline, hchildren]
        exact ⟨hlevel, List.forall_mem_map.2 fun c hc => isLine_readInline refs (hlines c hc).kind⟩
      · rw [hchildren]
        exact List.forall_mem_map.2 ih

/-- The elements of a Markdown text are blocks. -/
theorem isBlock_of_mem_elements (source : List Char) : ∀ e ∈ elements source, e.IsBlock := by
  have hblocks := readsBlocks_readBlocks maxNesting
  intro e he
  simp only [elements, blockElements, readInlines_eq] at he
  obtain ⟨e', he', rfl⟩ := List.mem_map.1 he
  exact isBlock_readInline _ (hblocks _ _ _ _ e' he')

end MarkLint.Markdown

import MarkLint.Markdown.Inline
import MarkLint.Proofs.Document.Origin

/-!
# The inline reader yields parts of lines

The elements of an inline text are parts of lines, and so is everything in them (`isLinePart_of_mem_inlineElements`).
Each step of the reader keeps this of its pieces (`AllParts`): pairing marks puts the ends of spans in the place of
texts (`allParts_applyMarks`), and nesting puts elements into spans (`isLinePart_of_mem_nest`).
-/

namespace MarkLint.Markdown

open MarkLint.Document
open MarkLint.Text

/-- The element and everything in it are parts of a line. -/
inductive Element.IsLinePart : Element → Prop where
  | mk {e : Element} : isInline e.kind = true → (∀ c ∈ e.children, IsLinePart c) → IsLinePart e

theorem Element.IsLinePart.leaf {e : Element} (hkind : isInline e.kind = true) (hchildren : e.children = []) :
    e.IsLinePart :=
  .mk hkind (by simp [hchildren])

/-! ## Pieces -/

/-- The piece yields nothing but parts of a line. -/
def Piece.YieldsParts : Piece → Prop
  | .element e => e.IsLinePart
  | .opening kind => isInline kind = true
  | .text _ => True
  | .special _ => True
  | .closing _ => True

/-- All pieces yield parts of a line. -/
def AllParts (pieces : Array Piece) : Prop := ∀ p ∈ pieces, p.YieldsParts

theorem AllParts.push {pieces : Array Piece} (h : AllParts pieces) {p : Piece} (hp : p.YieldsParts) :
    AllParts (pieces.push p) := by
  intro q hq
  rcases Array.mem_push.1 hq with hq | rfl
  · exact h q hq
  · exact hp

theorem AllParts.set {pieces : Array Piece} (h : AllParts pieces) {p : Piece} (hp : p.YieldsParts) (i : Nat) :
    AllParts (pieces.setIfInBounds i p) := by
  intro q hq
  rcases Array.mem_or_eq_of_mem_setIfInBounds hq with hq | rfl
  · exact h q hq
  · exact hp

/-- The ends of a span take the places of other pieces. -/
theorem AllParts.setSpan {pieces : Array Piece} (h : AllParts pieces) {kind : String} (hkind : isInline kind = true)
    (i j : Nat) : AllParts ((pieces.setIfInBounds i (.opening kind)).setIfInBounds j (.closing kind)) :=
  have hclosing : (Piece.closing kind).YieldsParts := trivial
  (h.set (p := .opening kind) hkind i).set hclosing j

namespace Piece

/-! ## From pieces to elements -/

theorem isLinePart_textElement (s : List Char) : (textElement s).IsLinePart :=
  .leaf (show isInline "text" = true by decide) rfl

/-- Joining texts only changes the content of elements. -/
theorem isLinePart_of_mem_joinTexts : ∀ {es : List Element}, (∀ e ∈ es, e.IsLinePart) →
    ∀ e ∈ joinTexts es, e.IsLinePart
  | [], _ => by simp [joinTexts]
  | e :: rest, h => by
    have ih := isLinePart_of_mem_joinTexts fun c (hc : c ∈ rest) => h c (List.mem_cons_of_mem e hc)
    have he := h e List.mem_cons_self
    rw [joinTexts]
    split
    · rename_i next more hjoined
      rw [hjoined] at ih
      split
      · obtain ⟨hkind, hchildren⟩ := he
        intro c hc
        rcases List.mem_cons.1 hc with rfl | hc
        · exact .mk hkind hchildren
        · exact ih c (List.mem_cons_of_mem next hc)
      · exact List.forall_mem_cons.2 ⟨he, ih⟩
    · exact List.forall_mem_cons.2 ⟨he, by simp⟩

/-- Nesting puts parts of a line into spans, which are such parts again. -/
theorem isLinePart_of_mem_nest : ∀ {ps : List Piece} {open_ : List (String × List Element)} {done : List Element},
    (∀ s ∈ open_, isInline s.1 = true ∧ ∀ e ∈ s.2, e.IsLinePart) → (∀ e ∈ done, e.IsLinePart) →
    (∀ p ∈ ps, p.YieldsParts) → ∀ e ∈ nest open_ done ps, e.IsLinePart
  | [], open_, done, hopen, hdone, _ => by
    rw [nest]
    refine isLinePart_of_mem_joinTexts fun e he => ?_
    rw [List.mem_reverse] at he
    revert e
    refine List.foldlRecOn open_ _ (motive := fun es => ∀ e ∈ es, Element.IsLinePart e) hdone fun es hes s hs e he => ?_
    rcases List.mem_append.1 he with he | he
    · exact hes e he
    · exact (hopen s hs).2 e he
  | .text s :: rest, open_, done, hopen, hdone, hps => by
    rw [nest]
    exact isLinePart_of_mem_nest hopen (List.forall_mem_cons.2 ⟨isLinePart_textElement s, hdone⟩)
      (List.forall_mem_cons.1 hps).2
  | .special s :: rest, open_, done, hopen, hdone, hps => by
    rw [nest]
    exact isLinePart_of_mem_nest hopen (List.forall_mem_cons.2 ⟨isLinePart_textElement s, hdone⟩)
      (List.forall_mem_cons.1 hps).2
  | .element e :: rest, open_, done, hopen, hdone, hps => by
    rw [nest]
    obtain ⟨he, hrest⟩ := List.forall_mem_cons.1 hps
    exact isLinePart_of_mem_nest hopen (List.forall_mem_cons.2 ⟨he, hdone⟩) hrest
  | .opening kind :: rest, open_, done, hopen, hdone, hps => by
    rw [nest]
    obtain ⟨hkind, hrest⟩ := List.forall_mem_cons.1 hps
    exact isLinePart_of_mem_nest (List.forall_mem_cons.2 ⟨⟨hkind, hdone⟩, hopen⟩) (by simp) hrest
  | .closing _ :: rest, [], done, _, hdone, hps => by
    rw [nest]
    exact isLinePart_of_mem_nest (by simp) hdone (List.forall_mem_cons.1 hps).2
  | .closing _ :: rest, (kind, before) :: outer, done, hopen, hdone, hps => by
    rw [nest]
    obtain ⟨⟨hkind, hbefore⟩, houter⟩ := List.forall_mem_cons.1 hopen
    have hspan : Element.IsLinePart { kind := kind, tag := kind, children := joinTexts done.reverse } :=
      .mk hkind (isLinePart_of_mem_joinTexts fun e he => hdone e (List.mem_reverse.1 he))
    exact isLinePart_of_mem_nest houter (List.forall_mem_cons.2 ⟨hspan, hbefore⟩) (List.forall_mem_cons.1 hps).2

/-! ## Pairs of marks -/

theorem allParts_applyTildes (marks : Array Mark) {pieces : Array Piece} (h : AllParts pieces) :
    AllParts (applyTildes marks pieces).1 := by
  rw [applyTildes, ← Array.foldl_toList]
  refine List.foldlRecOn marks.toList _ (motive := fun s : Array Piece × List Nat => AllParts s.1) h ?_
  rintro ⟨pieces, lone⟩ hpieces m -
  dsimp only
  split
  · exact hpieces.setSpan (by decide) _ _
  · exact hpieces

theorem allParts_moveTilde {pieces : Array Piece} (h : AllParts pieces) (i : Nat) : AllParts (moveTilde pieces i) := by
  simp only [moveTilde]
  split
  · rename_i a b ha hb
    exact (h.set (h a (Array.mem_of_getElem? ha)) _).set (h b (Array.mem_of_getElem? hb)) _
  · exact h

theorem allParts_applyStars (marks : Array Mark) (i : Nat) {pieces : Array Piece} (h : AllParts pieces) :
    AllParts (applyStars marks i pieces) := by
  have hkind : ∀ strong : Bool, isInline (if strong = true then "strong" else "em") = true := by decide
  have hempty : (text []).YieldsParts := trivial
  fun_induction applyStars marks i pieces with
  | case1 => exact h
  | case2 i pieces m close hpartner htilde ih => exact ih h
  | case3 pieces close m hpartner htilde strong =>
    exact ((h.setSpan (hkind strong) _ _).set hempty _).set hempty _
  | case4 pieces close j m hpartner htilde strong kind pieces' hstrong pieces'' ih =>
    exact ih (((h.setSpan (hkind strong) _ _).set hempty _).set hempty _)
  | case5 i pieces m close hpartner htilde strong kind pieces' hstrong ih => exact ih (h.setSpan (hkind strong) _ _)
  | case6 i pieces m hpartner ih => exact ih h

/-- Pairing marks keeps parts of a line. -/
theorem allParts_applyMarks (marks : Array Mark) {pieces : Array Piece} (h : AllParts pieces) :
    AllParts (applyMarks marks pieces) := by
  rw [applyMarks]
  refine allParts_applyStars _ _ ?_
  exact List.foldlRecOn _ _ (allParts_applyTildes _ h) fun pieces hpieces i _ => allParts_moveTilde hpieces i

end Piece

/-! ## Levels -/

namespace Level

/-- All pieces of the level yield parts of a line. -/
def IsSound (l : Level) : Prop := AllParts l.pieces

variable {l : Level}

theorem IsSound.flush (h : l.IsSound) : l.flush.IsSound := by
  rw [Level.flush]
  split
  · exact h
  · exact AllParts.push h (p := .text _) trivial

theorem IsSound.push (h : l.IsSound) {p : Piece} (hp : p.YieldsParts) : (l.push p).IsSound :=
  AllParts.push h.flush hp

theorem IsSound.append (h : l.IsSound) (s : List Char) : (l.append s).IsSound := h

theorem IsSound.pushEmpty (h : l.IsSound) {kind : String} (hkind : isInline kind = true) :
    (l.pushEmpty kind).IsSound :=
  h.push (p := .element _) (.leaf hkind rfl)

theorem IsSound.breakLine (h : l.IsSound) : l.breakLine.IsSound := by
  have htrimmed : l.trimPending.IsSound := h
  rw [Level.breakLine]
  split
  · exact htrimmed.pushEmpty (by decide)
  · exact htrimmed.pushEmpty (by decide)

theorem IsSound.pushMark (h : l.IsSound) (s : List Char) (char : Char) (length : Nat) (flanks : Bool × Bool) :
    (l.pushMark s char length flanks).IsSound :=
  h.push (p := .text s) trivial

theorem IsSound.pushTildes (h : l.IsSound) (count : Nat) (flanks : Bool × Bool) :
    (l.pushTildes count flanks).IsSound := by
  rw [Level.pushTildes]
  refine List.foldlRecOn _ _ ?_ fun _ hl _ _ => hl.pushMark _ _ _ _
  split
  · exact h.push (p := .text _) trivial
  · exact h

theorem IsSound.pushStars (h : l.IsSound) (c : Char) (count : Nat) (flanks : Bool × Bool) :
    (l.pushStars c count flanks).IsSound :=
  List.foldlRecOn _ _ h fun _ hl _ _ => hl.pushMark _ _ _ _

/-- The elements of a level are parts of a line. -/
theorem IsSound.isLinePart (h : l.IsSound) : ∀ e ∈ l.elements, e.IsLinePart := by
  have hpieces := Piece.allParts_applyMarks l.flush.marks h.flush
  exact Piece.isLinePart_of_mem_nest (by simp) (by simp) fun p hp => hpieces p (by simpa using hp)

end Level

/-! ## Reading -/

namespace InlineText

/-- The reader yields parts of a line. -/
def ReadsParts (inner : LabelReader) : Prop := ∀ start stop memo, ∀ e ∈ (inner start stop memo).1, e.IsLinePart

variable {t : InlineText} {inner : LabelReader} {l : Level}

/-- Every token adds parts of a line. -/
theorem isSound_addToken (hinner : ReadsParts inner) (h : l.IsSound) (meaning : Meaning) :
    (addToken inner l meaning).IsSound := by
  cases meaning with
  | text s => exact h.append s
  | special s => exact h.push (p := .special s) trivial
  | lineBreak => exact h.breakLine
  | hardBreak => exact h.pushEmpty (by decide)
  | code s => exact h.push (p := .element _) (.leaf (show isInline "code_inline" = true by decide) rfl)
  | html s => exact h.push (p := .element _) (.leaf (show isInline "html_inline" = true by decide) rfl)
  | link address start stop =>
    have hlink : isInline "link" = true := by decide
    exact AllParts.push h.flush (p := .element _) (.mk hlink (hinner start stop _))
  | image address label => exact h.push (p := .element _) (.leaf (show isInline "image" = true by decide) rfl)
  | autolink address label =>
    have hlink : isInline "link" = true := by decide
    exact h.push (p := .element _) (.mk hlink (by simpa using Piece.isLinePart_textElement label))

theorem isSound_addMarks? {limit pos next : Nat} {l' : Level} (h : l.IsSound)
    (hmarks : t.addMarks? limit pos l = some (next, l')) : l'.IsSound := by
  obtain ⟨c, -, hmarks⟩ := Option.bind_eq_some_iff.1 hmarks
  simp only at hmarks
  split at hmarks
  · split at hmarks
    · -- tildes
      split at hmarks
      · cases hmarks
      · cases hmarks
        exact h.pushTildes _ _
    · cases hmarks
      exact h.pushStars _ _ _
  · cases hmarks

theorem isSound_readLevel (skip : Skipper) (hinner : ReadsParts inner) (limit : Nat) : ∀ (fuel pos : Nat) {l : Level},
    l.IsSound → (t.readLevel skip inner limit fuel pos l).IsSound
  | 0, _, _, h => by rwa [readLevel]
  | fuel + 1, pos, l, h => by
    rw [readLevel]
    split
    · exact h
    · split
      · rename_i next l' hmarks
        exact isSound_readLevel skip hinner limit fuel next (isSound_addMarks? h hmarks)
      · split
        · rename_i token memo _
          have hmemo : Level.IsSound { l with memo := memo } := h
          exact isSound_readLevel skip hinner limit fuel _ (isSound_addToken hinner hmemo token.meaning)
        · exact isSound_readLevel skip hinner limit fuel _ h

theorem readsParts_readLabel (t : InlineText) : ∀ room, ReadsParts (t.readLabel room)
  | 0 => fun start stop memo e he => by
    have hempty : Level.IsSound { memo := memo } := by simp [Level.IsSound, AllParts]
    simp only [readLabel] at he
    exact (hempty.append (t.slice start stop)).isLinePart e he
  | room + 1 => fun start stop memo e he => by
    have hempty : Level.IsSound { memo := memo } := by simp [Level.IsSound, AllParts]
    have hlevel := isSound_readLevel (t := t) (t.skipToken (room + 1)) (readsParts_readLabel t room) stop
      (stop + 1 - start) start hempty
    simp only [readLabel] at he
    exact hlevel.isLinePart e he

end InlineText

/-- The elements of an inline text are parts of a line. -/
theorem isLinePart_of_mem_inlineElements (refs : References) (content : String) :
    ∀ e ∈ inlineElements refs content, e.IsLinePart :=
  InlineText.readsParts_readLabel _ _ _ _ _

end MarkLint.Markdown

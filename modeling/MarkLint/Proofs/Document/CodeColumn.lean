import MarkLint.Proofs.Document.Prefix

/-!
# The column of indented code

White space before indented code belongs to it, so its column cannot be found by looking for the next character:
skipping the containers has to end exactly where their prefixes end. `Rendered source line cs p` says that the
containers `cs` are written plainly on a line, their prefixes making up `p`: a quote as `>` and a space, an item as its
marker and a space on the line on which it starts, and as spaces on later lines. Skipping them ends where `p` ends,
except that the space of a quote is left over when no other marker follows it on the line
(`Rendered.exists_skipAll_eq`), so this space becomes part of indented code that stands behind
(`blockPosition_rendered_code`).
-/

namespace MarkLint

open MarkLint.Text

/-! ## Markers on a line -/

/-- Does the container have its marker on the line? -/
def Container.hasMarker (line : Nat) : Container → Bool
  | .quote => true
  | .item startLine _ => startLine == line

namespace Document

/-- Is the last marker on the line that of a quote? -/
def endsInQuote (line : Nat) (cs : List Container) : Bool := (cs.filter (·.hasMarker line)).getLast? == some .quote

section Markers

variable {line : Nat} {c : Container} (cs : List Container)

theorem endsInQuote_append_of_hasMarker (h : c.hasMarker line = true) :
    endsInQuote line (cs ++ [c]) = (c == .quote) := by
  rw [endsInQuote, List.filter_append, List.filter_cons_of_pos (by simpa using h), List.filter_nil,
    List.getLast?_concat]
  rfl

theorem endsInQuote_append_of_not_hasMarker (h : c.hasMarker line = false) :
    endsInQuote line (cs ++ [c]) = endsInQuote line cs := by
  rw [endsInQuote, List.filter_append, List.filter_cons_of_neg (by simp [h]), List.filter_nil, List.append_nil]
  rfl

end Markers

/-! ## Plainly written prefixes -/

variable {source text : List Char} {line column : Nat}

/-- The container is written as this prefix at the column of the line: a quote as `>` and a space, an item as its marker
and a space on the line on which it starts, and as many spaces as its content is indented on later lines. -/
inductive Renders (source : List Char) (line column : Nat) : Container → List Char → Prop
  | quote : Renders source line column .quote ['>', ' ']
  | marker {marker : List Char} {markup info : String} {position : Position} {c : Container} :
      marker ≠ [] → (∀ d ∈ marker, isIndent d = false) → marker.length = markup.length + info.length →
      position.start = some (Point.onLine (lines source) line column) →
      innerContainer (Sheet.ofText source) "listItem" markup info position = .ok [c] →
      Renders source line column c (marker ++ [' '])
  | later {startLine indent : Nat} : startLine < line →
      Renders source line column (.item startLine indent) (List.replicate indent ' ')

/-- The containers are written on the line from its start, the innermost at the end. -/
inductive Rendered (source : List Char) (line : Nat) : List Container → List Char → Prop
  | nil : Rendered source line [] []
  | snoc {cs : List Container} {c : Container} {p q : List Char} : Rendered source line cs p →
      Renders source line p.length c q → Rendered source line (cs ++ [c]) (p ++ q)

theorem Renders.stands {c : Container} {p : List Char} (h : Renders source line column c p) :
    Stands source line column c p := by
  cases h with
  | quote => exact @Stands.quote _ _ _ [] [' '] rfl rfl
  | @marker marker _ _ _ _ hne hmarker hwidth hstart hinner =>
    exact @Stands.marker _ _ _ [] marker [' '] _ _ _ _ rfl hne hmarker hwidth (List.cons_ne_nil _ _) rfl hstart hinner
  | later hlt => exact .later hlt (List.all_replicate.trans (by simp [isIndent]))

/-- One more container after those that have their prefixes. -/
theorem Prefixed.snoc {cs : List Container} {c : Container} {p q : List Char} (h : Prefixed source line column cs p)
    (hq : Stands source line (column + p.length) c q) : Prefixed source line column (cs ++ [c]) (p ++ q) := by
  induction h with
  | nil => simpa using Prefixed.cons hq .nil
  | @cons column d cs p ps hp _ ih =>
    rw [List.cons_append, List.append_assoc]
    refine .cons hp (ih ?_)
    rwa [Nat.add_assoc, ← List.length_append]

theorem Rendered.prefixed {cs : List Container} {p : List Char} (h : Rendered source line cs p) :
    Prefixed source line 0 cs p := by
  induction h with
  | nil => exact .nil
  | snoc _ hq ih =>
    refine ih.snoc ?_
    rw [Nat.zero_add]
    exact hq.stands

/-! ## Skipping plainly written prefixes -/

section Skip

variable {pos : Nat} {rest : List Char}

/-- An item whose marker is followed by more white space than may lie before its content is passed with one space. -/
theorem skip_ofMarker_eq {marker : List Char} (hne : marker ≠ []) (hmarker : ∀ d ∈ marker, isIndent d = false)
    (hnext : skipIndent text column = skipIndent text pos)
    (hdrop : text.drop pos = marker ++ (List.replicate (maxMarkerGap + 1) ' ' ++ rest)) :
    (Container.ofMarker text line pos marker.length).skip text line column = pos + (marker.length + 1) := by
  have hmark : skipIndent text column = pos := by
    obtain ⟨d, marker, rfl⟩ := List.exists_cons_of_ne_nil hne
    exact hnext.trans (@skipIndent_eq _ [] _ _ _ hdrop rfl (hmarker d List.mem_cons_self))
  have hafter : text.drop (pos + marker.length) = List.replicate (maxMarkerGap + 1) ' ' ++ rest := by
    rw [← List.drop_drop, hdrop, List.drop_left]
  have hfar : maxMarkerGap < skipIndent text (pos + marker.length) - (pos + marker.length) := by
    have := add_length_le_skipIndent hafter rfl
    rw [List.length_replicate] at this
    omega
  have hlength : pos + marker.length + 1 ≤ text.length := by
    have := congrArg List.length hafter
    rw [List.length_drop, List.length_append, List.length_replicate] at this
    omega
  simp only [Container.ofMarker, Container.skip, if_pos, hmark, hfar, or_true, true_or]
  omega

/-- An item of an earlier line is passed with its indentation if there is as much white space. -/
theorem skip_later_eq {startLine indent : Nat} (hne : startLine ≠ line)
    (hspace : column + indent ≤ skipIndent text column) :
    (Container.item startLine indent).skip text line column = column + indent := by
  simp only [Container.skip, if_neg hne]
  omega

end Skip

/-- Containers that are plainly written before four spaces are skipped with their prefixes, but for the space of a quote
that has the last marker on the line. -/
theorem Rendered.exists_skipAll_eq {cs : List Container} {p : List Char} (h : Rendered source line cs p)
    (hline : (lines source)[line]? = some text) : ∀ {code : List Char}, text = p ++ (List.replicate 4 ' ' ++ code) →
    ∃ kept, p = kept ++ List.replicate (endsInQuote line cs).toNat ' ' ∧
      Container.skipAll text line cs = kept.length := by
  -- By induction on the containers, the innermost last. Where one with a marker on the line ends does not depend on
  -- where those before it end; an item of an earlier line goes on from there, and its spaces count to the code then.
  induction h with
  | nil => exact fun _ => ⟨[], rfl, rfl⟩
  | @snoc cs c p q hcs hq ih =>
    intro code htext
    rw [List.append_assoc] at htext
    have hdrop : text.drop p.length = q ++ (List.replicate 4 ' ' ++ code) := by rw [htext, List.drop_left]
    have hnext : skipIndent text (Container.skipAll text line cs) = skipIndent text p.length := by
      have := hcs.prefixed.skipIndent_foldl_skip hline (htext : text.drop 0 = _) rfl
      rwa [Nat.zero_add] at this
    rw [Container.skipAll_append_singleton]
    cases hq with
    | quote =>
      rw [endsInQuote_append_of_hasMarker _ rfl]
      refine ⟨p ++ ['>'], (List.append_assoc p ['>'] [' ']).symm, ?_⟩
      rw [skip_quote_eq hnext hdrop, List.length_append, List.length_singleton]
    | @marker marker markup info position _ hne hmarker hwidth hstart hinner =>
      obtain rfl : c = .ofMarker text line p.length marker.length := hwidth ▸ eq_ofMarker hline hstart hinner
      have hhere : (Container.ofMarker text line p.length marker.length).hasMarker line = true := beq_self_eq_true line
      rw [endsInQuote_append_of_hasMarker _ hhere]
      refine ⟨p ++ (marker ++ [' ']), (List.append_nil _).symm, ?_⟩
      rw [skip_ofMarker_eq hne hmarker hnext (hdrop.trans (List.append_assoc _ _ _)), List.length_append,
        List.length_append, List.length_singleton]
    | @later startLine indent hlt =>
      have hcode : ∀ s : List Char, List.replicate indent ' ' ++ (List.replicate 4 ' ' ++ s)
          = List.replicate 4 ' ' ++ (List.replicate indent ' ' ++ s) := fun s => by
        simp only [← List.append_assoc, List.replicate_append_replicate, Nat.add_comm]
      obtain ⟨kept, hp, hskip⟩ := ih (htext.trans (congrArg (p ++ ·) (hcode code)))
      have hearlier : (Container.item startLine indent).hasMarker line = false := beq_false_of_ne (Nat.ne_of_lt hlt)
      rw [endsInQuote_append_of_not_hasMarker _ hearlier]
      refine ⟨kept ++ List.replicate indent ' ', ?_, ?_⟩
      · rw [hp, List.append_assoc, List.append_assoc, List.replicate_append_replicate, List.replicate_append_replicate,
          Nat.add_comm]
      · have hspace := add_length_le_skipIndent hdrop (List.all_replicate.trans (by simp [isIndent]))
        have hkept : kept.length ≤ p.length := by
          rw [hp, List.length_append]
          omega
        rw [List.length_replicate] at hspace
        rw [hskip] at hnext ⊢
        rw [skip_later_eq (Nat.ne_of_lt hlt) (by omega), List.length_append, List.length_replicate]

/-- Let a line be the prefixes of containers, nested in any way and plainly written, and indented code behind them. The
code is placed where the prefixes end, so that all of its indentation and nothing else lies inside it, if and only if
the last marker on the line is not that of a quote. After such a marker its space lies inside the code too. -/
theorem blockPosition_rendered_code {cs : List Container} {p code : List Char} {stop : Int}
    (hline : (lines source)[line]? = some (p ++ (List.replicate 4 ' ' ++ code))) (h : Rendered source line cs p)
    (hstop : stop ≤ (lines source).length) :
    ∃ kept position, p = kept ++ List.replicate (endsInQuote line cs).toNat ' ' ∧
      blockPosition (Sheet.ofText source) cs "code_block" (some (line, stop)) = .ok (some position) ∧
      position.start = some (Point.onLine (lines source) line kept.length) ∧
      (position.start = some (Point.onLine (lines source) line p.length) ↔ endsInQuote line cs = false) := by
  obtain ⟨kept, hp, hskip⟩ := h.exists_skipAll_eq hline rfl
  have hlt := (List.getElem?_eq_some_iff.1 hline).1
  have hlines : blockLines (Sheet.ofText source) (some (line, stop)) = some (line, _) :=
    if_pos ⟨by omega, by rw [lines_sheet]; omega, hstop⟩
  have hstart : (blockPlace source cs "code_block" line
      (lastFilled (lines source) line (max (line : Int) (stop - 1)).toNat)).start
        = some (Point.onLine (lines source) line kept.length) := by
    simp only [blockPlace, getD_line hline, startColumn, if_pos, hskip]
  refine ⟨kept, _, hp, by rw [blockPosition_ofText, hlines, Option.map_some]; rfl, hstart, ?_⟩
  have hlength : p.length = kept.length + (endsInQuote line cs).toNat := by
    have := congrArg List.length hp
    rwa [List.length_append, List.length_replicate] at this
  rw [hstart, Option.some_inj, hlength]
  constructor
  · intro heq
    have hcolumn : (kept.length : Int) + 1 = (kept.length + (endsInQuote line cs).toNat : Nat) + 1 :=
      congrArg Point.column heq
    rw [← Bool.toNat_eq_zero]
    omega
  · intro hquote
    rw [hquote]
    rfl

/-- Indented code behind a bullet in a quote, on the second line of an item: it is placed where the prefixes end. -/
theorem blockPosition_rendered_code_bullet :
    Rendered "- a\n  > -     x".toList 1 [.item 0 2, .quote, .item 1 2] "  > - ".toList ∧
    ∃ position, blockPosition (Sheet.ofText "- a\n  > -     x".toList) [.item 0 2, .quote, .item 1 2]
        "code_block" (some (1, 2)) = .ok (some position) ∧ position.start = some ⟨2, 7, 10⟩ := by
  have hlater : Renders "- a\n  > -     x".toList 1 0 (.item 0 2) "  ".toList := .later (by decide)
  have hquote : Renders "- a\n  > -     x".toList 1 2 .quote "> ".toList := .quote
  have hbullet : Renders "- a\n  > -     x".toList 1 4 (.item 1 2) "- ".toList :=
    @Renders.marker _ 1 4 ['-'] "-" "" ⟨some (Point.onLine _ 1 4), none⟩ _ (by simp) (by simp [isIndent]) rfl rfl
      ((innerContainer_ofText rfl (by decide +kernel)).trans (congrArg _ (by decide +kernel)))
  have hrendered : Rendered "- a\n  > -     x".toList 1 [.item 0 2, .quote, .item 1 2] "  > - ".toList :=
    .snoc (.snoc (.snoc .nil hlater) hquote) hbullet
  have hline : (lines "- a\n  > -     x".toList)[1]? = some ("  > - ".toList ++ (List.replicate 4 ' ' ++ ['x'])) := by
    decide +kernel
  have hcount : (2 : Int) ≤ (lines "- a\n  > -     x".toList).length := by decide +kernel
  obtain ⟨kept, position, -, hposition, -, hexact⟩ := blockPosition_rendered_code hline hrendered hcount
  have hpoint : Point.onLine (lines "- a\n  > -     x".toList) 1 "  > - ".toList.length = ⟨2, 7, 10⟩ := by
    decide +kernel
  exact ⟨hrendered, position, hposition, hpoint ▸ hexact.2 rfl⟩

/-- Indented code in a quote is placed on the space of the quote, one column before its prefix ends. -/
theorem blockPosition_rendered_code_quote : Rendered ">     code".toList 0 [.quote] "> ".toList ∧
    (lines ">     code".toList)[0]? = some ("> ".toList ++ (List.replicate 4 ' ' ++ "code".toList)) ∧
    (blockPosition (Sheet.ofText ">     code".toList) [.quote] "code_block" (some (0, 1))).toOption
      = some (some ⟨some ⟨1, 2, 1⟩, some ⟨1, 11, 10⟩⟩) ∧
    Point.onLine (lines ">     code".toList) 0 "> ".toList.length = ⟨1, 3, 2⟩ :=
  ⟨.snoc .nil .quote, by decide +kernel, by decide +kernel, by decide +kernel⟩

end Document
end MarkLint

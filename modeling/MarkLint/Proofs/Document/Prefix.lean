import MarkLint.Proofs.Document.Sheet

/-!
# The prefixes of containers

`Prefixed source line column cs p` says that the containers `cs` have the prefixes that make up `p`, one after the
other, from a column of a line on. However they are nested, skipping them and the white space that follows ends where
the prefixes end (`Prefixed.skipIndent_foldl_skip`), so a block that begins there gets this place
(`blockPosition_prefixed`). Skipping one container may stop short of the end of its prefix or run into the next one;
what it keeps is which character comes next (`Stands.skipIndent_skip`).
-/

namespace MarkLint.Document

open MarkLint.Text

/-! ## The next character that is not white space -/

/-- What is left of the leading characters that pass a test when some of them are dropped. -/
theorem length_takeWhile_drop {test : Char → Bool} : ∀ {s : List Char} {k : Nat}, k ≤ (s.takeWhile test).length →
    k + ((s.drop k).takeWhile test).length = (s.takeWhile test).length
  | _, 0, _ => by simp
  | [], k + 1, h => by simp at h
  | c :: s, k + 1, h => by
    cases hc : test c with
    | false => simp [hc] at h
    | true =>
      rw [List.takeWhile_cons_of_pos hc, List.length_cons] at h ⊢
      have ih := length_takeWhile_drop (Nat.le_of_succ_le_succ h)
      rw [List.drop_succ_cons]
      omega

/-- From any column up to the next character, the next character is the same. -/
theorem skipIndent_of_le {text : List Char} {a b : Nat} (hab : a ≤ b) (hb : b ≤ skipIndent text a) :
    skipIndent text b = skipIndent text a := by
  unfold skipIndent at hb ⊢
  have h := @length_takeWhile_drop isIndent (text.drop a) (b - a) (by omega)
  rw [List.drop_drop, show a + (b - a) = b by omega] at h
  omega

/-- White space from a column on lies before the next character. -/
theorem add_length_le_skipIndent {text blanks rest : List Char} {a : Nat} (h : text.drop a = blanks ++ rest)
    (hblanks : blanks.all isIndent = true) : a + blanks.length ≤ skipIndent text a := by
  rw [skipIndent, h, List.takeWhile_append_of_pos (List.all_eq_true.1 hblanks), List.length_append]
  omega

/-- White space from a column on, up to a character that is none. -/
theorem skipIndent_eq {text blanks rest : List Char} {a : Nat} {c : Char} (h : text.drop a = blanks ++ c :: rest)
    (hblanks : blanks.all isIndent = true) (hc : isIndent c = false) : skipIndent text a = a + blanks.length := by
  rw [skipIndent, h, List.takeWhile_append_of_pos (List.all_eq_true.1 hblanks),
    List.takeWhile_cons_of_neg (by simp [hc]), List.append_nil]

/-! ## Skipping one container

The column from which a container is skipped need not be the one where its prefix starts; what counts is that the same
character comes next. -/

variable {text : List Char} {line pos column : Nat}

/-- A quote is passed with its marker and without the white space after it. -/
theorem skip_quote_eq {rest : List Char} (hnext : skipIndent text column = skipIndent text pos)
    (hdrop : text.drop pos = '>' :: rest) : Container.quote.skip text line column = pos + 1 := by
  have hmark : skipIndent text column = pos := hnext.trans (@skipIndent_eq _ [] _ _ _ hdrop rfl (by decide))
  have hat : text[pos]? = some '>' := by
    rw [← Nat.add_zero pos, ← List.getElem?_drop, hdrop]
    rfl
  simp only [Container.skip, hmark, if_pos hat]

/-- A quote is passed with its marker, and the white space after it is left. -/
theorem skipIndent_skip_quote {before after rest : List Char} (hbefore : before.all isIndent = true)
    (hafter : after.all isIndent = true) (hdrop : text.drop pos = (before ++ '>' :: after) ++ rest)
    (hnext : skipIndent text column = skipIndent text pos) :
    skipIndent text (Container.quote.skip text line column)
      = skipIndent text (pos + (before ++ '>' :: after).length) := by
  rw [List.append_assoc, List.cons_append] at hdrop
  have hbeforeDrop : text.drop (pos + before.length) = '>' :: (after ++ rest) := by
    rw [← List.drop_drop, hdrop, List.drop_left]
  have hafterDrop : text.drop (pos + before.length + 1) = after ++ rest := by
    rw [← List.drop_drop, hbeforeDrop]
    rfl
  have hmark : skipIndent text column = skipIndent text (pos + before.length) :=
    hnext.trans (skipIndent_of_le (Nat.le_add_right _ _) (add_length_le_skipIndent hdrop hbefore)).symm
  have hend : pos + (before ++ '>' :: after).length = pos + before.length + 1 + after.length := by
    simp only [List.length_append, List.length_cons]
    omega
  rw [skip_quote_eq hmark hbeforeDrop, hend]
  exact (skipIndent_of_le (Nat.le_add_right _ _) (add_length_le_skipIndent hafterDrop hafter)).symm

/-- An item whose marker is followed by white space is passed up to some column of this white space. -/
theorem skip_ofMarker {start width : Nat} (hnext : skipIndent text column = start)
    (hgap : start + width < skipIndent text (start + width)) (hwidth : start + width ≤ text.length) :
    start + width ≤ (Container.ofMarker text line start width).skip text line column ∧
      (Container.ofMarker text line start width).skip text line column ≤ skipIndent text (start + width) := by
  have hlength := skipIndent_le_length hwidth
  simp only [Container.ofMarker, Container.skip, if_pos, hnext]
  split <;> omega

/-- An item is passed with its marker, and some of the white space after it may be left. -/
theorem skipIndent_skip_marker {before marker after rest : List Char} (hbefore : before.all isIndent = true)
    (hne : marker ≠ []) (hmarker : ∀ d ∈ marker, isIndent d = false) (hafterNe : after ≠ [])
    (hafter : after.all isIndent = true) (hdrop : text.drop pos = (before ++ (marker ++ after)) ++ rest)
    (hnext : skipIndent text column = skipIndent text pos) :
    skipIndent text ((Container.ofMarker text line (pos + before.length) marker.length).skip text line column)
      = skipIndent text (pos + (before ++ (marker ++ after)).length) := by
  rw [List.append_assoc, List.append_assoc] at hdrop
  obtain ⟨d, marker', rfl⟩ := List.exists_cons_of_ne_nil hne
  have hmark : skipIndent text column = pos + before.length :=
    hnext.trans (skipIndent_eq hdrop hbefore (hmarker d List.mem_cons_self))
  have hafterDrop : text.drop (pos + before.length + (d :: marker').length) = after ++ rest := by
    rw [Nat.add_assoc, ← List.drop_drop, hdrop, ← List.drop_drop, List.drop_left, List.drop_left]
  have hle := add_length_le_skipIndent hafterDrop hafter
  have hpos := List.length_pos_iff.2 hafterNe
  have hlength : pos + before.length + (d :: marker').length ≤ text.length := by
    by_contra hlong
    rw [List.drop_eq_nil_of_le (by omega)] at hafterDrop
    exact hafterNe (List.append_eq_nil_iff.1 hafterDrop.symm).1
  obtain ⟨hlow, hhigh⟩ := @skip_ofMarker text line _ _ _ hmark (by omega) hlength
  have hend : pos + (before ++ (d :: marker' ++ after)).length
      = pos + before.length + (d :: marker').length + after.length := by
    simp only [List.length_append]
    omega
  rw [hend, skipIndent_of_le hlow hhigh]
  exact (skipIndent_of_le (Nat.le_add_right _ _) hle).symm

/-- On later lines of an item nothing but white space is passed. -/
theorem skipIndent_skip_later {startLine indent : Nat} {before rest : List Char} (hstart : startLine ≠ line)
    (hbefore : before.all isIndent = true) (hdrop : text.drop pos = before ++ rest)
    (hnext : skipIndent text column = skipIndent text pos) :
    skipIndent text ((Container.item startLine indent).skip text line column)
      = skipIndent text (pos + before.length) := by
  have hskip : skipIndent text ((Container.item startLine indent).skip text line column) = skipIndent text column := by
    have hle := le_skipIndent text column
    simp only [Container.skip, if_neg hstart]
    exact skipIndent_of_le (by omega) (by omega)
  rw [hskip, hnext]
  exact (skipIndent_of_le (Nat.le_add_right _ _) (add_length_le_skipIndent hdrop hbefore)).symm

/-! ## Prefixes -/

/-- The container has the prefix at the column of the line: a quote its marker, a list item its marker on the line on
which it starts, and white space on later lines. White space may stand around the markers, and has to stand after the
marker of an item. The container of an item is the one that a node starting at the marker opens. -/
inductive Stands (source : List Char) (line column : Nat) : Container → List Char → Prop
  | quote {before after : List Char} : before.all isIndent = true → after.all isIndent = true →
      Stands source line column .quote (before ++ '>' :: after)
  | marker {before marker after : List Char} {markup info : String} {position : Position} {c : Container} :
      before.all isIndent = true → marker ≠ [] → (∀ d ∈ marker, isIndent d = false) →
      marker.length = markup.length + info.length → after ≠ [] → after.all isIndent = true →
      position.start = some (Point.onLine (lines source) line (column + before.length)) →
      innerContainer (Sheet.ofText source) "listItem" markup info position = .ok [c] →
      Stands source line column c (before ++ (marker ++ after))
  | later {startLine indent : Nat} {before : List Char} : startLine < line → before.all isIndent = true →
      Stands source line column (.item startLine indent) before

/-- The containers have the prefixes, one after the other, from the column of the line on. -/
inductive Prefixed (source : List Char) (line : Nat) : Nat → List Container → List Char → Prop
  | nil {column : Nat} : Prefixed source line column [] []
  | cons {column : Nat} {c : Container} {cs : List Container} {p ps : List Char} : Stands source line column c p →
      Prefixed source line (column + p.length) cs ps → Prefixed source line column (c :: cs) (p ++ ps)

variable {source : List Char}

/-- A list item that starts at a column of a line opens the container of its marker there. -/
theorem eq_ofMarker {markup info : String} {position : Position} {c : Container}
    (hline : (lines source)[line]? = some text) (hstart : position.start = some (Point.onLine (lines source) line column))
    (hinner : innerContainer (Sheet.ofText source) "listItem" markup info position = .ok [c]) :
    c = .ofMarker text line column (markup.length + info.length) := by
  have hlt := (List.getElem?_eq_some_iff.1 hline).1
  rw [innerContainer_ofText hstart hlt, opened, if_neg (by decide), if_pos rfl, getD_line hline] at hinner
  simpa using hinner.symm

/-- Skipping a container keeps which character comes next after its prefix. -/
theorem Stands.skipIndent_skip {c : Container} {p rest : List Char} (h : Stands source line pos c p)
    (hline : (lines source)[line]? = some text) (hdrop : text.drop pos = p ++ rest)
    (hnext : skipIndent text column = skipIndent text pos) :
    skipIndent text (c.skip text line column) = skipIndent text (pos + p.length) := by
  cases h with
  | quote hbefore hafter => exact skipIndent_skip_quote hbefore hafter hdrop hnext
  | @marker before marker after markup info position _ hbefore hne hmarker hwidth hafterNe hafter hstart hinner =>
    rw [eq_ofMarker hline hstart hinner, ← hwidth]
    exact skipIndent_skip_marker hbefore hne hmarker hafterNe hafter hdrop hnext
  | later hstart hbefore => exact skipIndent_skip_later (Nat.ne_of_lt hstart) hbefore hdrop hnext

/-- Skipping containers keeps which character comes next after their prefixes. -/
theorem Prefixed.skipIndent_foldl_skip {cs : List Container} {p rest : List Char} {pos : Nat}
    (h : Prefixed source line pos cs p) (hline : (lines source)[line]? = some text) :
    text.drop pos = p ++ rest → ∀ {column : Nat}, skipIndent text column = skipIndent text pos →
    skipIndent text (cs.foldl (fun column c => c.skip text line column) column) = skipIndent text (pos + p.length) := by
  induction h with
  | nil =>
    intro _ column hnext
    exact hnext
  | @cons pos c cs p ps hp _ ih =>
    intro hdrop column hnext
    rw [List.append_assoc] at hdrop
    have hrest : text.drop (pos + p.length) = ps ++ rest := by rw [← List.drop_drop, hdrop, List.drop_left]
    rw [List.foldl_cons, List.length_append, ← Nat.add_assoc]
    exact ih hrest (hp.skipIndent_skip hline hdrop hnext)

/-- Skipping containers that have their prefixes, and the white space there, ends at the character that comes next. -/
theorem Prefixed.skipIndent_skipAll {cs : List Container} {p blanks rest : List Char} {c : Char}
    (h : Prefixed source line 0 cs p) (hline : (lines source)[line]? = some text)
    (htext : text = p ++ (blanks ++ c :: rest)) (hblanks : blanks.all isIndent = true) (hc : isIndent c = false) :
    skipIndent text (Container.skipAll text line cs) = p.length + blanks.length := by
  have hdrop : text.drop (0 + p.length) = blanks ++ c :: rest := by rw [htext, Nat.zero_add, List.drop_left]
  rw [Container.skipAll, h.skipIndent_foldl_skip hline htext rfl, skipIndent_eq hdrop hblanks hc, Nat.zero_add]

/-- Let a line be the prefixes of containers, nested in any way, and content that starts with no white space. Skipping
the containers and white space ends where the content starts, and any block but indented code that begins on the line
inside the containers is placed there. -/
theorem blockPosition_prefixed {cs : List Container} {p rest : List Char} {c : Char}
    (hline : (lines source)[line]? = some (p ++ c :: rest)) (hc : isIndent c = false)
    (h : Prefixed source line 0 cs p) :
    skipIndent (p ++ c :: rest) (Container.skipAll (p ++ c :: rest) line cs) = p.length ∧
    ∀ (kind : String) (stop : Int), kind ≠ "code_block" → stop ≤ (lines source).length →
      ∃ position, blockPosition (Sheet.ofText source) cs kind (some (line, stop)) = .ok (some position) ∧
        position.start = some (Point.onLine (lines source) line p.length) := by
  have hcontent : skipIndent (p ++ c :: rest) (0 + p.length) = p.length := by
    rw [Nat.zero_add]
    exact @skipIndent_eq _ [] _ _ _ List.drop_left rfl hc
  have hskip : skipIndent (p ++ c :: rest) (Container.skipAll (p ++ c :: rest) line cs) = p.length :=
    (h.skipIndent_foldl_skip hline rfl rfl).trans hcontent
  refine ⟨hskip, fun kind stop hkind hstop => ?_⟩
  have hlt := (List.getElem?_eq_some_iff.1 hline).1
  have hlines : blockLines (Sheet.ofText source) (some (line, stop)) = some (line, _) :=
    if_pos ⟨by omega, by rw [lines_sheet]; omega, hstop⟩
  refine ⟨_, by rw [blockPosition_ofText, hlines, Option.map_some], ?_⟩
  simp only [blockPlace, getD_line hline, startColumn_of_ne hkind, hskip]

/-- A bullet in an ordered item in a quote, on the second line of an item: its text starts at the tenth column. -/
theorem blockPosition_prefixed_bullet :
    Prefixed "- a\n  > 1. - x".toList 1 0 [.item 0 2, .quote, .item 1 3, .item 1 2] "  > 1. - ".toList ∧
    ∃ position, blockPosition (Sheet.ofText "- a\n  > 1. - x".toList) [.item 0 2, .quote, .item 1 3, .item 1 2]
        "paragraph" (some (1, 2)) = .ok (some position) ∧ position.start = some ⟨2, 10, 13⟩ := by
  have hquote : Stands "- a\n  > 1. - x".toList 1 2 .quote "> ".toList := @Stands.quote _ _ _ [] [' '] rfl rfl
  have hnumber : Stands "- a\n  > 1. - x".toList 1 4 (.item 1 3) "1. ".toList :=
    @Stands.marker _ 1 4 [] ['1', '.'] [' '] "." "1" ⟨some (Point.onLine _ 1 4), none⟩ _ rfl (by simp)
      (by simp [isIndent]) rfl (by simp) rfl rfl
      ((innerContainer_ofText rfl (by decide +kernel)).trans (congrArg _ (by decide +kernel)))
  have hbullet : Stands "- a\n  > 1. - x".toList 1 7 (.item 1 2) "- ".toList :=
    @Stands.marker _ 1 7 [] ['-'] [' '] "-" "" ⟨some (Point.onLine _ 1 7), none⟩ _ rfl (by simp) (by simp [isIndent])
      rfl (by simp) rfl rfl ((innerContainer_ofText rfl (by decide +kernel)).trans (congrArg _ (by decide +kernel)))
  have hlater : Stands "- a\n  > 1. - x".toList 1 0 (.item 0 2) "  ".toList := .later (by decide) rfl
  have hprefixed : Prefixed "- a\n  > 1. - x".toList 1 0 [.item 0 2, .quote, .item 1 3, .item 1 2]
      "  > 1. - ".toList := .cons hlater <| .cons hquote <| .cons hnumber <| .cons hbullet .nil
  have hline : (lines "- a\n  > 1. - x".toList)[1]? = some ("  > 1. - ".toList ++ 'x' :: []) := by decide +kernel
  have hcount : (2 : Int) ≤ (lines "- a\n  > 1. - x".toList).length := by decide +kernel
  obtain ⟨position, hposition, hstart⟩ :=
    (blockPosition_prefixed hline (by decide) hprefixed).2 "paragraph" 2 (by decide) hcount
  have hpoint : Point.onLine (lines "- a\n  > 1. - x".toList) 1 "  > 1. - ".toList.length = ⟨2, 10, 13⟩ := by
    decide +kernel
  exact ⟨hprefixed, position, hposition, hpoint ▸ hstart⟩

end MarkLint.Document

import MarkLint.Proofs.Document.Spots
import MarkLint.Proofs.Rule.Consistent
import MarkLint.Proofs.Rule.Returns

/-!
# The style that the reader saw

A reader of Markdown knows of each code block whether it is fenced or indented; the rule about code blocks finds it out
again from the source. Where the elements agree with the source (`Spot.Agrees`), each fenced block is taken for one
(`codeStyle_of_fence`), and so is indented code whose own text opens with a fence, since any white space may stand
before the fence that the rule looks for (`codeStyle_codeBlock_iff`). All other indented code is recognised, so the rule
sees what the reader saw exactly where no indented code looks fenced (`codeStyle_seen_iff`).
-/

namespace MarkLint

open MarkLint.Document
open MarkLint.Text

variable {source : List Char}

/-! ## The text of a block -/

namespace Document.Spot

variable {s : Spot} {start : Nat} {opening : List Char}

/-- The column at which the block stops on its last line. -/
def stopColumn (source : List Char) (s : Spot) : Nat :=
  let stop := (trimEnd ((lines source).getD s.last [])).length
  if s.last = s.first then max stop (s.column source) else stop

/-- The source of the block, from a column of its first line on. -/
def textFrom (source : List Char) (s : Spot) (start : Nat) : List Char :=
  (Location.ofText source).slice (Point.onLine (lines source) s.first start).offset
    (Point.onLine (lines source) s.last (s.stopColumn source)).offset

/-- The text of the block from the column on opens with a fence, after any blanks. -/
def LooksFenced (source : List Char) (s : Spot) (start : Nat) : Prop :=
  ∃ c, (c = '~' ∨ c = '\x60') ∧ [c, c, c] <+: trimStart (s.textFrom source start)

/-- The code block agrees with the source: its content opens at the column, with a fence if the block is fenced, and
after white space of any width if it is indented. -/
def Agrees (source : List Char) (s : Spot) (start : Nat) : Prop :=
  ∃ opening, s.Opens source start opening ∧ (s.element.kind = "code_block" ∨
    s.element.kind = "fence" ∧ ∃ c, (c = '~' ∨ c = '\x60') ∧ [c, c, c] <+: opening)

instance (source : List Char) (s : Spot) (start : Nat) : Decidable (s.LooksFenced source start) :=
  decidable_of_iff _ CodeBlockStyle.opensFence_iff

theorem textFrom_eq (source : List Char) (s : Spot) (start : Nat) : s.textFrom source start =
    (source.take (lineStart (lines source) s.last + s.stopColumn source)).drop
      (lineStart (lines source) s.first + start) := rfl

/-- Between the start of a block and its content there are only blanks. -/
theorem Opens.trimStart_textFrom (h : s.Opens source start opening) :
    trimStart (s.textFrom source (s.column source)) = trimStart (s.textFrom source start) := by
  obtain ⟨l, blanks, hl, hdrop, hblanks, rfl, -⟩ := h.exists_blanks
  have hle : s.column source ≤ l.length := by
    rw [Spot.column, getD_line hl]
    exact startColumn_le_length _ _ _ _
  have hall : blanks.all isBlank = true :=
    List.all_eq_true.2 fun c hc => isBlank_of_isIndent (List.all_eq_true.1 hblanks c hc)
  obtain ⟨rest, -, hrest⟩ := exists_drop_lineStart hl hle
  rw [hdrop, List.append_assoc] at hrest
  rw [textFrom_eq, textFrom_eq, ← Nat.add_assoc]
  exact trimStart_drop_take hrest hall _

/-- A fence at the start of the content lies inside the block. -/
theorem Builds.prefix_textFrom {inner : List Node} {n : Node} {c : Char} (hbuilds : s.Builds source inner n)
    (h : s.Opens source start opening) (hc : isBlank c = false) (hfence : [c, c, c] <+: opening) :
    [c, c, c] <+: s.textFrom source start := by
  obtain ⟨l, hl, hdrop, hlength, -⟩ := h.exists_line
  obtain ⟨hle, hlast⟩ := blockLines_bounds hbuilds.1
  obtain ⟨rest, -, hrest⟩ := @exists_drop_lineStart source l s.first start hl (by omega)
  have hthree : 3 ≤ opening.length := hfence.length_le
  have hstop : lineStart (lines source) s.first + start + 3
      ≤ lineStart (lines source) s.last + s.stopColumn source := by
    rcases Nat.lt_or_eq_of_le hle with hlt | heq
    · have := lineStart_add_length_lt hl hlt (Nat.le_of_lt hlast)
      omega
    · -- on one line the block goes on to the last character that is not blank
      have hthird : l[start + 2]? = some c := by
        obtain ⟨more, rfl⟩ := hfence
        rw [← List.getElem?_drop, hdrop]
        rfl
      have hmax : (trimEnd l).length ≤ s.stopColumn source := by
        rw [stopColumn, if_pos heq.symm, ← heq, getD_line hl]
        exact Nat.le_max_left _ _
      have := lt_length_trimEnd hthird hc
      rw [← heq]
      omega
  rw [textFrom_eq, List.drop_take, hrest, hdrop, List.prefix_take_iff]
  exact ⟨hfence.trans (List.prefix_append _ _), by rw [List.length_cons]; simp; omega⟩

end Document.Spot

/-! ## Recognised styles -/

namespace CodeBlockStyle

open Document.Spot

variable {s : Spot} {start : Nat} {opening : List Char} {inner : List Node} {n : Node}

/-- The style of a code block shows in its language or in its text. -/
theorem codeStyle_eq (h : s.Builds source inner n) : codeStyle (Location.ofText source) n = some
    (if n.lang.any (· ≠ "") || opensFence (s.textFrom source (s.column source)) then .fenced else .indented) := by
  have hstop : n.stop? = some (Point.onLine (lines source) s.last (s.stopColumn source)) := by
    rw [Node.stop?, h.kind_position.2]
    rfl
  rw [codeStyle, h.start?, hstop]
  cases n.lang.any (· ≠ "") with
  | true => rfl
  | false => rfl

/-- A block whose content opens with a fence is taken for a fenced one. -/
theorem codeStyle_of_fence (hbuilds : s.Builds source inner n) (h : s.Opens source start opening) {c : Char}
    (hc : c = '~' ∨ c = '\x60') (hfence : [c, c, c] <+: opening) :
    codeStyle (Location.ofText source) n = some .fenced := by
  have hblank : isBlank c = false := by rcases hc with rfl | rfl <;> decide
  have hopens : opensFence (s.textFrom source (s.column source)) = true := by
    obtain ⟨rest, hrest⟩ := hbuilds.prefix_textFrom h hblank hfence
    refine opensFence_iff.2 ⟨c, hc, rest, ?_⟩
    rw [h.trimStart_textFrom, ← hrest]
    exact (trimStart_of_not_isBlank hblank _).symm
  rw [codeStyle_eq hbuilds, hopens, Bool.or_true]
  rfl

/-- Indented code is taken for a fenced block exactly if it looks like one. -/
theorem codeStyle_codeBlock_iff (hbuilds : s.Builds source inner n) (hkind : s.element.kind = "code_block")
    (h : s.Opens source start opening) :
    codeStyle (Location.ofText source) n = some .fenced ↔ s.LooksFenced source start := by
  have hlang : n.lang = none := by
    obtain ⟨node, hnode, rfl⟩ := hbuilds.of_ne (by rw [Spot.kind, hkind]; decide)
    simp [blockData, hkind] at hnode
    rw [← hnode]
  rw [codeStyle_eq hbuilds, hlang, LooksFenced, ← h.trimStart_textFrom, ← opensFence_iff]
  cases opensFence (s.textFrom source (s.column source)) <;> simp

/-- Code that is not fenced is indented. -/
theorem codeStyle_eq_indented_iff (h : s.Builds source inner n) :
    codeStyle (Location.ofText source) n = some .indented ↔ codeStyle (Location.ofText source) n ≠ some .fenced := by
  rw [codeStyle_eq h]
  split <;> simp

/-- The node has the style that the reader saw. -/
def SeenAsRead (source : List Char) (s : Spot) (n : Node) : Prop :=
  (codeStyle (Location.ofText source) n = some .fenced ↔ s.element.kind = "fence") ∧
    (codeStyle (Location.ofText source) n = some .indented ↔ s.element.kind = "code_block")

/-- In a sound tree the code blocks that are compared are those with a place. -/
theorem compared_eq {tree : Node} (h : ∀ n ∈ tree.preorder, IsSound source n) :
    compared tree (Location.ofText source) = (tree.walk (.kind "code")).filter hasPlace := by
  rw [compared, ← Node.filter_walk_kind]
  refine List.filter_congr fun n hn => ?_
  rw [(h n ((tree.walk_sublist _).subset hn)).isGenerated_eq, Bool.not_not, hasPlace]

/-- The code blocks that are compared are built from those of the reader, in document order. Where a block agrees with
the source, it is taken for a fenced one exactly if it is fenced or looks so. So the rule sees what the reader saw,
unless indented code looks fenced. -/
theorem codeStyle_seen_iff {elements : List Markdown.Element} {frontMatter : Nat} {tree : Node}
    (h : buildTree source elements frontMatter = .ok tree) :
    List.Forall₂ (fun s n => (∃ inner, s.Builds source inner n) ∧ ∀ start, s.Agrees source start →
        (codeStyle (Location.ofText source) n = some .fenced ↔
          s.element.kind = "fence" ∨ s.LooksFenced source start) ∧
        (SeenAsRead source s n ↔ ¬ (s.element.kind = "code_block" ∧ s.LooksFenced source start)))
      ((spots source [] elements).filter fun s => s.kind == "code") (compared tree (Location.ofText source)) := by
  rw [compared_eq (isTree_of_buildTree_eq_ok h).isSound]
  refine (walk_spots h (by decide)).imp fun s n hs => ?_
  obtain ⟨-, inner, hbuilds⟩ := hs
  refine ⟨⟨inner, hbuilds⟩, fun start hagrees => ?_⟩
  obtain ⟨opening, hopens, hkind | ⟨hkind, c, hc, hfence⟩⟩ := hagrees
  · have hstyle := codeStyle_codeBlock_iff hbuilds hkind hopens
    simp [SeenAsRead, codeStyle_eq_indented_iff hbuilds, hstyle, hkind]
  · have hstyle := codeStyle_of_fence hbuilds hopens hc hfence
    simp [SeenAsRead, hstyle, hkind]

/-- Indented code on one line. -/
def indentedCode (line : Nat) : Markdown.Element where
  kind := "code_block"
  lines := some (line, line + 1)

/-- A fenced block. -/
def fencedCode : Markdown.Element where
  kind := "fence"
  lines := some (0, 3)

/-- A fenced block in a quote, and indented code. -/
def bothStyles : List Markdown.Element :=
  [{ kind := "blockquote", lines := some (0, 3), children := [fencedCode] }, indentedCode 4]

/-- The text of these blocks. -/
def bothStylesText : List Char := "> ~~~\n> a\n> ~~~\n\n    b".toList

/-- A fenced block in a quote and indented code are both recognised. -/
theorem codeStyle_seen_iff_bothStyles : ∃ tree, buildTree bothStylesText bothStyles 0 = .ok tree ∧
    List.Forall₂ (SeenAsRead bothStylesText) ((spots bothStylesText [] bothStyles).filter fun s => s.kind == "code")
      (compared tree (Location.ofText bothStylesText)) := by
  have hspots : (spots bothStylesText [] bothStyles).filter (fun s => s.kind == "code")
      = [⟨[.quote], fencedCode, 0, 2⟩, ⟨[], indentedCode 4, 4, 4⟩] := rfl
  have hquote : Prefixed bothStylesText 0 0 [.quote] "> ".toList := .cons (@Stands.quote _ _ _ [] [' '] rfl rfl) .nil
  have hfence : (⟨[.quote], fencedCode, 0, 2⟩ : Spot).Opens bothStylesText 2 ['~', '~', '~'] :=
    @Opens.intro _ _ "> ".toList [] ['~', '~'] '~' (by decide +kernel) hquote rfl rfl
  have hcode : (⟨[], indentedCode 4, 4, 4⟩ : Spot).Opens bothStylesText 4 ['b'] :=
    @Opens.intro _ _ [] "    ".toList [] 'b' (by decide +kernel) .nil rfl rfl
  have hplain : ¬ (⟨[], indentedCode 4, 4, 4⟩ : Spot).LooksFenced bothStylesText 4 := by decide +kernel
  have hagrees : ∀ s ∈ (spots bothStylesText [] bothStyles).filter (fun s => s.kind == "code"),
      ∃ start, s.Agrees bothStylesText start ∧
        ¬ (s.element.kind = "code_block" ∧ s.LooksFenced bothStylesText start) := by
    rw [hspots]
    simp only [List.forall_mem_cons, List.not_mem_nil, false_imp_iff, implies_true, and_true]
    exact ⟨⟨2, ⟨_, hfence, Or.inr ⟨rfl, '~', Or.inl rfl, List.prefix_rfl⟩⟩, fun h => absurd h.1 (by decide)⟩,
      4, ⟨_, hcode, Or.inl rfl⟩, fun h => hplain h.2⟩
  have hbuilt : (buildTree bothStylesText bothStyles 0).toOption.map (fun tree => tree.kind) = some "root" := by
    decide +kernel
  obtain ⟨tree, htree, -⟩ := map_toOption_eq_some_iff.1 hbuilt
  refine ⟨tree, htree, ((List.forall₂_and_left _ _).2 ⟨hagrees, codeStyle_seen_iff htree⟩).imp fun s n hs => ?_⟩
  obtain ⟨⟨start, hstart, hplain⟩, -, hseen⟩ := hs
  exact (hseen start hstart).2.2 hplain

/-- Indented code that consists of a fence is taken for a fenced block. -/
theorem not_seenAsRead_indentedFence : ∃ tree, buildTree "    ```\n".toList [indentedCode 0] 0 = .ok tree ∧
    (∀ s ∈ (spots "    ```\n".toList [] [indentedCode 0]).filter (fun s => s.kind == "code"),
      s.Agrees "    ```\n".toList 4) ∧
    ¬ List.Forall₂ (SeenAsRead "    ```\n".toList)
      ((spots "    ```\n".toList [] [indentedCode 0]).filter fun s => s.kind == "code")
      (compared tree (Location.ofText "    ```\n".toList)) := by
  have hspots : (spots "    ```\n".toList [] [indentedCode 0]).filter (fun s => s.kind == "code")
      = [⟨[], indentedCode 0, 0, 0⟩] := rfl
  have hopens : (⟨[], indentedCode 0, 0, 0⟩ : Spot).Opens "    ```\n".toList 4 ['\x60', '\x60', '\x60'] :=
    @Opens.intro _ _ [] "    ".toList ['\x60', '\x60'] '\x60' (by decide +kernel) .nil rfl rfl
  have hbuilt : (buildTree "    ```\n".toList [indentedCode 0] 0).toOption.map (fun tree =>
      (compared tree (Location.ofText "    ```\n".toList)).map (codeStyle (Location.ofText "    ```\n".toList)))
        = some [some .fenced] := by
    decide +kernel
  obtain ⟨tree, htree, hstyles⟩ := map_toOption_eq_some_iff.1 hbuilt
  obtain ⟨n, hn, hstyle⟩ := List.map_eq_singleton_iff.1 hstyles
  rw [hspots]
  refine ⟨tree, htree, by simpa using ⟨_, hopens, Or.inl rfl⟩, fun hseen => ?_⟩
  rw [hn] at hseen
  cases hseen with
  | cons hseen _ => exact absurd (hseen.1.1 hstyle) (by decide)

end CodeBlockStyle
end MarkLint

import MarkLint.Files.Path
import MarkLint.Proofs.Suppression.Written
import Mathlib.Data.List.TakeWhile

/-!
# Names of Markdown files

The suffix of a name begins at its last dot, if there is something on both sides of it (`suffixOf_append`). A text in
small letters is what another one becomes in lower case exactly if that one spells it when case is ignored
(`lowerFrom_eq_iff`), so a path names a Markdown file exactly if its last name ends in a dot and `md` or `markdown` in
any letter case (`isMarkdown_iff`).
-/

namespace MarkLint.Text

open MarkLint.Suppression

/-! ## Small letters -/

/-- A small letter that is the only lower-case form of the characters that match it: `i` and `s` are not, since the
dotless small i and the long s match them and are small letters themselves. -/
def IsPlainSmall (w : Char) : Prop := 97 ≤ w.toNat ∧ w.toNat ≤ 122 ∧ w ≠ 'i' ∧ w ≠ 's'

instance (w : Char) : Decidable (IsPlainSmall w) := inferInstanceAs (Decidable (_ ∧ _ ∧ _ ∧ _))

theorem toNat_ofNat (n : Nat) : (Char.ofNat n).toNat = n ∨ (Char.ofNat n).toNat = 0 := by
  by_cases h : n.isValidChar
  · rw [Char.ofNat, dif_pos h]
    exact Or.inl rfl
  · rw [Char.ofNat, dif_neg h]
    exact Or.inr rfl

/-- Of the characters outside ASCII, only the Kelvin sign has a small letter of ASCII for its lower-case form. -/
theorem mapByRuns_lowerRuns_eq_iff {w c : Char} (hw : IsPlainSmall w) (hc : 128 ≤ c.toNat) :
    mapByRuns lowerRuns c = w ↔ w = 'k' ∧ c.toNat = 0x212A := by
  obtain ⟨hlow, hhigh, -, -⟩ := hw
  have htable : ∀ r ∈ lowerRuns, 128 ≤ r.first + r.shift ∨ r.first = 0x212A ∧ r.last = 0x212A ∧ r.shift = -8383 := by
    decide +kernel
  constructor
  · intro h
    unfold mapByRuns at h
    split at h
    · rename_i r hr
      have hin : r.contains c.toNat = true := List.find?_some (p := fun r : CaseRun => r.contains c.toNat) hr
      simp only [CaseRun.contains, Bool.and_eq_true, decide_eq_true_eq] at hin
      obtain ⟨⟨hfirst, hlast⟩, -⟩ := hin
      rcases htable r (List.mem_of_find?_eq_some hr) with hshift | ⟨hr1, hr2, hr3⟩
      · have himage := toNat_ofNat (c.toNat + r.shift).toNat
        rw [h] at himage
        omega
      · have hkelvin : c.toNat = 0x212A := by omega
        rw [hkelvin, hr3] at h
        exact ⟨h.symm, hkelvin⟩
    · rw [← h] at hhigh
      omega
  · rintro ⟨rfl, hkelvin⟩
    have hchar : c = Char.ofNat 0x212A := by
      rw [← hkelvin]
      exact c.ofNat_toNat.symm
    rw [hchar]
    decide +kernel

theorem ne_of_isPlainSmall {w d : Char} (hw : IsPlainSmall w) (hd : 128 ≤ d.toNat) : d ≠ w := by
  rintro rfl
  obtain ⟨-, hhigh, -, -⟩ := hw
  omega

/-- In ASCII, the characters that match a small letter are those whose lower-case form it is. -/
theorem matchesLetter_iff_toLower {w c : Char} (hw : IsPlainSmall w) (hc : c.toNat < 128) :
    matchesLetter w c = true ↔ c.toLower = w := by
  obtain ⟨hlow, hhigh, hi, hs⟩ := hw
  have hlower : w.toLower = w := by
    rcases toLower_eq_or w with h | ⟨-, h⟩
    · exact h
    · omega
  constructor
  · intro h
    simp only [matchesLetter, Bool.or_eq_true, Bool.and_eq_true, beq_iff_eq, hi, hs, false_and, or_false] at h
    rcases h with (rfl | ⟨-, h⟩) | ⟨-, h⟩
    · exact hlower
    · exact h
    · omega
  · exact matchesLetter_of_toLower

/-- Outside ASCII, only the Kelvin sign matches a small letter. -/
theorem matchesLetter_iff_kelvin {w c : Char} (hw : IsPlainSmall w) (hc : 128 ≤ c.toNat) :
    matchesLetter w c = true ↔ w = 'k' ∧ c.toNat = 0x212A := by
  have hne := ne_of_isPlainSmall hw hc
  obtain ⟨-, -, hi, hs⟩ := hw
  simp [matchesLetter, hi, hs, Nat.not_lt.2 hc, hne]

/-- The lower-case form of a text begins with a small letter exactly if its first character matches the letter. -/
theorem lowerChar_append_eq_cons_iff {w c : Char} {before after rest word : List Char} (hw : IsPlainSmall w) :
    lowerChar before c after ++ rest = w :: word ↔ matchesLetter w c = true ∧ rest = word := by
  unfold lowerChar
  by_cases hc : c.toNat < 128
  · rw [if_pos hc, matchesLetter_iff_toLower hw hc, List.singleton_append, List.cons.injEq]
  · have hbeyond : 128 ≤ c.toNat := Nat.not_lt.1 hc
    rw [if_neg hc, matchesLetter_iff_kelvin hw hbeyond]
    split
    · -- the capital I with a dot becomes an `i` with a mark
      rename_i hdotted
      rw [beq_iff_eq] at hdotted
      rw [List.cons_append, List.cons.injEq, hdotted]
      exact ⟨fun h => absurd h.1.symm hw.2.2.1, fun h => absurd h.1.2 (by decide)⟩
    · split
      · -- the capital sigma becomes one of two small ones
        rename_i hsigma
        rw [beq_iff_eq] at hsigma
        rw [List.singleton_append, List.cons.injEq, hsigma]
        refine ⟨fun h => absurd h.1 (ne_of_isPlainSmall hw ?_), fun h => absurd h.1.2 (by decide)⟩
        split <;> decide
      · rw [List.singleton_append, List.cons.injEq, mapByRuns_lowerRuns_eq_iff hw hbeyond]

theorem lowerFrom_eq_iff : ∀ {word s before : List Char}, (∀ w ∈ word, IsPlainSmall w) →
    (lowerFrom before s = word ↔ Spells word s)
  | word, [], _, _ => by
    rw [lowerFrom]
    constructor
    · rintro rfl
      exact .nil
    · intro h
      cases h
      rfl
  | [], c :: s, before, _ => by
    have hne : lowerChar before c s ≠ [] := by
      unfold lowerChar
      split
      · simp
      · split
        · simp
        · split <;> simp
    rw [lowerFrom]
    constructor
    · intro h
      exact absurd (List.append_eq_nil_iff.1 h).1 hne
    · intro h
      cases h
  | w :: word, c :: s, before, h => by
    obtain ⟨hw, hword⟩ := List.forall_mem_cons.1 h
    rw [lowerFrom, lowerChar_append_eq_cons_iff hw, lowerFrom_eq_iff hword]
    exact (List.forall₂_cons (R := fun w c => matchesLetter w c = true)).symm

/-- A character that matches no letter of the word does not stand in a text that spells it. -/
theorem not_mem_of_spells {d : Char} : ∀ {word s : List Char}, (∀ w ∈ word, matchesLetter w d = false) →
    Spells word s → d ∉ s
  | [], _, _, .nil => List.not_mem_nil
  | w :: word, c :: s, h, .cons hc hs => by
    obtain ⟨hw, hword⟩ := List.forall_mem_cons.1 h
    rw [List.mem_cons, not_or]
    refine ⟨?_, not_mem_of_spells hword hs⟩
    rintro rfl
    rw [hw] at hc
    cases hc

end MarkLint.Text

namespace MarkLint.Files

open MarkLint.Suppression
open MarkLint.Text

/-! ## Suffixes -/

/-- A name ends in a dot, not its first character, and `md` or `markdown` in any letter case. -/
def IsMarkdownName (name : List Char) : Prop :=
  ∃ stem extension, name = stem ++ '.' :: extension ∧ stem ≠ [] ∧
    (Spells "md".toList extension ∨ Spells "markdown".toList extension)

namespace Path

theorem suffixOf_of_not_mem {name : List Char} (h : '.' ∉ name) : suffixOf name = [] := by
  have hall : ∀ c ∈ name.reverse, decide (c ≠ '.') = true := fun c hc =>
    decide_eq_true (ne_of_mem_of_not_mem (List.mem_reverse.1 hc) h)
  rw [suffixOf, List.takeWhile_eq_self_iff.2 hall, List.reverse_reverse, if_pos (Or.inr (Nat.le_succ _))]

/-- The suffix begins at the last dot, if there is something on both sides of it. -/
theorem suffixOf_append {stem extension : List Char} (h : '.' ∉ extension) :
    suffixOf (stem ++ '.' :: extension) = if extension = [] ∨ stem = [] then [] else '.' :: extension := by
  have hall : ∀ c ∈ extension.reverse, decide (c ≠ '.') = true := fun c hc =>
    decide_eq_true (ne_of_mem_of_not_mem (List.mem_reverse.1 hc) h)
  have htail : ((stem ++ '.' :: extension).reverse.takeWhile (· ≠ '.')).reverse = extension := by
    rw [List.reverse_append, List.reverse_cons, List.append_assoc, List.takeWhile_append_of_pos hall]
    simp
  have hlength : (stem ++ '.' :: extension).length ≤ extension.length + 1 ↔ stem = [] := by
    rw [List.length_append, List.length_cons, ← List.length_eq_zero_iff]
    omega
  rw [suffixOf, htail]
  simp only [hlength]

/-- A name has no dot, or something before and after its last one. -/
theorem exists_suffix (name : List Char) :
    '.' ∉ name ∨ ∃ stem extension, name = stem ++ '.' :: extension ∧ '.' ∉ extension := by
  by_cases h : '.' ∈ name
  · obtain ⟨after, before, hname, hafter⟩ := List.eq_append_cons_of_mem (List.mem_reverse.2 h)
    refine Or.inr ⟨before.reverse, after.reverse, ?_, fun hmem => hafter (List.mem_reverse.1 hmem)⟩
    rw [List.reverse_eq_iff, List.reverse_append, List.reverse_cons, List.append_assoc] at hname
    exact hname
  · exact Or.inl h

/-- A suffix in lower case is a dot and a word exactly if what follows its dot spells the word. -/
theorem lower_suffix_eq_iff {word extension : List Char} (hword : ∀ w ∈ word, IsPlainSmall w) :
    lower ('.' :: extension) = '.' :: word ↔ Spells word extension := by
  have hdot : lowerChar [] '.' extension = ['.'] := rfl
  rw [lower, lowerFrom, hdot, List.singleton_append, List.cons.injEq, lowerFrom_eq_iff hword, and_iff_right rfl]

theorem isMarkdown_iff (p : Path) : p.isMarkdown = true ↔ IsMarkdownName p.name.toList := by
  have hsuffix : p.isMarkdown = true ↔ lower (suffixOf p.name.toList) = ".md".toList ∨
      lower (suffixOf p.name.toList) = ".markdown".toList := by
    simp only [isMarkdown, Bool.or_eq_true, beq_iff_eq, ← String.toList_inj, String.toList_ofList]
  have hmd : ∀ {extension : List Char}, lower ('.' :: extension) = ".md".toList ↔ Spells "md".toList extension :=
    lower_suffix_eq_iff (by decide)
  have hmarkdown : ∀ {extension : List Char}, lower ('.' :: extension) = ".markdown".toList ↔
      Spells "markdown".toList extension := lower_suffix_eq_iff (by decide)
  have hdot : ∀ {extension : List Char}, Spells "md".toList extension ∨ Spells "markdown".toList extension →
      '.' ∉ extension ∧ extension ≠ [] := by
    rintro extension (h | h)
    · exact ⟨not_mem_of_spells (by decide) h, by rintro rfl; cases h⟩
    · exact ⟨not_mem_of_spells (by decide) h, by rintro rfl; cases h⟩
  rw [hsuffix]
  constructor
  · intro h
    rcases exists_suffix p.name.toList with hnone | ⟨stem, extension, hname, hextension⟩
    · rw [suffixOf_of_not_mem hnone] at h
      rcases h with h | h <;> cases h
    · rw [hname, suffixOf_append hextension] at h
      split at h
      · rcases h with h | h <;> cases h
      · rename_i hsides
        rw [hmd, hmarkdown] at h
        exact ⟨stem, extension, hname, fun hstem => hsides (Or.inr hstem), h⟩
  · rintro ⟨stem, extension, hname, hstem, h⟩
    obtain ⟨hextension, hne⟩ := hdot h
    rwa [hname, suffixOf_append hextension, if_neg (not_or.2 ⟨hne, hstem⟩), hmd, hmarkdown]

end Path

instance (name : List Char) : Decidable (IsMarkdownName name) :=
  decidable_of_iff ((⟨"", [String.ofList name]⟩ : Path).isMarkdown = true)
    (by rw [Path.isMarkdown_iff]; exact iff_of_eq (congrArg IsMarkdownName String.toList_ofList))

end MarkLint.Files

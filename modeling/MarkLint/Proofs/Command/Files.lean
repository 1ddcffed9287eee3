import MarkLint.Command
import Mathlib.Data.List.Nodup

/-!
# Which files are checked

Of the candidates that lead to one place only the first is checked, under its own name and where it stands
(`distinct_isFirst`). Leaving out all candidates for some places leaves out their files and no others
(`distinct_filter`).
-/

namespace MarkLint.Command

open MarkLint.Files

variable {disk : Disk}

/-- The files are the candidates that lead to a place to which no earlier one leads, in their order, one for each
place. -/
structure IsFirst (disk : Disk) (candidates files : List Path) : Prop where
  sublist : files.Sublist candidates
  nodup : (files.map disk.resolve).Nodup
  mem_iff : ∀ p, p ∈ files ↔ ∃ before after, candidates = before ++ p :: after ∧
    ∀ q ∈ before, disk.resolve q ≠ disk.resolve p
  covers : ∀ q ∈ candidates, ∃ p ∈ files, disk.resolve p = disk.resolve q

theorem distinct_cons_seen {seen : List (List String)} {p : Path} (h : disk.resolve p ∈ seen) (rest : List Path) :
    distinct disk seen (p :: rest) = distinct disk seen rest := by
  rw [distinct, if_pos (by simpa using h)]

theorem distinct_cons_fresh {seen : List (List String)} {p : Path} (h : disk.resolve p ∉ seen) (rest : List Path) :
    distinct disk seen (p :: rest) = p :: distinct disk (disk.resolve p :: seen) rest := by
  rw [distinct, if_neg (by simpa using h)]

theorem distinct_sublist : ∀ (ps : List Path) (seen : List (List String)), (distinct disk seen ps).Sublist ps
  | [], _ => List.Sublist.refl _
  | p :: rest, seen => by
    by_cases h : disk.resolve p ∈ seen
    · rw [distinct_cons_seen h]
      exact (distinct_sublist rest seen).cons p
    · rw [distinct_cons_fresh h]
      exact (distinct_sublist rest _).cons_cons p

/-- A file leads to a place that was not seen before, and is the first to lead there. -/
theorem mem_distinct_iff {p : Path} : ∀ {ps : List Path} {seen : List (List String)}, p ∈ distinct disk seen ps ↔
    disk.resolve p ∉ seen ∧ ∃ before after, ps = before ++ p :: after ∧ ∀ q ∈ before, disk.resolve q ≠ disk.resolve p
  | [], seen => by simp [distinct]
  | c :: rest, seen => by
    have hsplit : (∃ before after, c :: rest = before ++ p :: after ∧ ∀ q ∈ before, disk.resolve q ≠ disk.resolve p) ↔
        c = p ∨ disk.resolve c ≠ disk.resolve p ∧
          ∃ before after, rest = before ++ p :: after ∧ ∀ q ∈ before, disk.resolve q ≠ disk.resolve p := by
      constructor
      · rintro ⟨before, after, heq, hbefore⟩
        rcases List.cons_eq_append_iff.1 heq with ⟨rfl, heq⟩ | ⟨before', rfl, rfl⟩
        · exact Or.inl (List.cons.inj heq).1
        · obtain ⟨hc, hbefore⟩ := List.forall_mem_cons.1 hbefore
          exact Or.inr ⟨hc, before', after, rfl, hbefore⟩
      · rintro (rfl | ⟨hc, before, after, rfl, hbefore⟩)
        · exact ⟨[], rest, rfl, by simp⟩
        · exact ⟨c :: before, after, rfl, List.forall_mem_cons.2 ⟨hc, hbefore⟩⟩
    rw [hsplit]
    by_cases h : disk.resolve c ∈ seen
    · rw [distinct_cons_seen h, mem_distinct_iff]
      constructor
      · rintro ⟨hp, hrest⟩
        exact ⟨hp, Or.inr ⟨fun heq => hp (heq ▸ h), hrest⟩⟩
      · rintro ⟨hp, rfl | ⟨-, hrest⟩⟩
        · exact absurd h hp
        · exact ⟨hp, hrest⟩
    · rw [distinct_cons_fresh h, List.mem_cons, mem_distinct_iff, List.mem_cons, not_or]
      constructor
      · rintro (rfl | ⟨⟨hc, hp⟩, hrest⟩)
        · exact ⟨h, Or.inl rfl⟩
        · exact ⟨hp, Or.inr ⟨fun heq => hc heq.symm, hrest⟩⟩
      · rintro ⟨hp, rfl | ⟨hc, hrest⟩⟩
        · exact Or.inl rfl
        · exact Or.inr ⟨⟨fun heq => hc heq.symm, hp⟩, hrest⟩

theorem nodup_distinct : ∀ (ps : List Path) (seen : List (List String)),
    ((distinct disk seen ps).map disk.resolve).Nodup
  | [], _ => List.nodup_nil
  | p :: rest, seen => by
    by_cases h : disk.resolve p ∈ seen
    · rw [distinct_cons_seen h]
      exact nodup_distinct rest seen
    · rw [distinct_cons_fresh h, List.map_cons, List.nodup_cons]
      refine ⟨fun hmem => ?_, nodup_distinct rest _⟩
      obtain ⟨q, hq, heq⟩ := List.mem_map.1 hmem
      exact (mem_distinct_iff.1 hq).1 (heq ▸ List.mem_cons_self)

/-- Each candidate leads to a place that was seen before, or to that of a file. -/
theorem exists_mem_distinct {q : Path} : ∀ {ps : List Path} {seen : List (List String)}, q ∈ ps →
    disk.resolve q ∉ seen → ∃ p ∈ distinct disk seen ps, disk.resolve p = disk.resolve q
  | c :: rest, seen, hq, hseen => by
    have hrest : disk.resolve c ≠ disk.resolve q → q ∈ rest := by
      rcases List.mem_cons.1 hq with rfl | hq
      · exact fun hne => absurd rfl hne
      · exact fun _ => hq
    by_cases h : disk.resolve c ∈ seen
    · rw [distinct_cons_seen h]
      exact exists_mem_distinct (hrest fun heq => hseen (heq ▸ h)) hseen
    · rw [distinct_cons_fresh h]
      by_cases heq : disk.resolve c = disk.resolve q
      · exact ⟨c, List.mem_cons_self, heq⟩
      · have hfresh : disk.resolve q ∉ disk.resolve c :: seen := by
          rw [List.mem_cons, not_or]
          exact ⟨fun h => heq h.symm, hseen⟩
        obtain ⟨p, hp, hpq⟩ := exists_mem_distinct (hrest heq) hfresh
        exact ⟨p, List.mem_cons_of_mem c hp, hpq⟩

theorem distinct_isFirst (disk : Disk) (candidates : List Path) :
    IsFirst disk candidates (distinct disk [] candidates) where
  sublist := distinct_sublist candidates []
  nodup := nodup_distinct candidates []
  mem_iff p := by rw [mem_distinct_iff, and_iff_right List.not_mem_nil]
  covers _ hq := exists_mem_distinct hq List.not_mem_nil

/-- Candidates may be left out by their places before or after duplicates are. -/
theorem distinct_filter (keep : List String → Bool) : ∀ (ps : List Path) {seen seen' : List (List String)},
    (∀ names, keep names = true → (names ∈ seen' ↔ names ∈ seen)) →
    distinct disk seen' (ps.filter fun p => keep (disk.resolve p)) =
      (distinct disk seen ps).filter fun p => keep (disk.resolve p)
  | [], _, _, _ => rfl
  | p :: rest, seen, seen', h => by
    have hfilter : ∀ ps : List Path, (p :: ps).filter (fun q => keep (disk.resolve q)) =
        if keep (disk.resolve p) then p :: ps.filter fun q => keep (disk.resolve q)
        else ps.filter fun q => keep (disk.resolve q) := fun ps => List.filter_cons
    cases hkeep : keep (disk.resolve p) with
    | true =>
      rw [hfilter, if_pos hkeep]
      by_cases hseen : disk.resolve p ∈ seen
      · rw [distinct_cons_seen ((h _ hkeep).2 hseen), distinct_cons_seen hseen]
        exact distinct_filter keep rest h
      · rw [distinct_cons_fresh fun hseen' => hseen ((h _ hkeep).1 hseen'), distinct_cons_fresh hseen,
          hfilter, if_pos hkeep]
        congr 1
        refine distinct_filter keep rest fun names hnames => ?_
        rw [List.mem_cons, List.mem_cons, h names hnames]
    | false =>
      have hdrop : ¬ keep (disk.resolve p) = true := by rw [hkeep]; decide
      rw [hfilter, if_neg hdrop]
      by_cases hseen : disk.resolve p ∈ seen
      · rw [distinct_cons_seen hseen]
        exact distinct_filter keep rest h
      · rw [distinct_cons_fresh hseen, hfilter, if_neg hdrop]
        -- the place of the file that is left out is not asked for again
        refine distinct_filter keep rest fun names hnames => ?_
        have hne : names ≠ disk.resolve p := fun heq => hdrop (heq ▸ hnames)
        rw [List.mem_cons, or_iff_right hne, h names hnames]

end MarkLint.Command

import MarkLint.Command
import MarkLint.Proofs.Files.MarkdownName
import MarkLint.Proofs.Sorting
import Mathlib.Data.List.Lex
import Mathlib.Data.String.Basic

/-!
# Searching a directory

A search lists the regular files of a directory tree by the names that lead to them (`mem_fileNames_iff`), keeps those
that are wanted and puts them in order. What is kept depends on the names inside the directory, and also on the names of
the path by which the directory is reached: if one of these is the name of a directory that is not searched, then the
search finds nothing at all, and if none is, then it finds exactly the wanted files, wherever the directory is
(`markdownFiles_searchedAlike_iff`).
-/

namespace MarkLint.Files

/-! ## Files of a directory tree -/

/-- The path of what the names lead to, from the directory at the path. -/
def Path.below (p : Path) (names : List String) : Path := ⟨p.anchor, p.parts ++ names⟩

theorem Path.below_child (p : Path) (name : String) (names : List String) :
    (p.child name).below names = p.below (name :: names) := by
  rw [below, child, below, List.append_assoc, List.singleton_append]

namespace Entry

/-- The names lead to a regular file. -/
inductive HoldsFile : Entry → List String → Prop
  | file (octets : List Nat) : HoldsFile (.file octets) []
  | folder {entries : List (String × Entry)} {name : String} {e : Entry} {names : List String} :
      (name, e) ∈ entries → HoldsFile e names → HoldsFile (.folder entries) (name :: names)

/-- No directory has two entries of one name. -/
inductive IsTree : Entry → Prop
  | file (octets : List Nat) : IsTree (.file octets)
  | folder {entries : List (String × Entry)} : (entries.map Prod.fst).Nodup → (∀ p ∈ entries, IsTree p.2) →
      IsTree (.folder entries)

/-- The names that lead to the regular files of an entry. -/
def fileNames : Entry → List (List String)
  | .file _ => [[]]
  | .folder entries => fileNamesIn entries
where
  /-- The names that lead to the regular files of the entries of a directory. -/
  fileNamesIn : List (String × Entry) → List (List String)
    | [] => []
    | (name, e) :: rest => (fileNames e).map (name :: ·) ++ fileNamesIn rest

mutual

/-- The files of an entry are those that names lead to. -/
theorem filePaths_eq : ∀ (e : Entry) (p : Path), filePaths p e = e.fileNames.map p.below
  | .file _, p => by
    rw [filePaths, fileNames, List.map_singleton, Path.below, List.append_nil]
  | .folder entries, p => by
    rw [filePaths, fileNames, filePathsIn_eq entries p]

theorem filePathsIn_eq : ∀ (entries : List (String × Entry)) (p : Path),
    filePaths.filePathsIn p entries = (fileNames.fileNamesIn entries).map p.below
  | [], _ => rfl
  | (name, e) :: rest, p => by
    have hbelow : (p.child name).below = p.below ∘ (name :: ·) := funext fun names => p.below_child name names
    rw [filePaths.filePathsIn, filePaths_eq e, filePathsIn_eq rest, fileNames.fileNamesIn, List.map_append,
      List.map_map, hbelow]

end

mutual

theorem mem_fileNames_iff : ∀ (e : Entry) {names : List String}, names ∈ e.fileNames ↔ e.HoldsFile names
  | .file octets, names => by
    rw [fileNames, List.mem_singleton]
    constructor
    · rintro rfl
      exact .file octets
    · rintro ⟨⟩
      rfl
  | .folder entries, names => by
    rw [fileNames, mem_fileNamesIn_iff entries]
    constructor
    · rintro ⟨name, e, rest, he, rfl, hrest⟩
      exact .folder he hrest
    · rintro (_ | ⟨he, hrest⟩)
      exact ⟨_, _, _, he, rfl, hrest⟩

theorem mem_fileNamesIn_iff : ∀ (entries : List (String × Entry)) {names : List String},
    names ∈ fileNames.fileNamesIn entries ↔
      ∃ name e rest, (name, e) ∈ entries ∧ names = name :: rest ∧ e.HoldsFile rest
  | [], names => by simp [fileNames.fileNamesIn]
  | (name, e) :: others, names => by
    rw [fileNames.fileNamesIn, List.mem_append, List.mem_map, mem_fileNamesIn_iff others]
    constructor
    · rintro (⟨rest, hrest, rfl⟩ | ⟨name', e', rest, he', rfl, hrest⟩)
      · exact ⟨name, e, rest, List.mem_cons_self, rfl, (mem_fileNames_iff e).1 hrest⟩
      · exact ⟨name', e', rest, List.mem_cons_of_mem _ he', rfl, hrest⟩
    · rintro ⟨name', e', rest, he', rfl, hrest⟩
      rcases List.mem_cons.1 he' with heq | he'
      · cases heq
        exact Or.inl ⟨rest, (mem_fileNames_iff e).2 hrest, rfl⟩
      · exact Or.inr ⟨name', e', rest, he', rfl, hrest⟩

end

mutual

/-- In a tree, different files are reached by different names. -/
theorem nodup_fileNames : ∀ {e : Entry}, e.IsTree → e.fileNames.Nodup
  | .file _, _ => List.nodup_singleton _
  | .folder _, .folder hnames htrees => nodup_fileNamesIn hnames htrees

theorem nodup_fileNamesIn : ∀ {entries : List (String × Entry)}, (entries.map Prod.fst).Nodup →
    (∀ p ∈ entries, p.2.IsTree) → (fileNames.fileNamesIn entries).Nodup
  | [], _, _ => List.nodup_nil
  | (name, e) :: rest, hnames, htrees => by
    obtain ⟨hname, hrest⟩ := List.nodup_cons.1 hnames
    obtain ⟨htree, htrees⟩ := List.forall_mem_cons.1 htrees
    rw [fileNames.fileNamesIn, List.nodup_append]
    refine ⟨(nodup_fileNames htree).map fun _ _ h => (List.cons.inj h).2, nodup_fileNamesIn hrest htrees, ?_⟩
    rintro _ hfirst names hother rfl
    -- the names of the first entry begin with its name, and those of the others do not
    obtain ⟨names, -, rfl⟩ := List.mem_map.1 hfirst
    obtain ⟨name', e', names', he', heq, -⟩ := (mem_fileNamesIn_iff rest).1 hother
    obtain ⟨rfl, -⟩ := List.cons.inj heq
    exact hname (List.mem_map.2 ⟨_, he', rfl⟩)

end

end Entry
end MarkLint.Files

namespace MarkLint.Command

open MarkLint.Files

/-! ## Wanted files -/

/-- A file that the names lead to is wanted: it has the name of a Markdown file, and no directory on the way to it has
the name of one that is not searched. -/
def IsWanted (names : List String) : Prop :=
  IsMarkdownName (names.getLastD "").toList ∧ ∀ name ∈ names.dropLast, name ∉ skippedNames

/-- Two searches of a directory, on disks and by paths of their own, find the same files in the same order: exactly the
wanted files in the directory. -/
def SearchedAlike (entries : List (String × Entry)) (disk disk' : Disk) (folder folder' : Path) : Prop :=
  ∃ files : List (List String), files.Pairwise (· < ·) ∧
    (∀ names, names ∈ files ↔ (Entry.folder entries).HoldsFile names ∧ IsWanted names) ∧
    markdownFiles disk folder = files.map folder.below ∧ markdownFiles disk' folder' = files.map folder'.below

theorem isSkipped_iff (p : Path) : isSkipped p = true ↔ ∃ name ∈ p.parts, name ∈ skippedNames := by
  simp only [isSkipped, List.any_eq_true, List.contains_iff_mem]

/-- No directory that is not searched has the name of a Markdown file. -/
theorem not_mem_skippedNames {name : String} (h : IsMarkdownName name.toList) : name ∉ skippedNames := by
  have hnone : ∀ n ∈ skippedNames, (⟨"", [n]⟩ : Path).isMarkdown = false := by decide +kernel
  intro hname
  have hmarkdown := (Path.isMarkdown_iff ⟨"", [name]⟩).2 h
  rw [hnone name hname] at hmarkdown
  cases hmarkdown

/-- Does a search that comes across the file keep it? -/
def keeps (p : Path) : Bool := p.isMarkdown && !isSkipped p

/-- A file in a directory is kept if it is wanted and the path to the directory is searched. -/
theorem keeps_below_iff {p : Path} {names : List String} (hne : names ≠ []) :
    keeps (p.below names) = true ↔ IsWanted names ∧ isSkipped p = false := by
  have hname : (p.below names).name = names.getLastD "" := by
    rw [Path.name, Path.below, List.getLastD_eq_getLast?, List.getLastD_eq_getLast?,
      List.getLast?_append_of_ne_nil _ hne]
  have hlast : names.getLastD "" = names.getLast hne := by
    rw [List.getLastD_eq_getLast?, List.getLast?_eq_some_getLast hne, Option.getD_some]
  have hsearched : isSkipped (p.below names) = false ↔ isSkipped p = false ∧
      (∀ name ∈ names.dropLast, name ∉ skippedNames) ∧ names.getLastD "" ∉ skippedNames := by
    have hmem : ∀ name, name ∈ names ↔ name ∈ names.dropLast ∨ name = names.getLast hne := by
      intro name
      conv_lhs => rw [← List.dropLast_append_getLast hne]
      rw [List.mem_append, List.mem_singleton]
    simp only [← Bool.not_eq_true, isSkipped_iff, Path.below, not_exists, not_and, List.mem_append, hmem, hlast,
      or_imp, forall_and, forall_eq]
  rw [keeps, Bool.and_eq_true, Bool.not_eq_true', Path.isMarkdown_iff, hname, hsearched, IsWanted]
  constructor
  · rintro ⟨hmarkdown, hp, hnames, -⟩
    exact ⟨⟨hmarkdown, hnames⟩, hp⟩
  · rintro ⟨⟨hmarkdown, hnames⟩, hp⟩
    exact ⟨hmarkdown, hp, hnames, not_mem_skippedNames hmarkdown⟩

/-- From inside the directory it is kept if it is wanted. -/
theorem keeps_names_iff {names : List String} (hne : names ≠ []) : keeps ⟨"", names⟩ = true ↔ IsWanted names := by
  have hkeeps := keeps_below_iff (p := ⟨"", []⟩) hne
  rw [Path.below, List.nil_append] at hkeeps
  exact hkeeps.trans (and_iff_left rfl)

/-! ## Order -/

theorem append_lt_append_left_iff {a b : List String} : ∀ front : List String, front ++ a < front ++ b ↔ a < b
  | [] => Iff.rfl
  | name :: front => by
    rw [List.cons_append, List.cons_append, List.cons_lt_cons_iff, append_lt_append_left_iff front]
    simp

/-- Files in a directory stand in the order of their names in it. -/
theorem before_below_iff {p : Path} {a b : List String} : (p.below a).before (p.below b) = true ↔ a ≤ b := by
  simp only [Path.before, Path.below, Bool.not_eq_true', decide_eq_false_iff_not, append_lt_append_left_iff, not_lt]

/-! ## The search -/

variable {disk disk' : Disk} {folder folder' : Path} {entries : List (String × Entry)}

/-- What a search of the directory finds from inside it. -/
def wantedFiles (entries : List (String × Entry)) : List (List String) :=
  ((Entry.folder entries).fileNames.filter fun names => keeps ⟨"", names⟩).mergeSort fun a b => decide (a ≤ b)

theorem ne_nil_of_holdsFile {names : List String} (h : (Entry.folder entries).HoldsFile names) : names ≠ [] := by
  cases h
  exact List.cons_ne_nil _ _

theorem mem_wantedFiles_iff {names : List String} :
    names ∈ wantedFiles entries ↔ (Entry.folder entries).HoldsFile names ∧ IsWanted names := by
  rw [wantedFiles, List.mem_mergeSort, List.mem_filter, Entry.mem_fileNames_iff]
  exact and_congr_right fun h => keeps_names_iff (ne_nil_of_holdsFile h)

/-- In a tree, the wanted files are listed in order, each of them once. -/
theorem pairwise_wantedFiles (htree : (Entry.folder entries).IsTree) : (wantedFiles entries).Pairwise (· < ·) := by
  have hle : ∀ a b : List String, decide (a ≤ b) = true ↔ id a ≤ id b := fun _ _ => decide_eq_true_iff
  have hsorted : (wantedFiles entries).Pairwise (· ≤ ·) := pairwise_mergeSort_key hle _
  have hnodup : (wantedFiles entries).Nodup :=
    (List.mergeSort_perm _ _).nodup_iff.2 ((Entry.nodup_fileNames htree).filter _)
  exact (hsorted.and hnodup).imp fun h => lt_of_le_of_ne h.1 h.2

/-- A search keeps some of the files of the directory. -/
theorem markdownFiles_eq (h : disk.find folder = .ok (.folder entries)) : markdownFiles disk folder =
    (((Entry.folder entries).fileNames.map folder.below).filter keeps).mergeSort Path.before := by
  rw [markdownFiles, Disk.filesBelow, h, ← Entry.filePaths_eq]
  rfl

/-- A path that is not searched leads to no files. -/
theorem markdownFiles_of_isSkipped (h : disk.find folder = .ok (.folder entries)) (hskipped : isSkipped folder = true) :
    markdownFiles disk folder = [] := by
  have hnone : ((Entry.folder entries).fileNames.map folder.below).filter keeps = [] := by
    rw [List.filter_eq_nil_iff]
    intro p hp hkeeps
    obtain ⟨names, hnames, rfl⟩ := List.mem_map.1 hp
    rw [keeps_below_iff (ne_nil_of_holdsFile ((Entry.mem_fileNames_iff _).1 hnames)), hskipped] at hkeeps
    cases hkeeps.2
  rw [markdownFiles_eq h, hnone, List.mergeSort_nil]

/-- Any other path leads to the wanted files in the directory. -/
theorem markdownFiles_of_not_isSkipped (h : disk.find folder = .ok (.folder entries))
    (hsearched : isSkipped folder = false) :
    markdownFiles disk folder = (wantedFiles entries).map folder.below := by
  have hkeeps : ∀ names ∈ (Entry.folder entries).fileNames, (keeps ∘ folder.below) names = keeps ⟨"", names⟩ := by
    intro names hnames
    have hne := ne_nil_of_holdsFile ((Entry.mem_fileNames_iff _).1 hnames)
    rw [Function.comp_apply, Bool.eq_iff_iff, keeps_below_iff hne, keeps_names_iff hne, and_iff_left hsearched]
  have hfilter : ((Entry.folder entries).fileNames.map folder.below).filter keeps =
      ((Entry.folder entries).fileNames.filter fun names => keeps ⟨"", names⟩).map folder.below := by
    rw [List.filter_map, List.filter_congr hkeeps]
  rw [markdownFiles_eq h, hfilter, wantedFiles,
    List.map_mergeSort fun a _ b _ => by rw [Bool.eq_iff_iff, before_below_iff, decide_eq_true_iff]]

/-- Two searches of a directory tree find exactly the wanted files in it exactly if none of the names on the two paths
to it is that of a directory that is not searched, or there is nothing to find. Otherwise a search by such a path finds
nothing. -/
theorem markdownFiles_searchedAlike_iff (htree : (Entry.folder entries).IsTree)
    (h : disk.find folder = .ok (.folder entries)) (h' : disk'.find folder' = .ok (.folder entries)) :
    (SearchedAlike entries disk disk' folder folder' ↔ (∀ name ∈ folder.parts ++ folder'.parts, name ∉ skippedNames) ∨
      ∀ names, (Entry.folder entries).HoldsFile names → ¬ IsWanted names) ∧
    ((∃ name ∈ folder.parts, name ∈ skippedNames) → markdownFiles disk folder = []) ∧
    ((∃ name ∈ folder'.parts, name ∈ skippedNames) → markdownFiles disk' folder' = []) := by
  have hskipped := fun hnames => markdownFiles_of_isSkipped h ((isSkipped_iff folder).2 hnames)
  have hskipped' := fun hnames => markdownFiles_of_isSkipped h' ((isSkipped_iff folder').2 hnames)
  refine ⟨⟨?_, ?_⟩, hskipped, hskipped'⟩
  · rintro ⟨files, -, hfiles, hfound, hfound'⟩
    by_contra! hboth
    obtain ⟨⟨name, hname, hskip⟩, names, hholds, hwanted⟩ := hboth
    -- one of the searches finds nothing, though there is a file to find
    have hempty : files = [] := by
      rcases List.mem_append.1 hname with hname | hname
      · exact List.map_eq_nil_iff.1 (hfound.symm.trans (hskipped ⟨name, hname, hskip⟩))
      · exact List.map_eq_nil_iff.1 (hfound'.symm.trans (hskipped' ⟨name, hname, hskip⟩))
    exact List.not_mem_nil (hempty ▸ (hfiles names).2 ⟨hholds, hwanted⟩)
  · intro hcases
    have hfound : ∀ {d : Disk} {p : Path}, d.find p = .ok (.folder entries) →
        (∀ name ∈ p.parts, name ∈ folder.parts ++ folder'.parts) →
        markdownFiles d p = (wantedFiles entries).map p.below := by
      intro d p hp hparts
      cases hpath : isSkipped p with
      | false => exact markdownFiles_of_not_isSkipped hp hpath
      | true =>
        obtain ⟨name, hname, hskip⟩ := (isSkipped_iff p).1 hpath
        rcases hcases with hnames | hnothing
        · exact absurd hskip (hnames name (hparts name hname))
        · have hempty : wantedFiles entries = [] := List.eq_nil_iff_forall_not_mem.2 fun names hnames =>
            hnothing names (mem_wantedFiles_iff.1 hnames).1 (mem_wantedFiles_iff.1 hnames).2
          rw [markdownFiles_of_isSkipped hp hpath, hempty, List.map_nil]
    exact ⟨wantedFiles entries, pairwise_wantedFiles htree, fun names => mem_wantedFiles_iff,
      hfound h fun _ hname => List.mem_append_left _ hname, hfound h' fun _ hname => List.mem_append_right _ hname⟩

/-- A directory with two Markdown files that are wanted, and one that is not searched for. -/
def handbook : List (String × Entry) :=
  [("node_modules", .folder [("c.md", .file [])]), ("notes.txt", .file []),
    ("part", .folder [("B.MARKDOWN", .file []), (".md", .file [])]), ("a.Md", .file [])]

theorem isTree_handbook : (Entry.folder handbook).IsTree := by
  have hfile : (Entry.file []).IsTree := .file []
  have hfiles : ∀ names : List String, names.Nodup → (Entry.folder (names.map fun n => (n, .file []))).IsTree := by
    intro names hnames
    refine .folder (by simpa [Function.comp_def] using hnames) fun p hp => ?_
    obtain ⟨name, -, rfl⟩ := List.mem_map.1 hp
    exact hfile
  refine .folder (by decide) (List.forall_mem_cons.2 ⟨hfiles ["c.md"] (by decide), ?_⟩)
  refine List.forall_mem_cons.2 ⟨hfile, List.forall_mem_cons.2 ⟨?_, List.forall_mem_singleton.2 hfile⟩⟩
  exact hfiles ["B.MARKDOWN", ".md"] (by decide)

/-- Seen from above and from within, the handbook has the same files. -/
theorem markdownFiles_searchedAlike_handbook :
    let root := Entry.folder [("srv", .folder [("docs", .folder handbook)])]
    (Entry.folder handbook).IsTree ∧ Disk.find ⟨root, ["srv"]⟩ (.ofString "docs/") = .ok (.folder handbook) ∧
      Disk.find ⟨root, ["srv", "docs", "part"]⟩ (.ofString "..") = .ok (.folder handbook) ∧
      SearchedAlike handbook ⟨root, ["srv"]⟩ ⟨root, ["srv", "docs", "part"]⟩ (.ofString "docs/") (.ofString "..") := by
  intro root
  have h : Disk.find ⟨root, ["srv"]⟩ (.ofString "docs/") = .ok (.folder handbook) := rfl
  have h' : Disk.find ⟨root, ["srv", "docs", "part"]⟩ (.ofString "..") = .ok (.folder handbook) := rfl
  exact ⟨isTree_handbook, h, h', (markdownFiles_searchedAlike_iff isTree_handbook h h').1.2 (Or.inl (by decide))⟩

/-- A directory whose name is not searched is passed over when it is given itself, though its file is found from
within. -/
theorem not_searchedAlike_build :
    let entries := [("a.md", Entry.file [])]
    let root := Entry.folder [("build", .folder entries)]
    (Entry.folder entries).IsTree ∧ Disk.find ⟨root, []⟩ (.ofString "build") = .ok (.folder entries) ∧
      Disk.find ⟨root, ["build"]⟩ (.ofString ".") = .ok (.folder entries) ∧
      ¬ SearchedAlike entries ⟨root, []⟩ ⟨root, ["build"]⟩ (.ofString "build") (.ofString ".") := by
  intro entries root
  have h : Disk.find ⟨root, []⟩ (.ofString "build") = .ok (.folder entries) := rfl
  refine ⟨.folder (by decide) (List.forall_mem_singleton.2 (.file [])), h, rfl, ?_⟩
  rintro ⟨files, -, hfiles, hfound, -⟩
  rw [markdownFiles_of_isSkipped h (by decide), eq_comm, List.map_eq_nil_iff] at hfound
  have hwanted : IsWanted ["a.md"] :=
    ⟨⟨['a'], ['m', 'd'], by decide, by decide, Or.inl (Suppression.spells_of_map_toLower (by decide))⟩, by decide⟩
  exact List.not_mem_nil (hfound ▸ (hfiles ["a.md"]).2 ⟨.folder List.mem_cons_self (.file []), hwanted⟩)

end MarkLint.Command

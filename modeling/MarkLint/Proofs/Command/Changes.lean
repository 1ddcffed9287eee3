import MarkLint.Command
import MarkLint.Proofs.Files.MarkdownName
import MarkLint.Proofs.Files.PathText
import MarkLint.Proofs.Text.Blank
import MarkLint.Proofs.Text.Breaks
import MarkLint.Text.Utf8

/-!
# Files that changed

Version control prints the path of each changed file on a line of its own. A path with other octets than those of plain
ASCII is put in quotes, with escapes for these octets; but lines are read as they are, so the name of a quoted path ends
in a quote and is taken for that of no Markdown file (`isMarkdown_ofString_printedPath`). The top directory is printed as
it is and read without the blanks at its ends and with line feeds for carriage returns. So the changed Markdown files are
found exactly if none of them is quoted, and the top directory can be read back (`changedFiles_eq_iff`).
-/

namespace MarkLint.Files

/-! ## Paths inside a directory -/

/-- The path of a file in a directory, as seen from there. -/
structure Path.IsInner (p : Path) : Prop where
  relative : p.anchor = ""
  filled : p.parts ≠ []
  names : ∀ name ∈ p.parts, IsName name ∧ name ≠ ".."

theorem Path.IsInner.isPlain {p : Path} (h : p.IsInner) : p.IsPlain :=
  ⟨Or.inl h.relative, fun name hname => (h.names name hname).1⟩

theorem Path.join_of_isInner {p : Path} (top : Path) (h : p.IsInner) :
    top.join p = ⟨top.anchor, top.parts ++ p.parts⟩ := by
  rw [join, isAbsolute, h.relative]
  rfl

theorem walkNames_folder {above : List Entry} {entries : List (String × Entry)} {name : String} {rest : List String}
    (hname : name ≠ "..") : walkNames above (.folder entries) (name :: rest) =
      match entries.lookup name with
      | some next => walkNames (.folder entries :: above) next rest
      | none => .error .notFound := by
  rw [walkNames.eq_def]
  exact if_neg hname

theorem Path.join_left_inj {p q top : Path} (h : p.IsInner) : q.join p = top.join p ↔ q = top := by
  cases q
  cases top
  rw [join_of_isInner _ h, join_of_isInner _ h, mk.injEq, mk.injEq, List.append_left_inj]

/-- Names that do not lead back lead to the same entry whatever was passed before. -/
theorem walkNames_above {names : List String} (h : ".." ∉ names) (above above' : List Entry) (e : Entry) :
    walkNames above e names = walkNames above' e names := by
  induction names generalizing above above' e with
  | nil => rfl
  | cons name rest ih =>
    obtain ⟨hname, hrest⟩ := not_or.1 (fun hmem => h (List.mem_cons.2 hmem))
    cases e with
    | file octets => rfl
    | folder entries =>
      rw [walkNames_folder (Ne.symm hname), walkNames_folder (Ne.symm hname)]
      cases entries.lookup name with
      | none => rfl
      | some next => exact ih hrest _ _ next

/-- Further names that do not lead back are followed from where the first ones lead. -/
theorem walkNames_append {above : List Entry} {current e : Entry} {names more : List String} (hmore : ".." ∉ more)
    (h : walkNames above current names = .ok e) : walkNames above current (names ++ more) = walkNames [] e more := by
  fun_induction walkNames above current names with
  | case1 above =>
    cases h
    exact walkNames_above hmore above [] e
  | case2 => cases h
  | case3 entries rest ih => exact ih h
  | case4 entries rest parent further ih => exact ih h
  | case5 above name rest entries hname next hnext ih =>
    rw [List.cons_append, walkNames_folder hname, hnext]
    exact ih h
  | case6 => cases h

/-- An inner path leads from the top directory to the file that it leads to inside of it, whatever the working directory
is. -/
theorem Disk.find_join {disk : Disk} {e : Entry} {top p : Path} (hroot : top.anchor = "/") (hp : p.IsInner)
    (h : disk.find top = .ok e) : disk.find (top.join p) = Disk.find ⟨e, []⟩ p := by
  have hback : ".." ∉ p.parts := fun hmem => (hp.names _ hmem).2 rfl
  rw [Path.join_of_isInner top hp]
  simp only [find, absoluteNames, Path.isAbsolute, hroot, hp.relative] at h ⊢
  exact walkNames_append hback h

end MarkLint.Files

namespace MarkLint.Command

open MarkLint.Files
open MarkLint.Text

/-! ## What version control prints -/

/-- Octets that are printed as they are: the visible characters of ASCII and the space, except quotes and backslashes. -/
def isPlainOctet (b : Nat) : Bool := 0x20 ≤ b && b < 0x7F && b != 0x22 && b != 0x5C

/-- The digit for the last three bits of a number. -/
def octalDigit (n : Nat) : Char := Char.ofNat (48 + n % 8)

/-- The escape for an octet. -/
def octetEscape : Nat → List Char
  | 0x07 => ['\\', 'a']
  | 0x08 => ['\\', 'b']
  | 0x09 => ['\\', 't']
  | 0x0A => ['\\', 'n']
  | 0x0B => ['\\', 'v']
  | 0x0C => ['\\', 'f']
  | 0x0D => ['\\', 'r']
  | 0x22 => ['\\', '"']
  | 0x5C => ['\\', '\\']
  | b => ['\\', octalDigit (b / 64), octalDigit (b / 8), octalDigit b]

/-- Does the text consist of plain octets? -/
def isPlainText (s : List Char) : Bool := (s.flatMap utf8Octets).all isPlainOctet

/-- A path as it is printed. -/
def printedPath (s : List Char) : List Char :=
  if isPlainText s then s
  else '"' :: (s.flatMap utf8Octets).flatMap (fun b => if isPlainOctet b then [Char.ofNat b] else octetEscape b)
    ++ ['"']

example : printedPath "a é\"".toList = "\"a \\303\\251\\\"\"".toList := by decide

/-- Is the path printed without quotes? -/
def isUnquoted (p : Path) : Bool := isPlainText p.toString.toList

/-- The changed files, a line for each of them. -/
def listing (changed : List Path) : List Char :=
  changed.flatMap fun p => printedPath p.toString.toList ++ ['\n']

/-- What version control says when nothing fails. -/
def printed (top : Path) (changed : List Path) : Changes :=
  ⟨⟨top.toString ++ "\n", 0⟩, ⟨String.ofList (listing changed), 0⟩⟩

/-! ## Printed paths -/

variable {top p : Path} {changed : List Path} {s : List Char}

theorem utf8Octets_of_lt {c : Char} (h : c.toNat < 0x80) : utf8Octets c = [c.toNat] := if_pos h

/-- Plain octets are those of one character of ASCII each. -/
theorem isPlainOctet_of_utf8Octets {c : Char} (h : ∀ b ∈ utf8Octets c, isPlainOctet b = true) :
    isPlainOctet c.toNat = true := by
  by_cases hc : c.toNat < 0x80
  · exact h _ (utf8Octets_of_lt hc ▸ List.mem_cons_self)
  · obtain ⟨b, hb, hlarge⟩ : ∃ b ∈ utf8Octets c, 0x80 ≤ b := by
      simp only [utf8Octets, if_neg hc]
      split_ifs <;> exact ⟨_, List.mem_cons_self, by omega⟩
    have hplain := h b hb
    simp only [isPlainOctet, Bool.and_eq_true, decide_eq_true_eq] at hplain
    omega

theorem isPlainText_iff : isPlainText s = true ↔ ∀ c ∈ s, isPlainOctet c.toNat = true := by
  rw [isPlainText, List.all_flatMap, List.all_eq_true]
  refine forall₂_congr fun c _ => ?_
  rw [List.all_eq_true]
  constructor
  · exact isPlainOctet_of_utf8Octets
  · intro h b hb
    have hc : c.toNat < 0x80 := by
      simp only [isPlainOctet, Bool.and_eq_true, decide_eq_true_eq] at h
      omega
    rw [utf8Octets_of_lt hc] at hb
    rwa [List.mem_singleton.1 hb]

/-- A character of ASCII that can be seen, or the space. -/
def IsVisible (c : Char) : Prop := 0x20 ≤ c.toNat ∧ c.toNat < 0x7F

instance (c : Char) : Decidable (IsVisible c) := inferInstanceAs (Decidable (_ ∧ _))

theorem isVisible_of_isPlainOctet {c : Char} (h : isPlainOctet c.toNat = true) : IsVisible c := by
  simp only [isPlainOctet, Bool.and_eq_true, decide_eq_true_eq] at h
  exact ⟨h.1.1.1, h.1.1.2⟩

theorem toNat_ofNat_of_lt {n : Nat} (h : n < 0x80) : (Char.ofNat n).toNat = n := by
  rw [Char.ofNat, dif_pos (Or.inl (by omega))]
  rfl

theorem isVisible_octalDigit (n : Nat) : IsVisible (octalDigit n) := by
  rw [IsVisible, octalDigit, toNat_ofNat_of_lt (by omega)]
  omega

theorem isVisible_octetEscape {b : Nat} : ∀ c ∈ octetEscape b, IsVisible c := by
  unfold octetEscape
  split
  case h_10 =>
    have hdigits : ∀ c ∈ [octalDigit (b / 64), octalDigit (b / 8), octalDigit b], IsVisible c := by
      simp [isVisible_octalDigit]
    exact List.forall_mem_cons.2 ⟨by decide, hdigits⟩
  all_goals decide

/-- Whatever the path is, only visible characters are printed. -/
theorem isVisible_printedPath : ∀ c ∈ printedPath s, IsVisible c := by
  have hquote : IsVisible '"' := by decide
  unfold printedPath
  split
  · rename_i hplain
    exact fun c hc => isVisible_of_isPlainOctet (isPlainText_iff.1 hplain c hc)
  · refine List.forall_mem_append.2 ⟨List.forall_mem_cons.2 ⟨hquote, ?_⟩, List.forall_mem_singleton.2 hquote⟩
    intro c hc
    obtain ⟨b, -, hc⟩ := List.mem_flatMap.1 hc
    split at hc
    · rename_i hb
      rw [List.mem_singleton.1 hc]
      have hlt : b < 0x80 := by
        simp only [isPlainOctet, Bool.and_eq_true, decide_eq_true_eq] at hb
        omega
      exact isVisible_of_isPlainOctet (by rwa [toNat_ofNat_of_lt hlt])
    · exact isVisible_octetEscape c hc

theorem not_mem_printedPath : '\r' ∉ printedPath s := fun h => absurd (isVisible_printedPath _ h).1 (by decide)

theorem endsLine_of_isVisible {c : Char} (h : IsVisible c) : endsLine c = false := by
  obtain ⟨hlow, hhigh⟩ := h
  simp only [endsLine, Bool.or_eq_false_iff, Bool.and_eq_false_iff, decide_eq_false_iff_not, beq_eq_false_iff_ne]
  omega

theorem piecesBy_listing (changed : List Path) : piecesBy endsLine (listing changed) =
    changed.map (fun p => printedPath p.toString.toList) ++ [[]] := by
  induction changed with
  | nil => rfl
  | cons p changed ih =>
    have hline : ∀ c ∈ printedPath p.toString.toList, endsLine c = false := fun c hc =>
      endsLine_of_isVisible (isVisible_printedPath c hc)
    rw [listing, List.flatMap_cons, ← listing, List.append_assoc, List.singleton_append,
      piecesBy_append_cons endsLine rfl _ hline, ih, List.map_cons, List.cons_append]

/-- The lines of the listing are the printed paths, and an empty line. -/
theorem printedLines_listing (changed : List Path) : printedLines (String.ofList (listing changed)) =
    changed.map (fun p => String.ofList (printedPath p.toString.toList)) ++ [""] := by
  have hnormal : '\r' ∉ listing changed := by
    intro hmem
    obtain ⟨p, -, hp⟩ := List.mem_flatMap.1 hmem
    rcases List.mem_append.1 hp with hp | hp
    · exact not_mem_printedPath hp
    · cases List.mem_singleton.1 hp
  rw [printedLines, String.toList_ofList, normalizeBreaks_of_not_mem hnormal, piecesBy_listing, List.map_append,
    List.map_map]
  rfl

/-! ## Reading the files -/

/-- The paths of Markdown files among the changed ones. -/
def markdownAmong (changed : List Path) : List Path := changed.filter fun p => IsMarkdownName p.name.toList

theorem markdownAmong_eq (changed : List Path) : markdownAmong changed = changed.filter Path.isMarkdown :=
  List.filter_congr fun p _ => by rw [Bool.eq_iff_iff, decide_eq_true_iff, Path.isMarkdown_iff]

theorem mem_markdownAmong_iff : p ∈ markdownAmong changed ↔ p ∈ changed ∧ IsMarkdownName p.name.toList := by
  rw [markdownAmong, List.mem_filter, decide_eq_true_iff]

/-- A path as it is read from its line. -/
def reread (p : Path) : Path := Path.ofString (String.ofList (printedPath p.toString.toList))

/-- A path that is printed without quotes is read back. -/
theorem reread_of_isUnquoted (h : p.IsPlain) (hplain : isUnquoted p = true) : reread p = p := by
  rw [isUnquoted] at hplain
  rw [reread, printedPath, if_pos hplain, String.ofList_toList, Path.ofString_toString h]

/-- A path in quotes is read as that of no Markdown file. -/
theorem isMarkdown_reread_of_not_isUnquoted (hplain : isUnquoted p = false) :
    (reread p).isMarkdown = false := by
  rw [isUnquoted] at hplain
  rw [reread, printedPath, if_neg (by simp [hplain]), ← Bool.not_eq_true, Path.isMarkdown_iff]
  rintro ⟨stem, extension, hname, -, hspells⟩
  have hquote : '"' ∉ extension := by
    rcases hspells with hspells | hspells <;> exact not_mem_of_spells (by decide) hspells
  -- what follows the last dot of the name goes on to its end, which is a quote
  obtain ⟨front, hfront⟩ := Path.exists_name_ofString (c := '"') (by decide) (by decide)
    ('"' :: (p.toString.toList.flatMap utf8Octets).flatMap fun b =>
      if isPlainOctet b then [Char.ofNat b] else octetEscape b)
  rw [hfront] at hname
  have hends := congrArg List.getLast? hname
  rw [List.getLast?_concat, List.getLast?_append_of_ne_nil _ (List.cons_ne_nil _ _)] at hends
  rcases List.mem_cons.1 (List.mem_of_getLast? hends.symm) with hdot | hmem
  · cases hdot
  · exact hquote hmem

/-- Of the changed files, the Markdown files that are printed without quotes are read back, and nothing else is found. -/
theorem filter_map_reread (h : ∀ p ∈ changed, p.IsPlain) : (changed.map reread).filter Path.isMarkdown =
    (markdownAmong changed).filter isUnquoted := by
  rw [markdownAmong_eq]
  induction changed with
  | nil => rfl
  | cons p changed ih =>
    obtain ⟨hp, hrest⟩ := List.forall_mem_cons.1 h
    rw [List.map_cons]
    cases hplain : isUnquoted p with
    | true =>
      rw [reread_of_isUnquoted hp hplain]
      cases hmarkdown : p.isMarkdown with
      | true =>
        rw [List.filter_cons_of_pos hmarkdown, List.filter_cons_of_pos hmarkdown, List.filter_cons_of_pos hplain,
          ih hrest]
      | false =>
        rw [List.filter_cons_of_neg (by simp [hmarkdown]), List.filter_cons_of_neg (by simp [hmarkdown]), ih hrest]
    | false =>
      have hread := isMarkdown_reread_of_not_isUnquoted hplain
      rw [List.filter_cons_of_neg (by simp [hread]), ih hrest]
      cases hmarkdown : p.isMarkdown with
      | true => rw [List.filter_cons_of_pos hmarkdown, List.filter_cons_of_neg (by simp [hplain])]
      | false => rw [List.filter_cons_of_neg (by simp [hmarkdown])]

/-- The top directory as it is read. -/
def readTop (top : Path) : Path := Path.ofString (String.ofList (trim (normalizeBreaks (top.toString ++ "\n").toList)))

/-- The files that are found are the changed Markdown files that are printed without quotes. -/
theorem changedFiles_printed (top : Path) (h : ∀ p ∈ changed, p.IsPlain) : changedFiles (some (printed top changed)) =
    ((markdownAmong changed).filter isUnquoted).map (readTop top).join := by
  have hempty : (Path.ofString "").isMarkdown = false := by decide +kernel
  have hlines : ((printedLines (String.ofList (listing changed))).map Path.ofString).filter Path.isMarkdown =
      (changed.map reread).filter Path.isMarkdown := by
    rw [printedLines_listing, List.map_append, List.filter_append, List.map_map, List.map_singleton,
      List.filter_cons_of_neg (by simp [hempty]), List.filter_nil, List.append_nil]
    rfl
  rw [← filter_map_reread h, ← hlines]
  rfl

/-- The top directory can be read back: its path holds no carriage return and does not end in a blank. -/
def IsReadable (top : Path) : Prop :=
  '\r' ∉ top.toString.toList ∧ ∀ c ∈ top.toString.toList.getLast?, isBlank c = false

instance (top : Path) : Decidable (IsReadable top) := inferInstanceAs (Decidable (_ ∧ _))

/-- The path of a top directory starts with a slash, so that nothing is trimmed from its start. -/
theorem readTop_of_not_mem (hroot : top.anchor = "/") (hreturn : '\r' ∉ top.toString.toList) :
    readTop top = Path.ofString (String.ofList (trimEnd top.toString.toList)) := by
  have htext : top.toString.toList = '/' :: ("/".intercalate top.parts).toList := by
    rw [Path.toString, hroot, if_neg fun h => absurd h.1 (by decide), String.toList_append]
    rfl
  have hnormal : '\r' ∉ (top.toString ++ "\n").toList := by
    rw [String.toList_append, List.mem_append, not_or]
    exact ⟨hreturn, by decide⟩
  rw [readTop, normalizeBreaks_of_not_mem hnormal, String.toList_append, trim_append (by decide), trim, htext,
    trimStart_of_not_isBlank (by decide)]

/-- A carriage return is read as a line feed, and is missing from the names. -/
theorem not_mem_of_readTop_eq (htop : top.IsPlain) (hparts : top.parts ≠ []) (hread : readTop top = top) :
    '\r' ∉ top.toString.toList := by
  intro hmem
  have hkept := (List.mem_filter (p := fun c => !(c == '/'))).2 ⟨hmem, by decide⟩
  rw [Path.filter_toString htop hparts, ← hread] at hkept
  have hfound := (List.mem_filter.1 ((Path.letters_ofString_sublist _).subset hkept)).1
  rw [String.toList_ofList] at hfound
  exact not_mem_normalizeBreaks _ ((trim_sublist _).subset hfound)

/-- A blank at the end is trimmed, so that the names have fewer characters. -/
theorem not_isBlank_of_readTop_eq (htop : top.IsPlain) (hroot : top.anchor = "/") (hparts : top.parts ≠ [])
    (hread : readTop top = top) : ∀ c ∈ top.toString.toList.getLast?, isBlank c = false := by
  intro c hc
  by_contra hblank
  rw [Bool.not_eq_false] at hblank
  obtain ⟨front, hfront⟩ := List.getLast?_eq_some_iff.1 hc
  have hslash : (c == '/') = false := by
    rw [beq_eq_false_iff_ne]
    rintro rfl
    revert hblank
    decide
  have hreturn := not_mem_of_readTop_eq htop hparts hread
  have hfewer := Path.letters_ofString_sublist (String.ofList (trimEnd top.toString.toList))
  rw [← readTop_of_not_mem hroot hreturn, hread, ← Path.filter_toString htop hparts, String.toList_ofList, hfront,
    trimEnd_append (by simpa using hblank), List.filter_append, List.filter_cons_of_pos (by simp [hslash]),
    List.filter_nil] at hfewer
  have hle := (hfewer.trans ((trimEnd_sublist front).filter _)).length_le
  rw [List.length_append, List.length_singleton] at hle
  omega

theorem isReadable_of_readTop_eq (htop : top.IsPlain) (hroot : top.anchor = "/") (hread : readTop top = top) :
    IsReadable top := by
  by_cases hparts : top.parts = []
  · have htext : top.toString = "/" := by
      rw [Path.toString, hroot, hparts]
      rfl
    rw [IsReadable, htext]
    decide
  · exact ⟨not_mem_of_readTop_eq htop hparts hread, not_isBlank_of_readTop_eq htop hroot hparts hread⟩

theorem readTop_eq_iff (htop : top.IsPlain) (hroot : top.anchor = "/") : readTop top = top ↔ IsReadable top := by
  refine ⟨isReadable_of_readTop_eq htop hroot, fun ⟨hreturn, hlast⟩ => ?_⟩
  have htrim : trimEnd top.toString.toList = top.toString.toList := by
    rcases List.eq_nil_or_concat' top.toString.toList with hnil | ⟨front, c, hc⟩
    · rw [hnil]
      rfl
    · rw [hc]
      exact trimEnd_concat_of_not_isBlank (hlast c (hc ▸ List.getLast?_concat)) front
  rw [readTop_of_not_mem hroot hreturn, htrim, String.ofList_toList, Path.ofString_toString htop]

/-- Without an answer to both questions there are no changed files. -/
theorem changedFiles_of_failure {changes : Option Changes}
    (h : ∀ c, changes = some c → c.topLevel.exitCode ≠ 0 ∨ c.files.exitCode ≠ 0) : changedFiles changes = [] := by
  cases changes with
  | none => rfl
  | some c =>
    rw [changedFiles, if_neg]
    rintro ⟨htop, hfiles⟩
    exact (h c rfl).elim (· htop) (· hfiles)

/-- The changed Markdown files are found, each in its place, exactly if none of them is printed in quotes, and the top
directory can be read back, unless there are none. -/
theorem changedFiles_eq_iff (htop : top.IsPlain) (hroot : top.anchor = "/") (hchanged : ∀ p ∈ changed, p.IsInner) :
    (changedFiles (some (printed top changed)) = (markdownAmong changed).map top.join ↔
      ∀ p ∈ changed, IsMarkdownName p.name.toList → isUnquoted p = true ∧ IsReadable top) ∧
    changedFiles (some (printed top changed)) = ((markdownAmong changed).filter isUnquoted).map (readTop top).join ∧
    (∀ p ∈ changed, ∀ (disk : Disk) (e : Entry), disk.find top = .ok e → disk.find (top.join p) = Disk.find ⟨e, []⟩ p) ∧
    ∀ changes : Option Changes, (∀ c, changes = some c → c.topLevel.exitCode ≠ 0 ∨ c.files.exitCode ≠ 0) →
      changedFiles changes = [] := by
  have hfound := changedFiles_printed top fun p hp => (hchanged p hp).isPlain
  refine ⟨?_, hfound, fun p hp disk e => Disk.find_join hroot (hchanged p hp), fun _ => changedFiles_of_failure⟩
  rw [hfound, ← readTop_eq_iff htop hroot]
  constructor
  · intro heq p hp hmarkdown
    have hlengths := congrArg List.length heq
    rw [List.length_map, List.length_map, List.length_filter_eq_length_iff] at hlengths
    have hall := List.filter_eq_self.2 hlengths
    rw [hall] at heq
    have hmem := mem_markdownAmong_iff.2 ⟨hp, hmarkdown⟩
    exact ⟨hlengths p hmem, (Path.join_left_inj (hchanged p hp)).1 (List.map_inj_left.1 heq p hmem)⟩
  · intro h
    have hall : ∀ p ∈ markdownAmong changed, isUnquoted p = true ∧ readTop top = top := fun p hp =>
      h p (mem_markdownAmong_iff.1 hp).1 (mem_markdownAmong_iff.1 hp).2
    rw [List.filter_eq_self.2 fun p hp => (hall p hp).1]
    exact List.map_congr_left fun p hp => by rw [(hall p hp).2]

/-- Paths that are printed as they are lead to the files, and one in quotes does not matter if it is that of another
file. -/
theorem changedFiles_eq_manual :
    let top : Path := ⟨"/", ["srv", "manual"]⟩
    let changed : List Path := [⟨"", ["docs", "Read me.MD"]⟩, ⟨"", ["größe.txt"]⟩, ⟨"", ["b.markdown"]⟩]
    top.IsPlain ∧ top.anchor = "/" ∧ (∀ p ∈ changed, p.IsInner) ∧ changedFiles (some (printed top changed)) =
      [⟨"/", ["srv", "manual", "docs", "Read me.MD"]⟩, ⟨"/", ["srv", "manual", "b.markdown"]⟩] := by
  intro top changed
  have htop : top.IsPlain := ⟨by decide, by decide⟩
  have hchanged : ∀ p ∈ changed, p.IsInner := by
    intro p hp
    have hall : ∀ p ∈ changed, p.anchor = "" ∧ p.parts ≠ [] ∧ ∀ name ∈ p.parts, IsName name ∧ name ≠ ".." := by decide
    exact ⟨(hall p hp).1, (hall p hp).2.1, (hall p hp).2.2⟩
  refine ⟨htop, rfl, hchanged, ((changedFiles_eq_iff htop rfl hchanged).1.2 ?_).trans ?_⟩
  · decide +kernel
  · decide +kernel

/-- A file whose name holds a letter outside ASCII is passed over. -/
theorem changedFiles_ne_accented :
    let top : Path := ⟨"/", ["manual"]⟩
    let changed : List Path := [⟨"", ["é.md"]⟩]
    changedFiles (some (printed top changed)) = [] ∧ (markdownAmong changed).map top.join = [⟨"/", ["manual", "é.md"]⟩] :=
  by decide +kernel

end MarkLint.Command

import MarkLint.Proofs.Analysis.Isolation
import MarkLint.Proofs.Command.Files
import MarkLint.Proofs.Command.Report
import MarkLint.Proofs.Document.Readable
import MarkLint.Proofs.Json
import MarkLint.Proofs.Results

/-!
# Checks in both formats

Every text can be analysed, so every file has a report (`exists_reports`), and a check breaks down only if its
configuration cannot be loaded (`runCheck_error_iff`). Checks of the same candidates in the two formats agree
(`checkPaths_agrees`): each file is checked once, whatever one says about it the other says too, and a file that cannot
be read only adds its message.
-/

namespace MarkLint

/-- Every analysis of a text has findings. -/
theorem Analysis.exists_analyze (rules : List Rule) (source : List Char) :
    ∃ findings, analyze rules source = .ok findings := by
  obtain ⟨document, hread⟩ := Document.exists_read source
  exact ⟨_, analyzeWith_eq hread rules⟩

namespace Command

open MarkLint.Files

/-- Each of these files that can be read can be analysed, too. -/
def CanAnalyze (read : Path → Except ReadError (List Char)) (analyze : List Char → Except Document.TreeError Findings)
    (files : List Path) : Prop :=
  ∀ p ∈ files, ∀ source, read p = .ok source → ∃ findings, analyze source = .ok findings

variable {disk : Disk} {read : Path → Except ReadError (List Char)}
  {analyze : List Char → Except Document.TreeError Findings}

/-! ## Reports of files -/

/-- The report of a file says why it cannot be read, or what was found in its text. -/
inductive IsReport (read : Path → Except ReadError (List Char))
    (analyze : List Char → Except Document.TreeError Findings) (p : Path) : FileReport → Prop where
  | unread {e : ReadError} : read p = .error e → IsReport read analyze p ⟨p, .error e⟩
  | checked {source : List Char} {findings : Findings} : read p = .ok source → analyze source = .ok findings →
      IsReport read analyze p ⟨p, .ok findings⟩

/-- All files have reports, one by one. -/
theorem exists_reports {files : List Path} (h : CanAnalyze read analyze files) :
    ∃ reports, files.mapM (checkFile read analyze) = .ok reports ∧
      List.Forall₂ (IsReport read analyze) files reports := by
  refine exists_mapM_eq_ok fun p hp => ?_
  unfold checkFile
  cases hread : read p with
  | error e => exact ⟨_, rfl, .unread hread⟩
  | ok source =>
    obtain ⟨findings, hfindings⟩ := h p hp source hread
    refine ⟨_, ?_, .checked hread hfindings⟩
    simp only [hfindings]
    rfl

/-- The files that can be read, with their texts. -/
def readable (read : Path → Except ReadError (List Char)) (files : List Path) : List (Path × List Char) :=
  files.filterMap fun p => (read p).toOption.map (p, ·)

section Cons

variable {p : Path} {files : List Path} {e : ReadError} {source : List Char}

theorem readable_cons_error (h : read p = .error e) : readable read (p :: files) = readable read files :=
  List.filterMap_cons_none (by rw [h]; rfl)

theorem readable_cons_ok (h : read p = .ok source) :
    readable read (p :: files) = (p, source) :: readable read files :=
  List.filterMap_cons_some (by rw [h]; rfl)

end Cons

/-- The entry of a file holds the findings for its text. -/
def IsEntry (analyze : List Char → Except Document.TreeError Findings) (file : Path × List Char) (entry : Json) :
    Prop :=
  ∃ findings, analyze file.2 = .ok findings ∧ entry = .obj
    [("path", .str file.1.toString), ("diagnostics", .arr (findings.diagnostics.map Diagnostic.toJson))]

/-- There is one entry for each file that can be read, in their order. -/
theorem forall₂_isEntry {files : List Path} {reports : List FileReport}
    (h : List.Forall₂ (IsReport read analyze) files reports) :
    List.Forall₂ (IsEntry analyze) (readable read files) (reports.filterMap FileReport.json?) := by
  induction h with
  | nil => exact .nil
  | cons hreport _ ih =>
    cases hreport with
    | unread hread =>
      rw [readable_cons_error hread, List.filterMap_cons_none rfl]
      exact ih
    | checked hread hfindings =>
      rw [readable_cons_ok hread]
      exact .cons ⟨_, hfindings, rfl⟩ ih

/-- The note on a file is the message that it cannot be read, or tells which rules broke down on its text. -/
inductive IsNote (read : Path → Except ReadError (List Char))
    (analyze : List Char → Except Document.TreeError Findings) (p : Path) : String → Prop where
  | unread {e : ReadError} : read p = .error e → IsNote read analyze p (errorLine p e)
  | checked {source : List Char} {findings : Findings} : read p = .ok source → analyze source = .ok findings →
      IsNote read analyze p (String.join (findings.failed.map failureLine))

/-- There is one note on each file, in their order. -/
theorem forall₂_isNote {files : List Path} {reports : List FileReport}
    (h : List.Forall₂ (IsReport read analyze) files reports) :
    List.Forall₂ (IsNote read analyze) files (reports.map FileReport.errorText) := by
  rw [List.forall₂_map_right_iff]
  refine h.imp fun p r hreport => ?_
  cases hreport with
  | unread hread => exact .unread hread
  | checked hread hfindings => exact .checked hread hfindings

/-- What a check leaves behind in both formats, when its files, the entries of its JSON report and the notes on the
files are these. -/
structure Agrees (read : Path → Except ReadError (List Char)) (analyze : List Char → Except Document.TreeError Findings)
    (warnings : List Config.Warning) (files : List Path) (entries : List Json) (notes : List String)
    (text json : Output) : Prop where
  entries_rel : List.Forall₂ (IsEntry analyze) (readable read files) entries
  /-- The JSON report is the indented text of its entries, and is read back as these. -/
  stdout_json : json.stdout = (Json.arr entries).pretty ++ "\n"
  report_json : Json.read? json.stdout.toList = some (.arr entries)
  stdout_text : textIn? (.arr entries) = some text.stdout
  exitCode_text : text.exitCode = if entries.any hasFinding then 1 else 0
  exitCode_json : json.exitCode = text.exitCode
  notes_rel : List.Forall₂ (IsNote read analyze) files notes
  stderr_text : text.stderr = String.join (warnings.map warningLine) ++ String.join notes
  stderr_json : json.stderr = text.stderr

/-- What is left behind about the same reports agrees. -/
theorem agrees_of_isReport {files : List Path} {reports : List FileReport} (warnings : List Config.Warning)
    (h : List.Forall₂ (IsReport read analyze) files reports) : Agrees read analyze warnings files
      (reports.filterMap FileReport.json?) (reports.map FileReport.errorText)
      (output .text warnings reports) (output .json warnings reports) where
  entries_rel := forall₂_isEntry h
  stdout_json := rfl
  report_json := by
    rw [output, reportText, String.toList_append]
    exact Json.read?_pretty _ rfl
  stdout_text := textIn?_reports reports
  exitCode_text := by rw [any_hasFinding]; rfl
  exitCode_json := rfl
  notes_rel := forall₂_isNote h
  stderr_text := rfl
  stderr_json := rfl

theorem checkPaths_eq_ok {candidates : List Path} {reports : List FileReport} (format : ReportFormat)
    (warnings : List Config.Warning) (h : (distinct disk [] candidates).mapM (checkFile read analyze) = .ok reports) :
    checkPaths disk read analyze format warnings candidates = .ok (output format warnings reports) := by
  rw [checkPaths, h]
  rfl

/-! ## Runs -/

/-- A check breaks down only if its configuration cannot be loaded. -/
theorem runCheck_error_iff (s : Surroundings) (c : Check) (reason : Breakdown) :
    runCheck s c = .error reason ↔ ∃ e, Config.load s.disk s.disk.cwdPath = .error e ∧ reason = .config e := by
  unfold runCheck
  cases Config.load s.disk s.disk.cwdPath with
  | error e => simp [eq_comm]
  | ok loaded =>
    obtain ⟨config, warnings⟩ := loaded
    have hall : CanAnalyze (readText s.disk) (Analysis.analyze (config.activeRules allRules))
        (distinct s.disk [] (candidates s c)) :=
      fun _ _ source _ => Analysis.exists_analyze (config.activeRules allRules) source
    obtain ⟨reports, hreports, -⟩ := exists_reports hall
    simp only [checkPaths_eq_ok c.format (warnings ++ config.activeWarnings allRules) hreports]
    simp [Except.mapError]

/-- Without the candidates for the place of a file all other files stay. -/
theorem distinct_without {candidates before after : List Path} {p : Path}
    (h : distinct disk [] candidates = before ++ p :: after) :
    distinct disk [] (candidates.filter fun q => disk.resolve q ≠ disk.resolve p) = before ++ after := by
  have hnodup : ((before ++ p :: after).map disk.resolve).Nodup := h ▸ nodup_distinct candidates []
  rw [List.map_append, List.map_cons, List.nodup_middle, List.nodup_cons, List.mem_append, not_or] at hnodup
  have hkeep : ∀ l : List Path, disk.resolve p ∉ l.map disk.resolve →
      l.filter (fun q => disk.resolve q ≠ disk.resolve p) = l := by
    intro l hl
    rw [List.filter_eq_self]
    intro q hq
    exact decide_eq_true fun heq => hl (heq ▸ List.mem_map_of_mem hq)
  have hfilter := @distinct_filter disk (fun names => names ≠ disk.resolve p) candidates [] [] fun _ _ => Iff.rfl
  rw [hfilter, h, List.filter_append, List.filter_cons_of_neg (by simp), hkeep before hnodup.1.1,
    hkeep after hnodup.1.2]

/-- Of the candidates that lead to the checked files all can be analysed. -/
theorem CanAnalyze.distinct (disk : Disk) {candidates : List Path} (h : CanAnalyze read analyze candidates) :
    CanAnalyze read analyze (distinct disk [] candidates) :=
  fun p hp => h p ((distinct_isFirst disk candidates).sublist.subset hp)

/-- Without the candidates for a file that cannot be read only its message is missing. -/
theorem checkPaths_onlyAdds (warnings : List Config.Warning) {candidates : List Path} {p : Path} {e : ReadError}
    (h : CanAnalyze read analyze candidates) (hp : p ∈ distinct disk [] candidates) (hread : read p = .error e)
    (format : ReportFormat) : ∃ o o',
      checkPaths disk read analyze format warnings candidates = .ok o ∧
      checkPaths disk read analyze format warnings
        (candidates.filter fun q => disk.resolve q ≠ disk.resolve p) = .ok o' ∧
      o.OnlyAdds (errorLine p e) o' := by
  obtain ⟨before, after, hfiles⟩ := List.append_of_mem hp
  have hall : CanAnalyze read analyze (before ++ p :: after) := hfiles ▸ h.distinct disk
  obtain ⟨reports, hreports, -⟩ := exists_reports fun q hq => hall q (List.mem_append_left _ hq)
  obtain ⟨reports', hreports', -⟩ := exists_reports fun q hq =>
    hall q (List.mem_append_right _ (List.mem_cons_of_mem p hq))
  rw [mapM_eq_ok_iff] at hreports hreports'
  have hself : checkFile read analyze p = .ok ⟨p, .error e⟩ := by rw [checkFile, hread]
  refine ⟨_, _, checkPaths_eq_ok format warnings ?_, checkPaths_eq_ok format warnings ?_,
    output_onlyAdds format warnings p e reports reports'⟩
  · rw [hfiles, mapM_eq_ok_iff]
    exact List.rel_append hreports (.cons hself hreports')
  · rw [distinct_without hfiles, mapM_eq_ok_iff]
    exact List.rel_append hreports hreports'

/-- A disk with its working directory in `d`. -/
def aliasDisk : Disk := ⟨.folder [], ["d"]⟩

/-- One file under two names, and a missing one between them. -/
def aliases : List Path := [⟨"", ["x", "..", "a.md"]⟩, ⟨"", ["b.md"]⟩, ⟨"", ["a.md"]⟩]

/-- A quote in every file but `b.md`, which is missing. -/
def quoteIn (p : Path) : Except ReadError (List Char) :=
  if p.parts = ["b.md"] then .error (.unopened .notFound p) else .ok "> c".toList

/-- A rule that finds the quote. -/
def quoteRules : List Rule := [{ BlockquoteIndentation.rule with option := some (.int 3) }]

end Command
end MarkLint

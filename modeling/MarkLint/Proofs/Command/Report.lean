import MarkLint.Command
import Mathlib.Data.List.Basic

/-!
# Text and JSON

The lines of text for some reports can be read off their JSON, entry by entry and diagnostic by diagnostic
(`textIn?_reports`), and so can whether there is a diagnostic at all (`any_hasFinding`). The report of a file that
cannot be read only adds its message (`output_onlyAdds`).
-/

namespace MarkLint

/-! ## Reading JSON -/

namespace Json

/-- A member of an object. -/
def member? (key : String) : Json → Option Json
  | obj members => members.lookup key
  | _ => none

/-- The number that a value is. -/
def int? : Json → Option Int
  | int n => some n
  | _ => none

/-- The string that a value is. -/
def str? : Json → Option String
  | str s => some s
  | _ => none

/-- The items of an array. -/
def items? : Json → Option (List Json)
  | arr items => some items
  | _ => none

end Json

namespace Command

open MarkLint.Files

/-- The line and the column at which a position starts: those of its start, its own if it is a point, or the first of
the text if there is none. -/
def startIn? : Json → Option (Int × Int)
  | .null => some (1, 1)
  | position => do
    let point := (position.member? "start").getD position
    let line ← point.member? "line" >>= Json.int?
    let column ← point.member? "column" >>= Json.int?
    return (line, column)

/-- The line of text for a diagnostic of a file. -/
def lineIn? (path : String) (diagnostic : Json) : Option String := do
  let (line, column) ← diagnostic.member? "position" >>= startIn?
  let ruleId ← diagnostic.member? "ruleId" >>= Json.str?
  let message ← diagnostic.member? "message" >>= Json.str?
  return path ++ ":" ++ toString line ++ ":" ++ toString column ++ ": " ++ ruleId ++ " " ++ message ++ "\n"

/-- The lines of text for an entry of a report. -/
def linesIn? (entry : Json) : Option (List String) := do
  let path ← entry.member? "path" >>= Json.str?
  let diagnostics ← entry.member? "diagnostics" >>= Json.items?
  diagnostics.mapM (lineIn? path)

/-- The text for a report. -/
def textIn? (report : Json) : Option String := do
  let entries ← report.items?
  let lines ← entries.mapM linesIn?
  return String.join lines.flatten

/-- Does an entry of a report hold a diagnostic? -/
def hasFinding (entry : Json) : Bool := (entry.member? "diagnostics" >>= Json.items?).any fun ds => !ds.isEmpty

/-! ## Reports -/

theorem startIn?_placeJson (d : Diagnostic) :
    startIn? (Diagnostic.placeJson d.start d.stop) = some (d.line, d.column) := by
  unfold Diagnostic.line Diagnostic.column
  cases d.start with
  | none => rfl
  | some start =>
    cases d.stop with
    | none => rfl
    | some stop => rfl

theorem lineIn?_toJson (p : Path) (d : Diagnostic) : lineIn? p.toString d.toJson = some (diagnosticLine p d) := by
  have hposition : d.toJson.member? "position" = some (Diagnostic.placeJson d.start d.stop) := rfl
  have hstart : (d.toJson.member? "position" >>= startIn?) = some (d.line, d.column) := by
    rw [hposition]
    exact startIn?_placeJson d
  rw [lineIn?, hstart]
  rfl

variable {r : FileReport} {entry : Json}

theorem entry_of_json? (h : r.json? = some entry) :
    entry = .obj [("path", .str r.path.toString), ("diagnostics", .arr (r.diagnostics.map Diagnostic.toJson))] := by
  unfold FileReport.json? at h
  unfold FileReport.diagnostics
  split at h
  · rename_i findings hfindings
    rw [hfindings, ← Option.some.inj h]
    rfl
  · cases h

/-- The entry of a file says what the lines of text for the file say. -/
theorem linesIn?_json (h : r.json? = some entry) :
    linesIn? entry = some (r.diagnostics.map (diagnosticLine r.path)) := by
  obtain rfl := entry_of_json? h
  have hline : lineIn? r.path.toString ∘ Diagnostic.toJson = fun d => pure (diagnosticLine r.path d) :=
    funext fun d => lineIn?_toJson r.path d
  have hlines : (r.diagnostics.map Diagnostic.toJson).mapM (lineIn? r.path.toString) =
      some (r.diagnostics.map (diagnosticLine r.path)) := by
    rw [List.mapM_map, hline, List.mapM_pure]
    rfl
  exact hlines

theorem hasFinding_json (h : r.json? = some entry) : hasFinding entry = !r.diagnostics.isEmpty := by
  obtain rfl := entry_of_json? h
  cases hds : r.diagnostics with
  | nil => rfl
  | cons d ds => rfl

/-- A file that cannot be read has no diagnostics. -/
theorem diagnostics_of_json?_eq_none (h : r.json? = none) : r.diagnostics = [] := by
  unfold FileReport.json? at h
  unfold FileReport.diagnostics
  split at h
  · cases h
  · rename_i e he
    rw [he]
    rfl

/-- The text of reports can be read off their JSON. -/
theorem textIn?_reports (reports : List FileReport) :
    textIn? (.arr (reports.filterMap FileReport.json?)) = some (String.join (reports.map FileReport.text)) := by
  have hlines : ∃ lines, (reports.filterMap FileReport.json?).mapM linesIn? = some lines ∧
      String.join lines.flatten = String.join (reports.map FileReport.text) := by
    induction reports with
    | nil => exact ⟨[], rfl, rfl⟩
    | cons r reports ih =>
      obtain ⟨lines, hlines, hjoin⟩ := ih
      cases hr : r.json? with
      | none =>
        refine ⟨lines, by rw [List.filterMap_cons_none hr, hlines], ?_⟩
        rw [hjoin, List.map_cons, String.join_cons, FileReport.text, diagnostics_of_json?_eq_none hr]
        rfl
      | some entry =>
        refine ⟨r.diagnostics.map (diagnosticLine r.path) :: lines, ?_, ?_⟩
        · rw [List.filterMap_cons_some hr, List.mapM_cons, linesIn?_json hr, hlines]
          rfl
        · rw [List.flatten_cons, String.join_append, hjoin, List.map_cons, String.join_cons, FileReport.text]
  obtain ⟨lines, hlines, hjoin⟩ := hlines
  rw [textIn?, Json.items?, ← hjoin]
  show ((reports.filterMap FileReport.json?).mapM linesIn? >>= _) = _
  rw [hlines]
  rfl

/-- An entry holds a diagnostic if a file has one. -/
theorem any_hasFinding (reports : List FileReport) : (reports.filterMap FileReport.json?).any hasFinding =
    reports.any fun r => !r.diagnostics.isEmpty := by
  induction reports with
  | nil => rfl
  | cons r reports ih =>
    cases hr : r.json? with
    | none => rw [List.filterMap_cons_none hr, ih, List.any_cons, diagnostics_of_json?_eq_none hr]; rfl
    | some entry => rw [List.filterMap_cons_some hr, List.any_cons, List.any_cons, ih, hasFinding_json hr]

/-! ## Files that cannot be read -/

/-- The first run leaves behind what the second does, and one message more. -/
structure Output.OnlyAdds (message : String) (o o' : Output) : Prop where
  stdout_eq : o.stdout = o'.stdout
  exitCode_eq : o.exitCode = o'.exitCode
  stderr_eq : ∃ first rest, o.stderr = first ++ message ++ rest ∧ o'.stderr = first ++ rest

/-- A file that cannot be read adds its message, and nothing else. -/
theorem output_onlyAdds (format : ReportFormat) (warnings : List Config.Warning) (p : Path) (e : ReadError)
    (before after : List FileReport) : (output format warnings (before ++ ⟨p, .error e⟩ :: after)).OnlyAdds
      (errorLine p e) (output format warnings (before ++ after)) where
  stdout_eq := by
    cases format with
    | text =>
      simp only [output, reportText, List.map_append, List.map_cons, String.join_append, String.join_cons]
      congr 1
    | json =>
      simp only [output, reportText, List.filterMap_append]
      rw [List.filterMap_cons_none rfl]
  exitCode_eq := by
    simp only [output, List.any_append, List.any_cons]
    rfl
  stderr_eq := by
    refine ⟨String.join (warnings.map warningLine) ++ String.join (before.map FileReport.errorText),
      String.join (after.map FileReport.errorText), ?_, ?_⟩
    · simp only [output, List.map_append, List.map_cons, String.join_append, String.join_cons, String.append_assoc]
      rfl
    · simp only [output, List.map_append, String.join_append, String.append_assoc]

end Command
end MarkLint

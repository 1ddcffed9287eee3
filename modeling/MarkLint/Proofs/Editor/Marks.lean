import MarkLint.Editor
import MarkLint.Proofs.Analysis.Isolation
import MarkLint.Proofs.Location.Correspondence
import MarkLint.Proofs.Results
import MarkLint.Proofs.Rule.Safety

/-!
# Marks for diagnostics

A point of a text has coordinates that can be sent, because neither its line nor its column exceeds the length of the
text (`coordinates_of_isResolvable`). So each reliable diagnostic has a mark (`exists_mark`). The built-in rules find
nothing else (`Analysis.exists_reliable_findings`), so all their findings can be shown (`exists_marks`).
-/

namespace MarkLint

open MarkLint.Text

/-! ## Findings of the built-in rules -/

namespace Analysis

variable {markdown : List Char → List Markdown.Element} {rules : List Rule} {source : List Char}

/-- A document that is read from a text has this text as its source. -/
theorem source_of_readWith {document : Document} (h : Document.readWith markdown source = .ok document) :
    document.source = source := by
  simp only [Document.readWith] at h
  cases htree : Document.buildTree source (markdown (FrontMatter.hide (FrontMatter.lineCount source) source))
      (FrontMatter.lineCount source) with
  | error e =>
    rw [htree] at h
    cases h
  | ok tree =>
    rw [htree] at h
    cases h
    rfl

/-- What a built-in rule reports is reliable. -/
theorem isReliable_of_mem_reports {b : Rule} (hb : b ∈ allRules) (option : Option Scalar) (document : Document)
    {d : Diagnostic} (hd : d ∈ reports document { b with option := option }) :
    d.IsReliable (Location.ofText document.source) := by
  obtain ⟨anchor, hanchored⟩ := exists_anchored_of_mem hb
  rcases check_cases hb hanchored option document.tree document.source with ⟨-, herror⟩ | ⟨-, ds, hcheck, hds, -⟩
  · rw [reports, herror] at hd
    cases hd
  · rw [reports, hcheck] at hd
    exact (hds d hd).2

/-- If the text can be read, then the built-in rules find only what is reliable. -/
theorem exists_reliable_findings (hrules : ∀ r ∈ rules, ∃ b ∈ allRules, ∃ option, r = { b with option := option })
    (hread : ∃ document, Document.readWith markdown source = .ok document) :
    ∃ findings, analyzeWith markdown rules source = .ok findings ∧
      ∀ d ∈ findings.diagnostics, d.IsReliable (Location.ofText source) := by
  obtain ⟨document, hread⟩ := hread
  refine ⟨_, analyzeWith_eq hread rules, fun d hd => ?_⟩
  -- neither suppressing nor sorting makes diagnostics
  obtain ⟨r, hr, hd⟩ := List.mem_flatMap.1 (List.mem_mergeSort.1 (List.mem_of_mem_filter hd))
  obtain ⟨b, hb, option, rfl⟩ := hrules r hr
  rw [← source_of_readWith hread]
  exact isReliable_of_mem_reports hb option document hd

end Analysis

namespace Editor

/-! ## Coordinates -/

/-- The place is a column of a line of the text, or the end of one. -/
def Coordinates.IsIn (text : List Char) (c : Coordinates) : Prop :=
  ∃ l, (lines text)[c.line]? = some l ∧ c.character ≤ l.length

/-- The place stands no later than another one. -/
def Coordinates.Le (a b : Coordinates) : Prop :=
  a.line < b.line ∨ a.line = b.line ∧ a.character ≤ b.character

/-- The place is at the given line and column, which count from 1. -/
def Coordinates.IsAt (line column : Int) (c : Coordinates) : Prop :=
  (c.line : Int) + 1 = line ∧ (c.character : Int) + 1 = column

variable {text : List Char} {p q : Point}

theorem coordinate_natCast {n : Nat} (h : n ≤ maxCoordinate) : coordinate ((n : Int) + 1 - 1) = .ok n := by
  rw [coordinate, Int.add_sub_cancel, if_pos ⟨by omega, by omega⟩, Int.toNat_natCast]

/-- A column of a short text can be sent. -/
theorem coordinates_onLine {l : List Char} {i c : Nat} (hsize : text.length ≤ maxCoordinate)
    (hi : (lines text)[i]? = some l) (hc : c ≤ l.length) :
    coordinates (Point.onLine (lines text) i c).line (Point.onLine (lines text) i c).column = .ok ⟨i, c⟩ := by
  have hline : i ≤ text.length := by
    have hlt := (List.getElem?_eq_some_iff.1 hi).1
    have hcount := List.count_le_length (a := '\n') (l := text)
    rw [length_lines] at hlt
    omega
  have hcolumn := lineStart_add_length_le hi
  have h1 : coordinate ((i : Int) + 1 - 1) = .ok i := coordinate_natCast (by omega)
  have h2 : coordinate ((c : Int) + 1 - 1) = .ok c := coordinate_natCast (by omega)
  simp only [coordinates, Point.onLine, h1, h2]
  rfl

/-- A point of a short text has coordinates in the text. -/
theorem coordinates_of_isResolvable (hsize : text.length ≤ maxCoordinate)
    (hp : (Location.ofText text).isResolvable p = true) :
    ∃ c, coordinates p.line p.column = .ok c ∧ c.IsAt p.line p.column ∧ c.IsIn text := by
  obtain ⟨i, l, c, hi, hc, rfl⟩ := Location.exists_onLine_of_toPoint (Location.toPoint_of_isResolvable hp)
  exact ⟨⟨i, c⟩, coordinates_onLine hsize hi hc, ⟨rfl, rfl⟩, l, hi, hc⟩

/-- Coordinates are ordered as points are. -/
theorem le_of_offset_le {a b : Coordinates} (hp : (Location.ofText text).isResolvable p = true)
    (hq : (Location.ofText text).isResolvable q = true) (ha : a.IsAt p.line p.column) (hb : b.IsAt q.line q.column)
    (h : p.offset ≤ q.offset) : a.Le b := by
  have hlt := Location.lt_iff_of_toPoint (Location.toPoint_of_isResolvable hq) (Location.toPoint_of_isResolvable hp)
  obtain ⟨haline, hacolumn⟩ := ha
  obtain ⟨hbline, hbcolumn⟩ := hb
  simp only [Coordinates.Le]
  omega

/-- The start of a text is in it. -/
theorem isIn_start (text : List Char) : Coordinates.IsIn text ⟨0, 0⟩ := by
  obtain ⟨l, ls, h⟩ := exists_lines_cons text
  exact ⟨l, by rw [h]; rfl, Nat.zero_le _⟩

/-! ## Marks -/

/-- The mark stands where the diagnostic does, and says the same. It can be sent: both ends are in the text, and they
come in their order. -/
structure Mark.Shows (text : List Char) (d : Diagnostic) (m : Mark) : Prop where
  start_isAt : m.start.IsAt d.line d.column
  stop_eq : d.stop = none → m.stop = m.start
  stop_isAt : ∀ p, d.stop = some p → m.stop.IsAt p.line p.column
  start_isIn : m.start.IsIn text
  stop_isIn : m.stop.IsIn text
  start_le_stop : m.start.Le m.stop
  of_fatal : d.fatal = true → m.start = ⟨0, 0⟩ ∧ m.stop = ⟨0, 0⟩
  message_eq : m.message = d.ruleId ++ " " ++ d.message
  severity_eq : m.severity = severityNumber d.severity

/-- The mark of a diagnostic from one place to another. -/
def markBetween (start stop : Coordinates) (d : Diagnostic) : Mark :=
  ⟨start, stop, d.ruleId ++ " " ++ d.message, severityNumber d.severity⟩

/-- A diagnostic at a single point has an empty mark. -/
theorem markOf_point {d : Diagnostic} {a : Coordinates} (hstop : d.stop = none)
    (ha : coordinates d.line d.column = .ok a) : markOf d = .ok (markBetween a a d) := by
  simp only [markOf, ha, hstop]
  rfl

theorem markOf_span {d : Diagnostic} {a b : Coordinates} (hstop : d.stop = some p)
    (ha : coordinates d.line d.column = .ok a) (hb : coordinates p.line p.column = .ok b) :
    markOf d = .ok (markBetween a b d) := by
  simp only [markOf, ha, hstop, hb]
  rfl

/-- A reliable diagnostic starts in the text, and a fatal one at the start of the text. -/
theorem exists_start {d : Diagnostic} (hsize : text.length ≤ maxCoordinate)
    (h : d.IsReliable (Location.ofText text)) : ∃ a, coordinates d.line d.column = .ok a ∧
      a.IsAt d.line d.column ∧ a.IsIn text ∧ (d.fatal = true → a = ⟨0, 0⟩) := by
  rcases h with ⟨-, -, hstart, -⟩ | ⟨hfatal, -, start, hstart, hresolves, -⟩
  · have hline : d.line = 1 := by rw [Diagnostic.line, hstart]; rfl
    have hcolumn : d.column = 1 := by rw [Diagnostic.column, hstart]; rfl
    rw [hline, hcolumn]
    exact ⟨⟨0, 0⟩, rfl, ⟨rfl, rfl⟩, isIn_start text, fun _ => rfl⟩
  · have hline : d.line = start.line := by rw [Diagnostic.line, hstart]; rfl
    have hcolumn : d.column = start.column := by rw [Diagnostic.column, hstart]; rfl
    obtain ⟨a, ha, haAt, haIn⟩ := coordinates_of_isResolvable hsize hresolves
    rw [hline, hcolumn]
    exact ⟨a, ha, haAt, haIn, fun h => by rw [hfatal] at h; cases h⟩

/-- A reliable diagnostic about a short text has a mark. -/
theorem exists_mark {d : Diagnostic} (hsize : text.length ≤ maxCoordinate) (h : d.IsReliable (Location.ofText text)) :
    ∃ m, markOf d = .ok m ∧ m.Shows text d := by
  obtain ⟨a, ha, haAt, haIn, hzero⟩ := exists_start hsize h
  cases hstop : d.stop with
  | none =>
    refine ⟨_, markOf_point hstop ha, ?_⟩
    exact {
      start_isAt := haAt, stop_eq := fun _ => rfl, stop_isAt := fun p hp => by rw [hstop] at hp; cases hp
      start_isIn := haIn, stop_isIn := haIn, start_le_stop := Or.inr ⟨rfl, le_rfl⟩
      of_fatal := fun h => ⟨hzero h, hzero h⟩, message_eq := rfl, severity_eq := rfl }
  | some stop =>
    rcases h with ⟨-, -, -, hnone⟩ | ⟨hfatal, -, start, hstart, hresolves, hends⟩
    · rw [hnone] at hstop
      cases hstop
    · obtain ⟨hresolves', hle⟩ := hends stop hstop
      obtain ⟨b, hb, hbAt, hbIn⟩ := coordinates_of_isResolvable hsize hresolves'
      have haAt' : a.IsAt start.line start.column := by
        rw [Diagnostic.line, Diagnostic.column, hstart] at haAt
        exact haAt
      refine ⟨_, markOf_span hstop ha hb, ?_⟩
      exact {
        start_isAt := haAt, stop_eq := fun h => by rw [hstop] at h; cases h
        stop_isAt := fun p hp => by rw [hstop] at hp; cases hp; exact hbAt
        start_isIn := haIn, stop_isIn := hbIn, start_le_stop := le_of_offset_le hresolves hresolves' haAt' hbAt hle
        of_fatal := fun h => by rw [hfatal] at h; cases h
        message_eq := rfl, severity_eq := rfl }

/-- Reliable findings can all be shown. -/
theorem exists_marks {ds : List Diagnostic} (hsize : text.length ≤ maxCoordinate)
    (h : ∀ d ∈ ds, d.IsReliable (Location.ofText text)) :
    ∃ ms, ds.mapM markOf = .ok ms ∧ List.Forall₂ (Mark.Shows text) ds ms :=
  exists_mapM_eq_ok fun d hd => exists_mark hsize (h d hd)

end Editor
end MarkLint

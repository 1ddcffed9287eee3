import MarkLint.Analysis
import MarkLint.Command.Arguments
import MarkLint.Config.Load
import MarkLint.Text.Quoted

/-!
# The command line

A run of the program, as a function of its arguments, of the files it can see and of what version control says about
them. `Command.candidates` resolves the arguments to paths, and `Command.checkPaths` checks each file that they lead to
once: it is analysed on its own, and one that cannot be read is passed over with an error message. A run fails if it
found something.
-/

namespace MarkLint.Command

open MarkLint.Files
open MarkLint.Text

/-! ## Which files to check -/

/-- What a program that was asked printed, and its exit code. -/
structure Answer where
  text : String
  exitCode : Nat

/-- What version control says: the top directory of the repository, and the files that changed. -/
structure Changes where
  topLevel : Answer
  files : Answer

/-- What a run can see. Without version control there are no `changes`. -/
structure Surroundings where
  disk : Disk
  changes : Option Changes

/-- The names of directories that are not searched. -/
def skippedNames : List String :=
  [".venv", "venv", "__pycache__", ".git", "node_modules", "build", "dist", ".tox"]

/-- Is a file passed over in a search? -/
def isSkipped (p : Path) : Bool := p.parts.any skippedNames.contains

/-- The Markdown files below a directory, in the order of their names. -/
def markdownFiles (disk : Disk) (folder : Path) : List Path :=
  ((disk.filesBelow folder).filter fun p => p.isMarkdown && !isSkipped p).mergeSort Path.before

/-- Does `c` end a line of what a program printed? -/
def endsLine (c : Char) : Bool :=
  let n := c.toNat
  (10 ≤ n && n ≤ 12) || (28 ≤ n && n ≤ 30) || n == 0x85 || n == 0x2028 || n == 0x2029

/-- The lines of what a program printed. -/
def printedLines (text : String) : List String := (piecesBy endsLine (normalizeBreaks text.toList)).map String.ofList

/-- The Markdown files that changed, as version control lists them; none if it fails. -/
def changedFiles (changes : Option Changes) : List Path :=
  match changes with
  | none => []
  | some c =>
    if c.topLevel.exitCode = 0 ∧ c.files.exitCode = 0 then
      let top := Path.ofString (String.ofList (trim (normalizeBreaks c.topLevel.text.toList)))
      (((printedLines c.files.text).map Path.ofString).filter Path.isMarkdown).map top.join
    else []

/-- The files that a path stands for: those below a directory, or the path itself. -/
def expand (disk : Disk) (p : Path) : List Path := if disk.isFolder p then markdownFiles disk p else [p]

/-- The paths without those that lead to the place of an earlier one. -/
def distinct (disk : Disk) (seen : List (List String)) : List Path → List Path
  | [] => []
  | p :: rest =>
    if seen.contains (disk.resolve p) then distinct disk seen rest
    else p :: distinct disk (disk.resolve p :: seen) rest

/-- The paths that a check is asked about: those that changed, if asked for, then those of its arguments. -/
def candidates (s : Surroundings) (c : Check) : List Path :=
  (if c.diff then changedFiles s.changes else []) ++ (c.paths.map Path.ofString).flatMap (expand s.disk)

/-! ## Checking -/

/-- Why a file cannot be read. -/
inductive ReadError where
  | unopened (fault : OpenFault) (path : Path)
  | undecoded (e : DecodeError)
  deriving Repr, DecidableEq

/-- The wording of an error. -/
def ReadError.message : ReadError → String
  | unopened fault path => fault.message ++ ": " ++ String.ofList (quoted path.toString.toList)
  | undecoded e => e.message

/-- The text of a file. Line breaks of every kind are read as line feeds. -/
def readText (disk : Disk) (p : Path) : Except ReadError (List Char) :=
  match disk.readFile p with
  | .error fault => .error (.unopened fault p)
  | .ok octets =>
    match decodeUtf8 octets with
    | .error e => .error (.undecoded e)
    | .ok text => .ok (normalizeBreaks text)

/-- What became of one file: what was found in it, or why it cannot be read. -/
structure FileReport where
  path : Path
  result : Except ReadError Findings

/-- Checks one file, given how to read a file and how to analyse a text. -/
def checkFile (read : Path → Except ReadError (List Char))
    (analyze : List Char → Except Document.TreeError Findings) (p : Path) : Except Document.TreeError FileReport :=
  match read p with
  | .error e => .ok ⟨p, .error e⟩
  | .ok source => (analyze source).map fun findings => ⟨p, .ok findings⟩

/-- Why a run breaks down. -/
inductive Breakdown where
  | config (e : Config.LoadError)
  | tree (e : Document.TreeError)

/-- What a run leaves behind. The traces that the log prints below a rule that broke down are left out. -/
structure Output where
  exitCode : Nat
  stdout : String
  stderr : String
  deriving Repr, DecidableEq

/-- How a run ends. -/
inductive Outcome where
  | usage
  | finished (output : Output)
  | brokeDown (reason : Breakdown)

/-- A diagnostic as a line of text. -/
def diagnosticLine (p : Path) (d : Diagnostic) : String :=
  p.toString ++ ":" ++ toString d.line ++ ":" ++ toString d.column ++ ": " ++ d.ruleId ++ " " ++ d.message ++ "\n"

/-- The diagnostics of a file, none if it cannot be read. -/
def FileReport.diagnostics (r : FileReport) : List Diagnostic :=
  (r.result.toOption.map Findings.diagnostics).getD []

/-- A report as lines of text. -/
def FileReport.text (r : FileReport) : String := String.join (r.diagnostics.map (diagnosticLine r.path))

/-- A report as JSON, if the file could be read. -/
def FileReport.json? (r : FileReport) : Option Json :=
  match r.result with
  | .ok findings =>
    some (.obj [("path", .str r.path.toString), ("diagnostics", .arr (findings.diagnostics.map Diagnostic.toJson))])
  | .error _ => none

/-- The message about a file that cannot be read. -/
def errorLine (p : Path) (e : ReadError) : String := "error: " ++ p.toString ++ ": " ++ e.message ++ "\n"

/-- A rule that broke down as a line of the log. -/
def failureLine (ruleId : String) : String := "ERROR margot.analyzer: Rule " ++ ruleId ++ " failed\n"

/-- What is said about a file apart from its diagnostics: which rules broke down, or why it cannot be read. -/
def FileReport.errorText (r : FileReport) : String :=
  match r.result with
  | .ok findings => String.join (findings.failed.map failureLine)
  | .error e => errorLine r.path e

/-- What a check prints about its files. -/
def reportText (format : ReportFormat) (reports : List FileReport) : String :=
  match format with
  | .text => String.join (reports.map FileReport.text)
  | .json => (Json.arr (reports.filterMap FileReport.json?)).pretty ++ "\n"

/-- A warning as a line of the log. -/
def warningLine (w : Config.Warning) : String := "WARNING margot.config: " ++ w.message ++ "\n"

/-- What a check with the given warnings leaves behind. -/
def output (format : ReportFormat) (warnings : List Config.Warning) (reports : List FileReport) : Output where
  exitCode := if reports.any fun r => !r.diagnostics.isEmpty then 1 else 0
  stdout := reportText format reports
  stderr := String.join (warnings.map warningLine) ++ String.join (reports.map FileReport.errorText)

/-- Checks the files that the candidates lead to, given how to read a file and how to analyse a text. -/
def checkPaths (disk : Disk) (read : Path → Except ReadError (List Char))
    (analyze : List Char → Except Document.TreeError Findings) (format : ReportFormat)
    (warnings : List Config.Warning) (candidates : List Path) : Except Document.TreeError Output :=
  ((distinct disk [] candidates).mapM (checkFile read analyze)).map (output format warnings)

/-- Runs a check with the configuration of the working directory. -/
def runCheck (s : Surroundings) (c : Check) : Except Breakdown Output :=
  match Config.load s.disk s.disk.cwdPath with
  | .error e => .error (.config e)
  | .ok (config, warnings) =>
    (checkPaths s.disk (readText s.disk) (Analysis.analyze (config.activeRules allRules)) c.format
      (warnings ++ config.activeWarnings allRules) (candidates s c)).mapError .tree

/-- A rule as a line of the list of rules. -/
def ruleLine (r : Rule) : String := r.id ++ ": " ++ r.summary ++ "\n"

/-- Runs the program. -/
def run (s : Surroundings) (arguments : List String) : Outcome :=
  match Request.ofArguments? arguments with
  | none => .usage
  | some .listRules => .finished ⟨0, String.join (allRules.map ruleLine), ""⟩
  | some (.check c) =>
    match runCheck s c with
    | .ok o => .finished o
    | .error reason => .brokeDown reason

end MarkLint.Command

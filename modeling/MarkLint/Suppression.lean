import MarkLint.Report
import MarkLint.Text.Blank
import MarkLint.Text.Case
import MarkLint.Text.Lines

/-!
# Suppression comments

A comment `<!-- margot: noqa -->` takes the diagnostics of its line away, `<!-- margot: disable-file -->` those of the
whole file. Either may list the rules it is about after a colon: `<!-- margot: noqa: rule-a, rule-b -->`. Of several
comments of one kind the first counts on a line, and the last line that has one counts for the file. Fatal diagnostics
are always kept.
-/

namespace MarkLint.Suppression

open MarkLint.Text

/-- The rules a comment is about: all of them, or those in a list. -/
inductive Scope where
  | all
  | only (ids : List String)
  deriving Repr, DecidableEq

/-- Does the scope hold a rule? -/
def Scope.covers : Scope → String → Bool
  | all, _ => true
  | only ids, ruleId => ids.contains ruleId

/-- The scope that a list of rule names gives: names are trimmed and put in small letters, and a list without names is
about all rules. -/
def scopeOf (raw : Option (List Char)) : Scope :=
  match raw with
  | none => .all
  | some text =>
    let names := ((pieces ',' text).map trim).filter (· ≠ [])
    if names.isEmpty then .all else .only (names.map fun n => String.ofList (lower n))

/-- May `c` start a list of rule names? -/
def startsNames (c : Char) : Bool := isLetterFolded c || c.isDigit

/-- May `c` stand in a list of rule names? -/
def isNameChar (c : Char) : Bool := startsNames c || c == ',' || isBlank c || c == '-'

/-- Does the text go on with the end of the comment, after any white space? -/
def closes (s : List Char) : Bool := ['-', '-', '>'].isPrefixOf (trimStart s)

/-- The shortest list of rule names that the end of the comment follows. -/
def names? : List Char → Option (List Char)
  | [] => none
  | c :: rest =>
    if isNameChar c then
      if closes rest then some [c] else (names? rest).map (c :: ·)
    else none

/-- The list of names after a colon. -/
def namesAfterColon? (s : List Char) : Option (List Char) :=
  match s with
  | ':' :: rest =>
    match trimStart rest with
    | c :: more => if startsNames c then names? (c :: more) else none
    | [] => none
  | _ => none

/-- Reads a comment with the given keyword at the start of the text. -/
def commentAt? (keyword : List Char) (s : List Char) : Option Scope := do
  let afterOpen ← dropWord? "<!--".toList s
  let afterTool ← dropWord? "margot:".toList (trimStart afterOpen)
  let afterKeyword ← dropWord? keyword (trimStart afterTool)
  match namesAfterColon? afterKeyword with
  | some names => some (scopeOf (some names))
  | none => if closes afterKeyword then some .all else none

/-- The first comment with the given keyword in a line. -/
def firstComment? (keyword : List Char) : List Char → Option Scope
  | [] => none
  | c :: rest =>
    match commentAt? keyword (c :: rest) with
    | some scope => some scope
    | none => firstComment? keyword rest

/-- The scope in which a line suppresses its diagnostics. -/
def lineScope? (line : List Char) : Option Scope := firstComment? "noqa".toList line

/-- The scope in which a line suppresses the diagnostics of the file. -/
def fileScope? (line : List Char) : Option Scope := firstComment? "disable-file".toList line

/-- The suppressions of a text: the one for the file, and one for each line. -/
structure Table where
  file : Option Scope
  byLine : List (Option Scope)

/-- Collects the suppressions of a text. -/
def Table.ofText (source : List Char) : Table :=
  let ls := lines source
  ⟨(ls.filterMap fileScope?).getLast?, ls.map lineScope?⟩

/-- The suppression at the line with the given number. -/
def Table.atLine? (t : Table) (line : Int) : Option Scope :=
  if 1 ≤ line then (t.byLine[(line - 1).toNat]?).join else none

/-- Is a diagnostic taken away? -/
def Table.suppresses (t : Table) (d : Diagnostic) : Bool :=
  !d.fatal && (t.file.any (·.covers d.ruleId) || (t.atLine? d.line).any (·.covers d.ruleId))

/-- The diagnostics that the comments of the source leave. -/
def apply (diagnostics : List Diagnostic) (source : List Char) : List Diagnostic :=
  let table := Table.ofText source
  diagnostics.filter fun d => !table.suppresses d

end MarkLint.Suppression

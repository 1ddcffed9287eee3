/-!
# Command line arguments

What the arguments of the program ask for. Options may stand among the paths; after `--` everything is a path. Of an
option that is given more than once the last value counts.
-/

namespace MarkLint.Command

/-- The form of a report. -/
inductive ReportFormat where
  | text
  | json
  deriving Repr, DecidableEq

/-- The report format with a name. -/
def ReportFormat.ofName? : String → Option ReportFormat
  | "text" => some text
  | "json" => some json
  | _ => none

/-- What is to be checked, and how to report on it. With `diff` the files that changed are checked first. -/
structure Check where
  paths : List String
  diff : Bool
  format : ReportFormat
  deriving Repr, DecidableEq

/-- What the program is to do. -/
inductive Request where
  | check (c : Check)
  | listRules
  deriving Repr, DecidableEq

/-- Is the argument an option, or several in one? -/
def isOption (argument : String) : Bool := argument.startsWith "-" && argument ≠ "-"

/-- Does the argument ask for a log of the run? The short option may be repeated in one argument. -/
def isVerbose (argument : String) : Bool :=
  argument == "--verbose" || (argument.toList.head? == some '-' && argument.toList.tail.all (· == 'v'))

/-- The arguments from the name of the command on. -/
def fromCommand? : List String → Option (List String)
  | [] => none
  | argument :: rest =>
    if argument = "--" then some rest
    else if isOption argument then if isVerbose argument then fromCommand? rest else none
    else some (argument :: rest)

/-- The value in an argument that gives the report format by an equals sign. -/
def formatValue? (argument : String) : Option String :=
  if "--format=".toList.isPrefixOf argument.toList then
    some (String.ofList (argument.toList.drop "--format=".length))
  else none

/-- Reads the arguments of a check after those that gave `paths`, `diff` and the name of the format. -/
def readCheck? (paths : List String) (diff : Bool) (format : String) : List String → Option Check
  | [] => (ReportFormat.ofName? format).map fun f => ⟨paths, diff, f⟩
  | argument :: rest =>
    if argument = "--" then (ReportFormat.ofName? format).map fun f => ⟨paths ++ rest, diff, f⟩
    else if argument = "--diff" then readCheck? paths true format rest
    else if argument = "--format" then
      match rest with
      | value :: others => readCheck? paths diff value others
      | [] => none
    else if isOption argument then
      match formatValue? argument with
      | some value => readCheck? paths diff value rest
      | none => none
    else readCheck? (paths ++ [argument]) diff format rest

/-- Reads the arguments of the program. -/
def Request.ofArguments? (arguments : List String) : Option Request :=
  match fromCommand? arguments with
  | some ["rules"] => some .listRules
  | some ("check" :: a :: rest) => (readCheck? [] false "text" (a :: rest)).map .check
  | _ => none

end MarkLint.Command

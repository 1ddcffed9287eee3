import MarkLint.Report
import MarkLint.Setting
import MarkLint.Node.Walk

/-!
# The contract of a rule

A rule carries its raw option. Reading the option either fails or gives a `Setup`: the accepted value and what the rule
then does with a document, a finite list of `Step`s. `Rule.check` plays the steps against a reporter: it stops at the
first failure, which stays the last diagnostic, and an unexpected breakdown, of the steps or of the option's reader,
yields no diagnostics at all.
-/

namespace MarkLint

/-- What a rule does next. -/
inductive Step where
  | message (text : String) (place : Place)
  | fail (text : String)
  | breakDown (reason : String)

/-- What a rule does once its option is accepted: the value it read, and its steps on a document. -/
structure Setup where
  value : Option Scalar
  steps : Node → Location → List Step

/-- A rule with its raw option. -/
structure Rule where
  id : String
  summary : String
  optionKey : Option String
  read : Option Scalar → Except OptionFault Setup
  option : Option Scalar := none

namespace Rule

/-- Option values by their names. -/
abbrev Options := List (String × Scalar)

/-- The option that a rule finds under its key. -/
def lookup? (r : Rule) (options : Options) : Option Scalar :=
  r.optionKey.bind fun key => options.lookup key

/-- The rule with its option taken from the given ones, if its key is among them. -/
def configure (r : Rule) (options : Options) : Rule :=
  match r.lookup? options with
  | some value => { r with option := some value }
  | none => r

/-- Reads the option of a rule that takes none. -/
def readNothing (id : String) (steps : Node → Location → List Step) (option : Option Scalar) :
    Except OptionFault Setup :=
  match option with
  | none => .ok ⟨none, steps⟩
  | some value => .error (.refuse "Unexpected option `" value ("`: " ++ id ++ " takes none"))

/-- Plays steps against a reporter, up to the first failure. -/
def play (reporter : Reporter) : List Step → Except String (List Diagnostic)
  | [] => .ok reporter.messages
  | .message text place :: rest => play (reporter.message text place) rest
  | .fail text :: _ => .ok (reporter.fail text).messages
  | .breakDown reason :: _ => .error reason

/-- The diagnostics of a rule for a document, in the order in which they were reported. A refused option gives a single
fatal diagnostic; an error is the reason of an unexpected breakdown. -/
def check (r : Rule) (tree : Node) (source : List Char) : Except String (List Diagnostic) :=
  let reporter := Reporter.ofSource source r.id
  match r.read r.option with
  | .error (.refused text) => .ok (reporter.fail text).messages
  | .error (.brokeDown reason) => .error reason
  | .ok setup => play reporter (setup.steps tree reporter.location)

end Rule
end MarkLint

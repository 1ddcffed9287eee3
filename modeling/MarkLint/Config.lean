import MarkLint.Rule
import MarkLint.Text.Case
import MarkLint.Toml.Value

/-!
# Configuration

Which rules run, and with which options. A `Config` is read from the table `tool.margot` of a TOML document; entries
of an unexpected shape are left out with a warning. `Config.activeRules` applies it to the rules, and
`Config.problems` lists the entries that no rule can use.
-/

namespace MarkLint

/-- The rules to run, the rules not to run, and options by rule. Without `select` all rules are selected. -/
structure Config where
  select : Option (List String) := none
  ignore : List String := []
  ruleOptions : List (String × Rule.Options) := []
  deriving Repr

namespace Config

/-! ## Reading -/

/-- Why a table cannot be read: `tool`, or `margot` in it, is no table. -/
inductive ShapeError where
  | notATable (key : String)
  deriving Repr, DecidableEq

/-- An entry that no rule can use. -/
inductive Problem where
  | unknownSelected (ruleId : String)
  | unknownIgnored (ruleId : String)
  | unknownConfigured (ruleId : String)
  | takesNoOptions (ruleId option : String)
  | unknownOption (ruleId option expected : String)
  deriving Repr, DecidableEq

/-- The wording of a problem. -/
def Problem.message : Problem → String
  | unknownSelected ruleId => "Unknown rule id `" ++ ruleId ++ "` in select"
  | unknownIgnored ruleId => "Unknown rule id `" ++ ruleId ++ "` in ignore"
  | unknownConfigured ruleId => "Unknown rule id `" ++ ruleId ++ "` in rules"
  | takesNoOptions ruleId option => "Rule `" ++ ruleId ++ "` takes no options, got `" ++ option ++ "`"
  | unknownOption ruleId option expected =>
    "Unknown option `" ++ option ++ "` for rule `" ++ ruleId ++ "`: use `" ++ expected ++ "`"

/-- A warning: about an entry of an unexpected shape, about a file that is not TOML, or about a problem. -/
inductive Warning where
  | notRuleIds (key : String)
  | rulesNotATable
  | ruleNotATable (ruleId : String)
  | optionNotAScalar (ruleId option : String)
  | unreadable
  | problem (p : Problem)
  deriving Repr, DecidableEq

/-- The wording of a warning. -/
def Warning.message : Warning → String
  | notRuleIds key => "Ignoring tool.margot." ++ key ++ ": expected a list of rule ids"
  | rulesNotATable => "Ignoring tool.margot.rules: expected a table of rule tables"
  | ruleNotATable ruleId => "Ignoring tool.margot.rules." ++ ruleId ++ ": expected a table"
  | optionNotAScalar ruleId option =>
    "Ignoring tool.margot.rules." ++ ruleId ++ "." ++ option ++ ": options must be scalars"
  | unreadable => "Ignoring unreadable pyproject.toml"
  | problem p => "Configuration: " ++ p.message

/-- A name in small letters. -/
def lowerName (s : String) : String := String.ofList (Text.lower s.toList)

/-- The texts of an array of texts. -/
def texts? : List Toml.Value → Option (List String)
  | [] => some []
  | .text s :: rest => (texts? rest).map (s :: ·)
  | _ :: _ => none

/-- The rule names, in small letters, that a section lists under a key. -/
def ruleIds (section_ : Toml.Table) (key : String) : Option (List String) × List Warning :=
  match section_.lookup key with
  | none => (none, [])
  | some (.array items) =>
    match texts? items with
    | some names => (some (names.map lowerName), [])
    | none => (none, [.notRuleIds key])
  | some _ => (none, [.notRuleIds key])

/-- A scalar of a TOML document. -/
def scalar? : Toml.Value → Option Scalar
  | .text s => some (.text s)
  | .int n => some (.int n)
  | .bool b => some (.bool b)
  | _ => none

/-- The options of one rule. -/
def options (ruleId : String) : Toml.Table → Rule.Options × List Warning
  | [] => ([], [])
  | (key, value) :: rest =>
    let (more, warnings) := options ruleId rest
    match scalar? value with
    | some s => ((key, s) :: more, warnings)
    | none => (more, .optionNotAScalar ruleId key :: warnings)

/-- The options with those of a rule put in; earlier ones under the same name are replaced. -/
def putOptions (all : List (String × Rule.Options)) (ruleId : String) (opts : Rule.Options) :
    List (String × Rule.Options) :=
  match all with
  | [] => [(ruleId, opts)]
  | (id, old) :: rest => if id = ruleId then (id, opts) :: rest else (id, old) :: putOptions rest ruleId opts

/-- Puts the options of all rules of a table in. -/
def collectOptions (all : List (String × Rule.Options)) : Toml.Table → List (String × Rule.Options) × List Warning
  | [] => (all, [])
  | (ruleId, .table entries) :: rest =>
    let (opts, warnings) := options ruleId entries
    let (all, more) := collectOptions (putOptions all (lowerName ruleId) opts) rest
    (all, warnings ++ more)
  | (ruleId, _) :: rest =>
    let (all, more) := collectOptions all rest
    (all, .ruleNotATable ruleId :: more)

/-- The options under rule names in small letters. -/
def ruleOptionsOf (raw : Option Toml.Value) : List (String × Rule.Options) × List Warning :=
  match raw with
  | none => ([], [])
  | some (.table entries) => collectOptions [] entries
  | some _ => ([], [.rulesNotATable])

/-- The table under a key of a table, empty if there is none. -/
def subtable (t : Toml.Table) (key : String) : Except ShapeError Toml.Table :=
  match t.lookup key with
  | none => .ok []
  | some (.table inner) => .ok inner
  | some _ => .error (.notATable key)

/-- The configuration in a TOML document, and the warnings about its entries. -/
def ofDocument (document : Toml.Table) : Except ShapeError (Config × List Warning) := do
  let tool ← subtable document "tool"
  let section_ ← subtable tool "margot"
  let (select, selectWarnings) := ruleIds section_ "select"
  let (ignore, ignoreWarnings) := ruleIds section_ "ignore"
  let (ruleOptions, ruleWarnings) := ruleOptionsOf (section_.lookup "rules")
  return (⟨select, ignore.getD [], ruleOptions⟩, selectWarnings ++ ignoreWarnings ++ ruleWarnings)

/-! ## Use -/

/-- Names in alphabetical order, each of them once. -/
def sorted (names : List String) : List String := names.eraseDups.mergeSort fun a b => !(b < a)

/-- The rule with a name; of several the last. -/
def rule? (rules : List Rule) (id : String) : Option Rule := rules.reverse.find? (·.id == id)

/-- The listed names that no rule has, in alphabetical order. -/
def unknownIds (rules : List Rule) (ids : List String) : List String :=
  (sorted ids).filter fun id => (rule? rules id).isNone

/-- The problem with an option of a rule, if there is one. -/
def optionProblem (r : Rule) (ruleId option : String) : Option Problem :=
  match r.optionKey with
  | none => some (.takesNoOptions ruleId option)
  | some expected => if option = expected then none else some (.unknownOption ruleId option expected)

/-- The problems with the options of a rule. -/
def optionProblems (rules : List Rule) (ruleId : String) (opts : Rule.Options) : List Problem :=
  match rule? rules ruleId with
  | none => [.unknownConfigured ruleId]
  | some r => (sorted (opts.map Prod.fst)).filterMap (optionProblem r ruleId)

/-- The entries of a configuration that no rule can use, in an order that does not depend on the order of the entries.
-/
def problems (rules : List Rule) (config : Config) : List Problem :=
  (unknownIds rules (config.select.getD [])).map .unknownSelected
    ++ (unknownIds rules config.ignore).map .unknownIgnored
    ++ (config.ruleOptions.mergeSort fun a b => !(b.1 < a.1)).flatMap fun (id, opts) => optionProblems rules id opts

/-- Does the configuration let a rule run? -/
def allows (config : Config) (ruleId : String) : Bool :=
  config.select.all (·.contains ruleId) && !config.ignore.contains ruleId

/-- The rules that may run. -/
def filterRules (rules : List Rule) (config : Config) : List Rule := rules.filter fun r => config.allows r.id

/-- The rules with the options that the configuration has for them. -/
def configureRules (rules : List Rule) (config : Config) : List Rule :=
  rules.map fun r => r.configure ((config.ruleOptions.lookup r.id).getD [])

/-- The rules that run, with their options. -/
def activeRules (rules : List Rule) (config : Config) : List Rule := configureRules (filterRules rules config) config

/-- The warnings about entries that no rule can use. -/
def activeWarnings (rules : List Rule) (config : Config) : List Warning := (problems rules config).map .problem

end Config
end MarkLint

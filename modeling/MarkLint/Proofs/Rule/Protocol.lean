import MarkLint.Analysis
import Mathlib.Data.List.Basic

/-!
# What a check returns

The steps of a rule are message calls up to a point where they end, fail or break down (`exists_calls`). Each call gives
a warning at its place, unless it is about a generated node (`play_calls`). So a check returns the warnings of the calls
and then the failure, if there is one (`check_protocol`): at most one diagnostic is fatal, and it is the last. A rule
that breaks down, on its option or on a document, gives nothing, its name is noted, and the other rules give what they
give without it (`runRules_eq`).
-/

namespace MarkLint

/-! ## Places and calls -/

/-- Where a place starts, if known. -/
def Place.start? : Place → Option Point
  | .node n => n.start?
  | .span p => p.start
  | .point p => some p
  | .nowhere => none

/-- Where a place stops, if known; a point does not. -/
def Place.stop? : Place → Option Point
  | .node n => n.stop?
  | .span p => p.stop
  | .point _ => none
  | .nowhere => none

/-- Is the place a node that has no reliable place in the text? -/
def Place.isGenerated (loc : Location) : Place → Bool
  | .node n => n.isGenerated (some loc)
  | _ => false

/-- A call that reports a message. -/
structure Call where
  text : String
  place : Place

namespace Call

/-- The step that makes the call. -/
def step (c : Call) : Step := .message c.text c.place

/-- The warning of a rule at the place of the call. -/
def warning (id : String) (c : Call) : Diagnostic where
  ruleId := id
  message := c.text
  start := c.place.start?
  stop := c.place.stop?
  severity := .warning
  fatal := false

/-- The warnings of several calls, in their order. Calls about generated nodes give none. -/
def warnings (loc : Location) (id : String) (calls : List Call) : List Diagnostic :=
  (calls.filter fun c => !c.place.isGenerated loc).map (warning id)

end Call

/-- The fatal diagnostic of a rule: an error without a place. -/
def Diagnostic.ofFailure (id text : String) : Diagnostic where
  ruleId := id
  message := text
  start := none
  stop := none
  severity := .error
  fatal := true

open Call

/-! ## One step -/

/-- A call about a generated node gives nothing, any other gives its warning. -/
theorem Reporter.warning?_eq (reporter : Reporter) (c : Call) : reporter.warning? c.text c.place =
    if c.place.isGenerated reporter.location then none else some (c.warning reporter.ruleId) := by
  obtain ⟨text, place⟩ := c
  cases place with
  | node n =>
    unfold Reporter.warning? Reporter.ends? Reporter.isGenerated Place.isGenerated
    by_cases h : n.isGenerated (some reporter.location) = true
    · simp [h]
    · simp [h, warning, Place.start?, Place.stop?]
  | span p => rfl
  | point p => rfl
  | nowhere => rfl

theorem Reporter.messages_message (reporter : Reporter) (c : Call) : (reporter.message c.text c.place).messages =
    reporter.messages ++ warnings reporter.location reporter.ruleId [c] := by
  unfold Reporter.message warnings
  rw [reporter.warning?_eq c]
  by_cases h : c.place.isGenerated reporter.location = true
  · simp [h]
  · simp [h]

/-! ## Runs -/

namespace Rule

/-- Steps are calls up to the end, a failure or a breakdown. -/
theorem exists_calls (steps : List Step) : ∃ (calls : List Call) (rest : List Step),
    steps = calls.map Call.step ++ rest ∧
    (rest = [] ∨ (∃ text more, rest = .fail text :: more) ∨ ∃ reason more, rest = .breakDown reason :: more) := by
  induction steps with
  | nil => exact ⟨[], [], rfl, Or.inl rfl⟩
  | cons s steps ih =>
    cases s with
    | message text place =>
      obtain ⟨calls, rest, hsteps, hrest⟩ := ih
      exact ⟨⟨text, place⟩ :: calls, rest, by simp [hsteps, Call.step], hrest⟩
    | fail text => exact ⟨[], _, rfl, Or.inr (Or.inl ⟨text, steps, rfl⟩)⟩
    | breakDown reason => exact ⟨[], _, rfl, Or.inr (Or.inr ⟨reason, steps, rfl⟩)⟩

/-- Steps that are calls or break down for one reason are calls up to a breakdown, if some step breaks down. -/
theorem exists_calls_of_breakDown {steps : List Step} {reason : String}
    (hsteps : ∀ s ∈ steps, (∃ c : Call, s = c.step) ∨ s = .breakDown reason) (hbreak : .breakDown reason ∈ steps) :
    ∃ (calls : List Call) (more : List Step), steps = calls.map Call.step ++ .breakDown reason :: more := by
  obtain ⟨calls, rest, rfl, rfl | ⟨text, more, rfl⟩ | ⟨other, more, rfl⟩⟩ := exists_calls steps
  · obtain ⟨c, -, hc⟩ := List.mem_map.1 (by simpa using hbreak)
    cases hc
  · rcases hsteps (.fail text) (by simp) with ⟨c, hc⟩ | hc
    · cases hc
    · cases hc
  · rcases hsteps (.breakDown other) (by simp) with ⟨c, hc⟩ | hc
    · cases hc
    · obtain rfl := Step.breakDown.inj hc
      exact ⟨calls, more, rfl⟩

/-- Calls add their warnings and leave the rest of the steps to be played. -/
theorem play_calls (calls : List Call) (rest : List Step) : ∀ reporter : Reporter,
    play reporter (calls.map Call.step ++ rest) = play
      { reporter with messages := reporter.messages ++ warnings reporter.location reporter.ruleId calls } rest := by
  induction calls with
  | nil =>
    intro reporter
    simp [warnings]
  | cons c calls ih =>
    intro reporter
    have hsplit : warnings reporter.location reporter.ruleId (c :: calls) =
        warnings reporter.location reporter.ruleId [c] ++ warnings reporter.location reporter.ruleId calls := by
      simp only [warnings, ← List.map_append, ← List.filter_append, List.singleton_append]
    rw [List.map_cons, List.cons_append, Call.step, play, ih, reporter.messages_message, hsplit, List.append_assoc]
    rfl

variable {r : Rule} {tree : Node} {source : List Char}

/-- A refused option gives a single fatal diagnostic. -/
theorem check_of_refused {text : String} (h : r.read r.option = .error (.refused text)) :
    r.check tree source = .ok [.ofFailure r.id text] := by
  simp only [check, h]
  rfl

/-- A breakdown on the option is not caught. -/
theorem check_of_brokeDown {reason : String} (h : r.read r.option = .error (.brokeDown reason)) :
    r.check tree source = .error reason := by
  simp only [check, h]

/-- With an accepted option a check plays the steps of the rule. -/
theorem check_eq_play {setup : Setup} (h : r.read r.option = .ok setup) :
    r.check tree source = play (Reporter.ofSource source r.id) (setup.steps tree (Location.ofText source)) := by
  simp only [check, h]
  rfl

/-- A check plays what follows the calls, with their warnings already collected. -/
theorem check_of_accepted {setup : Setup} {calls : List Call} {rest : List Step} (h : r.read r.option = .ok setup)
    (hsteps : setup.steps tree (Location.ofText source) = calls.map Call.step ++ rest) : r.check tree source =
      play ⟨Location.ofText source, r.id, warnings (Location.ofText source) r.id calls⟩ rest := by
  rw [check_eq_play h, hsteps, play_calls]
  rfl

/-- A rule whose steps are calls about places, none of them a generated node, returns the warning of each call. -/
theorem check_of_calls {setup : Setup} {calls : List Call} (h : r.read r.option = .ok setup)
    (hsteps : setup.steps tree (Location.ofText source) = calls.map Call.step)
    (hplaces : ∀ c ∈ calls, c.place.isGenerated (Location.ofText source) = false) :
    r.check tree source = .ok (calls.map (warning r.id)) := by
  have hkept : calls.filter (fun c => !c.place.isGenerated (Location.ofText source)) = calls :=
    List.filter_eq_self.2 fun c hc => by rw [hplaces c hc]; rfl
  rw [← List.append_nil (List.map Call.step _)] at hsteps
  rw [check_of_accepted h hsteps, play, warnings, hkept]

/-- A check returns the warnings of some calls, with at most a failure after them. -/
theorem exists_of_check_eq_ok {ds : List Diagnostic} (h : r.check tree source = .ok ds) : ∃ calls failures,
    ds = warnings (Location.ofText source) r.id calls ++ failures ∧
      (failures = [] ∨ ∃ text, failures = [.ofFailure r.id text]) := by
  cases hread : r.read r.option with
  | error fault =>
    cases fault with
    | refused text =>
      rw [check_of_refused hread] at h
      cases h
      exact ⟨[], _, rfl, Or.inr ⟨text, rfl⟩⟩
    | brokeDown reason =>
      rw [check_of_brokeDown hread] at h
      cases h
  | ok setup =>
    obtain ⟨calls, rest, hsteps, hrest⟩ := exists_calls (setup.steps tree (Location.ofText source))
    rw [check_of_accepted hread hsteps] at h
    rcases hrest with rfl | ⟨text, more, rfl⟩ | ⟨reason, more, rfl⟩
    · cases h
      exact ⟨calls, [], (List.append_nil _).symm, Or.inl rfl⟩
    · cases h
      exact ⟨calls, _, rfl, Or.inr ⟨text, rfl⟩⟩
    · cases h

/-- All diagnostics of a check carry the name of the rule. -/
theorem ruleId_of_mem_check {ds : List Diagnostic} (h : r.check tree source = .ok ds) {d : Diagnostic} (hd : d ∈ ds) :
    d.ruleId = r.id := by
  obtain ⟨calls, failures, rfl, hfailures⟩ := exists_of_check_eq_ok h
  rcases List.mem_append.1 hd with hd | hd
  · obtain ⟨c, -, rfl⟩ := List.mem_map.1 hd
    rfl
  · rcases hfailures with rfl | ⟨text, rfl⟩
    · cases hd
    · rw [List.mem_singleton.1 hd]
      rfl

/-- Only the last diagnostic of a check can be fatal. -/
theorem fatal_of_mem_dropLast {ds : List Diagnostic} (h : r.check tree source = .ok ds) {d : Diagnostic}
    (hd : d ∈ ds.dropLast) : d.fatal = false := by
  have hwarnings : ∀ calls, ∀ d ∈ warnings (Location.ofText source) r.id calls, d.fatal = false := by
    intro calls d hd
    obtain ⟨c, -, rfl⟩ := List.mem_map.1 hd
    rfl
  obtain ⟨calls, failures, rfl, rfl | ⟨text, rfl⟩⟩ := exists_of_check_eq_ok h
  · rw [List.append_nil] at hd
    exact hwarnings calls d (List.dropLast_subset _ hd)
  · rw [List.dropLast_concat] at hd
    exact hwarnings calls d hd

/-- A check breaks down only if the rule does, on its option or after calls and before any failure. -/
theorem exists_of_check_eq_error {reason : String} (h : r.check tree source = .error reason) :
    r.read r.option = .error (.brokeDown reason) ∨
    ∃ (setup : Setup) (calls : List Call) (more : List Step), r.read r.option = .ok setup ∧
      setup.steps tree (Location.ofText source) = calls.map Call.step ++ .breakDown reason :: more := by
  cases hread : r.read r.option with
  | error fault =>
    cases fault with
    | refused text =>
      rw [check_of_refused hread] at h
      cases h
    | brokeDown other =>
      rw [check_of_brokeDown hread] at h
      cases h
      exact Or.inl rfl
  | ok setup =>
    obtain ⟨calls, rest, hsteps, hrest⟩ := exists_calls (setup.steps tree (Location.ofText source))
    rw [check_of_accepted hread hsteps] at h
    rcases hrest with rfl | ⟨text, more, rfl⟩ | ⟨other, more, rfl⟩
    · cases h
    · cases h
    · cases h
      exact Or.inr ⟨setup, calls, more, rfl, hsteps⟩

end Rule

/-! ## Several rules -/

namespace Analysis

/-- What a rule reports on a document; nothing if it breaks down. -/
def reports (document : Document) (r : Rule) : List Diagnostic :=
  (r.check document.tree document.source).toOption.getD []

/-- Does a rule break down on a document? -/
def breaksDown (document : Document) (r : Rule) : Bool := !(r.check document.tree document.source).isOk

theorem reports_of_breaksDown {document : Document} {r : Rule} (h : breaksDown document r = true) :
    reports document r = [] := by
  unfold breaksDown at h
  unfold reports
  cases hcheck : r.check document.tree document.source with
  | error reason => rfl
  | ok ds =>
    rw [hcheck] at h
    cases h

theorem runRule_eq (document : Document) (r : Rule) :
    runRule document r = ⟨reports document r, if breaksDown document r then [r.id] else []⟩ := by
  unfold runRule reports breaksDown
  cases r.check document.tree document.source <;> rfl

/-- The findings of several rules are their reports, in the order of the rules, and the names of those that break down.
-/
theorem runRules_eq (rules : List Rule) (document : Document) : runRules rules document =
    ⟨rules.flatMap (reports document), (rules.filter (breaksDown document)).map Rule.id⟩ := by
  have hfailed : rules.flatMap (fun r => (runRule document r).failed) =
      (rules.filter (breaksDown document)).map Rule.id := by
    induction rules with
    | nil => rfl
    | cons r rules ih =>
      rw [List.flatMap_cons, ih, runRule_eq]
      by_cases h : breaksDown document r = true
      · simp [h]
      · simp [h]
  rw [runRules, hfailed]
  simp only [runRule_eq]

end Analysis

open Analysis

/-- A rule without an option that takes the same steps on all documents. -/
def scripted (id : String) (steps : List Step) : Rule where
  id := id
  summary := "Takes the given steps."
  optionKey := none
  read := Rule.readNothing id fun _ _ => steps

/-- A warning, a report on a generated node and a failure, after which the rule would go on. -/
def stopping : Rule := scripted "stopping"
  [.message "a" (.point ⟨1, 2, 1⟩), .message "b" (.node { kind := "text" }), .fail "c", .message "d" .nowhere,
    .breakDown "e"]

/-- A warning and a breakdown. -/
def breaking : Rule := scripted "breaking" [.message "a" .nowhere, .breakDown "b"]

end MarkLint

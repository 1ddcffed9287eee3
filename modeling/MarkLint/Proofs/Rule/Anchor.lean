import MarkLint.Proofs.Location
import MarkLint.Proofs.Node.Rounds
import MarkLint.Proofs.Rule.Protocol
import Mathlib.Data.List.Forall2

/-!
# Where rules report

A rule is anchored if each of its steps is a message on a node of the tree, in document order and one at most for each
node, at a place of the text that starts at the node's anchor, unless it comes to a number that cannot be written
(`Rule.Anchored`). With an option that it accepts, its check then gives the warnings at these places, or breaks down at
that number (`Rule.Anchored.check`).
-/

namespace MarkLint

variable {loc : Location}

/-! ## Places that can be reported on -/

/-- The place is in the text and starts at `start`; if it stops, then no earlier. -/
def Place.StartsAt (loc : Location) (start : Point) : Place → Prop
  | .node n => n.isGenerated (some loc) = false ∧ n.start? = some start
  | .span p => Node.isWellFormed (some p) (some loc) = true ∧ p.start = some start
  | .point p => loc.isResolvable p = true ∧ p = start
  | .nowhere => False

/-- The step is a message at a place of the text that starts at `start`. -/
def Step.WarnsAt (loc : Location) (start : Point) (s : Step) : Prop :=
  ∃ text place, s = .message text place ∧ place.StartsAt loc start

theorem Place.StartsAt.warnsAt {place : Place} {start : Point} (h : place.StartsAt loc start) (text : String) :
    (Step.message text place).WarnsAt loc start :=
  ⟨text, place, rfl, h⟩

/-- The offsets in the tree can be written. An offset outside the text is refused with a message that quotes it; of trees
in which this cannot be written the checks of the rules are not described. -/
def Node.HasWritableOffsets (tree : Node) : Prop := ∀ n ∈ tree.preorder, ∀ p ∈ n.position,
  (∀ start ∈ p.start, Text.IsWritable start.offset) ∧ ∀ stop ∈ p.stop, Text.IsWritable stop.offset

instance {tree : Node} : Decidable tree.HasWritableOffsets :=
  inferInstanceAs (Decidable (∀ n ∈ tree.preorder, ∀ p ∈ n.position,
    (∀ start ∈ p.start, Text.IsWritable start.offset) ∧ ∀ stop ∈ p.stop, Text.IsWritable stop.offset))

/-- A fatal diagnostic is an error without a place. Any other is a warning at a place of the text, which stops no
earlier than it starts, if it stops. -/
def Diagnostic.IsReliable (loc : Location) (d : Diagnostic) : Prop :=
  (d.fatal = true ∧ d.severity = .error ∧ d.start = none ∧ d.stop = none) ∨
  (d.fatal = false ∧ d.severity = .warning ∧ ∃ start, d.start = some start ∧ loc.isResolvable start = true ∧
    ∀ stop, d.stop = some stop → loc.isResolvable stop = true ∧ start.offset ≤ stop.offset)

/-- A position that can be reported on has both ends, in their order and on the text. -/
theorem Node.ends_of_isWellFormed {position : Option Position} (h : isWellFormed position (some loc) = true) :
    ∃ start stop, position = some ⟨some start, some stop⟩ ∧ start.offset ≤ stop.offset ∧
      loc.isResolvable start = true ∧ loc.isResolvable stop = true := by
  unfold isWellFormed at h
  split at h
  · rename_i start stop
    split at h
    · cases h
    · rename_i hle
      obtain ⟨hstart, hstop⟩ := Bool.and_eq_true_iff.1 h
      exact ⟨start, stop, rfl, Int.not_lt.1 hle, hstart, hstop⟩
  · cases h

/-- A node that is not generated has both ends, in their order and on the text. -/
theorem Node.ends_of_not_isGenerated {n : Node} (h : n.isGenerated (some loc) = false) :
    ∃ start stop, n.position = some ⟨some start, some stop⟩ ∧ start.offset ≤ stop.offset ∧
      loc.isResolvable start = true ∧ loc.isResolvable stop = true :=
  ends_of_isWellFormed (by simpa [isGenerated] using h)

theorem Node.start?_of_position {n : Node} {start stop : Option Point} (h : n.position = some ⟨start, stop⟩) :
    n.start? = start := by
  rw [Node.start?, h]
  rfl

theorem Node.stop?_of_position {n : Node} {start stop : Option Point} (h : n.position = some ⟨start, stop⟩) :
    n.stop? = stop := by
  rw [Node.stop?, h]
  rfl

/-- A place of the text gives a reliable warning. -/
theorem Place.StartsAt.warning {reporter : Reporter} {place : Place} {start : Point}
    (h : place.StartsAt reporter.location start) (text : String) : ∃ d, reporter.warning? text place = some d ∧
      d.ruleId = reporter.ruleId ∧ d.fatal = false ∧ d.start = some start ∧ d.IsReliable reporter.location := by
  cases place with
  | node n =>
    obtain ⟨hn, hstart⟩ := h
    obtain ⟨a, b, hpos, hle, ha, hb⟩ := Node.ends_of_not_isGenerated hn
    have hends : reporter.ends? (.node n) = some (some a, some b) := by
      simp [Reporter.ends?, Reporter.isGenerated, hn, Node.start?, Node.stop?, hpos]
    obtain rfl : a = start := by simpa [Node.start?, hpos] using hstart
    refine ⟨_, by rw [Reporter.warning?, hends]; rfl, rfl, rfl, rfl,
      Or.inr ⟨rfl, rfl, a, rfl, ha, fun stop hstop => ?_⟩⟩
    cases hstop
    exact ⟨hb, hle⟩
  | span p =>
    obtain ⟨hp, hstart⟩ := h
    obtain ⟨a, b, hpos, hle, ha, hb⟩ := Node.ends_of_isWellFormed hp
    cases hpos
    cases hstart
    refine ⟨_, rfl, rfl, rfl, rfl, Or.inr ⟨rfl, rfl, _, rfl, ha, fun stop hstop => ?_⟩⟩
    cases hstop
    exact ⟨hb, hle⟩
  | point p =>
    obtain ⟨hp, rfl⟩ := h
    exact ⟨_, rfl, rfl, rfl, rfl, Or.inr ⟨rfl, rfl, p, rfl, hp, fun stop hstop => by cases hstop⟩⟩
  | nowhere => exact h.elim

/-! ## Steps -/

/-- Steps on nodes, each of which warns at the node's anchor. -/
def WarnAll (loc : Location) (anchor : Node → Option Point) : List Node → List Step → Prop :=
  List.Forall₂ fun n s => ∃ start, anchor n = some start ∧ s.WarnsAt loc start

/-- Playing steps that warn at places of the text adds a reliable warning for each of them. -/
theorem Rule.play_warnAll {anchor : Node → Option Point} {nodes : List Node} {steps : List Step}
    (h : WarnAll loc anchor nodes steps) : ∀ {reporter : Reporter}, reporter.location = loc →
    ∃ ds, Rule.play reporter steps = .ok (reporter.messages ++ ds) ∧ ds.map Diagnostic.start = nodes.map anchor ∧
      ∀ d ∈ ds, d.ruleId = reporter.ruleId ∧ d.fatal = false ∧ d.IsReliable loc := by
  induction h with
  | nil =>
    intro reporter _
    exact ⟨[], by rw [Rule.play, List.append_nil], rfl, by simp⟩
  | cons hstep _ ih =>
    intro reporter hloc
    obtain ⟨start, hanchor, text, place, rfl, hplace⟩ := hstep
    rw [← hloc] at hplace
    obtain ⟨d, hd, hid, hfatal, hstart, hreliable⟩ := hplace.warning text
    obtain ⟨ds, hplay, hstarts, hds⟩ := @ih (reporter.message text place) hloc
    refine ⟨d :: ds, ?_, by rw [List.map_cons, List.map_cons, hstart, hanchor, hstarts], fun d' hd' => ?_⟩
    · rw [Rule.play, hplay]
      simp [Reporter.message, hd]
    · rcases List.mem_cons.1 hd' with rfl | hd'
      · exact ⟨hid, hfatal, hloc ▸ hreliable⟩
      · exact hds d' hd'

/-- The steps of a rule on one node: none, or one that warns at the node's anchor. -/
theorem warnAll_flatMap {anchor : Node → Option Point} {f : Node → List Step}
    (h : ∀ n, f n = [] ∨ ∃ s start, f n = [s] ∧ anchor n = some start ∧ s.WarnsAt loc start) :
    ∀ nodes : List Node, ∃ sub, sub.Sublist nodes ∧ WarnAll loc anchor sub (nodes.flatMap f)
  | [] => ⟨[], List.Sublist.refl _, .nil⟩
  | n :: rest => by
    obtain ⟨sub, hsub, hwarn⟩ := warnAll_flatMap h rest
    rw [List.flatMap_cons]
    rcases h n with hn | ⟨s, start, hn, hanchor, hs⟩
    · exact ⟨sub, hsub.cons n, by rwa [hn]⟩
    · exact ⟨n :: sub, hsub.cons_cons n, by rw [hn]; exact .cons ⟨start, hanchor, hs⟩ hwarn⟩

/-! ## Anchored rules -/

/-- With any option that it accepts, the rule warns on nodes of the tree in document order, at their anchors, or it
breaks down after some calls, exactly if it is `stuck` on a number that cannot be written. -/
def Rule.Anchored (r : Rule) (stuck : Option Scalar → Node → Location → Prop)
    (anchor : Location → Node → Option Point) : Prop :=
  ∀ option setup, r.read option = .ok setup → ∀ tree loc,
    (¬ stuck option tree loc ∧
      ∃ nodes : List Node, nodes.Sublist tree.preorder ∧ WarnAll loc (anchor loc) nodes (setup.steps tree loc)) ∨
    (stuck option tree loc ∧ ∃ (calls : List Call) (more : List Step),
      setup.steps tree loc = calls.map Call.step ++ .breakDown Text.tooLong :: more)

/-- A rule that never comes to such a number. -/
def Rule.neverStuck : Option Scalar → Node → Location → Prop := fun _ _ _ => False

/-- A rule that reads a setting takes the steps that go with the setting. -/
theorem Rule.steps_of_map {r : Rule} {P : (Node → Location → List Step) → Prop} {β : Type}
    {setting : Option Scalar → Except OptionFault β} {value : β → Option Scalar}
    {steps : β → Node → Location → List Step} (hread : ∀ option, r.read option = (setting option).map fun b =>
      ⟨value b, steps b⟩) (hsteps : ∀ b, P (steps b)) {option : Option Scalar} {setup : Setup}
    (h : r.read option = .ok setup) : P setup.steps := by
  rw [hread] at h
  cases hb : setting option with
  | error e =>
    rw [hb] at h
    cases h
  | ok b =>
    rw [hb] at h
    cases h
    exact hsteps b

/-- A rule without an option takes its only steps. -/
theorem Rule.steps_of_readNothing {r : Rule} {P : (Node → Location → List Step) → Prop} {id : String}
    {steps : Node → Location → List Step} (hread : r.read = Rule.readNothing id steps) (hsteps : P steps)
    {option : Option Scalar} {setup : Setup} (h : r.read option = .ok setup) : P setup.steps := by
  rw [hread] at h
  cases option with
  | some value => cases h
  | none =>
    cases h
    exact hsteps

/-- A rule that reads a setting is anchored if its steps are, whatever the setting. -/
theorem Rule.anchored_of_map {r : Rule} {anchor : Location → Node → Option Point} {β : Type}
    {setting : Option Scalar → Except OptionFault β} {value : β → Option Scalar}
    {steps : β → Node → Location → List Step} (hread : ∀ option, r.read option = (setting option).map fun b =>
      ⟨value b, steps b⟩) (hsteps : ∀ b tree loc, ∃ nodes, nodes.Sublist tree.preorder ∧
      WarnAll loc (anchor loc) nodes (steps b tree loc)) : r.Anchored neverStuck anchor := fun _ _ hsetup tree loc =>
  Or.inl ⟨fun h => h, Rule.steps_of_map (P := fun steps => ∀ tree loc, ∃ nodes, nodes.Sublist tree.preorder ∧
    WarnAll loc (anchor loc) nodes (steps tree loc)) hread hsteps hsetup tree loc⟩

/-- A rule without an option is anchored if its steps are. -/
theorem Rule.anchored_of_readNothing {r : Rule} {anchor : Location → Node → Option Point} {id : String}
    {steps : Node → Location → List Step} (hread : r.read = Rule.readNothing id steps)
    (hsteps : ∀ tree loc, ∃ nodes, nodes.Sublist tree.preorder ∧ WarnAll loc (anchor loc) nodes (steps tree loc)) :
    r.Anchored neverStuck anchor := fun _ _ hsetup tree loc =>
  Or.inl ⟨fun h => h, Rule.steps_of_readNothing (P := fun steps => ∀ tree loc, ∃ nodes, nodes.Sublist tree.preorder ∧
    WarnAll loc (anchor loc) nodes (steps tree loc)) hread hsteps hsetup tree loc⟩

namespace Rule.Anchored

variable {r : Rule} {stuck stuck' : Option Scalar → Node → Location → Prop} {anchor : Location → Node → Option Point}
  {option : Option Scalar} {setup : Setup}

theorem congr_stuck (h : r.Anchored stuck anchor)
    (hstuck : ∀ option tree loc, stuck option tree loc ↔ stuck' option tree loc) : r.Anchored stuck' anchor := by
  obtain rfl : stuck = stuck' := funext fun option => funext fun tree => funext fun loc =>
    propext (hstuck option tree loc)
  exact h

/-- With an option that it accepts, the check of an anchored rule gives reliable diagnostics, one at the anchor of each
of some nodes in document order and none of them fatal, if the rule is not stuck. -/
theorem check (h : r.Anchored stuck anchor) (hread : r.read option = .ok setup) (tree : Node) (source : List Char)
    (hstuck : ¬ stuck option tree (Location.ofText source)) :
    ∃ ds, ({ r with option := option } : Rule).check tree source = .ok ds ∧
      (∀ d ∈ ds, d.ruleId = r.id ∧ d.fatal = false ∧ d.IsReliable (Location.ofText source)) ∧
      ∃ nodes : List Node, nodes.Sublist tree.preorder ∧
        ds.map Diagnostic.start = nodes.map (anchor (Location.ofText source)) := by
  rcases h option setup hread tree (Location.ofText source) with ⟨-, nodes, hnodes, hwarn⟩ | ⟨hbreaks, -⟩
  · obtain ⟨ds, hplay, hstarts, hds⟩ := @Rule.play_warnAll _ _ _ _ hwarn (Reporter.ofSource source r.id) rfl
    refine ⟨ds, ?_, hds, nodes, hnodes, hstarts⟩
    rw [Rule.check_eq_play hread]
    exact hplay
  · exact absurd hbreaks hstuck

/-- If it is stuck, then it breaks down. -/
theorem check_of_stuck (h : r.Anchored stuck anchor) (hread : r.read option = .ok setup) (tree : Node)
    (source : List Char) (hstuck : stuck option tree (Location.ofText source)) :
    ({ r with option := option } : Rule).check tree source = .error Text.tooLong := by
  rcases h option setup hread tree (Location.ofText source) with ⟨hends, -⟩ | ⟨-, calls, more, hsteps⟩
  · exact absurd hstuck hends
  · rw [Rule.check_of_accepted hread hsteps]
    rfl

end Rule.Anchored

end MarkLint

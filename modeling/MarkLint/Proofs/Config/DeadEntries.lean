import MarkLint.Proofs.Config.Names
import MarkLint.Rule.All
import Mathlib.Data.List.Forall2

/-!
# Entries that no rule can use

An entry of a configuration is dead if it names no rule, or an option that its rule does not read. Each dead entry has
exactly one problem (`nodup_entries`, `mem_entries`), whatever the order of the entries (`problems_congr`). Without its
dead entries a configuration has no problems (`problems_cleaned`) and gives the same rules the same options
(`activeRules_cleaned`). What is left is in use (`ruleId_mem_of_has`, `configure_of_mem`).
-/

namespace MarkLint.Config

/-! ## Entries -/

/-- An entry of a configuration: a name in `select` or in `ignore`, the table of a rule, or an option in a table. -/
inductive Entry where
  | selected (id : String)
  | ignored (id : String)
  | table (id : String)
  | option (id key : String)
  deriving Repr, DecidableEq

/-- The rule that an entry is about. -/
def Entry.ruleId : Entry → String
  | selected id => id
  | ignored id => id
  | table id => id
  | option id _ => id

/-- The entry that a problem is about. -/
def Problem.entry : Problem → Entry
  | unknownSelected id => .selected id
  | unknownIgnored id => .ignored id
  | unknownConfigured id => .table id
  | takesNoOptions id key => .option id key
  | unknownOption id key _ => .option id key

/-- Is the entry in the configuration? -/
def Has (config : Config) : Entry → Prop
  | .selected id => id ∈ config.select.getD []
  | .ignored id => id ∈ config.ignore
  | .table id => id ∈ config.ruleOptions.map Prod.fst
  | .option id key => ∃ opts, (id, opts) ∈ config.ruleOptions ∧ key ∈ opts.map Prod.fst

/-- No rule can use the entry: it names none, or it is an option that its rule does not read. The options in the table
of an unknown rule are not entries of their own. -/
def Entry.IsDead (rules : List Rule) : Entry → Prop
  | .option id key => ∃ r ∈ rules, r.id = id ∧ r.optionKey ≠ some key
  | e => e.ruleId ∉ rules.map Rule.id

/-- The configuration without the given entries. -/
def without (config : Config) (entries : List Entry) : Config where
  select := config.select.map fun ids => ids.filter fun id => Entry.selected id ∉ entries
  ignore := config.ignore.filter fun id => Entry.ignored id ∉ entries
  ruleOptions := (config.ruleOptions.filter fun p => Entry.table p.1 ∉ entries).map fun p =>
    (p.1, p.2.filter fun o => Entry.option p.1 o.1 ∉ entries)

/-- The entries that have a problem. -/
def entries (rules : List Rule) (config : Config) : List Entry := (problems rules config).map Problem.entry

/-- The configuration without the entries that have a problem. -/
def cleaned (rules : List Rule) (config : Config) : Config := config.without (entries rules config)

/-- Each rule has one table at most, and each option stands once in it. -/
structure IsKeyed (config : Config) : Prop where
  tables : (config.ruleOptions.map Prod.fst).Nodup
  options : ∀ p ∈ config.ruleOptions, (p.2.map Prod.fst).Nodup

/-- The same entries listed in another order. -/
structure Reordered (config config' : Config) : Prop where
  select : Option.Rel (fun ids ids' => ∀ id, id ∈ ids ↔ id ∈ ids') config.select config'.select
  ignore : ∀ id, id ∈ config.ignore ↔ id ∈ config'.ignore
  ruleOptions : ∃ tables, config.ruleOptions.Perm tables ∧
    List.Forall₂ (fun p q => p.1 = q.1 ∧ p.2.Perm q.2) tables config'.ruleOptions

variable {rules : List Rule} {config : Config} {r : Rule} {id : String}

/-! ## Rules by their names -/

theorem rule?_eq_none_iff : rule? rules id = none ↔ id ∉ rules.map Rule.id := by
  simp [rule?]

theorem rule?_eq_some_iff (hids : (rules.map Rule.id).Nodup) : rule? rules id = some r ↔ r ∈ rules ∧ r.id = id := by
  constructor
  · intro h
    have hmem := List.mem_of_find?_eq_some h
    have hid := List.find?_some h
    exact ⟨List.mem_reverse.1 hmem, by simpa using hid⟩
  · rintro ⟨hr, rfl⟩
    cases hfound : rule? rules r.id with
    | none => exact absurd (List.mem_map_of_mem hr) (rule?_eq_none_iff.1 hfound)
    | some found =>
      have hmem := List.mem_reverse.1 (List.mem_of_find?_eq_some hfound)
      have hid := List.find?_some hfound
      rw [List.inj_on_of_nodup_map hids hmem hr (by simpa using hid)]

/-! ## One problem for each dead entry -/

/-- The entries with a problem in the table of a rule. -/
def tableEntries (rules : List Rule) (id : String) (opts : Rule.Options) : List Entry :=
  match rule? rules id with
  | none => [.table id]
  | some r => ((sorted (opts.map Prod.fst)).filter fun key => r.optionKey ≠ some key).map (Entry.option id)

/-- The option that a rule reads has no problem, any other has one. -/
theorem map_entry_optionProblem (r : Rule) (id key : String) : (optionProblem r id key).map Problem.entry =
    if r.optionKey = some key then none else some (.option id key) := by
  unfold optionProblem
  cases r.optionKey with
  | none => simp [Problem.entry]
  | some expected =>
    by_cases h : key = expected
    · simp [h]
    · simp [h, Ne.symm h, Problem.entry]

theorem map_entry_optionProblems (rules : List Rule) (id : String) (opts : Rule.Options) :
    (optionProblems rules id opts).map Problem.entry = tableEntries rules id opts := by
  unfold optionProblems tableEntries
  cases rule? rules id with
  | none => rfl
  | some r =>
    simp only [List.map_filterMap, map_entry_optionProblem]
    induction sorted (opts.map Prod.fst) with
    | nil => rfl
    | cons key keys ih =>
      by_cases h : r.optionKey = some key
      · simpa [h] using ih
      · simpa [h] using ih

theorem entries_eq (rules : List Rule) (config : Config) : entries rules config =
    (unknownIds rules (config.select.getD [])).map .selected ++ (unknownIds rules config.ignore).map .ignored ++
      (config.ruleOptions.mergeSort fun a b => !(b.1 < a.1)).flatMap fun p => tableEntries rules p.1 p.2 := by
  unfold entries problems
  simp only [List.map_append, List.map_map, List.map_flatMap, map_entry_optionProblems]
  rfl

theorem mem_unknownIds {ids : List String} : id ∈ unknownIds rules ids ↔ id ∈ ids ∧ id ∉ rules.map Rule.id := by
  unfold unknownIds
  rw [List.mem_filter, mem_sorted, Option.isNone_iff_eq_none, rule?_eq_none_iff]

theorem nodup_unknownIds (rules : List Rule) (ids : List String) : (unknownIds rules ids).Nodup :=
  (nodup_sorted ids).filter _

theorem mem_tableEntries (hids : (rules.map Rule.id).Nodup) {opts : Rule.Options} {e : Entry} :
    e ∈ tableEntries rules id opts ↔
      (e = .table id ∨ ∃ key ∈ opts.map Prod.fst, e = .option id key) ∧ e.IsDead rules := by
  unfold tableEntries
  cases hr : rule? rules id with
  | none =>
    have hunknown := rule?_eq_none_iff.1 hr
    constructor
    · intro he
      rw [List.mem_singleton] at he
      subst he
      exact ⟨Or.inl rfl, hunknown⟩
    · rintro ⟨rfl | ⟨key, -, rfl⟩, hdead⟩
      · exact List.mem_singleton_self _
      · obtain ⟨r, hmem, rfl, -⟩ := hdead
        exact absurd (List.mem_map_of_mem hmem) hunknown
  | some r =>
    obtain ⟨hmem, rfl⟩ := (rule?_eq_some_iff hids).1 hr
    constructor
    · intro he
      obtain ⟨key, hkey, rfl⟩ := List.mem_map.1 he
      rw [List.mem_filter, mem_sorted, decide_eq_true_eq] at hkey
      exact ⟨Or.inr ⟨key, hkey.1, rfl⟩, r, hmem, rfl, hkey.2⟩
    · rintro ⟨rfl | ⟨key, hkey, rfl⟩, hdead⟩
      · exact absurd (List.mem_map_of_mem hmem) hdead
      · obtain ⟨s, hs, hid, hne⟩ := hdead
        rw [List.inj_on_of_nodup_map hids hs hmem hid] at hne
        exact List.mem_map_of_mem (List.mem_filter.2 ⟨mem_sorted.2 hkey, by simpa using hne⟩)

/-- The entries with a problem are the dead ones. -/
theorem mem_entries (hids : (rules.map Rule.id).Nodup) {e : Entry} :
    e ∈ entries rules config ↔ config.Has e ∧ e.IsDead rules := by
  rw [entries_eq, List.mem_append, List.mem_append, List.mem_flatMap]
  simp only [List.mem_mergeSort, mem_tableEntries hids, List.mem_map, mem_unknownIds]
  cases e with
  | selected id => simp [Has, Entry.IsDead, Entry.ruleId]
  | ignored id => simp [Has, Entry.IsDead, Entry.ruleId]
  | table id =>
    simp only [Has, List.mem_map]
    constructor
    · rintro ((⟨_, -, h⟩ | ⟨_, -, h⟩) | ⟨p, hp, h | ⟨key, -, h⟩, hdead⟩)
      · cases h
      · cases h
      · cases h
        exact ⟨⟨p, hp, rfl⟩, hdead⟩
      · cases h
    · rintro ⟨⟨p, hp, rfl⟩, hdead⟩
      exact Or.inr ⟨p, hp, Or.inl rfl, hdead⟩
  | option id key =>
    simp only [Has]
    constructor
    · rintro ((⟨_, -, h⟩ | ⟨_, -, h⟩) | ⟨p, hp, h | ⟨key, hkey, h⟩, hdead⟩)
      · cases h
      · cases h
      · cases h
      · cases h
        exact ⟨⟨p.2, hp, List.mem_map.2 hkey⟩, hdead⟩
    · rintro ⟨⟨opts, hopts, hkey⟩, hdead⟩
      exact Or.inr ⟨_, hopts, Or.inr ⟨key, List.mem_map.1 hkey, rfl⟩, hdead⟩

theorem eq_of_mem_tableEntries {opts : Rule.Options} {e : Entry} (he : e ∈ tableEntries rules id opts) :
    e = .table id ∨ ∃ key, e = .option id key := by
  unfold tableEntries at he
  cases hr : rule? rules id with
  | none =>
    rw [hr] at he
    exact Or.inl (List.mem_singleton.1 he)
  | some r =>
    rw [hr] at he
    obtain ⟨key, -, rfl⟩ := List.mem_map.1 he
    exact Or.inr ⟨key, rfl⟩

theorem ruleId_of_mem_tableEntries {opts : Rule.Options} {e : Entry} (he : e ∈ tableEntries rules id opts) :
    e.ruleId = id := by
  rcases eq_of_mem_tableEntries he with rfl | ⟨key, rfl⟩ <;> rfl

theorem nodup_tableEntries (rules : List Rule) (id : String) (opts : Rule.Options) :
    (tableEntries rules id opts).Nodup := by
  unfold tableEntries
  cases rule? rules id with
  | none => exact List.nodup_singleton _
  | some r => exact ((nodup_sorted _).filter _).map fun a b h => by cases h; rfl

/-- No entry has two problems. -/
theorem nodup_entries (hkeyed : config.IsKeyed) : (entries rules config).Nodup := by
  have hselected : ((unknownIds rules (config.select.getD [])).map Entry.selected).Nodup :=
    (nodup_unknownIds _ _).map fun a b h => by cases h; rfl
  have hignored : ((unknownIds rules config.ignore).map Entry.ignored).Nodup :=
    (nodup_unknownIds _ _).map fun a b h => by cases h; rfl
  have htables : ((config.ruleOptions.mergeSort fun a b => !(b.1 < a.1)).flatMap fun p =>
      tableEntries rules p.1 p.2).Nodup := by
    rw [List.nodup_flatMap]
    refine ⟨fun p _ => nodup_tableEntries rules p.1 p.2, ?_⟩
    -- the entries of a table are about its rule, and the tables are about different rules
    have hnames := ((List.mergeSort_perm config.ruleOptions fun a b => !(b.1 < a.1)).map Prod.fst).nodup_iff.2
      hkeyed.tables
    refine (List.pairwise_map.1 hnames).imp fun hne e hp hq => hne ?_
    rw [← ruleId_of_mem_tableEntries hp, ← ruleId_of_mem_tableEntries hq]
  rw [entries_eq, List.nodup_append, List.nodup_append]
  refine ⟨⟨hselected, hignored, ?_⟩, htables, ?_⟩
  · intro e he e' he'
    obtain ⟨id, -, rfl⟩ := List.mem_map.1 he
    obtain ⟨id', -, rfl⟩ := List.mem_map.1 he'
    exact Entry.noConfusion
  · intro e he e' he'
    obtain ⟨p, -, he'⟩ := List.mem_flatMap.1 he'
    rw [List.mem_append, List.mem_map, List.mem_map] at he
    rcases he with ⟨_, -, rfl⟩ | ⟨_, -, rfl⟩
    · rcases eq_of_mem_tableEntries he' with rfl | ⟨key, rfl⟩ <;> exact Entry.noConfusion
    · rcases eq_of_mem_tableEntries he' with rfl | ⟨key, rfl⟩ <;> exact Entry.noConfusion

/-! ## The order of the entries -/

/-- The problems in the table of a rule, given the names of its options in alphabetical order. -/
def keyProblems (rules : List Rule) (p : String × List String) : List Problem :=
  match rule? rules p.1 with
  | none => [.unknownConfigured p.1]
  | some r => p.2.filterMap (optionProblem r p.1)

/-- A table with the names of its options only, in alphabetical order. -/
def tableKeys (p : String × Rule.Options) : String × List String := (p.1, sorted (p.2.map Prod.fst))

theorem flatMap_optionProblems (rules : List Rule) (tables : List (String × Rule.Options)) :
    (tables.mergeSort fun a b => !(b.1 < a.1)).flatMap (fun p => optionProblems rules p.1 p.2) =
      ((tables.map tableKeys).mergeSort fun a b => !(b.1 < a.1)).flatMap (keyProblems rules) := by
  have hsort : ((tables.mergeSort fun a b => !(b.1 < a.1)).map tableKeys) =
      (tables.map tableKeys).mergeSort fun a b => !(b.1 < a.1) := List.map_mergeSort fun _ _ _ _ => rfl
  rw [← hsort, List.flatMap_map]
  rfl

theorem tableKeys_congr {p q : String × Rule.Options} (hid : p.1 = q.1) (hopts : p.2.Perm q.2) :
    tableKeys p = tableKeys q := by
  have hkeys : sorted (p.2.map Prod.fst) = sorted (q.2.map Prod.fst) :=
    sorted_congr fun id => (hopts.map Prod.fst).mem_iff
  rw [tableKeys, tableKeys, hid, hkeys]

theorem mem_getD_congr {ids ids' : Option (List String)}
    (h : Option.Rel (fun ids ids' => ∀ id, id ∈ ids ↔ id ∈ ids') ids ids') (id : String) :
    id ∈ ids.getD [] ↔ id ∈ ids'.getD [] := by
  cases h with
  | none => exact Iff.rfl
  | some hids => exact hids id

/-- The problems do not depend on the order in which the entries are listed. -/
theorem problems_congr {config' : Config} (hkeyed : config.IsKeyed) (h : config.Reordered config') :
    problems rules config' = problems rules config := by
  obtain ⟨hselect, hignore, tables, hperm, hsame⟩ := h
  have hselected : ∀ id, id ∈ config'.select.getD [] ↔ id ∈ config.select.getD [] := fun id =>
    (mem_getD_congr hselect id).symm
  have hkeys : List.Forall₂ (· = ·) (tables.map tableKeys) (config'.ruleOptions.map tableKeys) := by
    rw [List.forall₂_map_left_iff, List.forall₂_map_right_iff]
    exact hsame.imp fun p q hpq => tableKeys_congr hpq.1 hpq.2
  rw [List.forall₂_eq_eq_eq] at hkeys
  have htables : ((config'.ruleOptions.map tableKeys).mergeSort fun a b => !(b.1 < a.1)) =
      (config.ruleOptions.map tableKeys).mergeSort fun a b => !(b.1 < a.1) := by
    rw [← hkeys]
    refine (mergeSort_congr (fun a b => not_lt_iff a.1 b.1) (hperm.map tableKeys) ?_).symm
    rw [List.map_map]
    exact hkeyed.tables
  simp only [problems, unknownIds, sorted_congr hselected, sorted_congr fun id => (hignore id).symm,
    flatMap_optionProblems, htables]

/-! ## Without the dead entries -/

theorem has_without {dead : List Entry} {e : Entry} (h : (config.without dead).Has e) : config.Has e ∧ e ∉ dead := by
  unfold without at h
  cases e with
  | selected id =>
    simp only [Has] at h ⊢
    cases hselect : config.select with
    | none => simp [hselect] at h
    | some ids => simpa [hselect] using h
  | ignored id => simpa [Has] using h
  | table id =>
    simp only [Has, List.mem_map, List.mem_filter, decide_eq_true_eq] at h ⊢
    obtain ⟨_, ⟨p, ⟨hp, hkept⟩, rfl⟩, rfl⟩ := h
    exact ⟨⟨p, hp, rfl⟩, hkept⟩
  | option id key =>
    simp only [Has, List.mem_map, List.mem_filter, decide_eq_true_eq] at h ⊢
    obtain ⟨_, ⟨p, ⟨hp, -⟩, heq⟩, o, ho, rfl⟩ := h
    cases heq
    rw [List.mem_filter, decide_eq_true_eq] at ho
    exact ⟨⟨p.2, hp, o, ho.1, rfl⟩, ho.2⟩

/-- A configuration has no problems if none of its entries is dead. -/
theorem problems_eq_nil_iff (hids : (rules.map Rule.id).Nodup) :
    problems rules config = [] ↔ ∀ e, config.Has e → ¬e.IsDead rules := by
  have hnil : problems rules config = [] ↔ entries rules config = [] := by rw [entries, List.map_eq_nil_iff]
  rw [hnil, List.eq_nil_iff_forall_not_mem]
  simp only [mem_entries hids, not_and]

/-- Without its dead entries a configuration has no problems. -/
theorem problems_cleaned (hids : (rules.map Rule.id).Nodup) : problems rules (cleaned rules config) = [] := by
  rw [problems_eq_nil_iff hids]
  intro e he hdead
  obtain ⟨hhas, hkept⟩ := has_without he
  exact hkept ((mem_entries hids).2 ⟨hhas, hdead⟩)

/-- A rule of the list is selected and ignored as before. -/
theorem allows_cleaned (hids : (rules.map Rule.id).Nodup) (hr : r ∈ rules) :
    (cleaned rules config).allows r.id = config.allows r.id := by
  have hknown : r.id ∈ rules.map Rule.id := List.mem_map_of_mem hr
  have hselected : Entry.selected r.id ∉ entries rules config := fun h => ((mem_entries hids).1 h).2 hknown
  have hignored : Entry.ignored r.id ∉ entries rules config := fun h => ((mem_entries hids).1 h).2 hknown
  unfold allows cleaned without
  congr 1
  · cases config.select with
    | none => rfl
    | some ids => simp [hselected]
  · simp [hignored]

/-- A table that stays loses the given options. -/
theorem getD_lookup_without {dead : List Entry} (hid : Entry.table id ∉ dead) :
    ((config.without dead).ruleOptions.lookup id).getD [] =
      ((config.ruleOptions.lookup id).getD []).filter fun o => Entry.option id o.1 ∉ dead := by
  have hlookup : (config.without dead).ruleOptions.lookup id =
      (config.ruleOptions.lookup id).map fun opts => opts.filter fun o => Entry.option id o.1 ∉ dead := by
    rw [← lookup_filter (fun id => Entry.table id ∉ dead) (by simpa using hid) config.ruleOptions]
    exact lookup_map (fun id (opts : Rule.Options) => opts.filter fun o => Entry.option id o.1 ∉ dead) id _
  rw [hlookup]
  cases config.ruleOptions.lookup id <;> rfl

/-- A rule does not see options under other keys than its own. -/
theorem configure_filter (keep : String → Bool) (hkeep : ∀ key, r.optionKey = some key → keep key = true)
    (opts : Rule.Options) : r.configure (opts.filter fun o => keep o.1) = r.configure opts := by
  have hlookup : r.lookup? (opts.filter fun o => keep o.1) = r.lookup? opts := by
    unfold Rule.lookup?
    cases hkey : r.optionKey with
    | none => rfl
    | some key => exact lookup_filter keep (hkeep key hkey) opts
  rw [Rule.configure, Rule.configure, hlookup]

/-- The option that a rule of the list reads is under its key as before. -/
theorem configure_cleaned (hids : (rules.map Rule.id).Nodup) (hr : r ∈ rules) :
    r.configure (((cleaned rules config).ruleOptions.lookup r.id).getD []) =
      r.configure ((config.ruleOptions.lookup r.id).getD []) := by
  have htable : Entry.table r.id ∉ entries rules config := by
    intro h
    exact ((mem_entries hids).1 h).2 (List.mem_map_of_mem hr)
  have hoption : ∀ key, r.optionKey = some key → Entry.option r.id key ∉ entries rules config := by
    intro key hkey h
    obtain ⟨s, hs, hid, hne⟩ := ((mem_entries hids).1 h).2
    rw [List.inj_on_of_nodup_map hids hs hr hid] at hne
    exact hne hkey
  rw [cleaned, getD_lookup_without htable]
  exact configure_filter (fun key => Entry.option r.id key ∉ entries rules config)
    (fun key hkey => by simpa using hoption key hkey) _

/-- Without its dead entries a configuration gives the same rules, with the same options. -/
theorem activeRules_cleaned (hids : (rules.map Rule.id).Nodup) :
    activeRules rules (cleaned rules config) = activeRules rules config := by
  have hfilter : filterRules rules (cleaned rules config) = filterRules rules config :=
    List.filter_congr fun r hr => allows_cleaned hids hr
  unfold activeRules configureRules
  rw [hfilter]
  exact List.map_congr_left fun r hr => configure_cleaned hids (List.mem_of_mem_filter hr)

/-! ## Without problems -/

/-- A rule reads an option of its table, if the option is not dead. -/
theorem configure_of_mem (hkeyed : config.IsKeyed) (hr : r ∈ rules)
    (hused : ∀ e, config.Has e → ¬e.IsDead rules) {opts : Rule.Options} (hopts : (r.id, opts) ∈ config.ruleOptions)
    {key : String} {value : Scalar} (hvalue : (key, value) ∈ opts) :
    r.configure ((config.ruleOptions.lookup r.id).getD []) = { r with option := some value } := by
  have hkey : r.optionKey = some key := by
    by_contra hne
    exact hused (.option r.id key) ⟨opts, hopts, List.mem_map_of_mem hvalue⟩ ⟨r, hr, rfl, hne⟩
  rw [lookup_of_mem hkeyed.tables hopts, Option.getD_some, Rule.configure, Rule.lookup?, hkey, Option.bind_some,
    lookup_of_mem (hkeyed.options _ hopts) hvalue]

/-- If no entry is dead, each is about a rule of the list. -/
theorem ruleId_mem_of_has (hused : ∀ e, config.Has e → ¬e.IsDead rules) {e : Entry} (he : config.Has e) :
    e.ruleId ∈ rules.map Rule.id := by
  by_contra hunknown
  cases e with
  | option id key =>
    -- the table of the option is in the configuration too, and it is dead
    obtain ⟨opts, hopts, -⟩ := he
    exact hused (.table id) (List.mem_map_of_mem hopts) hunknown
  | _ => exact hused _ he hunknown

/-- Let rules have different names, and a configuration one table at most for each rule and one value for each option.
Each of its dead entries has exactly one problem, and nothing else has one. Without them the same rules are active with
the same options, rule by rule, and no problem is left; what selects rules stays there, even if nothing is left of it. A
configuration without problems names rules of the list only, and each option in it is that of its rule, if this rule
may run. The order of the entries makes no difference to the problems. -/
theorem problems_dead (hids : (rules.map Rule.id).Nodup) (hkeyed : config.IsKeyed) :
    (((problems rules config).map Problem.entry).Nodup ∧
      ∀ e, e ∈ (problems rules config).map Problem.entry ↔ config.Has e ∧ e.IsDead rules) ∧
    (activeRules rules (cleaned rules config) = activeRules rules config ∧ problems rules (cleaned rules config) = [] ∧
      (cleaned rules config).select.isSome = config.select.isSome) ∧
    (problems rules config = [] →
      (∀ e, config.Has e → e.ruleId ∈ rules.map Rule.id) ∧
      List.Forall₂ (fun r active => ∀ opts, (r.id, opts) ∈ config.ruleOptions → ∀ key value, (key, value) ∈ opts →
        active = { r with option := some value }) (filterRules rules config) (activeRules rules config)) ∧
    ∀ config', config.Reordered config' → problems rules config' = problems rules config := by
  refine ⟨⟨nodup_entries hkeyed, fun e => mem_entries hids⟩, ⟨activeRules_cleaned hids, problems_cleaned hids, ?_⟩,
    fun hnone => ?_, fun config' => problems_congr hkeyed⟩
  · simp [cleaned, without]
  · have hused := (problems_eq_nil_iff hids).1 hnone
    refine ⟨fun e => ruleId_mem_of_has hused, ?_⟩
    unfold activeRules configureRules
    rw [List.forall₂_map_right_iff, List.forall₂_same]
    intro r hr opts hopts key value hvalue
    exact configure_of_mem hkeyed (List.mem_of_mem_filter hr) hused hopts hvalue

/-- Rules that are not there, and a misspelt option beside the right one. -/
def misspelt : Config where
  select := some ["code-block-style", "headings"]
  ignore := ["quotes"]
  ruleOptions := [("headings", [("limit", .int 3)]),
    ("code-block-style", [("stile", .int 1), ("style", .text "fenced")])]

/-- The right option alone. -/
def tidy : Config where
  ruleOptions := [("code-block-style", [("style", .text "fenced")])]

/-- The misspelt option has a problem, the right one has none and is the option of its rule. -/
theorem problems_dead_misspelt :
    (allRules.map Rule.id).Nodup ∧ misspelt.IsKeyed ∧
    Entry.option "code-block-style" "stile" ∈ (problems allRules misspelt).map Problem.entry ∧
    Entry.option "code-block-style" "style" ∉ (problems allRules misspelt).map Problem.entry ∧
    activeRules allRules (cleaned allRules misspelt) = activeRules allRules misspelt ∧
    problems allRules (cleaned allRules misspelt) = [] ∧
    tidy.IsKeyed ∧ problems allRules tidy = [] ∧
    List.Forall₂ (fun r active => ∀ opts, (r.id, opts) ∈ tidy.ruleOptions → ∀ key value, (key, value) ∈ opts →
      active = { r with option := some value }) (filterRules allRules tidy) (activeRules allRules tidy) := by
  have hids : (allRules.map Rule.id).Nodup := by decide
  have hkeyed : misspelt.IsKeyed := ⟨by decide, by decide⟩
  have htidy : tidy.IsKeyed := ⟨by decide, by decide⟩
  have hnone : problems allRules tidy = [] := by decide +kernel
  obtain ⟨⟨-, hdead⟩, ⟨hactive, hcleaned, -⟩, -⟩ := problems_dead hids hkeyed
  refine ⟨hids, hkeyed, ?_, ?_, hactive, hcleaned, htidy, hnone, ((problems_dead hids htidy).2.2.1 hnone).2⟩
  · refine (hdead _).2 ⟨⟨_, List.mem_cons_of_mem _ List.mem_cons_self, by decide⟩, CodeBlockStyle.rule, ?_, rfl, ?_⟩
    · simp [allRules]
    · decide
  · intro h
    obtain ⟨-, r, hr, hid, hne⟩ := (hdead _).1 h
    have hrule : r = CodeBlockStyle.rule := List.inj_on_of_nodup_map hids hr (by simp [allRules]) hid
    rw [hrule] at hne
    exact hne rfl

end MarkLint.Config

import MarkLint.Proofs.Config.Names

/-!
# The tables of the rules

The options of a rule are those in the last table that has its name in small letters, and what is left out of a table
is warned about (`ruleOptionsOf_spec`). So an option is lost without a warning only if a later table, whose name differs
only in the case of its letters, takes the place of its own (`ruleOptionsOf_keeps_iff`). This can happen
(`not_keepsOptions_twoCases`).
-/

namespace MarkLint.Config

/-! ## Tables -/

/-- The rule whose entry the warning names. -/
def Warning.ruleId? : Warning → Option String
  | ruleNotATable id => some id
  | optionNotAScalar id _ => some id
  | _ => none

/-- The entries of a value that is a table. -/
def table? : Toml.Value → Option Toml.Table
  | .table t => some t
  | _ => none

/-- The entries of a table, which are none where no table is. -/
def entriesOf (raw : Option Toml.Value) : Toml.Table := (raw.bind table?).getD []

/-- The scalars of a table. -/
def scalars (t : Toml.Table) : Rule.Options := t.filterMap fun p => (scalar? p.2).map fun s => (p.1, s)

/-- The warnings about the entry of a rule: it is no table, or values in it are no scalars. -/
def dropped (id : String) : Toml.Value → List Warning
  | .table t => (t.filter fun p => (scalar? p.2).isNone).map fun p => .optionNotAScalar id p.1
  | _ => [.ruleNotATable id]

/-- The table in an entry with a name, given in small letters. -/
def tableNamed? (name : String) (p : String × Toml.Value) : Option Toml.Table :=
  if lowerName p.1 = name then table? p.2 else none

/-- The last table in the entries with a name, given in small letters. -/
def lastTable? (name : String) (entries : Toml.Table) : Option Toml.Table :=
  (entries.filterMap (tableNamed? name)).getLast?

variable {id key name : String} {s : Scalar} {t : Toml.Table} {v : Toml.Value} {entries : Toml.Table}
  {all : List (String × Rule.Options)} {w : Warning}

theorem table?_eq_some_iff : table? v = some t ↔ v = .table t := by
  cases v <;> simp [table?]

theorem mem_scalars_iff : (key, s) ∈ scalars t ↔ ∃ v, (key, v) ∈ t ∧ scalar? v = some s := by
  simp [scalars]

theorem tableNamed?_eq_some_iff {p : String × Toml.Value} :
    tableNamed? name p = some t ↔ lowerName p.1 = name ∧ p.2 = .table t := by
  rw [tableNamed?, Option.ite_none_right_eq_some, table?_eq_some_iff]

theorem lastTable?_cons (p : String × Toml.Value) (rest : Toml.Table) :
    lastTable? name (p :: rest) = (lastTable? name rest).or (tableNamed? name p) := by
  rw [lastTable?, lastTable?, List.filterMap_cons]
  cases tableNamed? name p with
  | none => rw [Option.or_none]
  | some t =>
    rw [List.getLast?_cons]
    cases (rest.filterMap (tableNamed? name)).getLast? <;> rfl

theorem exists_of_lastTable? (h : lastTable? name entries = some t) : ∃ id, lowerName id = name ∧
    (id, .table t) ∈ entries := by
  obtain ⟨⟨id, v⟩, hmem, hnamed⟩ := List.mem_filterMap.1 (List.mem_of_getLast? h)
  obtain ⟨rfl, rfl⟩ := tableNamed?_eq_some_iff.1 hnamed
  exact ⟨id, rfl, hmem⟩

theorem exists_lastTable? (h : (id, .table t) ∈ entries) : ∃ last, lastTable? (lowerName id) entries = some last := by
  have hmem : t ∈ entries.filterMap (tableNamed? (lowerName id)) :=
    List.mem_filterMap.2 ⟨_, h, tableNamed?_eq_some_iff.2 ⟨rfl, rfl⟩⟩
  exact ⟨_, List.getLast?_eq_some_getLast (List.ne_nil_of_mem hmem)⟩

theorem dropped_of_table?_eq_none (id : String) (h : table? v = none) : dropped id v = [.ruleNotATable id] := by
  cases v with
  | table t => cases h
  | _ => rfl

/-- Of a table, the values that are no scalars are warned about. -/
theorem mem_dropped_table_iff : w ∈ dropped id (.table t) ↔
    ∃ key v, (key, v) ∈ t ∧ scalar? v = none ∧ w = .optionNotAScalar id key := by
  rw [dropped, List.mem_map]
  constructor
  · rintro ⟨⟨key, v⟩, hmem, rfl⟩
    obtain ⟨hmem, hnone⟩ := List.mem_filter.1 hmem
    exact ⟨key, v, hmem, Option.isNone_iff_eq_none.1 hnone, rfl⟩
  · rintro ⟨key, v, hmem, hnone, rfl⟩
    exact ⟨(key, v), List.mem_filter.2 ⟨hmem, Option.isNone_iff_eq_none.2 hnone⟩, rfl⟩

/-- All warnings about the entry of a rule name it. -/
theorem ruleId?_of_mem_dropped (h : w ∈ dropped id v) : w.ruleId? = some id := by
  cases htable : table? v with
  | none =>
    rw [dropped_of_table?_eq_none id htable, List.mem_singleton] at h
    rw [h]
    rfl
  | some t =>
    rw [table?_eq_some_iff.1 htable] at h
    obtain ⟨p, -, rfl⟩ := List.mem_map.1 h
    rfl

/-! ## Reading -/

/-- The options of a rule are the scalars of its table, and there is a warning for each other value. -/
theorem options_eq (id : String) (t : Toml.Table) : options id t = (scalars t, dropped id (.table t)) := by
  induction t with
  | nil => rfl
  | cons p rest ih =>
    obtain ⟨key, value⟩ := p
    rw [options, ih]
    cases hscalar : scalar? value <;> simp [scalars, dropped, hscalar]

/-- Under the name of a rule are the options that were put in last. -/
theorem lookup_putOptions (id : String) (opts : Rule.Options) :
    (putOptions all id opts).lookup name = if name = id then some opts else all.lookup name := by
  induction all with
  | nil => exact lookup_cons_eq name id opts []
  | cons p rest ih =>
    obtain ⟨other, old⟩ := p
    rw [putOptions]
    split
    · rename_i hother
      rw [lookup_cons_eq, lookup_cons_eq, hother]
      split <;> rfl
    · rename_i hother
      rw [lookup_cons_eq, lookup_cons_eq, ih]
      split
      · rename_i hname
        rw [if_neg (hname ▸ hother)]
      · rfl

theorem mem_map_fst_putOptions (id : String) (opts : Rule.Options) :
    name ∈ (putOptions all id opts).map Prod.fst ↔ name = id ∨ name ∈ all.map Prod.fst := by
  induction all with
  | nil => simp [putOptions]
  | cons p rest ih =>
    obtain ⟨other, old⟩ := p
    rw [putOptions]
    split
    · rename_i hother
      simp [hother]
    · rw [List.map_cons, List.mem_cons, ih, List.map_cons, List.mem_cons]
      exact or_left_comm

/-- Each rule keeps one table at most. -/
theorem nodup_putOptions (id : String) (opts : Rule.Options) (h : (all.map Prod.fst).Nodup) :
    ((putOptions all id opts).map Prod.fst).Nodup := by
  induction all with
  | nil => exact List.nodup_singleton id
  | cons p rest ih =>
    obtain ⟨other, old⟩ := p
    obtain ⟨hother, hrest⟩ := List.nodup_cons.1 h
    rw [putOptions]
    split
    · rename_i hsame
      exact List.nodup_cons.2 ⟨hsame ▸ hother, hrest⟩
    · rename_i hne
      refine List.nodup_cons.2 ⟨fun hmem => ?_, ih hrest⟩
      rcases (mem_map_fst_putOptions id opts).1 hmem with hsame | hmem
      · exact hne hsame
      · exact hother hmem

theorem collectOptions_cons_table (all : List (String × Rule.Options)) (id : String) (t : Toml.Table)
    (rest : Toml.Table) : collectOptions all ((id, .table t) :: rest) =
      ((collectOptions (putOptions all (lowerName id) (scalars t)) rest).1,
        dropped id (.table t) ++ (collectOptions (putOptions all (lowerName id) (scalars t)) rest).2) := by
  rw [collectOptions, options_eq]

theorem collectOptions_cons_other (all : List (String × Rule.Options)) (id : String) (rest : Toml.Table)
    (h : table? v = none) : collectOptions all ((id, v) :: rest) =
      ((collectOptions all rest).1, .ruleNotATable id :: (collectOptions all rest).2) := by
  cases v with
  | table t => cases h
  | _ => rfl

/-- The tables are put in one after the other, so the last one of each name stays. -/
theorem collectOptions_spec (entries : Toml.Table) : ∀ {all : List (String × Rule.Options)}, (all.map Prod.fst).Nodup →
    ((collectOptions all entries).1.map Prod.fst).Nodup ∧
    (∀ name, (collectOptions all entries).1.lookup name =
      ((lastTable? name entries).map scalars).or (all.lookup name)) ∧
    (collectOptions all entries).2 = entries.flatMap fun p => dropped p.1 p.2 := by
  induction entries with
  | nil => exact fun hall => ⟨hall, fun _ => rfl, rfl⟩
  | cons p rest ih =>
    intro all hall
    obtain ⟨id, v⟩ := p
    cases htable : table? v with
    | none =>
      obtain ⟨hnodup, hlookup, hwarnings⟩ := ih hall
      rw [collectOptions_cons_other all id rest htable]
      refine ⟨hnodup, fun name => ?_, ?_⟩
      · rw [hlookup, lastTable?_cons, tableNamed?, htable, ite_self, Option.or_none]
      · rw [hwarnings, List.flatMap_cons, dropped_of_table?_eq_none id htable, List.singleton_append]
    | some t =>
      obtain rfl := table?_eq_some_iff.1 htable
      obtain ⟨hnodup, hlookup, hwarnings⟩ := ih (nodup_putOptions (lowerName id) (scalars t) hall)
      rw [collectOptions_cons_table]
      refine ⟨hnodup, fun name => ?_, ?_⟩
      · rw [hlookup, lookup_putOptions, lastTable?_cons, tableNamed?, htable, Option.map_or, Option.or_assoc]
        refine congrArg _ ?_
        by_cases hname : name = lowerName id
        · rw [if_pos hname, if_pos hname.symm]
          rfl
        · rw [if_neg hname, if_neg (Ne.symm hname)]
          rfl
      · rw [hwarnings, List.flatMap_cons]

/-! ## The section -/

/-- What has to be warned about: a section that is no table, the entry of a rule that is no table, or a value in such a
table that is no scalar. -/
inductive IsMisshapen (raw : Option Toml.Value) : Warning → Prop
  | tables {v : Toml.Value} : raw = some v → table? v = none → IsMisshapen raw .rulesNotATable
  | table {id : String} {v : Toml.Value} : (id, v) ∈ entriesOf raw → table? v = none →
      IsMisshapen raw (.ruleNotATable id)
  | scalar {id key : String} {t : Toml.Table} {v : Toml.Value} : (id, .table t) ∈ entriesOf raw → (key, v) ∈ t →
      scalar? v = none → IsMisshapen raw (.optionNotAScalar id key)

/-- The section gives the rule a value for an option. -/
def IsGiven (raw : Option Toml.Value) (id key : String) (s : Scalar) : Prop :=
  ∃ t v, (id, .table t) ∈ entriesOf raw ∧ (key, v) ∈ t ∧ scalar? v = some s

/-- The rule has the value among its options. -/
def IsKept (raw : Option Toml.Value) (id key : String) (s : Scalar) : Prop :=
  ∃ opts, (ruleOptionsOf raw).1.lookup (lowerName id) = some opts ∧ (key, s) ∈ opts

/-- Some warning names the entry of the rule. -/
def IsNamed (raw : Option Toml.Value) (id : String) : Prop := ∃ w ∈ (ruleOptionsOf raw).2, w.ruleId? = some id

/-- No option is lost without a warning. -/
def KeepsOptions (raw : Option Toml.Value) : Prop :=
  ∀ id key s, IsGiven raw id key s → IsKept raw id key s ∨ IsNamed raw id

variable {raw : Option Toml.Value}

theorem isGiven_iff : IsGiven raw id key s ↔ ∃ t, (id, .table t) ∈ entriesOf raw ∧ (key, s) ∈ scalars t := by
  simp only [IsGiven, mem_scalars_iff, exists_and_left]

theorem ruleOptionsOf_other (h : table? v = none) : ruleOptionsOf (some v) = ([], [.rulesNotATable]) := by
  cases v with
  | table t => cases h
  | _ => rfl

/-- Apart from a section that is no table, it is the entries that are warned about. -/
theorem isMisshapen_iff : IsMisshapen raw w ↔
    (w = .rulesNotATable ∧ ∃ v, raw = some v ∧ table? v = none) ∨ ∃ p ∈ entriesOf raw, w ∈ dropped p.1 p.2 := by
  constructor
  · rintro (⟨hraw, htable⟩ | ⟨hmem, htable⟩ | ⟨hmem, hkey, hscalar⟩)
    · exact Or.inl ⟨rfl, _, hraw, htable⟩
    · exact Or.inr ⟨_, hmem, by rw [dropped_of_table?_eq_none _ htable]; exact List.mem_singleton_self _⟩
    · exact Or.inr ⟨_, hmem, mem_dropped_table_iff.2 ⟨_, _, hkey, hscalar, rfl⟩⟩
  · rintro (⟨rfl, v, hraw, htable⟩ | ⟨⟨id, v⟩, hmem, hw⟩)
    · exact .tables hraw htable
    · cases htable : table? v with
      | none =>
        rw [dropped_of_table?_eq_none id htable, List.mem_singleton] at hw
        rw [hw]
        exact .table hmem htable
      | some t =>
        obtain rfl := table?_eq_some_iff.1 htable
        obtain ⟨key, inner, hkey, hscalar, rfl⟩ := mem_dropped_table_iff.1 hw
        exact .scalar hmem hkey hscalar

/-- The options of a rule are those in the last table of its name, and what is left out of the section is warned about.
-/
theorem ruleOptionsOf_spec (raw : Option Toml.Value) : ((ruleOptionsOf raw).1.map Prod.fst).Nodup ∧
    (∀ name, (ruleOptionsOf raw).1.lookup name = (lastTable? name (entriesOf raw)).map scalars) ∧
    ∀ w, w ∈ (ruleOptionsOf raw).2 ↔ IsMisshapen raw w := by
  simp only [isMisshapen_iff, entriesOf]
  cases raw with
  | none => exact ⟨List.nodup_nil, fun _ => rfl, by simp [ruleOptionsOf]⟩
  | some v =>
    cases htable : table? v with
    | none =>
      rw [ruleOptionsOf_other htable, Option.bind_some, htable]
      exact ⟨List.nodup_nil, fun _ => rfl, by simp [htable]⟩
    | some entries =>
      obtain rfl := table?_eq_some_iff.1 htable
      obtain ⟨hnodup, hlookup, hwarnings⟩ := @collectOptions_spec entries [] List.nodup_nil
      refine ⟨hnodup, fun name => (hlookup name).trans Option.or_none, fun w => ?_⟩
      rw [ruleOptionsOf, hwarnings]
      simp [table?]

theorem isKept_iff : IsKept raw id key s ↔
    ∃ last, lastTable? (lowerName id) (entriesOf raw) = some last ∧ (key, s) ∈ scalars last := by
  obtain ⟨-, hlookup, -⟩ := ruleOptionsOf_spec raw
  simp [IsKept, hlookup]

/-- The entry of a rule is named exactly if something in it is left out. -/
theorem isNamed_iff : IsNamed raw id ↔ ∃ v, (id, v) ∈ entriesOf raw ∧ dropped id v ≠ [] := by
  obtain ⟨-, -, hwarnings⟩ := ruleOptionsOf_spec raw
  simp only [IsNamed, hwarnings, isMisshapen_iff]
  constructor
  · rintro ⟨w, ⟨rfl, -⟩ | ⟨⟨other, v⟩, hmem, hw⟩, hid⟩
    · cases hid
    · obtain rfl : other = id := Option.some.inj ((ruleId?_of_mem_dropped hw).symm.trans hid)
      exact ⟨v, hmem, List.ne_nil_of_mem hw⟩
  · rintro ⟨v, hmem, hne⟩
    obtain ⟨w, hw⟩ := List.exists_mem_of_ne_nil _ hne
    exact ⟨w, Or.inr ⟨_, hmem, hw⟩, ruleId?_of_mem_dropped hw⟩

/-- Each option of a rule is given in a table of its name. -/
theorem exists_isGiven {opts : Rule.Options} (h : (name, opts) ∈ (ruleOptionsOf raw).1) (hs : (key, s) ∈ opts) :
    ∃ id, lowerName id = name ∧ IsGiven raw id key s := by
  obtain ⟨hnodup, hlookup, -⟩ := ruleOptionsOf_spec raw
  have hlast := lookup_of_mem hnodup h
  rw [hlookup] at hlast
  obtain ⟨last, hfound, rfl⟩ := Option.map_eq_some_iff.1 hlast
  obtain ⟨id, hid, hmem⟩ := exists_of_lastTable? hfound
  exact ⟨id, hid, isGiven_iff.2 ⟨last, hmem, hs⟩⟩

/-- If no other table has its name in small letters, all options of a table are kept. -/
theorem isKept_of_unique (hunique : ∀ id t id' t', (id, .table t) ∈ entriesOf raw → (id', .table t') ∈ entriesOf raw →
    lowerName id = lowerName id' → t = t') (h : IsGiven raw id key s) : IsKept raw id key s := by
  obtain ⟨t, hmem, hs⟩ := isGiven_iff.1 h
  obtain ⟨last, hlast⟩ := exists_lastTable? hmem
  obtain ⟨id', hid', hmem'⟩ := exists_of_lastTable? hlast
  obtain rfl := hunique id t id' last hmem hmem' hid'.symm
  exact isKept_iff.2 ⟨t, hlast, hs⟩

/-- No option is lost without a warning, exactly if each table that is left out for a later one of its name has no other
options than this one, or something in it is warned about. So nothing is lost if no two tables have the same name in
small letters. What is kept was given in a table of the name, and there is a warning about each entry of another shape,
and about nothing else. -/
theorem ruleOptionsOf_keeps_iff (raw : Option Toml.Value) :
    (KeepsOptions raw ↔ ∀ id t, (id, .table t) ∈ entriesOf raw →
      (∃ last, lastTable? (lowerName id) (entriesOf raw) = some last ∧ ∀ o ∈ scalars t, o ∈ scalars last) ∨
        ∃ v, (id, v) ∈ entriesOf raw ∧ dropped id v ≠ []) ∧
    ((∀ id t id' t', (id, .table t) ∈ entriesOf raw → (id', .table t') ∈ entriesOf raw →
        lowerName id = lowerName id' → t = t') → ∀ id key s, IsGiven raw id key s → IsKept raw id key s) ∧
    (∀ name opts, (name, opts) ∈ (ruleOptionsOf raw).1 → ∀ key s, (key, s) ∈ opts →
      ∃ id, lowerName id = name ∧ IsGiven raw id key s) ∧
    ∀ w, w ∈ (ruleOptionsOf raw).2 ↔ IsMisshapen raw w := by
  refine ⟨⟨fun h id t hmem => ?_, fun h id key s hgiven => ?_⟩, fun hunique id key s => isKept_of_unique hunique,
    fun name opts h key s => exists_isGiven h, (ruleOptionsOf_spec raw).2.2⟩
  · by_cases hnamed : IsNamed raw id
    · exact Or.inr (isNamed_iff.1 hnamed)
    · obtain ⟨last, hlast⟩ := exists_lastTable? hmem
      refine Or.inl ⟨last, hlast, fun o ho => ?_⟩
      have hkept := (h id o.1 o.2 (isGiven_iff.2 ⟨t, hmem, ho⟩)).resolve_right hnamed
      obtain ⟨last', hlast', ho'⟩ := isKept_iff.1 hkept
      obtain rfl : last' = last := Option.some.inj (hlast'.symm.trans hlast)
      exact ho'
  · obtain ⟨t, hmem, hs⟩ := isGiven_iff.1 hgiven
    rcases h id t hmem with ⟨last, hlast, hall⟩ | hdropped
    · exact Or.inl (isKept_iff.2 ⟨last, hlast, hall _ hs⟩)
    · exact Or.inr (isNamed_iff.2 hdropped)

/-- The tables of one rule under its name in capitals and in small letters. -/
def twoCases : Option Toml.Value := some (.table [("A", .table [("x", .int 1)]), ("a", .table [("y", .int 2)])])

/-- Of the two tables only the later one is kept. The option in the other is lost, and there is no warning. -/
theorem not_keepsOptions_twoCases :
    ¬ KeepsOptions twoCases ∧ IsGiven twoCases "A" "x" (.int 1) ∧
      ruleOptionsOf twoCases = ([("a", [("y", .int 2)])], []) := by
  have hresult : ruleOptionsOf twoCases = ([("a", [("y", .int 2)])], []) := by decide +kernel
  have hgiven : IsGiven twoCases "A" "x" (.int 1) :=
    ⟨[("x", .int 1)], .int 1, List.mem_cons_self, List.mem_cons_self, rfl⟩
  refine ⟨fun h => ?_, hgiven, hresult⟩
  rcases h "A" "x" (.int 1) hgiven with ⟨opts, hopts, hmem⟩ | ⟨w, hw, -⟩
  · have hlower : lowerName "A" = "a" := by decide +kernel
    rw [hresult, hlower] at hopts
    obtain rfl : [("y", Scalar.int 2)] = opts := Option.some.inj hopts
    exact absurd hmem (by decide)
  · rw [hresult] at hw
    cases hw

end MarkLint.Config

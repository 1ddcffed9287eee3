import MarkLint.Proofs.Node.Forest

/-!
# The rounds of a walk

A walk goes in rounds over a stack whose top is its last node: each round takes the top off, yields it if the test asks
for it, and puts its children on the stack, the last one first (`Rounds`). What has been yielded, and what the test asks
for in the trees on the stack, are in every round the whole answer in document order (`Rounds.passing_eq`), and each
round takes one node off (`Rounds.size_eq`). So a walk ends after as many rounds as the tree has nodes, and a walk that
stops early has the first nodes of the answer (`walkFirst_eq_take`). `walk_rounds` puts these together.
-/

namespace MarkLint.Node

variable {test : Test} {count limit : Nat} {stack found rest : List Node}

/-! ## Tests -/

/-- What a test asks of a node. -/
def Test.Asks : Test → Node → Prop
  | any, _ => True
  | kind k, n => n.kind = k
  | kinds ks, n => n.kind ∈ ks
  | predicate p, n => p n = true

theorem Test.accepts_iff (test : Test) (n : Node) : test.accepts n = true ↔ test.Asks n := by
  cases test with
  | any => exact iff_of_true rfl trivial
  | kind k => exact beq_iff_eq
  | kinds ks => exact List.contains_iff_mem
  | predicate p => exact Iff.rfl

instance (test : Test) : DecidablePred test.Asks := fun n => decidable_of_iff _ (test.accepts_iff n)

/-- The nodes that a test asks for. -/
def passing (test : Test) (ns : List Node) : List Node := ns.filter fun n => test.Asks n

theorem passing_cons (test : Test) (n : Node) (ns : List Node) :
    passing test (n :: ns) = passing test [n] ++ passing test ns :=
  List.filter_append [n] ns

/-! ## Rounds -/

/-- Rounds lead from one stack to another and yield the nodes that the test asks for. -/
inductive Rounds (test : Test) : (count : Nat) → (stack found rest : List Node) → Prop
  | done (stack : List Node) : Rounds test 0 stack [] stack
  | next {count : Nat} {n : Node} {below found rest : List Node} :
      Rounds test count (below ++ n.children.reverse) found rest →
      Rounds test (count + 1) (below ++ [n]) (passing test [n] ++ found) rest

/-- Each round takes one node off the trees on the stack. -/
theorem Rounds.size_eq (h : Rounds test count stack found rest) : count + sizes rest = sizes stack := by
  induction h with
  | done stack => exact Nat.zero_add _
  | @next count n below found rest _ ih =>
    simp only [sizes_append, sizes_reverse, sizes, Node.size_eq] at ih ⊢
    omega

/-- What has been yielded, and what is to be found in the trees on the stack, are the answer in every round. -/
theorem Rounds.passing_eq (h : Rounds test count stack found rest) :
    passing test (preorders stack.reverse) = found ++ passing test (preorders rest.reverse) := by
  induction h with
  | done stack => rfl
  | @next count n below found rest _ ih =>
    have htop : preorders (below ++ [n]).reverse = n :: preorders (below ++ n.children.reverse).reverse := by
      simp only [List.reverse_append, List.reverse_singleton, List.reverse_reverse, List.singleton_append,
        preorders_cons, preorders_append]
    rw [htop, passing_cons, ih, List.append_assoc]

/-- One more round before others, which yields the top of the stack. -/
theorem Rounds.pop_accepted {n : Node} (haccepts : test.accepts n = true)
    (h : Rounds test count (n.children ++ stack).reverse found rest) :
    Rounds test (count + 1) (n :: stack).reverse (n :: found) rest := by
  have hn : passing test [n] = [n] := List.filter_cons_of_pos (by simpa using (test.accepts_iff n).1 haccepts)
  rw [List.reverse_append] at h
  have hnext := h.next
  rwa [hn, ← List.reverse_cons] at hnext

/-- One more round before others, which yields nothing. -/
theorem Rounds.pop_refused {n : Node} (hrefuses : ¬ test.accepts n = true)
    (h : Rounds test count (n.children ++ stack).reverse found rest) :
    Rounds test (count + 1) (n :: stack).reverse found rest := by
  have hn : passing test [n] = [] := List.filter_cons_of_neg (by simpa using mt (test.accepts_iff n).2 hrefuses)
  rw [List.reverse_append] at h
  have hnext := h.next
  rwa [hn, ← List.reverse_cons] at hnext

/-! ## Walks -/

/-- With fuel for every node the loop goes on until the stack is empty. -/
theorem exists_rounds_walkFrom (test : Test) : ∀ (fuel : Nat) (stack : List Node), sizes stack ≤ fuel →
    ∃ count, Rounds test count stack.reverse (walkFrom test fuel stack) []
  | 0, [], _ => ⟨0, .done []⟩
  | 0, n :: rest, h => by
    rw [sizes_cons] at h
    omega
  | _ + 1, [], _ => ⟨0, .done []⟩
  | fuel + 1, n :: rest, h => by
    rw [sizes_cons] at h
    have hle : sizes (n.children ++ rest) ≤ fuel := Nat.le_of_succ_le_succ h
    obtain ⟨count, hrounds⟩ := exists_rounds_walkFrom test fuel (n.children ++ rest) hle
    refine ⟨count + 1, ?_⟩
    rw [walkFrom]
    split
    · rename_i haccepts
      exact hrounds.pop_accepted haccepts
    · rename_i hrefuses
      exact hrounds.pop_refused hrefuses

/-- A walk that stops early has gone through some rounds. It has yielded as many nodes as it should, unless the stack is
empty. -/
theorem exists_rounds_walkFirstFrom (test : Test) : ∀ (limit fuel : Nat) (stack : List Node), sizes stack ≤ fuel →
    ∃ count rest, Rounds test count stack.reverse (walkFirstFrom test limit fuel stack) rest ∧
      (walkFirstFrom test limit fuel stack).length ≤ limit ∧
      ((walkFirstFrom test limit fuel stack).length = limit ∨ rest = [])
  | 0, fuel, stack, _ => by
    rw [walkFirstFrom]
    exact ⟨0, stack.reverse, .done _, Nat.le_refl 0, Or.inl rfl⟩
  | limit + 1, 0, [], _ => ⟨0, [], .done [], Nat.zero_le _, Or.inr rfl⟩
  | limit + 1, 0, n :: rest, h => by
    rw [sizes_cons] at h
    omega
  | limit + 1, _ + 1, [], _ => ⟨0, [], .done [], Nat.zero_le _, Or.inr rfl⟩
  | limit + 1, fuel + 1, n :: rest, h => by
    rw [sizes_cons] at h
    have hle : sizes (n.children ++ rest) ≤ fuel := Nat.le_of_succ_le_succ h
    rw [walkFirstFrom]
    split
    · rename_i haccepts
      obtain ⟨count, left, hrounds, hmost, hend⟩ :=
        exists_rounds_walkFirstFrom test limit fuel (n.children ++ rest) hle
      exact ⟨count + 1, left, hrounds.pop_accepted haccepts, Nat.succ_le_succ hmost, hend.imp_left (congrArg (· + 1))⟩
    · rename_i hrefuses
      obtain ⟨count, left, hrounds, hmost, hend⟩ :=
        exists_rounds_walkFirstFrom test (limit + 1) fuel (n.children ++ rest) hle
      exact ⟨count + 1, left, hrounds.pop_refused hrefuses, hmost, hend⟩

/-- A walk is the whole loop. -/
theorem rounds_walk (tree : Node) (test : Test) : Rounds test tree.size [tree] (tree.walk test) [] := by
  obtain ⟨count, hrounds⟩ := exists_rounds_walkFrom test tree.size [tree] (Nat.le_of_eq (sizes_singleton tree))
  have hcount : count + 0 = tree.size := hrounds.size_eq.trans (sizes_singleton tree)
  rwa [← hcount, Nat.add_zero]

/-- It takes what the test asks for in document order. -/
theorem walk_eq_passing (tree : Node) (test : Test) : tree.walk test = passing test tree.preorder := by
  have h := (rounds_walk tree test).passing_eq
  rw [List.reverse_singleton, preorders_singleton] at h
  rw [h]
  exact (List.append_nil _).symm

theorem walk_eq_filter (tree : Node) (test : Test) : tree.walk test = tree.preorder.filter test.accepts := by
  rw [walk_eq_passing, passing]
  exact List.filter_congr fun n _ => Bool.eq_iff_iff.2 (by rw [decide_eq_true_eq, test.accepts_iff])

/-- A walk without a test takes all nodes. -/
theorem walk_any (tree : Node) : tree.walk .any = tree.preorder := by
  rw [walk_eq_filter]
  exact List.filter_eq_self.2 fun _ _ => rfl

/-- A walk keeps document order. -/
theorem walk_sublist (tree : Node) (test : Test) : (tree.walk test).Sublist tree.preorder := by
  rw [walk_eq_filter]
  exact List.filter_sublist

/-- A walk that stops early takes the first of these nodes. -/
theorem walkFirst_eq_take (tree : Node) (test : Test) (limit : Nat) :
    tree.walkFirst test limit = (passing test tree.preorder).take limit := by
  obtain ⟨count, rest, hrounds, hmost, hend⟩ :=
    exists_rounds_walkFirstFrom test limit tree.size [tree] (Nat.le_of_eq (sizes_singleton tree))
  have h := hrounds.passing_eq
  rw [List.reverse_singleton, List.reverse_singleton, preorders_singleton] at h
  rw [walkFirst, h]
  rcases hend with hlength | rfl
  · exact (List.take_left' hlength).symm
  · rw [List.reverse_nil, preorders_nil, passing, List.filter_nil, List.append_nil, List.take_of_length_le hmost]

/-- A visitor that changes a state sees the nodes of the walk, one after the other. -/
theorem run_visit {σ : Type} (f : σ → Node → σ) (tree : Node) (test : Test) (s : σ) :
    (tree.visit test fun n => (modify fun s => f s n : StateM σ Unit)).run s = ((), (tree.walk test).foldl f s) := by
  have hforM : ∀ (ns : List Node) (s : σ),
      (ns.forM fun n => (modify fun s => f s n : StateM σ Unit)).run s = ((), ns.foldl f s) := by
    intro ns
    induction ns with
    | nil => exact fun _ => rfl
    | cons n ns ih => exact fun s => ih (f s n)
  exact hforM (tree.walk test) s

/-- The loop over the stack that starts with a tree ends after as many rounds as the tree has nodes, and yields what the
test asks for in document order. After any number of rounds the answer is what has been yielded and what is to be found
on the stack. A walk that stops early has gone through some of the rounds, and has the first nodes of the answer. A
visitor is called with each node of the answer, in this order. -/
theorem walk_rounds (tree : Node) (test : Test) :
    Rounds test tree.size [tree] (tree.walk test) [] ∧
    tree.walk test = passing test tree.preorder ∧
    (∀ count found rest, Rounds test count [tree] found rest → count + sizes rest = tree.size ∧
      passing test tree.preorder = found ++ passing test (preorders rest.reverse)) ∧
    (∀ limit, tree.walkFirst test limit = (passing test tree.preorder).take limit ∧
      ∃ count rest, Rounds test count [tree] (tree.walkFirst test limit) rest) ∧
    (∀ (m : Type → Type) [Monad m] (visitor : Node → m Unit),
      tree.visit test visitor = (passing test tree.preorder).forM visitor) ∧
    ∀ (σ : Type) (f : σ → Node → σ) (s : σ),
      ((tree.visit test fun n => (modify fun s => f s n : StateM σ Unit)).run s) =
        ((), (passing test tree.preorder).foldl f s) := by
  refine ⟨rounds_walk tree test, walk_eq_passing tree test, fun count found rest h => ⟨?_, ?_⟩,
    fun limit => ⟨walkFirst_eq_take tree test limit, ?_⟩, fun m _ visitor => ?_, fun σ f s => ?_⟩
  · rw [h.size_eq, sizes_singleton]
  · rw [← h.passing_eq, List.reverse_singleton, preorders_singleton]
  · obtain ⟨count, rest, hrounds, -⟩ :=
      exists_rounds_walkFirstFrom test limit tree.size [tree] (Nat.le_of_eq (sizes_singleton tree))
    exact ⟨count, rest, hrounds⟩
  · rw [visit, walk_eq_passing]
  · rw [run_visit, walk_eq_passing]

/-- A heading with a text and an image, and a text behind it. -/
def pictured : Node where
  kind := "root"
  children := [{ kind := "heading", children := [{ kind := "text", value := some "a" }, { kind := "image" }] },
    { kind := "text", value := some "b" }]

/-- After three of the five rounds the first text has been yielded, and the image is on top of the other text. -/
theorem walk_rounds_pictured :
    Rounds (.kinds ["image", "text"]) 3 [pictured] [{ kind := "text", value := some "a" }]
      [{ kind := "text", value := some "b" }, { kind := "image" }] ∧
    3 + sizes [{ kind := "text", value := some "b" }, { kind := "image" }] = pictured.size ∧
    passing (.kinds ["image", "text"]) pictured.preorder = [{ kind := "text", value := some "a" }] ++
      passing (.kinds ["image", "text"]) (preorders [{ kind := "image" }, { kind := "text", value := some "b" }]) := by
  have hrounds : Rounds (.kinds ["image", "text"]) 3 [pictured] [{ kind := "text", value := some "a" }]
      [{ kind := "text", value := some "b" }, { kind := "image" }] :=
    @Rounds.next _ 2 pictured [] _ _ (@Rounds.next _ 1 _ [_] _ _ (@Rounds.next _ 0 _ [_, _] _ _ (.done _)))
  obtain ⟨hsize, hpassing⟩ := (walk_rounds pictured (.kinds ["image", "text"])).2.2.1 _ _ _ hrounds
  exact ⟨hrounds, hsize, hpassing⟩

end MarkLint.Node

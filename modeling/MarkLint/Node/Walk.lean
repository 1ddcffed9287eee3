import MarkLint.Node

/-!
# Walking a tree in document order

`Node.walk` lists the nodes of a tree that pass a test, a parent before its children and children from left to right. It
keeps the nodes still to be visited on a stack, so it can stop early (`Node.walkFirst`); `Node.preorder` is the same
order by recursion on the tree.
-/

namespace MarkLint.Node

/-- What a walk looks for. -/
inductive Test where
  | any
  | kind (k : String)
  | kinds (ks : List String)
  | predicate (p : Node → Bool)

/-- Does a node pass the test? -/
def Test.accepts : Test → Node → Bool
  | any, _ => true
  | kind k, n => n.kind == k
  | kinds ks, n => ks.contains n.kind
  | predicate p, n => p n

mutual

/-- The number of nodes of a tree. -/
def size : Node → Nat
  | ⟨_, children, _, _, _, _, _, _, _, _, _⟩ => sizes children + 1

/-- The number of nodes of several trees. -/
def sizes : List Node → Nat
  | [] => 0
  | n :: rest => n.size + sizes rest

end

mutual

/-- All nodes of a tree in document order. -/
def preorder : Node → List Node
  | n@⟨_, children, _, _, _, _, _, _, _, _, _⟩ => n :: preorders children

/-- All nodes of several trees in document order. -/
def preorders : List Node → List Node
  | [] => []
  | n :: rest => n.preorder ++ preorders rest

end

/-- Takes up to `fuel` nodes off the stack, each of which is replaced by its children. -/
def walkFrom (test : Test) : (fuel : Nat) → (stack : List Node) → List Node
  | 0, _ => []
  | _, [] => []
  | fuel + 1, n :: rest =>
    if test.accepts n then n :: walkFrom test fuel (n.children ++ rest)
    else walkFrom test fuel (n.children ++ rest)

/-- The nodes of a tree that pass a test, in document order. -/
def walk (tree : Node) (test : Test) : List Node := walkFrom test tree.size [tree]

/-- Takes nodes off the stack until `limit` of them have passed the test. -/
def walkFirstFrom (test : Test) : (limit fuel : Nat) → (stack : List Node) → List Node
  | 0, _, _ => []
  | _, 0, _ => []
  | _, _, [] => []
  | limit + 1, fuel + 1, n :: rest =>
    if test.accepts n then n :: walkFirstFrom test limit fuel (n.children ++ rest)
    else walkFirstFrom test (limit + 1) fuel (n.children ++ rest)

/-- The first nodes of a walk; the tree is visited no further than they require. -/
def walkFirst (tree : Node) (test : Test) (limit : Nat) : List Node :=
  walkFirstFrom test limit tree.size [tree]

/-- Calls `visitor` with each node of a walk. -/
def visit {m : Type → Type} [Monad m] (tree : Node) (test : Test) (visitor : Node → m Unit) : m Unit :=
  (tree.walk test).forM visitor

end MarkLint.Node

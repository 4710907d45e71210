/-
Module: RouteAtlas.PathNode.Walk
Purpose: The order in which the nodes and endpoints of a tree are visited.
Main exports: PathNode.preorder, PathNode.walk, PathNode.allEndpoints
-/
import RouteAtlas.PathNode.Basic

namespace RouteAtlas.PathNode

/-!
Generated artifacts list endpoints in one order: a node comes before its
children, and a child with all its descendants comes before the next child.
`preorder` states this order by recursion on the tree; `walk` produces it one
node at a time with a stack of nodes still to be visited.
-/

mutual

/-- The nodes of a tree, each before its children. -/
def preorder : PathNode → List PathNode
  | ⟨name, kind, endpoints, middleware, children⟩ =>
      ⟨name, kind, endpoints, middleware, children⟩ :: preorderList children

/-- The nodes of a list of trees, tree after tree. -/
def preorderList : List PathNode → List PathNode
  | [] => []
  | node :: rest => preorder node ++ preorderList rest

end

/-- A walk in progress: the next node to visit is the first of the stack. -/
structure Walk where
  stack : List PathNode

/-- The next node of a walk.  Its children take its place on the stack. -/
def Walk.next? (walk : Walk) : Option (PathNode × Walk) :=
  match walk.stack with
  | [] => none
  | node :: rest => some (node, ⟨node.children ++ rest⟩)

theorem sizeList_append (one other : List PathNode) :
    sizeList (one ++ other) = sizeList one + sizeList other := by
  induction one with
  | nil => simp [sizeList]
  | cons node rest ih => simp [sizeList, ih, Nat.add_assoc]

theorem size_eq (node : PathNode) :
    node.size = sizeList node.children + 1 := by
  cases node
  rfl

/-- Visit every node that a walk still holds. -/
def Walk.toList (walk : Walk) : List PathNode :=
  match _step : walk.next? with
  | none => []
  | some (node, rest) => node :: rest.toList
termination_by sizeList walk.stack
decreasing_by
  obtain ⟨stack⟩ := walk
  cases stack with
  | nil => simp [Walk.next?] at _step
  | cons head tail =>
      simp only [Walk.next?, Option.some.injEq, Prod.mk.injEq] at _step
      obtain ⟨rfl, rfl⟩ := _step
      simp only [sizeList_append, sizeList, size_eq]
      omega

/-- The walk over a tree, from its root. -/
def walk (node : PathNode) : List PathNode :=
  Walk.toList ⟨[node]⟩

/-- Every endpoint in the order of the walk, with the node that owns it. -/
def allEndpoints (node : PathNode) : List (PathNode × Endpoint) :=
  node.walk.flatMap fun owner => owner.endpoints.map fun endpoint =>
    (owner, endpoint)

end RouteAtlas.PathNode

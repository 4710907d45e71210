/-
Module: RouteAtlas.Proofs.Traversal
Purpose: The walk with a stack visits a tree in preorder, and what it visits is
  what can be reached by an address.
Main exports: PathNode.descend?, PathNode.walk_eq_preorder, PathNode.mem_walk_iff,
  PathNode.allEndpoints_eq
-/
import RouteAtlas.PathNode.Walk

namespace RouteAtlas.PathNode

/-! ## Order -/

theorem preorder_eq (node : PathNode) :
    node.preorder = node :: preorderList node.children := by
  cases node
  rfl

theorem preorderList_append (one other : List PathNode) :
    preorderList (one ++ other) = preorderList one ++ preorderList other := by
  induction one with
  | nil => rfl
  | cons node rest ih => simp [preorderList, ih]

/-- A walk visits the trees on its stack one after another, each in preorder. -/
theorem Walk.toList_eq_preorderList (walk : Walk) : walk.toList = preorderList walk.stack := by
  fun_induction Walk.toList walk with
  | case1 walk ended =>
      cases atEnd : walk.stack with
      | nil => rfl
      | cons node rest =>
          rw [Walk.next?, atEnd] at ended
          cases ended
  | case2 walk node rest moved ih =>
      cases atStep : walk.stack with
      | nil =>
          rw [Walk.next?, atStep] at moved
          cases moved
      | cons first others =>
          rw [Walk.next?, atStep] at moved
          cases moved
          rw [ih, preorderList_append, preorderList, preorder_eq, List.cons_append]

theorem walk_eq_preorder (node : PathNode) : node.walk = node.preorder := by
  rw [walk, Walk.toList_eq_preorderList, preorderList, preorderList, List.append_nil]

theorem allEndpoints_eq (node : PathNode) :
    node.allEndpoints =
      node.preorder.flatMap fun owner => owner.endpoints.map fun endpoint =>
        (owner, endpoint) := by
  rw [allEndpoints, walk_eq_preorder]

/-! ## Addresses -/

/-- The node at an address: the child indexes on the way down to it. -/
def descend? (node : PathNode) : List Nat → Option PathNode
  | [] => some node
  | index :: rest =>
      match node.children[index]? with
      | none => none
      | some child => child.descend? rest

theorem descend?_cons_eq_some_iff {node below : PathNode} {index : Nat} {rest : List Nat} :
    node.descend? (index :: rest) = some below ↔
      ∃ child, node.children[index]? = some child ∧ child.descend? rest = some below := by
  rw [descend?]
  cases node.children[index]? with
  | none => simp
  | some child => simp

mutual

theorem mem_preorder_iff : ∀ (node owner : PathNode),
    owner ∈ node.preorder ↔ ∃ address, node.descend? address = some owner
  | ⟨name, kind, endpoints, middleware, children⟩, owner => by
      rw [preorder, List.mem_cons, mem_preorderList_iff children owner]
      constructor
      · rintro (rfl | ⟨index, child, found, rest, reached⟩)
        · exact ⟨[], rfl⟩
        · exact ⟨index :: rest, descend?_cons_eq_some_iff.mpr ⟨child, found, reached⟩⟩
      · rintro ⟨address, reached⟩
        cases address with
        | nil =>
            cases reached
            exact .inl rfl
        | cons index rest =>
            obtain ⟨child, found, below⟩ := descend?_cons_eq_some_iff.mp reached
            exact .inr ⟨index, child, found, rest, below⟩

theorem mem_preorderList_iff : ∀ (nodes : List PathNode) (owner : PathNode),
    owner ∈ preorderList nodes ↔ ∃ (index : Nat) (child : PathNode),
      nodes[index]? = some child ∧ ∃ address, child.descend? address = some owner
  | [], owner => by simp [preorderList]
  | node :: rest, owner => by
      rw [preorderList, List.mem_append, mem_preorder_iff node owner,
        mem_preorderList_iff rest owner]
      constructor
      · rintro (reached | ⟨index, child, found, reached⟩)
        · exact ⟨0, node, rfl, reached⟩
        · exact ⟨index + 1, child, found, reached⟩
      · rintro ⟨index, child, found, reached⟩
        cases index with
        | zero =>
            cases found
            exact .inl reached
        | succ index => exact .inr ⟨index, child, found, reached⟩

end

/-- What a walk visits is what can be reached by an address. -/
theorem mem_walk_iff {node owner : PathNode} :
    owner ∈ node.walk ↔ ∃ address, node.descend? address = some owner := by
  rw [walk_eq_preorder, mem_preorder_iff]

end RouteAtlas.PathNode

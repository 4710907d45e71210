/-
Module: RouteAtlas.Proofs.Positions
Purpose: The nodes of a tree with the nodes above them, and the URLs that follow from
  these alone.
Main exports: PathNode.Position, PathNode.positions, PathNode.placements_eq,
  PathNode.chains_nodup
-/
import Mathlib.Data.List.Nodup
import RouteAtlas.OpenApi.Assembly
import RouteAtlas.Proofs.Traversal

namespace RouteAtlas.PathNode

/-- A node with the nodes above it, from the top of the tree down. -/
structure Position where
  above : List PathNode
  node : PathNode

namespace Position

/-- The segments from the top of the tree down to a node. -/
def chain (position : Position) : List PathSegment :=
  (position.above ++ [position.node]).map segment

/-- The URL that a document has for a node. -/
def url (position : Position) : String :=
  renderPath .braces position.chain

/-- The position of the same node in a tree of which its own tree is a part. -/
def below (top : PathNode) (position : Position) : Position :=
  ⟨top :: position.above, position.node⟩

theorem chain_below (top : PathNode) (position : Position) :
    (position.below top).chain = top.segment :: position.chain :=
  rfl

theorem chain_ne_nil (position : Position) : position.chain ≠ [] := by
  simp [chain]

end Position

mutual

/-- The positions in a tree, in preorder. -/
def positions : PathNode → List Position
  | ⟨name, kind, endpoints, middleware, children⟩ =>
      let top : PathNode := ⟨name, kind, endpoints, middleware, children⟩
      ⟨[], top⟩ :: (positionsList children).map (Position.below top)

/-- The positions in several trees, tree after tree. -/
def positionsList : List PathNode → List Position
  | [] => []
  | node :: rest => node.positions ++ positionsList rest

end

theorem positions_eq (node : PathNode) :
    node.positions = ⟨[], node⟩ :: (positionsList node.children).map (Position.below node) := by
  cases node
  rfl

/-! ## Nodes -/

mutual

/-- Positions stand in the order of their nodes. -/
theorem nodes_of_positions : ∀ node : PathNode,
    node.positions.map Position.node = node.preorder
  | ⟨name, kind, endpoints, middleware, children⟩ => by
      rw [positions, preorder, List.map_cons, List.map_map, ← nodes_of_positionsList children]
      rfl

theorem nodes_of_positionsList : ∀ nodes : List PathNode,
    (positionsList nodes).map Position.node = preorderList nodes
  | [] => rfl
  | node :: rest => by
      rw [positionsList, preorderList, List.map_append, nodes_of_positions node,
        nodes_of_positionsList rest]

end

mutual

/-- The nodes above a node are nodes of the same tree. -/
theorem mem_preorder_of_position : ∀ (node : PathNode), ∀ position ∈ node.positions,
    ∀ owner ∈ position.above ++ [position.node], owner ∈ node.preorder
  | ⟨name, kind, endpoints, middleware, children⟩, position, member, owner, inLine => by
      rw [positions] at member
      rw [preorder]
      rcases List.mem_cons.mp member with rfl | member
      · cases List.mem_singleton.mp inLine
        exact List.mem_cons_self
      · obtain ⟨lower, found, rfl⟩ := List.mem_map.mp member
        rcases List.mem_cons.mp inLine with rfl | inLine
        · exact List.mem_cons_self
        · exact List.mem_cons_of_mem _
            (mem_preorderList_of_position children lower found owner inLine)

theorem mem_preorderList_of_position : ∀ (nodes : List PathNode),
    ∀ position ∈ positionsList nodes,
      ∀ owner ∈ position.above ++ [position.node], owner ∈ preorderList nodes
  | [], position, member, _, _ => by cases member
  | node :: rest, position, member, owner, inLine => by
      rw [preorderList, List.mem_append]
      rcases List.mem_append.mp member with first | later
      · exact .inl (mem_preorder_of_position node position first owner inLine)
      · exact .inr (mem_preorderList_of_position rest position later owner inLine)

end

/-! ## URLs -/

mutual

/-- The chain that an endpoint is placed under is that of the nodes above it; nothing
of the trees that were placed before is left in it. -/
theorem placements_eq_flatMap : ∀ (node : PathNode) (trail : List PathSegment),
    node.placements trail = node.positions.flatMap fun position =>
      position.node.endpoints.map fun endpoint =>
        (renderPath .braces (trail ++ position.chain), endpoint)
  | ⟨name, kind, endpoints, middleware, children⟩, trail => by
      rw [placements, positions, List.flatMap_cons, List.flatMap_map,
        placementsList_eq_flatMap children]
      simp only [Position.chain_below, List.append_assoc]
      rfl

theorem placementsList_eq_flatMap : ∀ (nodes : List PathNode) (trail : List PathSegment),
    placementsList trail nodes = (positionsList nodes).flatMap fun position =>
      position.node.endpoints.map fun endpoint =>
        (renderPath .braces (trail ++ position.chain), endpoint)
  | [], _ => rfl
  | node :: rest, trail => by
      rw [placementsList, positionsList, List.flatMap_append, placements_eq_flatMap node,
        placementsList_eq_flatMap rest]

end

theorem placements_eq (tree : PathNode) :
    tree.placements [] = tree.positions.flatMap fun position =>
      position.node.endpoints.map fun endpoint => (position.url, endpoint) :=
  placements_eq_flatMap tree []

/-! ## Chains

Where siblings have segments of their own, no two nodes are reached by the same chain:
chains that part at some level differ there, and a chain that ends is shorter than those
that go on. -/

theorem chain_head?_mem {nodes : List PathNode} {position : Position}
    (member : position ∈ positionsList nodes) :
    ∃ node ∈ nodes, position.chain.head? = some node.segment := by
  induction nodes with
  | nil => cases member
  | cons node rest ih =>
      rcases List.mem_append.mp member with first | later
      · refine ⟨node, List.mem_cons_self, ?_⟩
        rw [positions_eq] at first
        rcases List.mem_cons.mp first with rfl | lower
        · rfl
        · obtain ⟨lower, _, rfl⟩ := List.mem_map.mp lower
          rfl
      · obtain ⟨other, found, head⟩ := ih later
        exact ⟨other, List.mem_cons_of_mem _ found, head⟩

mutual

theorem chains_nodup : ∀ (node : PathNode),
    (∀ owner ∈ node.preorder, (owner.children.map segment).Nodup) →
      (node.positions.map Position.chain).Nodup
  | ⟨name, kind, endpoints, middleware, children⟩, siblings => by
      obtain ⟨here, lower⟩ := List.forall_mem_cons.mp siblings
      have below := chainsList_nodup children here lower
      rw [positions, List.map_cons, List.map_map, List.nodup_cons]
      constructor
      · intro member
        obtain ⟨position, _, same⟩ := List.mem_map.mp member
        exact position.chain_ne_nil (List.cons_eq_cons.mp same).2
      · have longer := below.map (List.cons_injective : Function.Injective
          (List.cons (⟨name, kind⟩ : PathSegment)))
        rwa [List.map_map] at longer

theorem chainsList_nodup : ∀ (nodes : List PathNode), (nodes.map segment).Nodup →
    (∀ owner ∈ preorderList nodes, (owner.children.map segment).Nodup) →
      ((positionsList nodes).map Position.chain).Nodup
  | [], _, _ => List.nodup_nil
  | node :: rest, apart, siblings => by
      rw [preorderList, List.forall_mem_append] at siblings
      obtain ⟨here, later⟩ := siblings
      obtain ⟨only, apartRest⟩ := List.nodup_cons.mp apart
      rw [positionsList, List.map_append]
      refine List.nodup_append.mpr
        ⟨chains_nodup node here, chainsList_nodup rest apartRest later, ?_⟩
      intro one first other second same
      obtain ⟨position, member, rfl⟩ := List.mem_map.mp first
      obtain ⟨position', member', rfl⟩ := List.mem_map.mp second
      have inFirst : position ∈ positionsList [node] := List.mem_append_left _ member
      obtain ⟨top, isTop, head⟩ := chain_head?_mem inFirst
      obtain ⟨top', isLater, head'⟩ := chain_head?_mem member'
      cases List.mem_singleton.mp isTop
      rw [same, head'] at head
      exact only (Option.some.inj head ▸ List.mem_map_of_mem isLater)

end

end RouteAtlas.PathNode

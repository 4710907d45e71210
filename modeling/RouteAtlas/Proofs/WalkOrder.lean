/-
Module: RouteAtlas.Proofs.WalkOrder
Purpose: A walk comes to its end, and visits what stands at the addresses of a tree, each
  address once and in their order; so do the endpoints, node by node.
Main exports: Enumerates, PathNode.Walk.Visits, PathNode.endpointAt?,
  PathNode.walk_enumerates
-/
import Mathlib.Data.Prod.Lex
import RouteAtlas.Proofs.Traversal

namespace RouteAtlas

/-! ## Enumerations -/

/-- A list has what stands at the places where there is something, each place once and in
the given order of places. -/
def Enumerates {ι α : Type} (before : ι → ι → Prop) (at? : ι → Option α) (items : List α) :
    Prop :=
  ∃ places : List ι, places.Pairwise before ∧ (∀ place, place ∈ places ↔ (at? place).isSome) ∧
    items.map some = places.map at?

namespace Enumerates

variable {ι κ μ α β : Type} {before : ι → ι → Prop} {beforeOne : κ → κ → Prop}
  {beforeOther : μ → μ → Prop} {at? : ι → Option α} {atOne? : κ → Option α}
  {atOther? : μ → Option α} {placeOne : κ → ι} {placeOther : μ → ι} {items others : List α}

/-- Every place with something is one of the first kind or one of the second, and those of
the first kind come before those of the second. -/
structure Joins (before : ι → ι → Prop) (at? : ι → Option α)
    (beforeOne : κ → κ → Prop) (atOne? : κ → Option α) (placeOne : κ → ι)
    (beforeOther : μ → μ → Prop) (atOther? : μ → Option α) (placeOther : μ → ι) : Prop where
  orderOne : ∀ {place place'}, beforeOne place place' → before (placeOne place) (placeOne place')
  orderOther : ∀ {place place'}, beforeOther place place' →
    before (placeOther place) (placeOther place')
  apart : ∀ place place', (atOther? place').isSome → before (placeOne place) (placeOther place')
  sameOne : ∀ place, at? (placeOne place) = atOne? place
  sameOther : ∀ place, (atOther? place).isSome → at? (placeOther place) = atOther? place
  covered : ∀ place, (at? place).isSome →
    (∃ inner, placeOne inner = place) ∨
      ∃ inner, (atOther? inner).isSome ∧ placeOther inner = place

theorem singleton (item : α) :
    Enumerates (fun _ _ => False) (fun _ : Unit => some item) [item] :=
  ⟨[()], List.pairwise_singleton _ _, by simp, rfl⟩

theorem append (joins : Joins before at? beforeOne atOne? placeOne beforeOther atOther? placeOther)
    (one : Enumerates beforeOne atOne? items) (other : Enumerates beforeOther atOther? others) :
    Enumerates before at? (items ++ others) := by
  obtain ⟨places, ascending, complete, found⟩ := one
  obtain ⟨places', ascending', complete', found'⟩ := other
  refine ⟨places.map placeOne ++ places'.map placeOther, ?ascending, ?complete, ?found⟩
  case ascending =>
    rw [List.pairwise_append, List.pairwise_map, List.pairwise_map]
    refine ⟨ascending.imp joins.orderOne, ascending'.imp joins.orderOther, ?_⟩
    intro place inOne place' inOther
    obtain ⟨inner, _, rfl⟩ := List.mem_map.mp inOne
    obtain ⟨inner', there, rfl⟩ := List.mem_map.mp inOther
    exact joins.apart inner inner' ((complete' inner').mp there)
  case complete =>
    intro place
    rw [List.mem_append, List.mem_map, List.mem_map]
    constructor
    · rintro (⟨inner, here, rfl⟩ | ⟨inner, here, rfl⟩)
      · rw [joins.sameOne]
        exact (complete inner).mp here
      · have there := (complete' inner).mp here
        rwa [joins.sameOther inner there]
    · intro there
      rcases joins.covered place there with ⟨inner, rfl⟩ | ⟨inner, filled, rfl⟩
      · rw [joins.sameOne] at there
        exact .inl ⟨inner, (complete inner).mpr there, rfl⟩
      · exact .inr ⟨inner, (complete' inner).mpr filled, rfl⟩
  case found =>
    rw [List.map_append, List.map_append, List.map_map, List.map_map, found, found']
    congr 1
    · exact List.map_congr_left fun inner _ => (joins.sameOne inner).symm
    · exact List.map_congr_left fun inner here =>
        (joins.sameOther inner ((complete' inner).mp here)).symm

theorem map_some_eq (items : List α) :
    items.map some = (List.range items.length).map fun index => items[index]? := by
  apply List.ext_getElem?
  intro index
  by_cases inside : index < items.length <;> simp [inside]

/-- The parts of the items are enumerated: a part stands at the place of its item and its
index among the parts of that item. -/
theorem flatMap (enumerates : Enumerates before at? items) (parts : α → List β) :
    Enumerates (Prod.Lex before fun index index' : Nat => index < index')
      (fun place => (at? place.1).bind fun item => (parts item)[place.2]?)
      (items.flatMap parts) := by
  obtain ⟨places, ascending, complete, found⟩ := enumerates
  let partsAt : ι → List β := fun place => ((at? place).map parts).getD []
  have part? : ∀ (place : ι) (index : Nat),
      ((at? place).bind fun item => (parts item)[index]?) = (partsAt place)[index]? := by
    intro place index
    cases filled : at? place <;> simp [partsAt, filled]
  have partsOf : items.map parts = places.map partsAt := by
    have mapped := congrArg (List.map fun item => (item.map parts).getD []) found
    simpa only [List.map_map, Function.comp_def, Option.map_some, Option.getD_some] using mapped
  simp only [part?]
  refine ⟨places.flatMap fun place => (List.range (partsAt place).length).map (place, ·),
    ?ascending, ?complete, ?found⟩
  case ascending =>
    rw [List.pairwise_flatMap]
    constructor
    · intro place _
      rw [List.pairwise_map]
      exact List.pairwise_lt_range.imp (Prod.Lex.right place)
    · refine ascending.imp ?_
      intro place place' earlier slot here slot' there
      obtain ⟨index, _, rfl⟩ := List.mem_map.mp here
      obtain ⟨index', _, rfl⟩ := List.mem_map.mp there
      exact Prod.Lex.left index index' earlier
  case complete =>
    rintro ⟨place, index⟩
    rw [isSome_getElem?, List.mem_flatMap]
    constructor
    · rintro ⟨_, _, slot⟩
      obtain ⟨_, inside, same⟩ := List.mem_map.mp slot
      cases same
      exact List.mem_range.mp inside
    · intro inside
      refine ⟨place, (complete place).mpr ?_, List.mem_map_of_mem (List.mem_range.mpr inside)⟩
      cases filled : at? place with
      | none => simp [partsAt, filled] at inside
      | some item => rfl
  case found =>
    rw [List.flatMap_def, partsOf, ← List.flatMap_def, List.map_flatMap, List.map_flatMap]
    congr 1
    funext place
    rw [List.map_map]
    exact map_some_eq (partsAt place)

end Enumerates

namespace PathNode

/-! ## A walk as a run -/

namespace Walk

variable {walk after : Walk} {node : PathNode} {nodes : List PathNode}

/-- A run of a walk up to its end, with the nodes that it visits. -/
inductive Visits : Walk → List PathNode → Prop where
  | ended {walk : Walk} (ended : walk.next? = none) : Visits walk []
  | step {walk after : Walk} {node : PathNode} {nodes : List PathNode}
      (moved : walk.next? = some (node, after)) (rest : Visits after nodes) :
      Visits walk (node :: nodes)

/-- A step takes the top of the stack and puts the children in its place, the last one
first. -/
theorem next?_eq_some_iff : walk.next? = some (node, after) ↔
    ∃ rest, walk.stack = node :: rest ∧
      after.stack = node.children.reverse.foldl (fun stack child => child :: stack) rest := by
  obtain ⟨stack⟩ := walk
  obtain ⟨stack'⟩ := after
  cases stack with
  | nil => simp [next?]
  | cons top rest =>
      simp only [next?, Option.some.injEq, Prod.mk.injEq, Walk.mk.injEq, List.cons.injEq,
        List.foldl_reverse]
      constructor
      · rintro ⟨rfl, rfl⟩
        exact ⟨rest, ⟨rfl, rfl⟩, List.foldr_cons_eq_append'.symm⟩
      · rintro ⟨_, ⟨rfl, rfl⟩, rfl⟩
        exact ⟨rfl, List.foldr_cons_eq_append'.symm⟩

theorem visits_toList (walk : Walk) : walk.Visits walk.toList := by
  fun_induction toList walk with
  | case1 walk ended => exact .ended ended
  | case2 walk node rest moved ih => exact .step moved ih

/-- A walk has one run only. -/
theorem Visits.unique {others : List PathNode} (visits : walk.Visits nodes)
    (visits' : walk.Visits others) : nodes = others := by
  induction visits generalizing others with
  | ended ended =>
      cases visits' with
      | ended => rfl
      | step moved =>
          rw [ended] at moved
          cases moved
  | step moved _ ih =>
      cases visits' with
      | ended ended =>
          rw [moved] at ended
          cases ended
      | step moved' rest' =>
          rw [moved] at moved'
          cases moved'
          rw [ih rest']

theorem visits_iff : walk.Visits nodes ↔ nodes = walk.toList := by
  constructor
  · exact fun visits => visits.unique walk.visits_toList
  · rintro rfl
    exact visits_toList walk

end Walk

/-! ## Nodes by their addresses -/

/-- The node at an address in several trees: the index of the tree and the address in
it. -/
def descendList? (nodes : List PathNode) : List Nat → Option PathNode
  | [] => none
  | index :: rest =>
      match nodes[index]? with
      | none => none
      | some node => node.descend? rest

/-- The same address when another tree is put before the others. -/
def shiftAddress : List Nat → List Nat
  | [] => []
  | index :: rest => (index + 1) :: rest

open Enumerates (Joins)

/-- The addresses in a tree are that of its top and, after it, those in its children. -/
theorem joins_children (node : PathNode) :
    Joins (· < ·) node.descend? (fun _ _ => False) (fun _ : Unit => some node) (fun _ => [])
      (· < ·) (descendList? node.children) id where
  orderOne := False.elim
  orderOther := id
  apart := by
    intro _ place filled
    cases place with
    | nil => cases filled
    | cons index rest => exact List.nil_lt_cons index rest
  sameOne := fun _ => rfl
  sameOther := by
    intro place filled
    cases place with
    | nil => cases filled
    | cons index rest => rfl
  covered := by
    intro place filled
    cases place with
    | nil => exact .inl ⟨(), rfl⟩
    | cons index rest => exact .inr ⟨index :: rest, filled, rfl⟩

/-- The addresses in several trees are those in the first one and, after them, those in the
others. -/
theorem joins_cons (node : PathNode) (nodes : List PathNode) :
    Joins (· < ·) (descendList? (node :: nodes)) (· < ·) node.descend? (0 :: ·)
      (· < ·) (descendList? nodes) shiftAddress where
  orderOne := fun earlier => List.cons_lt_cons_iff.mpr (.inr ⟨rfl, earlier⟩)
  orderOther := by
    intro place place' earlier
    cases place with
    | nil =>
        cases place' with
        | nil => exact absurd earlier (List.not_lt_nil _)
        | cons index' rest' => exact List.nil_lt_cons _ _
    | cons index rest =>
        cases place' with
        | nil => exact absurd earlier (List.not_lt_nil _)
        | cons index' rest' => simpa [shiftAddress, List.cons_lt_cons_iff] using earlier
  apart := by
    intro place place' filled
    cases place' with
    | nil => cases filled
    | cons index rest => exact List.cons_lt_cons_iff.mpr (.inl index.succ_pos)
  sameOne := fun _ => rfl
  sameOther := by
    intro place filled
    cases place with
    | nil => cases filled
    | cons index rest => rfl
  covered := by
    intro place filled
    match place with
    | [] => cases filled
    | 0 :: rest => exact .inl ⟨rest, rfl⟩
    | (index + 1) :: rest => exact .inr ⟨index :: rest, filled, rfl⟩

mutual

/-- A tree in preorder is what stands at its addresses in ascending order: an address comes
before those below it, and all below one child before all below a later one. -/
theorem preorder_enumerates : ∀ node : PathNode,
    Enumerates (· < ·) node.descend? node.preorder
  | ⟨name, kind, endpoints, middleware, children⟩ => by
      rw [preorder, ← List.singleton_append]
      exact .append (joins_children _) (.singleton _) (preorderList_enumerates children)

theorem preorderList_enumerates : ∀ nodes : List PathNode,
    Enumerates (· < ·) (descendList? nodes) (preorderList nodes)
  | [] => by
      refine ⟨[], .nil, ?_, rfl⟩
      intro place
      cases place <;> simp [descendList?]
  | node :: rest =>
      .append (joins_cons node rest) (preorder_enumerates node) (preorderList_enumerates rest)

end

/-! ## Endpoints -/

/-- The endpoint with an index at an address, and the node that owns it. -/
def endpointAt? (tree : PathNode) (place : List Nat × Nat) : Option (PathNode × Endpoint) :=
  (tree.descend? place.1).bind fun owner =>
    (owner.endpoints[place.2]?).map fun endpoint => (owner, endpoint)

/-- A walk comes to its end in one way, and visits the tree in preorder: what stands at the
addresses of the tree, each address once and in lexicographic order, so that a node comes
before its children, and all below one child before a later child.  The endpoints come in the
order of these nodes, and those of one node in their own order, each with the node that owns
it. -/
theorem walk_enumerates (tree : PathNode) :
    (∀ nodes, Walk.Visits ⟨[tree]⟩ nodes ↔ nodes = tree.walk) ∧
      tree.walk = tree.preorder ∧
      Enumerates (· < ·) tree.descend? tree.walk ∧
      Enumerates (Prod.Lex (· < ·) (· < ·)) tree.endpointAt? tree.allEndpoints := by
  have inOrder : Enumerates (· < ·) tree.descend? tree.walk := by
    rw [walk_eq_preorder]
    exact preorder_enumerates tree
  refine ⟨fun _ => Walk.visits_iff, walk_eq_preorder tree, inOrder, ?_⟩
  have endpoints := inOrder.flatMap fun owner =>
    owner.endpoints.map fun endpoint => (owner, endpoint)
  simp only [List.getElem?_map] at endpoints
  exact endpoints

end PathNode

end RouteAtlas

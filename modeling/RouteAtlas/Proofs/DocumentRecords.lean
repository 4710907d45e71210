/-
Module: RouteAtlas.Proofs.DocumentRecords
Purpose: Everything that a document records of a tree: the paths it has, and the operation
  of every method under each of them.
Main exports: PathNode.endpointsAt, OpenApi.paths_record
-/
import RouteAtlas.Proofs.DocumentPaths
import RouteAtlas.Proofs.Positions

namespace RouteAtlas

/-! ## Endpoints under one URL -/

namespace PathNode

/-- The endpoints of all nodes whose chain is written as a URL, in preorder. -/
def endpointsAt (tree : PathNode) (url : String) : List Endpoint :=
  (tree.positions.filter fun position => position.url = url).flatMap fun position =>
    position.node.endpoints

/-- The last endpoint of a method among those under a URL. -/
def lastEndpoint? (tree : PathNode) (url : String) (method : Method) : Option Endpoint :=
  (tree.endpointsAt url).reverse.find? fun endpoint => endpoint.method = method

/-- The endpoints under a URL are those that are placed there. -/
theorem endpointsAt_eq (tree : PathNode) (url : String) :
    tree.endpointsAt url =
      ((tree.placements []).filter fun entry => entry.1 = url).map Prod.snd := by
  rw [placements_eq, endpointsAt]
  induction tree.positions with
  | nil => rfl
  | cons position rest ih =>
      rw [List.flatMap_cons, List.filter_append, List.map_append, ← ih, List.filter_map,
        List.filter_cons]
      by_cases here : position.url = url
      · simp [here, Function.comp_def]
      · simp [here, Function.comp_def]

/-- The last endpoint of a method under a URL is the last one placed there. -/
theorem lastEndpoint?_eq (tree : PathNode) (url : String) (method : Method) :
    tree.lastEndpoint? url method =
      ((tree.placements []).reverse.find? (OpenApi.isPlacedAt url method)).map Prod.snd := by
  rw [lastEndpoint?, endpointsAt_eq, ← List.map_reverse, List.find?_map, ← List.filter_reverse,
    List.find?_filter]
  congr 2
  funext entry
  simp [OpenApi.isPlacedAt, OpenApi.placeOf]

theorem mem_placements_iff {tree : PathNode} {url : String} {endpoint : Endpoint} :
    (url, endpoint) ∈ tree.placements [] ↔
      ∃ position ∈ tree.positions, position.url = url ∧ endpoint ∈ position.node.endpoints := by
  rw [placements_eq, List.mem_flatMap]
  simp only [List.mem_map, Prod.mk.injEq]
  constructor
  · rintro ⟨position, member, _, bound, rfl, rfl⟩
    exact ⟨position, member, rfl, bound⟩
  · rintro ⟨position, member, rfl, bound⟩
    exact ⟨position, member, endpoint, bound, rfl, rfl⟩

end PathNode

/-! ## Documents -/

/-- The document of a tree has a path exactly where the chain down to some node with
endpoints is written like it.  Under a path each method has the operation of the last
endpoint, in preorder, of all nodes whose chains are written like it, and none if there
is no such endpoint.  The chain of a node is that of the nodes above it and of no other. -/
theorem OpenApi.paths_record (tree : PathNode) (title version server : String) :
    (ofTree tree title version server).paths.IsSorted ∧
      (∀ url, (∃ item, (url, item) ∈ (ofTree tree title version server).paths) ↔
        ∃ position ∈ tree.positions, position.node.endpoints ≠ [] ∧
          renderPath .braces position.chain = url) ∧
      ∀ url item, (url, item) ∈ (ofTree tree title version server).paths →
        ∀ method, item.get? method =
          (tree.lastEndpoint? url method).map Operation.ofEndpoint := by
  have sorted := pathsOf_isSorted tree
  refine ⟨sorted, ?_, ?_⟩
  · intro url
    have recorded : (∃ item, (url, item) ∈ pathsOf tree) ↔
        ∃ endpoint, (url, endpoint) ∈ tree.placements [] := by
      simp only [Dictionary.mem_iff_get? sorted]
      rw [← Option.isSome_iff_exists, get?_pathsOf_isSome]
      simp
    refine recorded.trans ?_
    simp only [PathNode.mem_placements_iff]
    constructor
    · rintro ⟨endpoint, position, member, sameUrl, bound⟩
      exact ⟨position, member, List.ne_nil_of_mem bound, sameUrl⟩
    · rintro ⟨position, member, some, sameUrl⟩
      obtain ⟨endpoint, bound⟩ := List.exists_mem_of_ne_nil _ some
      exact ⟨endpoint, position, member, sameUrl, bound⟩
  · intro url item member method
    have found : (pathsOf tree).get? url = some item := (Dictionary.mem_iff_get? sorted).mp member
    have filled : operation? (pathsOf tree) url method = item.get? method := by
      rw [operation?, found, Option.bind_some]
    rw [← filled, operation?_pathsOf, PathNode.lastEndpoint?_eq, Option.map_map]
    rfl

end RouteAtlas

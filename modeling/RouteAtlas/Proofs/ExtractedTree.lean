/-
Module: RouteAtlas.Proofs.ExtractedTree
Purpose: What holds everywhere in a tree that was extracted: its functions can be
  imported, and its endpoints are stored under the path of their node.
Main exports: Route.extract_descends, Route.extract_resolvesAt,
  Route.extract_importable, Route.extract_placements
-/
import RouteAtlas.OpenApi.Assembly
import RouteAtlas.Proofs.ExtractionSteps
import RouteAtlas.Proofs.PathRendering
import RouteAtlas.Proofs.SymbolLookup

namespace RouteAtlas

open Fallible

/-! ## References -/

theorem HandlerRef.importPath_of_parse {qualified : String} {ref : HandlerRef}
    (parsed : HandlerRef.parse qualified = .ok ref) : ref.importPath ≠ "" := by
  unfold parse at parsed
  split at parsed
  · cases parsed
  · next directory dotted _ =>
      split at parsed
      · cases parsed
      · split at parsed
        · cases parsed
        · cases parsed
          intro blank
          have letters := congrArg String.toList blank
          simp at letters

theorem FunctionId.importPath_of_resolve {identity : FunctionId} {ref : HandlerRef}
    (resolved : identity.resolve = .ok ref) : ref.importPath ≠ "" := by
  cases identity with
  | declared declared =>
      rw [resolve] at resolved
      split at resolved
      · cases resolved
      · next named =>
          cases resolved
          exact fun blank => named (.inl blank)
  | qualified name => exact HandlerRef.importPath_of_parse (mapError_eq_ok.mp resolved)

theorem Function.ResolveTo.importable {functions : List Function} {refs : List HandlerRef}
    (resolve : Function.ResolveTo functions refs) : ∀ ref ∈ refs, ref.importPath ≠ "" := by
  intro ref member
  obtain ⟨function, _, resolved⟩ := exists_of_mem_right resolve member
  exact FunctionId.importPath_of_resolve resolved

theorem EndpointDef.ResolvesTo.importable {keys : TagKeys} {definition : EndpointDef}
    {endpoint : Endpoint} (resolves : definition.ResolvesTo keys endpoint) :
    ∀ ref ∈ endpoint.refs, ref.importPath ≠ "" := by
  intro ref member
  rcases List.mem_cons.mp member with rfl | member
  · exact FunctionId.importPath_of_resolve resolves.handler
  · exact resolves.middleware.importable ref member

namespace Route

variable {keys : TagKeys} {route : Route} {tree : PathNode}

/-! ## Nodes of an extracted tree -/

/-- Every node of an extracted tree comes from the vertex at its address. -/
theorem extract_descends (extracted : route.extract keys = .ok tree) {address : List Nat}
    {node : PathNode} (reached : tree.descend? address = some node) :
    ∃ vertex, route.descend? address = some vertex ∧
      route.ResolvesAt keys [] [] address vertex node := by
  obtain ⟨_, resolves⟩ := extract_eq_ok_iff.mp extracted
  have related := resolves.descend address
  rw [reached] at related
  exact rel_some_right related

theorem extract_resolvesAt (extracted : route.extract keys = .ok tree) {node : PathNode}
    (visited : node ∈ tree.walk) :
    ∃ address vertex, route.descend? address = some vertex ∧
      route.ResolvesAt keys [] [] address vertex node := by
  obtain ⟨address, reached⟩ := PathNode.mem_walk_iff.mp visited
  exact ⟨address, extract_descends extracted reached⟩

/-- Every function that an extracted tree refers to has a package to import it
from. -/
theorem extract_importable (extracted : route.extract keys = .ok tree) :
    tree.IsImportable := by
  intro node visited ref member
  obtain ⟨_, vertex, _, resolved⟩ := extract_resolvesAt extracted visited
  obtain ⟨path, _, resolves, _⟩ := resolved.resolves
  obtain ⟨own, ofOwn, chain⟩ := resolved.chain
  rcases List.mem_append.mp member with inChain | inEndpoints
  · rw [chain, List.nil_append] at inChain
    exact ofOwn.importable ref inChain
  · obtain ⟨endpoint, bound, inEndpoint⟩ := List.mem_flatMap.mp inEndpoints
    have related := resolveEndpoints_eq_ok_iff.mp resolves.endpoints
    obtain ⟨entry, _, _, _, ofDefinition⟩ := exists_of_mem_right related bound
    exact ofDefinition.importable ref inEndpoint

end Route

/-! ## Paths -/

namespace Route

variable {keys : TagKeys} {route : Route} {tree : PathNode}

theorem pathBelow_visible (trail : List PathSegment) (route : Route) :
    route.pathBelow (trail.filter PathSegment.isVisible) =
      (trail ++ [route.segment]).filter PathSegment.isVisible := by
  rw [List.filter_append]
  by_cases isRoot : route.kind = .root
  · have hidden : ¬ route.segment.isVisible := by simp [PathSegment.isVisible, segment, isRoot]
    rw [pathBelow, if_pos isRoot, List.filter_cons_of_neg hidden, List.filter_nil,
      List.append_nil]
  · have visible : route.segment.isVisible := by simp [PathSegment.isVisible, segment, isRoot]
    rw [pathBelow, if_neg isRoot, List.filter_cons_of_pos visible, List.filter_nil]

mutual

/-- The place of a node gives its endpoints the URL that they hold themselves.  The
trail that leads to the node keeps roots and the path of an endpoint does not, so
the path is the visible part of the trail. -/
theorem placements_of_resolvesTo : ∀ (node : PathNode) (trail : List PathSegment)
    (route : Route) (inherited : List HandlerRef),
    route.ResolvesTo keys (trail.filter PathSegment.isVisible) inherited node →
      node.placements trail = node.preorder.flatMap fun owner =>
        owner.endpoints.map fun endpoint => (endpoint.url .braces, endpoint)
  | ⟨name, kind, endpoints, middleware, children⟩, trail, route, inherited, resolves => by
      have same : (⟨name, kind⟩ : PathSegment) = route.segment := by
        rw [segment, ← resolves.name, ← resolves.kind]
      have path := pathBelow_visible trail route
      rw [PathNode.placements, PathNode.preorder, List.flatMap_cons, same]
      congr 1
      · apply List.map_congr_left
        intro endpoint bound
        have related := resolveEndpoints_eq_ok_iff.mp resolves.endpoints
        obtain ⟨_, _, _, ofPath, _⟩ := exists_of_mem_right related bound
        rw [Endpoint.url, ofPath, path, renderPath_filter]
      · have below := resolves.children
        rw [path] at below
        exact placementsList_of_resolve children _ route.children middleware below

theorem placementsList_of_resolve : ∀ (nodes : List PathNode) (trail : List PathSegment)
    (children : List Route) (inherited : List HandlerRef),
    List.Forall₂ (fun child below => child.kind ≠ .root ∧
      child.resolve keys (trail.filter PathSegment.isVisible) inherited = .ok below)
      children nodes →
      PathNode.placementsList trail nodes =
        (PathNode.preorderList nodes).flatMap fun owner =>
          owner.endpoints.map fun endpoint => (endpoint.url .braces, endpoint)
  | [], _, _, _, _ => rfl
  | node :: rest, trail, children, inherited, related => by
      obtain ⟨child, others, ⟨_, resolved⟩, relatedRest, _⟩ :=
        List.forall₂_cons_right_iff.mp related
      rw [PathNode.placementsList, PathNode.preorderList, List.flatMap_append,
        placements_of_resolvesTo node trail child inherited (resolve_eq_ok_iff.mp resolved),
        placementsList_of_resolve rest trail others inherited relatedRest]

end

/-- In an extracted tree the URL that follows from the place of a node is the one
that its endpoints hold. -/
theorem extract_placements (extracted : route.extract keys = .ok tree) :
    tree.placements [] =
      tree.allEndpoints.map fun (_, endpoint) => (endpoint.url .braces, endpoint) := by
  obtain ⟨_, resolves⟩ := extract_eq_ok_iff.mp extracted
  rw [placements_of_resolvesTo tree [] route [] resolves, PathNode.allEndpoints_eq,
    List.map_flatMap]
  simp only [List.map_map, Function.comp_def]

end Route

end RouteAtlas

/-
Module: RouteAtlas.Proofs.ExtractionSteps
Purpose: What each step of the resolution of a route tree accepts and what it
  makes of it.
Main exports: Function.IsHandler, EndpointDef.ResolvesTo, Route.ResolvesTo,
  Route.resolve_eq_ok_iff, Route.ResolvesTo.descend
-/
import RouteAtlas.Extraction.Tree
import RouteAtlas.Proofs.Fallible
import RouteAtlas.Proofs.Traversal
import RouteAtlas.Route.Builder

namespace RouteAtlas

open Fallible

/-! ## Signatures -/

/-- A function of two inputs and two outputs: a context and a pointer to the
request, a pointer to the response and a failure.  Both pointers lead directly
to a record. -/
def Function.IsHandler (function : Function) (request response : TypeDesc) : Prop :=
  ∃ context requestPointer responsePointer failure,
    function.inputs = [context, requestPointer] ∧
      function.outputs = [responsePointer, failure] ∧
      context.shape = .context ∧
      (requestPointer.shape = .pointer request ∧
        ∃ members, request.shape = .record members) ∧
      (responsePointer.shape = .pointer response ∧
        ∃ members, response.shape = .record members) ∧
      failure.shape = .error

theorem TypeDesc.recordPointee_eq_ok {type target : TypeDesc} :
    type.recordPointee = .ok target ↔
      type.shape = .pointer target ∧ ∃ members, target.shape = .record members := by
  unfold recordPointee
  constructor
  · intro accepted
    split at accepted
    · next inner pointer =>
        split at accepted
        · cases accepted
        · next members record =>
            cases accepted
            exact ⟨pointer, members, record⟩
        · cases accepted
    · cases accepted
  · rintro ⟨pointer, members, record⟩
    rw [pointer]
    simp only
    rw [record]

theorem TypeDesc.expectContext_eq_ok {type : TypeDesc} :
    type.expectContext = .ok () ↔ type.shape = .context := by
  unfold expectContext
  split <;> simp_all

theorem TypeDesc.expectFailure_eq_ok {type : TypeDesc} :
    type.expectFailure = .ok () ↔ type.shape = .error := by
  unfold expectFailure
  split <;> simp_all

theorem expectTwo_eq_ok {target : String} {types : List TypeDesc} {first second : TypeDesc} :
    expectTwo target types = .ok (first, second) ↔ types = [first, second] := by
  unfold expectTwo
  split
  · simp
  · next differ =>
      constructor
      · intro accepted
        cases accepted
      · intro same
        exact absurd same (differ first second)

/-- The check of a signature gives two records exactly when they are the request
and the response of a handler. -/
theorem Function.records_eq_ok_iff {function : Function} {request response : TypeDesc} :
    function.records = .ok (request, response) ↔ function.IsHandler request response := by
  unfold records
  constructor
  · intro accepted
    obtain ⟨⟨context, requestPointer⟩, inputs, accepted⟩ := bind_eq_ok.mp accepted
    obtain ⟨⟨responsePointer, failure⟩, outputs, accepted⟩ := bind_eq_ok.mp accepted
    obtain ⟨_, isContext, accepted⟩ := bind_eq_ok.mp accepted
    obtain ⟨first, toRequest, accepted⟩ := bind_eq_ok.mp accepted
    obtain ⟨second, toResponse, accepted⟩ := bind_eq_ok.mp accepted
    obtain ⟨_, isFailure, accepted⟩ := bind_eq_ok.mp accepted
    cases accepted
    exact ⟨context, requestPointer, responsePointer, failure, expectTwo_eq_ok.mp inputs,
      expectTwo_eq_ok.mp outputs, TypeDesc.expectContext_eq_ok.mp isContext,
      TypeDesc.recordPointee_eq_ok.mp toRequest, TypeDesc.recordPointee_eq_ok.mp toResponse,
      TypeDesc.expectFailure_eq_ok.mp isFailure⟩
  · rintro ⟨context, requestPointer, responsePointer, failure, inputs, outputs, isContext,
      toRequest, toResponse, isFailure⟩
    refine bind_eq_ok.mpr ⟨_, expectTwo_eq_ok.mpr inputs, ?_⟩
    refine bind_eq_ok.mpr ⟨_, expectTwo_eq_ok.mpr outputs, ?_⟩
    refine bind_eq_ok.mpr ⟨_, TypeDesc.expectContext_eq_ok.mpr isContext, ?_⟩
    refine bind_eq_ok.mpr ⟨_, TypeDesc.recordPointee_eq_ok.mpr toRequest, ?_⟩
    refine bind_eq_ok.mpr ⟨_, TypeDesc.recordPointee_eq_ok.mpr toResponse, ?_⟩
    exact bind_eq_ok.mpr ⟨_, TypeDesc.expectFailure_eq_ok.mpr isFailure, rfl⟩

/-! ## Endpoints -/

/-- Functions and the references that their identities denote, one for one. -/
def Function.ResolveTo (functions : List Function) (refs : List HandlerRef) : Prop :=
  List.Forall₂ (fun function ref => function.identity.resolve = .ok ref) functions refs

theorem resolveMiddleware_eq_ok_iff {functions : List Function} {refs : List HandlerRef} :
    resolveMiddleware functions = .ok refs ↔ Function.ResolveTo functions refs := by
  unfold resolveMiddleware Function.ResolveTo
  simp only [mapM_eq_ok, mapError_eq_ok]

/-- A definition and an endpoint that it may stand for, on whatever method and
path. -/
structure EndpointDef.ResolvesTo (keys : TagKeys) (definition : EndpointDef)
    (endpoint : Endpoint) : Prop where
  description : endpoint.description = definition.description
  authorization : endpoint.authorization = definition.authorization
  handler : definition.handler.identity.resolve = .ok endpoint.handler
  records : ∃ request response, definition.handler.IsHandler request response ∧
    Data.ofType keys request = .ok endpoint.body ∧
    Data.ofType keys response = .ok endpoint.response
  middleware : Function.ResolveTo definition.middleware endpoint.middleware

theorem Endpoint.ofDef_eq_ok_iff {keys : TagKeys} {method : Method} {path : List PathSegment}
    {definition : EndpointDef} {endpoint : Endpoint} :
    Endpoint.ofDef keys method path definition = .ok endpoint ↔
      endpoint.method = method ∧ endpoint.path = path ∧
        definition.ResolvesTo keys endpoint := by
  unfold ofDef
  constructor
  · intro accepted
    obtain ⟨handler, resolved, accepted⟩ := bind_eq_ok.mp accepted
    obtain ⟨⟨request, response⟩, records, accepted⟩ := bind_eq_ok.mp accepted
    obtain ⟨body, ofRequest, accepted⟩ := bind_eq_ok.mp accepted
    obtain ⟨answer, ofResponse, accepted⟩ := bind_eq_ok.mp accepted
    obtain ⟨middleware, ofOwn, accepted⟩ := bind_eq_ok.mp accepted
    cases accepted
    have isHandler := Function.records_eq_ok_iff.mp (mapError_eq_ok.mp records)
    exact ⟨rfl, rfl, {
      description := rfl
      authorization := rfl
      handler := mapError_eq_ok.mp resolved
      records := ⟨request, response, isHandler, mapError_eq_ok.mp ofRequest,
        mapError_eq_ok.mp ofResponse⟩
      middleware := resolveMiddleware_eq_ok_iff.mp (mapError_eq_ok.mp ofOwn) }⟩
  · rintro ⟨rfl, rfl, resolves⟩
    obtain ⟨description, authorization, resolved, records, ofOwn⟩ := resolves
    obtain ⟨request, response, isHandler, ofRequest, ofResponse⟩ := records
    refine bind_eq_ok.mpr ⟨_, mapError_eq_ok.mpr resolved, ?_⟩
    refine bind_eq_ok.mpr ⟨(request, response),
      mapError_eq_ok.mpr (Function.records_eq_ok_iff.mpr isHandler), ?_⟩
    refine bind_eq_ok.mpr ⟨_, mapError_eq_ok.mpr ofRequest, ?_⟩
    refine bind_eq_ok.mpr ⟨_, mapError_eq_ok.mpr ofResponse, ?_⟩
    refine bind_eq_ok.mpr
      ⟨_, mapError_eq_ok.mpr (resolveMiddleware_eq_ok_iff.mpr ofOwn), ?_⟩
    rw [← description, ← authorization]
    rfl

namespace Route

variable {keys : TagKeys} {parent : List PathSegment} {inherited : List HandlerRef}
  {route vertex : Route} {node below : PathNode}

theorem resolveEndpoints_eq_ok_iff {path : List PathSegment} {endpoints : List Endpoint} :
    route.resolveEndpoints keys path = .ok endpoints ↔
      List.Forall₂ (fun entry endpoint => endpoint.method = entry.1 ∧
        endpoint.path = path ∧ entry.2.ResolvesTo keys endpoint)
      route.endpoints.toList endpoints := by
  unfold resolveEndpoints
  simp only [mapM_eq_ok, mapError_eq_ok, Endpoint.ofDef_eq_ok_iff]

/-! ## Vertices -/

/-- A vertex and the node that it becomes below a path and a chain of
middleware. -/
structure ResolvesTo (keys : TagKeys) (parent : List PathSegment)
    (inherited : List HandlerRef) (route : Route) (node : PathNode) : Prop where
  name : node.name = route.name
  kind : node.kind = route.kind
  endpoints : route.resolveEndpoints keys (route.pathBelow parent) = .ok node.endpoints
  middleware : ∃ own, Function.ResolveTo route.middleware own ∧
    node.middleware = inherited ++ own
  children : List.Forall₂ (fun child below => child.kind ≠ .root ∧
      child.resolve keys (route.pathBelow parent) node.middleware = .ok below)
    route.children node.children

theorem resolveList_eq_ok_iff {children : List Route} {nodes : List PathNode} :
    resolveList keys parent inherited children = .ok nodes ↔
      List.Forall₂ (fun child below => child.kind ≠ .root ∧
        child.resolve keys parent inherited = .ok below) children nodes := by
  induction children generalizing nodes with
  | nil =>
      rw [resolveList, List.forall₂_nil_left_iff]
      simp [eq_comm]
  | cons child rest ih =>
      obtain ⟨name, kind, endpoints, middleware, grandchildren⟩ := child
      rw [resolveList, List.forall₂_cons_left_iff]
      by_cases isRoot : kind = .root
      · rw [if_pos isRoot]
        constructor
        · intro accepted
          cases accepted
        · rintro ⟨_, _, ⟨notRoot, _⟩, _⟩
          exact absurd isRoot notRoot
      · rw [if_neg isRoot]
        constructor
        · intro accepted
          obtain ⟨node, resolved, accepted⟩ := bind_eq_ok.mp accepted
          obtain ⟨others, resolvedRest, accepted⟩ := bind_eq_ok.mp accepted
          cases accepted
          exact ⟨node, others, ⟨isRoot, resolved⟩, ih.mp resolvedRest, rfl⟩
        · rintro ⟨node, others, ⟨_, resolved⟩, resolvedRest, rfl⟩
          exact bind_eq_ok.mpr
            ⟨node, resolved, bind_eq_ok.mpr ⟨others, ih.mpr resolvedRest, rfl⟩⟩

/-- Everything that the resolution of a vertex can do. -/
theorem resolve_eq_ok_iff :
    route.resolve keys parent inherited = .ok node ↔
      route.ResolvesTo keys parent inherited node := by
  obtain ⟨name, kind, endpoints, middleware, children⟩ := route
  rw [resolve]
  constructor
  · intro accepted
    obtain ⟨resolved, bound, accepted⟩ := bind_eq_ok.mp accepted
    obtain ⟨own, ofOwn, accepted⟩ := bind_eq_ok.mp accepted
    obtain ⟨below, ofChildren, accepted⟩ := bind_eq_ok.mp accepted
    cases accepted
    exact {
      name := rfl
      kind := rfl
      endpoints := bound
      middleware :=
        ⟨own, resolveMiddleware_eq_ok_iff.mp (mapError_eq_ok.mp ofOwn), rfl⟩
      children := resolveList_eq_ok_iff.mp ofChildren }
  · intro resolves
    obtain ⟨sameName, sameKind, bound, ⟨own, ofOwn, chain⟩, ofChildren⟩ := resolves
    refine bind_eq_ok.mpr ⟨node.endpoints, bound, ?_⟩
    refine bind_eq_ok.mpr
      ⟨own, mapError_eq_ok.mpr (resolveMiddleware_eq_ok_iff.mpr ofOwn), ?_⟩
    rw [← chain]
    refine bind_eq_ok.mpr ⟨node.children, resolveList_eq_ok_iff.mpr ofChildren, ?_⟩
    obtain ⟨_, _, _, _, _⟩ := node
    cases sameName
    cases sameKind
    rfl

theorem extract_eq_ok_iff :
    route.extract keys = .ok node ↔
      route.kind = .root ∧ route.ResolvesTo keys [] [] node := by
  unfold extract
  rw [← resolve_eq_ok_iff]
  by_cases isRoot : route.kind = .root
  · rw [if_pos isRoot]
    exact ⟨fun resolved => ⟨isRoot, resolved⟩, fun accepted => accepted.2⟩
  · rw [if_neg isRoot]
    constructor
    · intro accepted
      cases accepted
    · intro accepted
      exact absurd accepted.1 isRoot

/-! ## Addresses -/

/-- The vertices from a vertex down to the one at an address below it, both
included. -/
def lineage (route : Route) : List Nat → List Route
  | [] => [route]
  | index :: rest =>
      match route.children[index]? with
      | none => [route]
      | some child => route :: child.lineage rest

theorem lineage_eq_cons (route : Route) (address : List Nat) :
    route.lineage address = route :: (route.lineage address).tail := by
  cases address with
  | nil => rfl
  | cons index rest =>
      rw [lineage]
      cases route.children[index]? <;> rfl

/-- How the vertex and the node at an address belong together, when the tops of
their trees do: the vertex resolves to the node below the path and below the
middleware of the vertices that lead to it, and only the top can be a root. -/
structure ResolvesAt (keys : TagKeys) (parent : List PathSegment)
    (inherited : List HandlerRef) (route : Route) (address : List Nat)
    (vertex : Route) (below : PathNode) : Prop where
  resolves : ∃ path chain, vertex.ResolvesTo keys path chain below ∧
    vertex.pathBelow path =
      route.pathBelow parent ++ (route.lineage address).tail.map Route.segment
  chain : ∃ own, Function.ResolveTo ((route.lineage address).flatMap Route.middleware) own ∧
    below.middleware = inherited ++ own
  top : address = [] → vertex = route
  nested : address ≠ [] → vertex.kind ≠ .root

theorem pathBelow_of_ne_root (nested : route.kind ≠ .root) :
    route.pathBelow parent = parent ++ [route.segment] :=
  if_neg nested

/-- A vertex and its node have children at the same places, and they resolve. -/
theorem ResolvesTo.child (resolves : route.ResolvesTo keys parent inherited node)
    (index : Nat) :
    Option.Rel (fun child below => child.kind ≠ .root ∧
        child.ResolvesTo keys (route.pathBelow parent) node.middleware below)
      route.children[index]? node.children[index]? := by
  have below := rel_getElem? resolves.children index
  simpa only [resolve_eq_ok_iff] using below

/-- What holds at an address below a child holds at the longer address below its
parent. -/
theorem ResolvesAt.above {child vertex : Route} {lower : PathNode} {index : Nat}
    {rest : List Nat}
    (resolved : child.ResolvesAt keys (route.pathBelow parent) node.middleware rest vertex lower)
    (resolves : route.ResolvesTo keys parent inherited node) (nested : child.kind ≠ .root)
    (line : route.lineage (index :: rest) = route :: child.lineage rest) :
    route.ResolvesAt keys parent inherited (index :: rest) vertex lower := by
  obtain ⟨⟨path, chain, resolvesVertex, samePath⟩, ⟨own, ofOwn, sameChain⟩, top, deeper⟩ :=
    resolved
  obtain ⟨first, ofFirst, firstChain⟩ := resolves.middleware
  refine ⟨⟨path, chain, resolvesVertex, ?_⟩, ⟨first ++ own, ?_, ?_⟩, ?_, fun _ => ?_⟩
  · rw [samePath, pathBelow_of_ne_root nested, line, List.tail_cons, lineage_eq_cons child,
      List.map_cons, List.append_assoc]
    rfl
  · rw [line, List.flatMap_cons]
    exact List.rel_append ofFirst ofOwn
  · rw [sameChain, firstChain, List.append_assoc]
  · exact fun atTop => absurd atTop (List.cons_ne_nil index rest)
  · by_cases here : rest = []
    · rw [top here]
      exact nested
    · exact deeper here

/-- Whatever is resolved is resolved at every address.  The path and the middleware
that come from above differ from level to level, so the induction on the address
is over all of them. -/
theorem ResolvesTo.descend (resolves : route.ResolvesTo keys parent inherited node)
    (address : List Nat) :
    Option.Rel (route.ResolvesAt keys parent inherited address)
      (route.descend? address) (node.descend? address) := by
  induction address generalizing route node parent inherited with
  | nil =>
      obtain ⟨own, ofOwn, chain⟩ := resolves.middleware
      refine .some ⟨⟨parent, inherited, resolves, ?_⟩, ⟨own, ?_, chain⟩, fun _ => rfl, ?_⟩
      · simp [lineage]
      · simpa [lineage] using ofOwn
      · exact fun below => absurd rfl below
  | cons index rest ih =>
      have related := resolves.child index
      rw [descend?, PathNode.descend?]
      cases atRoute : route.children[index]? with
      | none =>
          rw [atRoute] at related
          rw [rel_none_left related]
          exact .none
      | some child =>
          rw [atRoute] at related
          obtain ⟨below, atNode, nested, resolvesChild⟩ := rel_some_left related
          rw [atNode]
          have line : route.lineage (index :: rest) = route :: child.lineage rest := by
            rw [lineage, atRoute]
          exact rel_mono (fun vertex lower resolved =>
            resolved.above resolves nested line) (ih resolvesChild)

end Route

end RouteAtlas

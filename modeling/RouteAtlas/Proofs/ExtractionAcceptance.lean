/-
Module: RouteAtlas.Proofs.ExtractionAcceptance
Purpose: Exactly which trees of routes are extracted: every vertex at every
  depth is checked, and nothing else decides.
Main exports: EndpointDef.IsAcceptable, Route.IsAcceptable,
  Route.extract_accepts_iff
-/
import RouteAtlas.Proofs.ExtractionSteps

namespace RouteAtlas

open Fallible

/-! ## What is asked of one vertex -/

/-- A function whose identity denotes a reference. -/
def Function.IsResolvable (function : Function) : Prop :=
  ∃ ref, function.identity.resolve = .ok ref

/-- A record type from which a schema can be made. -/
def TypeDesc.IsDescribable (keys : TagKeys) (type : TypeDesc) : Prop :=
  ∃ data, Data.ofType keys type = .ok data

/-- A definition whose functions can be referred to, whose handler has the
signature of handlers, and whose records have schemas. -/
structure EndpointDef.IsAcceptable (keys : TagKeys) (definition : EndpointDef) : Prop where
  handler : definition.handler.IsResolvable
  records : ∃ request response, definition.handler.IsHandler request response ∧
    request.IsDescribable keys ∧ response.IsDescribable keys
  middleware : ∀ function ∈ definition.middleware, function.IsResolvable

/-- A vertex of which nothing is refused. -/
structure Route.IsAcceptable (keys : TagKeys) (route : Route) : Prop where
  middleware : ∀ function ∈ route.middleware, function.IsResolvable
  endpoints : ∀ method definition, route.endpoints.get? method = some definition →
    definition.IsAcceptable keys

theorem resolveMiddleware_succeeds_iff {functions : List Function} :
    (∃ refs, resolveMiddleware functions = .ok refs) ↔
      ∀ function ∈ functions, function.IsResolvable := by
  unfold resolveMiddleware Function.IsResolvable
  simp only [mapM_succeeds_iff, mapError_eq_ok]

theorem Endpoint.ofDef_succeeds_iff {keys : TagKeys} {method : Method}
    {path : List PathSegment} {definition : EndpointDef} :
    (∃ endpoint, Endpoint.ofDef keys method path definition = .ok endpoint) ↔
      definition.IsAcceptable keys := by
  constructor
  · rintro ⟨endpoint, accepted⟩
    obtain ⟨_, _, resolves⟩ := Endpoint.ofDef_eq_ok_iff.mp accepted
    obtain ⟨request, response, isHandler, ofRequest, ofResponse⟩ := resolves.records
    have ofOwn := resolveMiddleware_eq_ok_iff.mpr resolves.middleware
    exact {
      handler := ⟨endpoint.handler, resolves.handler⟩
      records := ⟨request, response, isHandler, ⟨endpoint.body, ofRequest⟩,
        ⟨endpoint.response, ofResponse⟩⟩
      middleware := resolveMiddleware_succeeds_iff.mp ⟨endpoint.middleware, ofOwn⟩ }
  · intro acceptable
    obtain ⟨handler, ofHandler⟩ := acceptable.handler
    obtain ⟨request, response, isHandler, ⟨body, ofRequest⟩, answer, ofResponse⟩ :=
      acceptable.records
    obtain ⟨middleware, ofOwn⟩ := resolveMiddleware_succeeds_iff.mpr acceptable.middleware
    refine ⟨⟨method, path, definition.description, definition.authorization, body, answer,
      handler, middleware⟩, Endpoint.ofDef_eq_ok_iff.mpr ⟨rfl, rfl, ?_⟩⟩
    exact {
      description := rfl
      authorization := rfl
      handler := ofHandler
      records := ⟨request, response, isHandler, ofRequest, ofResponse⟩
      middleware := resolveMiddleware_eq_ok_iff.mp ofOwn }

namespace Route

variable {keys : TagKeys} {parent : List PathSegment} {inherited : List HandlerRef}
  {route : Route} {node : PathNode}

theorem resolveEndpoints_succeeds_iff {path : List PathSegment} :
    (∃ endpoints, route.resolveEndpoints keys path = .ok endpoints) ↔
      ∀ method definition, route.endpoints.get? method = some definition →
        definition.IsAcceptable keys := by
  unfold resolveEndpoints
  simp only [mapM_succeeds_iff, mapError_eq_ok, Endpoint.ofDef_succeeds_iff, Prod.forall,
    Method.Map.mem_toList]

theorem ResolvesTo.isAcceptable (resolves : route.ResolvesTo keys parent inherited node) :
    route.IsAcceptable keys := by
  obtain ⟨own, ofOwn, _⟩ := resolves.middleware
  have accepted := resolveMiddleware_eq_ok_iff.mpr ofOwn
  exact ⟨resolveMiddleware_succeeds_iff.mp ⟨own, accepted⟩,
    resolveEndpoints_succeeds_iff.mp ⟨node.endpoints, resolves.endpoints⟩⟩

/-! ## Whole trees -/

/-- A tree below whose top there is no root, and of which no vertex is
refused. -/
def IsSound (keys : TagKeys) (route : Route) : Prop :=
  ∀ address vertex, route.descend? address = some vertex →
    (vertex.kind = .root → address = []) ∧ vertex.IsAcceptable keys

/-- The tree below a child of a sound tree is sound, and its top is no root. -/
theorem IsSound.child (sound : route.IsSound keys) {child : Route}
    (member : child ∈ route.children) : child.kind ≠ .root ∧ child.IsSound keys := by
  obtain ⟨index, found⟩ := List.getElem?_of_mem member
  have below : ∀ rest, route.descend? (index :: rest) = child.descend? rest := by
    intro rest
    rw [descend?, found]
  constructor
  · intro isRoot
    have top := (sound [index] child (below [])).1 isRoot
    cases top
  · intro address vertex reached
    obtain ⟨top, acceptable⟩ := sound (index :: address) vertex ((below address).trans reached)
    refine ⟨fun isRoot => ?_, acceptable⟩
    cases top isRoot

mutual

theorem resolve_succeeds : ∀ (route : Route) (parent : List PathSegment)
    (inherited : List HandlerRef), route.IsSound keys →
      ∃ node, route.resolve keys parent inherited = .ok node
  | ⟨name, kind, endpoints, middleware, children⟩, parent, inherited, sound => by
      have acceptable := (sound [] _ rfl).2
      obtain ⟨own, ofOwn⟩ := resolveMiddleware_succeeds_iff.mpr acceptable.middleware
      obtain ⟨resolved, bound⟩ := resolveEndpoints_succeeds_iff.mpr acceptable.endpoints
      obtain ⟨below, ofChildren⟩ := resolveList_succeeds children
        (pathBelow parent ⟨name, kind, endpoints, middleware, children⟩) (inherited ++ own)
        (fun child member => sound.child member)
      refine ⟨⟨name, kind, resolved, inherited ++ own, below⟩, resolve_eq_ok_iff.mpr ?_⟩
      exact {
        name := rfl
        kind := rfl
        endpoints := bound
        middleware := ⟨own, resolveMiddleware_eq_ok_iff.mp ofOwn, rfl⟩
        children := resolveList_eq_ok_iff.mp ofChildren }

theorem resolveList_succeeds : ∀ (children : List Route) (parent : List PathSegment)
    (inherited : List HandlerRef),
    (∀ child ∈ children, child.kind ≠ .root ∧ child.IsSound keys) →
      ∃ nodes, resolveList keys parent inherited children = .ok nodes
  | [], _, _, _ => ⟨[], rfl⟩
  | child :: rest, parent, inherited, sound => by
      obtain ⟨nested, soundChild⟩ := sound child List.mem_cons_self
      obtain ⟨node, resolved⟩ := resolve_succeeds child parent inherited soundChild
      obtain ⟨others, resolvedRest⟩ := resolveList_succeeds rest parent inherited
        fun other member => sound other (List.mem_cons_of_mem child member)
      exact ⟨node :: others, resolveList_eq_ok_iff.mpr
        (.cons ⟨nested, resolved⟩ (resolveList_eq_ok_iff.mp resolvedRest))⟩

end

theorem ResolvesTo.isSound (resolves : route.ResolvesTo keys parent inherited node) :
    route.IsSound keys := by
  intro address vertex reached
  have related := resolves.descend address
  rw [reached] at related
  obtain ⟨below, _, resolved⟩ := rel_some_left related
  obtain ⟨_, _, resolvesVertex, _⟩ := resolved.resolves
  refine ⟨fun isRoot => ?_, resolvesVertex.isAcceptable⟩
  by_contra nested
  exact resolved.nested nested isRoot

/-- A tree of routes is extracted exactly when its top is the only root and no
vertex, at whatever depth, has a function that cannot be referred to, a handler
of another signature or a record without a schema.  Otherwise there is an error
and no tree. -/
theorem extract_accepts_iff (keys : TagKeys) (route : Route) :
    ((∃ tree, route.extract keys = .ok tree) ↔
        ∀ address vertex, route.descend? address = some vertex →
          (vertex.kind = .root ↔ address = []) ∧ vertex.IsAcceptable keys) ∧
      ((∃ error, route.extract keys = .error error) ↔
        ∃ address vertex, route.descend? address = some vertex ∧
          ¬ ((vertex.kind = .root ↔ address = []) ∧ vertex.IsAcceptable keys)) := by
  have accepts : (∃ tree, route.extract keys = .ok tree) ↔
      ∀ address vertex, route.descend? address = some vertex →
        (vertex.kind = .root ↔ address = []) ∧ vertex.IsAcceptable keys := by
    constructor
    · rintro ⟨tree, extracted⟩ address vertex reached
      obtain ⟨isRoot, resolves⟩ := extract_eq_ok_iff.mp extracted
      obtain ⟨top, acceptable⟩ := resolves.isSound address vertex reached
      refine ⟨⟨top, fun atTop => ?_⟩, acceptable⟩
      subst atTop
      cases reached
      exact isRoot
    · intro holds
      have isRoot : route.kind = .root := (holds [] route rfl).1.mpr rfl
      have sound : route.IsSound keys := by
        intro address vertex reached
        obtain ⟨top, acceptable⟩ := holds address vertex reached
        exact ⟨top.mp, acceptable⟩
      obtain ⟨tree, resolved⟩ := resolve_succeeds route [] [] sound
      exact ⟨tree, extract_eq_ok_iff.mpr ⟨isRoot, resolve_eq_ok_iff.mp resolved⟩⟩
  refine ⟨accepts, ?_⟩
  rw [fails_iff, accepts]
  simp only [not_forall, exists_prop]

end Route

end RouteAtlas

/-
Module: RouteAtlas.Proofs.ExtractionDemands
Purpose: Everything that is asked of a tree of routes, in the order in which it is
  asked.  The tree is refused for the first thing that is asked in vain.
Main exports: EndpointDef.Demand, Route.Demand, Route.demands, Route.extract_faultsFirst
-/
import RouteAtlas.Proofs.ExtractionSteps

namespace RouteAtlas

open Fallible

/-! ## Demands -/

/-- What is reported of a middleware function that cannot be referred to. -/
def Function.middlewareFault? (function : Function) : Option Error :=
  Fallible.fault? <| function.identity.resolve.mapError
    (Error.duringOn "parse middleware function" function.identity.display)

namespace EndpointDef

/-- One thing that is asked of a definition. -/
inductive Demand where
  /-- The handler can be referred to. -/
  | handler (function : Function)
  /-- The handler has the signature of handlers. -/
  | signature (function : Function)
  /-- A schema can be made of what the handler takes. -/
  | request (function : Function)
  /-- A schema can be made of what the handler gives. -/
  | response (function : Function)
  /-- A middleware function can be referred to. -/
  | middleware (function : Function)

/-- What is reported if something is asked in vain.  The records of a handler are known
only if it has the signature of handlers. -/
def Demand.fault? (keys : TagKeys) : Demand → Option Error
  | .handler function =>
      Fallible.fault? <| function.identity.resolve.mapError
        (Error.during "parse function identifiers")
  | .signature function =>
      Fallible.fault? <| function.records.mapError (Error.signature function.signature)
  | .request function =>
      match function.records with
      | .error _ => none
      | .ok (taken, _) =>
          Fallible.fault? <| (Data.ofType keys taken).mapError
            (Error.duringOn "parse body" taken.name)
  | .response function =>
      match function.records with
      | .error _ => none
      | .ok (_, given) =>
          Fallible.fault? <| (Data.ofType keys given).mapError
            (Error.duringOn "parse response" given.name)
  | .middleware function =>
      function.middlewareFault?.map (Error.during "parse endpoint middleware")

/-- The signature of a handler is asked for. -/
def Demand.IsSignature : Demand → Prop
  | .signature _ => True
  | _ => False

/-- All that is asked of a definition, in order. -/
def demands (definition : EndpointDef) : List Demand :=
  [.handler definition.handler, .signature definition.handler, .request definition.handler,
    .response definition.handler] ++ definition.middleware.map .middleware

end EndpointDef

namespace Route

/-- One thing that is asked of a tree of routes. -/
inductive Demand where
  /-- The top of the tree is a root. -/
  | top (kind : PathKind)
  /-- A vertex below others is no root. -/
  | nested (parent : List PathSegment) (kind : PathKind)
  /-- Something that is asked of the definition for a method of a path. -/
  | endpoint (method : Method) (path : List PathSegment) (demand : EndpointDef.Demand)
  /-- A middleware function of a vertex can be referred to. -/
  | middleware (function : Function)

/-- What is reported if something is asked in vain. -/
def Demand.fault? (keys : TagKeys) : Demand → Option Error
  | .top kind =>
      if kind = .root then none
      else some (.wrongValue "top-level path kind" kind.name "root")
  | .nested parent kind =>
      if kind = .root then
        some <| (Error.wrongValue "nested path kind" "root" "static|param").duringOn
          "parse path" (renderPath .colon parent)
      else none
  | .endpoint method path demand =>
      (demand.fault? keys).map <| Error.duringOn "parse endpoint" <|
        method.name ++ " " ++ renderPath .colon path
  | .middleware function =>
      function.middlewareFault?.map (Error.during "parse middleware")

/-- The signature of a handler is asked for. -/
def Demand.IsSignature : Demand → Prop
  | .endpoint _ _ demand => demand.IsSignature
  | _ => False

mutual

/-- All that is asked of a vertex and of those below it: first of its endpoints, in the
order of their methods, then of its middleware, then of one child after another. -/
def demandsBelow (parent : List PathSegment) : Route → List Demand
  | ⟨name, kind, endpoints, middleware, children⟩ =>
      let path := pathBelow parent ⟨name, kind, endpoints, middleware, children⟩
      (endpoints.toList.flatMap fun entry => entry.2.demands.map (.endpoint entry.1 path)) ++
        (middleware.map .middleware ++ demandsOfChildren path children)

/-- All that is asked of children, each of which must not be a root. -/
def demandsOfChildren (parent : List PathSegment) : List Route → List Demand
  | [] => []
  | ⟨name, kind, endpoints, middleware, children⟩ :: rest =>
      .nested parent kind ::
        (demandsBelow parent ⟨name, kind, endpoints, middleware, children⟩ ++
          demandsOfChildren parent rest)

end

/-- All that is asked of a tree of routes, in order. -/
def demands (route : Route) : List Demand :=
  .top route.kind :: route.demandsBelow []

end Route

/-! ## The first of them that is refused -/

variable {keys : TagKeys}

theorem resolveMiddleware_faultsFirst (functions : List Function) :
    FaultsFirst Function.middlewareFault? functions (resolveMiddleware functions) := by
  have each : FaultsFirst Function.middlewareFault? (functions.flatMap fun function => [function])
      (resolveMiddleware functions) := .mapM fun function _ => .single rfl
  rwa [List.flatMap_singleton'] at each

theorem Endpoint.ofDef_faultsFirst (method : Method) (path : List PathSegment)
    (definition : EndpointDef) :
    FaultsFirst (EndpointDef.Demand.fault? keys) definition.demands
      (Endpoint.ofDef keys method path definition) := by
  have handler : FaultsFirst (EndpointDef.Demand.fault? keys) [.handler definition.handler]
      (definition.handler.identity.resolve.mapError _) := .single rfl
  have signature : FaultsFirst (EndpointDef.Demand.fault? keys) [.signature definition.handler]
      (definition.handler.records.mapError _) := .single rfl
  have middleware : FaultsFirst (EndpointDef.Demand.fault? keys)
      (definition.middleware.map .middleware)
      ((resolveMiddleware definition.middleware).mapError _) :=
    (resolveMiddleware_faultsFirst definition.middleware).mapError fun _ => rfl
  -- The records are known only from a signature that was accepted.
  refine handler.bind fun _ _ => signature.bind fun records ran => ?_
  obtain ⟨taken, given⟩ := records
  have known := mapError_eq_ok.mp ran
  have request : FaultsFirst (EndpointDef.Demand.fault? keys) [.request definition.handler]
      ((Data.ofType keys taken).mapError (Error.duringOn "parse body" taken.name)) :=
    .single (by rw [EndpointDef.Demand.fault?, known])
  have response : FaultsFirst (EndpointDef.Demand.fault? keys) [.response definition.handler]
      ((Data.ofType keys given).mapError (Error.duringOn "parse response" given.name)) :=
    .single (by rw [EndpointDef.Demand.fault?, known])
  exact request.bind fun _ _ => response.bind fun _ _ => middleware.map _

namespace Route

theorem resolveEndpoints_faultsFirst (path : List PathSegment) (route : Route) :
    FaultsFirst (Demand.fault? keys)
      (route.endpoints.toList.flatMap fun entry => entry.2.demands.map (.endpoint entry.1 path))
      (route.resolveEndpoints keys path) :=
  .mapM fun entry _ =>
    (Endpoint.ofDef_faultsFirst entry.1 path entry.2).mapError fun _ => rfl

mutual

theorem resolve_faultsFirst : ∀ (route : Route) (parent : List PathSegment)
    (inherited : List HandlerRef),
    FaultsFirst (Demand.fault? keys) (route.demandsBelow parent)
      (route.resolve keys parent inherited)
  | ⟨name, kind, endpoints, middleware, children⟩, parent, inherited => by
      rw [demandsBelow, resolve]
      let route : Route := ⟨name, kind, endpoints, middleware, children⟩
      have ofEndpoints := @resolveEndpoints_faultsFirst keys (route.pathBelow parent) route
      have ofMiddleware : FaultsFirst (Demand.fault? keys) (middleware.map .middleware)
          ((resolveMiddleware middleware).mapError _) :=
        (resolveMiddleware_faultsFirst middleware).mapError fun _ => rfl
      refine ofEndpoints.bind fun _ _ => ofMiddleware.bind fun own _ => ?_
      exact (resolveList_faultsFirst children _ _).map _

theorem resolveList_faultsFirst : ∀ (children : List Route) (parent : List PathSegment)
    (inherited : List HandlerRef),
    FaultsFirst (Demand.fault? keys) (demandsOfChildren parent children)
      (resolveList keys parent inherited children)
  | [], _, _ => .ofPure []
  | ⟨name, kind, endpoints, middleware, children⟩ :: rest, parent, inherited => by
      rw [demandsOfChildren, resolveList]
      by_cases isRoot : kind = .root
      · rw [if_pos isRoot]
        exact .refused (if_pos isRoot) rfl
      · rw [if_neg isRoot]
        refine .passed (if_neg isRoot) ?_
        have first := resolve_faultsFirst
          ⟨name, kind, endpoints, middleware, children⟩ parent inherited
        exact first.bind fun _ _ => (resolveList_faultsFirst rest parent inherited).map _

end

/-- A tree of routes is refused for the first thing that is asked of it in vain. -/
theorem extract_faultsFirst (route : Route) :
    FaultsFirst (Demand.fault? keys) route.demands (route.extract keys) := by
  unfold extract demands
  by_cases isRoot : route.kind = .root
  · rw [if_pos isRoot]
    exact .passed (if_pos isRoot) (resolve_faultsFirst route [] [])
  · rw [if_neg isRoot]
    exact .refused (if_neg isRoot) rfl

end Route

end RouteAtlas

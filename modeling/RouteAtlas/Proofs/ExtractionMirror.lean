/-
Module: RouteAtlas.Proofs.ExtractionMirror
Purpose: The resolved tree mirrors the tree of routes vertex by vertex, and the
  path and middleware of a node come from the vertices above it alone.
Main exports: Route.MirroredAt, Route.extract_mirrors
-/
import RouteAtlas.Proofs.ExtractionSteps

namespace RouteAtlas

open Fallible

/-! ## Endpoints in the order of their methods -/

theorem Method.all_ascending : Method.all.Pairwise fun one other => one.rank < other.rank := by
  decide

/-- A table lists its methods in ascending order. -/
theorem Method.Map.toList_ascending {α : Type} (map : Method.Map α) :
    map.toList.Pairwise fun one other => one.1.rank < other.1.rank := by
  unfold toList
  rw [List.pairwise_filterMap]
  refine Method.all_ascending.imp ?_
  intro one other ascending first atOne second atOther
  obtain ⟨value, _, rfl⟩ := Option.map_eq_some_iff.mp atOne
  obtain ⟨value', _, rfl⟩ := Option.map_eq_some_iff.mp atOther
  exact ascending

namespace Route

variable {keys : TagKeys} {parent : List PathSegment} {inherited : List HandlerRef}
  {route vertex : Route} {node below : PathNode} {path : List PathSegment}
  {endpoints : List Endpoint}

/-- The methods of resolved endpoints are those that are bound, in their
order. -/
theorem resolveEndpoints_methods (resolved : route.resolveEndpoints keys path = .ok endpoints) :
    endpoints.map Endpoint.method = route.endpoints.toList.map Prod.fst := by
  have related := resolveEndpoints_eq_ok_iff.mp resolved
  have same : route.endpoints.toList.map Prod.fst = endpoints.map Endpoint.method :=
    map_eq_map_of_related (fun _ _ resolves => resolves.1.symm) related
  exact same.symm

theorem resolveEndpoints_mem (resolved : route.resolveEndpoints keys path = .ok endpoints)
    {endpoint : Endpoint} (member : endpoint ∈ endpoints) :
    endpoint.path = path ∧ ∃ definition,
      route.endpoints.get? endpoint.method = some definition ∧
        definition.ResolvesTo keys endpoint := by
  have related := resolveEndpoints_eq_ok_iff.mp resolved
  obtain ⟨⟨method, definition⟩, bound, sameMethod, samePath, resolves⟩ :=
    exists_of_mem_right related member
  refine ⟨samePath, definition, ?_, resolves⟩
  rw [sameMethod]
  exact Method.Map.mem_toList.mp bound

/-! ## Positions -/

/-- What a node has in common with the vertex at the same address below the
root. -/
structure MirroredAt (keys : TagKeys) (root : Route) (address : List Nat) (vertex : Route)
    (node : PathNode) : Prop where
  name : node.name = vertex.name
  kind : node.kind = vertex.kind
  /-- The root is at the top and nowhere else. -/
  top : node.kind = .root ↔ address = []
  /-- One endpoint for each bound method, and no other. -/
  methods : ∀ method, method ∈ node.endpoints.map Endpoint.method ↔
    (vertex.endpoints.get? method).isSome
  /-- Endpoints stand in the order GET, POST, PUT, PATCH, DELETE. -/
  ascending : (node.endpoints.map Endpoint.method).Pairwise fun one other =>
    one.rank < other.rank
  /-- The path of an endpoint is the line from below the root down to the
  vertex. -/
  paths : ∀ endpoint ∈ node.endpoints,
    endpoint.path = (root.lineage address).tail.map Route.segment
  /-- An endpoint has what its definition has, and middleware of its own only. -/
  definitions : ∀ endpoint ∈ node.endpoints, ∃ definition,
    vertex.endpoints.get? endpoint.method = some definition ∧
      endpoint.description = definition.description ∧
      endpoint.authorization = definition.authorization ∧
      Function.ResolveTo definition.middleware endpoint.middleware
  /-- The middleware of a node is that of the line from the root down to the
  vertex. -/
  chain : Function.ResolveTo ((root.lineage address).flatMap Route.middleware)
    node.middleware

/-- A vertex that is resolved where a tree starts is mirrored. -/
theorem ResolvesAt.mirrored {root : Route} {address : List Nat} (isRoot : root.kind = .root)
    (resolved : root.ResolvesAt keys [] [] address vertex below) :
    root.MirroredAt keys address vertex below := by
  obtain ⟨⟨path, inherited, resolves, samePath⟩, ⟨own, ofOwn, sameChain⟩, top, nested⟩ :=
    resolved
  have toRoot : root.pathBelow [] = [] := if_pos isRoot
  rw [toRoot, List.nil_append] at samePath
  rw [List.nil_append] at sameChain
  have methods := resolveEndpoints_methods resolves.endpoints
  exact {
    name := resolves.name
    kind := resolves.kind
    top := by
      rw [resolves.kind]
      constructor
      · intro vertexIsRoot
        by_contra deeper
        exact nested deeper vertexIsRoot
      · intro atTop
        rw [top atTop]
        exact isRoot
    methods := by
      intro method
      rw [methods, List.mem_map, Option.isSome_iff_exists]
      simp [Method.Map.mem_toList]
    ascending := by
      rw [methods, List.pairwise_map]
      exact Method.Map.toList_ascending vertex.endpoints
    paths := by
      intro endpoint member
      rw [(resolveEndpoints_mem resolves.endpoints member).1, samePath]
    definitions := by
      intro endpoint member
      obtain ⟨_, definition, bound, ofDefinition⟩ :=
        resolveEndpoints_mem resolves.endpoints member
      exact ⟨definition, bound, ofDefinition.description, ofDefinition.authorization,
        ofDefinition.middleware⟩
    chain := by
      rw [sameChain]
      exact ofOwn }

/-- The tree that extraction makes mirrors the tree of routes: at every address
there is a node exactly when there is a vertex, and the node has the name, the
kind, the endpoints, the paths and the middleware that belong to this vertex and
to the line of vertices that leads to it. -/
theorem extract_mirrors {tree : PathNode} (extracted : route.extract keys = .ok tree)
    (address : List Nat) :
    Option.Rel (route.MirroredAt keys address) (route.descend? address)
      (tree.descend? address) := by
  obtain ⟨isRoot, resolves⟩ := extract_eq_ok_iff.mp extracted
  exact rel_mono (fun vertex below resolved => resolved.mirrored isRoot)
    (resolves.descend address)

end Route

/-! ## A service of users -/

namespace Users

/-- A method of the service, which takes one request and gives one reply. -/
def handler (name : String) : Function :=
  .handler (.qualified ("example.com/users.(*Service)." ++ name))
    (.mk "Request" "example.com/users" <| .record [
      .mk "Id" (.builtin "string" .string) ⟨[("as", "id,path")]⟩ false,
      .mk "Page" (.int .u32) ⟨[("as", "page,query"), ("validate", "required")]⟩ false,
      .mk "Name" (.builtin "string" .string) ⟨[("json", "name")]⟩ false])
    (.emptyRecord "Reply" "example.com/users")

/-- Middleware of another package. -/
def middleware (name : String) : Function :=
  .middleware (.declared ⟨name, "example.com/gate", none⟩)

/-- One user, under its identifier. -/
def byId : Route :=
  (Route.vertex "id" .param).bindEndpoint .put (.plain (handler "Rename") "Rename a user")
    |>.bindEndpoint .get (.plain (handler "Fetch") "Fetch a user")

/-- The routes of the service. -/
def routes : Route :=
  Route.root.useMiddleware (middleware "Log") |>.addChild <|
    (Route.vertex "users" .static).useMiddleware (middleware "Auth") |>.addChild byId

theorem extracted : ∃ tree, routes.extract {} = .ok tree :=
  ⟨_, rfl⟩

end Users

theorem Route.extract_mirrors_users : ∃ tree below, Users.routes.extract {} = .ok tree ∧
    tree.descend? [0, 0] = some below ∧
    Users.routes.MirroredAt {} [0, 0] Users.byId below := by
  obtain ⟨tree, extracted⟩ := Users.extracted
  have reached : Users.routes.descend? [0, 0] = some Users.byId := rfl
  have related := Route.extract_mirrors extracted [0, 0]
  rw [reached] at related
  obtain ⟨below, found, mirrored⟩ := rel_some_left related
  exact ⟨tree, below, extracted, found, mirrored⟩

end RouteAtlas

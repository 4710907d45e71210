/-
Module: RouteAtlas.Proofs.BuilderCalls
Purpose: What a run of calls on a vertex leaves of it: for each method the definition that was
  bound last, with the additions made to that one, and middleware and children in the order of
  the calls.
Main exports: Route.Call, Route.performAll, Route.lastBinding?, Route.Leaves,
  Route.performAll_leaves
-/
import RouteAtlas.Extraction.Tree
import RouteAtlas.Proofs.ExtractionMirror
import RouteAtlas.Route.Builder

namespace RouteAtlas

/-! ## Calls -/

namespace EndpointDef.Extra

/-- The scopes that an addition brings. -/
def scopes : Extra → List String
  | .authorization scopes => scopes
  | .middleware _ => []

/-- The middleware that an addition brings. -/
def functions : Extra → List Function
  | .authorization _ => []
  | .middleware functions => functions

end EndpointDef.Extra

namespace Route

/-- A call on a vertex, together with the calls made on what it returns: additions to the
definition that it binds, or calls on the child that it makes.  The calls that name a method or
the kind of a child are `bind` and `child` with that method or kind. -/
inductive Call where
  | bind (method : Method) (handler : Function) (description : String)
      (extras : List EndpointDef.Extra)
  | use (middleware : Function)
  | child (name : String) (kind : PathKind) (calls : List Call)

mutual

/-- Make a call.  The calls on a new child are made where the child stands. -/
def perform (route : Route) : Call → Route
  | .bind method handler description extras =>
      route.apply (.bind method handler description extras)
  | .use middleware => route.apply (.use middleware)
  | .child name kind calls =>
      (route.apply (.child name kind)).modifyAt (performAll · calls) [route.children.length]

/-- Make calls one after another. -/
def performAll (route : Route) : List Call → Route
  | [] => route
  | call :: rest => performAll (perform route call) rest

end

namespace Call

/-- The definition that a call binds to a method. -/
def binding? (method : Method) : Call → Option EndpointDef
  | .bind bound handler description extras =>
      if bound = method then
        some {
          handler, description
          authorization := extras.flatMap EndpointDef.Extra.scopes
          middleware := extras.flatMap EndpointDef.Extra.functions }
      else none
  | _ => none

/-- The middleware that a call adds to the vertex. -/
def middleware? : Call → Option Function
  | .use middleware => some middleware
  | _ => none

/-- The child that a call adds to the vertex, as the calls on it leave it. -/
def child? : Call → Option Route
  | .child name kind calls => some ((vertex name kind).performAll calls)
  | _ => none

end Call

/-- The definition that the last call to bind a method binds to it. -/
def lastBinding? (method : Method) (calls : List Call) : Option EndpointDef :=
  (calls.filterMap (Call.binding? method)).getLast?

/-- What calls leave of a vertex.  Each bound method is listed once, in the order of methods,
with the definition bound to it last; methods that no call binds keep what they had. -/
structure Leaves (calls : List Call) (before after : Route) : Prop where
  segment : after.segment = before.segment
  ascending : after.endpoints.toList.Pairwise fun one other => one.1.rank < other.1.rank
  listed : ∀ method definition, (method, definition) ∈ after.endpoints.toList ↔
    (lastBinding? method calls).or (before.endpoints.get? method) = some definition
  middleware : after.middleware = before.middleware ++ calls.filterMap Call.middleware?
  children : after.children = before.children ++ calls.filterMap Call.child?

/-- Calls that bind the same definition last to every method and add the same middleware and the
same children in the same order. -/
structure Agree (calls other : List Call) : Prop where
  bindings : ∀ method, lastBinding? method other = lastBinding? method calls
  middleware : other.filterMap Call.middleware? = calls.filterMap Call.middleware?
  children : other.filterMap Call.child? = calls.filterMap Call.child?

end Route

/-! ## One call -/

namespace EndpointDef

/-- Additions are made at the end, in their order, and nothing else is changed. -/
theorem foldl_add (extras : List Extra) (definition : EndpointDef) :
    extras.foldl add definition =
      { definition with
        authorization := definition.authorization ++ extras.flatMap Extra.scopes
        middleware := definition.middleware ++ extras.flatMap Extra.functions } := by
  induction extras generalizing definition with
  | nil => simp
  | cons extra extras ih =>
      cases extra with
      | authorization scopes => simp [ih, add, authorize, Extra.scopes, Extra.functions]
      | middleware functions => simp [ih, add, runAfter, Extra.scopes, Extra.functions]

end EndpointDef

namespace Method.Map

variable {α : Type}

theorem listed_iff {map : Map α} {found : Method → Option α}
    (finds : ∀ method, map.get? method = found method) (method : Method) (value : α) :
    (method, value) ∈ map.toList ↔ found method = some value := by
  rw [mem_toList, finds]

/-- A table is determined by what is found in it. -/
theorem ext_get? {map other : Map α} (same : ∀ method, map.get? method = other.get? method) :
    map = other := by
  obtain ⟨get, post, put, patch, delete⟩ := map
  obtain ⟨get', post', put', patch', delete'⟩ := other
  cases same .get
  cases same .post
  cases same .put
  cases same .patch
  cases same .delete
  rfl

end Method.Map

namespace Route

variable {calls one other : List Call} {route before between after : Route} {method : Method}

theorem lastBinding?_append (method : Method) (one other : List Call) :
    lastBinding? method (one ++ other) =
      (lastBinding? method other).or (lastBinding? method one) := by
  rw [lastBinding?, List.filterMap_append, List.getLast?_append]
  rfl

theorem lastBinding?_singleton (method : Method) (call : Call) :
    lastBinding? method [call] = call.binding? method := by
  cases found : call.binding? method <;> simp [lastBinding?, found]

theorem modify_last (change : Route → Route) (children : List Route) (child : Route) :
    (children ++ [child]).modify children.length change = children ++ [change child] := by
  induction children with
  | nil => rfl
  | cons first children ih => exact congrArg (first :: ·) ih

/-- The calls on a child that was just added change that child alone. -/
theorem modifyAt_addChild (change : Route → Route) (route child : Route) :
    (route.addChild child).modifyAt change [route.children.length] =
      route.addChild (change child) :=
  congrArg (fun children => { route with children := children })
    (modify_last change route.children child)

theorem leaves_of_get? (segment : after.segment = before.segment)
    (finds : ∀ method, after.endpoints.get? method =
      (lastBinding? method calls).or (before.endpoints.get? method))
    (middleware : after.middleware = before.middleware ++ calls.filterMap Call.middleware?)
    (children : after.children = before.children ++ calls.filterMap Call.child?) :
    Leaves calls before after where
  segment := segment
  ascending := Method.Map.toList_ascending after.endpoints
  listed := Method.Map.listed_iff finds
  middleware := middleware
  children := children

theorem Leaves.get? (leaves : Leaves calls before after) (method : Method) :
    after.endpoints.get? method =
      (lastBinding? method calls).or (before.endpoints.get? method) := by
  apply Option.ext
  intro definition
  rw [← leaves.listed, Method.Map.mem_toList]

theorem Leaves.nil (route : Route) : Leaves [] route route :=
  leaves_of_get? rfl (fun _ => rfl) (by simp) (by simp)

theorem Leaves.append (first : Leaves one before between) (second : Leaves other between after) :
    Leaves (one ++ other) before after := by
  refine leaves_of_get? (second.segment.trans first.segment) ?_ ?_ ?_
  · intro method
    rw [second.get?, first.get?, lastBinding?_append, Option.or_assoc]
  · rw [second.middleware, first.middleware, List.filterMap_append, List.append_assoc]
  · rw [second.children, first.children, List.filterMap_append, List.append_assoc]

/-- What one call leaves. -/
theorem perform_leaves (route : Route) (call : Call) :
    Leaves [call] route (route.perform call) := by
  cases call with
  | bind method handler description extras =>
      refine leaves_of_get? rfl ?_ (by simp [perform, apply, bindEndpoint, Call.middleware?])
        (by simp [perform, apply, bindEndpoint, Call.child?])
      intro bound
      rw [lastBinding?_singleton, perform, apply, bindEndpoint, Method.Map.get?_insert,
        EndpointDef.foldl_add]
      by_cases same : bound = method
      · simp [same, Call.binding?, EndpointDef.plain]
      · simp [same, Ne.symm same, Call.binding?]
  | use middleware =>
      exact leaves_of_get? rfl (fun _ => rfl)
        (by simp [perform, apply, useMiddleware, Call.middleware?])
        (by simp [perform, apply, useMiddleware, Call.child?])
  | child name kind calls =>
      rw [perform, apply, modifyAt_addChild]
      exact leaves_of_get? rfl (fun _ => rfl) (by simp [addChild, Call.middleware?])
        (by simp [addChild, Call.child?])

/-! ## Runs of calls -/

theorem leaves_performAll (calls : List Call) (route : Route) :
    Leaves calls route (route.performAll calls) := by
  induction calls generalizing route with
  | nil => exact .nil route
  | cons call rest ih =>
      rw [performAll]
      exact (perform_leaves route call).append (ih (route.perform call))

/-- A vertex shows nothing of the calls made on it but what they leave. -/
theorem Leaves.unique {after' : Route} (leaves : Leaves one before after)
    (leaves' : Leaves other before after') (agree : Agree one other) : after' = after := by
  have segment : after'.segment = after.segment := leaves'.segment.trans leaves.segment.symm
  have endpoints : after'.endpoints = after.endpoints := by
    apply Method.Map.ext_get?
    intro method
    rw [leaves'.get?, leaves.get?, agree.bindings]
  have middleware : after'.middleware = after.middleware := by
    rw [leaves'.middleware, leaves.middleware, agree.middleware]
  have children : after'.children = after.children := by
    rw [leaves'.children, leaves.children, agree.children]
  obtain ⟨name, kind, _, _, _⟩ := after
  obtain ⟨name', kind', _, _, _⟩ := after'
  cases segment
  cases endpoints
  cases middleware
  cases children
  rfl

/-- A vertex lists each bound method once, in the order of methods, with the definition that was
bound to it last and the additions made to that definition; its middleware and its children
stand in the order of the calls.  So calls that agree in these leave the same vertex, and it is
extracted to the same result. -/
theorem performAll_leaves (calls : List Call) (route : Route) :
    Leaves calls route (route.performAll calls) ∧
      ∀ other, Agree calls other →
        route.performAll other = route.performAll calls ∧
          ∀ keys, (route.performAll other).extract keys =
            (route.performAll calls).extract keys := by
  refine ⟨leaves_performAll calls route, ?_⟩
  intro other agree
  have same := (leaves_performAll calls route).unique (leaves_performAll other route) agree
  exact ⟨same, fun keys => by rw [same]⟩

end Route

/-! ## A directory that is registered in two ways -/

namespace Users

open Route (Call)

/-- The calls on the vertex of one user. -/
def profileCalls : List Call :=
  [.bind .get (handler "Fetch") "Fetch one user" [.authorization ["users:read"]]]

/-- A draft of the creation of users is replaced, with the scopes that it had. -/
def calls : List Call :=
  [.bind .post (handler "Draft") "Draft" [.authorization ["drafts"]],
    .use (middleware "Log"),
    .bind .get (handler "List") "List users" [],
    .child "id" .param profileCalls,
    .bind .post (handler "Create") "Create a user"
      [.authorization ["users:write"], .middleware [middleware "Limit"],
        .authorization ["admin"]],
    .use (middleware "Auth")]

/-- The same without the draft, and in another order. -/
def callsInOrder : List Call :=
  [.use (middleware "Log"), .use (middleware "Auth"),
    .bind .post (handler "Create") "Create a user"
      [.authorization ["users:write", "admin"], .middleware [middleware "Limit"]],
    .bind .get (handler "List") "List users" [],
    .child "id" .param profileCalls]

theorem calls_agree : Route.Agree calls callsInOrder where
  bindings := by
    intro method
    cases method <;> rfl
  middleware := rfl
  children := rfl

end Users

theorem Route.performAll_leaves_users : Route.Agree Users.calls Users.callsInOrder ∧
    (Method.post, (⟨Users.handler "Create", "Create a user", ["users:write", "admin"],
      [Users.middleware "Limit"]⟩ : EndpointDef)) ∈
        (Route.root.performAll Users.calls).endpoints.toList ∧
    (Route.root.performAll Users.callsInOrder).extract {} =
      (Route.root.performAll Users.calls).extract {} := by
  obtain ⟨leaves, same⟩ := Route.performAll_leaves Users.calls Route.root
  exact ⟨Users.calls_agree, (leaves.listed .post _).mpr rfl,
    (same Users.callsInOrder Users.calls_agree).2 {}⟩

end RouteAtlas

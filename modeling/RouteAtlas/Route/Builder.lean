/-
Module: RouteAtlas.Route.Builder
Purpose: Registering endpoints, middleware and children on a tree of routes.
Main exports: Route.Step, Route.apply, Route.build, Route.descend?,
  Route.modifyAt
-/
import RouteAtlas.Route.Basic

namespace RouteAtlas

namespace EndpointDef

/-- One addition to a definition that has just been registered. -/
inductive Extra where
  | authorization (scopes : List String)
  | middleware (functions : List Function)

/-- A definition without scopes and without middleware of its own. -/
def plain (handler : Function) (description : String) : EndpointDef :=
  ⟨handler, description, [], []⟩

/-- Require further authorization scopes. -/
def authorize (scopes : List String) (definition : EndpointDef) :
    EndpointDef :=
  { definition with authorization := definition.authorization ++ scopes }

/-- Run further middleware before the handler. -/
def runAfter (functions : List Function) (definition : EndpointDef) :
    EndpointDef :=
  { definition with middleware := definition.middleware ++ functions }

/-- Make one addition. -/
def add (definition : EndpointDef) : Extra → EndpointDef
  | .authorization scopes => definition.authorize scopes
  | .middleware functions => definition.runAfter functions

end EndpointDef

namespace Route

/-- One step of registering something on a vertex.  A binding is registered
together with the additions made to it. -/
inductive Step where
  | bind (method : Method) (handler : Function) (description : String)
      (extras : List EndpointDef.Extra)
  | use (middleware : Function)
  | child (name : String) (kind : PathKind)

/-- Bind a handler to a method.  An earlier binding of the method is replaced
with all its additions. -/
def bindEndpoint (method : Method) (definition : EndpointDef) (route : Route) :
    Route :=
  { route with endpoints := route.endpoints.insert method definition }

/-- Add middleware that runs for this vertex and everything below it. -/
def useMiddleware (middleware : Function) (route : Route) : Route :=
  { route with middleware := route.middleware ++ [middleware] }

/-- Add a tree below a vertex, after the children it has. -/
def addChild (route child : Route) : Route :=
  { route with children := route.children ++ [child] }

/-- Take one step. -/
def apply (route : Route) : Step → Route
  | .bind method handler description extras =>
      route.bindEndpoint method <|
        extras.foldl EndpointDef.add (.plain handler description)
  | .use middleware => route.useMiddleware middleware
  | .child name kind => route.addChild (vertex name kind)

/-- Take steps one after another. -/
def build (steps : List Step) (route : Route) : Route :=
  steps.foldl apply route

/-- The vertex at an address: the child indexes on the way down to it. -/
def descend? (route : Route) : List Nat → Option Route
  | [] => some route
  | index :: rest =>
      match route.children[index]? with
      | none => none
      | some child => child.descend? rest

/-- Change the vertex at an address; an address outside the tree changes
nothing. -/
def modifyAt (change : Route → Route) : List Nat → Route → Route
  | [], route => change route
  | index :: rest, route =>
      { route with children := route.children.modify index (modifyAt change rest) }

end Route

end RouteAtlas

/-
Module: RouteAtlas.Extraction.Tree
Purpose: From a registered tree of routes to the resolved tree.
Main exports: Endpoint.ofDef, Route.resolve, Route.extract
-/
import RouteAtlas.Extraction.Fields
import RouteAtlas.Extraction.Identity
import RouteAtlas.Extraction.Signature
import RouteAtlas.PathNode.Basic
import RouteAtlas.Route.Basic

namespace RouteAtlas

/-- References to middleware functions, in order. -/
def resolveMiddleware (functions : List Function) :
    Except Error (List HandlerRef) :=
  functions.mapM fun function =>
    function.identity.resolve.mapError
      (Error.duringOn "parse middleware function" function.identity.display)

/-- The resolved form of one registered endpoint. -/
def Endpoint.ofDef (keys : TagKeys) (method : Method) (path : List PathSegment)
    (definition : EndpointDef) : Except Error Endpoint := do
  let handler ← definition.handler.identity.resolve.mapError
    (Error.during "parse function identifiers")
  let (request, response) ← definition.handler.records.mapError
    (Error.signature definition.handler.signature)
  let body ← (Data.ofType keys request).mapError
    (Error.duringOn "parse body" request.name)
  let answer ← (Data.ofType keys response).mapError
    (Error.duringOn "parse response" response.name)
  let middleware ← (resolveMiddleware definition.middleware).mapError
    (Error.during "parse endpoint middleware")
  return {
    method, path
    description := definition.description
    authorization := definition.authorization
    body
    response := answer
    handler, middleware }

namespace Route

/-- The resolved endpoints of a vertex, in the order of their methods. -/
def resolveEndpoints (keys : TagKeys) (path : List PathSegment)
    (route : Route) : Except Error (List Endpoint) :=
  route.endpoints.toList.mapM fun (method, definition) =>
    (Endpoint.ofDef keys method path definition).mapError <|
      Error.duringOn "parse endpoint" <|
        method.name ++ " " ++ renderPath .colon path

/-- The path of a vertex, given that of its parent; a root adds nothing. -/
def pathBelow (parent : List PathSegment) (route : Route) : List PathSegment :=
  if route.kind = .root then parent else parent ++ [route.segment]

mutual

/-- The resolved tree of a vertex that is reached by a path through vertices
with the given middleware. -/
def resolve (keys : TagKeys) (parent : List PathSegment)
    (inherited : List HandlerRef) : Route → Except Error PathNode
  | ⟨name, kind, endpoints, middleware, children⟩ => do
      let route : Route := ⟨name, kind, endpoints, middleware, children⟩
      let path := route.pathBelow parent
      let resolved ← route.resolveEndpoints keys path
      let own ← (resolveMiddleware middleware).mapError
        (Error.during "parse middleware")
      let chain := inherited ++ own
      let below ← resolveList keys path chain children
      return ⟨name, kind, resolved, chain, below⟩

/-- The resolved trees below a vertex; none of them may be a root. -/
def resolveList (keys : TagKeys) (parent : List PathSegment)
    (inherited : List HandlerRef) : List Route → Except Error (List PathNode)
  | [] => .ok []
  | ⟨name, kind, endpoints, middleware, children⟩ :: rest => do
      if kind = .root then
        .error <| (Error.wrongValue "nested path kind" "root" "static|param")
          |>.duringOn "parse path" (renderPath .colon parent)
      else
        let node ← resolve keys parent inherited
          ⟨name, kind, endpoints, middleware, children⟩
        let others ← resolveList keys parent inherited rest
        return node :: others

end

/-- The resolved tree of a whole tree of routes, whose top, and nothing else,
must be a root. -/
def extract (keys : TagKeys) (route : Route) : Except Error PathNode :=
  if route.kind = .root then
    route.resolve keys [] []
  else
    .error (.wrongValue "top-level path kind" route.kind.name "root")

end Route

end RouteAtlas

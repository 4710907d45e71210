/-
Module: RouteAtlas.Route.Basic
Purpose: The tree of routes as an application registers it.
Main exports: EndpointDef, Route
-/
import RouteAtlas.Method.Map
import RouteAtlas.Segment
import RouteAtlas.Types.Function

namespace RouteAtlas

/-- What is registered for one method of a route. -/
structure EndpointDef where
  handler : Function
  description : String
  authorization : List String
  middleware : List Function
deriving Inhabited

/-- One vertex of the tree of routes. -/
structure Route where
  name : String
  kind : PathKind
  endpoints : Method.Map EndpointDef
  middleware : List Function
  children : List Route
deriving Inhabited

namespace Route

/-- A vertex with nothing registered on it. -/
def vertex (name : String) (kind : PathKind) : Route :=
  ⟨name, kind, {}, [], []⟩

/-- The top of a tree. -/
def root : Route :=
  vertex "" .root

/-- The segment that a vertex adds to the path of its endpoints. -/
def segment (route : Route) : PathSegment :=
  ⟨route.name, route.kind⟩

end Route

end RouteAtlas

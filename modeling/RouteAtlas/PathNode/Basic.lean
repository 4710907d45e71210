/-
Module: RouteAtlas.PathNode.Basic
Purpose: The resolved route tree that every generated artifact is made from.
Main exports: Endpoint, PathNode
-/
import RouteAtlas.Field
import RouteAtlas.Handler
import RouteAtlas.Method
import RouteAtlas.Segment

namespace RouteAtlas

/-- One handler bound to one method of a path. -/
structure Endpoint where
  method : Method
  /-- The chain of segments from below the root down to the owning node. -/
  path : List PathSegment
  description : String
  /-- Authorization scopes, opaque to this library. -/
  authorization : List String
  body : Data
  response : Data
  handler : HandlerRef
  /-- Middleware of this endpoint alone; it runs after the chain of the
  node. -/
  middleware : List HandlerRef
deriving Repr, DecidableEq, Inhabited

/-- One vertex of the resolved route tree.  Its middleware is the whole chain
from the root down to this node. -/
structure PathNode where
  name : String
  kind : PathKind
  endpoints : List Endpoint
  middleware : List HandlerRef
  children : List PathNode
deriving Repr, Inhabited

namespace Endpoint

/-- The URL of an endpoint. -/
def url (style : ParamStyle) (endpoint : Endpoint) : String :=
  renderPath style endpoint.path

/-- Whether the endpoint answers GET, and so takes no body. -/
def isGet (endpoint : Endpoint) : Bool :=
  endpoint.method == .get

end Endpoint

namespace PathNode

/-- The segment that a node adds to the path of its endpoints. -/
def segment (node : PathNode) : PathSegment :=
  ⟨node.name, node.kind⟩

mutual

/-- Equality of trees is decided child by child. -/
def decEq : (one other : PathNode) → Decidable (one = other)
  | ⟨name, kind, endpoints, middleware, children⟩,
      ⟨name', kind', endpoints', middleware', children'⟩ =>
      match decEqList children children' with
      | isTrue same =>
          if rest : name = name' ∧ kind = kind' ∧ endpoints = endpoints' ∧
              middleware = middleware' then
            isTrue (by rw [rest.1, rest.2.1, rest.2.2.1, rest.2.2.2, same])
          else
            isFalse fun equal => rest <| by
              injection equal with h1 h2 h3 h4 _
              exact ⟨h1, h2, h3, h4⟩
      | isFalse differ => isFalse fun equal => differ (by injection equal)

/-- Equality of lists of trees. -/
def decEqList : (one other : List PathNode) → Decidable (one = other)
  | [], [] => isTrue rfl
  | [], _ :: _ => isFalse (by simp)
  | _ :: _, [] => isFalse (by simp)
  | node :: rest, node' :: rest' =>
      match decEq node node', decEqList rest rest' with
      | isTrue same, isTrue sameRest => isTrue (by rw [same, sameRest])
      | isFalse differ, _ => isFalse fun equal => differ (by injection equal)
      | _, isFalse differ => isFalse fun equal => differ (by injection equal)

end

instance : DecidableEq PathNode := decEq

mutual

/-- The number of nodes of a tree. -/
def size : PathNode → Nat
  | ⟨_, _, _, _, children⟩ => sizeList children + 1

/-- The number of nodes of a list of trees. -/
def sizeList : List PathNode → Nat
  | [] => 0
  | node :: rest => size node + sizeList rest

end

end PathNode

end RouteAtlas

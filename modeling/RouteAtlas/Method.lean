/-
Module: RouteAtlas.Method
Purpose: The HTTP methods an endpoint can be bound to.
Main exports: Method, Method.name, Method.rank
-/

namespace RouteAtlas

/-- An HTTP method. -/
inductive Method where
  | get
  | post
  | put
  | patch
  | delete
deriving Repr, DecidableEq, Inhabited

namespace Method

/-- Every method, in the order in which endpoints of a node are listed. -/
def all : List Method := [.get, .post, .put, .patch, .delete]

/-- The name on the wire. -/
def name : Method → String
  | .get => "GET"
  | .post => "POST"
  | .put => "PUT"
  | .patch => "PATCH"
  | .delete => "DELETE"

/-- The place of a method in the listing order. -/
def rank : Method → Nat
  | .get => 0
  | .post => 1
  | .put => 2
  | .patch => 3
  | .delete => 4

theorem mem_all (method : Method) : method ∈ all := by
  cases method <;> decide

end Method

end RouteAtlas

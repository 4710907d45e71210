/-
Module: RouteAtlas.Types.Function
Purpose: Functions as they are registered: an identity and a signature.
Main exports: FunctionId, Function, Function.handler, Function.signature
-/
import RouteAtlas.Handler
import RouteAtlas.Types.Desc

namespace RouteAtlas

/-- How a function is identified: by a reference, or by a qualified name such
as `github.com/acme/users.(*Service).Get`. -/
inductive FunctionId where
  | declared (ref : HandlerRef)
  | qualified (name : String)
deriving Repr, DecidableEq, Inhabited

/-- A function as it is registered. -/
structure Function where
  identity : FunctionId
  inputs : List TypeDesc
  outputs : List TypeDesc
deriving Inhabited

namespace FunctionId

/-- The qualified name. -/
def display : FunctionId → String
  | .declared ref => ref.qualified
  | .qualified name => name

end FunctionId

namespace Function

/-- A middleware function; its identity is all that matters. -/
def middleware (identity : FunctionId) : Function :=
  ⟨identity, [], []⟩

/-- A handler with the signature that handlers must have. -/
def handler (identity : FunctionId) (request response : TypeDesc) : Function where
  identity := identity
  inputs := [.context, .pointer request]
  outputs := [.pointer response, .failure]

/-- The signature in the form `fn(a, b) -> (c, d)`. -/
def signature (function : Function) : String :=
  let list (types : List TypeDesc) : String :=
    ", ".intercalate (types.map TypeDesc.display)
  "fn(" ++ list function.inputs ++ ") -> (" ++ list function.outputs ++ ")"

end Function

end RouteAtlas

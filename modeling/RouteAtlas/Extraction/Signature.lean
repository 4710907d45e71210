/-
Module: RouteAtlas.Extraction.Signature
Purpose: The signature that every handler must have.
Main exports: TypeDesc.recordPointee, Function.records
-/
import RouteAtlas.Error
import RouteAtlas.Types.Function

namespace RouteAtlas

/-- The record that a type points to, which must be through exactly one
pointer. -/
def TypeDesc.recordPointee (type : TypeDesc) : Except Error TypeDesc :=
  match type.shape with
  | .pointer target =>
      match target.shape with
      | .pointer _ => .error (.singlePointerRequired type.display)
      | .record _ => .ok target
      | _ => .error (.wrongType type.display "*record")
  | _ => .error (.wrongType type.display "*record")

/-- Refuse a type that is not the context of a request. -/
def TypeDesc.expectContext (type : TypeDesc) : Except Error Unit :=
  match type.shape with
  | .context => .ok ()
  | _ => .error (.wrongType type.display "context")

/-- Refuse a type that is not the failure of a handler. -/
def TypeDesc.expectFailure (type : TypeDesc) : Except Error Unit :=
  match type.shape with
  | .error => .ok ()
  | _ => .error (.wrongType type.display "error")

/-- Refuse a count other than two. -/
def expectTwo (target : String) (types : List TypeDesc) :
    Except Error (TypeDesc × TypeDesc) :=
  match types with
  | [first, second] => .ok (first, second)
  | _ => .error (.wrongValue target (toString types.length) "2")

/-- The request and the response record of a handler, whose signature must be
`fn(context, *record) -> (*record, error)`. -/
def Function.records (function : Function) :
    Except Error (TypeDesc × TypeDesc) := do
  let (context, request) ← expectTwo "parameter number" function.inputs
  let (response, failure) ← expectTwo "result number" function.outputs
  context.expectContext
  let request ← request.recordPointee
  let response ← response.recordPointee
  failure.expectFailure
  return (request, response)

end RouteAtlas

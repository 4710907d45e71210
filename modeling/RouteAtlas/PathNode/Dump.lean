/-
Module: RouteAtlas.PathNode.Dump
Purpose: The JSON dump of a resolved route tree.
Main exports: PathNode.toJson, PathNode.dump, Field.toJson
-/
import RouteAtlas.Json.Printer
import RouteAtlas.PathNode.Basic

namespace RouteAtlas

/-!
Members stand in declaration order.  Some are left out when they are empty:
a description, authorization scopes, endpoint middleware, validation rules,
subfields, and an absent serialization or receiver.
-/

/-- The dump of a segment. -/
def PathSegment.toJson (segment : PathSegment) : Json :=
  .object [("name", .string segment.name), ("kind", .string segment.kind.name)]

/-- The dump of a receiver. -/
def Receiver.toJson (receiver : Receiver) : Json :=
  .object [("name", .string receiver.name), ("pointer", .bool receiver.pointer)]

/-- The dump of a function reference. -/
def HandlerRef.toJson (ref : HandlerRef) : Json :=
  .object <|
    [("name", .string ref.name), ("import", .string ref.importPath)] ++
      match ref.receiver with
      | none => []
      | some receiver => [("receiver", receiver.toJson)]

/-- The dump of a field kind: a name, or an object for an integer. -/
def FieldKind.toJson : FieldKind → Json
  | .integer type => .object [("integer", .string type.name)]
  | kind => .string kind.name

/-- The dump of a serialization. -/
def Serialization.toJson (serialization : Serialization) : Json :=
  .object
    [("role", .string serialization.role.name),
      ("name", .string serialization.name)]

mutual

/-- The dump of a field. -/
def Field.toJson : Field → Json
  | ⟨name, kind, serialization, validation, subfields⟩ =>
      .object <|
        [("name", .string name), ("kind", kind.toJson)] ++
          (match serialization with
            | none => []
            | some serialization => [("serialization", serialization.toJson)]) ++
          Json.memberUnlessEmpty "validation" (validation.map .string) ++
          Json.memberUnlessEmpty "subfields" (Field.listToJson subfields)

/-- The dumps of a list of fields. -/
def Field.listToJson : List Field → List Json
  | [] => []
  | field :: rest => field.toJson :: Field.listToJson rest

end

/-- The dump of a record schema. -/
def Data.toJson (data : Data) : Json :=
  .object
    [("name", .string data.name), ("import", .string data.importPath),
      ("fields", .array (Field.listToJson data.fields))]

/-- The dump of an endpoint. -/
def Endpoint.toJson (endpoint : Endpoint) : Json :=
  .object <|
    [("method", .string endpoint.method.name),
      ("path", .array (endpoint.path.map PathSegment.toJson))] ++
      Json.memberUnlessBlank "description" endpoint.description ++
      Json.memberUnlessEmpty "authorization"
        (endpoint.authorization.map .string) ++
      [("body", endpoint.body.toJson), ("response", endpoint.response.toJson),
        ("handler", endpoint.handler.toJson)] ++
      Json.memberUnlessEmpty "middleware"
        (endpoint.middleware.map HandlerRef.toJson)

namespace PathNode

mutual

/-- The dump of a tree as a value. -/
def toJson : PathNode → Json
  | ⟨name, kind, endpoints, middleware, children⟩ =>
      .object
        [("name", .string name), ("kind", .string kind.name),
          ("endpoints", .array (endpoints.map Endpoint.toJson)),
          ("middleware", .array (middleware.map HandlerRef.toJson)),
          ("children", .array (listToJson children))]

/-- The dumps of a list of trees. -/
def listToJson : List PathNode → List Json
  | [] => []
  | node :: rest => node.toJson :: listToJson rest

end

/-- The dump of a tree as an indented text. -/
def dump (node : PathNode) : String :=
  node.toJson.pretty

end PathNode

end RouteAtlas

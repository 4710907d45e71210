/-
Module: RouteAtlas.OpenApi.Printer
Purpose: The JSON form of OpenAPI documents.
Main exports: OpenApi.toJson, OpenApi.render
-/
import RouteAtlas.Json.Printer
import RouteAtlas.OpenApi.Assembly

namespace RouteAtlas

namespace Json

/-- A member that is left out when it is false. -/
def memberIfTrue (key : String) (value : Bool) : List (String × Json) :=
  if value then [(key, .bool true)] else []

/-- A member that is left out when there is no value. -/
def memberIfSome (key : String) : Option Json → List (String × Json)
  | none => []
  | some value => [(key, value)]

/-- A member that is left out when the object it holds is empty. -/
def memberUnlessBare (key : String) (members : List (String × Json)) :
    List (String × Json) :=
  if members.isEmpty then [] else [(key, .object members)]

end Json

/-- The members of an object, from the values of a dictionary. -/
def Dictionary.toMembers {α : Type} (toJson : α → Json)
    (dictionary : Dictionary α) : List (String × Json) :=
  dictionary.map fun (key, value) => (key, toJson value)

namespace Schema

mutual

/-- The form of a schema. -/
def toJson : Schema → Json
  | ⟨type, properties, items, required⟩ =>
      .object <|
        Json.memberUnlessBlank "type" type ++
          Json.memberUnlessBare "properties" (membersToJson properties) ++
          Json.memberIfSome "items" (optionToJson items) ++
          Json.memberUnlessEmpty "required" (required.map .string)

/-- The forms of schemas under their names. -/
def membersToJson : List (String × Schema) → List (String × Json)
  | [] => []
  | (name, schema) :: rest => (name, schema.toJson) :: membersToJson rest

/-- The form of a schema that may be absent. -/
def optionToJson : Option Schema → Option Json
  | none => none
  | some schema => some schema.toJson

end

end Schema

/-- The form of a media type. -/
def MediaType.toJson (media : MediaType) : Json :=
  .object [("schema", media.schema.toJson)]

/-- The form of a parameter. -/
def Parameter.toJson (parameter : Parameter) : Json :=
  .object <|
    [("name", .string parameter.name), ("in", .string parameter.location)] ++
      Json.memberIfTrue "required" parameter.required ++
      [("schema", parameter.schema.toJson)]

/-- The form of a request body. -/
def RequestBody.toJson (body : RequestBody) : Json :=
  .object <|
    Json.memberIfTrue "required" body.required ++
      [("content", .object (body.content.toMembers MediaType.toJson))]

/-- The form of a response. -/
def Response.toJson (response : Response) : Json :=
  .object <|
    ("description", .string response.description) ::
      Json.memberUnlessBare "content"
        (response.content.toMembers MediaType.toJson)

/-- The form of an operation. -/
def Operation.toJson (operation : Operation) : Json :=
  .object <|
    Json.memberUnlessBlank "summary" operation.summary ++
      Json.memberUnlessBlank "operationId" operation.operationId ++
      Json.memberUnlessBlank "description" operation.description ++
      Json.memberUnlessEmpty "parameters"
        (operation.parameters.map Parameter.toJson) ++
      Json.memberIfSome "requestBody"
        (operation.requestBody.map RequestBody.toJson) ++
      [("responses", .object (operation.responses.toMembers Response.toJson))]

/-- The form of the operations of a path, by the lower-case names of their
methods. -/
def PathItem.toJson (item : PathItem) : Json :=
  .object <|
    Json.memberIfSome "get" (item.get.map Operation.toJson) ++
      Json.memberIfSome "post" (item.post.map Operation.toJson) ++
      Json.memberIfSome "put" (item.put.map Operation.toJson) ++
      Json.memberIfSome "patch" (item.patch.map Operation.toJson) ++
      Json.memberIfSome "delete" (item.delete.map Operation.toJson)

namespace OpenApi

/-- The form of a document. -/
def toJson (document : OpenApi) : Json :=
  .object <|
    [("openapi", .string document.openapi),
      ("info", .object
        [("title", .string document.info.title),
          ("version", .string document.info.version)])] ++
      Json.memberUnlessEmpty "servers"
        (document.servers.map fun server =>
          .object [("url", .string server.url)]) ++
      [("paths", .object (document.paths.toMembers PathItem.toJson))]

/-- The text of the document that describes a tree: indented, with a line
break at the end. -/
def render (tree : PathNode) (title version server : String) : String :=
  (ofTree tree title version server).toJson.pretty ++ "\n"

end OpenApi

end RouteAtlas

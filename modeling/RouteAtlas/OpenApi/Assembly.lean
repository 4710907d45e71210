/-
Module: RouteAtlas.OpenApi.Assembly
Purpose: The document that describes a resolved route tree.
Main exports: Schema.ofField, Operation.ofEndpoint, PathNode.placements,
  OpenApi.ofTree
-/
import RouteAtlas.OpenApi.Document
import RouteAtlas.PathNode.Basic
import RouteAtlas.Text.Blank

namespace RouteAtlas

namespace Schema

/-- The schema of an object with the given fields, whose own schemas are given
under their wire names. -/
def ofFields (fields : List Field) (entries : List (String × Schema)) :
    Schema where
  type := "object"
  properties := Dictionary.ofList entries
  items := none
  required := (fields.filter Field.isRequired).map Field.wireName

mutual

/-- The schema of a field.  The types of the keys and values of a map cannot
be expressed, so it becomes a plain object; an array whose elements are not
described has texts. -/
def ofField : Field → Schema
  | ⟨_, .string, _, _, _⟩ => ofType "string"
  | ⟨_, .integer _, _, _, _⟩ => ofType "integer"
  | ⟨_, .bool, _, _, _⟩ => ofType "boolean"
  | ⟨_, .map, _, _, _⟩ => ofType "object"
  | ⟨_, .array, _, _, []⟩ => { ofType "array" with items := ofType "string" }
  | ⟨_, .array, _, _, element :: _⟩ =>
      { ofType "array" with items := ofField element }
  | ⟨_, .record, _, _, subfields⟩ => ofFields subfields (entries subfields)

/-- The schemas of fields under their wire names. -/
def entries : List Field → List (String × Schema)
  | [] => []
  | field :: rest => (field.wireName, ofField field) :: entries rest

end

/-- The schema of an object with the given fields. -/
def object (fields : List Field) : Schema :=
  ofFields fields (entries fields)

end Schema

namespace Parameter

/-- The parameter that a request field is, if it travels in the path or in the
query.  What travels in the path is always required. -/
def ofField? (field : Field) : Option Parameter :=
  match field.role? with
  | some .path => some ⟨field.wireName, "path", true, .ofField field⟩
  | some .query =>
      some ⟨field.wireName, "query", field.isRequired, .ofField field⟩
  | _ => none

end Parameter

/-- Whether a request field is carried by the body and not by a parameter. -/
def Field.inBody (field : Field) : Bool :=
  match field.role? with
  | some .path | some .query => false
  | _ => true

/-- A JSON body with the given schema. -/
def MediaType.json (schema : Schema) : Dictionary MediaType :=
  [("application/json", ⟨schema⟩)]

/-- The body of a request.  GET has none, and there is none without fields. -/
def RequestBody.ofEndpoint? (endpoint : Endpoint) : Option RequestBody :=
  let schema := Schema.object (endpoint.body.fields.filter Field.inBody)
  if endpoint.isGet || schema.properties.isEmpty then none
  else some ⟨true, MediaType.json schema⟩

/-- The operation of an endpoint. -/
def Operation.ofEndpoint (endpoint : Endpoint) : Operation where
  summary := endpoint.handler.name
  operationId := endpoint.handler.name
  description := endpoint.description
  parameters := endpoint.body.fields.filterMap Parameter.ofField?
  requestBody := RequestBody.ofEndpoint? endpoint
  responses :=
    [("200", {
      description := "Successful response"
      content := MediaType.json (Schema.object endpoint.response.fields) })]

namespace PathNode

mutual

/-- Every endpoint below a chain of segments under the URL of its node, a node
before its children.  The URL follows from the place of the node. -/
def placements (trail : List PathSegment) :
    PathNode → List (String × Endpoint)
  | ⟨name, kind, endpoints, _, children⟩ =>
      let trail := trail ++ [⟨name, kind⟩]
      endpoints.map (fun endpoint => (renderPath .braces trail, endpoint)) ++
        placementsList trail children

/-- The endpoints of several trees below the same chain. -/
def placementsList (trail : List PathSegment) :
    List PathNode → List (String × Endpoint)
  | [] => []
  | node :: rest => placements trail node ++ placementsList trail rest

end

end PathNode

/-- Put an endpoint under its URL.  Of two with the same method the later one
counts. -/
def OpenApi.place (paths : Dictionary PathItem) (entry : String × Endpoint) :
    Dictionary PathItem :=
  paths.alter entry.1 fun item =>
    (item.getD PathItem.empty).insert entry.2.method
      (Operation.ofEndpoint entry.2)

/-- The paths of a tree. -/
def OpenApi.pathsOf (tree : PathNode) : Dictionary PathItem :=
  (tree.placements []).foldl OpenApi.place []

/-- A text, or another one in place of a blank text. -/
def orElse (fallback text : String) : String :=
  if Text.isBlankText text then fallback else text

/-- The document that describes a tree.  Without a server address no server is
listed. -/
def OpenApi.ofTree (tree : PathNode) (title version server : String) :
    OpenApi where
  openapi := "3.1.0"
  info :=
    { title := orElse "API Specification" title
      version := orElse "1.0.0" version }
  servers := if Text.isBlankText server then [] else [⟨server⟩]
  paths := OpenApi.pathsOf tree

end RouteAtlas

/-
Module: RouteAtlas.OpenApi.Reader
Purpose: Reading OpenAPI documents of the form that the printer writes.
Main exports: OpenApi.load, Schema.decode
-/
import RouteAtlas.OpenApi.Document
import RouteAtlas.PathNode.Load

namespace RouteAtlas

open Json (Decoder Slot Fault)

/-- An object with arbitrary names, as a dictionary. -/
def Dictionary.decode {α : Type} (value : Decoder α) :
    Decoder (Dictionary α) :=
  fun room reading =>
    (Decoder.entries value room reading).map Dictionary.ofList

namespace Schema

/-- A schema under construction. -/
structure Draft where
  type : Option String := none
  properties : Option (Dictionary Schema) := none
  items : Option (Option Schema) := none
  required : Option (List String) := none

/-- The slots of a schema, given how the schemas inside it are read. -/
def slots (inner : Decoder Schema) : List (Slot Draft) :=
  [.of "type" true Decoder.string Draft.type
      fun value draft => { draft with type := some value },
    .of "properties" true (Dictionary.decode inner) Draft.properties
      fun value draft => { draft with properties := some value },
    .of "items" true (Decoder.option inner) Draft.items
      fun value draft => { draft with items := some value },
    .of "required" true (Decoder.list Decoder.string) Draft.required
      fun value draft => { draft with required := some value }]

/-- The schema of a draft; nothing is required. -/
def ofDraft (draft : Draft) : Except Fault Schema :=
  .ok {
    type := draft.type.getD ""
    properties := draft.properties.getD []
    items := draft.items.getD none
    required := draft.required.getD [] }

/-- A schema with at most so many levels of schemas. -/
def decodeLevels : Nat → Decoder Schema
  | 0 => fun _ _ => .error .malformed
  | levels + 1 =>
      Decoder.record "Schema" (slots (decodeLevels levels)) {} ofDraft

/-- A schema.  Every level opens a container, so the containers run out before
the levels do. -/
def decode : Decoder Schema :=
  fun room => decodeLevels (room + 1) room

end Schema

/-- A media type. -/
def MediaType.decode : Decoder MediaType :=
  Decoder.record "MediaType"
    [.of "schema" false Schema.decode (fun draft : Option Schema => draft)
        fun value _ => some value]
    none fun draft => do
      let schema ← Json.require "schema" draft
      return { schema }

namespace Parameter

/-- A parameter under construction. -/
structure Draft where
  name : Option String := none
  location : Option String := none
  required : Option Bool := none
  schema : Option Schema := none

/-- A parameter. -/
def decode : Decoder Parameter :=
  Decoder.record "Parameter"
    [.of "name" false Decoder.string Draft.name
        fun value draft => { draft with name := some value },
      .of "in" false Decoder.string Draft.location
        fun value draft => { draft with location := some value },
      .of "required" true Decoder.bool Draft.required
        fun value draft => { draft with required := some value },
      .of "schema" false Schema.decode Draft.schema
        fun value draft => { draft with schema := some value }]
    {} fun draft => do
      let name ← Json.require "name" draft.name
      let location ← Json.require "in" draft.location
      let schema ← Json.require "schema" draft.schema
      return { name, location, required := draft.required.getD false, schema }

end Parameter

namespace RequestBody

/-- A request body under construction. -/
structure Draft where
  required : Option Bool := none
  content : Option (Dictionary MediaType) := none

/-- A request body. -/
def decode : Decoder RequestBody :=
  Decoder.record "RequestBody"
    [.of "required" true Decoder.bool Draft.required
        fun value draft => { draft with required := some value },
      .of "content" false (Dictionary.decode MediaType.decode) Draft.content
        fun value draft => { draft with content := some value }]
    {} fun draft => do
      let content ← Json.require "content" draft.content
      return { required := draft.required.getD false, content }

end RequestBody

namespace Response

/-- A response under construction. -/
structure Draft where
  description : Option String := none
  content : Option (Dictionary MediaType) := none

/-- A response. -/
def decode : Decoder Response :=
  Decoder.record "Response"
    [.of "description" false Decoder.string Draft.description
        fun value draft => { draft with description := some value },
      .of "content" true (Dictionary.decode MediaType.decode) Draft.content
        fun value draft => { draft with content := some value }]
    {} fun draft => do
      let description ← Json.require "description" draft.description
      return { description, content := draft.content.getD [] }

end Response

namespace Operation

/-- An operation under construction. -/
structure Draft where
  summary : Option String := none
  operationId : Option String := none
  description : Option String := none
  parameters : Option (List Parameter) := none
  requestBody : Option (Option RequestBody) := none
  responses : Option (Dictionary Response) := none

/-- An operation. -/
def decode : Decoder Operation :=
  Decoder.record "Operation"
    [.of "summary" true Decoder.string Draft.summary
        fun value draft => { draft with summary := some value },
      .of "operationId" true Decoder.string Draft.operationId
        fun value draft => { draft with operationId := some value },
      .of "description" true Decoder.string Draft.description
        fun value draft => { draft with description := some value },
      .of "parameters" true (Decoder.list Parameter.decode) Draft.parameters
        fun value draft => { draft with parameters := some value },
      .of "requestBody" true (Decoder.option RequestBody.decode)
        Draft.requestBody
        fun value draft => { draft with requestBody := some value },
      .of "responses" false (Dictionary.decode Response.decode)
        Draft.responses
        fun value draft => { draft with responses := some value }]
    {} fun draft => do
      let responses ← Json.require "responses" draft.responses
      return {
        summary := draft.summary.getD ""
        operationId := draft.operationId.getD ""
        description := draft.description.getD ""
        parameters := draft.parameters.getD []
        requestBody := draft.requestBody.getD none
        responses }

end Operation

namespace PathItem

/-- The operations of a path under construction. -/
structure Draft where
  get : Option (Option Operation) := none
  post : Option (Option Operation) := none
  put : Option (Option Operation) := none
  patch : Option (Option Operation) := none
  delete : Option (Option Operation) := none

/-- The operations of a path. -/
def decode : Decoder PathItem :=
  let operation := Decoder.option Operation.decode
  Decoder.record "PathItem"
    [.of "get" true operation Draft.get
        fun value draft => { draft with get := some value },
      .of "post" true operation Draft.post
        fun value draft => { draft with post := some value },
      .of "put" true operation Draft.put
        fun value draft => { draft with put := some value },
      .of "patch" true operation Draft.patch
        fun value draft => { draft with patch := some value },
      .of "delete" true operation Draft.delete
        fun value draft => { draft with delete := some value }]
    {} fun draft => .ok {
      get := draft.get.getD none
      post := draft.post.getD none
      put := draft.put.getD none
      patch := draft.patch.getD none
      delete := draft.delete.getD none }

end PathItem

namespace ApiInfo

/-- A title and a version under construction. -/
structure Draft where
  title : Option String := none
  version : Option String := none

/-- A title and a version. -/
def decode : Decoder ApiInfo :=
  Decoder.record "Info"
    [.of "title" false Decoder.string Draft.title
        fun value draft => { draft with title := some value },
      .of "version" false Decoder.string Draft.version
        fun value draft => { draft with version := some value }]
    {} fun draft => do
      let title ← Json.require "title" draft.title
      let version ← Json.require "version" draft.version
      return { title, version }

end ApiInfo

/-- A server. -/
def ApiServer.decode : Decoder ApiServer :=
  Decoder.record "Server"
    [.of "url" false Decoder.string (fun draft : Option String => draft)
        fun value _ => some value]
    none fun draft => do
      let url ← Json.require "url" draft
      return { url }

namespace OpenApi

/-- A document under construction. -/
structure Draft where
  openapi : Option String := none
  info : Option ApiInfo := none
  servers : Option (List ApiServer) := none
  paths : Option (Dictionary PathItem) := none

/-- A document. -/
def decode : Decoder OpenApi :=
  Decoder.record "OpenApi"
    [.of "openapi" false Decoder.string Draft.openapi
        fun value draft => { draft with openapi := some value },
      .of "info" false ApiInfo.decode Draft.info
        fun value draft => { draft with info := some value },
      .of "servers" true (Decoder.list ApiServer.decode) Draft.servers
        fun value draft => { draft with servers := some value },
      .of "paths" false (Dictionary.decode PathItem.decode) Draft.paths
        fun value draft => { draft with paths := some value }]
    {} fun draft => do
      let openapi ← Json.require "openapi" draft.openapi
      let info ← Json.require "info" draft.info
      let paths ← Json.require "paths" draft.paths
      return { openapi, info, servers := draft.servers.getD [], paths }

/-- Read a document from its text. -/
def load (text : String) : Except Fault OpenApi :=
  Json.decodeText decode text

end OpenApi

end RouteAtlas

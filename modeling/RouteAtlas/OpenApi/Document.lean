/-
Module: RouteAtlas.OpenApi.Document
Purpose: OpenAPI 3.1 documents in which every schema stands where it is used.
Main exports: Schema, Operation, PathItem, OpenApi
-/
import RouteAtlas.Method.Map
import RouteAtlas.Dictionary

namespace RouteAtlas

/-- The schema of a value.  An empty type name stands for any value. -/
structure Schema where
  type : String
  properties : List (String × Schema)
  items : Option Schema
  /-- The names of the properties that must be there. -/
  required : List String

/-- How a value is represented in a body. -/
structure MediaType where
  schema : Schema

/-- A parameter that travels in the path or in the query. -/
structure Parameter where
  name : String
  location : String
  required : Bool
  schema : Schema

/-- The body of a request, by media type. -/
structure RequestBody where
  required : Bool
  content : Dictionary MediaType

/-- An answer, by media type. -/
structure Response where
  description : String
  content : Dictionary MediaType

/-- What one method of a path does. -/
structure Operation where
  summary : String
  operationId : String
  description : String
  parameters : List Parameter
  requestBody : Option RequestBody
  /-- Answers by status code. -/
  responses : Dictionary Response

/-- The operations of one path. -/
abbrev PathItem := Method.Map Operation

/-- The title and version of an API. -/
structure ApiInfo where
  title : String
  version : String
deriving Repr, DecidableEq, Inhabited

/-- Where an API is served. -/
structure ApiServer where
  url : String
deriving Repr, DecidableEq, Inhabited

/-- A whole document. -/
structure OpenApi where
  openapi : String
  info : ApiInfo
  servers : List ApiServer
  paths : Dictionary PathItem

namespace Schema

/-- A schema that only names its type. -/
def ofType (type : String) : Schema :=
  ⟨type, [], none, []⟩

instance : Inhabited Schema := ⟨ofType ""⟩

end Schema

namespace PathItem

/-- A path without operations. -/
def empty : PathItem := {}

end PathItem

end RouteAtlas

/-
Module: RouteAtlas.PathNode.Load
Purpose: Loading a route tree from the text of a dump.
Main exports: PathNode.load, Field.decode, Role.decode
-/
import RouteAtlas.Json.Decoder
import RouteAtlas.PathNode.Basic

namespace RouteAtlas

open Json (Decoder Slot Fault)

/-!
Each structure is read into a draft with one optional member for each of its
own.  Names, import paths, lists and flags may be missing where the model has
a default for them; what is required is asked for in declaration order.
-/

/-- The names of a choice that carries nothing. -/
def named {α : Type} (name : α → String) (values : List α) :
    List (String × α) :=
  values.map fun value => (name value, value)

namespace Json.Slot

/-- A slot that puts a decoded value into a draft. -/
def of {σ α : Type} (name : String) (optional : Bool) (decode : Decoder α)
    (get : σ → Option α) (set : α → σ → σ) : Slot σ where
  name := name
  optional := optional
  isFilled := fun draft => (get draft).isSome
  fill := fun room reading draft =>
    match decode room reading with
    | .error fault => .error fault
    | .ok value => .ok (set value draft)

end Json.Slot

/-- A method by its name. -/
def Method.decode : Decoder Method :=
  Decoder.name (named Method.name Method.all)

/-- A path kind by its name. -/
def PathKind.decode : Decoder PathKind :=
  Decoder.name (named PathKind.name [.root, .static, .param])

/-- An integer type by its name. -/
def IntType.decode : Decoder IntType :=
  Decoder.name (named IntType.name IntType.all)

/-- A role by its name. -/
def Role.decode : Decoder Role :=
  Decoder.name (named Role.name Role.all)

/-- A field kind: a name, or an object that gives the type of an integer. -/
def FieldKind.decode : Decoder FieldKind :=
  Decoder.variant
    [("bool", .none .bool), ("string", .none .string),
      ("integer", .one fun room reading =>
        (IntType.decode room reading).map .integer),
      ("array", .none .array), ("record", .none .record), ("map", .none .map)]

namespace PathSegment

/-- A segment under construction. -/
structure Draft where
  name : Option String := none
  kind : Option PathKind := none

/-- A path segment. -/
def decode : Decoder PathSegment :=
  Decoder.record "PathSegment"
    [.of "name" false Decoder.string Draft.name
        fun value draft => { draft with name := some value },
      .of "kind" false PathKind.decode Draft.kind
        fun value draft => { draft with kind := some value }]
    {} fun draft => do
      let name ← Json.require "name" draft.name
      let kind ← Json.require "kind" draft.kind
      return { name, kind }

end PathSegment

namespace Receiver

/-- A receiver under construction. -/
structure Draft where
  name : Option String := none
  pointer : Option Bool := none

/-- A receiver. -/
def decode : Decoder Receiver :=
  Decoder.record "Receiver"
    [.of "name" false Decoder.string Draft.name
        fun value draft => { draft with name := some value },
      .of "pointer" true Decoder.bool Draft.pointer
        fun value draft => { draft with pointer := some value }]
    {} fun draft => do
      let name ← Json.require "name" draft.name
      return { name, pointer := draft.pointer.getD false }

end Receiver

namespace HandlerRef

/-- A function reference under construction. -/
structure Draft where
  name : Option String := none
  importPath : Option String := none
  receiver : Option (Option Receiver) := none

/-- A function reference. -/
def decode : Decoder HandlerRef :=
  Decoder.record "HandlerRef"
    [.of "name" false Decoder.string Draft.name
        fun value draft => { draft with name := some value },
      .of "import" false Decoder.string Draft.importPath
        fun value draft => { draft with importPath := some value },
      .of "receiver" true (Decoder.option Receiver.decode) Draft.receiver
        fun value draft => { draft with receiver := some value }]
    {} fun draft => do
      let name ← Json.require "name" draft.name
      let importPath ← Json.require "import" draft.importPath
      return { name, importPath, receiver := draft.receiver.getD none }

end HandlerRef

namespace Serialization

/-- A serialization under construction. -/
structure Draft where
  role : Option Role := none
  name : Option String := none

/-- A serialization. -/
def decode : Decoder Serialization :=
  Decoder.record "Serialization"
    [.of "role" false Role.decode Draft.role
        fun value draft => { draft with role := some value },
      .of "name" false Decoder.string Draft.name
        fun value draft => { draft with name := some value }]
    {} fun draft => do
      let role ← Json.require "role" draft.role
      let name ← Json.require "name" draft.name
      return { role, name }

end Serialization

namespace Field

/-- A field under construction. -/
structure Draft where
  name : Option String := none
  kind : Option FieldKind := none
  serialization : Option (Option Serialization) := none
  validation : Option (List String) := none
  subfields : Option (List Field) := none

/-- The slots of a field, given how its subfields are read. -/
def slots (subfield : Decoder Field) : List (Slot Draft) :=
  [.of "name" true Decoder.string Draft.name
      fun value draft => { draft with name := some value },
    .of "kind" false FieldKind.decode Draft.kind
      fun value draft => { draft with kind := some value },
    .of "serialization" true (Decoder.option Serialization.decode)
      Draft.serialization
      fun value draft => { draft with serialization := some value },
    .of "validation" true (Decoder.list Decoder.string) Draft.validation
      fun value draft => { draft with validation := some value },
    .of "subfields" true (Decoder.list subfield) Draft.subfields
      fun value draft => { draft with subfields := some value }]

/-- The field of a draft. -/
def ofDraft (draft : Draft) : Except Fault Field := do
  let kind ← Json.require "kind" draft.kind
  return {
    name := draft.name.getD ""
    kind
    serialization := draft.serialization.getD none
    validation := draft.validation.getD []
    subfields := draft.subfields.getD [] }

/-- A field with at most so many levels of fields. -/
def decodeLevels : Nat → Decoder Field
  | 0 => fun _ _ => .error .malformed
  | levels + 1 =>
      Decoder.record "Field" (slots (decodeLevels levels)) {} ofDraft

/-- A field.  Every level opens a container, so the containers run out before
the levels do. -/
def decode : Decoder Field :=
  fun room => decodeLevels (room + 1) room

end Field

namespace Data

/-- A record schema under construction. -/
structure Draft where
  name : Option String := none
  importPath : Option String := none
  fields : Option (List Field) := none

/-- A record schema. -/
def decode : Decoder Data :=
  Decoder.record "Data"
    [.of "name" false Decoder.string Draft.name
        fun value draft => { draft with name := some value },
      .of "import" true Decoder.string Draft.importPath
        fun value draft => { draft with importPath := some value },
      .of "fields" true (Decoder.list Field.decode) Draft.fields
        fun value draft => { draft with fields := some value }]
    {} fun draft => do
      let name ← Json.require "name" draft.name
      return {
        name
        importPath := draft.importPath.getD ""
        fields := draft.fields.getD [] }

end Data

namespace Endpoint

/-- An endpoint under construction. -/
structure Draft where
  method : Option Method := none
  path : Option (List PathSegment) := none
  description : Option String := none
  authorization : Option (List String) := none
  body : Option Data := none
  response : Option Data := none
  handler : Option HandlerRef := none
  middleware : Option (List HandlerRef) := none

/-- An endpoint. -/
def decode : Decoder Endpoint :=
  Decoder.record "Endpoint"
    [.of "method" false Method.decode Draft.method
        fun value draft => { draft with method := some value },
      .of "path" false (Decoder.list PathSegment.decode) Draft.path
        fun value draft => { draft with path := some value },
      .of "description" true Decoder.string Draft.description
        fun value draft => { draft with description := some value },
      .of "authorization" true (Decoder.list Decoder.string)
        Draft.authorization
        fun value draft => { draft with authorization := some value },
      .of "body" false Data.decode Draft.body
        fun value draft => { draft with body := some value },
      .of "response" false Data.decode Draft.response
        fun value draft => { draft with response := some value },
      .of "handler" false HandlerRef.decode Draft.handler
        fun value draft => { draft with handler := some value },
      .of "middleware" true (Decoder.list HandlerRef.decode) Draft.middleware
        fun value draft => { draft with middleware := some value }]
    {} fun draft => do
      let method ← Json.require "method" draft.method
      let path ← Json.require "path" draft.path
      let body ← Json.require "body" draft.body
      let response ← Json.require "response" draft.response
      let handler ← Json.require "handler" draft.handler
      return {
        method, path
        description := draft.description.getD ""
        authorization := draft.authorization.getD []
        body, response, handler
        middleware := draft.middleware.getD [] }

end Endpoint

namespace PathNode

/-- A node under construction. -/
structure Draft where
  name : Option String := none
  kind : Option PathKind := none
  endpoints : Option (List Endpoint) := none
  middleware : Option (List HandlerRef) := none
  children : Option (List PathNode) := none

/-- The slots of a node, given how its children are read. -/
def slots (child : Decoder PathNode) : List (Slot Draft) :=
  [.of "name" true Decoder.string Draft.name
      fun value draft => { draft with name := some value },
    .of "kind" false PathKind.decode Draft.kind
      fun value draft => { draft with kind := some value },
    .of "endpoints" true (Decoder.list Endpoint.decode) Draft.endpoints
      fun value draft => { draft with endpoints := some value },
    .of "middleware" true (Decoder.list HandlerRef.decode) Draft.middleware
      fun value draft => { draft with middleware := some value },
    .of "children" true (Decoder.list child) Draft.children
      fun value draft => { draft with children := some value }]

/-- The node of a draft. -/
def ofDraft (draft : Draft) : Except Fault PathNode := do
  let kind ← Json.require "kind" draft.kind
  return {
    name := draft.name.getD ""
    kind
    endpoints := draft.endpoints.getD []
    middleware := draft.middleware.getD []
    children := draft.children.getD [] }

/-- A tree with at most so many levels of nodes. -/
def decodeLevels : Nat → Decoder PathNode
  | 0 => fun _ _ => .error .malformed
  | levels + 1 =>
      Decoder.record "PathNode" (slots (decodeLevels levels)) {} ofDraft

/-- A tree.  Every level opens a container, so the containers run out before
the levels do. -/
def decode : Decoder PathNode :=
  fun room => decodeLevels (room + 1) room

/-- Load a tree from the text of a dump. -/
def load (text : String) : Except Fault PathNode :=
  Json.decodeText decode text

end PathNode

end RouteAtlas

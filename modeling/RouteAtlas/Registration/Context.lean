/-
Module: RouteAtlas.Registration.Context
Purpose: The flat views of a tree that a registration template iterates over.
Main exports: RegistrationContext, EndpointView, RegistrationContext.build
-/
import RouteAtlas.Json.Value
import RouteAtlas.Registration.Options
import RouteAtlas.Symbols.Table

namespace RouteAtlas

/-- An import under its alias. -/
structure ImportView where
  ident : String
  importPath : String
deriving Repr, DecidableEq, Inhabited

/-- A receiver under its alias, with the alias of the declaring package. -/
structure ReceiverView where
  ident : String
  key : ReceiverKey
  importIdent : String
deriving Repr, DecidableEq, Inhabited

/-- A field that is moved between a record and the wire. -/
structure ParamView where
  name : String
  wireName : String
  role : Role
  accessor : String
deriving Repr, DecidableEq, Inhabited

/-- An endpoint. -/
structure EndpointView where
  method : Method
  /-- The method in the spelling of the framework. -/
  methodIdent : String
  path : String
  isGet : Bool
  description : String
  authorization : List String
  /-- The chain of the node, then that of the endpoint, each function with the
  alias it is called through. -/
  middleware : List String
  handlerIdent : String
  handlerName : String
  bodyType : String
  responseType : String
  requestParams : List ParamView
  responseParams : List ParamView
deriving Repr, DecidableEq, Inhabited

/-- Everything that a registration template sees. -/
structure RegistrationContext where
  package : String
  validateImport : String
  /-- Imports without an alias. -/
  setupImports : List String
  imports : List ImportView
  receivers : List ReceiverView
  endpoints : List EndpointView
deriving Repr, DecidableEq, Inhabited

namespace SymbolTable

/-- A function as generated code names it. -/
def callName (table : SymbolTable) (ref : HandlerRef) : Except Error String := do
  let ident ← table.handlerAlias ref
  return ident ++ "." ++ ref.name

/-- A record type as generated code names it; a built-in one has no alias. -/
def typeName (table : SymbolTable) (data : Data) : Except Error String :=
  if data.importPath = "" then
    .ok data.name
  else do
    let ident ← table.importAlias data.importPath
    return ident ++ "." ++ data.name

end SymbolTable

namespace ParamView

/-- The view of a field that has an accessor.  A header name, where one is
given, stands for the wire name of every cookie. -/
def ofField? (accessors : Role.Map) (cookieHeader : Option String)
    (field : Field) : Option ParamView :=
  match field.serialization with
  | none => none
  | some serialization =>
      match accessors.get? serialization.role with
      | none => none
      | some accessor =>
          let wireName :=
            match serialization.role, cookieHeader with
            | .cookie, some header => header
            | _, _ => serialization.name
          some ⟨field.name, wireName, serialization.role, accessor⟩

end ParamView

namespace EndpointView

/-- The view of an endpoint that a node owns. -/
def build (table : SymbolTable) (conventions : Conventions) (node : PathNode)
    (endpoint : Endpoint) : Except Error EndpointView := do
  let middleware ←
    (node.middleware ++ endpoint.middleware).mapM table.callName
  let handlerIdent ← table.handlerAlias endpoint.handler
  let bodyType ← table.typeName endpoint.body
  let responseType ← table.typeName endpoint.response
  return {
    method := endpoint.method
    methodIdent := conventions.methodCase.spell endpoint.method
    path := endpoint.url conventions.paramStyle
    isGet := endpoint.isGet
    description := endpoint.description
    authorization := endpoint.authorization
    middleware, handlerIdent
    handlerName := endpoint.handler.name
    bodyType, responseType
    requestParams := endpoint.body.fields.filterMap <|
      ParamView.ofField? conventions.requestAccessors none
    responseParams := endpoint.response.fields.filterMap <|
      ParamView.ofField? conventions.responseAccessors
        (some conventions.cookieHeader) }

end EndpointView

namespace ReceiverView

/-- The view of a receiver with its alias. -/
def build (table : SymbolTable) (entry : ReceiverKey × String) :
    Except Error ReceiverView := do
  let importIdent ← table.importAlias entry.1.importPath
  return ⟨entry.2, entry.1, importIdent⟩

end ReceiverView

namespace RegistrationContext

/-- The context of a tree.  Receivers are looked up before endpoints, and the
first missing alias is reported. -/
def build (tree : PathNode) (table : SymbolTable) (options : RenderOptions) :
    Except Error RegistrationContext := do
  let receivers ← table.receivers.mapM (ReceiverView.build table)
  let endpoints ← tree.allEndpoints.mapM fun (node, endpoint) =>
    EndpointView.build table options.conventions node endpoint
  return {
    package := options.package
    validateImport := options.validateImport
    setupImports := options.frameworkImports ++ [options.validateImport]
    imports := table.imports.map fun (path, ident) => ⟨ident, path⟩
    receivers, endpoints }

end RegistrationContext

/-!
A template sees the context as one value, in which every view is an object.
-/

/-- The value of an import. -/
def ImportView.toJson (view : ImportView) : Json :=
  .object [("ident", .string view.ident), ("import", .string view.importPath)]

/-- The value of a receiver. -/
def ReceiverView.toJson (view : ReceiverView) : Json :=
  .object
    [("ident", .string view.ident), ("import", .string view.key.importPath),
      ("import_ident", .string view.importIdent),
      ("name", .string view.key.name), ("pointer", .bool view.key.pointer)]

/-- The value of a parameter. -/
def ParamView.toJson (view : ParamView) : Json :=
  .object
    [("name", .string view.name), ("wire_name", .string view.wireName),
      ("role", .string view.role.name), ("accessor", .string view.accessor)]

/-- The value of an endpoint. -/
def EndpointView.toJson (view : EndpointView) : Json :=
  .object
    [("method", .string view.method.name),
      ("method_ident", .string view.methodIdent),
      ("path", .string view.path),
      ("is_get", .bool view.isGet),
      ("description", .string view.description),
      ("authorization", .strings view.authorization),
      ("middleware", .strings view.middleware),
      ("handler_ident", .string view.handlerIdent),
      ("handler_name", .string view.handlerName),
      ("body_type", .string view.bodyType),
      ("response_type", .string view.responseType),
      ("request_params", .array (view.requestParams.map ParamView.toJson)),
      ("response_params", .array (view.responseParams.map ParamView.toJson))]

/-- The value of a whole context. -/
def RegistrationContext.toJson (context : RegistrationContext) : Json :=
  .object
    [("package", .string context.package),
      ("validate_import", .string context.validateImport),
      ("setup_imports", .strings context.setupImports),
      ("imports", .array (context.imports.map ImportView.toJson)),
      ("receivers", .array (context.receivers.map ReceiverView.toJson)),
      ("endpoints", .array (context.endpoints.map EndpointView.toJson))]

end RouteAtlas

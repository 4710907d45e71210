/-
Module: RouteAtlas.Proofs.BackEndAgreement
Purpose: The registration context and the document of an extracted tree speak of
  the same endpoints and say the same about each of them.
Main exports: EndpointView.AgreesWith, Route.extract_backEnds_agree
-/
import RouteAtlas.Proofs.DocumentPaths
import RouteAtlas.Proofs.ExtractionMirror
import RouteAtlas.Proofs.MissingSymbols

namespace RouteAtlas

open Fallible

/-! ## One endpoint -/

/-- Where an endpoint is registered. -/
def EndpointView.place (view : EndpointView) : String × Method :=
  (view.path, view.method)

/-- The wire name and the location of a parameter that travels in the path or in
the query. -/
def ParamView.location? (view : ParamView) : Option (String × String) :=
  match view.role with
  | .path => some (view.wireName, "path")
  | .query => some (view.wireName, "query")
  | _ => none

/-- What a view and an operation say alike about an endpoint. -/
structure EndpointView.AgreesWith (view : EndpointView) (operation : Operation) : Prop where
  name : operation.operationId = view.handlerName
  description : operation.description = view.description
  body : view.isGet = true → operation.requestBody = none
  parameters : operation.parameters.map (fun parameter => (parameter.name, parameter.location)) =
    view.requestParams.filterMap ParamView.location?

theorem ParamView.ofField?_of_serialization {accessors : Role.Map} {field : Field}
    {serialization : Serialization} (travels : field.serialization = some serialization) :
    ParamView.ofField? accessors none field =
      (accessors.get? serialization.role).map fun accessor =>
        ⟨field.name, serialization.name, serialization.role, accessor⟩ := by
  obtain ⟨role, name⟩ := serialization
  simp only [ofField?, travels]
  cases accessors.get? role with
  | none => rfl
  | some accessor => cases role <;> rfl

/-- A field becomes a parameter of both kinds or of neither, as long as what
travels in the path and in the query is read at all. -/
theorem Parameter.ofField?_agrees {accessors : Role.Map}
    (readsPath : (accessors.get? .path).isSome) (readsQuery : (accessors.get? .query).isSome)
    (field : Field) :
    (Parameter.ofField? field).map (fun parameter => (parameter.name, parameter.location)) =
      (ParamView.ofField? accessors none field).bind ParamView.location? := by
  obtain ⟨forPath, isForPath⟩ := Option.isSome_iff_exists.mp readsPath
  obtain ⟨forQuery, isForQuery⟩ := Option.isSome_iff_exists.mp readsQuery
  obtain ⟨name, kind, serialization, validation, subfields⟩ := field
  cases serialization with
  | none => rfl
  | some serialization =>
      obtain ⟨role, wireName⟩ := serialization
      rw [ParamView.ofField?_of_serialization rfl]
      cases role with
      | path =>
          rw [isForPath]
          rfl
      | query =>
          rw [isForQuery]
          rfl
      | json => cases accessors.get? .json <;> rfl
      | header => cases accessors.get? .header <;> rfl
      | cookie => cases accessors.get? .cookie <;> rfl

theorem EndpointView.build_agrees {table : SymbolTable} {conventions : Conventions}
    {node : PathNode} {endpoint : Endpoint} {view : EndpointView}
    (readsPath : (conventions.requestAccessors.get? .path).isSome)
    (readsQuery : (conventions.requestAccessors.get? .query).isSome)
    (built : EndpointView.build table conventions node endpoint = .ok view) :
    view.AgreesWith (.ofEndpoint endpoint) := by
  obtain ⟨_, _, _, _, _, _, _, _, rfl⟩ := build_eq_ok_iff.mp built
  exact {
    name := rfl
    description := rfl
    body := by
      intro isGet
      have noBody : endpoint.isGet = true := isGet
      simp [Operation.ofEndpoint, RequestBody.ofEndpoint?, noBody]
    parameters := by
      rw [Operation.ofEndpoint, ofNames, List.map_filterMap, List.filterMap_filterMap]
      congr 1
      funext field
      exact Parameter.ofField?_agrees readsPath readsQuery field }

theorem EndpointView.build_place {table : SymbolTable} {conventions : Conventions}
    {node : PathNode} {endpoint : Endpoint} {view : EndpointView}
    (braces : conventions.paramStyle = .braces)
    (built : EndpointView.build table conventions node endpoint = .ok view) :
    OpenApi.placeOf (endpoint.url .braces, endpoint) = view.place := by
  obtain ⟨_, _, _, _, _, _, _, _, rfl⟩ := build_eq_ok_iff.mp built
  rw [place, ofNames, braces]
  rfl

/-! ## All endpoints -/

namespace Route

variable {keys : TagKeys} {route : Route} {tree : PathNode}

/-- The views of an extracted tree are registered where the document places its
endpoints, one after another. -/
theorem extract_build_places (extracted : route.extract keys = .ok tree)
    {table : SymbolTable} {options : RenderOptions} {context : RegistrationContext}
    (braces : options.conventions.paramStyle = .braces)
    (built : RegistrationContext.build tree table options = .ok context) :
    context.endpoints.map EndpointView.place = (tree.placements []).map OpenApi.placeOf := by
  obtain ⟨_, ofEndpoints, _⟩ := RegistrationContext.build_eq_ok_iff.mp built
  have places := map_eq_map_of_related
    (fun _ _ viewed => EndpointView.build_place braces viewed) ofEndpoints
  rw [← places, extract_placements extracted, List.map_map]
  rfl

/-- For an extracted tree, the registration context and the document have the
same pairs of a path and a method.  Where no two endpoints share such a pair,
the operation under the pair of an endpoint has the name, the description and
the parameters of its view, and no body if the endpoint answers GET. -/
theorem extract_backEnds_agree (extracted : route.extract keys = .ok tree)
    (options : RenderOptions) (braces : options.conventions.paramStyle = .braces)
    (readsPath : (options.conventions.requestAccessors.get? .path).isSome)
    (readsQuery : (options.conventions.requestAccessors.get? .query).isSome)
    (title version server : String) :
    ∃ context, RegistrationContext.build tree (.allocate tree) options = .ok context ∧
      (∀ path method, (path, method) ∈ context.endpoints.map EndpointView.place ↔
        ∃ item, (path, item) ∈ (OpenApi.ofTree tree title version server).paths ∧
          (item.get? method).isSome) ∧
      ((context.endpoints.map EndpointView.place).Nodup →
        ∀ view ∈ context.endpoints, ∃ item operation,
          (OpenApi.ofTree tree title version server).paths.get? view.path = some item ∧
          item.get? view.method = some operation ∧ view.AgreesWith operation) := by
  obtain ⟨context, built⟩ :=
    RegistrationContext.build_succeeds options (extract_importable extracted)
  obtain ⟨_, ofEndpoints, _⟩ := RegistrationContext.build_eq_ok_iff.mp built
  have places := extract_build_places extracted braces built
  refine ⟨context, built, ?_, ?_⟩
  · intro path method
    rw [places, ← OpenApi.operation?_pathsOf_isSome_iff]
    exact OpenApi.operation?_isSome_iff (OpenApi.pathsOf_isSorted tree)
  · intro apart view member
    obtain ⟨⟨node, endpoint⟩, owned, viewed⟩ := exists_of_mem_right ofEndpoints member
    have place := EndpointView.build_place braces viewed
    have placed : (endpoint.url .braces, endpoint) ∈ tree.placements [] := by
      rw [extract_placements extracted]
      exact List.mem_map_of_mem owned
    rw [places] at apart
    have found := OpenApi.operation?_of_nodup apart placed
    obtain ⟨samePath, sameMethod⟩ := Prod.mk.inj place
    rw [← samePath, ← sameMethod]
    obtain ⟨item, atPath, atMethod⟩ := Option.bind_eq_some_iff.mp found
    exact ⟨item, _, atPath, atMethod, EndpointView.build_agrees readsPath readsQuery viewed⟩

end Route

/-! ## A service of users -/

namespace Users

/-- Options with the path variables of documents. -/
def options : RenderOptions :=
  { RenderOptions.standard with
    conventions := { Conventions.fiber with paramStyle := .braces } }

theorem places_of_extracted {tree : PathNode} (extracted : routes.extract {} = .ok tree) :
    (tree.placements []).map OpenApi.placeOf =
      [("/users/\x7bid\x7d", .get), ("/users/\x7bid\x7d", .put)] := by
  have places : (routes.extract {}).toOption.map (fun tree =>
      (tree.placements []).map OpenApi.placeOf) =
        some [("/users/\x7bid\x7d", .get), ("/users/\x7bid\x7d", .put)] := by
    decide +kernel
  rw [extracted] at places
  exact Option.some.inj places

end Users

theorem Route.extract_backEnds_agree_users : ∃ tree context,
    Users.routes.extract {} = .ok tree ∧
      RegistrationContext.build tree (.allocate tree) Users.options = .ok context ∧
      (context.endpoints.map EndpointView.place).Nodup ∧
      ∀ view ∈ context.endpoints, ∃ item operation,
        (OpenApi.ofTree tree "Users" "1.0.0" "").paths.get? view.path = some item ∧
          item.get? view.method = some operation ∧ view.AgreesWith operation := by
  obtain ⟨tree, extracted⟩ := Users.extracted
  obtain ⟨context, built, _, agree⟩ :=
    Route.extract_backEnds_agree extracted Users.options rfl rfl rfl "Users" "1.0.0" ""
  have apart : (context.endpoints.map EndpointView.place).Nodup := by
    rw [Route.extract_build_places extracted rfl built, Users.places_of_extracted extracted]
    decide
  exact ⟨tree, context, extracted, built, apart, agree apart⟩

end RouteAtlas

/-
Module: RouteAtlas.Proofs.RegistrationSteps
Purpose: What the steps of building a registration context succeed with.
Main exports: EndpointView.build_eq_ok_iff, RegistrationContext.build_eq_ok_iff
-/
import RouteAtlas.Proofs.Fallible
import RouteAtlas.Proofs.SymbolLookup
import RouteAtlas.Registration.Context

namespace RouteAtlas

open Fallible

/-- The view of an endpoint once everything it refers to has a name. -/
def EndpointView.ofNames (conventions : Conventions) (endpoint : Endpoint)
    (middleware : List String) (handlerIdent bodyType responseType : String) :
    EndpointView where
  method := endpoint.method
  methodIdent := conventions.methodCase.spell endpoint.method
  path := endpoint.url conventions.paramStyle
  isGet := endpoint.isGet
  description := endpoint.description
  authorization := endpoint.authorization
  middleware := middleware
  handlerIdent := handlerIdent
  handlerName := endpoint.handler.name
  bodyType := bodyType
  responseType := responseType
  requestParams := endpoint.body.fields.filterMap <|
    ParamView.ofField? conventions.requestAccessors none
  responseParams := endpoint.response.fields.filterMap <|
    ParamView.ofField? conventions.responseAccessors (some conventions.cookieHeader)

theorem EndpointView.build_eq_ok_iff {table : SymbolTable} {conventions : Conventions}
    {node : PathNode} {endpoint : Endpoint} {view : EndpointView} :
    EndpointView.build table conventions node endpoint = .ok view ↔
      ∃ middleware handlerIdent bodyType responseType,
        List.Forall₂ (fun ref name => table.callName ref = .ok name)
          (node.middleware ++ endpoint.middleware) middleware ∧
        table.handlerAlias endpoint.handler = .ok handlerIdent ∧
        table.typeName endpoint.body = .ok bodyType ∧
        table.typeName endpoint.response = .ok responseType ∧
        view = .ofNames conventions endpoint middleware handlerIdent bodyType responseType := by
  unfold build
  constructor
  · intro built
    obtain ⟨middleware, calls, built⟩ := bind_eq_ok.mp built
    obtain ⟨handlerIdent, ofHandler, built⟩ := bind_eq_ok.mp built
    obtain ⟨bodyType, ofBody, built⟩ := bind_eq_ok.mp built
    obtain ⟨responseType, ofResponse, built⟩ := bind_eq_ok.mp built
    exact ⟨middleware, handlerIdent, bodyType, responseType, mapM_eq_ok.mp calls, ofHandler,
      ofBody, ofResponse, (pure_eq_ok.mp built).symm⟩
  · rintro ⟨middleware, handlerIdent, bodyType, responseType, calls, ofHandler, ofBody,
      ofResponse, rfl⟩
    refine bind_eq_ok.mpr ⟨middleware, mapM_eq_ok.mpr calls, ?_⟩
    refine bind_eq_ok.mpr ⟨handlerIdent, ofHandler, ?_⟩
    refine bind_eq_ok.mpr ⟨bodyType, ofBody, ?_⟩
    exact bind_eq_ok.mpr ⟨responseType, ofResponse, rfl⟩

theorem ReceiverView.build_eq_ok_iff {table : SymbolTable} {entry : ReceiverKey × String}
    {view : ReceiverView} :
    ReceiverView.build table entry = .ok view ↔
      table.importAlias entry.1.importPath = .ok view.importIdent ∧
        view.ident = entry.2 ∧ view.key = entry.1 := by
  unfold build
  constructor
  · intro built
    obtain ⟨importIdent, found, built⟩ := bind_eq_ok.mp built
    cases built
    exact ⟨found, rfl, rfl⟩
  · obtain ⟨_, _, importIdent⟩ := view
    rintro ⟨found, rfl, rfl⟩
    exact bind_eq_ok.mpr ⟨importIdent, found, rfl⟩

theorem RegistrationContext.build_eq_ok_iff {tree : PathNode} {table : SymbolTable}
    {options : RenderOptions} {context : RegistrationContext} :
    RegistrationContext.build tree table options = .ok context ↔
      List.Forall₂ (fun entry view => ReceiverView.build table entry = .ok view)
          table.receivers context.receivers ∧
        List.Forall₂ (fun owned view =>
            EndpointView.build table options.conventions owned.1 owned.2 = .ok view)
          tree.allEndpoints context.endpoints ∧
        context.package = options.package ∧
        context.validateImport = options.validateImport ∧
        context.setupImports = options.frameworkImports ++ [options.validateImport] ∧
        context.imports = table.imports.map fun (path, ident) => ⟨ident, path⟩ := by
  unfold build
  constructor
  · intro built
    obtain ⟨receivers, ofReceivers, built⟩ := bind_eq_ok.mp built
    obtain ⟨endpoints, ofEndpoints, built⟩ := bind_eq_ok.mp built
    cases built
    exact ⟨mapM_eq_ok.mp ofReceivers, mapM_eq_ok.mp ofEndpoints, rfl, rfl, rfl, rfl⟩
  · obtain ⟨_, _, _, _, receivers, endpoints⟩ := context
    rintro ⟨ofReceivers, ofEndpoints, rfl, rfl, rfl, rfl⟩
    refine bind_eq_ok.mpr ⟨receivers, mapM_eq_ok.mpr ofReceivers, ?_⟩
    exact bind_eq_ok.mpr ⟨endpoints, mapM_eq_ok.mpr ofEndpoints, rfl⟩

end RouteAtlas

/-
Module: RouteAtlas.Settings.Basic
Purpose: What is generated from a tree, how, and where it goes.
Main exports: RegistrationSettings, OpenApiSettings, Settings,
  Settings.validate, Settings.toJson
-/
import RouteAtlas.Error
import RouteAtlas.Registration.FromJson

namespace RouteAtlas

/-- Settings of the registration code. -/
structure RegistrationSettings where
  enabled : Bool := true
  /-- The file it goes to, if not to standard output. -/
  output : Option String := none
  /-- The file that has the template, if not the embedded one. -/
  template : Option String := none
  render : RenderOptions := .standard
deriving Repr, DecidableEq, Inhabited

/-- Settings of the OpenAPI document. -/
structure OpenApiSettings where
  enabled : Bool := true
  /-- The file it goes to, if not to standard output. -/
  output : Option String := none
  title : String := "API Specification"
  version : String := "1.0.0"
  /-- The only server of the document, which has none if this is empty. -/
  serverUrl : String := ""
deriving Repr, DecidableEq, Inhabited

/-- All settings, with the version of their layout. -/
structure Settings where
  version : Nat := 1
  registration : RegistrationSettings := {}
  openapi : OpenApiSettings := {}
deriving Repr, DecidableEq, Inhabited

namespace Settings

/-- The name of a file with settings. -/
def fileName : String := "routespec.yaml"

/-- The version of the layout that is understood. -/
def knownVersion : Nat := 1

/-- The settings, if their layout is understood. -/
def validate (settings : Settings) : Except Error Settings :=
  if settings.version = knownVersion then .ok settings
  else
    .error (.config ("Unsupported " ++ fileName ++ " version: " ++
      toString settings.version))

end Settings

/-!
The value of settings lists every field.
-/

/-- A text or null. -/
def Json.ofOption : Option String → Json
  | some text => .string text
  | none => .null

/-- The value of the settings of registration code, in which the render options
stand beside the others. -/
def RegistrationSettings.toJson (settings : RegistrationSettings) : Json :=
  .object <|
    [("enabled", .bool settings.enabled),
      ("output", .ofOption settings.output),
      ("template", .ofOption settings.template)] ++ settings.render.toMembers

/-- The value of the settings of an OpenAPI document. -/
def OpenApiSettings.toJson (settings : OpenApiSettings) : Json :=
  .object
    [("enabled", .bool settings.enabled),
      ("output", .ofOption settings.output),
      ("title", .string settings.title),
      ("version", .string settings.version),
      ("server_url", .string settings.serverUrl)]

/-- The value of all settings. -/
def Settings.toJson (settings : Settings) : Json :=
  .object
    [("version", .int settings.version),
      ("registration", settings.registration.toJson),
      ("openapi", settings.openapi.toJson)]

end RouteAtlas

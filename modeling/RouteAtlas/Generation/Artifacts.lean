/-
Module: RouteAtlas.Generation.Artifacts
Purpose: Everything that settings ask to be generated from a tree.
Main exports: RegistrationSettings.generate, OpenApiSettings.generate,
  Artifacts, Artifacts.generate, Artifacts.write
-/
import RouteAtlas.OpenApi.Printer
import RouteAtlas.Registration.Renderer
import RouteAtlas.Settings.Loading

namespace RouteAtlas

variable {m : Type → Type} [Monad m] [FileSystem m]

/-- The registration code of a tree. -/
def RegistrationSettings.generate (settings : RegistrationSettings)
    (tree : PathNode) : ExceptT Error m String := do
  let source ← settings.templateSource
  ExceptT.mk <| pure <|
    renderRegistration tree (.allocate tree) source settings.render

/-- The OpenAPI document of a tree. -/
def OpenApiSettings.generate (settings : OpenApiSettings) (tree : PathNode) :
    String :=
  OpenApi.render tree settings.title settings.version settings.serverUrl

/-- The texts generated from a tree; one that is not enabled is absent. -/
structure Artifacts where
  registration : Option String
  openapi : Option String
deriving Repr, DecidableEq, Inhabited

namespace Artifacts

/-- Generate what is enabled. -/
def generate (tree : PathNode) (settings : Settings) :
    ExceptT Error m Artifacts := do
  let registration ←
    if settings.registration.enabled then
      some <$> settings.registration.generate tree
    else pure none
  let openapi :=
    if settings.openapi.enabled then some (settings.openapi.generate tree)
    else none
  return ⟨registration, openapi⟩

/-- The texts with the paths that they go to. -/
def outputs (artifacts : Artifacts) (settings : Settings) :
    List (Option String × String) :=
  (artifacts.registration.toList.map fun text =>
      (settings.registration.output, text)) ++
    artifacts.openapi.toList.map fun text => (settings.openapi.output, text)

/-- Write every text where the settings say. -/
def write (artifacts : Artifacts) (settings : Settings) : ExceptT Error m Unit :=
  FileSystem.attempt (FileSystem.writeOutputs (artifacts.outputs settings))

end Artifacts

end RouteAtlas

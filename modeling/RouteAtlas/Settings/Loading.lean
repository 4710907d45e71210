/-
Module: RouteAtlas.Settings.Loading
Purpose: Settings and templates from files.
Main exports: Settings.load, Settings.loadFrom, TemplateSource.ofFile
-/
import RouteAtlas.Files.System
import RouteAtlas.Settings.Yaml
import RouteAtlas.Template.Engine

namespace RouteAtlas

open FileSystem (attempt readText)

variable {m : Type → Type} [Monad m] [FileSystem m]

namespace Settings

/-- The settings in a file.  A fault of the text names the file. -/
def load (path : String) : ExceptT Error m Settings := do
  let text ← attempt (readText path)
  match ofYaml text with
  | .ok settings => return settings
  | .error error => throw (.duringOn "load config" path error)

/-- The settings in the settings file of a directory, if it has one. -/
def loadFrom (directory : String) : ExceptT Error m (Option Settings) := do
  let path := FilePath.join directory fileName
  let present ← (FileSystem.isPresent path : m Bool)
  if present then return some (← load path) else return none

end Settings

/-- The template in a file, under the name of the file. -/
def TemplateSource.ofFile (path : String) : ExceptT Error m TemplateSource := do
  let result ← (readText path : m (Except FileFault String))
  match result with
  | .ok source =>
      return .inline ((FilePath.name? path).getD "custom.jinja") source
  | .error fault =>
      throw <| .template <| .unread <|
        "Failed to read " ++ path ++ ": " ++ fault.message

/-- The template that settings ask for. -/
def RegistrationSettings.templateSource (settings : RegistrationSettings) :
    ExceptT Error m TemplateSource :=
  match settings.template with
  | some path => TemplateSource.ofFile path
  | none => return .embedded

end RouteAtlas

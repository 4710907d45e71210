/-
Module: RouteAtlas.Settings.Yaml
Purpose: Settings from a YAML document, and the document of settings.
Main exports: Settings.ofYaml, Settings.toYaml
-/
import RouteAtlas.Settings.Basic
import RouteAtlas.Yaml.Decoder
import RouteAtlas.Yaml.OfJson
import RouteAtlas.Yaml.Printer
import RouteAtlas.Yaml.Reader

namespace RouteAtlas

open Yaml (Fault Node Setter setter)

/-!
Every field that a document does not name keeps its standard value, and keys
that name no field are passed over.  The render options count every scalar as
what it stands for; elsewhere a text may be written as any scalar.
-/

/-- Texts under the names of roles; of two under one name the later one
counts. -/
def Role.Map.ofNode : Node → Except Fault Role.Map
  | .mapping entries => do
      let entries ← entries.mapM fun (key, node) => do
        let role ←
          Node.asChoice (Role.all.map fun role => (role.name, role))
            (.scalar key)
        let text ← node.asStrictText
        return (role, text)
      return .ofList entries
  | _ => .error (.unexpected "a map")

/-- The fields of conventions. -/
def Conventions.setters : List (Setter Conventions) :=
  [setter "method_case"
      (Node.asChoice (MethodCase.all.map fun style => (style.name, style)))
      fun value state => { state with methodCase := value },
    setter "param_style"
      (Node.asChoice (ParamStyle.all.map fun style => (style.name, style)))
      fun value state => { state with paramStyle := value },
    setter "request_accessors" Role.Map.ofNode
      fun value state => { state with requestAccessors := value },
    setter "response_accessors" Role.Map.ofNode
      fun value state => { state with responseAccessors := value },
    setter "cookie_header" Node.asStrictText
      fun value state => { state with cookieHeader := value }]

/-- The conventions in a node. -/
def Conventions.ofNode : Node → Except Fault Conventions :=
  Node.asRecord "conventions" setters .fiber

/-- Change the render options. -/
def RegistrationSettings.mapRender (change : RenderOptions → RenderOptions)
    (settings : RegistrationSettings) : RegistrationSettings :=
  { settings with render := change settings.render }

/-- The fields of the settings of registration code. -/
def RegistrationSettings.setters : List (Setter RegistrationSettings) :=
  [setter "enabled" Node.asBool
      fun value state => { state with enabled := value },
    setter "output" Node.asOptionalText
      fun value state => { state with output := value },
    setter "template" Node.asOptionalText
      fun value state => { state with template := value },
    setter "package" Node.asStrictText
      fun value => mapRender ({ · with package := value }),
    setter "validate_import" Node.asStrictText
      fun value => mapRender ({ · with validateImport := value }),
    setter "framework_imports" Node.asStrictTexts
      fun value => mapRender ({ · with frameworkImports := value }),
    setter "conventions" Conventions.ofNode
      fun value => mapRender ({ · with conventions := value })]

/-- The settings of registration code in a node. -/
def RegistrationSettings.ofNode : Node → Except Fault RegistrationSettings :=
  Node.asSection "registration settings" setters {}

/-- The fields of the settings of an OpenAPI document. -/
def OpenApiSettings.setters : List (Setter OpenApiSettings) :=
  [setter "enabled" Node.asBool
      fun value state => { state with enabled := value },
    setter "output" Node.asOptionalText
      fun value state => { state with output := value },
    setter "title" Node.asText fun value state => { state with title := value },
    setter "version" Node.asText
      fun value state => { state with version := value },
    setter "server_url" Node.asText
      fun value state => { state with serverUrl := value }]

/-- The settings of an OpenAPI document in a node. -/
def OpenApiSettings.ofNode : Node → Except Fault OpenApiSettings :=
  Node.asSection "OpenAPI settings" setters {}

namespace Settings

/-- The fields of all settings. -/
def setters : List (Setter Settings) :=
  [setter "version" (Node.asNatural (Nat.pow 2 32))
      fun value state => { state with version := value },
    setter "registration" RegistrationSettings.ofNode
      fun value state => { state with registration := value },
    setter "openapi" OpenApiSettings.ofNode
      fun value state => { state with openapi := value }]

/-- The settings in a node, in whatever version of the layout. -/
def ofNode : Node → Except Fault Settings :=
  Node.asSection "settings" setters {}

/-- The settings in the only document of a text.  Their version is looked at
once all of them are known. -/
def ofYaml (text : String) : Except Error Settings := do
  match Yaml.read text >>= ofNode with
  | .error fault => .error (.yaml fault.message)
  | .ok settings => settings.validate

/-- The node of settings. -/
def toNode (settings : Settings) : Node :=
  .ofJson settings.toJson

/-- The document of settings. -/
def toYaml (settings : Settings) : String :=
  Yaml.print settings.toNode

end Settings

end RouteAtlas

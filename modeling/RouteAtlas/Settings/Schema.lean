/-
Module: RouteAtlas.Settings.Schema
Purpose: The JSON Schema of settings files.
Main exports: Settings.schema
-/
import RouteAtlas.Dictionary
import RouteAtlas.Settings.Basic

namespace RouteAtlas

namespace Json

mutual

/-- A value with the members of every object in ascending order. -/
def sorted : Json → Json
  | .array items => .array (sortedItems items)
  | .object members => .object (Dictionary.ofList (sortedMembers members))
  | scalar => scalar

/-- Items with sorted members. -/
def sortedItems : List Json → List Json
  | [] => []
  | item :: rest => item.sorted :: sortedItems rest

/-- Members whose values have sorted members. -/
def sortedMembers : List (String × Json) → List (String × Json)
  | [] => []
  | (key, value) :: rest => (key, value.sorted) :: sortedMembers rest

end

end Json

namespace SettingsSchema

/-- The type of texts. -/
def text : List (String × Json) := [("type", .string "string")]

/-- The type of truth values. -/
def truth : List (String × Json) := [("type", .string "boolean")]

/-- The type of paths that may be absent. -/
def path : List (String × Json) := [("type", .strings ["string", "null"])]

/-- A reference to a definition. -/
def reference (name : String) : List (String × Json) :=
  [("$ref", .string ("#/$defs/" ++ name))]

/-- An object type with properties, in ascending order of their names. -/
def objectOf (properties : List (String × Json)) : List (String × Json) :=
  [("type", .string "object"),
    ("properties", .object (Dictionary.ofList properties))]

/-- Texts under the names of roles and no others. -/
def roles : List (String × Json) :=
  objectOf (Role.all.map fun role => (role.name, .object text)) ++
    [("additionalProperties", .bool false)]

/-- A description, unless it is empty, in front of members. -/
def described (description : String) (members : List (String × Json)) : Json :=
  .object (Json.memberUnlessBlank "description" description ++ members)

/-- A property with its standard value. -/
def property (description : String) (type : List (String × Json))
    (standard : Json) : Json :=
  described description (type ++ [("default", standard.sorted)])

/-- A choice among texts, each with a description. -/
def choice (description : String) (options : List (String × String)) : Json :=
  described description
    [("oneOf", .array <| options.map fun (name, about) =>
      described about (text ++ [("const", .string name)]))]

/-- A text in code quotes. -/
def quoted (text : String) : String := "`" ++ text ++ "`"

/-- The conventions of a framework. -/
def conventions : Json :=
  let standard : Conventions := .fiber
  described "Target-framework conventions" <| objectOf
    [("method_case",
        property "" (reference "MethodCase") (.string standard.methodCase.name)),
      ("param_style",
        property "" (reference "ParamStyle") (.string standard.paramStyle.name)),
      ("request_accessors",
        property ("Accessor reading a request field, per role. " ++
          "Roles without one are\nleft to body decoding.")
          roles standard.requestAccessors.toJson),
      ("response_accessors",
        property "Accessor writing a response field back, per role" roles
          standard.responseAccessors.toJson),
      ("cookie_header",
        property "Header name used when a response cookie is written" text
          (.string standard.cookieHeader))]

/-- The spellings of methods, each with an example. -/
def methodCases : Json :=
  choice "How HTTP methods are spelled in generated calls" <|
    MethodCase.all.map fun style => (style.name, quoted (style.spell .get))

/-- The styles of path variables, each with an example. -/
def paramStyles : Json :=
  choice "How path variables are written in a URL" <|
    ParamStyle.all.map fun style =>
      (style.name,
        quoted (renderPath style [⟨"users", .static⟩, ⟨"id", .param⟩]))

/-- The settings of an OpenAPI document. -/
def openApiSettings : Json :=
  let standard : OpenApiSettings := {}
  described "OpenAPI document settings" <| objectOf
    [("enabled",
        property "Generate this artifact" truth (.bool standard.enabled)),
      ("output",
        property "Output file; stdout when absent" path
          (.ofOption standard.output)),
      ("title", property "" text (.string standard.title)),
      ("version",
        property ("API version reported in " ++ quoted "info.version") text
          (.string standard.version)),
      ("server_url",
        property "Single server entry; omitted when empty" text
          (.string standard.serverUrl))]

/-- The settings of registration code. -/
def registrationSettings : Json :=
  let standard : RegistrationSettings := {}
  described "Registration code settings" <| objectOf
    [("enabled",
        property "Generate this artifact" truth (.bool standard.enabled)),
      ("output",
        property "Output file; stdout when absent" path
          (.ofOption standard.output)),
      ("template",
        property "Custom template file replacing the embedded Go Fiber one"
          path (.ofOption standard.template)),
      ("package",
        property "Package the generated file belongs to" text
          (.string standard.render.package)),
      ("validate_import",
        property "Validation library import" text
          (.string standard.render.validateImport)),
      ("framework_imports",
        .object
          [("description", .string
              "Framework imports emitted before the validation import"),
            ("type", .string "array"),
            ("default", .strings standard.render.frameworkImports),
            ("items", .object text)]),
      ("conventions",
        property "" (reference "Conventions")
          standard.render.conventions.toJson)]

/-- The version of the layout. -/
def layoutVersion : Json :=
  .object
    [("description", .string "Schema version for migrations"),
      ("type", .string "integer"), ("format", .string "uint32"),
      ("default", .int Settings.knownVersion), ("minimum", .int 0)]

end SettingsSchema

open SettingsSchema in
/-- The schema of all settings. -/
def Settings.schema : Json :=
  let standard : Settings := {}
  .object <|
    [("$schema", .string "https://json-schema.org/draft/2020-12/schema"),
      ("title", .string "GenConfig"),
      ("description", .string ("Root configuration (" ++ quoted fileName ++ ")"))]
      ++ objectOf
        [("version", layoutVersion),
          ("registration",
            property "Registration code output" (reference "RegistrationConfig")
              standard.registration.toJson),
          ("openapi",
            property "OpenAPI document output" (reference "OpenApiConfig")
              standard.openapi.toJson)]
      ++ [("$defs", .object
          [("Conventions", conventions), ("MethodCase", methodCases),
            ("OpenApiConfig", openApiSettings), ("ParamStyle", paramStyles),
            ("RegistrationConfig", registrationSettings)])]

end RouteAtlas

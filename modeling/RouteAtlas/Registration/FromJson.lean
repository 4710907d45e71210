/-
Module: RouteAtlas.Registration.FromJson
Purpose: Render options from a JSON value.
Main exports: RenderOptions.ofJson
-/
import RouteAtlas.Json.Fault
import RouteAtlas.Registration.Options

namespace RouteAtlas

open Json (Fault Found)

/-!
Whatever is missing keeps its standard value.  A structure may be written as
an object, whose other members are passed over, or as an array of its fields
in order.  Unlike a text, a value is complete, so nothing of it is malformed:
every fault is one of the data.
-/

namespace Json

/-- A value of the wrong kind, as a message names it. -/
def found : Json → Found
  | .null => .null
  | .bool value => .bool value
  | .int value => .number (.integer value)
  | .string text => .string text
  | .array _ => .sequence
  | .object _ => .map

/-- The fault of a value that is not of the expected kind. -/
def mismatch (expected : String) (value : Json) : Fault :=
  .data (.wrongKind value.found expected)

/-- A text. -/
def asString : Json → Except Fault String
  | .string text => .ok text
  | other => .error (other.mismatch "a string")

/-- An array of texts. -/
def asStrings : Json → Except Fault (List String)
  | .array items => items.mapM asString
  | other => .error (other.mismatch "a sequence")

/-- A choice among names: a name, or an object with the name as its only
member. -/
def asChoice {α : Type} (options : List (String × α)) : Json → Except Fault α
  | .string name => known name
  | .object [(name, payload)] => do
      let value ← known name
      match payload with
      | .null => return value
      | other => .error (other.mismatch "unit")
  | .object _ => .error (.data (.wrongValue .map "map with a single key"))
  | other => .error (other.mismatch "string or map")
where
  /-- The choice that a name stands for. -/
  known (name : String) : Except Fault α :=
    match options.lookup name with
    | some value => .ok value
    | none => .error (.data (.unknownVariant name (options.map (·.1))))

/-- One field of a structure: its name and how a value is put into it. -/
abbrev Setter (σ : Type) := String × (Json → σ → Except Fault σ)

/-- A setter from a way to read the value. -/
def setter {σ α : Type} (name : String) (read : Json → Except Fault α)
    (set : α → σ → σ) : Setter σ :=
  (name, fun value state => (read value).map fun value => set value state)

/-- Set the fields that the members of an object name. -/
def setMembers {σ : Type} (setters : List (Setter σ)) (state : σ) :
    List (String × Json) → Except Fault σ
  | [] => .ok state
  | (key, value) :: rest =>
      match setters.lookup key with
      | none => setMembers setters state rest
      | some set => do
          let state ← set value state
          setMembers setters state rest

/-- Set the fields in order from the items of an array. -/
def setItems {σ : Type} (length : Nat) :
    List (Setter σ) → List Json → σ → Except Fault σ
  | _, [], state => .ok state
  | [], _ :: _, _ =>
      .error (.data (.wrongLength length "fewer elements in array"))
  | (_, set) :: setters, item :: rest, state => do
      let state ← set item state
      setItems length setters rest state

/-- A structure with a standard value for each of its fields. -/
def asRecord {σ : Type} (label : String) (setters : List (Setter σ))
    (standard : σ) : Json → Except Fault σ
  | .object members => setMembers setters standard members
  | .array items => setItems items.length setters items standard
  | other => .error (other.mismatch ("struct " ++ label))

/-- Texts under the names of roles. -/
def asRoles : Json → Except Fault Role.Map
  | .object members => do
      let entries ← members.mapM fun (key, value) => do
        let role ← asChoice (Role.all.map fun role => (role.name, role))
          (.string key)
        let text ← asString value
        return (role, text)
      return .ofList entries
  | other => .error (other.mismatch "a map")

end Json

open Json (setter)

/-- The conventions in a value. -/
def Conventions.ofJson : Json → Except Fault Conventions :=
  Json.asRecord "Conventions"
    [setter "method_case"
        (Json.asChoice (MethodCase.all.map fun style => (style.name, style)))
        fun value state => { state with methodCase := value },
      setter "param_style"
        (Json.asChoice (ParamStyle.all.map fun style => (style.name, style)))
        fun value state => { state with paramStyle := value },
      setter "request_accessors" Json.asRoles
        fun value state => { state with requestAccessors := value },
      setter "response_accessors" Json.asRoles
        fun value state => { state with responseAccessors := value },
      setter "cookie_header" Json.asString
        fun value state => { state with cookieHeader := value }]
    .fiber

/-- The options in a value. -/
def RenderOptions.ofJson : Json → Except Fault RenderOptions :=
  Json.asRecord "RenderOptions"
    [setter "package" Json.asString
        fun value state => { state with package := value },
      setter "validate_import" Json.asString
        fun value state => { state with validateImport := value },
      setter "framework_imports" Json.asStrings
        fun value state => { state with frameworkImports := value },
      setter "conventions" Conventions.ofJson
        fun value state => { state with conventions := value }]
    .standard

/-!
The value of options lists every field.
-/

/-- Texts under the names of roles, in ascending order of the roles. -/
def Role.Map.toJson (map : Role.Map) : Json :=
  .object (map.toList.map fun (role, text) => (role.name, .string text))

/-- The value of conventions. -/
def Conventions.toJson (conventions : Conventions) : Json :=
  .object
    [("method_case", .string conventions.methodCase.name),
      ("param_style", .string conventions.paramStyle.name),
      ("request_accessors", conventions.requestAccessors.toJson),
      ("response_accessors", conventions.responseAccessors.toJson),
      ("cookie_header", .string conventions.cookieHeader)]

/-- The members of the value of options. -/
def RenderOptions.toMembers (options : RenderOptions) : List (String × Json) :=
  [("package", .string options.package),
    ("validate_import", .string options.validateImport),
    ("framework_imports", .strings options.frameworkImports),
    ("conventions", options.conventions.toJson)]

end RouteAtlas

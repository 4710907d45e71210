/-
Module: RouteAtlas.Registration.Options
Purpose: What shapes generated registration code beyond the routes themselves.
Main exports: MethodCase, Conventions, RenderOptions
-/
import RouteAtlas.Method
import RouteAtlas.Role.Map
import RouteAtlas.Segment

namespace RouteAtlas

/-- How generated code spells a method. -/
inductive MethodCase where
  | title
  | upper
  | lower
deriving Repr, DecidableEq, Inhabited

namespace MethodCase

/-- Every spelling. -/
def all : List MethodCase := [.title, .upper, .lower]

/-- The name in settings. -/
def name : MethodCase → String
  | .title => "title"
  | .upper => "upper"
  | .lower => "lower"

/-- A method in this spelling. -/
def spell (style : MethodCase) (method : Method) : String :=
  match style, method.name.toList with
  | .upper, letters => String.ofList letters
  | .lower, letters => String.ofList (letters.map Char.toLower)
  | .title, [] => ""
  | .title, first :: rest => String.ofList (first :: rest.map Char.toLower)

end MethodCase

namespace ParamStyle

/-- Every style. -/
def all : List ParamStyle := [.colon, .braces]

/-- The name in settings. -/
def name : ParamStyle → String
  | .colon => "colon"
  | .braces => "braces"

end ParamStyle

/-- The conventions of a web framework. -/
structure Conventions where
  methodCase : MethodCase
  paramStyle : ParamStyle
  /-- What reads a request field of each role.  A role without an accessor is
  left to the decoding of the body. -/
  requestAccessors : Role.Map
  /-- What writes a response field of each role. -/
  responseAccessors : Role.Map
  /-- The header under which a response cookie is written. -/
  cookieHeader : String
deriving Repr, DecidableEq

/-- What a template needs beyond the routes. -/
structure RenderOptions where
  package : String
  validateImport : String
  /-- Imports that stand before the one for validation. -/
  frameworkImports : List String
  conventions : Conventions
deriving Repr, DecidableEq

namespace Conventions

/-- The conventions of the Go framework Fiber. -/
def fiber : Conventions where
  methodCase := .title
  paramStyle := .colon
  requestAccessors :=
    { path := some "c.Params", query := some "c.Query", header := some "c.Get" }
  responseAccessors := { header := some "c.Set", cookie := some "c.Set" }
  cookieHeader := "set-cookie"

instance : Inhabited Conventions := ⟨fiber⟩

end Conventions

namespace RenderOptions

/-- The options when nothing is given. -/
def standard : RenderOptions where
  package := "apispec"
  validateImport := "github.com/go-playground/validator/v10"
  frameworkImports := ["github.com/gofiber/fiber/v2"]
  conventions := .fiber

instance : Inhabited RenderOptions := ⟨standard⟩

end RenderOptions

end RouteAtlas

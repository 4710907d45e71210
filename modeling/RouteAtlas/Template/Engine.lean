/-
Module: RouteAtlas.Template.Engine
Purpose: Finding a template by its name and rendering it.
Main exports: TemplateSource, Engine, Engine.ofSource, Engine.render
-/
import RouteAtlas.Error
import RouteAtlas.Template.Embedded
import RouteAtlas.Template.Run

namespace RouteAtlas

open Template (Stmt Scope)

/-- Where a registration template comes from. -/
inductive TemplateSource where
  | embedded
  | inline (name source : String)
deriving Repr, DecidableEq, Inhabited

/-- The templates that can be found by name: the one that was supplied, if
any, and the one that comes with the library. -/
structure Engine where
  supplied : Option (String × List Stmt)
deriving Inhabited

namespace TemplateSource

/-- The name under which the template is found. -/
def name : TemplateSource → String
  | .embedded => Template.embeddedName
  | .inline name _ => name

end TemplateSource

namespace Engine

/-- The statements of a source. -/
def parse (name source : String) : Except Error (List Stmt) :=
  match Template.parse? source with
  | some template => .ok template
  | none => .error (.template (.unparsed name "syntax error"))

/-- An engine for a source.  A supplied template must be well formed, even if
it is never rendered. -/
def ofSource : TemplateSource → Except Error Engine
  | .embedded => .ok ⟨none⟩
  | .inline name source => do
      let template ← parse name source
      return ⟨some (name, template)⟩

/-- The template that comes with the library, under its name. -/
def embedded (name : String) : Except Error (List Stmt) :=
  if name = Template.embeddedName then parse name Template.embeddedSource
  else .error (.template (.notFound name))

/-- The template of a name.  A supplied one hides one that comes with the
library. -/
def find (engine : Engine) (name : String) : Except Error (List Stmt) :=
  match engine.supplied with
  | some (own, template) =>
      if name = own then .ok template else embedded name
  | none => embedded name

/-- Render a template into a buffer, which also keeps what was written before
a fault. -/
def renderTo (engine : Engine) (name : String) (context : Json)
    (buffer : String) : String × Except Error Unit :=
  match engine.find name with
  | .error error => (buffer, .error error)
  | .ok template =>
      match Stmt.runAll template (.start context) buffer with
      | (buffer, .ok _) => (buffer, .ok ())
      | (buffer, .error fault) =>
          (buffer, .error (.template (.unrendered fault.message)))

/-- The text of a template in a context. -/
def render (engine : Engine) (name : String) (context : Json) :
    Except Error String :=
  match engine.renderTo name context "" with
  | (text, .ok _) => .ok text
  | (_, .error error) => .error error

end Engine

end RouteAtlas

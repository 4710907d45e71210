/-
Module: RouteAtlas.Registration.Renderer
Purpose: Rendering the registration code of trees, one after another.
Main exports: Renderer, Renderer.make, Renderer.render, renderRegistration
-/
import RouteAtlas.Registration.Context
import RouteAtlas.Template.Engine

namespace RouteAtlas

/-- A template with options, ready to be rendered.  The buffer holds what the
last rendering wrote. -/
structure Renderer where
  engine : Engine
  template : String
  options : RenderOptions
  buffer : String

namespace Renderer

/-- A renderer for a template. -/
def make (source : TemplateSource) (options : RenderOptions) :
    Except Error Renderer := do
  let engine ← Engine.ofSource source
  return { engine, template := source.name, options, buffer := "" }

/-- Render the code of one tree.  The buffer is cleared only once there is a
context to render. -/
def render (renderer : Renderer) (tree : PathNode) (table : SymbolTable) :
    Renderer × Except Error String :=
  match RegistrationContext.build tree table renderer.options with
  | .error error => (renderer, .error error)
  | .ok context =>
      let cleared := { renderer with buffer := "" }
      match cleared.engine.renderTo cleared.template context.toJson
          cleared.buffer with
      | (buffer, .ok _) => ({ cleared with buffer }, .ok buffer)
      | (buffer, .error error) => ({ cleared with buffer }, .error error)

/-- Render trees one after another; a fault in one does not stop the rest. -/
def renderAll (renderer : Renderer) :
    List (PathNode × SymbolTable) → List (Except Error String)
  | [] => []
  | (tree, table) :: rest =>
      let (renderer, result) := renderer.render tree table
      result :: renderer.renderAll rest

end Renderer

/-- The registration code of one tree. -/
def renderRegistration (tree : PathNode) (table : SymbolTable)
    (source : TemplateSource) (options : RenderOptions) :
    Except Error String := do
  let renderer ← Renderer.make source options
  (renderer.render tree table).2

end RouteAtlas

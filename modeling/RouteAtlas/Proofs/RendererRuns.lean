/-
Module: RouteAtlas.Proofs.RendererRuns
Purpose: A renderer that is used again and again: what its buffer still holds of a job, and
  that no later result has any of it.
Main exports: Renderer.after, Renderer.Agrees, Renderer.render_eq, Renderer.renderAll_forgets
-/
import RouteAtlas.Proofs.ReferenceHygiene
import RouteAtlas.Registration.Renderer

namespace RouteAtlas

namespace Renderer

/-- A tree to render, with its table of aliases. -/
abbrev Job := PathNode × SymbolTable

/-- What the rendering of jobs one after another leaves of a renderer. -/
def after (renderer : Renderer) : List Job → Renderer
  | [] => renderer
  | (tree, table) :: rest => (renderer.render tree table).1.after rest

/-- Two renderers with the same template and options.  Their buffers may differ. -/
structure Agrees (one other : Renderer) : Prop where
  engine : one.engine = other.engine
  template : one.template = other.template
  options : one.options = other.options

namespace Agrees

variable {one other third : Renderer}

theorem refl (renderer : Renderer) : renderer.Agrees renderer :=
  ⟨rfl, rfl, rfl⟩

theorem trans (first : one.Agrees other) (second : other.Agrees third) : one.Agrees third :=
  ⟨first.engine.trans second.engine, first.template.trans second.template,
    first.options.trans second.options⟩

end Agrees

variable {source : TemplateSource} {options : RenderOptions} {renderer fresh : Renderer}

/-! ## One job -/

/-- What one rendering writes into an empty buffer, and whether it fails. -/
def write (renderer : Renderer) (context : RegistrationContext) : String × Except Error Unit :=
  renderer.engine.renderTo renderer.template context.toJson ""

theorem write_of_agrees (agrees : renderer.Agrees fresh) (context : RegistrationContext) :
    renderer.write context = fresh.write context := by
  rw [write, write, agrees.engine, agrees.template]

/-- A job without a context leaves the renderer as it was.  Any other job leaves in the buffer
what it wrote, all of it or up to a fault, and only the former is a result. -/
theorem render_eq (renderer : Renderer) (tree : PathNode) (table : SymbolTable) :
    renderer.render tree table =
      match RegistrationContext.build tree table renderer.options with
      | .error error => (renderer, .error error)
      | .ok context =>
          ({ renderer with buffer := (renderer.write context).1 },
            (renderer.write context).2.map fun _ => (renderer.write context).1) := by
  unfold render write
  cases RegistrationContext.build tree table renderer.options with
  | error error => rfl
  | ok context =>
      dsimp only
      rcases renderer.engine.renderTo renderer.template context.toJson "" with ⟨buffer, _ | _⟩
      · rfl
      · rfl

theorem render_agrees (renderer : Renderer) (tree : PathNode) (table : SymbolTable) :
    (renderer.render tree table).1.Agrees renderer := by
  rw [render_eq]
  cases RegistrationContext.build tree table renderer.options with
  | error error => exact .refl renderer
  | ok context => exact ⟨rfl, rfl, rfl⟩

/-- What is in the buffer makes no difference to the result. -/
theorem result_of_agrees (agrees : renderer.Agrees fresh) (tree : PathNode)
    (table : SymbolTable) : (renderer.render tree table).2 = (fresh.render tree table).2 := by
  rw [render_eq, render_eq, agrees.options]
  cases RegistrationContext.build tree table fresh.options with
  | error error => rfl
  | ok context =>
      dsimp only
      rw [write_of_agrees agrees]

theorem result_eq_renderRegistration (made : make source options = .ok fresh)
    (agrees : renderer.Agrees fresh) (tree : PathNode) (table : SymbolTable) :
    (renderer.render tree table).2 = renderRegistration tree table source options := by
  rw [result_of_agrees agrees, renderRegistration, made]
  rfl

/-! ## Jobs one after another -/

theorem after_agrees (jobs : List Job) (renderer : Renderer) :
    (renderer.after jobs).Agrees renderer := by
  induction jobs generalizing renderer with
  | nil => exact .refl renderer
  | cons job rest ih =>
      exact (ih (renderer.render job.1 job.2).1).trans (render_agrees renderer job.1 job.2)

theorem renderAll_eq_map (made : make source options = .ok fresh)
    (agrees : renderer.Agrees fresh) (jobs : List Job) :
    renderer.renderAll jobs =
      jobs.map fun job => renderRegistration job.1 job.2 source options := by
  induction jobs generalizing renderer with
  | nil => rfl
  | cons job rest ih =>
      obtain ⟨tree, table⟩ := job
      have next := (render_agrees renderer tree table).trans agrees
      rw [renderAll, List.map_cons, ← result_eq_renderRegistration made agrees, ← ih next]

/-- Jobs on one renderer have the results that each of them has on a renderer of its own,
whichever of the others fail and wherever they do; and after any jobs the next result does not
depend on what the buffer holds. -/
theorem renderAll_forgets (made : make source options = .ok renderer) (jobs : List Job) :
    renderer.renderAll jobs =
        jobs.map (fun job => renderRegistration job.1 job.2 source options) ∧
      ∀ buffer tree table,
        (({ renderer.after jobs with buffer } : Renderer).render tree table).2 =
          renderRegistration tree table source options := by
  refine ⟨renderAll_eq_map made (.refl renderer) jobs, ?_⟩
  intro buffer tree table
  have agrees := after_agrees jobs renderer
  have same : ({ renderer.after jobs with buffer } : Renderer).Agrees renderer :=
    ⟨agrees.engine, agrees.template, agrees.options⟩
  exact result_eq_renderRegistration made same tree table

end Renderer

/-! ## A template that asks for the first endpoint -/

namespace Shop

/-- Where there is no endpoint, this fails after the package was written. -/
def firstPath : TemplateSource :=
  .inline "first.txt" "\x7b\x7b package \x7d\x7d: \x7b\x7b endpoints[0].path \x7d\x7d"

/-- A tree without endpoints. -/
def closed : PathNode := ⟨"", .root, [], [], []⟩

/-- A job that fails in the template, one that succeeds, one that fails before the template is
reached, and the second one again. -/
def jobs : List Renderer.Job :=
  [(closed, .allocate closed), (tree, .allocate tree), (tree, .allocate closed),
    (tree, .allocate tree)]

/-- What they come to, each on a renderer of its own. -/
def results : List (Except Error String) :=
  [.error (.template (.unrendered "undefined value")), .ok "apispec: /carts",
    .error (.missingSymbol "example.com/shop"), .ok "apispec: /carts"]

/-- What is in the buffer after the first job. -/
def bufferAfterFirst : Except Error String := do
  let renderer ← Renderer.make firstPath .standard
  return (renderer.after [(closed, .allocate closed)]).buffer

theorem bufferAfterFirst_eq : bufferAfterFirst = .ok "apispec: " := by
  decide +kernel

end Shop

/-- The first job fails when the package is already in the buffer. -/
theorem Renderer.renderAll_forgets_shop :
    ∃ renderer, Renderer.make Shop.firstPath .standard = .ok renderer ∧
      (renderer.after [(Shop.closed, .allocate Shop.closed)]).buffer = "apispec: " ∧
      renderer.renderAll Shop.jobs = Shop.results := by
  obtain ⟨renderer, made, left⟩ := Fallible.bind_eq_ok.mp Shop.bufferAfterFirst_eq
  refine ⟨renderer, made, Fallible.pure_eq_ok.mp left, ?_⟩
  rw [(Renderer.renderAll_forgets made Shop.jobs).1]
  decide +kernel

end RouteAtlas

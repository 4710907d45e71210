/-
Module: RouteAtlas.Proofs.TaskFrames
Purpose: What tasks do and what they leave as it is.  Files are written without touching
  anything that the requests for it do not touch.
Main exports: FileSystem.Yields, FileSystem.Keeps, FileSystem.KeptByMaking,
  FileSystem.KeptByRequests
-/
import RouteAtlas.Files.System

namespace RouteAtlas.FileSystem

variable {σ α β γ ε : Type}

/-! ## Tasks -/

/-- A task leads from one state to another and has a result. -/
def Yields (task : StateM σ α) (before : σ) (result : α) (after : σ) : Prop :=
  task.run before = (result, after)

theorem yields_run (task : StateM σ α) (before : σ) :
    Yields task before (task.run before).1 (task.run before).2 := rfl

theorem yields_pure {value result : α} {before after : σ} :
    Yields (pure value) before result after ↔ value = result ∧ before = after :=
  Prod.mk.injEq .. ▸ Iff.rfl

/-- A chain of tasks goes through a state between them. -/
theorem yields_bind {task : StateM σ α} {next : α → StateM σ β} {before after : σ} {result : β} :
    Yields (task >>= next) before result after ↔
      ∃ value between, Yields task before value between ∧
        Yields (next value) between result after := by
  constructor
  · intro ran
    exact ⟨(task.run before).1, (task.run before).2, rfl, ran⟩
  · rintro ⟨value, between, first, rest⟩
    unfold Yields at first rest ⊢
    rw [StateT.run_bind, first]
    exact rest

/-! ## Tasks that may fail -/

/-- A chain of tasks that may fail ends with the fault of the first one, or goes through
its result. -/
theorem yields_run_bind {task : ExceptT ε (StateM σ) α} {next : α → ExceptT ε (StateM σ) β}
    {before after : σ} {result : Except ε β} :
    Yields (task >>= next).run before result after ↔
      (∃ error, result = .error error ∧ Yields task.run before (.error error) after) ∨
      ∃ value between, Yields task.run before (.ok value) between ∧
        Yields (next value).run between result after := by
  rw [ExceptT.run_bind, yields_bind]
  constructor
  · rintro ⟨first, between, ran, rest⟩
    cases first with
    | error error =>
        obtain ⟨same, rfl⟩ := yields_pure.mp rest
        exact .inl ⟨error, same.symm, ran⟩
    | ok value => exact .inr ⟨value, between, ran, rest⟩
  · rintro (⟨error, rfl, ran⟩ | ⟨value, between, ran, rest⟩)
    · exact ⟨.error error, after, ran, yields_pure.mpr ⟨rfl, rfl⟩⟩
    · exact ⟨.ok value, between, ran, rest⟩

/-- After a task that did not fail, the rest of a chain is done with its result. -/
theorem yields_run_bind_of_ok {task : ExceptT ε (StateM σ) α}
    {next : α → ExceptT ε (StateM σ) β} {before between after : σ} {value : α}
    {result : Except ε β} (ran : Yields task.run before (.ok value) between) :
    Yields (task >>= next).run before result after ↔
      Yields (next value).run between result after := by
  unfold Yields at ran ⊢
  rw [ExceptT.run_bind, StateT.run_bind, ran]
  rfl

/-- What an attempt at an operation on files gives is what the operation gives. -/
theorem yields_attempt {action : StateM σ (Except FileFault α)} {before after : σ}
    {result : Except Error α} :
    Yields (attempt action).run before result after ↔
      ∃ outcome, result = outcome.mapError .file ∧ Yields action before outcome after := by
  constructor
  · intro ran
    obtain ⟨outcome, between, asked, rest⟩ := yields_bind.mp ran
    obtain ⟨same, rfl⟩ := yields_pure.mp rest
    exact ⟨outcome, same.symm, asked⟩
  · rintro ⟨outcome, rfl, asked⟩
    exact yields_bind.mpr ⟨outcome, after, asked, yields_pure.mpr ⟨rfl, rfl⟩⟩

/-! ## Aspects -/

/-- A task keeps an aspect of the state. -/
def Keeps (aspect : σ → γ) (task : StateM σ α) : Prop :=
  ∀ before result after, Yields task before result after → aspect after = aspect before

variable {aspect : σ → γ}

namespace Keeps

theorem ofPure (value : α) : Keeps aspect (pure value) := by
  intro before result after ran
  obtain ⟨_, rfl⟩ := yields_pure.mp ran
  rfl

theorem bind {task : StateM σ α} {next : α → StateM σ β} (first : Keeps aspect task)
    (rest : ∀ value, Keeps aspect (next value)) : Keeps aspect (task >>= next) := by
  intro before result after ran
  obtain ⟨value, between, ranFirst, ranRest⟩ := yields_bind.mp ran
  exact (rest value _ _ _ ranRest).trans (first _ _ _ ranFirst)

theorem forM {items : List α} {task : α → StateM σ PUnit}
    (each : ∀ item, Keeps aspect (task item)) : Keeps aspect (items.forM task) := by
  induction items with
  | nil => exact ofPure _
  | cons item rest ih => exact (each item).bind fun _ => ih

end Keeps

/-! ## Directories -/

variable [FileSystem (StateM σ)]

/-- An aspect that none of the requests touches by which directories are made. -/
structure KeptByMaking (aspect : σ → γ) : Prop where
  isDirectory : ∀ path, Keeps aspect (isDirectory path : StateM σ _)
  makeDirectory : ∀ path, Keeps aspect (makeDirectory path : StateM σ _)

namespace KeptByMaking

variable (kept : KeptByMaking aspect)

include kept

theorem unlessDirectory (path : String) (result : Except FileFault Unit) :
    Keeps aspect (unlessDirectory path result : StateM σ _) := by
  cases result with
  | ok _ => exact .ofPure _
  | error fault =>
      refine (kept.isDirectory path).bind fun found => ?_
      cases found
      · exact .ofPure _
      · exact .ofPure _

theorem makeParts (absolute : Bool) (parts : List String) :
    Keeps aspect (makeParts absolute parts : StateM σ _) := by
  induction parts with
  | nil => exact .ofPure _
  | cons last before ih =>
      refine (kept.makeDirectory _).bind fun made => ?_
      split
      · refine ih.bind fun above => ?_
        cases above with
        | error _ => exact .ofPure _
        | ok _ => exact (kept.makeDirectory _).bind fun _ => kept.unlessDirectory _ _
      · exact kept.unlessDirectory _ _

/-- Making a directory keeps what the requests keep, however far it comes. -/
theorem makeDirectories (path : String) : Keeps aspect (makeDirectories path : StateM σ _) :=
  kept.makeParts _ _

end KeptByMaking

/-! ## Writing -/

/-- An aspect that none of the requests touches by which files are written. -/
structure KeptByRequests (aspect : σ → γ) : Prop extends KeptByMaking aspect where
  draft : ∀ directory content, Keeps aspect (draft directory content : StateM σ _)
  place : ∀ (drafted : Draft (StateM σ)) path, Keeps aspect (place drafted path)
  discard : ∀ drafted : Draft (StateM σ), Keeps aspect (discard drafted)

namespace KeptByRequests

variable (kept : KeptByRequests aspect)

include kept

theorem stage (path content : String) : Keeps aspect (stage path content : StateM σ _) := by
  unfold FileSystem.stage
  split
  · exact kept.draft _ _
  · refine (kept.makeDirectories _).bind fun made => ?_
    cases made with
    | error _ => exact .ofPure _
    | ok _ => exact kept.draft _ _

theorem stageAll (outputs : List (String × String)) :
    Keeps aspect (stageAll outputs : StateM σ _) := by
  induction outputs with
  | nil => exact .ofPure _
  | cons output rest ih =>
      refine (kept.stage _ _).bind fun first => ?_
      cases first with
      | error _ => exact .ofPure _
      | ok drafted =>
          refine ih.bind fun others => ?_
          cases others with
          | error _ => exact (kept.discard drafted).bind fun _ => .ofPure _
          | ok _ => exact .ofPure _

theorem placeAll (drafts : List (Draft (StateM σ) × String)) :
    Keeps aspect (placeAll drafts : StateM σ _) := by
  induction drafts with
  | nil => exact .ofPure _
  | cons draft rest ih =>
      refine (kept.place draft.1 draft.2).bind fun placed => ?_
      cases placed with
      | error _ =>
          have others : Keeps aspect (rest.forM fun other => FileSystem.discard other.1) :=
            .forM fun other => kept.discard other.1
          exact (kept.discard draft.1).bind fun _ => others.bind fun _ => .ofPure _
      | ok _ => exact ih

/-- Writing files keeps what the requests keep, whether it succeeds or not. -/
theorem writeFiles (files : List (String × String)) :
    Keeps aspect (writeFiles files : StateM σ _) := by
  refine (kept.stageAll files).bind fun staged => ?_
  cases staged with
  | error _ => exact .ofPure _
  | ok drafts => exact kept.placeAll drafts

end KeptByRequests

end RouteAtlas.FileSystem

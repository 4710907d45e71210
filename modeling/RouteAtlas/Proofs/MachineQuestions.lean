/-
Module: RouteAtlas.Proofs.MachineQuestions
Purpose: Tasks that only look at the files of a machine.  Settings and templates are loaded
  by such tasks, so that they are what they were before the tree was read.
Main exports: Machine.Looks, Machine.Answers, Machine.SameButInput, Machine.Looks.step,
  Machine.step_loadTree
-/
import Mathlib.Tactic.Choose
import RouteAtlas.CommandLine.Run
import RouteAtlas.Files.Machine
import RouteAtlas.Proofs.TaskFrames

namespace RouteAtlas

open FileSystem

namespace Machine

/-! ## Questions -/

variable {α β : Type} {before after : Machine}

/-- A task that only looks at the files. -/
def Looks (task : Task α) : Prop :=
  ∃ question, task = look question

namespace Looks

theorem ofPure (value : α) : Looks (pure value) :=
  ⟨fun _ _ => value, rfl⟩

theorem bind {task : Task α} {next : α → Task β} (first : Looks task)
    (rest : ∀ value, Looks (next value)) : Looks (task >>= next) := by
  obtain ⟨question, rfl⟩ := first
  choose answer same using rest
  refine ⟨fun disk directory => answer (question disk directory) disk directory, ?_⟩
  rw [funext same]
  rfl

theorem run_bind {task : ExceptT Error Task α} {next : α → ExceptT Error Task β}
    (first : Looks task.run) (rest : ∀ value, Looks (next value).run) :
    Looks (task >>= next).run := by
  rw [ExceptT.run_bind]
  refine first.bind fun result => ?_
  cases result with
  | error _ => exact .ofPure _
  | ok value => exact rest value

theorem run_attempt {action : Task (Except FileFault α)} (asks : Looks action) :
    Looks (attempt action).run :=
  asks.bind fun _ => .ofPure _

theorem readText (path : String) : Looks (FileSystem.readText path : Task _) :=
  .bind ⟨fun disk directory => disk.read directory path, rfl⟩ fun _ => .ofPure _

/-- Who only looks leaves the machine as it is. -/
theorem unchanged {task : Task α} (looks : Looks task) {result : α}
    (ran : Yields task before result after) : after = before := by
  obtain ⟨question, rfl⟩ := looks
  cases ran
  rfl

/-- The answer depends on the disk and the directory alone. -/
theorem answer_congr {task : Task α} (looks : Looks task) {other : Machine}
    (disk : other.disk = before.disk) (directory : other.directory = before.directory) :
    (task.run other).1 = (task.run before).1 := by
  obtain ⟨question, rfl⟩ := looks
  change question other.disk other.directory = question before.disk before.directory
  rw [disk, directory]

/-! ### Settings and templates -/

theorem load (path : String) : Looks (Settings.load path : ExceptT Error Task _).run := by
  refine (run_attempt (.readText path)).run_bind fun text => ?_
  split
  · exact .ofPure _
  · exact .ofPure _

theorem loadFrom (directory : String) :
    Looks (Settings.loadFrom directory : ExceptT Error Task _).run := by
  have present (path : String) : Looks (isPresent path : Task _) :=
    ⟨fun disk directory => (disk.find directory path).isOk, rfl⟩
  refine run_bind ((present _).bind fun _ => .ofPure _) fun found => ?_
  cases found with
  | true => exact (load _).run_bind fun _ => .ofPure _
  | false => exact .ofPure _

theorem loadSettings (path : Option String) :
    Looks (Command.loadSettings path : ExceptT Error Task _).run := by
  cases path with
  | some path => exact load path
  | none =>
      have directory : Looks (FileSystem.directory : Task _) :=
        ⟨fun _ directory => .ok (FilePath.ofParts true directory), rfl⟩
      exact (run_attempt directory).run_bind fun directory =>
        (loadFrom directory).run_bind fun _ => .ofPure _

theorem templateSource (settings : RegistrationSettings) :
    Looks (settings.templateSource : ExceptT Error Task _).run := by
  unfold RegistrationSettings.templateSource
  split
  · next path _ =>
      refine run_bind ((Looks.readText path).bind fun _ => .ofPure _) fun result => ?_
      cases result with
      | ok _ => exact .ofPure _
      | error _ => exact .ofPure _
  · exact .ofPure _

theorem generate (settings : RegistrationSettings) (tree : PathNode) :
    Looks (settings.generate tree : ExceptT Error Task _).run :=
  (templateSource settings).run_bind fun _ => .ofPure _

end Looks

/-! ## Standard input -/

/-- The answer that a task gets on a machine. -/
def Answers {α : Type} (machine : Machine) (task : ExceptT Error Task α) (value : α) : Prop :=
  (task.run.run machine).1 = .ok value

/-- The machines differ at most in what is left of standard input. -/
structure SameButInput (before after : Machine) : Prop where
  disk : after.disk = before.disk
  directory : after.directory = before.directory
  output : after.output = before.output

/-- Something is looked up after standard input was read: either that fails, or the answer
is the same as it was before. -/
theorem Looks.step {task : ExceptT Error Task α} {next : α → ExceptT Error Task β}
    {between : Machine} {result : Except Error β} (looks : Looks task.run)
    (same : SameButInput before between)
    (ran : Yields (task >>= next).run between result after) :
    (∃ error, result = .error error ∧ SameButInput before after) ∨
      ∃ value, Answers before task value ∧ Yields (next value).run between result after := by
  obtain ⟨error, rfl, failed⟩ | ⟨value, between', answered, rest⟩ := yields_run_bind.mp ran
  · cases looks.unchanged failed
    exact .inl ⟨error, rfl, same⟩
  · cases looks.unchanged answered
    refine .inr ⟨value, ?_, rest⟩
    rw [Answers, ← looks.answer_congr same.disk same.directory]
    exact congrArg Prod.fst answered

/-- Who only looks gets the same answer after standard input was read. -/
theorem Looks.yields {task : ExceptT Error Task α} {between : Machine} {value : α}
    (looks : Looks task.run) (answers : Answers before task value)
    (same : SameButInput before between) : Yields task.run between (.ok value) between := by
  have ran := yields_run task.run between
  rwa [looks.unchanged ran, looks.answer_congr same.disk same.directory, answers] at ran

/-- Reading a tree may use up standard input, but nothing else changes. -/
theorem sameButInput_of_loadTree {path : String} {result : Except Error PathNode}
    (ran : Yields (Command.loadTree path : ExceptT Error Task _).run before result after) :
    SameButInput before after := by
  have read : ∀ outcome between, Yields (if Command.isInput path then inputText else
      FileSystem.readText path : Task _) before outcome between → SameButInput before between := by
    intro outcome between asked
    split at asked
    · cases asked
      exact ⟨rfl, rfl, rfl⟩
    · cases (Looks.readText path).unchanged asked
      exact ⟨rfl, rfl, rfl⟩
  obtain ⟨error, rfl, failed⟩ | ⟨text, between, given, rest⟩ := yields_run_bind.mp ran
  · obtain ⟨outcome, _, asked⟩ := yields_attempt.mp failed
    exact read _ _ asked
  · obtain ⟨outcome, _, asked⟩ := yields_attempt.mp given
    -- Whether the text is that of a tree makes no difference to the machine.
    split at rest
    · obtain ⟨_, rfl⟩ := yields_pure.mp rest
      exact read _ _ asked
    · obtain ⟨_, rfl⟩ := yields_pure.mp rest
      exact read _ _ asked

theorem yields_loadTree {path : String} {loaded : PathNode}
    (answers : Answers before (Command.loadTree path) loaded) :
    ∃ between, SameButInput before between ∧
      Yields (Command.loadTree path : ExceptT Error Task _).run before (.ok loaded) between := by
  have ran := yields_run (Command.loadTree path : ExceptT Error Task _).run before
  rw [answers] at ran
  exact ⟨_, sameButInput_of_loadTree ran, ran⟩

/-- A tree is read first: either that fails, or the rest is done with it. -/
theorem step_loadTree {path : String} {next : PathNode → ExceptT Error Task β}
    {result : Except Error β}
    (ran : Yields (Command.loadTree path >>= next).run before result after) :
    (∃ error, result = .error error ∧ SameButInput before after) ∨
      ∃ loaded between, SameButInput before between ∧
        Answers before (Command.loadTree path) loaded ∧
        Yields (next loaded).run between result after := by
  obtain ⟨error, rfl, failed⟩ | ⟨loaded, between, given, rest⟩ := yields_run_bind.mp ran
  · exact .inl ⟨error, rfl, sameButInput_of_loadTree failed⟩
  · exact .inr ⟨loaded, between, sameButInput_of_loadTree given, congrArg Prod.fst given, rest⟩

end Machine

end RouteAtlas

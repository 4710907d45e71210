/-
Module: RouteAtlas.Proofs.MachineSources
Purpose: Where a run finds its tree, its settings and its template, told of the files and of
  standard input themselves.  What the program asks for is answered with that and nothing else.
Main exports: Machine.HasText, Machine.Provides, Machine.Configures, Machine.Supplies,
  Machine.answers_loadTree_iff, Machine.answers_loadSettings_iff, Machine.answers_generate_iff
-/
import RouteAtlas.Proofs.Fallible
import RouteAtlas.Proofs.MachineQuestions

namespace RouteAtlas

open FileSystem

/-- Bytes are read as a text exactly when they are those of the text. -/
theorem FileSystem.decode_eq_ok {content : ByteArray} {text : String} :
    decode content = .ok text ↔ content = text.toUTF8 := by
  unfold decode String.fromUTF8?
  constructor
  · intro decoded
    split at decoded
    · next found =>
        split at found
        · cases found
          cases decoded
          rfl
        · cases found
    · cases decoded
  · rintro rfl
    have valid : text.toUTF8.IsValidUTF8 := text.isValidUTF8
    rw [dif_pos valid]
    rfl

namespace Machine

variable {α β : Type} {machine : Machine} {path text : String} {tree : PathNode}
  {settings : Settings} {source : TemplateSource}

/-! ## Sources -/

/-- The file of a path can be read and has exactly the bytes of a text. -/
def HasText (machine : Machine) (path text : String) : Prop :=
  Yields (read path : Task _) machine (.ok text.toUTF8) machine

/-- There is a file or a directory at a path. -/
def HasEntry (machine : Machine) (path : String) : Prop :=
  ∃ entry, machine.disk.find machine.directory path = .ok entry

/-- A path that is a dash stands for standard input. -/
def IsDash (path : String) : Prop :=
  FilePath.isAbsolute path = false ∧ FilePath.parts path = ["-"]

/-- The tree of a path: it is in the file, or in standard input if the path is a dash. -/
inductive Provides (machine : Machine) : String → PathNode → Prop where
  | file {path text : String} {tree : PathNode} (isFile : ¬ IsDash path)
      (has : machine.HasText path text) (holds : PathNode.load text = .ok tree) :
      Provides machine path tree
  | input {path text : String} {tree : PathNode} (isDash : IsDash path)
      (has : machine.input = text.toUTF8) (holds : PathNode.load text = .ok tree) :
      Provides machine path tree

/-- The settings file that is read if no other is named: the one of the current directory. -/
def ownSettings (machine : Machine) : String :=
  FilePath.join (FilePath.ofParts true machine.directory) "routespec.yaml"

/-- The settings of a run: those in the file that is named, else those in the file of the current
directory, else the standard ones. -/
inductive Configures (machine : Machine) : Option String → Settings → Prop where
  | named {path text : String} {settings : Settings} (has : machine.HasText path text)
      (holds : Settings.ofYaml text = .ok settings) : Configures machine (some path) settings
  | own {text : String} {settings : Settings} (isThere : machine.HasEntry machine.ownSettings)
      (has : machine.HasText machine.ownSettings text)
      (holds : Settings.ofYaml text = .ok settings) : Configures machine none settings
  | standard (isMissing : ¬ machine.HasEntry machine.ownSettings) : Configures machine none {}

/-- The template of a run: the text of the file that is named, under the name of the file, else
the one that comes with the library. -/
inductive Supplies (machine : Machine) : Option String → TemplateSource → Prop where
  | named {path text : String} (has : machine.HasText path text) :
      Supplies machine (some path) (.inline ((FilePath.name? path).getD "custom.jinja") text)
  | embedded : Supplies machine none .embedded

/-! ### There is one of each at most -/

theorem HasText.unique {other : String} (one : machine.HasText path text)
    (two : machine.HasText path other) : text = other := by
  have same := Except.ok.inj (Prod.mk.inj (one.symm.trans two)).1
  exact String.toByteArray_inj.mp same

theorem Provides.unique {other : PathNode} (one : machine.Provides path tree)
    (two : machine.Provides path other) : tree = other := by
  cases one with
  | file isFile has holds =>
      cases two with
      | file _ has' holds' =>
          cases has.unique has'
          exact Except.ok.inj (holds.symm.trans holds')
      | input isDash => exact absurd isDash isFile
  | input isDash has holds =>
      cases two with
      | file isFile => exact absurd isDash isFile
      | input _ has' holds' =>
          cases String.toByteArray_inj.mp (has.symm.trans has')
          exact Except.ok.inj (holds.symm.trans holds')

theorem Configures.unique {named : Option String} {other : Settings}
    (one : machine.Configures named settings) (two : machine.Configures named other) :
    settings = other := by
  cases one with
  | named has holds =>
      cases two with
      | named has' holds' =>
          cases has.unique has'
          exact Except.ok.inj (holds.symm.trans holds')
  | own isThere has holds =>
      cases two with
      | own _ has' holds' =>
          cases has.unique has'
          exact Except.ok.inj (holds.symm.trans holds')
      | standard isMissing => exact absurd isThere isMissing
  | standard isMissing =>
      cases two with
      | own isThere => exact absurd isThere isMissing
      | standard => rfl

theorem Supplies.unique {named : Option String} {other : TemplateSource}
    (one : machine.Supplies named source) (two : machine.Supplies named other) :
    source = other := by
  cases one with
  | named has =>
      cases two with
      | named has' => cases has.unique has'; rfl
  | embedded =>
      cases two
      rfl

/-! ## Answers -/

theorem answers_iff_yields {task : ExceptT Error Task α} {value : α} :
    machine.Answers task value ↔ ∃ after, Yields task.run machine (.ok value) after := by
  constructor
  · intro answered
    exact ⟨_, Prod.ext answered rfl⟩
  · rintro ⟨after, ran⟩
    exact congrArg Prod.fst ran

theorem answers_pure {value result : α} :
    machine.Answers (pure value : ExceptT Error Task α) result ↔ value = result := by
  constructor
  · intro answered
    exact Except.ok.inj answered
  · rintro rfl
    rfl

/-- A chain of tasks is answered when the first one is, without a change to the machine, and the
rest goes on with its answer. -/
theorem Looks.answers_bind {task : ExceptT Error Task α} {next : α → ExceptT Error Task β}
    {result : β} (looks : Looks task.run) :
    machine.Answers (task >>= next) result ↔
      ∃ value, machine.Answers task value ∧ machine.Answers (next value) result := by
  simp only [answers_iff_yields, yields_run_bind, reduceCtorEq, false_and, exists_false, false_or]
  constructor
  · rintro ⟨after, value, between, first, rest⟩
    cases looks.unchanged first
    exact ⟨value, ⟨_, first⟩, after, rest⟩
  · rintro ⟨value, ⟨between, first⟩, after, rest⟩
    cases looks.unchanged first
    exact ⟨after, value, _, first, rest⟩

theorem answers_readText_iff :
    machine.Answers (attempt (readText path)) text ↔ machine.HasText path text := by
  change ((machine.disk.read machine.directory path) >>= decode).mapError Error.file = .ok text ↔ _
  rw [Fallible.mapError_eq_ok, Fallible.bind_eq_ok]
  simp only [decode_eq_ok]
  constructor
  · rintro ⟨_, found, rfl⟩
    exact Prod.ext found rfl
  · intro has
    exact ⟨_, congrArg Prod.fst has, rfl⟩

theorem looks_readText : Looks (attempt (readText path) : ExceptT Error Task _).run :=
  .run_attempt (.readText path)

theorem answers_inputText_iff :
    machine.Answers (attempt inputText) text ↔ machine.input = text.toUTF8 := by
  change (decode machine.input).mapError Error.file = .ok text ↔ _
  rw [Fallible.mapError_eq_ok, decode_eq_ok]

/-! ### Trees -/

theorem isInput_iff : Command.isInput path = true ↔ IsDash path := by
  simp only [Command.isInput, IsDash, Bool.and_eq_true, Bool.not_eq_true', beq_iff_eq]

theorem provides_iff : machine.Provides path tree ↔ ∃ text,
    machine.Answers (attempt (if Command.isInput path then inputText else readText path)) text ∧
      PathNode.load text = .ok tree := by
  constructor
  · intro provides
    cases provides with
    | file isFile has holds =>
        rw [if_neg (isInput_iff.not.mpr isFile)]
        exact ⟨_, answers_readText_iff.mpr has, holds⟩
    | input isDash has holds =>
        rw [if_pos (isInput_iff.mpr isDash)]
        exact ⟨_, answers_inputText_iff.mpr has, holds⟩
  · rintro ⟨text, asked, holds⟩
    split at asked
    · next isDash => exact .input (isInput_iff.mp isDash) (answers_inputText_iff.mp asked) holds
    · next isFile => exact .file (isInput_iff.not.mp isFile) (answers_readText_iff.mp asked) holds

/-- Reading standard input uses it up, but the tree depends on what it was before. -/
theorem answers_loadTree_iff :
    machine.Answers (Command.loadTree path) tree ↔ machine.Provides path tree := by
  rw [provides_iff]
  simp only [answers_iff_yields, Command.loadTree, yields_run_bind, reduceCtorEq, false_and,
    exists_false, false_or]
  constructor
  · rintro ⟨after, text, between, asked, rest⟩
    split at rest
    · next loaded =>
        cases (yields_pure.mp rest).1
        exact ⟨text, ⟨between, asked⟩, loaded⟩
    · cases (yields_pure.mp rest).1
  · rintro ⟨text, ⟨between, asked⟩, holds⟩
    refine ⟨between, text, between, asked, ?_⟩
    rw [holds]
    exact yields_pure.mpr ⟨rfl, rfl⟩

/-! ### Settings -/

theorem answers_load_iff : machine.Answers (Settings.load path) settings ↔
    ∃ text, machine.HasText path text ∧ Settings.ofYaml text = .ok settings := by
  rw [Settings.load, looks_readText.answers_bind]
  refine exists_congr fun text => and_congr answers_readText_iff ?_
  cases Settings.ofYaml text with
  | ok given => exact answers_pure.trans (Iff.of_eq (Except.ok.injEq ..).symm)
  | error fault =>
      constructor
      · intro answered
        cases answered
      · intro holds
        cases holds

theorem isOk_find :
    (machine.disk.find machine.directory path).isOk = true ↔ machine.HasEntry path := by
  unfold HasEntry
  cases machine.disk.find machine.directory path with
  | ok entry => exact ⟨fun _ => ⟨entry, rfl⟩, fun _ => rfl⟩
  | error fault => simp [Except.isOk, Except.toBool]

/-- What depends on whether there is something at a path goes on with the answer to that. -/
theorem answers_isPresent_bind {next : Bool → ExceptT Error Task α} {value : α} :
    machine.Answers ((isPresent path : Task Bool) >>= next) value ↔
      machine.Answers (next (machine.disk.find machine.directory path).isOk) value := by
  have looks : Looks ((isPresent path : Task Bool) : ExceptT Error Task Bool).run :=
    .bind ⟨fun disk directory => (disk.find directory path).isOk, rfl⟩ fun _ => .ofPure _
  rw [looks.answers_bind]
  constructor
  · rintro ⟨present, asked, rest⟩
    cases asked
    exact rest
  · intro rest
    exact ⟨_, rfl, rest⟩

theorem answers_loadFrom_iff {directory : String} {found : Option Settings}
    (isThere : machine.HasEntry (FilePath.join directory Settings.fileName)) :
    machine.Answers (Settings.loadFrom directory) found ↔
      ∃ settings, machine.Answers (Settings.load (FilePath.join directory Settings.fileName))
        settings ∧ some settings = found := by
  rw [Settings.loadFrom, answers_isPresent_bind, isOk_find.mpr isThere, if_pos rfl,
    (Looks.load _).answers_bind]
  simp only [answers_pure]

theorem answers_loadFrom_of_missing {directory : String} {found : Option Settings}
    (isMissing : ¬ machine.HasEntry (FilePath.join directory Settings.fileName)) :
    machine.Answers (Settings.loadFrom directory) found ↔ none = found := by
  rw [Settings.loadFrom, answers_isPresent_bind, if_neg (isOk_find.not.mpr isMissing),
    answers_pure]

theorem answers_directory_bind {next : String → ExceptT Error Task α} {value : α} :
    machine.Answers (attempt FileSystem.directory >>= next) value ↔
      machine.Answers (next (FilePath.ofParts true machine.directory)) value := by
  have looks : Looks (attempt FileSystem.directory : ExceptT Error Task String).run :=
    .run_attempt ⟨fun _ directory => .ok (FilePath.ofParts true directory), rfl⟩
  rw [looks.answers_bind]
  constructor
  · rintro ⟨directory, asked, rest⟩
    cases asked
    exact rest
  · intro rest
    exact ⟨_, rfl, rest⟩

theorem answers_loadSettings_iff {named : Option String} :
    machine.Answers (Command.loadSettings named) settings ↔ machine.Configures named settings := by
  cases named with
  | some path =>
      refine answers_load_iff.trans ⟨?_, ?_⟩
      · rintro ⟨text, has, holds⟩
        exact .named has holds
      · rintro (⟨has, holds⟩ | _)
        exact ⟨_, has, holds⟩
  | none =>
      rw [Command.loadSettings, answers_directory_bind, (Looks.loadFrom _).answers_bind]
      by_cases isThere : machine.HasEntry machine.ownSettings
      · simp only [answers_loadFrom_iff isThere, answers_load_iff, answers_pure]
        constructor
        · rintro ⟨_, ⟨_, ⟨text, has, holds⟩, rfl⟩, rfl⟩
          exact .own isThere has holds
        · intro configures
          cases configures with
          | own _ has holds => exact ⟨_, ⟨_, ⟨_, has, holds⟩, rfl⟩, rfl⟩
          | standard isMissing => exact absurd isThere isMissing
      · simp only [answers_loadFrom_of_missing isThere, answers_pure]
        constructor
        · rintro ⟨_, rfl, rfl⟩
          exact .standard isThere
        · intro configures
          cases configures with
          | own isThere' => exact absurd isThere' isThere
          | standard _ => exact ⟨_, rfl, rfl⟩

/-! ### Templates -/

theorem answers_ofFile_iff : machine.Answers (TemplateSource.ofFile path) source ↔
    ∃ text, machine.HasText path text ∧
      .inline ((FilePath.name? path).getD "custom.jinja") text = source := by
  have looks : Looks ((readText path : Task _) : ExceptT Error Task _).run :=
    (Looks.readText path).bind fun _ => .ofPure _
  rw [TemplateSource.ofFile, looks.answers_bind]
  constructor
  · rintro ⟨result, asked, rest⟩
    cases result with
    | error fault => cases rest
    | ok text =>
        have found : ((readText path : Task _).run machine).1 = .ok text := Except.ok.inj asked
        refine ⟨text, answers_readText_iff.mp ?_, answers_pure.mp rest⟩
        exact congrArg (Except.mapError Error.file) found
  · rintro ⟨text, has, rfl⟩
    have asked := answers_readText_iff.mpr has
    refine ⟨.ok text, congrArg Except.ok ?_, rfl⟩
    exact Fallible.mapError_eq_ok.mp asked

theorem answers_templateSource_iff {registration : RegistrationSettings} :
    machine.Answers registration.templateSource source ↔
      machine.Supplies registration.template source := by
  unfold RegistrationSettings.templateSource
  cases registration.template with
  | some path =>
      refine answers_ofFile_iff.trans ⟨?_, ?_⟩
      · rintro ⟨text, has, rfl⟩
        exact .named has
      · rintro ⟨has⟩
        exact ⟨_, has, rfl⟩
  | none =>
      refine answers_pure.trans ⟨?_, ?_⟩
      · rintro rfl
        exact .embedded
      · rintro ⟨⟩
        rfl

/-- Code is generated from the tree and the template alone. -/
theorem answers_generate_iff {registration : RegistrationSettings} :
    machine.Answers (registration.generate tree) text ↔
      ∃ source, machine.Supplies registration.template source ∧
        renderRegistration tree (.allocate tree) source registration.render = .ok text := by
  rw [RegistrationSettings.generate, (Looks.templateSource registration).answers_bind]
  exact exists_congr fun source => and_congr_left fun _ => answers_templateSource_iff

end Machine

end RouteAtlas

/-
Module: RouteAtlas.Proofs.CommandRuns
Purpose: What a run of the program leaves behind: nothing if it fails, and otherwise one
  text in one place.
Main exports: Machine.Unaffected, Machine.Receives, Command.Writes, CommandLine.run_leaves
-/
import RouteAtlas.Proofs.CommandWords
import RouteAtlas.Proofs.MachineSources
import RouteAtlas.Proofs.WriteFaults

namespace RouteAtlas

open FileSystem FileSystem.Ledger

/-! ## What can be seen of a run -/

namespace Machine

variable {before after : Machine}

/-- No file and nothing that was printed has changed. -/
structure Unaffected (before after : Machine) : Prop where
  files : files after = files before
  output : after.output = before.output

/-- A text has gone to the file of a path, or to standard output if there is no path.
Nothing else has changed. -/
def Receives (before after : Machine) (text : String) : Option String → Prop
  | some path =>
      after.output = before.output ∧
        Yields (read path : Task _) after (.ok text.toUTF8) after ∧
        ∃ target, target? after path = some target ∧
          files after = Function.update (files before) target (some text.toUTF8)
  | none => after.output = before.output ++ text ∧ files after = files before

/-- The requests by which files are written print nothing. -/
theorem output_keptByRequests : KeptByRequests Machine.output where
  isDirectory path := by
    intro before result after ran
    cases ran
    rfl
  makeDirectory path := by
    intro before result after ran
    have outcome := yields_makeDirectory ran
    split at outcome <;> rw [outcome.2]
  draft directory content := by
    intro before result after ran
    have outcome := yields_draft ran
    split at outcome <;> rw [outcome.2]
  place drafted path := by
    intro before result after ran
    have outcome := yields_place ran
    split at outcome <;> rw [outcome.2]
  discard drafted := by
    intro before result after ran
    cases ran
    rfl

/-- A text that cannot be written leaves nothing behind. -/
theorem unaffected_of_writeOutput {path : Option String} {text : String} {fault : FileFault}
    (failed : Yields (writeOutput path text : Task _) before (.error fault) after) :
    Unaffected before after := by
  have written := writeOutputs_fault failed
  refine ⟨writeFiles_fault_of_one ?_ written,
    output_keptByRequests.writeFiles _ _ _ _ written⟩
  exact List.length_filterMap_le ..

theorem yields_printAll {texts : List String} {result : Except FileFault Unit} :
    ∀ {before after : Machine}, Yields (printAll texts : Task _) before result after →
      after = { before with output := before.output ++ String.join texts } := by
  induction texts with
  | nil =>
      intro before after ran
      obtain ⟨_, rfl⟩ := yields_pure.mp ran
      rw [String.join_nil, String.append_empty]
  | cons text texts ih =>
      intro before after ran
      obtain ⟨printed, between, ranPrint, rest⟩ := yields_bind.mp ran
      cases ranPrint
      rw [ih rest, String.join_cons, String.append_assoc]

/-- Texts that can be written are written to their files or printed, and nothing else is. -/
theorem written_of_writeOutputs {outputs : List (Option String × String)}
    (ran : Yields (writeOutputs outputs : Task _) before (.ok ()) after) :
    Written (target? after) (files before)
        (outputs.filterMap fun output => output.1.map fun path => (path, output.2))
        (files after) ∧
      after.output = before.output ++
        String.join ((outputs.filter (·.1.isNone)).map (·.2)) := by
  obtain ⟨written, between, ranWrite, rest⟩ := yields_bind.mp ran
  cases written with
  | error _ => cases (yields_pure.mp rest).1
  | ok _ =>
      have same := output_keptByRequests.writeFiles _ _ _ _ ranWrite
      have written := writeFiles_written ranWrite
      cases yields_printAll rest
      exact ⟨written, congrArg (· ++ _) same⟩

/-- A text that can be written goes where it is to go. -/
theorem receives_of_writeOutput {path : Option String} {text : String}
    (ran : Yields (writeOutput path text : Task _) before (.ok ()) after) :
    Receives before after text path := by
  obtain ⟨written, printed⟩ := written_of_writeOutputs ran
  cases path with
  | none => exact ⟨printed, written.eq_of_nil⟩
  | some path =>
      obtain ⟨target, leads, same⟩ := written.of_singleton
      refine ⟨printed.trans String.append_empty, ?_, target, leads, same⟩
      exact read_file leads (by rw [same, Function.update_self])

theorem SameButInput.unaffected (same : SameButInput before after) : Unaffected before after where
  files := congrArg Disk.fileAt? same.disk
  output := same.output

theorem Unaffected.trans {between : Machine} (first : Unaffected before between)
    (rest : Unaffected between after) : Unaffected before after where
  files := rest.files.trans first.files
  output := rest.output.trans first.output

theorem Receives.since {between : Machine} {text : String} {path : Option String}
    (received : Receives between after text path) (first : Unaffected before between) :
    Receives before after text path := by
  cases path with
  | none => rwa [Receives, first.files, first.output] at received
  | some path => rwa [Receives, first.files, first.output] at received

end Machine

/-! ## Commands -/

namespace Command

open Machine (SameButInput Looks step_loadTree answers_loadTree_iff answers_loadSettings_iff
  answers_generate_iff)

variable {before after : Machine}

/-- What a command is to write on a machine, and the path that it is to write it to.  The text
is made from the tree of the path that the command names, under the settings that hold for it.
What the command itself says comes before what the settings say. -/
inductive Writes (machine : Machine) : Command → Option String → String → Prop where
  | render {tree : String} {settings template output : Option String} {loaded : PathNode}
      {given : Settings} {source : TemplateSource} {text : String}
      (ofTree : machine.Provides tree loaded)
      (ofSettings : machine.Configures settings given)
      (ofTemplate : machine.Supplies (template.or given.registration.template) source)
      (rendered : renderRegistration loaded (.allocate loaded) source
        given.registration.render = .ok text) :
      Writes machine (.render tree settings template output)
        (output.or given.registration.output) text
  | openapi {tree : String} {settings : Option String} {overrides : OpenApiOverrides}
      {loaded : PathNode} {given : Settings}
      (ofTree : machine.Provides tree loaded)
      (ofSettings : machine.Configures settings given) :
      Writes machine (.openapi tree settings overrides)
        (overrides.output.or given.openapi.output)
        (OpenApi.render loaded (overrides.title.getD given.openapi.title)
          (overrides.version.getD given.openapi.version)
          (overrides.serverUrl.getD given.openapi.serverUrl))
  | symbols {tree : String} {loaded : PathNode} (ofTree : machine.Provides tree loaded) :
      Writes machine (.symbols tree) none ((SymbolTable.allocate loaded).toJson.pretty ++ "\n")
  | schema : Writes machine .schema none (Settings.schema.pretty ++ "\n")

/-- There is one text at most, and one path for it. -/
theorem Writes.unique {machine : Machine} {command : Command} {path other : Option String}
    {text different : String} (one : command.Writes machine path text)
    (two : command.Writes machine other different) : path = other ∧ text = different := by
  cases one with
  | render ofTree ofSettings ofTemplate rendered =>
      cases two with
      | render ofTree' ofSettings' ofTemplate' rendered' =>
          cases ofTree.unique ofTree'
          cases ofSettings.unique ofSettings'
          cases ofTemplate.unique ofTemplate'
          exact ⟨rfl, Except.ok.inj (rendered.symm.trans rendered')⟩
  | openapi ofTree ofSettings =>
      cases two with
      | openapi ofTree' ofSettings' =>
          cases ofTree.unique ofTree'
          cases ofSettings.unique ofSettings'
          exact ⟨rfl, rfl⟩
  | symbols ofTree =>
      cases two with
      | symbols ofTree' =>
          cases ofTree.unique ofTree'
          exact ⟨rfl, rfl⟩
  | schema =>
      cases two
      exact ⟨rfl, rfl⟩

/-- Once the text of a command is known, only the writing of it is left. -/
theorem Writes.yields_run_iff {command : Command} {path : Option String} {text : String}
    (writes : command.Writes before path text) :
    ∃ ready, SameButInput before ready ∧ ∀ result after,
      Yields (command.run : ExceptT Error Machine.Task Unit).run before result after ↔
        Yields (attempt (writeOutput path text)).run ready result after := by
  cases writes with
  | @render _ _ template output loaded given source text ofTree ofSettings ofTemplate rendered =>
      obtain ⟨ready, same, fetched⟩ := Machine.yields_loadTree (answers_loadTree_iff.mpr ofTree)
      have configured :=
        (Looks.loadSettings _).yields (answers_loadSettings_iff.mpr ofSettings) same
      have supplied : before.Answers (RegistrationSettings.generate
          { given.registration with
            template := template.or given.registration.template
            output := output.or given.registration.output } loaded) text :=
        answers_generate_iff.mpr ⟨source, ofTemplate, rendered⟩
      have generated := (Looks.generate _ _).yields supplied same
      exact ⟨ready, same, fun _ _ => (yields_run_bind_of_ok fetched).trans <|
        (yields_run_bind_of_ok configured).trans (yields_run_bind_of_ok generated)⟩
  | openapi ofTree ofSettings =>
      obtain ⟨ready, same, loaded⟩ := Machine.yields_loadTree (answers_loadTree_iff.mpr ofTree)
      have configured :=
        (Looks.loadSettings _).yields (answers_loadSettings_iff.mpr ofSettings) same
      exact ⟨ready, same, fun _ _ => (yields_run_bind_of_ok loaded).trans <|
        yields_run_bind_of_ok configured⟩
  | symbols ofTree =>
      obtain ⟨ready, same, loaded⟩ := Machine.yields_loadTree (answers_loadTree_iff.mpr ofTree)
      exact ⟨ready, same, fun _ _ => yields_run_bind_of_ok loaded⟩
  | schema => exact ⟨before, ⟨rfl, rfl, rfl⟩, fun _ _ => Iff.rfl⟩

/-- A command whose text is known succeeds exactly if the text can be written. -/
theorem Writes.succeeds_iff {command : Command} {path : Option String} {text : String}
    {result : Except Error Unit} (writes : command.Writes before path text)
    (ran : Yields (command.run : ExceptT Error Machine.Task Unit).run before result after) :
    ∃ ready, SameButInput before ready ∧ (result = .ok () ↔
      ∃ done, Yields (writeOutput path text : Machine.Task _) ready (.ok ()) done) := by
  obtain ⟨ready, same, runs⟩ := writes.yields_run_iff
  obtain ⟨outcome, rfl, written⟩ := yields_attempt.mp ((runs _ _).mp ran)
  refine ⟨ready, same, ?_⟩
  rw [Fallible.mapError_eq_ok]
  constructor
  · rintro rfl
    exact ⟨after, written⟩
  · rintro ⟨done, written'⟩
    exact (Prod.mk.inj (written.symm.trans written')).1

/-- What a command leaves behind: nothing if it fails, and otherwise its text in the place
that this is for. -/
def Leaves (command : Command) (before : Machine) : Except Error Unit → Machine → Prop
  | .error _, after => before.Unaffected after
  | .ok _, after => ∃ path text, command.Writes before path text ∧ before.Receives after text path

theorem Writes.leaves {command : Command} {path : Option String} {text : String}
    {between : Machine} {result : Except Error Unit} (writes : command.Writes before path text)
    (same : SameButInput before between)
    (ran : Yields (attempt (writeOutput path text) : ExceptT Error Machine.Task Unit).run between
      result after) : command.Leaves before result after := by
  obtain ⟨outcome, rfl, written⟩ := yields_attempt.mp ran
  cases outcome with
  | error fault => exact same.unaffected.trans (Machine.unaffected_of_writeOutput written)
  | ok _ =>
      have received := Machine.receives_of_writeOutput written
      exact ⟨path, text, writes, received.since same.unaffected⟩

/-- Whatever can go wrong does so before anything is left behind. -/
theorem leaves_of_run {command : Command} {result : Except Error Unit}
    (ran : Yields (command.run : ExceptT Error Machine.Task Unit).run before result after) :
    command.Leaves before result after := by
  cases command with
  | render tree settings template output =>
      obtain ⟨error, rfl, same⟩ | ⟨loaded, between, same, ofTree, ran⟩ := step_loadTree ran
      · exact same.unaffected
      obtain ⟨error, rfl, same⟩ | ⟨given, ofSettings, ran⟩ :=
        (Looks.loadSettings settings).step same ran
      · exact same.unaffected
      obtain ⟨error, rfl, same⟩ | ⟨text, generated, ran⟩ :=
        (Looks.generate _ loaded).step same ran
      · exact same.unaffected
      obtain ⟨source, ofTemplate, rendered⟩ := answers_generate_iff.mp generated
      exact (Writes.render (answers_loadTree_iff.mp ofTree)
        (answers_loadSettings_iff.mp ofSettings) ofTemplate rendered).leaves same ran
  | openapi tree settings overrides =>
      obtain ⟨error, rfl, same⟩ | ⟨loaded, between, same, ofTree, ran⟩ := step_loadTree ran
      · exact same.unaffected
      obtain ⟨error, rfl, same⟩ | ⟨given, ofSettings, ran⟩ :=
        (Looks.loadSettings settings).step same ran
      · exact same.unaffected
      exact (Writes.openapi (answers_loadTree_iff.mp ofTree)
        (answers_loadSettings_iff.mp ofSettings)).leaves same ran
  | symbols tree =>
      obtain ⟨error, rfl, same⟩ | ⟨loaded, between, same, ofTree, ran⟩ := step_loadTree ran
      · exact same.unaffected
      exact (Writes.symbols (answers_loadTree_iff.mp ofTree)).leaves same ran
  | schema => exact Writes.schema.leaves ⟨rfl, rfl, rfl⟩ ran

end Command

/-! ## Runs -/

theorem Outcome.code_ofResult {result : Except Error Unit} :
    (Outcome.ofResult result).code = 0 ↔ result = .ok () := by
  cases result <;> simp [ofResult, code]

namespace CommandLine

variable {words : List String} {before after : Machine} {outcome : Outcome}

/-- A run does the command that its words ask for, if they ask for one. -/
theorem run_cases (ran : Yields (run words : Machine.Task Outcome) before outcome after) :
    match Command.parse words with
    | .ok command => ∃ result, outcome = .ofResult result ∧
        Yields (command.run : ExceptT Error Machine.Task Unit).run before result after
    | .error _ => outcome.code ≠ 0 → after = before := by
  unfold run at ran
  cases parsed : Command.parse words with
  | ok command =>
      rw [parsed] at ran
      obtain ⟨result, between, done, rest⟩ := yields_bind.mp ran
      obtain ⟨same, rfl⟩ := yields_pure.mp rest
      exact ⟨result, same.symm, done⟩
  | error halt =>
      rw [parsed] at ran
      intro failed
      cases halt with
      | usage => exact (yields_pure.mp ran).2.symm
      | help => exact (yields_pure.mp ran).2.symm
      | version =>
          -- The version is printed, which cannot fail.
          cases ran
          exact absurd rfl failed

/-- A tree without routes. -/
def shopTree : String := "\x7b\"kind\":\"root\"\x7d"

/-- Settings of a document that has no good title yet. -/
def shopSettings : String :=
  "openapi:\n  title: Unnamed\n  version: 0.2.0\n  output: api.json\n"

/-- A machine with a tree on standard input, with settings and an older document. -/
def shop : Machine where
  disk := ⟨[(["routespec.yaml"], .file shopSettings.toUTF8), (["api.json"], .file "old".toUTF8)]⟩
  input := shopTree.toUTF8

/-- Write the document under a title of its own. -/
def documentShop : List String := ["openapi", "--ir=-", "--title=Shop"]

/-- Write the code of a tree that is not there. -/
def renderMissing : List String := ["render", "--ir", "routes.json", "-o", "api.json"]

/-- Do what words say on the machine of the shop.  Only the kernel evaluates this. -/
@[irreducible]
def shopRun (words : List String) : Outcome × Machine :=
  (run words : Machine.Task Outcome).run shop

theorem yields_shopRun (words : List String) :
    Yields (run words : Machine.Task Outcome) shop (shopRun words).1 (shopRun words).2 := by
  unfold shopRun
  exact FileSystem.yields_run ..

theorem shopRun_document : (shopRun documentShop).1 = .success := by
  decide +kernel

theorem shopRun_missing : (shopRun renderMissing).1 = .failure (.file .notFound) := by
  decide +kernel

theorem load_shopTree : PathNode.load shopTree = .ok ⟨"", .root, [], [], []⟩ := by
  have parts : (PathNode.load shopTree).toOption.map (fun node =>
      (node.name, node.kind, node.endpoints, node.middleware, node.children.length)) =
        some ("", .root, [], [], 0) := by
    decide +kernel
  obtain ⟨⟨name, kind, endpoints, middleware, children⟩, loaded, same⟩ :=
    Fallible.map_toOption_eq_some.mp parts
  simp only [Prod.mk.injEq, List.length_eq_zero_iff] at same
  obtain ⟨rfl, rfl, rfl, rfl, rfl⟩ := same
  exact loaded

theorem ofYaml_shopSettings : ∃ settings, Settings.ofYaml shopSettings = .ok settings ∧
    settings.openapi = { title := "Unnamed", version := "0.2.0", output := some "api.json" } := by
  have sets : (Settings.ofYaml shopSettings).toOption.map (·.openapi) =
      some { title := "Unnamed", version := "0.2.0", output := some "api.json" } := by
    decide +kernel
  exact Fallible.map_toOption_eq_some.mp sets

/-- The document that is written on the machine of the shop has the title that the words give,
the version that the settings give, and no server. -/
theorem writes_shop {path : Option String} {text : String}
    (writes : Command.Writes shop (.openapi "-" none { title := some "Shop" }) path text) :
    path = some "api.json" ∧
      text = OpenApi.render ⟨"", .root, [], [], []⟩ "Shop" "0.2.0" "" := by
  obtain ⟨settings, holds, same⟩ := ofYaml_shopSettings
  have ofTree : shop.Provides "-" ⟨"", .root, [], [], []⟩ :=
    .input ⟨by decide, by decide⟩ rfl load_shopTree
  have ofSettings : shop.Configures none settings :=
    .own ⟨_, rfl⟩ rfl holds
  obtain ⟨toPath, isText⟩ := writes.unique (.openapi ofTree ofSettings)
  rw [same] at toPath isText
  exact ⟨toPath, isText⟩

end CommandLine

end RouteAtlas

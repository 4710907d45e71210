/-
Module: RouteAtlas.Proofs.WriteFaults
Purpose: What is left behind when generated texts cannot be written: nothing, unless
  the last file was refused its place after the first was in its own.
Main exports: FileSystem.writeFiles_fault, FileSystem.RefusedSecond,
  Artifacts.write_fault, Artifacts.write_keeps_first
-/
import RouteAtlas.Generation.Artifacts
import RouteAtlas.Proofs.FileLedger
import RouteAtlas.Proofs.MachineLedger

namespace RouteAtlas

namespace FileSystem

open Ledger

variable {σ : Type} [FileSystem (StateM σ)] [Ledger σ] {before after : σ}
  {outputs : List (String × String)} {fault : FileFault}

/-! ## Files -/

theorem Written.eq_of_nil {leads : String → Option (Place σ)}
    {base whole : Place σ → Option ByteArray} (written : Written leads base [] whole) :
    whole = base := by
  cases written
  rfl

theorem Written.of_singleton {leads : String → Option (Place σ)}
    {base whole : Place σ → Option ByteArray} {output : String × String}
    (written : Written leads base [output] whole) : ∃ target, leads output.1 = some target ∧
      whole = Function.update base target (some output.2.toUTF8) := by
  cases written with
  | cons leadsTo others => exact ⟨_, leadsTo, others.eq_of_nil⟩

theorem Staged.paths {base whole : Place σ → Option ByteArray}
    {drafts : List (Draft (StateM σ) × String)} (staged : Staged base drafts outputs whole) :
    drafts.map Prod.snd = outputs.map Prod.fst := by
  induction staged with
  | nil => rfl
  | cons _ _ _ ih => exact congrArg _ ih

/-- When files cannot be written, all are as before, or all were staged and one was
refused its place while others were in theirs. -/
theorem writeFiles_fault
    (failed : Yields (writeFiles outputs : StateM σ _) before (.error fault) after) :
    files after = files before ∨
      ∃ placed draft path others staged between refused, placed ≠ [] ∧
        Yields (stageAll outputs : StateM σ _) before
          (.ok (placed ++ (draft, path) :: others)) staged ∧
        Yields (placeAll placed : StateM σ _) staged (.ok ()) between ∧
        Yields (place draft path : StateM σ _) between (.error fault) refused ∧
        Written (target? after) (files before) (outputs.take placed.length) (files after) := by
  obtain ⟨result, staged, ranStage, rest⟩ := yields_bind.mp failed
  cases result with
  | error _ =>
      obtain ⟨_, rfl⟩ := yields_pure.mp rest
      exact .inl (stageAll_fault ranStage)
  | ok drafts =>
      obtain ⟨placed, draft, path, others, between, refused, rfl, ranPlaced, ranRefused, written,
        targets⟩ := placeAll_fault (stageAll_staged ranStage) rest
      rw [← targets] at written
      by_cases none : placed = []
      · subst none
        exact .inl written.eq_of_nil
      · exact .inr ⟨placed, draft, path, others, staged, between, refused, none, ranStage,
          ranPlaced, ranRefused, written⟩

/-- Two files were staged and the first was put in its place, but not the second. -/
def RefusedSecond (first second : String × String) (before : σ) (fault : FileFault) : Prop :=
  ∃ draft draft' staged placed refused,
    Yields (stageAll [first, second] : StateM σ _) before
      (.ok [(draft, first.1), (draft', second.1)]) staged ∧
    Yields (place draft first.1 : StateM σ _) staged (.ok ()) placed ∧
    Yields (place draft' second.1 : StateM σ _) placed (.error fault) refused

theorem writeFiles_fault_of_two {first second : String × String}
    (failed : Yields (writeFiles [first, second] : StateM σ _) before (.error fault) after) :
    files after = files before ∨ RefusedSecond first second before fault ∧
      ∃ target, target? after first.1 = some target ∧
        files after = Function.update (files before) target (some first.2.toUTF8) := by
  refine (writeFiles_fault failed).imp_right ?_
  rintro ⟨placed, draft, path, others, staged, between, refused, some, ranStage, ranPlaced,
    ranRefused, written⟩
  have paths := (stageAll_staged ranStage).paths
  match placed, some with
  | [(draft', path')], _ =>
      obtain ⟨ofFirst, later⟩ := List.cons.inj paths
      obtain ⟨ofSecond, noLater⟩ := List.cons.inj later
      cases List.map_eq_nil_iff.mp noLater
      subst ofFirst ofSecond
      obtain ⟨result, between', ranPlace, rest⟩ := yields_bind.mp ranPlaced
      cases result with
      | error _ =>
          obtain ⟨_, _, _, rest⟩ := yields_bind.mp rest
          obtain ⟨_, _, _, rest⟩ := yields_bind.mp rest
          cases (yields_pure.mp rest).1
      | ok _ =>
          obtain ⟨_, rfl⟩ := yields_pure.mp rest
          exact ⟨⟨draft', draft, staged, between', refused, ranStage, ranPlace, ranRefused⟩,
            written.of_singleton⟩
  | _ :: _ :: _, _ => simp at paths

theorem writeFiles_fault_of_one (single : outputs.length ≤ 1)
    (failed : Yields (writeFiles outputs : StateM σ _) before (.error fault) after) :
    files after = files before := by
  refine (writeFiles_fault failed).resolve_right ?_
  rintro ⟨placed, draft, path, others, staged, between, refused, some, ranStage, _⟩
  have paths := congrArg List.length (stageAll_staged ranStage).paths
  have positive := List.length_pos_iff.mpr some
  simp only [List.map_append, List.map_cons, List.length_append, List.length_cons,
    List.length_map] at paths
  omega

/-! ## Outputs -/

theorem printAll_ok {texts : List String} {result : Except FileFault Unit} :
    ∀ {before after : σ}, Yields (printAll texts : StateM σ _) before result after →
      result = .ok () := by
  induction texts with
  | nil =>
      intro before after ran
      exact (yields_pure.mp ran).1.symm
  | cons text texts ih =>
      intro before after ran
      obtain ⟨printed, between, ranPrint, rest⟩ := yields_bind.mp ran
      cases (print_files ranPrint).1
      exact ih rest

/-- Texts without a path are printed last, which cannot fail. -/
theorem writeOutputs_fault {outputs : List (Option String × String)}
    (failed : Yields (writeOutputs outputs : StateM σ _) before (.error fault) after) :
    Yields (writeFiles (outputs.filterMap fun output =>
      output.1.map fun path => (path, output.2)) : StateM σ _) before (.error fault) after := by
  obtain ⟨written, between, ranWrite, rest⟩ := yields_bind.mp failed
  cases written with
  | error _ =>
      obtain ⟨same, rfl⟩ := yields_pure.mp rest
      cases same
      exact ranWrite
  | ok _ => cases printAll_ok rest

end FileSystem

/-! ## Artifacts -/

namespace Artifacts

open FileSystem FileSystem.Ledger

variable {σ : Type} [FileSystem (StateM σ)] [Ledger σ] {before after : σ}
  {artifacts : Artifacts} {settings : Settings}

/-- A text with the path that it goes to, if it has both. -/
def fileOf? (path text : Option String) : Option (String × String) :=
  path.bind fun path => text.map fun text => (path, text)

theorem fileOf?_eq_some_iff {path text : Option String} {file : String × String} :
    fileOf? path text = some file ↔ path = some file.1 ∧ text = some file.2 := by
  cases path <;> cases text <;> simp [fileOf?, Prod.ext_iff]

theorem files_outputs (artifacts : Artifacts) (settings : Settings) :
    ((artifacts.outputs settings).filterMap fun output =>
      output.1.map fun path => (path, output.2)) =
        (fileOf? settings.registration.output artifacts.registration).toList ++
          (fileOf? settings.openapi.output artifacts.openapi).toList := by
  have single : ∀ path text : Option String,
      ((text.toList.map fun text => (path, text)).filterMap fun output =>
        output.1.map fun path => (path, output.2)) = (fileOf? path text).toList := by
    intro path text
    cases path <;> cases text <;> rfl
  rw [outputs, List.filterMap_append, single, single]

/-- When artifacts cannot be written, no file has changed, was added or is missing,
unless both were to go to files, both were staged, and the document was refused its
place after the code was in its own.  Then the file of the code has all of the code,
and nothing else has changed. -/
theorem write_fault {error : Error}
    (failed : Yields (artifacts.write settings : ExceptT Error (StateM σ) Unit).run before
      (.error error) after) :
    ∃ fault, error = .file fault ∧ (files after = files before ∨
      ∃ path code path' document target,
        settings.registration.output = some path ∧ artifacts.registration = some code ∧
        settings.openapi.output = some path' ∧ artifacts.openapi = some document ∧
        RefusedSecond (path, code) (path', document) before fault ∧
        files after = Function.update (files before) target (some code.toUTF8) ∧
        Yields (read path : StateM σ _) after (.ok code.toUTF8) after) := by
  obtain ⟨result, after', ran, rest⟩ := yields_bind.mp failed
  obtain ⟨same, rfl⟩ := yields_pure.mp rest
  cases result with
  | ok _ => cases same
  | error fault =>
      cases same
      have written := writeOutputs_fault ran
      rw [files_outputs] at written
      refine ⟨fault, rfl, ?_⟩
      cases ofCode : fileOf? settings.registration.output artifacts.registration with
      | none =>
          rw [ofCode] at written
          exact .inl (writeFiles_fault_of_one (Option.length_toList_le ..) written)
      | some first =>
          cases ofDocument : fileOf? settings.openapi.output artifacts.openapi with
          | none =>
              rw [ofCode, ofDocument] at written
              exact .inl (writeFiles_fault_of_one (by simp) written)
          | some second =>
              rw [ofCode, ofDocument] at written
              refine (writeFiles_fault_of_two written).imp_right ?_
              rintro ⟨refused, target, leads, same⟩
              obtain ⟨toPath, code⟩ := fileOf?_eq_some_iff.mp ofCode
              obtain ⟨toPath', document⟩ := fileOf?_eq_some_iff.mp ofDocument
              have whole : files after' target = some first.2.toUTF8 := by
                rw [same, Function.update_self]
              exact ⟨_, _, _, _, target, toPath, code, toPath', document, refused, same,
                read_file leads whole⟩

/-! The last case does arise. -/

/-- A machine with a directory where the document is to go. -/
def blocked : Machine where
  disk := ⟨[(["out"], .directory)]⟩

def blockedSettings : Settings where
  registration := { output := some "register.go" }
  openapi := { output := some "out" }

/-- A code and a document are written to the machine.  Only the kernel evaluates this. -/
@[irreducible]
def blockedRun : Except Error Unit × Machine :=
  (write ⟨some "code", some "document"⟩ blockedSettings :
    ExceptT Error Machine.Task Unit).run.run blocked

theorem blockedRun_fst : blockedRun.1 = .error (.file .isDirectory) := by
  decide +kernel

theorem yields_blocked :
    Yields (write ⟨some "code", some "document"⟩ blockedSettings :
      ExceptT Error Machine.Task Unit).run blocked (.error (.file .isDirectory))
      blockedRun.2 := by
  rw [← blockedRun_fst]
  unfold blockedRun
  exact yields_run ..

theorem files_blockedRun : (files blockedRun.2 ["register.go"]).isSome = true := by
  decide +kernel

theorem files_blockedRun_ne : files blockedRun.2 ≠ files blocked := by
  intro same
  have isThere := files_blockedRun
  rw [same] at isThere
  exact absurd isThere (by decide +kernel)

/-- Artifacts that cannot be written may leave a file behind. -/
theorem write_keeps_first : ¬ ∀ (artifacts : Artifacts) (settings : Settings)
    (before after : Machine) (error : Error),
      Yields (artifacts.write settings : ExceptT Error Machine.Task Unit).run before
        (.error error) after → files after = files before :=
  fun whole => files_blockedRun_ne (whole _ _ _ _ _ yields_blocked)

theorem write_fault_blocked :
    Yields (write ⟨some "code", some "document"⟩ blockedSettings :
      ExceptT Error Machine.Task Unit).run blocked (.error (.file .isDirectory))
      blockedRun.2 ∧ ∃ target,
        files blockedRun.2 = Function.update (files blocked) target (some "code".toUTF8) ∧
        Yields (read "register.go" : Machine.Task _) blockedRun.2 (.ok "code".toUTF8)
          blockedRun.2 := by
  obtain ⟨_, _, same | ⟨_, _, _, _, target, toPath, isCode, _, _, _, whole, found⟩⟩ :=
    write_fault yields_blocked
  · exact absurd same files_blockedRun_ne
  · cases toPath
    cases isCode
    exact ⟨yields_blocked, target, whole, found⟩

end Artifacts

end RouteAtlas

/-
Module: RouteAtlas.Proofs.FileLedger
Purpose: What the requests to a system of files do to its regular files, and what
  follows for drafting many files and putting them in their places.
Main exports: FileSystem.Ledger, FileSystem.Staged,
  FileSystem.Written, FileSystem.stageAll_fault, FileSystem.placeAll_fault
-/
import Mathlib.Logic.Function.Basic
import RouteAtlas.Proofs.TaskFrames

namespace RouteAtlas.FileSystem

variable {σ : Type}

/-! ## Systems -/

/-- An account of the regular files of a system.  A request that is refused changes
none of them, for whatever reason it is refused; one that is granted changes what it
is about and nothing else.  Drafts are kept where there is no file and where no path
leads, and standard output takes everything. -/
class Ledger (σ : Type) [FileSystem (StateM σ)] where
  Place : Type
  [decidesPlace : DecidableEq Place]
  /-- The content of the regular file at a location. -/
  files : σ → Place → Option ByteArray
  /-- Where the file of a path is, or would be put. -/
  target? : σ → String → Option Place
  /-- Where a draft is kept. -/
  keptAt : Draft (StateM σ) → Place
  read_file : ∀ {path state target content},
    target? state path = some target → files state target = some content →
      Yields (read path : StateM σ _) state (.ok content) state
  isDirectory_files : ∀ {path before found after},
    Yields (isDirectory path : StateM σ _) before found after → files after = files before
  makeDirectory_files : ∀ {path before result after},
    Yields (makeDirectory path : StateM σ _) before result after → files after = files before
  draft_fault : ∀ {directory content before fault after},
    Yields (draft directory content : StateM σ _) before (.error fault) after →
      files after = files before
  draft_files : ∀ {directory content before drafted after},
    Yields (draft directory content : StateM σ _) before (.ok drafted) after →
      files before (keptAt drafted) = none ∧
        (∀ state path, target? state path ≠ some (keptAt drafted)) ∧
        files after = Function.update (files before) (keptAt drafted) (some content.toUTF8)
  place_targets : ∀ {drafted path before result after},
    Yields (place drafted path : StateM σ _) before result after →
      files before (keptAt drafted) ≠ none → target? after = target? before
  place_fault : ∀ {drafted path before fault after},
    Yields (place drafted path : StateM σ _) before (.error fault) after →
      files after = files before
  place_files : ∀ {drafted path before content after},
    Yields (place drafted path : StateM σ _) before (.ok ()) after →
      files before (keptAt drafted) = some content →
        ∃ target, target? before path = some target ∧
          files after = Function.update
            (Function.update (files before) (keptAt drafted) none) target (some content)
  discard_targets : ∀ {drafted before after},
    Yields (discard drafted : StateM σ _) before () after →
      files before (keptAt drafted) ≠ none → target? after = target? before
  discard_files : ∀ {drafted before after},
    Yields (discard drafted : StateM σ _) before () after →
      files after = Function.update (files before) (keptAt drafted) none
  print_targets : ∀ {text before result after},
    Yields (print text : StateM σ _) before result after → target? after = target? before
  print_files : ∀ {text before result after},
    Yields (print text : StateM σ _) before result after →
      result = .ok () ∧ files after = files before

attribute [reducible, instance] Ledger.decidesPlace

open Ledger

variable [FileSystem (StateM σ)] [Ledger σ] {before after : σ}

/-! ## Directories -/

theorem files_keptByMaking : KeptByMaking (files : σ → Place σ → Option ByteArray) where
  isDirectory _ _ _ _ ran := isDirectory_files ran
  makeDirectory _ _ _ _ ran := makeDirectory_files ran

/-! ## Drafts -/

theorem stage_fault {path content : String} {fault : FileFault}
    (ran : Yields (stage path content : StateM σ _) before (.error fault) after) :
    files after = files before := by
  unfold stage at ran
  split at ran
  · exact draft_fault ran
  · obtain ⟨made, between, asked, rest⟩ := yields_bind.mp ran
    rw [← files_keptByMaking.makeDirectories _ _ _ _ asked]
    cases made with
    | error _ =>
        obtain ⟨_, rfl⟩ := yields_pure.mp rest
        rfl
    | ok _ => exact draft_fault rest

theorem stage_files {path content : String} {drafted : Draft (StateM σ)}
    (ran : Yields (stage path content : StateM σ _) before (.ok drafted) after) :
    files before (keptAt drafted) = none ∧
      (∀ (state : σ) path, target? state path ≠ some (keptAt drafted)) ∧
      files after = Function.update (files before) (keptAt drafted) (some content.toUTF8) := by
  unfold stage at ran
  split at ran
  · exact draft_files ran
  · obtain ⟨made, between, asked, rest⟩ := yields_bind.mp ran
    rw [← files_keptByMaking.makeDirectories _ _ _ _ asked]
    cases made with
    | error _ =>
        obtain ⟨failed, _⟩ := yields_pure.mp rest
        cases failed
    | ok _ => exact draft_files rest

/-- Contents are drafted on top of the files that there are, one after another, each
where there was none before and where no path leads. -/
inductive Staged : (Place σ → Option ByteArray) → List (Draft (StateM σ) × String) →
    List (String × String) → (Place σ → Option ByteArray) → Prop where
  | nil (base : Place σ → Option ByteArray) : Staged base [] [] base
  | cons {base whole : Place σ → Option ByteArray} {drafted : Draft (StateM σ)}
      {path content : String} {rest : List (Draft (StateM σ) × String)}
      {outputs : List (String × String)}
      (fresh : base (keptAt drafted) = none)
      (hidden : ∀ (state : σ) path, target? state path ≠ some (keptAt drafted))
      (others : Staged (Function.update base (keptAt drafted) (some content.toUTF8)) rest
        outputs whole) :
      Staged base ((drafted, path) :: rest) ((path, content) :: outputs) whole

theorem stageAll_fault {outputs : List (String × String)} {fault : FileFault} :
    ∀ {before after : σ}, Yields (stageAll outputs : StateM σ _) before (.error fault) after →
      files after = files before := by
  induction outputs with
  | nil =>
      intro before after ran
      obtain ⟨failed, _⟩ := yields_pure.mp ran
      cases failed
  | cons output outputs ih =>
      intro before after ran
      obtain ⟨first, between, staged, rest⟩ := yields_bind.mp ran
      cases first with
      | error _ =>
          obtain ⟨_, rfl⟩ := yields_pure.mp rest
          exact stage_fault staged
      | ok drafted =>
          obtain ⟨others, between', stagedOthers, rest⟩ := yields_bind.mp rest
          cases others with
          | ok _ =>
              obtain ⟨failed, _⟩ := yields_pure.mp rest
              cases failed
          | error other =>
              obtain ⟨_, after', discarded, rest⟩ := yields_bind.mp rest
              obtain ⟨same, rfl⟩ := yields_pure.mp rest
              cases same
              obtain ⟨fresh, _, drafts⟩ := stage_files staged
              rw [discard_files discarded, ih stagedOthers, drafts, Function.update_idem,
                ← fresh, Function.update_eq_self]

theorem stageAll_staged {outputs : List (String × String)}
    {drafts : List (Draft (StateM σ) × String)} :
    ∀ {before after : σ}, Yields (stageAll outputs : StateM σ _) before (.ok drafts) after →
      Staged (files before) drafts outputs (files after) := by
  induction outputs generalizing drafts with
  | nil =>
      intro before after ran
      obtain ⟨same, rfl⟩ := yields_pure.mp ran
      cases same
      exact .nil _
  | cons output outputs ih =>
      intro before after ran
      obtain ⟨first, between, staged, rest⟩ := yields_bind.mp ran
      cases first with
      | error _ =>
          obtain ⟨failed, _⟩ := yields_pure.mp rest
          cases failed
      | ok drafted =>
          obtain ⟨others, between', stagedOthers, rest⟩ := yields_bind.mp rest
          cases others with
          | error _ =>
              obtain ⟨_, _, _, rest⟩ := yields_bind.mp rest
              obtain ⟨failed, _⟩ := yields_pure.mp rest
              cases failed
          | ok others =>
              obtain ⟨same, rfl⟩ := yields_pure.mp rest
              cases same
              obtain ⟨fresh, hidden, drafts⟩ := stage_files staged
              refine .cons fresh hidden ?_
              rw [← drafts]
              exact ih stagedOthers

namespace Staged

variable {base whole : Place σ → Option ByteArray}
  {drafts : List (Draft (StateM σ) × String)} {outputs : List (String × String)}

/-- Drafting changes no file that there was. -/
theorem whole_eq (staged : Staged base drafts outputs whole) {location : Place σ}
    (taken : base location ≠ none) : whole location = base location := by
  induction staged with
  | nil => rfl
  | cons fresh _ _ ih =>
      next drafted _ _ _ _ _ _ =>
        have apart : location ≠ keptAt drafted := by
          rintro rfl
          exact taken fresh
        rw [ih (by rwa [Function.update_of_ne apart]), Function.update_of_ne apart]

/-- What happens to other files than the drafts makes no difference to them. -/
theorem update (staged : Staged base drafts outputs whole) {location : Place σ}
    (apart : ∀ draft ∈ drafts, keptAt draft.1 ≠ location) (content : Option ByteArray) :
    Staged (Function.update base location content) drafts outputs
      (Function.update whole location content) := by
  induction staged with
  | nil => exact .nil _
  | cons fresh hidden _ ih =>
      obtain ⟨first, rest⟩ := List.forall_mem_cons.mp apart
      refine .cons ?_ hidden ?_
      · rwa [Function.update_of_ne first]
      · rw [Function.update_comm first.symm]
        exact ih rest

/-- Drafts are kept apart from all files that there were. -/
theorem apart (staged : Staged base drafts outputs whole) {location : Place σ}
    (taken : base location ≠ none) : ∀ draft ∈ drafts, keptAt draft.1 ≠ location := by
  induction staged with
  | nil => simp
  | cons fresh _ _ ih =>
      next drafted _ _ _ _ _ _ =>
        have here : keptAt drafted ≠ location := by
          rintro rfl
          exact taken fresh
        exact List.forall_mem_cons.mpr ⟨here, ih (by rwa [Function.update_of_ne here.symm])⟩

theorem hidden (staged : Staged base drafts outputs whole) {state : σ} {path : String}
    {location : Place σ} (leads : target? state path = some location) :
    ∀ draft ∈ drafts, keptAt draft.1 ≠ location := by
  induction staged with
  | nil => simp
  | cons _ hidden _ ih =>
      refine List.forall_mem_cons.mpr ⟨?_, ih⟩
      rintro rfl
      exact hidden _ _ leads

theorem kept {drafted : Draft (StateM σ)} {path path' content : String}
    (staged : Staged base ((drafted, path) :: drafts) ((path', content) :: outputs) whole) :
    whole (keptAt drafted) = some content.toUTF8 := by
  cases staged with
  | cons _ _ others =>
      have own : Function.update base (keptAt drafted) (some content.toUTF8)
          (keptAt drafted) = some content.toUTF8 := Function.update_self ..
      rw [others.whole_eq (by rw [own]; exact Option.some_ne_none _), own]

theorem kept_ne_none {draft : Draft (StateM σ) × String}
    (staged : Staged base (draft :: drafts) outputs whole) : whole (keptAt draft.1) ≠ none := by
  obtain ⟨drafted, path⟩ := draft
  cases outputs with
  | nil => cases staged
  | cons output outputs =>
      rw [staged.kept]
      exact Option.some_ne_none _

/-- Without the first draft, the others are still there. -/
theorem without {drafted : Draft (StateM σ)} {content : String}
    (others : Staged (Function.update base (keptAt drafted) (some content.toUTF8)) drafts
      outputs whole) (fresh : base (keptAt drafted) = none) :
    Staged base drafts outputs (Function.update whole (keptAt drafted) none) := by
  have taken : Function.update base (keptAt drafted) (some content.toUTF8) (keptAt drafted) ≠
      none := by
    rw [Function.update_self]
    exact Option.some_ne_none _
  have removed := others.update (others.apart taken) none
  rwa [Function.update_idem, ← fresh, Function.update_eq_self, fresh] at removed

/-- Putting the first draft in its place writes its file and leaves the others as
they are. -/
theorem place {drafted : Draft (StateM σ)} {path path' content : String}
    (staged : Staged base ((drafted, path) :: drafts) ((path', content) :: outputs)
      (files before))
    (placed : Yields (FileSystem.place drafted path : StateM σ _) before (.ok ()) after) :
    ∃ target, target? before path = some target ∧
      Staged (Function.update base target (some content.toUTF8)) drafts outputs
        (files after) := by
  obtain ⟨target, leads, moved⟩ := place_files placed staged.kept
  cases staged with
  | cons fresh _ others =>
      refine ⟨target, leads, ?_⟩
      rw [moved]
      exact (others.without fresh).update (others.hidden leads) _

/-- Discarding all drafts leaves the files that there were. -/
theorem discardAll : ∀ {before after : σ}, Staged base drafts outputs (files before) →
    Yields (drafts.forM fun draft => discard draft.1 : StateM σ _) before () after →
      files after = base ∧ target? after = target? before := by
  induction drafts generalizing outputs with
  | nil =>
      intro before after staged ran
      obtain ⟨_, rfl⟩ := yields_pure.mp ran
      cases staged
      exact ⟨rfl, rfl⟩
  | cons draft drafts ih =>
      intro before after staged ran
      obtain ⟨_, between, discarded, rest⟩ := yields_bind.mp ran
      rw [← discard_targets discarded staged.kept_ne_none]
      cases staged with
      | cons fresh _ others =>
          have remaining := others.without fresh
          rw [← discard_files discarded] at remaining
          exact ih remaining rest

end Staged

/-! ## Placing -/

/-- Contents are written to the places of their paths, one after another, and no
other file is changed. -/
inductive Written (leads : String → Option (Place σ)) : (Place σ → Option ByteArray) →
    List (String × String) → (Place σ → Option ByteArray) → Prop where
  | nil (base : Place σ → Option ByteArray) : Written leads base [] base
  | cons {base whole : Place σ → Option ByteArray} {target : Place σ} {path content : String}
      {outputs : List (String × String)} (leadsTo : leads path = some target)
      (others : Written leads (Function.update base target (some content.toUTF8)) outputs whole) :
      Written leads base ((path, content) :: outputs) whole

theorem placeAll_written {drafts : List (Draft (StateM σ) × String)}
    {outputs : List (String × String)} {base : Place σ → Option ByteArray} :
    ∀ {before after : σ}, Staged base drafts outputs (files before) →
      Yields (placeAll drafts : StateM σ _) before (.ok ()) after →
        Written (target? before) base outputs (files after) ∧
          target? after = target? before := by
  induction drafts generalizing base outputs with
  | nil =>
      intro before after staged ran
      obtain ⟨_, rfl⟩ := yields_pure.mp ran
      cases staged
      exact ⟨.nil _, rfl⟩
  | cons draft drafts ih =>
      intro before after staged ran
      obtain ⟨placed, between, ranPlace, rest⟩ := yields_bind.mp ran
      have sameTargets := place_targets ranPlace staged.kept_ne_none
      cases placed with
      | error _ =>
          obtain ⟨_, _, _, rest⟩ := yields_bind.mp rest
          obtain ⟨_, _, _, rest⟩ := yields_bind.mp rest
          obtain ⟨failed, _⟩ := yields_pure.mp rest
          cases failed
      | ok _ =>
          cases staged with
          | cons fresh hidden others =>
              obtain ⟨target, leads, stagedRest⟩ := (others.cons fresh hidden).place ranPlace
              obtain ⟨written, targets⟩ := ih stagedRest rest
              rw [sameTargets] at written targets
              exact ⟨.cons leads written, targets⟩

/-- Files that can be written are written, and no other file is changed. -/
theorem writeFiles_written {outputs : List (String × String)}
    (ran : Yields (writeFiles outputs : StateM σ _) before (.ok ()) after) :
    Written (target? after) (files before) outputs (files after) := by
  obtain ⟨result, staged, ranStage, rest⟩ := yields_bind.mp ran
  cases result with
  | error _ =>
      obtain ⟨failed, _⟩ := yields_pure.mp rest
      cases failed
  | ok drafts =>
      obtain ⟨written, targets⟩ := placeAll_written (stageAll_staged ranStage) rest
      rwa [targets]

/-- When a draft is refused its place, those before it are in theirs, and all others
are discarded. -/
theorem placeAll_fault {drafts : List (Draft (StateM σ) × String)}
    {outputs : List (String × String)} {base : Place σ → Option ByteArray} {fault : FileFault} :
    ∀ {before after : σ}, Staged base drafts outputs (files before) →
      Yields (placeAll drafts : StateM σ _) before (.error fault) after →
        ∃ placed draft path others between refused, drafts = placed ++ (draft, path) :: others ∧
          Yields (placeAll placed : StateM σ _) before (.ok ()) between ∧
          Yields (place draft path : StateM σ _) between (.error fault) refused ∧
          Written (target? before) base (outputs.take placed.length) (files after) ∧
          target? after = target? before := by
  induction drafts generalizing base outputs with
  | nil =>
      intro before after _ ran
      obtain ⟨failed, _⟩ := yields_pure.mp ran
      cases failed
  | cons draft drafts ih =>
      intro before after staged ran
      obtain ⟨placed, between, ranPlace, rest⟩ := yields_bind.mp ran
      have sameTargets := place_targets ranPlace staged.kept_ne_none
      cases placed with
      | error other =>
          obtain ⟨_, between', discarded, rest⟩ := yields_bind.mp rest
          obtain ⟨_, after', discardedRest, rest⟩ := yields_bind.mp rest
          obtain ⟨same, rfl⟩ := yields_pure.mp rest
          cases same
          have discardedAll : Yields ((draft :: drafts).forM fun draft => discard draft.1 :
              StateM σ _) between () after' :=
            yields_bind.mpr ⟨(), between', discarded, discardedRest⟩
          rw [← place_fault ranPlace] at staged
          obtain ⟨same, targets⟩ := staged.discardAll discardedAll
          rw [sameTargets] at targets
          refine ⟨[], draft.1, draft.2, drafts, before, between, rfl, rfl, ranPlace, ?_, targets⟩
          rw [same]
          exact .nil _
      | ok _ =>
          cases staged with
          | cons fresh hidden others =>
              obtain ⟨target, leads, stagedRest⟩ := (others.cons fresh hidden).place ranPlace
              obtain ⟨placed, refusedDraft, path, later, between', refused, split, ranPlaced,
                ranRefused, written, targets⟩ := ih stagedRest rest
              rw [sameTargets] at written targets
              refine ⟨_ :: placed, refusedDraft, path, later, between', refused,
                congrArg _ split, ?_, ranRefused, .cons leads written, targets⟩
              exact yields_bind.mpr ⟨.ok (), between, ranPlace, ranPlaced⟩

end RouteAtlas.FileSystem

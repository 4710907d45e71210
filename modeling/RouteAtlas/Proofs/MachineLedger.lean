/-
Module: RouteAtlas.Proofs.MachineLedger
Purpose: A machine keeps the account that is expected of a system of files.
Main exports: Disk.fileAt?, Disk.target?, Machine.instLedger
-/
import Mathlib.Data.List.Basic
import RouteAtlas.Files.Machine
import RouteAtlas.Proofs.Fallible
import RouteAtlas.Proofs.FileLedger

namespace RouteAtlas

namespace Disk

open Fallible

variable {disk after : Disk} {directory location : Location} {path : String}

/-! ## Files -/

/-- The content of the file at a location. -/
def fileAt? (disk : Disk) (location : Location) : Option ByteArray :=
  match disk.get? location with
  | some (.file content) => some content
  | _ => none

theorem get?_of_fileAt? {content : ByteArray} (holds : disk.fileAt? location = some content) :
    disk.get? location = some (.file content) := by
  unfold fileAt? at holds
  split at holds
  · next found =>
      cases holds
      exact found
  · cases holds

theorem fileAt?_insert (named : location ≠ []) (content : ByteArray) :
    (disk.insert location (.file content)).fileAt? =
      Function.update disk.fileAt? location (some content) := by
  funext other
  by_cases same : other = location
  · subst same
    simp [fileAt?, get?_insert, named]
  · simp [fileAt?, get?_insert, named, same, Function.update_of_ne]

theorem fileAt?_insert_directory (named : location ≠ []) (free : disk.get? location = none) :
    (disk.insert location .directory).fileAt? = disk.fileAt? := by
  funext other
  by_cases same : other = location
  · subst same
    simp [fileAt?, get?_insert, named, free]
  · simp [fileAt?, get?_insert, named, same]

theorem fileAt?_erase :
    (disk.erase location).fileAt? = Function.update disk.fileAt? location none := by
  funext other
  by_cases same : other = location
  · subst same
    rw [Function.update_self, fileAt?]
    by_cases root : other = []
    · subst root
      rfl
    · rw [get?_erase_self disk root]
  · rw [Function.update_of_ne same, fileAt?, fileAt?, get?_erase_of_ne disk same]

/-- No name on a disk is the fresh one, which is longer than all of them. -/
theorem freshName_notMem {entry : Location × Entry} (member : entry ∈ disk.entries) :
    disk.freshName ∉ entry.1 := by
  intro used
  have length : disk.freshName.length ∈
      disk.entries.flatMap fun entry => entry.1.map String.length :=
    List.mem_flatMap.mpr ⟨entry, member, List.mem_map_of_mem used⟩
  have bound := List.le_max?_getD_of_mem (k := 0) length
  have longer : disk.freshName.length =
      (disk.entries.flatMap fun entry => entry.1.map String.length).foldl max 0 + 1 := by
    rw [freshName, String.length_ofList, List.length_cons, List.length_replicate]
  rw [List.foldl_max] at longer
  omega

theorem fileAt?_fresh (parent : Location) : disk.fileAt? (parent ++ [disk.freshName]) = none := by
  have free : disk.get? (parent ++ [disk.freshName]) = none := by
    rw [get?, if_neg (by simp), List.lookup_eq_none_iff]
    intro entry member
    rw [bne_iff_ne]
    rintro same
    apply freshName_notMem member
    rw [← same]
    exact List.mem_append_right _ (List.mem_singleton_self _)
  rw [fileAt?, free]

/-! ## Directories -/

/-- Two disks have the same directories. -/
def SameDirectories (disk other : Disk) : Prop :=
  ∀ location, disk.get? location = some .directory ↔ other.get? location = some .directory

theorem checkDirectory_eq_ok {value : Unit} :
    disk.checkDirectory location = .ok value ↔ disk.get? location = some .directory := by
  unfold checkDirectory
  split <;> simp_all

theorem sameDirectories_erase {content : ByteArray}
    (holds : disk.fileAt? location = some content) : SameDirectories (disk.erase location) disk := by
  intro other
  by_cases same : other = location
  · subst same
    have isFile := get?_of_fileAt? holds
    have named : other ≠ [] := by
      rintro rfl
      cases isFile
    rw [get?_erase_self disk named, isFile]
    simp
  · rw [get?_erase_of_ne disk same]

theorem sameDirectories_insert (named : location ≠ []) (content : ByteArray)
    (free : disk.get? location ≠ some .directory) :
    SameDirectories (disk.insert location (.file content)) disk := by
  intro other
  by_cases same : other = location
  · subst same
    simp [get?_insert, named, free]
  · simp [get?_insert, named, same]

/-! ## Paths -/

/-- Where the file of a path is, or would be put. -/
def target? (disk : Disk) (directory : Location) (path : String) : Option Location :=
  match split? path with
  | none => none
  | some split =>
      if split.last = "." ∨ split.last = ".." ∨ split.slash then none
      else (disk.resolveLast directory path split).toOption

theorem target?_eq_some_iff {target : Location} :
    disk.target? directory path = some target ↔ ∃ split, split? path = some split ∧
      split.last ≠ "." ∧ split.last ≠ ".." ∧ split.slash = false ∧
      disk.resolveLast directory path split = .ok target := by
  unfold target?
  cases split? path with
  | none => simp
  | some split =>
      have asOption : (disk.resolveLast directory path split).toOption = some target ↔
          disk.resolveLast directory path split = .ok target := by
        cases disk.resolveLast directory path split <;> simp [Except.toOption]
      simp [asOption, not_or, and_assoc]

theorem follow_eq_ok_congr {other : Disk} (same : SameDirectories disk other)
    {parts : List String} {target : Location} :
    disk.follow location parts = .ok target ↔ other.follow location parts = .ok target := by
  induction parts generalizing location with
  | nil => rfl
  | cons part rest ih =>
      unfold follow
      simp only [bind_eq_ok, checkDirectory_eq_ok, same location]
      refine exists_congr fun _ => and_congr_right fun _ => ?_
      split
      · exact ih
      · split
        · exact ih
        · exact ih

theorem target?_congr {other : Disk} (same : SameDirectories disk other) :
    disk.target? directory path = other.target? directory path := by
  refine Option.ext fun target => ?_
  rw [target?_eq_some_iff, target?_eq_some_iff]
  simp only [resolveLast, bind_eq_ok, follow_eq_ok_congr same, checkDirectory_eq_ok, same _]

/-- A path whose last part is a name consists of that and what stands before it. -/
theorem splitText_of_split? {split : Split} (cut : split? path = some split)
    (noSlash : split.slash = false) :
    Text.splitText '/' path = split.before ++ [split.last] ∧ split.last ≠ "" := by
  unfold split? at cut
  cases pieces : (Text.splitText '/' path).reverse with
  | nil => simp [pieces] at cut
  | cons last before =>
      have whole : Text.splitText '/' path = before.reverse ++ [last] := by
        rw [← List.reverse_reverse (Text.splitText '/' path), pieces, List.reverse_cons]
      simp only [pieces, List.head?_cons] at cut
      split at cut
      · cases cut
      · next kept =>
          cases cut
          have named : last ≠ "" := by simpa using noSlash
          rw [List.dropWhile_cons_of_neg (by simpa using named)] at kept
          cases kept
          exact ⟨whole, named⟩

theorem follow_append {parts later : List String} {target : Location} :
    disk.follow location (parts ++ later) = .ok target ↔
      ∃ between, disk.follow location parts = .ok between ∧
        disk.follow between later = .ok target := by
  induction parts generalizing location with
  | nil => simp [follow]
  | cons part rest ih =>
      rw [List.cons_append, follow, follow]
      cases disk.checkDirectory location with
      | error fault => simp [bind, Except.bind]
      | ok value =>
          simp only [bind, Except.bind]
          split
          · exact ih
          · split
            · exact ih
            · exact ih

theorem follow_name {parent : Location} {last : String} (isDirectory : disk.get? parent =
    some .directory) (named : last ≠ "" ∧ last ≠ "." ∧ last ≠ "..") :
    disk.follow parent [last] = .ok (parent ++ [last]) := by
  simp [follow, checkDirectory, isDirectory, named, bind, Except.bind]

/-- A file is put where its path leads once it is there. -/
theorem read_of_target? {target : Location} {content : ByteArray}
    (leads : disk.target? directory path = some target)
    (holds : disk.fileAt? target = some content) : disk.read directory path = .ok content := by
  obtain ⟨split, cut, notDot, notDots, noSlash, resolved⟩ := target?_eq_some_iff.mp leads
  obtain ⟨whole, named⟩ := splitText_of_split? cut noSlash
  obtain ⟨parent, followed, resolved⟩ := bind_eq_ok.mp resolved
  obtain ⟨_, checked, resolved⟩ := bind_eq_ok.mp resolved
  cases resolved
  have given : path ≠ "" := by
    rintro rfl
    cases cut
  have resolved : disk.resolve directory path = .ok (parent ++ [split.last]) := by
    rw [resolve, if_neg given, whole]
    exact follow_append.mpr ⟨parent, followed,
      follow_name (checkDirectory_eq_ok.mp checked) ⟨named, notDot, notDots⟩⟩
  have found : disk.find directory path = .ok (.file content) := by
    refine bind_eq_ok.mpr ⟨_, resolved, ?_⟩
    rw [get?_of_fileAt? holds]
    rfl
  exact bind_eq_ok.mpr ⟨_, found, rfl⟩

/-- No path leads to a draft. -/
theorem target?_ne_draft (parent : Location) (drafted : Disk) :
    disk.target? directory path ≠ some (parent ++ [drafted.freshName]) := by
  intro leads
  obtain ⟨split, cut, _, _, noSlash, resolved⟩ := target?_eq_some_iff.mp leads
  obtain ⟨whole, _⟩ := splitText_of_split? cut noSlash
  obtain ⟨_, _, resolved⟩ := bind_eq_ok.mp resolved
  obtain ⟨_, _, resolved⟩ := bind_eq_ok.mp resolved
  have sameName : split.last = drafted.freshName :=
    (List.append_inj' (Except.ok.inj resolved) rfl).2 |> List.cons.inj |>.1
  have isPiece : split.last ∈ Text.splitText '/' path := by
    rw [whole]
    exact List.mem_append_right _ (List.mem_singleton_self _)
  obtain ⟨piece, member, same⟩ := List.mem_map.mp isPiece
  apply Text.notMem_of_mem_pieces member
  have letters := congrArg String.toList (same.trans sameName)
  rw [String.toList_ofList, freshName, String.toList_ofList] at letters
  rw [letters]
  exact List.mem_cons_self

/-! ## Requests -/

theorem place_eq_ok {source : Location} (placed : disk.place directory source path = .ok after) :
    ∃ target entry, disk.target? directory path = some target ∧ target ≠ [] ∧
      disk.get? target ≠ some .directory ∧ disk.get? source = some entry ∧
      after = (disk.erase source).insert target entry := by
  unfold place at placed
  dsimp only at placed
  by_cases given : path = ""
  · rw [if_pos given] at placed
    cases placed
  rw [if_neg given] at placed
  split at placed
  · cases placed
  next split cut =>
  obtain ⟨target, resolved, placed⟩ := bind_eq_ok.mp placed
  by_cases dots : split.last = "." ∨ split.last = ".."
  · rw [if_pos dots] at placed
    cases placed
  rw [if_neg dots] at placed
  by_cases slash : split.slash = true
  · rw [if_pos slash] at placed
    cases placed
  rw [if_neg slash] at placed
  obtain ⟨notDot, notDots⟩ := not_or.mp dots
  have leads : disk.target? directory path = some target := target?_eq_some_iff.mpr
    ⟨split, cut, notDot, notDots, Bool.eq_false_iff.mpr slash, resolved⟩
  have named : target ≠ [] := by
    obtain ⟨_, _, resolved⟩ := bind_eq_ok.mp resolved
    obtain ⟨_, _, resolved⟩ := bind_eq_ok.mp resolved
    cases resolved
    simp
  split at placed
  · cases placed
  · cases placed
  · next entry held notDirectory =>
      cases placed
      exact ⟨target, entry, leads, named, notDirectory, held, rfl⟩

theorem makeDirectory_eq_ok (made : disk.makeDirectory directory path = .ok after) :
    ∃ location, location ≠ [] ∧ disk.get? location = none ∧
      after = disk.insert location .directory := by
  unfold makeDirectory at made
  dsimp only at made
  by_cases given : path = ""
  · rw [if_pos given] at made
    cases made
  rw [if_neg given] at made
  split at made
  · cases made
  next split cut =>
  obtain ⟨location, resolved, made⟩ := bind_eq_ok.mp made
  by_cases dots : split.last = "." ∨ split.last = ".."
  · rw [if_pos dots] at made
    cases made
  rw [if_neg dots] at made
  have named : location ≠ [] := by
    obtain ⟨_, _, resolved⟩ := bind_eq_ok.mp resolved
    obtain ⟨_, _, resolved⟩ := bind_eq_ok.mp resolved
    cases resolved
    simp
  split at made
  · cases made
  · next free =>
      cases made
      exact ⟨location, named, free, rfl⟩

theorem draft_eq_ok {content : String}
    (drafted : disk.draft directory path content = .ok (after, location)) :
    ∃ parent, location = parent ++ [disk.freshName] ∧
      after = disk.insert location (.file content.toUTF8) := by
  obtain ⟨parent, _, drafted⟩ := bind_eq_ok.mp drafted
  obtain ⟨_, _, drafted⟩ := bind_eq_ok.mp drafted
  cases drafted
  exact ⟨parent, rfl, rfl⟩

end Disk

/-! ## Machines -/

namespace Machine

open FileSystem (Yields)

variable {before after : Machine} {path : String}

/-! A request to change the disk does so, unless the disk refuses it. -/

theorem yields_makeDirectory {result : Except FileFault Unit}
    (ran : Yields (FileSystem.makeDirectory path : Task _) before result after) :
    match before.disk.makeDirectory before.directory path with
    | .error fault => result = .error fault ∧ after = before
    | .ok disk => result = .ok () ∧ after = { before with disk } := by
  unfold Yields FileSystem.makeDirectory instFileSystem at ran
  simp only [StateT.run_bind, StateT.run_get, pure_bind] at ran
  cases made : before.disk.makeDirectory before.directory path with
  | error fault =>
      rw [made] at ran
      cases ran
      exact ⟨rfl, rfl⟩
  | ok disk =>
      rw [made] at ran
      cases ran
      exact ⟨rfl, rfl⟩

theorem yields_draft {content : String} {result : Except FileFault Location}
    (ran : Yields (FileSystem.draft path content : Task _) before result after) :
    match before.disk.draft before.directory path content with
    | .error fault => result = .error fault ∧ after = before
    | .ok (disk, location) => result = .ok location ∧ after = { before with disk } := by
  unfold Yields FileSystem.draft instFileSystem at ran
  simp only [StateT.run_bind, StateT.run_get, pure_bind] at ran
  cases drafted : before.disk.draft before.directory path content with
  | error fault =>
      rw [drafted] at ran
      cases ran
      exact ⟨rfl, rfl⟩
  | ok both =>
      rw [drafted] at ran
      cases ran
      exact ⟨rfl, rfl⟩

theorem yields_place {source : Location} {result : Except FileFault Unit}
    (ran : Yields (FileSystem.place (m := Task) source path) before result after) :
    match before.disk.place before.directory source path with
    | .error fault => result = .error fault ∧ after = before
    | .ok disk => result = .ok () ∧ after = { before with disk } := by
  unfold Yields FileSystem.place instFileSystem at ran
  simp only [StateT.run_bind, StateT.run_get, pure_bind] at ran
  cases placed : before.disk.place before.directory source path with
  | error fault =>
      rw [placed] at ran
      cases ran
      exact ⟨rfl, rfl⟩
  | ok disk =>
      rw [placed] at ran
      cases ran
      exact ⟨rfl, rfl⟩

theorem disk_of_place {source : Location} {content : ByteArray}
    (ran : Yields (FileSystem.place (m := Task) source path) before (.ok ()) after)
    (held : before.disk.fileAt? source = some content) :
    ∃ target, before.disk.target? before.directory path = some target ∧ target ≠ [] ∧
      before.disk.get? target ≠ some .directory ∧ after.directory = before.directory ∧
      after.disk = (before.disk.erase source).insert target (.file content) := by
  have outcome := yields_place ran
  split at outcome
  · cases outcome.1
  · next disk placed =>
      obtain ⟨target, entry, leads, named, free, entryHeld, rfl⟩ := Disk.place_eq_ok placed
      rw [Disk.get?_of_fileAt? held] at entryHeld
      cases entryHeld
      obtain ⟨_, rfl⟩ := outcome
      exact ⟨target, leads, named, free, rfl, rfl⟩

instance instLedger : FileSystem.Ledger Machine where
  Place := Location
  files machine := machine.disk.fileAt?
  target? machine path := machine.disk.target? machine.directory path
  keptAt location := location
  read_file leads holds := congrArg (·, _) (Disk.read_of_target? leads holds)
  isDirectory_files ran := by
    cases ran
    rfl
  makeDirectory_files ran := by
    have outcome := yields_makeDirectory ran
    split at outcome
    · rw [outcome.2]
    · next disk made =>
        obtain ⟨location, named, free, rfl⟩ := Disk.makeDirectory_eq_ok made
        rw [outcome.2]
        exact Disk.fileAt?_insert_directory named free
  draft_fault ran := by
    have outcome := yields_draft ran
    split at outcome
    · rw [outcome.2]
    · cases outcome.1
  draft_files ran := by
    have outcome := yields_draft ran
    split at outcome
    · cases outcome.1
    · next drafted =>
        obtain ⟨parent, rfl, rfl⟩ := Disk.draft_eq_ok drafted
        obtain ⟨same, rfl⟩ := outcome
        cases same
        exact ⟨Disk.fileAt?_fresh parent, fun _ _ => Disk.target?_ne_draft parent _,
          Disk.fileAt?_insert (by simp) _⟩
  place_targets {_ _ _ result _} ran held := by
    obtain ⟨content, holds⟩ := Option.ne_none_iff_exists'.mp held
    cases result with
    | error fault =>
        have outcome := yields_place ran
        split at outcome
        · rw [outcome.2]
        · cases outcome.1
    | ok _ =>
        obtain ⟨target, _, named, free, directory, same⟩ := disk_of_place ran holds
        have erased := Disk.sameDirectories_erase holds
        have placed := Disk.sameDirectories_insert named content
          (fun isDirectory => free ((erased target).mp isDirectory))
        funext path
        rw [directory, same]
        exact Disk.target?_congr fun location => (placed location).trans (erased location)
  place_fault ran := by
    have outcome := yields_place ran
    split at outcome
    · rw [outcome.2]
    · cases outcome.1
  place_files ran held := by
    obtain ⟨target, leads, named, _, _, same⟩ := disk_of_place ran held
    refine ⟨target, leads, ?_⟩
    rw [same, Disk.fileAt?_insert named, Disk.fileAt?_erase]
  discard_targets ran held := by
    obtain ⟨content, holds⟩ := Option.ne_none_iff_exists'.mp held
    cases ran
    funext path
    exact Disk.target?_congr (Disk.sameDirectories_erase holds)
  discard_files ran := by
    cases ran
    exact Disk.fileAt?_erase
  print_targets ran := by
    cases ran
    rfl
  print_files ran := by
    cases ran
    exact ⟨rfl, rfl⟩

end Machine

end RouteAtlas

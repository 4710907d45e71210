/-
Module: RouteAtlas.Proofs.Deliveries
Purpose: What is left behind when generated texts have been written: each in its file or on
  standard output, the directories on the way to the files, and nothing else.
Main exports: FileSystem.Written.exists_content, Machine.isDirectory_of_read,
  Artifacts.Delivered, Artifacts.write_delivers
-/
import RouteAtlas.Proofs.CommandRuns

namespace RouteAtlas

open FileSystem FileSystem.Ledger

/-! ## Files -/

namespace FileSystem.Written

variable {σ : Type} [FileSystem (StateM σ)] [Ledger σ] {leads : String → Option (Place σ)}
  {base whole : Place σ → Option ByteArray} {location : Place σ}

/-- Where none of the paths leads, everything is as it was. -/
theorem eq_elsewhere {outputs : List (String × String)} (written : Written leads base outputs whole)
    (apart : ∀ output ∈ outputs, leads output.1 ≠ some location) :
    whole location = base location := by
  induction written with
  | nil => rfl
  | cons leadsTo _ ih =>
      rcases List.forall_mem_cons.mp apart with ⟨first, rest⟩
      have here : location ≠ _ := fun same => first (same ▸ leadsTo)
      rw [ih rest, Function.update_of_ne here]

/-- What is put somewhere first stays there unless something else is put there. -/
theorem eq_first {outputs : List (String × String)} {path content : String}
    (written : Written leads base ((path, content) :: outputs) whole)
    (apart : ∀ other ∈ outputs, leads other.1 ≠ leads path) :
    ∃ target, leads path = some target ∧ whole target = some content.toUTF8 := by
  cases written with
  | cons leadsTo others =>
      refine ⟨_, leadsTo, ?_⟩
      rw [others.eq_elsewhere (leadsTo ▸ apart), Function.update_self]

/-- What is put somewhere last stays there. -/
theorem eq_last {earlier : List (String × String)} {path content : String}
    (written : Written leads base (earlier ++ [(path, content)]) whole) :
    ∃ target, leads path = some target ∧ whole target = some content.toUTF8 := by
  induction earlier generalizing base with
  | nil => exact written.eq_first (by simp)
  | cons _ _ ih =>
      cases written with
      | cons _ others => exact ih others

/-- There is something where a path of the outputs leads. -/
theorem exists_content {outputs : List (String × String)} {output : String × String}
    (written : Written leads base outputs whole) (member : output ∈ outputs) :
    ∃ target content, leads output.1 = some target ∧ whole target = some content := by
  induction outputs generalizing base output with
  | nil => cases member
  | cons first outputs ih =>
      have ofRest : ∀ other ∈ outputs, ∃ target content,
          leads other.1 = some target ∧ whole target = some content := by
        intro other inRest
        cases written with
        | cons _ others => exact ih others inRest
      rcases List.mem_cons.mp member with rfl | inRest
      · by_cases later : ∃ other ∈ outputs, leads other.1 = leads output.1
        · rcases later with ⟨other, inRest, same⟩
          rw [← same]
          exact ofRest other inRest
        · have apart : ∀ other ∈ outputs, leads other.1 ≠ leads output.1 :=
            fun other inRest same => later ⟨other, inRest, same⟩
          rcases written.eq_first apart with ⟨target, leadsTo, holds⟩
          exact ⟨target, _, leadsTo, holds⟩
      · exact ofRest output inRest

end FileSystem.Written

/-! ## Directories -/

namespace Disk

open Fallible

variable {disk : Disk} {directory location : Location}

/-- What parts are looked up in is a directory. -/
theorem isDirectory_of_follow {parts : List String} {target : Location} (more : parts ≠ [])
    (followed : disk.follow location parts = .ok target) :
    disk.get? location = some .directory := by
  cases parts with
  | nil => exact absurd rfl more
  | cons part rest =>
      obtain ⟨_, checked, _⟩ := bind_eq_ok.mp followed
      exact checkDirectory_eq_ok.mp checked

theorem origin_append {above : String} (given : above ≠ "") (rest : String) :
    origin directory (above ++ rest) = origin directory above := by
  have first : (above ++ rest).toList.head? = above.toList.head? := by
    rw [String.toList_append, List.head?_append_of_ne_nil]
    simpa using given
  rw [origin, origin, FilePath.isAbsolute, FilePath.isAbsolute, first]

/-- Whatever stands before a slash leads to a directory if the whole path leads somewhere. -/
theorem isDirectory_of_resolve {above below : String} (given : above ≠ "")
    (resolved : disk.resolve directory (above ++ "/" ++ below) = .ok location) :
    disk.isDirectory directory above = true := by
  have whole : above ++ "/" ++ below ≠ "" := by simp
  have parts : Text.splitText '/' (above ++ "/" ++ below) =
      Text.splitText '/' above ++ Text.splitText '/' below := Text.splitText_append '/' above below
  have pieces : Text.splitText '/' below ≠ [] := by
    simp [Text.splitText, Text.pieces_ne_nil]
  rw [resolve, if_neg whole, parts, String.append_assoc, origin_append given] at resolved
  obtain ⟨between, followed, rest⟩ := follow_append.mp resolved
  have found : disk.find directory above = .ok .directory := by
    refine bind_eq_ok.mpr ⟨between, ?_, ?_⟩
    · rwa [resolve, if_neg given]
    · rw [isDirectory_of_follow pieces rest]
      rfl
  rw [isDirectory, found]

end Disk

namespace Machine

variable {after : Machine}

/-- All directories are there on the way to a file that can be read. -/
theorem isDirectory_of_read {above below : String} {content : ByteArray} (given : above ≠ "")
    (reads : Yields (read (above ++ "/" ++ below) : Task _) after (.ok content) after) :
    Yields (isDirectory above : Task _) after true after := by
  have found : after.disk.read after.directory (above ++ "/" ++ below) = .ok content :=
    congrArg Prod.fst reads
  obtain ⟨_, found, _⟩ := Fallible.bind_eq_ok.mp found
  obtain ⟨_, resolved, _⟩ := Fallible.bind_eq_ok.mp found
  exact congrArg (·, after) (Disk.isDirectory_of_resolve given resolved)

end Machine

/-! ## Artifacts -/

namespace Artifacts

variable {artifacts : Artifacts} {settings : Settings} {before after : Machine}

/-- What is printed of a text: all of it if there is no path for it. -/
def printed (path text : Option String) : String :=
  if path.isNone then text.getD "" else ""

theorem printed_outputs (artifacts : Artifacts) (settings : Settings) :
    String.join (((artifacts.outputs settings).filter (·.1.isNone)).map (·.2)) =
      printed settings.registration.output artifacts.registration ++
        printed settings.openapi.output artifacts.openapi := by
  have single : ∀ path text : Option String,
      String.join (((text.toList.map fun text => (path, text)).filter (·.1.isNone)).map (·.2)) =
        printed path text := by
    intro path text
    cases path <;> cases text <;> simp [printed]
  rw [outputs, List.filter_append, List.map_append, String.join_append, single, single]

/-- The texts that go to files, with their paths. -/
def filesFor (artifacts : Artifacts) (settings : Settings) : List (String × String) :=
  (fileOf? settings.registration.output artifacts.registration).toList ++
    (fileOf? settings.openapi.output artifacts.openapi).toList

/-- The code and the document are where the settings want them, and nothing else has
changed. -/
structure Delivered (artifacts : Artifacts) (settings : Settings) (before after : Machine) :
    Prop where
  document : ∀ file ∈ fileOf? settings.openapi.output artifacts.openapi,
    after.HasText file.1 file.2
  /-- The file of the code has the code unless it is the file of the document too. -/
  code : ∀ file ∈ fileOf? settings.registration.output artifacts.registration,
    (∀ other ∈ fileOf? settings.openapi.output artifacts.openapi,
      target? after other.1 ≠ target? after file.1) → after.HasText file.1 file.2
  shared : ∀ file ∈ fileOf? settings.registration.output artifacts.registration,
    ∀ other ∈ fileOf? settings.openapi.output artifacts.openapi,
      target? after other.1 = target? after file.1 → after.HasText file.1 other.2
  directories : ∀ file ∈ artifacts.filesFor settings, ∀ above below,
    file.1 = above ++ "/" ++ below → above ≠ "" →
    Yields (isDirectory above : Machine.Task _) after true after
  output : after.output = before.output ++
    printed settings.registration.output artifacts.registration ++
    printed settings.openapi.output artifacts.openapi
  others : ∀ location, (∀ file ∈ artifacts.filesFor settings,
    target? after file.1 ≠ some location) → files after location = files before location

/-- When artifacts have been written, each is in its file or was printed.  If both have one file,
it has the document.  No other file has changed, was added or is missing. -/
theorem write_delivers
    (ran : Yields (artifacts.write settings : ExceptT Error Machine.Task Unit).run before
      (.ok ()) after) : artifacts.Delivered settings before after := by
  obtain ⟨outcome, same, ran⟩ := yields_attempt.mp ran
  cases Fallible.mapError_eq_ok.mp same.symm
  obtain ⟨written, output⟩ := Machine.written_of_writeOutputs ran
  rw [files_outputs] at written
  rw [printed_outputs, ← String.append_assoc] at output
  have ofDocument : ∀ file ∈ fileOf? settings.openapi.output artifacts.openapi,
      ∃ target, target? after file.1 = some target ∧
        files after target = some file.2.toUTF8 := by
    intro file isDocument
    rw [Option.mem_def.mp isDocument] at written
    exact written.eq_last
  refine ⟨?document, ?code, ?shared, ?directories, output, fun _ => written.eq_elsewhere⟩
  case document =>
    intro file isDocument
    rcases ofDocument file isDocument with ⟨target, leads, holds⟩
    exact read_file leads holds
  case code =>
    intro file isCode apart
    rw [Option.mem_def.mp isCode] at written
    rcases written.eq_first (by simpa using apart) with ⟨target, leads, holds⟩
    exact read_file leads holds
  case shared =>
    intro file _ other isDocument sameTarget
    rcases ofDocument other isDocument with ⟨target, leads, holds⟩
    exact read_file (sameTarget ▸ leads) holds
  case directories =>
    intro file member above below path given
    rcases written.exists_content member with ⟨target, content, leads, holds⟩
    rw [path] at leads
    exact Machine.isDirectory_of_read given (read_file leads holds)

/-! ### A code and a document -/

/-- A machine with a file that is of no concern. -/
def bench : Machine where
  disk := ⟨[(["notes.txt"], .file "old".toUTF8)]⟩

/-- The code is to go to a directory that is not there. -/
def benchSettings (document : Option String) : Settings where
  registration := { output := some "gen/api/register.go" }
  openapi := { output := document }

/-- The file of the code by another path. -/
def detour : String := "./gen//api/register.go"

/-- A code and a document are written to the machine.  Only the kernel evaluates this. -/
@[irreducible]
def benchRun (document : Option String) : Except Error Unit × Machine :=
  (write ⟨some "code", some "document"⟩ (benchSettings document) :
    ExceptT Error Machine.Task Unit).run.run bench

theorem yields_benchRun {document : Option String}
    (succeeded : (benchRun document).1 = .ok ()) :
    Yields (write ⟨some "code", some "document"⟩ (benchSettings document) :
      ExceptT Error Machine.Task Unit).run bench (.ok ()) (benchRun document).2 := by
  rw [← succeeded]
  unfold benchRun
  exact FileSystem.yields_run ..

theorem benchRun_none : (benchRun none).1 = .ok () := by
  decide +kernel

theorem benchRun_detour : (benchRun (some detour)).1 = .ok () := by
  decide +kernel

theorem target?_benchRun_none :
    target? (benchRun none).2 "gen/api/register.go" = some ["gen", "api", "register.go"] := by
  decide +kernel

theorem target?_benchRun_detour : target? (benchRun (some detour)).2 detour =
    target? (benchRun (some detour)).2 "gen/api/register.go" := by
  decide +kernel

/-- Without a path the document is printed.  With another path to the file of the code, that
file has the document. -/
theorem write_delivers_bench :
    (benchRun none).2.HasText "gen/api/register.go" "code" ∧
      Yields (isDirectory "gen" : Machine.Task _) (benchRun none).2 true (benchRun none).2 ∧
      (benchRun none).2.output = "document" ∧
      files (benchRun none).2 ["notes.txt"] = some "old".toUTF8 ∧
      (benchRun (some detour)).2.HasText "gen/api/register.go" "document" ∧
      (benchRun (some detour)).2.output = "" := by
  have toPrint := write_delivers (yields_benchRun benchRun_none)
  have toShare := write_delivers (yields_benchRun benchRun_detour)
  have code := toPrint.code _ rfl fun _ none => nomatch none
  have above := toPrint.directories _ List.mem_cons_self "gen" "api/register.go" rfl (by decide)
  have notes := toPrint.others ["notes.txt"] <| by
    intro file member
    cases List.mem_singleton.mp member
    rw [target?_benchRun_none]
    decide
  have shared := toShare.shared _ rfl _ rfl target?_benchRun_detour
  exact ⟨code, above, toPrint.output, notes, shared, toShare.output⟩

end Artifacts

end RouteAtlas

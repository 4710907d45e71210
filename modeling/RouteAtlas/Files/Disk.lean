/-
Module: RouteAtlas.Files.Disk
Purpose: Files and directories in memory, and the outcome of every operation on
  them.
Main exports: Entry, Disk, Disk.resolve, Disk.makeDirectory, Disk.draft,
  Disk.place
-/
import RouteAtlas.Error
import RouteAtlas.Files.Path

namespace RouteAtlas

/-- What may have a name in a directory. -/
inductive Entry where
  | directory
  | file (content : ByteArray)

/-- Files are the same if their bytes are. -/
instance : DecidableEq Entry := fun one other =>
  match one, other with
  | .directory, .directory => isTrue rfl
  | .file one, .file other =>
      if same : one.data = other.data then
        isTrue (congrArg Entry.file (ByteArray.ext same))
      else
        isFalse fun equal => same (by injection equal with equal; rw [equal])
  | .directory, .file _ => isFalse (by intro equal; cases equal)
  | .file _, .directory => isFalse (by intro equal; cases equal)

/-- Where something is: the names that lead to it from the root. -/
abbrev Location := List String

/-- The files and directories below the root. -/
structure Disk where
  entries : List (Location × Entry) := []
deriving DecidableEq, Inhabited

namespace Disk

/-- What is at a location; the root is a directory. -/
def get? (disk : Disk) (location : Location) : Option Entry :=
  if location = [] then some .directory else disk.entries.lookup location

theorem lookup_filter_ne {location other : Location} (apart : other ≠ location)
    (entries : List (Location × Entry)) :
    (entries.filter fun entry => entry.1 != location).lookup other =
      entries.lookup other := by
  induction entries with
  | nil => rfl
  | cons entry rest ih =>
      obtain ⟨key, value⟩ := entry
      by_cases hit : key = location
      · have miss : (other == key) = false := by
          rw [hit]
          exact beq_eq_false_iff_ne.2 apart
        simpa [hit, List.lookup_cons, miss, beq_eq_false_iff_ne.2 apart] using ih
      · simp [hit, List.lookup_cons, ih]

/-- Take away what is at a location. -/
def erase (location : Location) (disk : Disk) : Disk :=
  ⟨disk.entries.filter fun entry => entry.1 != location⟩

/-- Put something at a location. -/
def insert (location : Location) (entry : Entry) (disk : Disk) : Disk :=
  ⟨(location, entry) :: (disk.erase location).entries⟩

/-- Looking up what was put somewhere finds it; the root stays a directory. -/
theorem get?_insert (disk : Disk) (location other : Location) (entry : Entry)
    (named : location ≠ []) :
    (disk.insert location entry).get? other =
      if other = location then some entry else disk.get? other := by
  by_cases root : other = []
  · have apart : ¬ [] = location := fun same => named same.symm
    simp [get?, root, apart]
  · by_cases same : other = location
    · simp [get?, insert, same, named]
    · simp only [get?, root, insert, erase, same, if_false, List.lookup_cons,
        beq_eq_false_iff_ne.2 same]
      exact lookup_filter_ne same disk.entries

theorem lookup_filter_self (location : Location) (entries : List (Location × Entry)) :
    (entries.filter fun entry => entry.1 != location).lookup location = none := by
  rw [List.lookup_eq_none_iff]
  intro entry member
  have apart := (List.mem_filter.mp member).2
  rwa [bne_comm]

/-- Nothing is found where something was taken away. -/
theorem get?_erase_self (disk : Disk) {location : Location} (named : location ≠ []) :
    (disk.erase location).get? location = none := by
  simp [get?, erase, named, lookup_filter_self]

theorem get?_erase_of_ne (disk : Disk) {location other : Location} (apart : other ≠ location) :
    (disk.erase location).get? other = disk.get? other := by
  simp only [get?, erase, lookup_filter_ne apart]

/-- Fail unless there is a directory at a location. -/
def checkDirectory (disk : Disk) (location : Location) :
    Except FileFault Unit :=
  match disk.get? location with
  | none => .error .notFound
  | some (.file _) => .error .notDirectory
  | some .directory => .ok ()

/-- Where a path leads that is given by all that stands between its slashes.
Whatever a part is looked up in must be a directory. -/
def follow (disk : Disk) : Location → List String →
    Except FileFault Location
  | location, [] => .ok location
  | location, part :: rest => do
      disk.checkDirectory location
      if part = "" ∨ part = "." then disk.follow location rest
      else if part = ".." then disk.follow location.dropLast rest
      else disk.follow (location ++ [part]) rest

/-- Where a path starts: at the root or in the current directory. -/
def origin (directory : Location) (path : String) : Location :=
  if FilePath.isAbsolute path then [] else directory

/-- Where a path leads; there may be nothing. -/
def resolve (disk : Disk) (directory : Location) (path : String) :
    Except FileFault Location :=
  if path = "" then .error .notFound
  else disk.follow (origin directory path) (Text.splitText '/' path)

/-- What a path leads to. -/
def find (disk : Disk) (directory : Location) (path : String) :
    Except FileFault Entry := do
  let location ← disk.resolve directory path
  match disk.get? location with
  | none => throw .notFound
  | some entry => return entry

/-- The content of a file. -/
def read (disk : Disk) (directory : Location) (path : String) :
    Except FileFault ByteArray := do
  match ← disk.find directory path with
  | .directory => throw .isDirectory
  | .file content => return content

/-- Whether a path leads to a directory. -/
def isDirectory (disk : Disk) (directory : Location) (path : String) : Bool :=
  match disk.find directory path with
  | .ok .directory => true
  | _ => false

/-- The last part of a path, what stands before it, and whether a slash
follows. -/
structure Split where
  before : List String
  last : String
  slash : Bool
deriving Repr, DecidableEq

/-- Cut a path before its last part; the root has none. -/
def split? (path : String) : Option Split :=
  let pieces := (Text.splitText '/' path).reverse
  match pieces.dropWhile (· == "") with
  | [] => none
  | last :: before =>
      some ⟨before.reverse, last, pieces.head? == some ""⟩

/-- The location of the last part of a path, which need not exist, in a
directory, which must. -/
def resolveLast (disk : Disk) (directory : Location) (path : String)
    (split : Split) : Except FileFault Location := do
  let parent ← disk.follow (origin directory path) split.before
  disk.checkDirectory parent
  return parent ++ [split.last]

/-- Make one directory. -/
def makeDirectory (disk : Disk) (directory : Location) (path : String) :
    Except FileFault Disk := do
  if path = "" then throw .notFound
  match split? path with
  | none => throw .alreadyExists
  | some split =>
      let location ← disk.resolveLast directory path split
      if split.last = "." ∨ split.last = ".." then throw .alreadyExists
      match disk.get? location with
      | some _ => throw .alreadyExists
      | none => return disk.insert location .directory

/-- A name that is longer than all others.  It has a slash, and so no path can
give it. -/
def freshName (disk : Disk) : String :=
  let lengths := disk.entries.flatMap fun entry =>
    entry.1.map String.length
  String.ofList ('/' :: List.replicate (lengths.foldl max 0) '~')

/-- A new file in a directory, under a name that is not used yet. -/
def draft (disk : Disk) (directory : Location) (path content : String) :
    Except FileFault (Disk × Location) := do
  let parent ← disk.resolve directory path
  disk.checkDirectory parent
  let location := parent ++ [disk.freshName]
  return (disk.insert location (.file content.toUTF8), location)

/-- Move a file to a path, in place of the file that is there. -/
def place (disk : Disk) (directory : Location) (source : Location)
    (path : String) : Except FileFault Disk := do
  if path = "" then throw .notFound
  match split? path with
  | none => throw .busy
  | some split =>
      let target ← disk.resolveLast directory path split
      if split.last = "." ∨ split.last = ".." then throw .busy
      if split.slash then throw .notDirectory
      match disk.get? target, disk.get? source with
      | some .directory, _ => throw .isDirectory
      | _, none => throw .notFound
      | _, some entry => return (disk.erase source).insert target entry

end Disk

end RouteAtlas

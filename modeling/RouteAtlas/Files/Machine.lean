/-
Module: RouteAtlas.Files.Machine
Purpose: A system of files and standard streams as a value.
Main exports: Machine, Machine.instFileSystem
-/
import RouteAtlas.Files.Disk
import RouteAtlas.Files.System

namespace RouteAtlas

/-- A disk, the directory that a program runs in, and its standard streams. -/
structure Machine where
  disk : Disk := {}
  directory : Location := []
  input : ByteArray := .empty
  output : String := ""
deriving Inhabited

namespace Machine

/-- A state together with the result of an operation. -/
abbrev Task := StateM Machine

/-- An operation that looks at the disk and leaves it as it is. -/
def look {α : Type} (question : Disk → Location → α) : Task α := do
  let machine ← get
  return question machine.disk machine.directory

instance instFileSystem : FileSystem Task where
  Draft := Location
  read path := look fun disk directory => disk.read directory path
  isPresent path := look fun disk directory =>
    (disk.find directory path).isOk
  isDirectory path := look fun disk directory =>
    disk.isDirectory directory path
  makeDirectory path := do
    let machine ← get
    match machine.disk.makeDirectory machine.directory path with
    | .error fault => return .error fault
    | .ok disk => do
        set { machine with disk }
        return .ok ()
  draft path content := do
    let machine ← get
    match machine.disk.draft machine.directory path content with
    | .error fault => return .error fault
    | .ok (disk, location) => do
        set { machine with disk }
        return .ok location
  place source path := do
    let machine ← get
    match machine.disk.place machine.directory source path with
    | .error fault => return .error fault
    | .ok disk => do
        set { machine with disk }
        return .ok ()
  discard location := modify fun machine =>
    { machine with disk := machine.disk.erase location }
  directory := do
    return .ok (FilePath.ofParts true (← get).directory)
  input := do
    let machine ← get
    set { machine with input := .empty }
    return .ok machine.input
  print text := do
    modify fun machine => { machine with output := machine.output ++ text }
    return .ok ()

end Machine

end RouteAtlas

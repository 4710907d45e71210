/-
Module: RouteAtlas.Files.System
Purpose: What a program asks of a system with files and standard streams.
Main exports: FileSystem, FileSystem.readText, FileSystem.writeFiles,
  FileSystem.writeOutput
-/
import RouteAtlas.Error
import RouteAtlas.Files.Path

namespace RouteAtlas

/-- Files and standard streams.  New content is drafted in a file without its
final name, which is then put in its place in one step. -/
class FileSystem (m : Type → Type) where
  /-- A file that has its content but not yet its name. -/
  Draft : Type
  /-- The content of a file. -/
  read : String → m (Except FileFault ByteArray)
  /-- Whether there is something at a path. -/
  isPresent : String → m Bool
  /-- Whether there is a directory at a path. -/
  isDirectory : String → m Bool
  /-- Make a directory in one that exists. -/
  makeDirectory : String → m (Except FileFault Unit)
  /-- A new file in a directory, under a name that is not used yet. -/
  draft : String → String → m (Except FileFault Draft)
  /-- Give a draft its name, in place of the file that has it. -/
  place : Draft → String → m (Except FileFault Unit)
  /-- Remove a draft. -/
  discard : Draft → m Unit
  /-- The absolute path of the current directory. -/
  directory : m (Except FileFault String)
  /-- All of standard input. -/
  input : m (Except FileFault ByteArray)
  /-- Write to standard output. -/
  print : String → m (Except FileFault Unit)

namespace FileSystem

variable {m : Type → Type} [Monad m] [FileSystem m]

/-- An operation on files as one that may fail for other reasons too. -/
def attempt {α : Type} (action : m (Except FileFault α)) : ExceptT Error m α :=
  ExceptT.mk do return (← action).mapError .file

/-- The text in a file's content. -/
def decode (content : ByteArray) : Except FileFault String :=
  match String.fromUTF8? content with
  | some text => .ok text
  | none => .error .invalidText

/-- The text in a file. -/
def readText (path : String) : m (Except FileFault String) := do
  return (← read path) >>= decode

/-- The text in standard input. -/
def inputText : m (Except FileFault String) := do
  return (← input) >>= decode

/-- A fault does not matter where there is a directory after all. -/
def unlessDirectory (path : String) :
    Except FileFault Unit → m (Except FileFault Unit)
  | .ok _ => return .ok ()
  | .error fault => do
      if ← isDirectory path then return .ok () else return .error fault

/-- Make the directory of the given parts, last one first, after those it lies
in, as far as they are missing.  What was made stays after a fault. -/
def makeParts (absolute : Bool) : List String → m (Except FileFault Unit)
  | [] => return .ok ()
  | last :: before => do
      let path := FilePath.ofParts absolute (last :: before).reverse
      match ← makeDirectory path with
      | .error .notFound =>
          match ← makeParts absolute before with
          | .error fault => return .error fault
          | .ok _ => unlessDirectory path (← makeDirectory path)
      | result => unlessDirectory path result

/-- Make a directory with all those it lies in, as far as they are missing. -/
def makeDirectories (path : String) : m (Except FileFault Unit) :=
  makeParts (FilePath.isAbsolute path) (FilePath.parts path).reverse

/-- Make the directory of a path and draft the content there. -/
def stage (path content : String) : m (Except FileFault (Draft m)) := do
  match (FilePath.parent? path).filter (· != "") with
  | none => draft "." content
  | some parent =>
      match ← makeDirectories parent with
      | .error fault => return .error fault
      | .ok _ => draft parent content

/-- Stage contents one after another; after a fault nothing stays staged. -/
def stageAll : List (String × String) →
    m (Except FileFault (List (Draft m × String)))
  | [] => return .ok []
  | (path, content) :: rest => do
      match ← stage path content with
      | .error fault => return .error fault
      | .ok staged =>
          match ← stageAll rest with
          | .error fault => do
              discard staged
              return .error fault
          | .ok others => return .ok ((staged, path) :: others)

/-- Put staged files in their places one after another; after a fault no staged
file stays, but those in their places do. -/
def placeAll : List (Draft m × String) → m (Except FileFault Unit)
  | [] => return .ok ()
  | (staged, path) :: rest => do
      match ← place staged path with
      | .error fault => do
          discard staged
          rest.forM fun other => discard other.1
          return .error fault
      | .ok _ => placeAll rest

/-- Write files.  No file appears under its name before all are staged. -/
def writeFiles (files : List (String × String)) :
    m (Except FileFault Unit) := do
  match ← stageAll files with
  | .error fault => return .error fault
  | .ok staged => placeAll staged

/-- Write texts to standard output one after another. -/
def printAll : List String → m (Except FileFault Unit)
  | [] => return .ok ()
  | text :: rest => do
      match ← print text with
      | .error fault => return .error fault
      | .ok _ => printAll rest

/-- Write each text to its path, or to standard output where it has none.
Files come first. -/
def writeOutputs (outputs : List (Option String × String)) :
    m (Except FileFault Unit) := do
  let files := outputs.filterMap fun output =>
    output.1.map fun path => (path, output.2)
  match ← writeFiles files with
  | .error fault => return .error fault
  | .ok _ => printAll ((outputs.filter (·.1.isNone)).map (·.2))

/-- Write a text to a path, or to standard output. -/
def writeOutput (path : Option String) (text : String) :
    m (Except FileFault Unit) :=
  writeOutputs [(path, text)]

end FileSystem

end RouteAtlas

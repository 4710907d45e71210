/-
Module: RouteAtlas.Main
Purpose: The program.
Main exports: main
-/
import RouteAtlas.CommandLine.Run

namespace RouteAtlas

/-- The fault that the operating system reports. -/
def FileFault.ofIO : IO.Error → FileFault
  | .noFileOrDirectory .. => .notFound
  | .alreadyExists .. => .alreadyExists
  | .inappropriateType _ 21 _ => .isDirectory
  | .inappropriateType .. => .notDirectory
  | .resourceBusy .. => .busy
  | error => .other (toString error)

/-- An action with its faults as values. -/
def FileFault.catching {α : Type} (action : IO α) : IO (Except FileFault α) := do
  match ← action.toBaseIO with
  | .ok value => return .ok value
  | .error error => return .error (FileFault.ofIO error)

/-- A new file in a directory, under a name that is not used yet.  No file stays if the content
cannot be written. -/
def draftFile (directory content : String) : IO String := do
  let path := FilePath.join directory (".draft" ++ toString (← IO.monoNanosNow))
  let handle ← IO.FS.Handle.mk path .writeNew
  try
    handle.putStr content
    handle.flush
  catch error =>
    let _ ← (IO.FS.removeFile path).toBaseIO
    throw error
  return path

instance : FileSystem IO where
  Draft := String
  read path := FileFault.catching (IO.FS.readBinFile path)
  isPresent path := do
    match ← FileFault.catching (IO.FS.Handle.mk path .read) with
    | .error .notFound | .error .notDirectory => return false
    | _ => return true
  isDirectory path := do
    return (← FileFault.catching (IO.FS.Handle.mk (path ++ "/.") .read)).isOk
  makeDirectory path := FileFault.catching (IO.FS.createDir path)
  draft directory content := FileFault.catching (draftFile directory content)
  place draft path := FileFault.catching (IO.FS.rename draft path)
  discard draft := do
    let _ ← (IO.FS.removeFile draft).toBaseIO
  directory := FileFault.catching do return toString (← IO.currentDir)
  input := FileFault.catching do (← IO.getStdin).readBinToEnd
  print text := FileFault.catching do
    let output ← IO.getStdout
    output.putStr text
    output.flush

/-- How to use the program. -/
def frontPage : String :=
  "Generate HTTP handler registration code and OpenAPI documents from a route IR\n\n" ++
    "Usage: routespec [OPTIONS] <COMMAND>\n\n" ++
    "Commands:\n" ++
    "  render   Render registration code\n" ++
    "  openapi  Render the OpenAPI document\n" ++
    "  symbols  Print allocated import and receiver identifiers as JSON\n" ++
    "  schema   Print the JSON Schema of routespec.yaml\n" ++
    "  help     Print this message or the help of the given subcommand(s)\n\n" ++
    "Options:\n" ++
    "  -v, --verbose...  Raise log verbosity (-v debug, -vv trace); RUST_LOG overrides\n" ++
    "  -h, --help        Print help\n" ++
    "  -V, --version     Print version"

end RouteAtlas

/-- Run the program and report what goes wrong. -/
def main (words : List String) : IO UInt32 := do
  let outcome : RouteAtlas.Outcome ← RouteAtlas.CommandLine.run words
  if outcome = .help then
    IO.println RouteAtlas.frontPage
  match outcome.report? with
  | some report => IO.eprintln report
  | none => pure ()
  return outcome.code.toUInt32

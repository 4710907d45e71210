/-
Module: RouteAtlas.CommandLine.Run
Purpose: Doing what a command line asks for.
Main exports: Command.run, Outcome, CommandLine.run
-/
import RouteAtlas.CommandLine.Arguments
import RouteAtlas.Generation.Artifacts
import RouteAtlas.Json.Printer
import RouteAtlas.PathNode.Load
import RouteAtlas.Settings.Schema
import RouteAtlas.Symbols.Dump

namespace RouteAtlas

open FileSystem (attempt)

variable {m : Type → Type} [Monad m] [FileSystem m]

/-- The settings with the overrides in place of their values. -/
def OpenApiOverrides.apply (overrides : OpenApiOverrides)
    (settings : OpenApiSettings) : OpenApiSettings where
  enabled := settings.enabled
  output := overrides.output.or settings.output
  title := overrides.title.getD settings.title
  version := overrides.version.getD settings.version
  serverUrl := overrides.serverUrl.getD settings.serverUrl

namespace Command

/-- Whether a path stands for standard input. -/
def isInput (path : String) : Bool :=
  !FilePath.isAbsolute path && FilePath.parts path == ["-"]

/-- The tree in a file or in standard input.  A fault of the text names the
path. -/
def loadTree (path : String) : ExceptT Error m PathNode := do
  let text ← attempt <|
    if isInput path then FileSystem.inputText else FileSystem.readText path
  match PathNode.load text with
  | .ok tree => return tree
  | .error fault => throw (.duringOn "load ir" path (.json fault))

/-- The settings in the file that is named, else in that of the current
directory, else the standard ones. -/
def loadSettings (path : Option String) : ExceptT Error m Settings := do
  match path with
  | some path => Settings.load path
  | none =>
      let directory ← attempt (FileSystem.directory : m (Except FileFault String))
      return (← Settings.loadFrom directory).getD {}

/-- Do what a command says. -/
def run : Command → ExceptT Error m Unit
  | .render tree settings template output => do
      let tree ← loadTree tree
      let given := (← loadSettings settings).registration
      let registration :=
        { given with
          template := template.or given.template
          output := output.or given.output }
      let text ← registration.generate tree
      attempt (FileSystem.writeOutput registration.output text)
  | .openapi tree settings overrides => do
      let tree ← loadTree tree
      let openapi := overrides.apply (← loadSettings settings).openapi
      attempt (FileSystem.writeOutput openapi.output (openapi.generate tree))
  | .symbols tree => do
      let tree ← loadTree tree
      let text := (SymbolTable.allocate tree).toJson.pretty ++ "\n"
      attempt (FileSystem.writeOutput none text)
  | .schema =>
      attempt (FileSystem.writeOutput none (Settings.schema.pretty ++ "\n"))

end Command

/-- How a run ends. -/
inductive Outcome where
  | success
  | failure (error : Error)
  /-- The words on the command line make no sense. -/
  | usage
  /-- The words ask how to use the program. -/
  | help
deriving Repr, DecidableEq

namespace Outcome

/-- The exit code. -/
def code : Outcome → Nat
  | .success => 0
  | .failure _ => 1
  | .usage => 2
  | .help => 0

/-- The outcome of what may fail. -/
def ofResult : Except Error Unit → Outcome
  | .ok _ => .success
  | .error error => .failure error

/-- What is reported of an error. -/
def report? : Outcome → Option String
  | .failure error => some ("Error: " ++ error.message)
  | _ => none

end Outcome

namespace CommandLine

/-- The name and version of the program. -/
def versionText : String := "routespec 0.1.0\n"

/-- Do what the words of a command line ask for.  The version is printed; the help is left to
the program around this. -/
def run (words : List String) : m Outcome := do
  match Command.parse words with
  | .ok command => return .ofResult (← command.run.run)
  | .error .usage => return .usage
  | .error .help => return .help
  | .error .version =>
      return .ofResult (← (attempt (FileSystem.print versionText)).run)

end CommandLine

end RouteAtlas

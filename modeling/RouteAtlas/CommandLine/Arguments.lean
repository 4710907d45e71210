/-
Module: RouteAtlas.CommandLine.Arguments
Purpose: What the words of a command line ask for.
Main exports: Command, OpenApiOverrides, Halt, Command.parse
-/
import RouteAtlas.Text.Split

namespace RouteAtlas

/-- Values that stand in place of those in the settings of a document. -/
structure OpenApiOverrides where
  title : Option String := none
  version : Option String := none
  serverUrl : Option String := none
  output : Option String := none
deriving Repr, DecidableEq, Inhabited

/-- What can be done.  All but the last need the path of a tree. -/
inductive Command where
  | render (tree : String) (settings template output : Option String)
  | openapi (tree : String) (settings : Option String)
      (overrides : OpenApiOverrides)
  | symbols (tree : String)
  /-- Print the schema of settings files. -/
  | schema
deriving Repr, DecidableEq

/-- Why the words are not read to their end. -/
inductive Halt where
  /-- They make no sense. -/
  | usage
  | help
  | version
deriving Repr, DecidableEq

namespace CommandLine

/-- An option that has a value. -/
structure ValueOption where
  long : String
  short : Option Char := none
  /-- Whether the value may be empty. -/
  mayBeEmpty : Bool := false
deriving Repr, DecidableEq

/-- The values of options, under their long names. -/
abbrev Given := List (String × String)

/-- The values with one more.  An option has at most one. -/
def ValueOption.give (option : ValueOption) (value : String) (given : Given) :
    Except Halt Given :=
  if value = "" ∧ !option.mayBeEmpty then .error .usage
  else if (given.lookup option.long).isSome then .error .usage
  else .ok ((option.long, value) :: given)

/-- The name of an option written with two dashes, and the value that follows
an equals sign. -/
def splitLong (chars : List Char) : String × Option String :=
  match Text.breakAt '=' chars with
  | some (name, value) => (String.ofList name, some (String.ofList value))
  | none => (String.ofList chars, none)

/-- Whether a word can be the value of the option before it. -/
def isValue (word : String) : Bool :=
  match word.toList with
  | '-' :: _ :: _ => false
  | _ => true

/-- Options of one letter, written together after a single dash.  The first
one that has a value ends them; the rest of the word is its value, perhaps
after an equals sign, and otherwise the next word. -/
def readLetters (options : List ValueOption) :
    List Char → Except Halt (Option (ValueOption × Option String))
  | [] => .ok none
  | 'v' :: rest => readLetters options rest
  | 'h' :: _ => .error .help
  | c :: rest =>
      match options.find? fun option => option.short == some c with
      | none => .error .usage
      | some option =>
          match rest with
          | [] => .ok (some (option, none))
          | '=' :: value => .ok (some (option, some (String.ofList value)))
          | value => .ok (some (option, some (String.ofList value)))

/-- An option with two dashes; `none` for one that only asks for more
messages. -/
def readLong (options : List ValueOption) (chars : List Char) :
    Except Halt (Option (ValueOption × Option String)) :=
  match splitLong chars with
  | ("verbose", none) => .ok none
  | ("help", none) => .error .help
  | (name, value) =>
      match options.find? (·.long == name) with
      | some option => .ok (some (option, value))
      | none => .error .usage

/-- The option that a word is.  Words that are none have no place here. -/
def readWord (options : List ValueOption) (word : String) :
    Except Halt (Option (ValueOption × Option String)) :=
  match word.toList with
  | '-' :: '-' :: rest => readLong options rest
  | '-' :: c :: rest => readLetters options (c :: rest)
  | _ => .error .usage

/-- The values of options among words. -/
def readOptions (options : List ValueOption) (given : Given) :
    List String → Except Halt Given
  | [] => .ok given
  | ["--"] => .ok given
  | word :: rest =>
      match readWord options word with
      | .error halt => .error halt
      | .ok none => readOptions options given rest
      | .ok (some (option, some value)) => do
          let given ← option.give value given
          readOptions options given rest
      | .ok (some (option, none)) =>
          match rest with
          | [] => .error .usage
          | value :: rest =>
              if isValue value then do
                let given ← option.give value given
                readOptions options given rest
              else
                .error .usage

end CommandLine

namespace Command

open CommandLine (ValueOption Given readOptions splitLong)

/-- The option for the tree, which must be given. -/
def treeOption : ValueOption := { long := "ir" }

/-- The option for the settings file. -/
def settingsOption : ValueOption := { long := "config", short := some 'c' }

/-- The option for the output file. -/
def outputOption : ValueOption := { long := "output", short := some 'o' }

/-- The options of rendering registration code. -/
def renderOptions : List ValueOption :=
  [treeOption, settingsOption, { long := "template", short := some 't' },
    outputOption]

/-- The options of rendering an OpenAPI document. -/
def openapiOptions : List ValueOption :=
  [treeOption, settingsOption, { long := "title", mayBeEmpty := true },
    { long := "api-version", mayBeEmpty := true },
    { long := "server-url", mayBeEmpty := true }, outputOption]

/-- The path of the tree. -/
def treeOf (given : Given) : Except Halt String :=
  match given.lookup treeOption.long with
  | some tree => .ok tree
  | none => .error .usage

/-- The command of a name with the words after it. -/
def parseNamed (name : String) (words : List String) : Except Halt Command :=
  match name with
  | "render" => do
      let given ← readOptions renderOptions [] words
      let tree ← treeOf given
      return .render tree (given.lookup "config") (given.lookup "template")
        (given.lookup "output")
  | "openapi" => do
      let given ← readOptions openapiOptions [] words
      let tree ← treeOf given
      return .openapi tree (given.lookup "config")
        { title := given.lookup "title"
          version := given.lookup "api-version"
          serverUrl := given.lookup "server-url"
          output := given.lookup "output" }
  | "symbols" => do
      let given ← readOptions [treeOption] [] words
      return .symbols (← treeOf given)
  | "schema" => do
      let _ ← readOptions [] [] words
      return .schema
  | _ => throw .usage

/-- The names of commands. -/
def names : List String := ["render", "openapi", "symbols", "schema", "help"]

/-- The letters that stand together in front of a command. -/
def readFrontLetters : List Char → Except Halt Unit
  | [] => .ok ()
  | 'v' :: rest => readFrontLetters rest
  | 'V' :: _ => .error .version
  | 'h' :: _ => .error .help
  | _ => .error .usage

/-- The command that words ask for.  Options in front of it only ask for more
messages. -/
def parse : List String → Except Halt Command
  | [] => .error .usage
  | word :: rest =>
      match word.toList with
      | ['-', '-'] => .error .usage
      | '-' :: '-' :: name =>
          match splitLong name with
          | ("verbose", none) => parse rest
          | ("version", none) => .error .version
          | ("help", none) => .error .help
          | _ => .error .usage
      | '-' :: c :: letters =>
          match readFrontLetters (c :: letters) with
          | .ok _ => parse rest
          | .error halt => .error halt
      | _ =>
          if word = "help" then
            match rest with
            | [] => .error .help
            | [name] => .error (if names.contains name then .help else .usage)
            | _ => .error .usage
          else
            parseNamed word rest

end Command

end RouteAtlas

/-
Module: RouteAtlas.Files.Path
Purpose: The parts of a file path.
Main exports: FilePath.parts, FilePath.parent?, FilePath.name?, FilePath.join
-/
import RouteAtlas.Text.Split

namespace RouteAtlas.FilePath

/-- Whether a path starts at the root. -/
def isAbsolute (path : String) : Bool :=
  path.toList.head? == some '/'

/-- The parts of a path that lead somewhere.  Empty ones do not count, nor do
single dots except in front. -/
def parts (path : String) : List String :=
  match Text.splitText '/' path with
  | [] => []
  | first :: rest =>
      let rest := rest.filter fun part => part != "" && part != "."
      if first = "" then rest else first :: rest

/-- The path of given parts. -/
def ofParts (absolute : Bool) (parts : List String) : String :=
  (if absolute then "/" else "") ++ Text.joinTexts "/" parts

/-- The path without its last part. -/
def parent? (path : String) : Option String :=
  match parts path with
  | [] => none
  | parts => some (ofParts (isAbsolute path) parts.dropLast)

/-- The last part of a path, if it is a name. -/
def name? (path : String) : Option String :=
  (parts path).getLast?.filter fun part => part != "." && part != ".."

/-- The path of a name in a directory. -/
def join (directory name : String) : String :=
  if directory = "" then name
  else if directory.toList.getLast? == some '/' then directory ++ name
  else directory ++ "/" ++ name

end RouteAtlas.FilePath

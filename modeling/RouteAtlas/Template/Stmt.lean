/-
Module: RouteAtlas.Template.Stmt
Purpose: Template statements and how they are put together from segments.
Main exports: Template.Stmt, Template.parse?
-/
import RouteAtlas.Template.Expr
import RouteAtlas.Template.Lexer

namespace RouteAtlas.Template

/-- A statement.  Macros, inclusion, inheritance, blocks that are given a name, a scope or a
filter of their own, and repetitions that take items apart, leave some out or call themselves are
left out; they are not read at all. -/
inductive Stmt where
  | text (text : String)
  | emit (value : Expr)
  | choose (test : Expr) (yes no : List Stmt)
  /-- Repeat a body for every item, or do something else without items. -/
  | each (name : String) (items : Expr) (body otherwise : List Stmt)
  | assign (name : String) (value : Expr)
deriving Repr, Inhabited

/-- What a statement tag says. -/
inductive BlockTag where
  | branch (test : Expr)
  | elseBranch (test : Expr)
  | otherwise
  | endBranch
  | each (name : String) (items : Expr)
  | endEach
  | assign (name : String) (value : Expr)
deriving Repr

/-- Names that cannot be given a value. -/
def reservedNames : List String :=
  ["true", "True", "false", "False", "none", "None", "loop", "self"]

namespace BlockTag

/-- A name that can be given a value. -/
def target? (name : String) : Option String :=
  if reservedNames.contains name then none else some name

/-- The meaning of the tokens of a statement tag. -/
def parse? : List Token → Option BlockTag
  | [.name "else"] => some .otherwise
  | [.name "endif"] => some .endBranch
  | [.name "endfor"] => some .endEach
  | .name "if" :: rest => (Expr.parse? rest).map .branch
  | .name "elif" :: rest => (Expr.parse? rest).map .elseBranch
  | .name "for" :: .name name :: .name "in" :: rest => do
      let name ← target? name
      let items ← Expr.parse? rest
      return .each name items
  | .name "set" :: .name name :: .mark '=' :: rest => do
      let name ← target? name
      let value ← Expr.parse? rest
      return .assign name value
  | _ => none

end BlockTag

/-- A statement whose end has not been met.  `earlier` has the statements
before it, last one first. -/
inductive Unfinished where
  | yes (earlier : List Stmt) (test : Expr)
  /-- The alternative of a choice; a chained one consists of another choice
  that ends at the same tag. -/
  | no (earlier : List Stmt) (test : Expr) (yes : List Stmt) (chained : Bool)
  | body (earlier : List Stmt) (name : String) (items : Expr)
  | otherwise (earlier : List Stmt) (name : String) (items : Expr)
      (body : List Stmt)
deriving Repr

/-- The innermost unfinished statement comes first. -/
abbrev Unfinished.Stack := List Unfinished

namespace Unfinished.Stack

/-- End every choice that consists of the choice just ended. -/
def endChained : Stack → List Stmt → Stack × List Stmt
  | .no earlier test first true :: stack, done =>
      endChained stack (.choose test first done.reverse :: earlier)
  | stack, done => (stack, done)

/-- End the innermost choice, given the statements of its last part. -/
def endBranch? : Stack → List Stmt → Option (Stack × List Stmt)
  | .yes earlier test :: stack, last =>
      some (endChained stack (.choose test last [] :: earlier))
  | .no earlier test first false :: stack, last =>
      some (endChained stack (.choose test first last :: earlier))
  | _, _ => none

/-- End the innermost repetition, given the statements of its last part. -/
def endEach? : Stack → List Stmt → Option (Stack × List Stmt)
  | .body earlier name items :: stack, last =>
      some (stack, .each name items last [] :: earlier)
  | .otherwise earlier name items first :: stack, last =>
      some (stack, .each name items first last :: earlier)
  | _, _ => none

/-- Begin the alternative of the innermost statement, given the statements of
its first part. -/
def otherwise? : Stack → List Stmt → Option Stack
  | .yes earlier test :: stack, first =>
      some (.no earlier test first false :: stack)
  | .body earlier name items :: stack, first =>
      some (.otherwise earlier name items first :: stack)
  | _, _ => none

/-- Begin a choice as the alternative of the innermost choice. -/
def elseBranch? (next : Expr) : Stack → List Stmt → Option Stack
  | .yes earlier test :: stack, first =>
      some (.yes [] next :: .no earlier test first true :: stack)
  | _, _ => none

end Unfinished.Stack

open Unfinished in
/-- Put statements together.  `done` has the statements of the innermost
unfinished part, last one first. -/
def assemble? : List Segment → Stack → List Stmt → Option (List Stmt)
  | [], [], done => some done.reverse
  | [], _ :: _, _ => none
  | .text text :: rest, stack, done => assemble? rest stack (.text text :: done)
  | .tag .value tokens :: rest, stack, done => do
      let value ← Expr.parse? tokens
      assemble? rest stack (.emit value :: done)
  | .tag .block tokens :: rest, stack, done => do
      match ← BlockTag.parse? tokens with
      | .branch test => assemble? rest (.yes done test :: stack) []
      | .elseBranch test =>
          let stack ← stack.elseBranch? test done.reverse
          assemble? rest stack []
      | .otherwise =>
          let stack ← stack.otherwise? done.reverse
          assemble? rest stack []
      | .endBranch =>
          let (stack, done) ← stack.endBranch? done.reverse
          assemble? rest stack done
      | .each name items => assemble? rest (.body done name items :: stack) []
      | .endEach =>
          let (stack, done) ← stack.endEach? done.reverse
          assemble? rest stack done
      | .assign name value => assemble? rest stack (.assign name value :: done)

/-- The statements of a template source. -/
def parse? (source : String) : Option (List Stmt) := do
  let segments ← segments? source
  assemble? segments [] []

end RouteAtlas.Template

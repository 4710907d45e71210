/-
Module: RouteAtlas.Template.Run
Purpose: The meaning of expressions and statements.
Main exports: Template.Scope, Template.Expr.eval, Template.Stmt.run
-/
import RouteAtlas.Template.Filter
import RouteAtlas.Template.Stmt

namespace RouteAtlas.Template

/-- The names known at one level: those that were given a value, and those of
a repetition. -/
structure Frame where
  locals : List (String × Value)
  /-- What is known about the repetition this level belongs to. -/
  loop : Option Json
deriving Inhabited

/-- The names known at some place: the innermost level, the levels around it,
and the context of the template. -/
structure Scope where
  inner : Frame
  outer : List Frame
  context : Json
deriving Inhabited

namespace Frame

/-- A name at one level. -/
def find? (name : String) (frame : Frame) : Option Value :=
  match frame.locals.lookup name with
  | some value => some value
  | none =>
      match frame.loop with
      | some loop => if name = "loop" then some (some loop) else none
      | none => none

end Frame

namespace Scope

/-- The scope at the start of a template. -/
def start (context : Json) : Scope := ⟨⟨[], none⟩, [], context⟩

/-- The value of a name: that of the innermost level that knows it. -/
def find (name : String) (scope : Scope) : Value :=
  match (scope.inner :: scope.outer).findSome? (Frame.find? name) with
  | some value => value
  | none => attributeOf name scope.context

/-- Give a name a value at the innermost level. -/
def assign (name : String) (value : Value) (scope : Scope) : Scope :=
  { scope with
    inner := { scope.inner with locals := (name, value) :: scope.inner.locals } }

/-- Open a level. -/
def enter (scope : Scope) : Scope :=
  ⟨⟨[], none⟩, scope.inner :: scope.outer, scope.context⟩

/-- Close the innermost level. -/
def leave (scope : Scope) : Scope :=
  match scope.outer with
  | [] => scope
  | frame :: rest => ⟨frame, rest, scope.context⟩

/-- Begin a round of a repetition. -/
def beginRound (name : String) (item loop : Json) (scope : Scope) : Scope :=
  { scope with
    inner := ⟨(name, some item) :: scope.inner.locals, some loop⟩ }

end Scope

/-- What a template knows about a repetition in the round with the given
index. -/
def loopInfo (index length : Nat) : Json :=
  .object
    [("index", .int (index + 1)), ("index0", .int index),
      ("revindex", .int (length - index : Nat)),
      ("revindex0", .int (length - index - 1 : Nat)),
      ("first", .bool (index == 0)), ("last", .bool (index + 1 == length)),
      ("length", .int length)]

/-- A value that must be defined. -/
def defined (value : Value) : Except RenderFault Json :=
  match value with
  | some value => .ok value
  | none => .error .undefined

/-- The text of a value in a concatenation. -/
def printValue : Value → String
  | some value => print value
  | none => ""

namespace Operator

/-- An operator whose operands have values.  The first operand of `and` and of
`or` must be defined and decides whether the other one counts. -/
def apply (operator : Operator) (left : Value) (right : Except RenderFault Value) :
    Except RenderFault Value :=
  match operator with
  | .or => do
      let first ← defined left
      if isTrue first then return some first else right
  | .and => do
      let first ← defined left
      if isTrue first then right else return some first
  | .equal => do
      let other ← right
      return some (.bool (sameValue left other))
  | .differ => do
      let other ← right
      return some (.bool (!sameValue left other))
  | .concat => do
      let other ← right
      return some (.string (printValue left ++ printValue other))

end Operator

namespace Expr

mutual

/-- The value of an expression.  A part of something undefined cannot be asked
for, and neither can its truth. -/
def eval (scope : Scope) : Expr → Except RenderFault Value
  | .literal value => .ok (some value)
  | .variable name => .ok (scope.find name)
  | .attribute target name => do
      let value ← eval scope target
      let value ← defined value
      return attributeOf name value
  | .item target index => do
      let value ← eval scope target
      let index ← eval scope index
      let value ← defined value
      let index ← defined index
      return itemOf index value
  | .negation operand => do
      let value ← eval scope operand
      let value ← defined value
      return some (.bool (!isTrue value))
  | .binary operator left right => do
      let first ← eval scope left
      operator.apply first (eval scope right)
  | .filter name target arguments => do
      let value ← eval scope target
      let value ← defined value
      let arguments ← evalAll scope arguments
      let result ← applyFilter name value arguments
      return some result

/-- The values of arguments. -/
def evalAll (scope : Scope) : List Expr → Except RenderFault (List Json)
  | [] => .ok []
  | first :: rest => do
      let value ← eval scope first
      let value ← defined value
      let others ← evalAll scope rest
      return value :: others

end

/-- The value of an expression that must be defined. -/
def force (scope : Scope) (expr : Expr) : Except RenderFault Json := do
  let value ← expr.eval scope
  defined value

end Expr

/-- What running statements leads to: everything written so far, and the scope
unless there was a fault. -/
abbrev Outcome := String × Except RenderFault Scope

/-- Run a step for every item, one round after another. -/
def eachRound (step : Nat → Json → Scope → String → Outcome) :
    Nat → List Json → Scope → String → Outcome
  | _, [], scope, written => (written, .ok scope)
  | index, item :: rest, scope, written =>
      match step index item scope written with
      | (written, .ok scope) => eachRound step (index + 1) rest scope written
      | stopped => stopped

/-- Close the level that a repetition opened. -/
def leaveLevel : Outcome → Outcome
  | (written, .ok scope) => (written, .ok scope.leave)
  | stopped => stopped

namespace Stmt

mutual

/-- Run a statement after something was written. -/
def run : Stmt → Scope → String → Outcome
  | .text piece, scope, written => (written ++ piece, .ok scope)
  | .emit value, scope, written =>
      match value.force scope with
      | .error fault => (written, .error fault)
      | .ok value => (written ++ print value, .ok scope)
  | .choose test yes no, scope, written =>
      match test.force scope with
      | .error fault => (written, .error fault)
      | .ok value =>
          if isTrue value then runAll yes scope written
          else runAll no scope written
  | .each name items body otherwise, scope, written =>
      match items.force scope with
      | .error fault => (written, .error fault)
      | .ok value =>
          match itemsOf? value with
          | none => (written, .error .notIterable)
          | some [] => runAll otherwise scope written
          | some items =>
              leaveLevel <| eachRound
                (fun index item scope written =>
                  runAll body
                    (scope.beginRound name item (loopInfo index items.length))
                    written)
                0 items scope.enter written
  | .assign name value, scope, written =>
      match value.eval scope with
      | .error fault => (written, .error fault)
      | .ok value => (written, .ok (scope.assign name value))

/-- Run statements one after another. -/
def runAll : List Stmt → Scope → String → Outcome
  | [], scope, written => (written, .ok scope)
  | stmt :: rest, scope, written =>
      match run stmt scope written with
      | (written, .ok scope) => runAll rest scope written
      | stopped => stopped

end

end Stmt

end RouteAtlas.Template

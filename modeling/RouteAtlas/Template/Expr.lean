/-
Module: RouteAtlas.Template.Expr
Purpose: Template expressions and how they are read from tokens.
Main exports: Template.Expr, Template.Expr.parse?
-/
import RouteAtlas.Json.Value
import RouteAtlas.Template.Token

namespace RouteAtlas.Template

/-- An operator between two expressions. -/
inductive Operator where
  | or
  | and
  | equal
  | differ
  | concat
deriving Repr, DecidableEq

/-- An expression.  This is the part of the template language that templates of registration
code need.  Orders, arithmetic, tests, memberships, conditional expressions, slices, calls, named
arguments, and literals of lists, maps and fractions are left out; they are not read at all. -/
inductive Expr where
  | literal (value : Json)
  | variable (name : String)
  | attribute (target : Expr) (name : String)
  | item (target index : Expr)
  | negation (operand : Expr)
  | binary (operator : Operator) (left right : Expr)
  | filter (name : String) (target : Expr) (arguments : List Expr)
deriving Repr, Inhabited

namespace Operator

/-- How tightly an operator binds.  A negation has level 2. -/
def level : Operator → Nat
  | .or => 0
  | .and => 1
  | .equal | .differ => 3
  | .concat => 4

/-- The operator that a token stands for. -/
def ofToken? : Token → Option Operator
  | .name text =>
      if text = "or" then some .or
      else if text = "and" then some .and
      else none
  | .equal => some .equal
  | .differ => some .differ
  | .mark c => if c = '~' then some .concat else none
  | _ => none

end Operator

namespace Expr

/-- The level of negations. -/
def negationLevel : Nat := 2

/-- The level at which there are no operators left. -/
def operandLevel : Nat := 5

/-- What a name by itself stands for. -/
def ofName (name : String) : Expr :=
  if name = "true" ∨ name = "True" then .literal (.bool true)
  else if name = "false" ∨ name = "False" then .literal (.bool false)
  else if name = "none" ∨ name = "None" then .literal .null
  else .variable name

/-!
Operators of one level associate to the left.  Attributes, items and filters
bind most tightly, and filters come last.  Every function takes the tokens and
gives back those it leaves; the first argument bounds the depth of the calls.
-/

mutual

/-- An expression with operators of at least the given level. -/
def parseLevel : Nat → Nat → List Token → Option (Expr × List Token)
  | 0, _, _ => none
  | fuel + 1, level, tokens =>
      if level ≥ operandLevel then
        parseOperand fuel tokens
      else if level = negationLevel then
        match tokens with
        | .name "not" :: rest => do
            let (operand, rest) ← parseLevel fuel level rest
            return (.negation operand, rest)
        | tokens => parseLevel fuel (level + 1) tokens
      else do
        let (left, rest) ← parseLevel fuel (level + 1) tokens
        parseRight fuel level left rest

/-- What follows an operand of operators of the given level. -/
def parseRight : Nat → Nat → Expr → List Token → Option (Expr × List Token)
  | 0, _, _, _ => none
  | _ + 1, _, left, [] => some (left, [])
  | fuel + 1, level, left, token :: rest =>
      match Operator.ofToken? token with
      | none => some (left, token :: rest)
      | some operator =>
          if operator.level = level then do
            let (right, rest) ← parseLevel fuel (level + 1) rest
            parseRight fuel level (.binary operator left right) rest
          else
            some (left, token :: rest)

/-- An operand with what is attached to it. -/
def parseOperand : Nat → List Token → Option (Expr × List Token)
  | 0, _ => none
  | fuel + 1, tokens => do
      let (base, rest) ← parsePrimary fuel tokens
      let (target, rest) ← parseAccess fuel base rest
      parseFilters fuel target rest

/-- A name, a literal or an expression in parentheses. -/
def parsePrimary : Nat → List Token → Option (Expr × List Token)
  | 0, _ => none
  | _ + 1, .name text :: rest => some (ofName text, rest)
  | _ + 1, .string text :: rest => some (.literal (.string text), rest)
  | _ + 1, .number value :: rest => some (.literal (.int value), rest)
  | fuel + 1, .mark '(' :: rest => do
      let (inner, rest) ← parseLevel fuel 0 rest
      match rest with
      | .mark ')' :: rest => some (inner, rest)
      | _ => none
  | _ + 1, _ => none

/-- Attributes and items of a value. -/
def parseAccess : Nat → Expr → List Token → Option (Expr × List Token)
  | 0, _, _ => none
  | fuel + 1, target, .mark '.' :: rest =>
      match rest with
      | .name text :: rest => parseAccess fuel (.attribute target text) rest
      | _ => none
  | fuel + 1, target, .mark '[' :: rest => do
      let (index, rest) ← parseLevel fuel 0 rest
      match rest with
      | .mark ']' :: rest => parseAccess fuel (.item target index) rest
      | _ => none
  | _ + 1, target, rest => some (target, rest)

/-- Filters applied to a value. -/
def parseFilters : Nat → Expr → List Token → Option (Expr × List Token)
  | 0, _, _ => none
  | fuel + 1, target, .mark '|' :: rest =>
      match rest with
      | .name name :: .mark '(' :: rest => do
          let (arguments, rest) ← parseArguments fuel rest
          parseFilters fuel (.filter name target arguments) rest
      | .name name :: rest => parseFilters fuel (.filter name target []) rest
      | _ => none
  | _ + 1, target, rest => some (target, rest)

/-- Arguments up to the closing parenthesis. -/
def parseArguments : Nat → List Token → Option (List Expr × List Token)
  | 0, _ => none
  | _ + 1, .mark ')' :: rest => some ([], rest)
  | fuel + 1, tokens => do
      let (first, rest) ← parseLevel fuel 0 tokens
      match rest with
      | .mark ',' :: rest =>
          let (others, rest) ← parseArguments fuel rest
          some (first :: others, rest)
      | .mark ')' :: rest => some ([first], rest)
      | _ => none

end

/-- The expression that is made of all the given tokens.  Between two tokens
there are fewer calls than levels and kinds of operands. -/
def parse? (tokens : List Token) : Option Expr :=
  match parseLevel (12 * (tokens.length + 1)) 0 tokens with
  | some (expr, []) => some expr
  | _ => none

end Expr

end RouteAtlas.Template

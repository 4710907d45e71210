/-
Module: RouteAtlas.Proofs.EmbeddedTemplate
Purpose: The statements of the registration template that comes with the library.
Main exports: Template.Embedded.stmts, Template.Embedded.parse?_source
-/
import Mathlib.Data.List.Forall2
import RouteAtlas.Template.Embedded
import RouteAtlas.Template.Stmt

namespace RouteAtlas.Template

/-! ## Lines -/

/-- A line consists of the given characters. -/
def Spells (line : String) (chars : List Char) : Prop :=
  line = String.ofList chars

/-- What is parsed of lines can be told from their characters. -/
theorem parse?_lines {lines : List String} {chars : List (List Char)}
    (spelled : List.Forall₂ Spells lines chars) :
    parse? (String.join (lines.map fun line => line ++ "\n")) =
      (((chars.flatMap fun line => line ++ ['\n']).foldlM Lexer.step .start).bind
        Lexer.finish?).bind fun segments => assemble? segments [] [] := by
  have same : (String.join (lines.map fun line => line ++ "\n")).toList =
      chars.flatMap fun line => line ++ ['\n'] := by
    induction spelled with
    | nil => rfl
    | cons first _ ih =>
        rw [List.map_cons, String.join_cons, String.toList_append, ih, List.flatMap_cons,
          String.toList_append, first, String.toList_ofList]
        rfl
  rw [parse?, segments?, same]
  rfl

/-! ## Statements -/

namespace Embedded

/-- A part of the item of a repetition. -/
def part (item name : String) : Expr := .attribute (.variable item) name

def quoted (expr : Expr) : Expr := .filter "quote" expr []

/-- What is repeated for an import without an alias. -/
def setupImport : List Stmt :=
  [.text "\t", .emit (quoted (.variable "imp")), .text "\n"]

def importLine : List Stmt :=
  [.text "\t", .emit (part "imp" "ident"), .text " ",
    .emit (quoted (part "imp" "import")), .text "\n"]

def receiverLine : List Stmt :=
  [.text "\t", .emit (part "r" "ident"), .text " ",
    .emit (.filter "pointer" (part "r" "pointer") []), .emit (part "r" "import_ident"),
    .text ".", .emit (part "r" "name"), .text ",\n"]

def middlewareLine : List Stmt :=
  [.text "\t\t", .emit (.variable "mw"), .text ",\n"]

def requestLine : List Stmt :=
  [.text "\t\t\tbody.", .emit (part "p" "name"), .text " = ", .emit (part "p" "accessor"),
    .text "(", .emit (quoted (part "p" "wire_name")), .text ")\n"]

def responseLine : List Stmt :=
  [.text "\t\t\t", .emit (part "p" "accessor"), .text "(",
    .emit (quoted (part "p" "wire_name")), .text ", res.", .emit (part "p" "name"),
    .text ")\n"]

def descriptionComment : Stmt :=
  .choose (part "ep" "description")
    [.text "\t// ", .emit (part "ep" "description"), .text "\n"] []

def authorizationComment : Stmt :=
  .choose (part "ep" "authorization")
    [.text "\t// authorization: ",
      .emit (.filter "join" (part "ep" "authorization") [.literal (.string ", ")]),
      .text "\n"] []

def bodyParser : Stmt :=
  .choose (.negation (part "ep" "is_get"))
    [.text <|
      "\t\t\tif err := c.BodyParser(body); err != nil \x7b\n" ++
      "\t\t\t\treturn c.Status(fiber.StatusBadRequest)" ++
      ".JSON(struct\x7b Err string \x7d\x7bErr: \"Bad request\"\x7d)\n" ++
      "\t\t\t\x7d\n"] []

def endpoint : List Stmt :=
  [descriptionComment, authorizationComment,
    .text "\tapp.", .emit (part "ep" "method_ident"), .text ("(\n" ++ "\t\t"),
    .emit (quoted (part "ep" "path")), .text ",\n",
    .each "mw" (part "ep" "middleware") middlewareLine [],
    .text <|
      "\t\tfunc(c *fiber.Ctx) error \x7b\n" ++
      "\t\t\tbody := &",
    .emit (part "ep" "body_type"), .text "\x7b\x7d\n",
    bodyParser,
    .each "p" (part "ep" "request_params") requestLine [],
    .text <|
      "\n" ++
      "\t\t\tif err := v.Struct(body); err != nil \x7b\n" ++
      "\t\t\t\treturn c.Status(fiber.StatusBadRequest)" ++
      ".JSON(struct\x7b Err string \x7d\x7bErr: \"Validation failed\"\x7d)\n" ++
      "\t\t\t\x7d\n" ++
      "\n" ++
      "\t\t\tres, err := ",
    .emit (part "ep" "handler_ident"), .text ".", .emit (part "ep" "handler_name"),
    .text <|
      "(c.UserContext(), body)\n" ++
      "\t\t\tif err != nil \x7b\n" ++
      "\t\t\t\treturn c.Status(fiber.StatusInternalServerError)" ++
      ".JSON(struct\x7b Err string \x7d\x7bErr: \"InternalServerError\"\x7d)\n" ++
      "\t\t\t\x7d\n",
    .each "p" (part "ep" "response_params") responseLine [],
    .text <|
      "\n" ++
      "\t\t\treturn c.JSON(res)\n" ++
      "\t\t\x7d,\n" ++
      "\t)\n"]

def imports : Stmt :=
  .choose (.variable "imports")
    [.text "\n", .each "imp" (.variable "imports") importLine []] []

/-- All statements. -/
def stmts : List Stmt :=
  [.text ("// Code generated by routespec. DO NOT EDIT.\n" ++ "\n" ++ "package "),
    .emit (.variable "package"),
    .text ("\n" ++ "\n" ++ "import (\n"),
    .each "imp" (.variable "setup_imports") setupImport [],
    imports,
    .text <|
      ")\n" ++
      "\n" ++
      "func RegisterHandlers(\n" ++
      "\tapp *fiber.App,\n" ++
      "\tv *validator.Validate,\n",
    .each "r" (.variable "receivers") receiverLine [],
    .text ") \x7b\n",
    .each "ep" (.variable "endpoints") endpoint [],
    .text "\x7d\n"]

set_option maxRecDepth 100000 in
theorem parse?_source : parse? embeddedSource = some stmts := by
  apply Eq.trans
  · apply parse?_lines
    -- Unification finds the characters of a line, which the kernel reads faster than it.
    unfold embeddedLines
    dsimp only
    repeat
      apply List.Forall₂.cons
      · exact rfl
    exact .nil
  · simp only [stmts, imports, endpoint, bodyParser, String.reduceAppend]
    rfl

end Embedded

end RouteAtlas.Template

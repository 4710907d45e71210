/-
Module: RouteAtlas.Proofs.RegistrationCode
Purpose: The registration code of a context, line by line, and that the template which
  comes with the library is rendered to it.
Main exports: RegistrationContext.code, RegistrationContext.rendered,
  RegistrationContext.render_embedded
-/
import RouteAtlas.Proofs.EmbeddedTemplate
import RouteAtlas.Proofs.TemplateExecution
import RouteAtlas.Registration.Renderer

namespace RouteAtlas

open Template (quote Scope)

/-! ## Code -/

def ImportView.code (view : ImportView) : String :=
  "\t" ++ view.ident ++ " " ++ quote view.importPath ++ "\n"

def ReceiverView.code (view : ReceiverView) : String :=
  "\t" ++ view.ident ++ " " ++ (if view.key.pointer then "*" else "") ++ view.importIdent ++
    "." ++ view.key.name ++ ",\n"

/-- A field of the body is taken from the request. -/
def ParamView.requestCode (view : ParamView) : String :=
  "\t\t\tbody." ++ view.name ++ " = " ++ view.accessor ++ "(" ++ quote view.wireName ++ ")\n"

/-- A field of the response is put on the wire. -/
def ParamView.responseCode (view : ParamView) : String :=
  "\t\t\t" ++ view.accessor ++ "(" ++ quote view.wireName ++ ", res." ++ view.name ++ ")\n"

namespace EndpointView

def descriptionCode (view : EndpointView) : String :=
  if view.description = "" then "" else "\t// " ++ view.description ++ "\n"

def authorizationCode (view : EndpointView) : String :=
  if view.authorization = [] then ""
  else "\t// authorization: " ++ ", ".intercalate view.authorization ++ "\n"

def bodyParserCode (view : EndpointView) : String :=
  if view.isGet then ""
  else
    "\t\t\tif err := c.BodyParser(body); err != nil \x7b\n" ++
    "\t\t\t\treturn c.Status(fiber.StatusBadRequest)" ++
    ".JSON(struct\x7b Err string \x7d\x7bErr: \"Bad request\"\x7d)\n" ++
    "\t\t\t\x7d\n"

/-- The call that registers an endpoint. -/
def callCode (view : EndpointView) : String :=
  "\tapp." ++ view.methodIdent ++ "(\n" ++
  "\t\t" ++ quote view.path ++ ",\n" ++
  String.join (view.middleware.map fun call => "\t\t" ++ call ++ ",\n") ++
  "\t\tfunc(c *fiber.Ctx) error \x7b\n" ++
  "\t\t\tbody := &" ++ view.bodyType ++ "\x7b\x7d\n" ++
  view.bodyParserCode ++
  String.join (view.requestParams.map ParamView.requestCode) ++
  "\n" ++
  "\t\t\tif err := v.Struct(body); err != nil \x7b\n" ++
  "\t\t\t\treturn c.Status(fiber.StatusBadRequest)" ++
  ".JSON(struct\x7b Err string \x7d\x7bErr: \"Validation failed\"\x7d)\n" ++
  "\t\t\t\x7d\n" ++
  "\n" ++
  "\t\t\tres, err := " ++ view.handlerIdent ++ "." ++ view.handlerName ++
  "(c.UserContext(), body)\n" ++
  "\t\t\tif err != nil \x7b\n" ++
  "\t\t\t\treturn c.Status(fiber.StatusInternalServerError)" ++
  ".JSON(struct\x7b Err string \x7d\x7bErr: \"InternalServerError\"\x7d)\n" ++
  "\t\t\t\x7d\n" ++
  String.join (view.responseParams.map ParamView.responseCode) ++
  "\n" ++
  "\t\t\treturn c.JSON(res)\n" ++
  "\t\t\x7d,\n" ++
  "\t)\n"

def code (view : EndpointView) : String :=
  view.descriptionCode ++ view.authorizationCode ++ view.callCode

end EndpointView

namespace RegistrationContext

def importsCode (context : RegistrationContext) : String :=
  if context.imports = [] then ""
  else "\n" ++ String.join (context.imports.map ImportView.code)

/-- All that stands before the endpoints. -/
def headCode (context : RegistrationContext) : String :=
  "// Code generated by routespec. DO NOT EDIT.\n" ++
  "\n" ++
  "package " ++ context.package ++ "\n" ++
  "\n" ++
  "import (\n" ++
  String.join (context.setupImports.map fun path => "\t" ++ quote path ++ "\n") ++
  context.importsCode ++
  ")\n" ++
  "\n" ++
  "func RegisterHandlers(\n" ++
  "\tapp *fiber.App,\n" ++
  "\tv *validator.Validate,\n" ++
  String.join (context.receivers.map ReceiverView.code) ++
  ") \x7b\n"

/-- The whole code. -/
def code (context : RegistrationContext) : String :=
  context.headCode ++ String.join (context.endpoints.map EndpointView.code) ++ "\x7d\n"

end RegistrationContext

/-! ## Lines

Every line is written wherever the name of its repetition stands for its view.  What the
statements write is grouped from the right and the code from the left. -/

section Lines

open Template Template.Stmt Template.Expr Template.Embedded

variable {scope : Scope}

theorem ImportView.writes {view : ImportView} (known : scope.find "imp" = some view.toJson) :
    Writes importLine scope view.code := by
  have ident : (part "imp" "ident").force scope = .ok (.string view.ident) :=
    force_attribute known rfl
  have path : (part "imp" "import").force scope = .ok (.string view.importPath) :=
    force_attribute known rfl
  refine Writes.congr (.cons (.text _) <| .cons (.emit ident) <| .cons (.text _) <|
    .cons (.emit (force_quote path)) <| .cons (.text _) .nil) ?_
  unfold code
  ac_rfl

theorem ReceiverView.writes {view : ReceiverView} (known : scope.find "r" = some view.toJson) :
    Writes receiverLine scope view.code := by
  have ident : (part "r" "ident").force scope = .ok (.string view.ident) :=
    force_attribute known rfl
  have isPointer : (part "r" "pointer").force scope = .ok (.bool view.key.pointer) :=
    force_attribute known rfl
  have importIdent : (part "r" "import_ident").force scope = .ok (.string view.importIdent) :=
    force_attribute known rfl
  have name : (part "r" "name").force scope = .ok (.string view.key.name) :=
    force_attribute known rfl
  refine Writes.congr (.cons (.text _) <| .cons (.emit ident) <| .cons (.text _) <|
    .cons (.emit (force_pointer isPointer)) <| .cons (.emit importIdent) <| .cons (.text _) <|
    .cons (.emit name) <| .cons (.text _) .nil) ?_
  unfold code pointer
  ac_rfl

theorem ParamView.force_parts {view : ParamView} (known : scope.find "p" = some view.toJson) :
    (part "p" "name").force scope = .ok (.string view.name) ∧
      (part "p" "wire_name").force scope = .ok (.string view.wireName) ∧
      (part "p" "accessor").force scope = .ok (.string view.accessor) :=
  ⟨force_attribute known rfl, force_attribute known rfl, force_attribute known rfl⟩

theorem ParamView.request_writes {view : ParamView} (known : scope.find "p" = some view.toJson) :
    Writes requestLine scope view.requestCode := by
  obtain ⟨name, wireName, accessor⟩ := ParamView.force_parts known
  refine Writes.congr (.cons (.text _) <| .cons (.emit name) <| .cons (.text _) <|
    .cons (.emit accessor) <| .cons (.text _) <| .cons (.emit (force_quote wireName)) <|
    .cons (.text _) .nil) ?_
  unfold requestCode
  ac_rfl

theorem ParamView.response_writes {view : ParamView}
    (known : scope.find "p" = some view.toJson) : Writes responseLine scope view.responseCode := by
  obtain ⟨name, wireName, accessor⟩ := ParamView.force_parts known
  refine Writes.congr (.cons (.text _) <| .cons (.emit accessor) <| .cons (.text _) <|
    .cons (.emit (force_quote wireName)) <| .cons (.text _) <| .cons (.emit name) <|
    .cons (.text _) .nil) ?_
  unfold responseCode
  ac_rfl

theorem middleware_writes {call : String} (known : scope.find "mw" = some (.string call)) :
    Writes middlewareLine scope ("\t\t" ++ call ++ ",\n") := by
  refine Writes.congr (.cons (.text _) <| .cons (.emit (force_variable known)) <|
    .cons (.text _) .nil) ?_
  ac_rfl

theorem setupImport_writes {path : String} (known : scope.find "imp" = some (.string path)) :
    Writes setupImport scope ("\t" ++ quote path ++ "\n") := by
  refine Writes.congr (.cons (.text _) <|
    .cons (.emit (force_quote (force_variable known))) <| .cons (.text _) .nil) ?_
  ac_rfl

end Lines

/-! ## Endpoints -/

namespace EndpointView

open Template Template.Stmt Template.Expr Template.Embedded

variable {scope : Scope} {view : EndpointView}

theorem description_prints (known : scope.find "ep" = some view.toJson) :
    Prints descriptionComment scope view.descriptionCode := by
  have description : (part "ep" "description").force scope = .ok (.string view.description) :=
    force_attribute known rfl
  refine Prints.choose description bne_iff_ne <| Writes.congr (.cons (.text _) <|
    .cons (.emit description) <| .cons (.text _) .nil) ?_
  ac_rfl

theorem authorization_prints (known : scope.find "ep" = some view.toJson) :
    Prints authorizationComment scope view.authorizationCode := by
  have scopes : (part "ep" "authorization").force scope = .ok (.strings view.authorization) :=
    force_attribute known rfl
  have truth : Template.isTrue (.strings view.authorization) = true ↔
      ¬ view.authorization = [] := by
    simp [Template.isTrue, Json.strings]
  refine Prints.choose scopes truth <| Writes.congr (.cons (.text _) <|
    .cons (.emit (force_join scopes)) <| .cons (.text _) .nil) ?_
  ac_rfl

theorem bodyParser_prints (known : scope.find "ep" = some view.toJson) :
    Prints bodyParser scope view.bodyParserCode := by
  have isGet : (part "ep" "is_get").force scope = .ok (.bool view.isGet) :=
    force_attribute known rfl
  have truth : Template.isTrue (.bool !view.isGet) = true ↔ ¬ view.isGet = true := by
    simp [Template.isTrue]
  refine Prints.choose (force_negation isGet) truth <| Writes.congr (.cons (.text _) .nil) ?_
  rw [String.append_empty]

theorem writes (known : scope.find "ep" = some view.toJson) :
    Writes endpoint scope view.code := by
  have methodIdent : (part "ep" "method_ident").force scope = .ok (.string view.methodIdent) :=
    force_attribute known rfl
  have path : (part "ep" "path").force scope = .ok (.string view.path) :=
    force_attribute known rfl
  have middleware : (part "ep" "middleware").force scope =
      .ok (.array (view.middleware.map .string)) := force_attribute known rfl
  have bodyType : (part "ep" "body_type").force scope = .ok (.string view.bodyType) :=
    force_attribute known rfl
  have requestParams : (part "ep" "request_params").force scope =
      .ok (.array (view.requestParams.map ParamView.toJson)) := force_attribute known rfl
  have handlerIdent : (part "ep" "handler_ident").force scope =
      .ok (.string view.handlerIdent) := force_attribute known rfl
  have handlerName : (part "ep" "handler_name").force scope = .ok (.string view.handlerName) :=
    force_attribute known rfl
  have responseParams : (part "ep" "response_params").force scope =
      .ok (.array (view.responseParams.map ParamView.toJson)) := force_attribute known rfl
  refine Writes.congr
    (.cons (description_prints known) <| .cons (authorization_prints known) <|
      .cons (.text _) <| .cons (.emit methodIdent) <| .cons (.text _) <|
      .cons (.emit (force_quote path)) <| .cons (.text _) <|
      .cons (.each middleware fun _ _ => middleware_writes) <|
      .cons (.text _) <| .cons (.emit bodyType) <| .cons (.text _) <|
      .cons (bodyParser_prints known) <|
      .cons (.each requestParams fun _ _ => ParamView.request_writes) <|
      .cons (.text _) <| .cons (.emit handlerIdent) <| .cons (.text _) <|
      .cons (.emit handlerName) <| .cons (.text _) <|
      .cons (.each responseParams fun _ _ => ParamView.response_writes) <|
      .cons (.text _) .nil) ?_
  unfold code callCode
  ac_rfl

end EndpointView

/-! ## Contexts -/

namespace RegistrationContext

open Template Template.Stmt Template.Expr Template.Embedded

variable (context : RegistrationContext)

theorem imports_prints : Prints Embedded.imports (.start context.toJson) context.importsCode := by
  have views : (Expr.variable "imports").force (.start context.toJson) =
      .ok (.array (context.imports.map ImportView.toJson)) := force_variable rfl
  have truth : Template.isTrue (.array (context.imports.map ImportView.toJson)) = true ↔
      ¬ context.imports = [] := by
    simp [Template.isTrue]
  refine Prints.choose views truth <| Writes.congr (.cons (.text _) <|
    .cons (.each views fun _ _ => ImportView.writes) .nil) ?_
  rw [String.append_empty]

/-- The statements of the template write the code. -/
theorem writes : Writes stmts (.start context.toJson) context.code := by
  have package : (Expr.variable "package").force (.start context.toJson) =
      .ok (.string context.package) := force_variable rfl
  have setupImports : (Expr.variable "setup_imports").force (.start context.toJson) =
      .ok (.array (context.setupImports.map .string)) := force_variable rfl
  have receivers : (Expr.variable "receivers").force (.start context.toJson) =
      .ok (.array (context.receivers.map ReceiverView.toJson)) := force_variable rfl
  have endpoints : (Expr.variable "endpoints").force (.start context.toJson) =
      .ok (.array (context.endpoints.map EndpointView.toJson)) := force_variable rfl
  refine Writes.congr
    (.cons (.text _) <| .cons (.emit package) <| .cons (.text _) <|
      .cons (.each setupImports fun _ _ => setupImport_writes) <|
      .cons (imports_prints context) <| .cons (.text _) <|
      .cons (.each receivers fun _ _ => ReceiverView.writes) <| .cons (.text _) <|
      .cons (.each endpoints fun _ _ => EndpointView.writes) <| .cons (.text _) .nil) ?_
  unfold code headCode
  ac_rfl

theorem find_embedded : (⟨none⟩ : Engine).find embeddedName = .ok stmts := by
  rw [Engine.find, Engine.embedded, if_pos rfl, Engine.parse, parse?_source]

/-- The text that the template which comes with the library is rendered to. -/
def rendered : Except Error String := do
  let engine ← Engine.ofSource .embedded
  engine.render TemplateSource.embedded.name context.toJson

theorem rendered_eq : context.rendered = .ok context.code := by
  rw [rendered, Fallible.bind_eq_ok]
  exact ⟨⟨none⟩, rfl, Engine.render_of_find find_embedded context.writes⟩

/-- Whatever a context holds, the template that comes with the library is rendered in it, and the
text is the code of the context. -/
theorem render_embedded :
    (do
      let engine ← Engine.ofSource .embedded
      engine.render TemplateSource.embedded.name context.toJson) = .ok context.code :=
  context.rendered_eq

end RegistrationContext

end RouteAtlas

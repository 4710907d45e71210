/-
Module: RouteAtlas.Template.Embedded
Purpose: The registration template that comes with the library.
Main exports: Template.embeddedName, Template.embeddedSource
-/

namespace RouteAtlas.Template

/-- The name of the registration template for the Go framework Fiber. -/
def embeddedName : String := "fiber.go.jinja"

/-- The lines of the registration template. -/
def embeddedLines : List String :=
  [
    "// Code generated by routespec. DO NOT EDIT.",
    "",
    "package \x7b\x7b package \x7d\x7d",
    "",
    "import (",
    "\x7b% for imp in setup_imports %\x7d",
    "\t\x7b\x7b imp | quote \x7d\x7d",
    "\x7b% endfor %\x7d",
    "\x7b% if imports %\x7d",
    "",
    "\x7b% for imp in imports %\x7d",
    "\t\x7b\x7b imp.ident \x7d\x7d \x7b\x7b imp.import | quote \x7d\x7d",
    "\x7b% endfor %\x7d",
    "\x7b% endif %\x7d",
    ")",
    "",
    "func RegisterHandlers(",
    "\tapp *fiber.App,",
    "\tv *validator.Validate,",
    "\x7b% for r in receivers %\x7d",
    "\t\x7b\x7b r.ident \x7d\x7d \x7b\x7b r.pointer | pointer \x7d\x7d\x7b\x7b r.import_ident \x7d\x7d.\x7b\x7b r.name \x7d\x7d,",
    "\x7b% endfor %\x7d",
    ") \x7b",
    "\x7b% for ep in endpoints %\x7d",
    "\x7b% if ep.description %\x7d",
    "\t// \x7b\x7b ep.description \x7d\x7d",
    "\x7b% endif %\x7d",
    "\x7b% if ep.authorization %\x7d",
    "\t// authorization: \x7b\x7b ep.authorization | join(\", \") \x7d\x7d",
    "\x7b% endif %\x7d",
    "\tapp.\x7b\x7b ep.method_ident \x7d\x7d(",
    "\t\t\x7b\x7b ep.path | quote \x7d\x7d,",
    "\x7b% for mw in ep.middleware %\x7d",
    "\t\t\x7b\x7b mw \x7d\x7d,",
    "\x7b% endfor %\x7d",
    "\t\tfunc(c *fiber.Ctx) error \x7b",
    "\t\t\tbody := &\x7b\x7b ep.body_type \x7d\x7d\x7b\x7d",
    "\x7b% if not ep.is_get %\x7d",
    "\t\t\tif err := c.BodyParser(body); err != nil \x7b",
    "\t\t\t\treturn c.Status(fiber.StatusBadRequest).JSON(struct\x7b Err string \x7d\x7bErr: \"Bad request\"\x7d)",
    "\t\t\t\x7d",
    "\x7b% endif %\x7d",
    "\x7b% for p in ep.request_params %\x7d",
    "\t\t\tbody.\x7b\x7b p.name \x7d\x7d = \x7b\x7b p.accessor \x7d\x7d(\x7b\x7b p.wire_name | quote \x7d\x7d)",
    "\x7b% endfor %\x7d",
    "",
    "\t\t\tif err := v.Struct(body); err != nil \x7b",
    "\t\t\t\treturn c.Status(fiber.StatusBadRequest).JSON(struct\x7b Err string \x7d\x7bErr: \"Validation failed\"\x7d)",
    "\t\t\t\x7d",
    "",
    "\t\t\tres, err := \x7b\x7b ep.handler_ident \x7d\x7d.\x7b\x7b ep.handler_name \x7d\x7d(c.UserContext(), body)",
    "\t\t\tif err != nil \x7b",
    "\t\t\t\treturn c.Status(fiber.StatusInternalServerError).JSON(struct\x7b Err string \x7d\x7bErr: \"InternalServerError\"\x7d)",
    "\t\t\t\x7d",
    "\x7b% for p in ep.response_params %\x7d",
    "\t\t\t\x7b\x7b p.accessor \x7d\x7d(\x7b\x7b p.wire_name | quote \x7d\x7d, res.\x7b\x7b p.name \x7d\x7d)",
    "\x7b% endfor %\x7d",
    "",
    "\t\t\treturn c.JSON(res)",
    "\t\t\x7d,",
    "\t)",
    "\x7b% endfor %\x7d",
    "\x7d"]

/-- The registration template, every line of which ends in a line break. -/
def embeddedSource : String :=
  String.join (embeddedLines.map fun line => line ++ "\n")

end RouteAtlas.Template

/-
Module: RouteAtlas.Symbols.Dump
Purpose: The JSON form of a table of aliases.
Main exports: SymbolTable.toJson
-/
import RouteAtlas.Json.Value
import RouteAtlas.Symbols.Table

namespace RouteAtlas.SymbolTable

/-- The form of a table: every alias with what it stands for. -/
def toJson (table : SymbolTable) : Json :=
  .object
    [("imports", .array <| table.imports.map fun (path, ident) =>
        .object [("ident", .string ident), ("import", .string path)]),
      ("receivers", .array <| table.receivers.map fun (key, ident) =>
        .object
          [("ident", .string ident), ("import", .string key.importPath),
            ("name", .string key.name), ("pointer", .bool key.pointer)])]

end RouteAtlas.SymbolTable

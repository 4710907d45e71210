/-
Module: RouteAtlas.Symbols.Table
Purpose: The table of aliases, which depends on what is referred to and not on
  the order in which it was noted.
Main exports: SymbolTable, Collector.finish, SymbolTable.allocate
-/
import RouteAtlas.Error
import RouteAtlas.Symbols.Alias
import RouteAtlas.Symbols.Ascending
import RouteAtlas.Symbols.Collector

namespace RouteAtlas

/-- Aliases of import paths and of receivers, in ascending order of what they
stand for. -/
structure SymbolTable where
  imports : List (String × String)
  receivers : List (ReceiverKey × String)
deriving Repr, DecidableEq, Inhabited

/-- The table of everything noted: sorted, each once, with the aliases in
order. -/
def Collector.finish (collector : Collector) : SymbolTable where
  imports := (Ascending.ofList collector.imports).zipIdx.map
    fun (path, index) => (path, Alias.ofImport index)
  receivers := (Ascending.ofList collector.receivers).zipIdx.map
    fun (key, index) => (key, Alias.ofReceiver index)

namespace SymbolTable

/-- The table of a tree. -/
def allocate (tree : PathNode) : SymbolTable :=
  (Collector.visit tree {}).finish

/-- Whether the table has no aliases. -/
def isEmpty (table : SymbolTable) : Bool :=
  table.imports.isEmpty && table.receivers.isEmpty

/-- The alias of an import path. -/
def importAlias (table : SymbolTable) (path : String) : Except Error String :=
  match table.imports.lookup path with
  | some name => .ok name
  | none => .error (.missingSymbol path)

/-- The alias of a receiver. -/
def receiverAlias (table : SymbolTable) (key : ReceiverKey) :
    Except Error String :=
  match table.receivers.lookup key with
  | some name => .ok name
  | none => .error (.missingSymbol (key.importPath ++ "." ++ key.name))

/-- The alias that a function is called through: that of its receiver for a
bound method, else that of its package. -/
def handlerAlias (table : SymbolTable) (ref : HandlerRef) :
    Except Error String :=
  match ReceiverKey.ofHandler? ref with
  | some key => table.receiverAlias key
  | none => table.importAlias ref.importPath

end SymbolTable

end RouteAtlas

/-
Module: RouteAtlas.Symbols.Collector
Purpose: Gathering the packages and receivers that generated code refers to.
Main exports: ReceiverKey, Collector, Collector.visit
-/
import RouteAtlas.PathNode.Walk

namespace RouteAtlas

/-- A type that methods are bound to, by where it is declared and how. -/
structure ReceiverKey where
  importPath : String
  name : String
  pointer : Bool
deriving Repr, DecidableEq, Inhabited

namespace ReceiverKey

/-- Keys are ordered by import path, then by name, and a plain receiver comes
before a pointer. -/
instance : Ord ReceiverKey where
  compare := compareLex (compareOn importPath) <|
    compareLex (compareOn name) (compareOn pointer)

/-- The receiver of a bound method. -/
def ofHandler? (ref : HandlerRef) : Option ReceiverKey :=
  ref.receiver.map fun receiver =>
    ⟨ref.importPath, receiver.name, receiver.pointer⟩

end ReceiverKey

/-- What has been referred to so far, in whatever order. -/
structure Collector where
  imports : List String := []
  receivers : List ReceiverKey := []
deriving Repr, DecidableEq, Inhabited

namespace Collector

/-- Note an import path; the empty one stands for what needs no import. -/
def addImport (path : String) (collector : Collector) : Collector :=
  if path = "" then collector
  else { collector with imports := path :: collector.imports }

/-- Note the package and the receiver of a function. -/
def addHandler (ref : HandlerRef) (collector : Collector) : Collector :=
  let noted := collector.addImport ref.importPath
  match ReceiverKey.ofHandler? ref with
  | none => noted
  | some key => { noted with receivers := key :: noted.receivers }

/-- Note functions one after another. -/
def addHandlers (refs : List HandlerRef) (collector : Collector) : Collector :=
  refs.foldl (fun collector ref => collector.addHandler ref) collector

/-- Note what an endpoint refers to. -/
def addEndpoint (endpoint : Endpoint) (collector : Collector) : Collector :=
  collector.addImport endpoint.body.importPath
    |>.addImport endpoint.response.importPath
    |>.addHandler endpoint.handler
    |>.addHandlers endpoint.middleware

/-- Note what a node by itself refers to. -/
def addNode (node : PathNode) (collector : Collector) : Collector :=
  node.endpoints.foldl (fun collector endpoint => collector.addEndpoint endpoint)
    (collector.addHandlers node.middleware)

/-- Note everything that a tree refers to. -/
def visit (tree : PathNode) (collector : Collector) : Collector :=
  tree.walk.foldl (fun collector node => collector.addNode node) collector

end Collector

end RouteAtlas

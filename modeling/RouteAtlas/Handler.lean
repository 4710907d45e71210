/-
Module: RouteAtlas.Handler
Purpose: References to handler and middleware functions.
Main exports: Receiver, HandlerRef, HandlerRef.qualified
-/

namespace RouteAtlas

/-- The type a bound method belongs to; `pointer` tells whether the method is
declared on a pointer to it. -/
structure Receiver where
  name : String
  pointer : Bool
deriving Repr, DecidableEq, Inhabited

/-- A function by its import path and name, with a receiver exactly when it is
a bound method. -/
structure HandlerRef where
  name : String
  importPath : String
  receiver : Option Receiver
deriving Repr, DecidableEq, Inhabited

namespace HandlerRef

/-- The qualified name: import path, receiver if any, and name. -/
def qualified (ref : HandlerRef) : String :=
  match ref.receiver with
  | none => ref.importPath ++ "." ++ ref.name
  | some receiver =>
      if receiver.pointer then
        ref.importPath ++ ".(*" ++ receiver.name ++ ")." ++ ref.name
      else
        ref.importPath ++ "." ++ receiver.name ++ "." ++ ref.name

end HandlerRef

end RouteAtlas

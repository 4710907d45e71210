/-
Module: RouteAtlas.Extraction.Identity
Purpose: From the identity of a function to a reference to it.
Main exports: HandlerRef.parse, FunctionId.resolve
-/
import RouteAtlas.Error
import RouteAtlas.Text.Split
import RouteAtlas.Types.Function

namespace RouteAtlas

/-- The receiver in a qualified name; a pointer is written `(*Name)`. -/
def Receiver.parse (raw : List Char) : Receiver :=
  match raw with
  | '(' :: '*' :: rest =>
      if rest.getLast? = some ')' then
        ⟨String.ofList rest.dropLast, true⟩
      else
        ⟨String.ofList raw, false⟩
  | _ => ⟨String.ofList raw, false⟩

namespace HandlerRef

/-- The parts of a qualified name after its last slash: the package, the
receiver of a bound method, and the name.  The name of a bound method ends
before its first dash. -/
def parseIdents (dotted : List Char) :
    Option (List Char × Option Receiver × List Char) :=
  match Text.pieces '.' dotted with
  | [package, name] => some (package, none, name)
  | [package, receiver, method] =>
      some (package, some (Receiver.parse receiver), method.takeWhile (· != '-'))
  | _ => none

/-- Whether a receiver, if there is one, has a name. -/
def hasNamedReceiver : Option Receiver → Bool
  | none => true
  | some receiver => receiver.name != ""

/-- The reference that a qualified name denotes.  A name without a slash is
that of an anonymous function; package, name and receiver must not be
empty. -/
def parse (qualified : String) : Except Error HandlerRef :=
  match Text.breakAtLast '/' qualified.toList with
  | none => .error (.anonymousHandler qualified)
  | some (directory, dotted) =>
      match parseIdents dotted with
      | none => malformed
      | some (package, receiver, name) =>
          if package.isEmpty || name.isEmpty || !hasNamedReceiver receiver then
            malformed
          else
            .ok {
              name := String.ofList name
              importPath := String.ofList (directory ++ '/' :: package)
              receiver }
where
  /-- The fault of a name whose parts are not those of a function. -/
  malformed : Except Error HandlerRef :=
    .error ((Error.invalidFunctionName qualified).during "parse dotted idents")

end HandlerRef

/-- The reference that an identity denotes.  In a declared reference neither the
path nor the name may be empty. -/
def FunctionId.resolve : FunctionId → Except Error HandlerRef
  | .declared ref =>
      if ref.importPath = "" ∨ ref.name = "" then
        .error (.anonymousHandler ref.qualified)
      else
        .ok ref
  | .qualified name =>
      (HandlerRef.parse name).mapError
        (Error.during "parse function identifiers from qualified name")

end RouteAtlas

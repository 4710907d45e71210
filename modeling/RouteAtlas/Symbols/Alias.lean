/-
Module: RouteAtlas.Symbols.Alias
Purpose: The short names under which generated code refers to packages and
  receivers.
Main exports: Alias.letters, Alias.ofImport, Alias.ofReceiver
-/

namespace RouteAtlas.Alias

/-- The letter at a place of the alphabet, which starts over after `z`. -/
def letter (index : Nat) : Char :=
  Char.ofNat ('a'.toNat + index % 26)

/-- The letters of the alias at a place: the letter comes first, and a `z`
follows for every time the alphabet has been used up. -/
def letters (index : Nat) : List Char :=
  letter index :: List.replicate (index / 26) 'z'

/-- The alias of the import at a place. -/
def ofImport (index : Nat) : String :=
  String.ofList (letters index ++ ['i'])

/-- The alias of the receiver at a place. -/
def ofReceiver (index : Nat) : String :=
  String.ofList (letters index ++ ['r'])

end RouteAtlas.Alias

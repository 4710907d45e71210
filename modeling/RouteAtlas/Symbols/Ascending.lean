/-
Module: RouteAtlas.Symbols.Ascending
Purpose: Strictly ascending lists, as the canonical form of a finite set.
Main exports: Ascending.insert, Ascending.ofList
-/

namespace RouteAtlas.Ascending

variable {α : Type} [Ord α]

/-- Put a value at its place; one that is there already stays as it is. -/
def insert (value : α) : List α → List α
  | [] => [value]
  | head :: rest =>
      match compare value head with
      | .lt => value :: head :: rest
      | .eq => head :: rest
      | .gt => head :: insert value rest

/-- The values of a list, each once and in ascending order. -/
def ofList (values : List α) : List α :=
  values.foldl (fun known value => insert value known) []

end RouteAtlas.Ascending

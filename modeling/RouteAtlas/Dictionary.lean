/-
Module: RouteAtlas.Dictionary
Purpose: Values under names, kept in ascending order of the names.
Main exports: Dictionary, Dictionary.get?, Dictionary.alter,
  Dictionary.ofList
-/

namespace RouteAtlas

/-- Values under names.  Every operation below keeps the names strictly
ascending. -/
abbrev Dictionary (α : Type) := List (String × α)

namespace Dictionary

variable {α : Type}

/-- The names stand in strictly ascending order. -/
def IsSorted (dictionary : Dictionary α) : Prop :=
  dictionary.Pairwise fun one other => one.1 < other.1

/-- The value under a name. -/
def get? (name : String) (dictionary : Dictionary α) : Option α :=
  dictionary.lookup name

/-- Give a name the value that is made from the one it has, if any. -/
def alter (name : String) (change : Option α → α) :
    Dictionary α → Dictionary α
  | [] => [(name, change none)]
  | (key, value) :: rest =>
      match compare name key with
      | .lt => (name, change none) :: (key, value) :: rest
      | .eq => (key, change (some value)) :: rest
      | .gt => (key, value) :: alter name change rest

/-- Give a name a value, in place of the one it may have. -/
def insert (name : String) (value : α) (dictionary : Dictionary α) :
    Dictionary α :=
  dictionary.alter name fun _ => value

/-- The dictionary of a list of entries; of two under one name the later one
counts. -/
def ofList (entries : List (String × α)) : Dictionary α :=
  entries.foldl (fun dictionary entry => dictionary.insert entry.1 entry.2) []

end Dictionary

end RouteAtlas

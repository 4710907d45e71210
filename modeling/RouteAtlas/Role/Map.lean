/-
Module: RouteAtlas.Role.Map
Purpose: Tables with at most one text for each role.
Main exports: Role.Map, Role.Map.get?, Role.Map.insert, Role.Map.toList
-/
import RouteAtlas.Field

namespace RouteAtlas.Role

/-- At most one text for each role. -/
structure Map where
  json : Option String := none
  query : Option String := none
  path : Option String := none
  header : Option String := none
  cookie : Option String := none
deriving Repr, DecidableEq, Inhabited

namespace Map

/-- The text of a role. -/
def get? (map : Map) : Role → Option String
  | .json => map.json
  | .query => map.query
  | .path => map.path
  | .header => map.header
  | .cookie => map.cookie

/-- Give a role a text, in place of the one it may have had. -/
def insert (role : Role) (text : String) (map : Map) : Map :=
  match role with
  | .json => { map with json := some text }
  | .query => { map with query := some text }
  | .path => { map with path := some text }
  | .header => { map with header := some text }
  | .cookie => { map with cookie := some text }

/-- The map of a list of entries; of two for one role the later one counts. -/
def ofList (entries : List (Role × String)) : Map :=
  entries.foldl (fun map entry => map.insert entry.1 entry.2) {}

/-- The roles that have a text, in ascending order. -/
def toList (map : Map) : List (Role × String) :=
  all.filterMap fun role => (map.get? role).map fun text => (role, text)

theorem get?_insert (map : Map) (role other : Role) (text : String) :
    (map.insert role text).get? other =
      if other = role then some text else map.get? other := by
  cases role <;> cases other <;> rfl

end Map

end RouteAtlas.Role

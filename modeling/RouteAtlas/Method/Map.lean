/-
Module: RouteAtlas.Method.Map
Purpose: Tables with at most one value for each method.
Main exports: Method.Map, Method.Map.get?, Method.Map.insert, Method.Map.toList
-/
import RouteAtlas.Method

namespace RouteAtlas.Method

/-- At most one value for each method. -/
structure Map (α : Type) where
  get : Option α := none
  post : Option α := none
  put : Option α := none
  patch : Option α := none
  delete : Option α := none
deriving Repr, DecidableEq

namespace Map

variable {α : Type}

instance : Inhabited (Map α) := ⟨{}⟩

/-- The value of a method. -/
def get? (map : Map α) : Method → Option α
  | .get => map.get
  | .post => map.post
  | .put => map.put
  | .patch => map.patch
  | .delete => map.delete

/-- Give a method a value, in place of the one it may have had. -/
def insert (method : Method) (value : α) (map : Map α) : Map α :=
  match method with
  | .get => { map with get := some value }
  | .post => { map with post := some value }
  | .put => { map with put := some value }
  | .patch => { map with patch := some value }
  | .delete => { map with delete := some value }

/-- Change the value of a method that has one. -/
def modify (method : Method) (change : α → α) (map : Map α) : Map α :=
  match map.get? method with
  | none => map
  | some value => map.insert method (change value)

/-- The methods that have a value, in listing order. -/
def toList (map : Map α) : List (Method × α) :=
  all.filterMap fun method => (map.get? method).map fun value =>
    (method, value)

theorem get?_insert (map : Map α) (method other : Method) (value : α) :
    (map.insert method value).get? other =
      if other = method then some value else map.get? other := by
  cases method <;> cases other <;> rfl

theorem mem_toList {map : Map α} {method : Method} {value : α} :
    (method, value) ∈ map.toList ↔ map.get? method = some value := by
  simp only [toList, List.mem_filterMap, Option.map_eq_some_iff,
    Prod.mk.injEq]
  constructor
  · rintro ⟨_, _, _, found, rfl, rfl⟩
    exact found
  · intro found
    exact ⟨method, mem_all method, value, found, rfl, rfl⟩

end Map

end RouteAtlas.Method

/-
Module: RouteAtlas.Proofs.DocumentPaths
Purpose: Which operation a document has under a path and a method: that of the
  last endpoint that is placed there.
Main exports: OpenApi.operation?, OpenApi.operation?_pathsOf,
  OpenApi.operation?_of_nodup, OpenApi.pathsOf_eq_of_perm
-/
import Mathlib.Data.List.Nodup
import RouteAtlas.OpenApi.Assembly
import RouteAtlas.Proofs.DictionaryLaws

namespace RouteAtlas.OpenApi

variable {paths : Dictionary PathItem} {path : String} {method : Method}
  {entry : String × Endpoint} {entries : List (String × Endpoint)}

/-- The operation of a method under a path. -/
def operation? (paths : Dictionary PathItem) (path : String) (method : Method) :
    Option Operation :=
  (paths.get? path).bind fun item => item.get? method

/-- Where an endpoint is placed. -/
def placeOf (entry : String × Endpoint) : String × Method :=
  (entry.1, entry.2.method)

/-- Whether an endpoint is placed under a path and a method. -/
def isPlacedAt (path : String) (method : Method) (entry : String × Endpoint) : Bool :=
  placeOf entry = (path, method)

theorem isPlacedAt_iff : isPlacedAt path method entry ↔ placeOf entry = (path, method) :=
  decide_eq_true_iff

/-! ## One endpoint -/

theorem place_isSorted (sorted : paths.IsSorted) (entry : String × Endpoint) :
    (place paths entry).IsSorted :=
  sorted.alter entry.1 _

/-- Placing an endpoint changes the operation at its place and no other. -/
theorem operation?_place (sorted : paths.IsSorted) :
    operation? (place paths entry) path method =
      if isPlacedAt path method entry then some (Operation.ofEndpoint entry.2)
      else operation? paths path method := by
  rw [operation?, operation?, place, Dictionary.get?_alter sorted]
  by_cases here : placeOf entry = (path, method)
  · rw [if_pos (isPlacedAt_iff.mpr here)]
    cases here
    rw [if_pos rfl, Option.bind_some, Method.Map.get?_insert, if_pos rfl]
  · rw [if_neg (isPlacedAt_iff.not.mpr here)]
    by_cases atPath : path = entry.1
    · subst atPath
      have elsewhere : method ≠ entry.2.method := by
        rintro rfl
        exact here rfl
      rw [if_pos rfl, Option.bind_some, Method.Map.get?_insert, if_neg elsewhere]
      cases paths.get? entry.1 with
      | none => cases method <;> rfl
      | some item => rfl
    · rw [if_neg atPath]

/-- Placing an endpoint makes an entry for its path and for no other. -/
theorem get?_place_isSome (sorted : paths.IsSorted) :
    ((place paths entry).get? path).isSome ↔ path = entry.1 ∨ (paths.get? path).isSome := by
  rw [place, Dictionary.get?_alter sorted]
  by_cases here : path = entry.1
  · simp [here]
  · simp [here]

/-! ## All endpoints -/

theorem foldl_place_isSorted (sorted : paths.IsSorted) :
    (entries.foldl place paths).IsSorted := by
  induction entries generalizing paths with
  | nil => exact sorted
  | cons entry entries ih => exact ih (place_isSorted sorted entry)

/-- After endpoints have been placed one after another, every place has the
operation of the last one that was placed there. -/
theorem operation?_foldl_place (sorted : paths.IsSorted) :
    operation? (entries.foldl place paths) path method =
      match entries.reverse.find? (isPlacedAt path method) with
      | some entry => some (Operation.ofEndpoint entry.2)
      | none => operation? paths path method := by
  induction entries generalizing paths with
  | nil => rfl
  | cons entry entries ih =>
      rw [List.foldl_cons, ih (place_isSorted sorted entry), List.reverse_cons,
        List.find?_append]
      cases entries.reverse.find? (isPlacedAt path method) with
      | some later => rfl
      | none =>
          rw [Option.none_or, List.find?_singleton, operation?_place sorted]
          cases isPlacedAt path method entry <;> rfl

theorem get?_foldl_place_isSome (sorted : paths.IsSorted) :
    ((entries.foldl place paths).get? path).isSome ↔
      path ∈ entries.map Prod.fst ∨ (paths.get? path).isSome := by
  induction entries generalizing paths with
  | nil => simp
  | cons entry entries ih =>
      rw [List.foldl_cons, ih (place_isSorted sorted entry), get?_place_isSome sorted,
        List.map_cons, List.mem_cons, or_left_comm, or_assoc]

theorem pathsOf_isSorted (tree : PathNode) : (pathsOf tree).IsSorted :=
  foldl_place_isSorted List.Pairwise.nil

/-- A document has a path exactly where an endpoint is placed under it. -/
theorem get?_pathsOf_isSome {tree : PathNode} :
    ((pathsOf tree).get? path).isSome ↔ path ∈ (tree.placements []).map Prod.fst := by
  rw [pathsOf, get?_foldl_place_isSome List.Pairwise.nil]
  simp [Dictionary.get?]

theorem operation?_pathsOf (tree : PathNode) (path : String) (method : Method) :
    operation? (pathsOf tree) path method =
      ((tree.placements []).reverse.find? (isPlacedAt path method)).map
        fun entry => Operation.ofEndpoint entry.2 := by
  rw [pathsOf, operation?_foldl_place List.Pairwise.nil]
  cases (tree.placements []).reverse.find? (isPlacedAt path method) <;> rfl

/-- A document has an operation exactly where an endpoint is placed. -/
theorem operation?_pathsOf_isSome_iff {tree : PathNode} :
    (operation? (pathsOf tree) path method).isSome ↔
      (path, method) ∈ (tree.placements []).map placeOf := by
  rw [operation?_pathsOf, Option.isSome_map, List.find?_isSome, List.mem_map]
  simp only [List.mem_reverse, isPlacedAt_iff]

/-- Where endpoints have places of their own, each of them is found at its
place. -/
theorem operation?_of_nodup {tree : PathNode}
    (apart : ((tree.placements []).map placeOf).Nodup) (member : entry ∈ tree.placements []) :
    operation? (pathsOf tree) entry.1 entry.2.method = some (Operation.ofEndpoint entry.2) := by
  have placed : (operation? (pathsOf tree) entry.1 entry.2.method).isSome :=
    operation?_pathsOf_isSome_iff.mpr (List.mem_map_of_mem member)
  rw [operation?_pathsOf, Option.isSome_map] at placed
  obtain ⟨last, found⟩ := Option.isSome_iff_exists.mp placed
  have there : last ∈ tree.placements [] :=
    List.mem_reverse.mp (List.mem_of_find?_eq_some found)
  have same : placeOf last = placeOf entry := isPlacedAt_iff.mp (List.find?_some found)
  have only : last = entry := List.inj_on_of_nodup_map apart there member same
  rw [operation?_pathsOf, found, only]
  rfl

theorem operation?_eq_some_iff_of_nodup {tree : PathNode}
    (apart : ((tree.placements []).map placeOf).Nodup) {operation : Operation} :
    operation? (pathsOf tree) path method = some operation ↔
      ∃ entry ∈ tree.placements [], placeOf entry = (path, method) ∧
        Operation.ofEndpoint entry.2 = operation := by
  constructor
  · intro found
    obtain ⟨entry, member, here⟩ := List.mem_map.mp
      (operation?_pathsOf_isSome_iff.mp (Option.isSome_iff_exists.mpr ⟨operation, found⟩))
    have atPlace := operation?_of_nodup apart member
    cases here
    rw [found] at atPlace
    exact ⟨entry, member, rfl, (Option.some.inj atPlace).symm⟩
  · rintro ⟨entry, member, here, rfl⟩
    cases here
    exact operation?_of_nodup apart member

/-! ## Equal documents -/

theorem pathItem_eq {item item' : PathItem}
    (same : ∀ method, item.get? method = item'.get? method) : item = item' := by
  obtain ⟨get, post, put, patch, delete⟩ := item
  obtain ⟨get', post', put', patch', delete'⟩ := item'
  cases same .get
  cases same .post
  cases same .put
  cases same .patch
  cases same .delete
  rfl

/-- Ordered documents with the same paths and the same operations are the same. -/
theorem paths_eq {paths' : Dictionary PathItem} (sorted : paths.IsSorted)
    (sorted' : paths'.IsSorted)
    (samePaths : ∀ path, (paths.get? path).isSome ↔ (paths'.get? path).isSome)
    (same : ∀ path method, operation? paths path method = operation? paths' path method) :
    paths = paths' := by
  apply Dictionary.eq_of_get?_eq sorted sorted'
  intro path
  have presence := samePaths path
  have operations := same path
  unfold operation? at operations
  cases atPath : paths.get? path with
  | none =>
      rw [atPath] at presence
      exact (Option.not_isSome_iff_eq_none.mp fun present => by simpa using presence.mpr present).symm
  | some item =>
      rw [atPath] at presence operations
      obtain ⟨item', atPath'⟩ := Option.isSome_iff_exists.mp (presence.mp rfl)
      rw [atPath'] at operations
      rw [atPath', pathItem_eq operations]

/-- Where endpoints have places of their own, the document does not depend on the order
in which they are placed. -/
theorem pathsOf_eq_of_perm {tree tree' : PathNode}
    (apart : ((tree.placements []).map placeOf).Nodup)
    (order : (tree.placements []).Perm (tree'.placements [])) : pathsOf tree = pathsOf tree' := by
  have apart' := (order.map placeOf).nodup_iff.mp apart
  apply paths_eq (pathsOf_isSorted tree) (pathsOf_isSorted tree')
  · intro path
    rw [get?_pathsOf_isSome, get?_pathsOf_isSome, (order.map Prod.fst).mem_iff]
  · intro path method
    apply Option.ext
    intro operation
    rw [operation?_eq_some_iff_of_nodup apart, operation?_eq_some_iff_of_nodup apart']
    simp only [order.mem_iff]

/-- The operations of an ordered document, entry by entry. -/
theorem operation?_isSome_iff (sorted : paths.IsSorted) :
    (operation? paths path method).isSome ↔
      ∃ item, (path, item) ∈ paths ∧ (item.get? method).isSome := by
  unfold operation?
  simp only [Dictionary.mem_iff_get? sorted]
  cases paths.get? path with
  | none => simp
  | some item => simp

end RouteAtlas.OpenApi

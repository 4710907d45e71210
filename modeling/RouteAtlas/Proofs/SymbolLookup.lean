/-
Module: RouteAtlas.Proofs.SymbolLookup
Purpose: The table of a tree has aliases for exactly the packages and receivers
  that the nodes of the tree refer to.
Main exports: Collector.Gains, Collector.gains_visit,
  SymbolTable.importAlias_allocate_iff, SymbolTable.receiverAlias_allocate_iff
-/
import Mathlib.Data.List.Basic
import RouteAtlas.Proofs.Traversal
import RouteAtlas.Symbols.Table

namespace RouteAtlas

/-! ## Ascending lists -/

namespace Ascending

variable {α : Type} [Ord α] [Std.LawfulEqOrd α] {value other : α} {values : List α}

theorem mem_insert : other ∈ insert value values ↔ other = value ∨ other ∈ values := by
  induction values with
  | nil => rw [insert, List.mem_singleton, or_iff_left List.not_mem_nil]
  | cons head rest ih =>
      rw [insert]
      split
      · rw [List.mem_cons]
      · next here =>
          have same : value = head := Std.compare_eq_iff_eq.mp here
          subst same
          rw [List.mem_cons, ← or_assoc, or_self]
      · rw [List.mem_cons, List.mem_cons, ih, or_left_comm]

theorem mem_foldl_insert {known : List α} :
    other ∈ values.foldl (fun known value => insert value known) known ↔
      other ∈ values ∨ other ∈ known := by
  induction values generalizing known with
  | nil => rw [List.foldl_nil, or_iff_right List.not_mem_nil]
  | cons value values ih =>
      rw [List.foldl_cons, ih, mem_insert, List.mem_cons, or_left_comm, or_assoc]

theorem mem_ofList : other ∈ ofList values ↔ other ∈ values := by
  rw [ofList, mem_foldl_insert, or_iff_left List.not_mem_nil]

end Ascending

instance : Std.LawfulEqOrd ReceiverKey where
  compare_self := by
    intro key
    change (compare key.importPath key.importPath).then ((compare key.name key.name).then
      (compare key.pointer key.pointer)) = .eq
    rw [Std.compare_self, Std.compare_self, Std.compare_self]
    rfl
  eq_of_compare := by
    intro one other same
    change (compare one.importPath other.importPath).then ((compare one.name other.name).then
      (compare one.pointer other.pointer)) = .eq at same
    obtain ⟨sameImport, same⟩ := Ordering.then_eq_eq.mp same
    obtain ⟨sameName, samePointer⟩ := Ordering.then_eq_eq.mp same
    obtain ⟨importPath, name, pointer⟩ := one
    cases Std.compare_eq_iff_eq.mp sameImport
    cases Std.compare_eq_iff_eq.mp sameName
    cases Std.compare_eq_iff_eq.mp samePointer
    rfl

/-! ## What is referred to -/

/-- The functions that an endpoint refers to. -/
def Endpoint.refs (endpoint : Endpoint) : List HandlerRef :=
  endpoint.handler :: endpoint.middleware

/-- The packages that an endpoint refers to. -/
def Endpoint.packages (endpoint : Endpoint) : List String :=
  [endpoint.body.importPath, endpoint.response.importPath] ++
    endpoint.refs.map HandlerRef.importPath

/-- The functions that a node by itself refers to. -/
def PathNode.refs (node : PathNode) : List HandlerRef :=
  node.middleware ++ node.endpoints.flatMap Endpoint.refs

/-- The packages that a node by itself refers to. -/
def PathNode.packages (node : PathNode) : List String :=
  node.middleware.map HandlerRef.importPath ++ node.endpoints.flatMap Endpoint.packages

/-- The receivers that a node by itself refers to. -/
def PathNode.receivers (node : PathNode) : List ReceiverKey :=
  node.refs.filterMap ReceiverKey.ofHandler?

/-- Every function that a tree refers to has a package to import it from. -/
def PathNode.IsImportable (tree : PathNode) : Prop :=
  ∀ node ∈ tree.walk, ∀ ref ∈ node.refs, ref.importPath ≠ ""

theorem PathNode.importPath_mem_packages {node : PathNode} {ref : HandlerRef}
    (member : ref ∈ node.refs) : ref.importPath ∈ node.packages := by
  rcases List.mem_append.mp member with inChain | inEndpoints
  · exact List.mem_append_left _ (List.mem_map_of_mem inChain)
  · obtain ⟨endpoint, bound, inEndpoint⟩ := List.mem_flatMap.mp inEndpoints
    refine List.mem_append_right _ (List.mem_flatMap.mpr ⟨endpoint, bound, ?_⟩)
    exact List.mem_append_right _ (List.mem_map_of_mem inEndpoint)

theorem PathNode.mem_receivers {node : PathNode} {key : ReceiverKey} :
    key ∈ node.receivers ↔ ∃ ref ∈ node.refs, ReceiverKey.ofHandler? ref = some key :=
  List.mem_filterMap

theorem ReceiverKey.importPath_of_ofHandler? {ref : HandlerRef} {key : ReceiverKey}
    (bound : ofHandler? ref = some key) : key.importPath = ref.importPath := by
  obtain ⟨receiver, _, rfl⟩ := Option.map_eq_some_iff.mp bound
  rfl

/-! ## Collecting -/

namespace Collector

/-- A collector has noted some packages, but not the empty one, and some
receivers on top of what it had noted before. -/
structure Gains (before after : Collector) (packages : List String)
    (receivers : List ReceiverKey) : Prop where
  imports : ∀ path, path ∈ after.imports ↔
    (path ≠ "" ∧ path ∈ packages) ∨ path ∈ before.imports
  receivers : ∀ key, key ∈ after.receivers ↔ key ∈ receivers ∨ key ∈ before.receivers

theorem Gains.refl (collector : Collector) : Gains collector collector [] [] where
  imports := by simp
  receivers := by simp

theorem Gains.trans {before between after : Collector} {packages packages' : List String}
    {receivers receivers' : List ReceiverKey}
    (first : Gains before between packages receivers)
    (second : Gains between after packages' receivers') :
    Gains before after (packages ++ packages') (receivers ++ receivers') where
  imports := by
    intro path
    rw [second.imports, first.imports, List.mem_append, and_or_left, or_assoc, or_left_comm]
  receivers := by
    intro key
    rw [second.receivers, first.receivers, List.mem_append, or_assoc, or_left_comm]

/-- What every step of a run notes, the run notes. -/
theorem gains_foldl {ι : Type} {note : Collector → ι → Collector}
    {packages : ι → List String} {receivers : ι → List ReceiverKey}
    (step : ∀ collector item,
      Gains collector (note collector item) (packages item) (receivers item))
    (items : List ι) (collector : Collector) :
    Gains collector (items.foldl note collector) (items.flatMap packages)
      (items.flatMap receivers) := by
  induction items generalizing collector with
  | nil => exact .refl collector
  | cons item items ih => exact (step collector item).trans (ih _)

theorem gains_addImport (path : String) (collector : Collector) :
    Gains collector (collector.addImport path) [path] [] := by
  unfold addImport
  split
  · next blank =>
      subst blank
      exact ⟨by simp, by simp⟩
  · next named =>
      refine ⟨fun other => ?_, by simp⟩
      rw [List.mem_cons, List.mem_singleton]
      constructor
      · rintro (rfl | known)
        · exact .inl ⟨named, rfl⟩
        · exact .inr known
      · rintro (⟨_, same⟩ | known)
        · exact .inl same
        · exact .inr known

theorem gains_addHandler (ref : HandlerRef) (collector : Collector) :
    Gains collector (collector.addHandler ref) [ref.importPath]
      (ReceiverKey.ofHandler? ref).toList := by
  obtain ⟨imports, receivers⟩ := gains_addImport ref.importPath collector
  unfold addHandler
  cases ReceiverKey.ofHandler? ref with
  | none => exact ⟨imports, receivers⟩
  | some key =>
      refine ⟨imports, fun other => ?_⟩
      rw [List.mem_cons, receivers]
      simp

theorem gains_addHandlers (refs : List HandlerRef) (collector : Collector) :
    Gains collector (collector.addHandlers refs) (refs.map HandlerRef.importPath)
      (refs.filterMap ReceiverKey.ofHandler?) := by
  have run := gains_foldl (fun collector ref => gains_addHandler ref collector) refs collector
  rw [List.filterMap_eq_flatMap_toList, List.map_eq_flatMap]
  exact run

theorem gains_addEndpoint (endpoint : Endpoint) (collector : Collector) :
    Gains collector (collector.addEndpoint endpoint) endpoint.packages
      (endpoint.refs.filterMap ReceiverKey.ofHandler?) := by
  have run := (gains_addImport endpoint.body.importPath collector).trans <|
    (gains_addImport endpoint.response.importPath _).trans <|
      (gains_addHandler endpoint.handler _).trans (gains_addHandlers endpoint.middleware _)
  rw [Endpoint.refs, List.filterMap_eq_flatMap_toList, List.flatMap_cons,
    ← List.filterMap_eq_flatMap_toList]
  exact run

theorem gains_addNode (node : PathNode) (collector : Collector) :
    Gains collector (collector.addNode node) node.packages node.receivers := by
  have run := (gains_addHandlers node.middleware collector).trans <|
    gains_foldl (fun collector endpoint => gains_addEndpoint endpoint collector)
      node.endpoints (collector.addHandlers node.middleware)
  rw [PathNode.receivers, PathNode.refs, List.filterMap_append, List.filterMap_flatMap]
  exact run

/-- A visit notes what the nodes of the tree refer to. -/
theorem gains_visit (tree : PathNode) (collector : Collector) :
    Gains collector (collector.visit tree) (tree.walk.flatMap PathNode.packages)
      (tree.walk.flatMap PathNode.receivers) :=
  gains_foldl (fun collector node => gains_addNode node collector) tree.walk collector

end Collector

/-! ## Looking up -/

theorem lookup_numbered_isSome_iff {κ : Type} [BEq κ] [LawfulBEq κ] {keys : List κ}
    {name : Nat → String} {key : κ} :
    ((keys.zipIdx.map fun (key, index) => (key, name index)).lookup key).isSome ↔
      key ∈ keys := by
  rw [List.lookup_isSome_iff]
  constructor
  · rintro ⟨_, member, same⟩
    obtain ⟨⟨held, index⟩, numbered, rfl⟩ := List.mem_map.mp member
    cases eq_of_beq same
    exact List.fst_mem_of_mem_zipIdx numbered
  · intro member
    obtain ⟨index, found⟩ := List.mem_iff_getElem?.mp member
    have numbered : (key, index) ∈ keys.zipIdx := List.mk_mem_zipIdx_iff_getElem?.mpr found
    exact ⟨(key, name index), List.mem_map_of_mem numbered, beq_self_eq_true key⟩

namespace SymbolTable

variable {tree : PathNode}

theorem importAlias_succeeds_iff {table : SymbolTable} {path : String} :
    (∃ name, table.importAlias path = .ok name) ↔ (table.imports.lookup path).isSome := by
  unfold importAlias
  cases table.imports.lookup path with
  | none => simp
  | some name => simp

theorem receiverAlias_succeeds_iff {table : SymbolTable} {key : ReceiverKey} :
    (∃ name, table.receiverAlias key = .ok name) ↔ (table.receivers.lookup key).isSome := by
  unfold receiverAlias
  cases table.receivers.lookup key with
  | none => simp
  | some name => simp

/-- The table of a tree has an alias for a package exactly when the package has a
path and some node refers to it. -/
theorem importAlias_allocate_iff {path : String} :
    (∃ name, (allocate tree).importAlias path = .ok name) ↔
      path ≠ "" ∧ ∃ node ∈ tree.walk, path ∈ node.packages := by
  rw [importAlias_succeeds_iff, allocate, Collector.finish, lookup_numbered_isSome_iff,
    Ascending.mem_ofList, (Collector.gains_visit tree {}).imports,
    or_iff_left List.not_mem_nil, List.mem_flatMap]

/-- The table of a tree has an alias for a receiver exactly when some node refers
to it. -/
theorem receiverAlias_allocate_iff {key : ReceiverKey} :
    (∃ name, (allocate tree).receiverAlias key = .ok name) ↔
      ∃ node ∈ tree.walk, key ∈ node.receivers := by
  rw [receiverAlias_succeeds_iff, allocate, Collector.finish, lookup_numbered_isSome_iff,
    Ascending.mem_ofList, (Collector.gains_visit tree {}).receivers,
    or_iff_left List.not_mem_nil, List.mem_flatMap]

end SymbolTable

end RouteAtlas

/-
Module: RouteAtlas.Proofs.CollectorRuns
Purpose: The table of a collector lists what the collector was told, in whatever order and
  however often it was told.
Main exports: ReceiverKey.Precedes, SymbolTable.Lists, SymbolTable.Lists.unique,
  Collector.Note, Collector.run, Collector.finish_run
-/
import RouteAtlas.Proofs.AliasTable
import RouteAtlas.Proofs.DictionaryLaws

namespace RouteAtlas

/-! ## Order of receivers -/

namespace ReceiverKey

/-- Receivers are ordered by the package first and by the name next; of two that differ in
nothing else the plain one comes first. -/
def Precedes (one other : ReceiverKey) : Prop :=
  one.importPath < other.importPath ∨
    one.importPath = other.importPath ∧
      (one.name < other.name ∨
        one.name = other.name ∧ one.pointer = false ∧ other.pointer = true)

theorem compare_pointer_eq_lt {one other : Bool} :
    compare one other = .lt ↔ one = false ∧ other = true := by
  cases one <;> cases other <;> decide

theorem compare_eq_lt {one other : ReceiverKey} : compare one other = .lt ↔ one.Precedes other := by
  change (compare one.importPath other.importPath).then ((compare one.name other.name).then
    (compare one.pointer other.pointer)) = .lt ↔ _
  rw [Ordering.then_eq_lt, Ordering.then_eq_lt, Dictionary.compare_eq_lt, Dictionary.compare_eq_lt,
    Std.compare_eq_iff_eq, Std.compare_eq_iff_eq, compare_pointer_eq_lt]
  rfl

end ReceiverKey

/-! ## Tables -/

/-- A table lists some packages, but not the empty one, and some receivers: each of them
once, in ascending order, under the alias that belongs to its place. -/
structure SymbolTable.Lists (table : SymbolTable) (packages : List String)
    (receivers : List ReceiverKey) : Prop where
  importsAscend : (table.imports.map Prod.fst).Pairwise fun one other => one < other
  mem_imports : ∀ path, path ∈ table.imports.map Prod.fst ↔ path ≠ "" ∧ path ∈ packages
  importAliases : ∀ index entry, table.imports[index]? = some entry →
    entry.2 = String.ofList (Alias.letters index) ++ "i"
  receiversAscend : (table.receivers.map Prod.fst).Pairwise ReceiverKey.Precedes
  mem_receivers : ∀ key, key ∈ table.receivers.map Prod.fst ↔ key ∈ receivers
  receiverAliases : ∀ index entry, table.receivers[index]? = some entry →
    entry.2 = String.ofList (Alias.letters index) ++ "r"

section Numbered

variable {κ : Type} {name : Nat → String}

theorem getElem?_numbered {keys : List κ} {index : Nat} {entry : κ × String}
    (found : (keys.zipIdx.map fun (key, index) => (key, name index))[index]? = some entry) :
    entry.2 = name index := by
  rw [List.getElem?_map, List.getElem?_zipIdx, Nat.zero_add] at found
  obtain ⟨_, numbered, rfl⟩ := Option.map_eq_some_iff.mp found
  obtain ⟨_, _, rfl⟩ := Option.map_eq_some_iff.mp numbered
  rfl

/-- Lists of the same keys are the same when the place of a key gives its name. -/
theorem eq_of_named {entries entries' : List (κ × String)}
    (named : ∀ index entry, entries[index]? = some entry → entry.2 = name index)
    (named' : ∀ index entry, entries'[index]? = some entry → entry.2 = name index)
    (same : entries.map Prod.fst = entries'.map Prod.fst) : entries = entries' := by
  apply List.ext_getElem?
  intro index
  have keys := congrArg (fun keys => keys[index]?) same
  simp only [List.getElem?_map] at keys
  cases found : entries[index]? with
  | none =>
      rw [found, Option.map_none, eq_comm, Option.map_eq_none_iff] at keys
      exact keys.symm
  | some entry =>
      rw [found, Option.map_some, eq_comm, Option.map_eq_some_iff] at keys
      obtain ⟨entry', found', sameKey⟩ := keys
      rw [found', Option.some.injEq]
      exact Prod.ext sameKey.symm ((named _ _ found).trans (named' _ _ found').symm)

end Numbered

namespace SymbolTable.Lists

variable {table table' : SymbolTable} {packages packages' : List String}
  {receivers receivers' : List ReceiverKey}

/-- What a table lists determines the table. -/
theorem unique (lists : table.Lists packages receivers)
    (lists' : table'.Lists packages' receivers')
    (samePackages : ∀ path, path ≠ "" → (path ∈ packages ↔ path ∈ packages'))
    (sameReceivers : ∀ key, key ∈ receivers ↔ key ∈ receivers') : table = table' := by
  have imports : table.imports.map Prod.fst = table'.imports.map Prod.fst := by
    refine Ascending.IsAscending.eq_of_mem_iff
      (lists.importsAscend.imp Dictionary.compare_eq_lt.mpr)
      (lists'.importsAscend.imp Dictionary.compare_eq_lt.mpr) fun path => ?_
    rw [lists.mem_imports, lists'.mem_imports]
    exact and_congr_right (samePackages path)
  have receivers : table.receivers.map Prod.fst = table'.receivers.map Prod.fst := by
    refine Ascending.IsAscending.eq_of_mem_iff
      (lists.receiversAscend.imp ReceiverKey.compare_eq_lt.mpr)
      (lists'.receiversAscend.imp ReceiverKey.compare_eq_lt.mpr) fun key => ?_
    rw [lists.mem_receivers, lists'.mem_receivers, sameReceivers]
  obtain ⟨entries, entriesOfReceivers⟩ := table
  obtain ⟨entries', entriesOfReceivers'⟩ := table'
  rw [SymbolTable.mk.injEq]
  exact ⟨eq_of_named lists.importAliases lists'.importAliases imports,
    eq_of_named lists.receiverAliases lists'.receiverAliases receivers⟩

end SymbolTable.Lists

/-! ## Runs -/

namespace Collector

/-- What a collector can be told: a package, a function, or a whole tree. -/
inductive Note where
  | package (path : String)
  | function (ref : HandlerRef)
  | tree (root : PathNode)

namespace Note

/-- Tell a collector. -/
def apply (note : Note) (collector : Collector) : Collector :=
  match note with
  | .package path => collector.addImport path
  | .function ref => collector.addHandler ref
  | .tree root => collector.visit root

/-- The packages that a collector is told about.  Those of a tree are the packages of every
function that one of its nodes refers to and of both records of every endpoint. -/
def packages : Note → List String
  | .package path => [path]
  | .function ref => [ref.importPath]
  | .tree root => root.preorder.flatMap PathNode.packages

/-- The receivers that a collector is told about. -/
def receivers : Note → List ReceiverKey
  | .package _ => []
  | .function ref => (ReceiverKey.ofHandler? ref).toList
  | .tree root => root.preorder.flatMap PathNode.receivers

end Note

/-- A collector that is told one thing after another. -/
def run (notes : List Note) : Collector :=
  notes.foldl (fun collector note => note.apply collector) {}

theorem gains_apply (note : Note) (collector : Collector) :
    Gains collector (note.apply collector) note.packages note.receivers := by
  cases note with
  | package path => exact gains_addImport path collector
  | function ref => exact gains_addHandler ref collector
  | tree root =>
      rw [Note.packages, Note.receivers, ← PathNode.walk_eq_preorder]
      exact gains_visit root collector

theorem gains_run (notes : List Note) :
    Gains {} (run notes) (notes.flatMap Note.packages) (notes.flatMap Note.receivers) :=
  gains_foldl (fun collector note => gains_apply note collector) notes {}

/-- The table of a collector lists what the collector has noted from the start. -/
theorem Gains.lists_finish {collector : Collector} {packages : List String}
    {receivers : List ReceiverKey} (gains : Gains {} collector packages receivers) :
    collector.finish.Lists packages receivers where
  importsAscend := by
    rw [importPaths_finish]
    exact (Ascending.ofList_ascending collector.imports).imp Dictionary.compare_eq_lt.mp
  mem_imports := by
    intro path
    rw [importPaths_finish, Ascending.mem_ofList, gains.imports, or_iff_left List.not_mem_nil]
  importAliases := by
    intro index entry found
    rw [getElem?_numbered found, Alias.ofImport, String.ofList_append]
  receiversAscend := by
    rw [receiverKeys_finish]
    exact (Ascending.ofList_ascending collector.receivers).imp ReceiverKey.compare_eq_lt.mp
  mem_receivers := by
    intro key
    rw [receiverKeys_finish, Ascending.mem_ofList, gains.receivers, or_iff_left List.not_mem_nil]
  receiverAliases := by
    intro index entry found
    rw [getElem?_numbered found, Alias.ofReceiver, String.ofList_append]

/-- After any run the table lists exactly what the collector was told, so that runs which
tell the same packages and receivers end in the same table. -/
theorem finish_run (notes : List Note) :
    (run notes).finish.Lists (notes.flatMap Note.packages) (notes.flatMap Note.receivers) ∧
      ∀ notes' : List Note,
        (∀ path, path ≠ "" →
          (path ∈ notes.flatMap Note.packages ↔ path ∈ notes'.flatMap Note.packages)) →
        (∀ key, key ∈ notes.flatMap Note.receivers ↔ key ∈ notes'.flatMap Note.receivers) →
        (run notes).finish = (run notes').finish :=
  have lists := fun notes => (gains_run notes).lists_finish
  ⟨lists notes, fun notes' => (lists notes).unique (lists notes')⟩

theorem finish_run_reordered :
    let list : HandlerRef := ⟨"List", "a/orders", some ⟨"Service", false⟩⟩
    let tree : PathNode := ⟨"", .root, [], [list, ⟨"Log", "c/chain", none⟩], []⟩
    let notes : List Note := [.package "b/users", .function list, .tree tree]
    let notes' : List Note := [.tree tree, .package "", .package "b/users", .tree tree]
    (run notes).finish = (run notes').finish := by
  intro list tree notes notes'
  have packages : ∀ path ∈ notes.flatMap Note.packages, path ∈ notes'.flatMap Note.packages := by
    decide
  have packages' : ∀ path ∈ notes'.flatMap Note.packages,
      path = "" ∨ path ∈ notes.flatMap Note.packages := by
    decide
  have receivers : ∀ key ∈ notes.flatMap Note.receivers,
      key ∈ notes'.flatMap Note.receivers := by
    decide
  have receivers' : ∀ key ∈ notes'.flatMap Note.receivers,
      key ∈ notes.flatMap Note.receivers := by
    decide
  refine (finish_run notes).2 notes' (fun path named => ⟨packages path, fun member => ?_⟩)
    fun key => ⟨receivers key, receivers' key⟩
  exact (packages' path member).resolve_left named

end Collector

end RouteAtlas

/-
Module: RouteAtlas.Proofs.MissingSymbols
Purpose: When a registration context cannot be built from a tree and the table of
  that tree, and that nothing but the empty import path is then reported.
Main exports: EndpointView.build_failsExactly, RegistrationContext.build_failsExactly,
  RegistrationContext.build_succeeds, RegistrationContext.build_fails_iff
-/
import RouteAtlas.Proofs.AliasTable
import RouteAtlas.Proofs.ExtractedTree
import RouteAtlas.Proofs.RegistrationSteps

namespace RouteAtlas

open Fallible

/-! ## Looking up -/

namespace SymbolTable

variable {tree node : PathNode}

theorem importAlias_fault {table : SymbolTable} {path : String} {fault : Error}
    (failed : table.importAlias path = .error fault) : fault = .missingSymbol path := by
  unfold importAlias at failed
  split at failed
  · cases failed
  · cases failed
    rfl

/-- Of the packages that a tree refers to, only the one without a path has no
alias. -/
theorem importAlias_failsExactly {path : String} (visited : node ∈ tree.walk)
    (member : path ∈ node.packages) :
    FailsExactly (.missingSymbol "") (path = "") ((allocate tree).importAlias path) where
  fails := by
    rintro rfl
    have failed : ¬ ∃ name, (allocate tree).importAlias "" = .ok name := fun succeeded =>
      (importAlias_allocate_iff.mp succeeded).1 rfl
    obtain ⟨fault, failed⟩ := Fallible.fails_iff.mpr failed
    rw [failed, importAlias_fault failed]
  succeeds named := importAlias_allocate_iff.mpr ⟨named, node, visited, member⟩

/-- A bound method always has an alias to be called through, and any other
function has one unless its import path is empty. -/
theorem handlerAlias_failsExactly {ref : HandlerRef} (visited : node ∈ tree.walk)
    (member : ref ∈ node.refs) :
    FailsExactly (.missingSymbol "") (ref.receiver = none ∧ ref.importPath = "")
      ((allocate tree).handlerAlias ref) := by
  unfold handlerAlias
  cases bound : ReceiverKey.ofHandler? ref with
  | none =>
      have free : ref.receiver = none := Option.map_eq_none_iff.mp bound
      refine (importAlias_failsExactly visited (PathNode.importPath_mem_packages member)).congr ?_
      rw [and_iff_right free]
  | some key =>
      have known := PathNode.mem_receivers.mpr ⟨ref, member, bound⟩
      refine ⟨?_, fun _ => receiverAlias_allocate_iff.mpr ⟨node, visited, known⟩⟩
      rintro ⟨free, _⟩
      rw [ReceiverKey.ofHandler?, free] at bound
      cases bound

theorem callName_failsExactly {ref : HandlerRef} (visited : node ∈ tree.walk)
    (member : ref ∈ node.refs) :
    FailsExactly (.missingSymbol "") (ref.receiver = none ∧ ref.importPath = "")
      ((allocate tree).callName ref) :=
  ((handlerAlias_failsExactly visited member).bind fun _ _ => .ofPure _ _).congr (by simp)

/-- A built-in type needs no alias, so every record type has a name. -/
theorem typeName_failsExactly {data : Data} (visited : node ∈ tree.walk)
    (member : data.importPath ∈ node.packages) :
    FailsExactly (.missingSymbol "") False ((allocate tree).typeName data) := by
  unfold typeName
  split
  · exact .ofPure _ _
  · next named =>
      refine ((importAlias_failsExactly visited member).bind fun _ _ => .ofPure _ _).congr ?_
      rw [or_false, iff_false]
      exact named

/-- The table of a tree has the receivers that the tree refers to. -/
theorem mem_receiverKeys_allocate_iff {key : ReceiverKey} :
    key ∈ (allocate tree).receivers.map Prod.fst ↔ ∃ node ∈ tree.walk, key ∈ node.receivers := by
  rw [allocate, Collector.receiverKeys_finish, Ascending.mem_ofList,
    (Collector.gains_visit tree {}).receivers, or_iff_left List.not_mem_nil, List.mem_flatMap]

end SymbolTable

/-! ## Views -/

/-- A function without a receiver and without a package to import it from. -/
def HandlerRef.IsLost (ref : HandlerRef) : Prop :=
  ref.receiver = none ∧ ref.importPath = ""

theorem ReceiverView.build_failsExactly {tree : PathNode} {entry : ReceiverKey × String}
    (member : entry ∈ (SymbolTable.allocate tree).receivers) :
    FailsExactly (.missingSymbol "") (entry.1.importPath = "")
      (ReceiverView.build (.allocate tree) entry) := by
  obtain ⟨node, visited, known⟩ :=
    SymbolTable.mem_receiverKeys_allocate_iff.mp (List.mem_map_of_mem member)
  obtain ⟨ref, referred, bound⟩ := PathNode.mem_receivers.mp known
  have package : entry.1.importPath ∈ node.packages := by
    rw [ReceiverKey.importPath_of_ofHandler? bound]
    exact PathNode.importPath_mem_packages referred
  exact ((SymbolTable.importAlias_failsExactly visited package).bind
    fun _ _ => .ofPure _ _).congr (by rw [or_false])

theorem EndpointView.build_failsExactly {tree node : PathNode} {endpoint : Endpoint}
    (conventions : Conventions) (visited : node ∈ tree.walk) (owned : endpoint ∈ node.endpoints) :
    FailsExactly (.missingSymbol "") (∃ ref ∈ node.middleware ++ endpoint.refs, ref.IsLost)
      (EndpointView.build (.allocate tree) conventions node endpoint) := by
  have ofEndpoint : ∀ ref ∈ endpoint.refs, ref ∈ node.refs := fun ref member =>
    List.mem_append_right _ (List.mem_flatMap.mpr ⟨endpoint, owned, member⟩)
  have packages : ∀ path ∈ endpoint.packages, path ∈ node.packages := fun path member =>
    List.mem_append_right _ (List.mem_flatMap.mpr ⟨endpoint, owned, member⟩)
  have calls : FailsExactly (.missingSymbol "")
      (∃ ref ∈ node.middleware ++ endpoint.middleware, ref.IsLost)
      ((node.middleware ++ endpoint.middleware).mapM (SymbolTable.allocate tree).callName) := by
    refine .mapM fun ref member => SymbolTable.callName_failsExactly visited ?_
    rcases List.mem_append.mp member with inChain | own
    · exact List.mem_append_left _ inChain
    · exact ofEndpoint ref (List.mem_cons_of_mem _ own)
  have handler : FailsExactly (.missingSymbol "") endpoint.handler.IsLost
      ((SymbolTable.allocate tree).handlerAlias endpoint.handler) :=
    SymbolTable.handlerAlias_failsExactly visited (ofEndpoint _ List.mem_cons_self)
  have body := SymbolTable.typeName_failsExactly visited
    (packages endpoint.body.importPath (by simp [Endpoint.packages]))
  have response := SymbolTable.typeName_failsExactly visited
    (packages endpoint.response.importPath (by simp [Endpoint.packages]))
  refine (calls.bind fun _ _ => handler.bind fun _ _ => body.bind fun _ _ =>
    response.bind fun _ _ => .ofPure _ _).congr ?_
  simp only [or_false, Endpoint.refs, List.mem_append, List.mem_cons, or_and_right, exists_or,
    exists_eq_left]
  rw [or_assoc, or_comm (a := endpoint.handler.IsLost)]

/-! ## Contexts -/

namespace RegistrationContext

variable (tree : PathNode)

theorem exists_blank_receiver_iff :
    (∃ entry ∈ (SymbolTable.allocate tree).receivers, entry.1.importPath = "") ↔
      ∃ node ∈ tree.walk, ∃ ref ∈ node.refs, ref.receiver.isSome ∧ ref.importPath = "" := by
  constructor
  · rintro ⟨entry, member, blank⟩
    obtain ⟨node, visited, known⟩ :=
      SymbolTable.mem_receiverKeys_allocate_iff.mp (List.mem_map_of_mem member)
    obtain ⟨ref, referred, bound⟩ := PathNode.mem_receivers.mp known
    rw [ReceiverKey.importPath_of_ofHandler? bound] at blank
    obtain ⟨receiver, isBound, _⟩ := Option.map_eq_some_iff.mp bound
    exact ⟨node, visited, ref, referred, Option.isSome_of_eq_some isBound, blank⟩
  · rintro ⟨node, visited, ref, referred, isBound, blank⟩
    obtain ⟨receiver, bound⟩ := Option.isSome_iff_exists.mp isBound
    have noted : ReceiverKey.ofHandler? ref =
        some ⟨ref.importPath, receiver.name, receiver.pointer⟩ := by
      rw [ReceiverKey.ofHandler?, bound]
      rfl
    have known := PathNode.mem_receivers.mpr ⟨ref, referred, noted⟩
    obtain ⟨entry, member, same⟩ :=
      List.mem_map.mp (SymbolTable.mem_receiverKeys_allocate_iff.mpr ⟨node, visited, known⟩)
    refine ⟨entry, member, ?_⟩
    rw [same]
    exact blank

theorem exists_lost_allEndpoints_iff :
    (∃ owned ∈ tree.allEndpoints, ∃ ref ∈ owned.1.middleware ++ owned.2.refs, ref.IsLost) ↔
      ∃ node ∈ tree.walk, ∃ endpoint ∈ node.endpoints,
        ∃ ref ∈ node.middleware ++ endpoint.refs, ref.IsLost := by
  constructor
  · rintro ⟨owned, member, lost⟩
    obtain ⟨node, visited, ofNode⟩ := List.mem_flatMap.mp member
    obtain ⟨endpoint, own, rfl⟩ := List.mem_map.mp ofNode
    exact ⟨node, visited, endpoint, own, lost⟩
  · rintro ⟨node, visited, endpoint, own, lost⟩
    have owned : (node, endpoint) ∈ tree.allEndpoints :=
      List.mem_flatMap.mpr ⟨node, visited, List.mem_map_of_mem own⟩
    exact ⟨(node, endpoint), owned, lost⟩

theorem build_failsExactly (options : RenderOptions) :
    FailsExactly (.missingSymbol "")
      ((∃ node ∈ tree.walk, ∃ ref ∈ node.refs, ref.receiver.isSome ∧ ref.importPath = "") ∨
        ∃ node ∈ tree.walk, ∃ endpoint ∈ node.endpoints,
          ∃ ref ∈ node.middleware ++ endpoint.refs, ref.IsLost)
      (build tree (.allocate tree) options) := by
  have receivers : FailsExactly (.missingSymbol "")
      (∃ entry ∈ (SymbolTable.allocate tree).receivers, entry.1.importPath = "")
      ((SymbolTable.allocate tree).receivers.mapM (ReceiverView.build (.allocate tree))) :=
    .mapM fun entry member => ReceiverView.build_failsExactly member
  have endpoints : FailsExactly (.missingSymbol "")
      (∃ owned ∈ tree.allEndpoints, ∃ ref ∈ owned.1.middleware ++ owned.2.refs, ref.IsLost)
      (tree.allEndpoints.mapM fun owned =>
        EndpointView.build (.allocate tree) options.conventions owned.1 owned.2) := by
    refine .mapM fun owned member => ?_
    obtain ⟨node, visited, ofNode⟩ := List.mem_flatMap.mp member
    obtain ⟨endpoint, own, rfl⟩ := List.mem_map.mp ofNode
    exact EndpointView.build_failsExactly options.conventions visited own
  rw [← exists_blank_receiver_iff, ← exists_lost_allEndpoints_iff]
  exact (receivers.bind fun _ _ => endpoints.bind fun _ _ => .ofPure _ _).congr
    (by rw [or_false])

/-- With the table of the tree itself a context can be built as soon as every
function has a package to import it from. -/
theorem build_succeeds {tree : PathNode} (options : RenderOptions)
    (importable : tree.IsImportable) :
    ∃ context, build tree (.allocate tree) options = .ok context := by
  apply (build_failsExactly tree options).succeeds
  rintro (⟨node, visited, ref, referred, _, blank⟩ |
    ⟨node, visited, endpoint, own, ref, member, _, blank⟩)
  · exact importable node visited ref referred blank
  · refine importable node visited ref ?_ blank
    rcases List.mem_append.mp member with inChain | ofEndpoint
    · exact List.mem_append_left _ inChain
    · exact List.mem_append_right _ (List.mem_flatMap.mpr ⟨endpoint, own, ofEndpoint⟩)

/-- A context for a tree cannot be built exactly when a bound method with an empty
path occurs anywhere in the tree, or another function with an empty path is
called by an endpoint: as its handler, as its middleware or in the chain of its node.
What is then missing is always the empty path.  An extracted tree has no such
function. -/
theorem build_fails_iff (options : RenderOptions) :
    ((∃ fault, build tree (.allocate tree) options = .error fault) ↔
      (∃ node ∈ tree.preorder, ∃ ref ∈ node.refs,
        ref.receiver.isSome ∧ ref.importPath = "") ∨
      ∃ node ∈ tree.preorder, ∃ endpoint ∈ node.endpoints,
        ∃ ref ∈ endpoint.handler :: endpoint.middleware ++ node.middleware,
          ref.receiver = none ∧ ref.importPath = "") ∧
    (∀ fault, build tree (.allocate tree) options = .error fault →
      fault = .missingSymbol "") ∧
    ∀ (route : Route) (keys : TagKeys), route.extract keys = .ok tree →
      ∃ context, build tree (.allocate tree) options = .ok context := by
  have exactly := build_failsExactly tree options
  refine ⟨?_, fun fault failed => exactly.fault_eq failed, fun route keys extracted =>
    build_succeeds options (Route.extract_importable extracted)⟩
  rw [exactly.fails_iff, PathNode.walk_eq_preorder]
  simp only [HandlerRef.IsLost, Endpoint.refs, List.mem_append, or_comm]

end RegistrationContext

end RouteAtlas

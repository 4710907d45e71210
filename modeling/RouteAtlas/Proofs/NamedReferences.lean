/-
Module: RouteAtlas.Proofs.NamedReferences
Purpose: What the references of an extracted tree name.  Each comes from a function that
  was registered and names a package and a function; a receiver without a name comes only
  from a reference that was declared with one.
Main exports: HandlerRef.IsNamed, Route.Registers, Route.extract_refs_named
-/
import RouteAtlas.Proofs.ExtractedTree

namespace RouteAtlas

open Fallible

/-! ## Names -/

namespace HandlerRef

/-- A reference that generated code can spell out: its package, its function and its
receiver, if there is one, all have names. -/
structure IsNamed (ref : HandlerRef) : Prop where
  importPath : ref.importPath ≠ ""
  name : ref.name ≠ ""
  receiver : ∀ receiver, ref.receiver = some receiver → receiver.name ≠ ""

theorem hasNamedReceiver_iff {receiver : Option Receiver} :
    hasNamedReceiver receiver = true ↔ ∀ named, receiver = some named → named.name ≠ "" := by
  cases receiver with
  | none => simp [hasNamedReceiver]
  | some receiver => simp [hasNamedReceiver]

theorem isNamed_of_parse {qualified : String} {ref : HandlerRef}
    (parsed : HandlerRef.parse qualified = .ok ref) : ref.IsNamed := by
  have importPath := importPath_of_parse parsed
  unfold parse at parsed
  split at parsed
  · cases parsed
  · split at parsed
    · cases parsed
    · next package receiver name _ =>
        split at parsed
        · cases parsed
        · next full =>
            cases parsed
            simp only [Bool.or_eq_true, not_or, Bool.not_eq_true, List.isEmpty_eq_false_iff,
              Bool.not_eq_false'] at full
            obtain ⟨⟨_, named⟩, hasReceiver⟩ := full
            refine ⟨importPath, fun blank => named ?_, hasNamedReceiver_iff.mp hasReceiver⟩
            simpa using congrArg String.toList blank

end HandlerRef

/-- What an identity denotes names a package and a function. -/
theorem FunctionId.name_of_resolve {identity : FunctionId} {ref : HandlerRef}
    (resolved : identity.resolve = .ok ref) : ref.name ≠ "" := by
  cases identity with
  | declared declared =>
      rw [resolve] at resolved
      split at resolved
      · cases resolved
      · next named =>
          cases resolved
          exact fun blank => named (.inr blank)
  | qualified name => exact (HandlerRef.isNamed_of_parse (mapError_eq_ok.mp resolved)).name

/-- A declared reference is taken as it is. -/
theorem FunctionId.eq_of_resolve_declared {declared ref : HandlerRef}
    (resolved : (FunctionId.declared declared).resolve = .ok ref) : ref = declared := by
  rw [resolve] at resolved
  split at resolved
  · cases resolved
  · cases resolved
    rfl

/-- The receiver of a declared reference is the one part that is not looked at. -/
theorem FunctionId.isNamed_or_declared {identity : FunctionId} {ref : HandlerRef}
    (resolved : identity.resolve = .ok ref) : ref.IsNamed ∨ identity = .declared ref := by
  cases identity with
  | declared declared => exact .inr (by rw [eq_of_resolve_declared resolved])
  | qualified name => exact .inl (HandlerRef.isNamed_of_parse (mapError_eq_ok.mp resolved))

/-! ## References of an extracted tree -/

/-- The functions of a definition. -/
def EndpointDef.functions (definition : EndpointDef) : List Function :=
  definition.handler :: definition.middleware

theorem EndpointDef.ResolvesTo.functions {keys : TagKeys} {definition : EndpointDef}
    {endpoint : Endpoint} (resolves : definition.ResolvesTo keys endpoint) :
    Function.ResolveTo definition.functions endpoint.refs :=
  .cons resolves.handler resolves.middleware

namespace Route

variable {keys : TagKeys} {route vertex : Route} {tree : PathNode} {function : Function}
  {ref : HandlerRef}

/-- The functions that are registered on a vertex itself. -/
def functions (vertex : Route) : List Function :=
  vertex.middleware ++ vertex.endpoints.toList.flatMap fun entry => entry.2.functions

/-- A function is registered somewhere in a tree of routes. -/
def Registers (route : Route) (function : Function) : Prop :=
  ∃ address vertex, route.descend? address = some vertex ∧ function ∈ vertex.functions

/-- The line that leads to a vertex consists of vertices of the tree. -/
theorem mem_lineage {address : List Nat} (onLine : vertex ∈ route.lineage address) :
    ∃ address, route.descend? address = some vertex := by
  induction address generalizing route with
  | nil =>
      cases List.mem_singleton.mp onLine
      exact ⟨[], rfl⟩
  | cons index rest ih =>
      rw [lineage] at onLine
      split at onLine
      · cases List.mem_singleton.mp onLine
        exact ⟨[], rfl⟩
      · next child found =>
          rcases List.mem_cons.mp onLine with rfl | below
          · exact ⟨[], rfl⟩
          · obtain ⟨address, reached⟩ := ih below
            exact ⟨index :: address, by rw [descend?, found]; exact reached⟩

/-- The endpoints of a node refer to what the functions of its vertex denote. -/
theorem ResolvesTo.endpointFunctions {parent : List PathSegment} {inherited : List HandlerRef}
    {node : PathNode} (resolves : vertex.ResolvesTo keys parent inherited node) :
    List.Forall₂ (fun entry endpoint => Function.ResolveTo entry.2.functions endpoint.refs)
      vertex.endpoints.toList node.endpoints :=
  (resolveEndpoints_eq_ok_iff.mp resolves.endpoints).imp fun _ _ related =>
    related.2.2.functions

/-- Every reference of an extracted tree is what a registered function denotes. -/
theorem exists_registered (extracted : route.extract keys = .ok tree) {node : PathNode}
    (visited : node ∈ tree.walk) (member : ref ∈ node.refs) :
    ∃ function, route.Registers function ∧ function.identity.resolve = .ok ref := by
  obtain ⟨address, vertex, reached, resolved⟩ := extract_resolvesAt extracted visited
  rcases List.mem_append.mp member with inChain | inEndpoints
  · -- Middleware may come from any vertex above.
    obtain ⟨own, ofOwn, chain⟩ := resolved.chain
    rw [chain, List.nil_append] at inChain
    obtain ⟨function, onLine, denotes⟩ := exists_of_mem_right ofOwn inChain
    obtain ⟨owner, inLine, registered⟩ := List.mem_flatMap.mp onLine
    obtain ⟨above, reachedOwner⟩ := mem_lineage inLine
    exact ⟨function, ⟨above, owner, reachedOwner, List.mem_append_left _ registered⟩, denotes⟩
  · obtain ⟨endpoint, bound, inEndpoint⟩ := List.mem_flatMap.mp inEndpoints
    obtain ⟨_, _, resolves, _⟩ := resolved.resolves
    obtain ⟨entry, defined, ofEntry⟩ := exists_of_mem_right resolves.endpointFunctions bound
    obtain ⟨function, registered, denotes⟩ := exists_of_mem_right ofEntry inEndpoint
    have inVertex : function ∈ vertex.functions :=
      List.mem_append_right _ (List.mem_flatMap.mpr ⟨entry, defined, registered⟩)
    exact ⟨function, ⟨address, vertex, reached, inVertex⟩, denotes⟩

/-- Every function that was registered denotes a reference of the extracted tree. -/
theorem Registers.exists_ref (registers : route.Registers function)
    (extracted : route.extract keys = .ok tree) :
    ∃ ref, function.identity.resolve = .ok ref ∧ ∃ node ∈ tree.walk, ref ∈ node.refs := by
  obtain ⟨address, vertex, reached, registered⟩ := registers
  obtain ⟨_, resolvesTop⟩ := extract_eq_ok_iff.mp extracted
  have related := resolvesTop.descend address
  rw [reached] at related
  obtain ⟨node, reachedNode, resolved⟩ := rel_some_left related
  have visited : node ∈ tree.walk := PathNode.mem_walk_iff.mpr ⟨address, reachedNode⟩
  obtain ⟨_, _, resolves, _⟩ := resolved.resolves
  rcases List.mem_append.mp registered with inMiddleware | inEndpoints
  · obtain ⟨own, ofOwn, chain⟩ := resolves.middleware
    obtain ⟨ref, member, denotes⟩ := exists_of_mem_left ofOwn inMiddleware
    refine ⟨ref, denotes, node, visited, List.mem_append_left _ ?_⟩
    rw [chain]
    exact List.mem_append_right _ member
  · obtain ⟨entry, defined, inEntry⟩ := List.mem_flatMap.mp inEndpoints
    obtain ⟨endpoint, bound, ofEntry⟩ := exists_of_mem_left resolves.endpointFunctions defined
    obtain ⟨ref, member, denotes⟩ := exists_of_mem_left ofEntry inEntry
    exact ⟨ref, denotes, node, visited,
      List.mem_append_right _ (List.mem_flatMap.mpr ⟨endpoint, bound, member⟩)⟩

/-- Every reference of an extracted tree names a package and a function.  The tree has a
reference with a nameless receiver exactly if this reference was declared for a function
that was registered; what a qualified name denotes is named in all its parts. -/
theorem extract_refs_named (extracted : route.extract keys = .ok tree) :
    (∀ node ∈ tree.walk, ∀ ref ∈ node.refs, ref.importPath ≠ "" ∧ ref.name ≠ "") ∧
      ∀ ref : HandlerRef, ¬ ref.IsNamed →
        ((∃ node ∈ tree.walk, ref ∈ node.refs) ↔
          ∃ function, route.Registers function ∧ function.identity = .declared ref) := by
  constructor
  · intro node visited ref member
    obtain ⟨function, _, denotes⟩ := exists_registered extracted visited member
    exact ⟨FunctionId.importPath_of_resolve denotes, FunctionId.name_of_resolve denotes⟩
  · intro ref unnamed
    constructor
    · rintro ⟨node, visited, member⟩
      obtain ⟨function, registered, denotes⟩ := exists_registered extracted visited member
      exact ⟨function, registered, (FunctionId.isNamed_or_declared denotes).resolve_left unnamed⟩
    · rintro ⟨function, registered, declared⟩
      -- A function that was registered has been accepted, for there is a tree.
      obtain ⟨taken, denotes, inTree⟩ := registered.exists_ref extracted
      rw [declared] at denotes
      rwa [FunctionId.eq_of_resolve_declared denotes] at inTree

end Route

/-! ## A declared receiver without a name -/

namespace Users

/-- A method of a pointer to a type that has no name. -/
def namelessRef : HandlerRef :=
  ⟨"List", "example.com/users", some ⟨"", true⟩⟩

/-- Routes that lead to this method. -/
def namelessRoutes : Route :=
  Route.root.bindEndpoint .get <| EndpointDef.plain
    (.handler (.declared namelessRef) (.emptyRecord "Request" "example.com/users")
      (.emptyRecord "Reply" "example.com/users")) ""

theorem namelessRoutes_extracted : ∃ tree, namelessRoutes.extract {} = .ok tree :=
  ⟨_, rfl⟩

theorem namelessRef_not_isNamed : ¬ namelessRef.IsNamed :=
  fun named => named.receiver _ rfl rfl

theorem namelessRef_registered : ∃ function, namelessRoutes.Registers function ∧
    function.identity = .declared namelessRef :=
  ⟨_, ⟨[], namelessRoutes, rfl, List.mem_cons_self⟩, rfl⟩

end Users

theorem Route.extract_refs_named_nameless : ∃ tree, Users.namelessRoutes.extract {} = .ok tree ∧
    ¬ Users.namelessRef.IsNamed ∧ ∃ node ∈ tree.walk, Users.namelessRef ∈ node.refs := by
  obtain ⟨tree, extracted⟩ := Users.namelessRoutes_extracted
  obtain ⟨_, nameless⟩ := Route.extract_refs_named extracted
  exact ⟨tree, extracted, Users.namelessRef_not_isNamed,
    (nameless _ Users.namelessRef_not_isNamed).mpr Users.namelessRef_registered⟩

/-- Not every reference of an extracted tree can be spelled out: a receiver without a name
is taken over from a declared reference. -/
theorem Route.not_every_ref_named : ¬ ∀ (keys : TagKeys) (route : Route) (tree : PathNode),
    route.extract keys = .ok tree → ∀ node ∈ tree.walk, ∀ ref ∈ node.refs, ref.IsNamed := by
  intro everyNamed
  obtain ⟨tree, extracted⟩ := Users.namelessRoutes_extracted
  obtain ⟨function, registered, declared⟩ := Users.namelessRef_registered
  obtain ⟨ref, denotes, node, visited, member⟩ := registered.exists_ref extracted
  rw [declared] at denotes
  rw [FunctionId.eq_of_resolve_declared denotes] at member
  exact Users.namelessRef_not_isNamed (everyNamed {} _ tree extracted node visited _ member)

end RouteAtlas

/-
Module: RouteAtlas.Proofs.EndpointPlaces
Purpose: When no two endpoints of a tree are placed under the same path and method, so
  that a document has an operation for each of them.
Main exports: PathNode.IsUnambiguous, OpenApi.placements_nodup, OpenApi.operationCount,
  Route.IsUnambiguous, Route.extract_keeps_endpoints
-/
import Mathlib.Data.Prod.Basic
import RouteAtlas.Proofs.DocumentRecords
import RouteAtlas.Proofs.ExtractedTree
import RouteAtlas.Proofs.ExtractionMirror
import RouteAtlas.Proofs.PathRendering

namespace RouteAtlas

open Fallible

/-! ## URLs of the nodes of a tree -/

namespace PathNode

/-- A tree in which the URL of a node tells the node, and the method of an endpoint the
endpoint. -/
structure IsUnambiguous (tree : PathNode) : Prop where
  top : tree.kind = .root
  siblings : ∀ owner ∈ tree.preorder, (owner.children.map segment).Nodup
  names : ∀ owner ∈ preorderList tree.children,
    owner.segment.isVisible ∧ owner.segment.IsPlain .braces
  methods : ∀ owner ∈ tree.preorder, (owner.endpoints.map Endpoint.method).Nodup

variable {tree : PathNode} {position position' : Position}

/-- Below its first segment, the chain of a node is made of segments from below the
top. -/
theorem chain_of_position (member : position ∈ tree.positions) :
    ∃ lower, position.chain = tree.segment :: lower ∧
      ∀ part ∈ lower, ∃ owner ∈ preorderList tree.children, owner.segment = part := by
  rw [positions_eq] at member
  rcases List.mem_cons.mp member with rfl | member
  · exact ⟨[], rfl, by simp⟩
  · obtain ⟨inner, found, rfl⟩ := List.mem_map.mp member
    refine ⟨inner.chain, rfl, ?_⟩
    intro part inChain
    obtain ⟨owner, inLine, same⟩ := List.mem_map.mp inChain
    exact ⟨owner, mem_preorderList_of_position tree.children inner found owner inLine, same⟩

/-- Positions with the same URL have the same chain. -/
theorem IsUnambiguous.chain_eq (unambiguous : tree.IsUnambiguous)
    (member : position ∈ tree.positions) (member' : position' ∈ tree.positions)
    (same : position.url = position'.url) : position.chain = position'.chain := by
  obtain ⟨lower, chain, parts⟩ := chain_of_position member
  obtain ⟨lower', chain', parts'⟩ := chain_of_position member'
  have plain : ∀ {segments : List PathSegment},
      (∀ part ∈ segments, ∃ owner ∈ preorderList tree.children, owner.segment = part) →
        IsPlainChain .braces segments := by
    intro segments parts part inChain
    obtain ⟨owner, found, rfl⟩ := parts part inChain
    exact unambiguous.names owner found
  have fromTop : ∀ segments : List PathSegment,
      renderPath .braces (tree.segment :: segments) = renderPath .braces segments := by
    intro segments
    rw [renderPath, renderPath, renderSegments_cons_of_root unambiguous.top]
  rw [Position.url, Position.url, chain, chain', fromTop, fromTop] at same
  rw [chain, chain', renderPath_injective (plain parts) (plain parts') same]

/-- No two nodes have the same URL. -/
theorem IsUnambiguous.urls_nodup (unambiguous : tree.IsUnambiguous) :
    (tree.positions.map Position.url).Nodup := by
  have chains := chains_nodup tree unambiguous.siblings
  refine List.Nodup.map_on ?_ chains.of_map
  intro position member position' member' same
  exact List.inj_on_of_nodup_map chains member member'
    (unambiguous.chain_eq member member' same)

end PathNode

/-! ## Places of the endpoints of a tree -/

namespace OpenApi

open PathNode (Position)

variable {tree : PathNode} {paths : Dictionary PathItem}

/-- Endpoints of different nodes are placed under different paths, and those of one node
under different methods. -/
theorem placements_nodup (unambiguous : tree.IsUnambiguous) :
    ((tree.placements []).map placeOf).Nodup := by
  rw [PathNode.placements_eq, List.map_flatMap, List.nodup_flatMap]
  constructor
  · intro position member
    have inTree : position.node ∈ tree.preorder := by
      rw [← PathNode.nodes_of_positions]
      exact List.mem_map_of_mem member
    have methods := unambiguous.methods position.node inTree
    have places := methods.map (Prod.mk_right_injective position.url)
    simpa only [List.map_map, Function.comp_def, placeOf] using places
  · have urls := List.pairwise_map.mp unambiguous.urls_nodup
    refine urls.imp ?_
    intro position position' apart place here there
    simp only [List.map_map, List.mem_map, Function.comp_apply, placeOf] at here there
    obtain ⟨_, _, rfl⟩ := here
    obtain ⟨_, _, same⟩ := there
    exact apart (congrArg Prod.fst same).symm

/-! ## Operations of a document -/

/-- The paths and methods that have an operation, in the order of the paths. -/
def slots (paths : Dictionary PathItem) : List (String × Method) :=
  paths.flatMap fun entry => entry.2.toList.map fun slot => (entry.1, slot.1)

/-- The number of operations that a document has, over all paths and methods. -/
def operationCount (document : OpenApi) : Nat :=
  (slots document.paths).length

theorem mem_slots_iff (sorted : paths.IsSorted) {path : String} {method : Method} :
    (path, method) ∈ slots paths ↔ (operation? paths path method).isSome := by
  rw [operation?_isSome_iff sorted, slots, List.mem_flatMap]
  constructor
  · rintro ⟨⟨_, item⟩, member, found⟩
    obtain ⟨⟨_, operation⟩, filled, same⟩ := List.mem_map.mp found
    cases same
    exact ⟨item, member, Option.isSome_iff_exists.mpr ⟨operation, Method.Map.mem_toList.mp filled⟩⟩
  · rintro ⟨item, member, filled⟩
    obtain ⟨operation, found⟩ := Option.isSome_iff_exists.mp filled
    exact ⟨(path, item), member,
      List.mem_map.mpr ⟨(method, operation), Method.Map.mem_toList.mpr found, rfl⟩⟩

theorem toList_methods_nodup {α : Type} (map : Method.Map α) :
    (map.toList.map Prod.fst).Nodup := by
  refine List.pairwise_map.mpr ((Method.Map.toList_ascending map).imp ?_)
  intro one other ascending same
  rw [same] at ascending
  exact Nat.lt_irrefl _ ascending

theorem slots_nodup (sorted : paths.IsSorted) : (slots paths).Nodup := by
  rw [slots, List.nodup_flatMap]
  constructor
  · intro entry _
    have methods := (toList_methods_nodup entry.2).map (Prod.mk_right_injective entry.1)
    rwa [List.map_map] at methods
  · refine sorted.imp ?_
    intro entry entry' ascending slot here there
    obtain ⟨_, _, rfl⟩ := List.mem_map.mp here
    obtain ⟨_, _, same⟩ := List.mem_map.mp there
    rw [← congrArg Prod.fst same] at ascending
    exact String.lt_irrefl _ ascending

/-- Where endpoints have places of their own, a document has as many operations as there
are endpoints. -/
theorem length_slots_of_nodup (apart : ((tree.placements []).map placeOf).Nodup) :
    (slots (pathsOf tree)).length = (tree.placements []).length := by
  have sorted := pathsOf_isSorted tree
  have same : (slots (pathsOf tree)).Perm ((tree.placements []).map placeOf) := by
    refine (List.perm_ext_iff_of_nodup (slots_nodup sorted) apart).mpr ?_
    rintro ⟨path, method⟩
    rw [mem_slots_iff sorted, operation?_pathsOf_isSome_iff]
  rw [same.length_eq, List.length_map]

end OpenApi

/-! ## Extracted trees -/

namespace Route

variable {keys : TagKeys} {route : Route} {tree : PathNode}

mutual

/-- All vertices of a tree of routes. -/
def vertices : Route → List Route
  | ⟨name, kind, endpoints, middleware, children⟩ =>
      ⟨name, kind, endpoints, middleware, children⟩ :: verticesList children

/-- All vertices of several trees. -/
def verticesList : List Route → List Route
  | [] => []
  | route :: rest => route.vertices ++ verticesList rest

end

theorem vertices_eq (route : Route) : route.vertices = route :: verticesList route.children := by
  cases route
  rfl

theorem mem_verticesList {children : List Route} {child vertex : Route}
    (member : child ∈ children) (inChild : vertex ∈ child.vertices) :
    vertex ∈ verticesList children := by
  induction children with
  | nil => cases member
  | cons first rest ih =>
      rw [verticesList, List.mem_append]
      rcases List.mem_cons.mp member with rfl | later
      · exact .inl inChild
      · exact .inr (ih later)

theorem mem_vertices_of_descend {address : List Nat} {route vertex : Route}
    (reached : route.descend? address = some vertex) : vertex ∈ route.vertices := by
  induction address generalizing route with
  | nil =>
      cases reached
      rw [vertices_eq]
      exact List.mem_cons_self
  | cons index rest ih =>
      rw [descend?] at reached
      split at reached
      · cases reached
      · next child found =>
          rw [vertices_eq]
          exact List.mem_cons_of_mem _ (mem_verticesList (List.mem_of_getElem? found) (ih reached))

/-- A tree of routes in which siblings differ in name or kind and no name reads like
something else. -/
structure IsUnambiguous (route : Route) : Prop where
  siblings : ∀ vertex ∈ route.vertices, (vertex.children.map segment).Nodup
  names : ∀ vertex ∈ route.vertices, vertex.segment.IsPlain .braces

theorem ResolvesTo.segment_eq {parent : List PathSegment} {inherited : List HandlerRef}
    {node : PathNode} (resolves : route.ResolvesTo keys parent inherited node) :
    node.segment = route.segment := by
  rw [PathNode.segment, segment, resolves.name, resolves.kind]

theorem ResolvesTo.children_segments {parent : List PathSegment}
    {inherited : List HandlerRef} {node : PathNode}
    (resolves : route.ResolvesTo keys parent inherited node) :
    node.children.map PathNode.segment = route.children.map segment := by
  symm
  apply map_eq_map_of_related _ resolves.children
  rintro child below ⟨_, resolved⟩
  exact (resolve_eq_ok_iff.mp resolved).segment_eq.symm

/-- What is unambiguous in a tree of routes is so in the tree that is extracted. -/
theorem extract_isUnambiguous (extracted : route.extract keys = .ok tree)
    (unambiguous : route.IsUnambiguous) : tree.IsUnambiguous := by
  obtain ⟨isRoot, resolvesTop⟩ := extract_eq_ok_iff.mp extracted
  have atNode : ∀ owner ∈ tree.preorder, ∃ address vertex,
      route.descend? address = some vertex ∧ route.ResolvesAt keys [] [] address vertex owner := by
    intro owner member
    rw [← PathNode.walk_eq_preorder] at member
    exact extract_resolvesAt extracted member
  exact {
    top := by rw [resolvesTop.kind, isRoot]
    siblings := by
      intro owner member
      obtain ⟨_, vertex, reached, resolved⟩ := atNode owner member
      obtain ⟨_, _, resolves, _⟩ := resolved.resolves
      rw [resolves.children_segments]
      exact unambiguous.siblings vertex (mem_vertices_of_descend reached)
    names := by
      intro owner member
      obtain ⟨index, child, found, address, below⟩ :=
        (PathNode.mem_preorderList_iff tree.children owner).mp member
      have reached := PathNode.descend?_cons_eq_some_iff.mpr ⟨child, found, below⟩
      obtain ⟨vertex, atVertex, resolved⟩ := extract_descends extracted reached
      obtain ⟨_, _, resolves, _⟩ := resolved.resolves
      rw [resolves.segment_eq]
      have plain := unambiguous.names vertex (mem_vertices_of_descend atVertex)
      refine ⟨PathSegment.isVisible_iff.mpr ?_, plain⟩
      exact resolved.nested (List.cons_ne_nil index address)
    methods := by
      intro owner member
      obtain ⟨_, vertex, _, resolved⟩ := atNode owner member
      obtain ⟨_, _, resolves, _⟩ := resolved.resolves
      rw [resolveEndpoints_methods resolves.endpoints]
      exact OpenApi.toList_methods_nodup vertex.endpoints }

/-- The document of an unambiguous tree of routes loses no endpoint: it has as many
operations as there are endpoints, and each of them is found under its URL and its
method. -/
theorem extract_keeps_endpoints (extracted : route.extract keys = .ok tree)
    (unambiguous : route.IsUnambiguous) (title version server : String) :
    (OpenApi.ofTree tree title version server).operationCount = tree.allEndpoints.length ∧
      ∀ owner endpoint, (owner, endpoint) ∈ tree.allEndpoints →
        ∃ item, (OpenApi.ofTree tree title version server).paths.get? (endpoint.url .braces) =
            some item ∧
          item.get? endpoint.method = some (Operation.ofEndpoint endpoint) := by
  have apart := OpenApi.placements_nodup (extract_isUnambiguous extracted unambiguous)
  have places := extract_placements extracted
  constructor
  · refine (OpenApi.length_slots_of_nodup apart).trans ?_
    rw [places, List.length_map]
  · intro owner endpoint member
    have placed : (endpoint.url .braces, endpoint) ∈ tree.placements [] := by
      rw [places]
      exact List.mem_map_of_mem member
    exact Option.bind_eq_some_iff.mp (OpenApi.operation?_of_nodup apart placed)

end Route

/-! ## A directory of users -/

namespace Users

/-- One user, under the identifier or under a fixed name. -/
def profile (kind : PathKind) (name : String) : Route :=
  (Route.vertex "me" kind).bindEndpoint .get (.plain (handler name) "")

/-- A directory in which the user who asks is found under a name that is also the name of
a path variable. -/
def directory : Route :=
  Route.root.bindEndpoint .get (.plain (handler "Home") "") |>.addChild <|
    (Route.vertex "users" .static).bindEndpoint .post (.plain (handler "Join") "")
      |>.addChild (profile .param "Fetch") |>.addChild (profile .static "Self")

theorem directory_extracted : ∃ tree, directory.extract {} = .ok tree :=
  ⟨_, rfl⟩

theorem directory_isUnambiguous : directory.IsUnambiguous :=
  ⟨by decide, by decide⟩

end Users

theorem Route.extract_keeps_endpoints_directory : Users.directory.IsUnambiguous ∧
    ∃ tree, Users.directory.extract {} = .ok tree ∧
      (OpenApi.ofTree tree "Users" "1.0.0" "").operationCount = tree.allEndpoints.length ∧
      ∀ owner endpoint, (owner, endpoint) ∈ tree.allEndpoints →
        ∃ item, (OpenApi.ofTree tree "Users" "1.0.0" "").paths.get? (endpoint.url .braces) =
            some item ∧
          item.get? endpoint.method = some (Operation.ofEndpoint endpoint) := by
  obtain ⟨tree, extracted⟩ := Users.directory_extracted
  exact ⟨Users.directory_isUnambiguous, tree, extracted,
    Route.extract_keeps_endpoints extracted Users.directory_isUnambiguous "Users" "1.0.0" ""⟩

end RouteAtlas

/-
Module: RouteAtlas.Proofs.SiblingOrder
Purpose: What does not change when the siblings of a tree of routes are put in another
  order: whether it is extracted, its aliases, its endpoint views and its document.
Main exports: Route.Reordered, Route.extract_reordered, PathNode.IsRearrangement,
  Route.siblings_commute
-/
import Mathlib.Data.List.Perm.Basic
import RouteAtlas.OpenApi.Printer
import RouteAtlas.Proofs.AliasTable
import RouteAtlas.Proofs.BackEndAgreement
import RouteAtlas.Proofs.EndpointPlaces

namespace RouteAtlas

open Fallible

/-! ## Trees that differ in the order of siblings -/

namespace Route

/-- Trees of routes that differ in nothing but the order of the children, at any number
of vertices. -/
inductive Reordered : Route → Route → Prop where
  | children {name : String} {kind : PathKind} {endpoints : Method.Map EndpointDef}
      {middleware : List Function} {before between after : List Route}
      (below : List.Forall₂ Reordered before between) (order : between.Perm after) :
      Reordered ⟨name, kind, endpoints, middleware, before⟩
        ⟨name, kind, endpoints, middleware, after⟩

mutual

theorem Reordered.refl : ∀ route : Route, route.Reordered route
  | ⟨_, _, _, _, children⟩ => .children (reordered_refl children) (.refl children)

theorem reordered_refl : ∀ routes : List Route, List.Forall₂ Reordered routes routes
  | [] => .nil
  | route :: rest => .cons (.refl route) (reordered_refl rest)

end

mutual

theorem Reordered.symm : ∀ {route route' : Route},
    route.Reordered route' → route'.Reordered route
  | ⟨_, _, _, _, before⟩, _, .children below order => by
      have back := reordered_symm before _ below
      obtain ⟨between, related, order⟩ := List.perm_comp_forall₂ order.symm back
      exact .children related order

theorem reordered_symm : ∀ (routes routes' : List Route),
    List.Forall₂ Reordered routes routes' → List.Forall₂ Reordered routes' routes
  | [], _, .nil => .nil
  | _ :: rest, _, .cons first others => .cons first.symm (reordered_symm rest _ others)

end

theorem Reordered.kind_eq {route route' : Route} (reordered : route.Reordered route') :
    route'.kind = route.kind := by
  cases reordered
  rfl

end Route

/-! ## Nodes in another order -/

namespace PathNode

/-- A node without the nodes below it. -/
def bare (node : PathNode) : PathNode :=
  { node with children := [] }

/-- Trees that have the same nodes, apart from what is below each of them, in whatever
order. -/
def IsRearrangement (tree tree' : PathNode) : Prop :=
  (tree.preorder.map bare).Perm (tree'.preorder.map bare)

theorem preorderList_eq_flatMap (nodes : List PathNode) :
    preorderList nodes = nodes.flatMap preorder := by
  induction nodes with
  | nil => rfl
  | cons node rest ih => rw [preorderList, ih, List.flatMap_cons]

variable {tree tree' : PathNode}

/-- What is listed of each node by itself is listed of a rearranged tree in another
order. -/
theorem IsRearrangement.flatMap {β : Type} (rearranged : tree.IsRearrangement tree')
    (list : PathNode → List β) (own : ∀ node, list node.bare = list node) :
    (tree.preorder.flatMap list).Perm (tree'.preorder.flatMap list) := by
  have lists := rearranged.flatMap_right list
  simpa only [List.flatMap_map, own] using lists

/-- Aliases depend on what the nodes refer to, not on the order in which they are
visited. -/
theorem IsRearrangement.allocate_eq (rearranged : tree.IsRearrangement tree') :
    SymbolTable.allocate tree = SymbolTable.allocate tree' := by
  have gains := Collector.gains_visit tree {}
  have gains' := Collector.gains_visit tree' {}
  have packages := rearranged.flatMap packages fun _ => rfl
  have receivers := rearranged.flatMap receivers fun _ => rfl
  rw [← walk_eq_preorder, ← walk_eq_preorder] at packages receivers
  have sameImports : Ascending.ofList (Collector.visit tree {}).imports =
      Ascending.ofList (Collector.visit tree' {}).imports := by
    apply Ascending.ofList_congr
    intro path
    rw [gains.imports, gains'.imports, packages.mem_iff]
  have sameReceivers : Ascending.ofList (Collector.visit tree {}).receivers =
      Ascending.ofList (Collector.visit tree' {}).receivers := by
    apply Ascending.ofList_congr
    intro key
    rw [gains.receivers, gains'.receivers, receivers.mem_iff]
  rw [SymbolTable.allocate, SymbolTable.allocate, Collector.finish, Collector.finish,
    sameImports, sameReceivers]

/-- The endpoints of a node, with the node without what is below it. -/
theorem bare_allEndpoints (tree : PathNode) :
    (tree.allEndpoints.map fun owned => (owned.1.bare, owned.2)) =
      tree.preorder.flatMap fun owner => owner.endpoints.map fun endpoint =>
        (owner.bare, endpoint) := by
  rw [allEndpoints_eq, List.map_flatMap]
  simp only [List.map_map, Function.comp_def]

theorem IsRearrangement.allEndpoints (rearranged : tree.IsRearrangement tree') :
    (tree.allEndpoints.map fun owned => (owned.1.bare, owned.2)).Perm
      (tree'.allEndpoints.map fun owned => (owned.1.bare, owned.2)) := by
  rw [bare_allEndpoints, bare_allEndpoints]
  exact rearranged.flatMap _ fun _ => rfl

/-- With one table for both, rearranged trees have the same views in another order. -/
theorem IsRearrangement.endpointViews (rearranged : tree.IsRearrangement tree')
    {table : SymbolTable} {options : RenderOptions} {context context' : RegistrationContext}
    (built : RegistrationContext.build tree table options = .ok context)
    (built' : RegistrationContext.build tree' table options = .ok context') :
    context.endpoints.Perm context'.endpoints := by
  obtain ⟨_, ofEndpoints, _⟩ := RegistrationContext.build_eq_ok_iff.mp built
  obtain ⟨_, ofEndpoints', _⟩ := RegistrationContext.build_eq_ok_iff.mp built'
  let IsView (owned : PathNode × Endpoint) (view : EndpointView) : Prop :=
    EndpointView.build table options.conventions owned.1 owned.2 = .ok view
  have unique : Relator.RightUnique IsView := by
    intro owned view view' ofOwned ofOwned'
    exact Except.ok.inj (ofOwned.symm.trans ofOwned')
  -- A view does not see what is below the owner of its endpoint.
  have ofBare : List.Forall₂ IsView
      (tree.allEndpoints.map fun owned => (owned.1.bare, owned.2)) context.endpoints :=
    List.forall₂_map_left_iff.mpr ofEndpoints
  have ofBare' : List.Forall₂ IsView
      (tree'.allEndpoints.map fun owned => (owned.1.bare, owned.2)) context'.endpoints :=
    List.forall₂_map_left_iff.mpr ofEndpoints'
  exact List.rel_perm_imp unique ofBare ofBare' rearranged.allEndpoints

end PathNode

/-! ## Extraction -/

namespace Route

variable {keys : TagKeys}

/-- A child is resolved to a node below some path and middleware. -/
def ResolvesBelow (keys : TagKeys) (parent : List PathSegment) (inherited : List HandlerRef)
    (child : Route) (below : PathNode) : Prop :=
  child.kind ≠ .root ∧ child.resolve keys parent inherited = .ok below

/-- Siblings are resolved one by one, so in whatever order. -/
theorem resolve_perm {parent : List PathSegment} {inherited : List HandlerRef}
    {routes routes' : List Route} {nodes : List PathNode} (order : routes.Perm routes')
    (related : List.Forall₂ (ResolvesBelow keys parent inherited) routes nodes) :
    ∃ nodes', List.Forall₂ (ResolvesBelow keys parent inherited) routes' nodes' ∧
      nodes.Perm nodes' := by
  obtain ⟨nodes', related', moved⟩ := List.perm_comp_forall₂ order.symm related
  exact ⟨nodes', related', moved.symm⟩

mutual

/-- A reordered vertex is resolved to a rearranged node, below whatever path and
middleware.  Its own endpoints and middleware are those of the first vertex. -/
theorem resolvesTo_reordered : ∀ {route route' : Route} {parent : List PathSegment}
    {inherited : List HandlerRef} {node : PathNode}, route.Reordered route' →
      route.ResolvesTo keys parent inherited node →
        ∃ node', route'.ResolvesTo keys parent inherited node' ∧ node.IsRearrangement node'
  | ⟨name, kind, endpoints, middleware, before⟩, _, parent, inherited, node,
      .children below order, resolves => by
      obtain ⟨between, ofBetween, rearranged⟩ := resolves_reordered before _ below
        resolves.children
      obtain ⟨nodes', ofAfter, moved⟩ := resolve_perm order ofBetween
      refine ⟨⟨name, kind, node.endpoints, node.middleware, nodes'⟩, ?_, ?_⟩
      · exact {
          name := rfl
          kind := rfl
          endpoints := resolves.endpoints
          middleware := resolves.middleware
          children := ofAfter }
      · obtain ⟨_, _, _, _, _⟩ := node
        cases resolves.name
        cases resolves.kind
        rw [PathNode.IsRearrangement, PathNode.preorder, PathNode.preorder]
        have inOrder := moved.flatMap_right PathNode.preorder
        rw [← PathNode.preorderList_eq_flatMap, ← PathNode.preorderList_eq_flatMap] at inOrder
        exact (rearranged.trans (inOrder.map PathNode.bare)).cons _

theorem resolves_reordered : ∀ (routes routes' : List Route) {parent : List PathSegment}
    {inherited : List HandlerRef} {nodes : List PathNode},
    List.Forall₂ Reordered routes routes' →
      List.Forall₂ (ResolvesBelow keys parent inherited) routes nodes →
        ∃ nodes', List.Forall₂ (ResolvesBelow keys parent inherited) routes' nodes' ∧
          ((PathNode.preorderList nodes).map PathNode.bare).Perm
            ((PathNode.preorderList nodes').map PathNode.bare)
  | [], _, _, _, _, .nil, .nil => ⟨[], .nil, .refl _⟩
  | route :: rest, _, _, _, _, .cons first others, .cons ⟨nested, resolved⟩ resolvedRest => by
      obtain ⟨node', resolves', rearranged⟩ :=
        resolvesTo_reordered first (resolve_eq_ok_iff.mp resolved)
      obtain ⟨nodes', related, rearrangedRest⟩ := resolves_reordered rest _ others resolvedRest
      rw [← first.kind_eq] at nested
      refine ⟨node' :: nodes', .cons ⟨nested, resolve_eq_ok_iff.mpr resolves'⟩ related, ?_⟩
      rw [PathNode.preorderList, PathNode.preorderList, List.map_append, List.map_append]
      exact rearranged.append rearrangedRest

end

/-- A reordered tree of routes is extracted to a rearranged tree. -/
theorem extract_reordered {route route' : Route} {tree : PathNode}
    (reordered : route.Reordered route') (extracted : route.extract keys = .ok tree) :
    ∃ tree', route'.extract keys = .ok tree' ∧ tree.IsRearrangement tree' := by
  obtain ⟨isRoot, resolves⟩ := extract_eq_ok_iff.mp extracted
  obtain ⟨tree', resolves', rearranged⟩ := resolvesTo_reordered reordered resolves
  rw [← reordered.kind_eq] at isRoot
  exact ⟨tree', extract_eq_ok_iff.mpr ⟨isRoot, resolves'⟩, rearranged⟩

/-- Endpoints of rearranged trees are placed under the same URLs in another order. -/
theorem extract_placements_perm {route route' : Route} {tree tree' : PathNode}
    (extracted : route.extract keys = .ok tree) (extracted' : route'.extract keys = .ok tree')
    (rearranged : tree.IsRearrangement tree') :
    (tree.placements []).Perm (tree'.placements []) := by
  have places := rearranged.allEndpoints.map fun owned => (owned.2.url .braces, owned.2)
  rw [List.map_map, List.map_map] at places
  rw [extract_placements extracted, extract_placements extracted']
  exact places

/-- The order of siblings, at any number of vertices, makes no difference to whether a
tree of routes is extracted, to the aliases of its packages and receivers, and to which
views its endpoints have.  Where no two endpoints share a URL and a method, it makes none
to the text of the document either. -/
theorem siblings_commute {route route' : Route} (reordered : route.Reordered route')
    (keys : TagKeys) :
    ((∃ tree, route.extract keys = .ok tree) ↔ ∃ tree', route'.extract keys = .ok tree') ∧
      ∀ tree tree', route.extract keys = .ok tree → route'.extract keys = .ok tree' →
        SymbolTable.allocate tree = SymbolTable.allocate tree' ∧
        (∀ options, ∃ context context',
          RegistrationContext.build tree (.allocate tree) options = .ok context ∧
          RegistrationContext.build tree' (.allocate tree') options = .ok context' ∧
          context.endpoints.Perm context'.endpoints) ∧
        ((tree.allEndpoints.map fun (_, endpoint) =>
            (endpoint.url .braces, endpoint.method)).Nodup →
          ∀ title version server,
            OpenApi.render tree title version server =
              OpenApi.render tree' title version server) := by
  constructor
  · constructor
    · rintro ⟨tree, extracted⟩
      obtain ⟨tree', extracted', _⟩ := extract_reordered reordered extracted
      exact ⟨tree', extracted'⟩
    · rintro ⟨tree', extracted'⟩
      obtain ⟨tree, extracted, _⟩ := extract_reordered reordered.symm extracted'
      exact ⟨tree, extracted⟩
  · intro tree tree' extracted extracted'
    obtain ⟨other, extractedOther, rearranged⟩ := extract_reordered reordered extracted
    cases Except.ok.inj (extractedOther.symm.trans extracted')
    have sameTable := rearranged.allocate_eq
    refine ⟨sameTable, ?_, ?_⟩
    · intro options
      obtain ⟨context, built⟩ :=
        RegistrationContext.build_succeeds options (extract_importable extracted)
      obtain ⟨context', built'⟩ :=
        RegistrationContext.build_succeeds options (extract_importable extracted')
      refine ⟨context, context', built, built', ?_⟩
      rw [sameTable] at built
      exact rearranged.endpointViews built built'
    · intro apart title version server
      have places : (tree.placements []).map OpenApi.placeOf =
          tree.allEndpoints.map fun (_, endpoint) => (endpoint.url .braces, endpoint.method) := by
        rw [extract_placements extracted, List.map_map]
        rfl
      rw [← places] at apart
      have same := OpenApi.pathsOf_eq_of_perm apart
        (extract_placements_perm extracted extracted' rearranged)
      rw [OpenApi.render, OpenApi.render, OpenApi.ofTree, OpenApi.ofTree, same]

end Route

/-! ## A directory and its state -/

namespace Users

/-- Whether the service runs. -/
def health : Route :=
  (Route.vertex "health" .static).bindEndpoint .get (.plain (handler "Health") "")

/-- Users by identifier and by a fixed name. -/
def members : Route :=
  (Route.vertex "users" .static).useMiddleware (middleware "Auth")
    |>.addChild (profile .param "Fetch") |>.addChild (profile .static "Self")

/-- The same, registered the other way round. -/
def members' : Route :=
  (Route.vertex "users" .static).useMiddleware (middleware "Auth")
    |>.addChild (profile .static "Self") |>.addChild (profile .param "Fetch")

def service : Route :=
  (Route.root.addChild health).addChild members

def service' : Route :=
  (Route.root.addChild members').addChild health

theorem service_reordered : service.Reordered service' := by
  have inMembers : members.Reordered members' :=
    .children (Route.reordered_refl _) (.swap _ _ [])
  exact .children (.cons (.refl health) (.cons inMembers .nil)) (.swap _ _ [])

theorem service_places_nodup {tree : PathNode} (extracted : service.extract {} = .ok tree) :
    (tree.allEndpoints.map fun (_, endpoint) =>
      (endpoint.url .braces, endpoint.method)).Nodup := by
  have places : (service.extract {}).toOption.map (fun tree =>
      (tree.placements []).map OpenApi.placeOf) =
        some [("/health", .get), ("/users/\x7bme\x7d", .get), ("/users/me", .get)] := by
    decide +kernel
  rw [extracted, Except.toOption, Option.map_some, Route.extract_placements extracted,
    List.map_map] at places
  have apart := Option.some.inj places
  exact apart ▸ by decide

end Users

theorem Route.siblings_commute_service : Users.service.Reordered Users.service' ∧
    ∃ tree tree', Users.service.extract {} = .ok tree ∧ Users.service'.extract {} = .ok tree' ∧
      SymbolTable.allocate tree = SymbolTable.allocate tree' ∧
      OpenApi.render tree "Users" "1.0.0" "" = OpenApi.render tree' "Users" "1.0.0" "" := by
  obtain ⟨accepted, same⟩ := Route.siblings_commute Users.service_reordered {}
  obtain ⟨tree, extracted⟩ : ∃ tree, Users.service.extract {} = .ok tree := ⟨_, rfl⟩
  obtain ⟨tree', extracted'⟩ := accepted.mp ⟨tree, extracted⟩
  obtain ⟨sameTable, _, sameText⟩ := same tree tree' extracted extracted'
  exact ⟨Users.service_reordered, tree, tree', extracted, extracted', sameTable,
    sameText (Users.service_places_nodup extracted) "Users" "1.0.0" ""⟩

end RouteAtlas

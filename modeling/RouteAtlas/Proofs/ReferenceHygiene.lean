/-
Module: RouteAtlas.Proofs.ReferenceHygiene
Purpose: Every alias that the endpoints of a registration context use is declared
  there once, for the package or the receiver that is meant.
Main exports: RegistrationContext.DeclaresPackage, RegistrationContext.DeclaresReceiver,
  EndpointView.RefersTo, RegistrationContext.IsHygienic,
  RegistrationContext.build_isHygienic
-/
import RouteAtlas.Proofs.AliasTable
import RouteAtlas.Proofs.MissingSymbols
import RouteAtlas.Proofs.RegistrationSteps

namespace RouteAtlas

open Fallible

/-! ## Declarations -/

namespace RegistrationContext

variable (context : RegistrationContext)

/-- All aliases that a context declares: those of the import block and those of the
parameters. -/
def idents : List String :=
  context.imports.map ImportView.ident ++ context.receivers.map ReceiverView.ident

/-- An alias is declared once, and stands for a package. -/
structure DeclaresPackage (ident path : String) : Prop where
  once : context.idents.count ident = 1
  entry : ⟨ident, path⟩ ∈ context.imports

/-- An alias is declared once, and stands for a receiver. -/
structure DeclaresReceiver (ident : String) (key : ReceiverKey) : Prop where
  once : context.idents.count ident = 1
  entry : ∃ view ∈ context.receivers, view.ident = ident ∧ view.key = key

/-- An alias is declared once, and stands for what a function is called through. -/
def DeclaresOwner (ident : String) (ref : HandlerRef) : Prop :=
  match ref.receiver with
  | none => context.DeclaresPackage ident ref.importPath
  | some receiver =>
      context.DeclaresReceiver ident ⟨ref.importPath, receiver.name, receiver.pointer⟩

/-- A text names a function through a declared alias, which ends at the first dot. -/
def DeclaresCall (ref : HandlerRef) (text : String) : Prop :=
  ∃ ident, Text.beforeFirst? '.' text = some ident ∧ text = ident ++ "." ++ ref.name ∧
    context.DeclaresOwner ident ref

/-- A text names a record type, and unless that is a built-in one, it does so
through a declared alias, which ends at the first dot. -/
def DeclaresType (data : Data) (text : String) : Prop :=
  if data.importPath = "" then text = data.name
  else ∃ ident, Text.beforeFirst? '.' text = some ident ∧ text = ident ++ "." ++ data.name ∧
    context.DeclaresPackage ident data.importPath

end RegistrationContext

/-- The view of an endpoint refers to what the endpoint refers to, by aliases that a
context declares. -/
structure EndpointView.RefersTo (view : EndpointView) (context : RegistrationContext)
    (style : ParamStyle) (node : PathNode) (endpoint : Endpoint) : Prop where
  method : view.method = endpoint.method
  path : view.path = endpoint.url style
  handlerName : view.handlerName = endpoint.handler.name
  handlerIdent : context.DeclaresOwner view.handlerIdent endpoint.handler
  middleware :
    List.Forall₂ context.DeclaresCall (node.middleware ++ endpoint.middleware) view.middleware
  bodyType : context.DeclaresType endpoint.body view.bodyType
  responseType : context.DeclaresType endpoint.response view.responseType

/-- A context declares every package and every receiver once, and has one view for
each endpoint of a tree in preorder, all of whose aliases are declared. -/
structure RegistrationContext.IsHygienic (context : RegistrationContext) (tree : PathNode)
    (style : ParamStyle) : Prop where
  packages : (context.imports.map ImportView.importPath).Nodup
  receivers : (context.receivers.map ReceiverView.key).Nodup
  owners : ∀ view ∈ context.receivers,
    context.DeclaresPackage view.importIdent view.key.importPath
  endpoints : List.Forall₂ (fun owned view => view.RefersTo context style owned.1 owned.2)
    (tree.preorder.flatMap fun node => node.endpoints.map fun endpoint => (node, endpoint))
    context.endpoints

/-! ## Entries of a table -/

theorem mem_of_lookup {κ β : Type} [BEq κ] [LawfulBEq κ] {entries : List (κ × β)} {key : κ}
    {value : β} (found : entries.lookup key = some value) : (key, value) ∈ entries := by
  obtain ⟨before, after, rfl, _⟩ := List.lookup_eq_some_iff.mp found
  exact List.mem_append_right _ List.mem_cons_self

namespace SymbolTable

variable {tree : PathNode} {table : SymbolTable} {ident : String}

theorem mem_imports_of_importAlias {path : String} (found : table.importAlias path = .ok ident) :
    (path, ident) ∈ table.imports := by
  unfold importAlias at found
  split at found
  · next known =>
      cases found
      exact mem_of_lookup known
  · cases found

theorem mem_receivers_of_receiverAlias {key : ReceiverKey}
    (found : table.receiverAlias key = .ok ident) : (key, ident) ∈ table.receivers := by
  unfold receiverAlias at found
  split at found
  · next known =>
      cases found
      exact mem_of_lookup known
  · cases found

theorem mem_idents_of_handlerAlias {ref : HandlerRef}
    (found : table.handlerAlias ref = .ok ident) : ident ∈ table.idents := by
  unfold handlerAlias at found
  split at found
  · exact List.mem_append_right _ (List.mem_map_of_mem (mem_receivers_of_receiverAlias found))
  · exact List.mem_append_left _ (List.mem_map_of_mem (mem_imports_of_importAlias found))

/-- No alias of a table contains a dot, so a dot after an alias is the first one. -/
theorem dot_notMem_of_mem_idents (member : ident ∈ (allocate tree).idents) :
    '.' ∉ ident.toList := by
  rcases List.mem_append.mp member with ofImport | ofReceiver
  · rw [allocate, Collector.finish, map_snd_numbered] at ofImport
    obtain ⟨index, _, rfl⟩ := List.mem_map.mp ofImport
    exact Alias.dot_notMem_ofImport index
  · rw [allocate, Collector.finish, map_snd_numbered] at ofReceiver
    obtain ⟨index, _, rfl⟩ := List.mem_map.mp ofReceiver
    exact Alias.dot_notMem_ofReceiver index

end SymbolTable

/-! ## Contexts of a tree -/

namespace RegistrationContext

variable {tree : PathNode} {options : RenderOptions} {context : RegistrationContext}

theorem idents_of_build {table : SymbolTable} (built : build tree table options = .ok context) :
    context.idents = table.idents := by
  obtain ⟨ofReceivers, _, _, _, _, imports⟩ := build_eq_ok_iff.mp built
  have receivers : table.receivers.map Prod.snd = context.receivers.map ReceiverView.ident :=
    map_eq_map_of_related
      (fun _ _ viewed => (ReceiverView.build_eq_ok_iff.mp viewed).2.1.symm) ofReceivers
  rw [idents, SymbolTable.idents, receivers, imports, List.map_map]
  rfl

variable (built : build tree (.allocate tree) options = .ok context)
include built

theorem count_ident {ident : String} (member : ident ∈ (SymbolTable.allocate tree).idents) :
    context.idents.count ident = 1 := by
  rw [idents_of_build built]
  exact List.count_eq_one_of_mem (Collector.idents_finish_nodup _) member

theorem declaresPackage {ident path : String}
    (found : (SymbolTable.allocate tree).importAlias path = .ok ident) :
    context.DeclaresPackage ident path := by
  have entry := SymbolTable.mem_imports_of_importAlias found
  obtain ⟨_, _, _, _, _, imports⟩ := build_eq_ok_iff.mp built
  refine ⟨count_ident built (List.mem_append_left _ (List.mem_map_of_mem entry)), ?_⟩
  rw [imports]
  exact List.mem_map_of_mem entry

theorem declaresReceiver {ident : String} {key : ReceiverKey}
    (found : (SymbolTable.allocate tree).receiverAlias key = .ok ident) :
    context.DeclaresReceiver ident key := by
  have entry := SymbolTable.mem_receivers_of_receiverAlias found
  obtain ⟨ofReceivers, _⟩ := build_eq_ok_iff.mp built
  obtain ⟨view, member, viewed⟩ := exists_of_mem_left ofReceivers entry
  obtain ⟨_, sameIdent, sameKey⟩ := ReceiverView.build_eq_ok_iff.mp viewed
  exact ⟨count_ident built (List.mem_append_right _ (List.mem_map_of_mem entry)),
    view, member, sameIdent, sameKey⟩

theorem declaresOwner {ident : String} {ref : HandlerRef}
    (found : (SymbolTable.allocate tree).handlerAlias ref = .ok ident) :
    context.DeclaresOwner ident ref := by
  unfold DeclaresOwner
  rw [SymbolTable.handlerAlias, ReceiverKey.ofHandler?] at found
  cases bound : ref.receiver with
  | none =>
      rw [bound] at found
      exact declaresPackage built found
  | some receiver =>
      rw [bound] at found
      exact declaresReceiver built found

theorem declaresCall {ref : HandlerRef} {text : String}
    (named : (SymbolTable.allocate tree).callName ref = .ok text) :
    context.DeclaresCall ref text := by
  obtain ⟨ident, found, written⟩ := bind_eq_ok.mp named
  cases written
  have noDot := SymbolTable.dot_notMem_of_mem_idents (SymbolTable.mem_idents_of_handlerAlias found)
  exact ⟨ident, Text.beforeFirst?_append noDot ref.name, rfl, declaresOwner built found⟩

theorem declaresType {data : Data} {text : String}
    (named : (SymbolTable.allocate tree).typeName data = .ok text) :
    context.DeclaresType data text := by
  unfold SymbolTable.typeName at named
  unfold DeclaresType
  split
  · next builtIn =>
      rw [if_pos builtIn] at named
      cases named
      rfl
  · next imported =>
      rw [if_neg imported] at named
      obtain ⟨ident, found, written⟩ := bind_eq_ok.mp named
      cases written
      have entry := SymbolTable.mem_imports_of_importAlias found
      have noDot := SymbolTable.dot_notMem_of_mem_idents
        (List.mem_append_left _ (List.mem_map_of_mem entry))
      exact ⟨ident, Text.beforeFirst?_append noDot data.name, rfl, declaresPackage built found⟩

theorem refersTo {node : PathNode} {endpoint : Endpoint} {view : EndpointView}
    (viewed : EndpointView.build (.allocate tree) options.conventions node endpoint = .ok view) :
    view.RefersTo context options.conventions.paramStyle node endpoint := by
  obtain ⟨_, _, _, _, calls, ofHandler, ofBody, ofResponse, rfl⟩ :=
    EndpointView.build_eq_ok_iff.mp viewed
  exact {
    method := rfl
    path := rfl
    handlerName := rfl
    handlerIdent := declaresOwner built ofHandler
    middleware := calls.imp fun _ _ named => declaresCall built named
    bodyType := declaresType built ofBody
    responseType := declaresType built ofResponse }

/-- With the table of the tree itself, whatever a context refers to is declared in it
once and as what is meant. -/
theorem build_isHygienic : context.IsHygienic tree options.conventions.paramStyle := by
  obtain ⟨ofReceivers, ofEndpoints, _, _, _, imports⟩ := build_eq_ok_iff.mp built
  exact {
    packages := by
      have paths : context.imports.map ImportView.importPath =
          (SymbolTable.allocate tree).imports.map Prod.fst := by
        rw [imports, List.map_map]
        rfl
      rw [paths, SymbolTable.allocate, Collector.importPaths_finish]
      exact (Ascending.ofList_ascending _).nodup
    receivers := by
      have keys : (SymbolTable.allocate tree).receivers.map Prod.fst =
          context.receivers.map ReceiverView.key :=
        map_eq_map_of_related
          (fun _ _ viewed => (ReceiverView.build_eq_ok_iff.mp viewed).2.2.symm) ofReceivers
      rw [← keys, SymbolTable.allocate, Collector.receiverKeys_finish]
      exact (Ascending.ofList_ascending _).nodup
    owners := by
      intro view member
      obtain ⟨entry, _, viewed⟩ := exists_of_mem_right ofReceivers member
      obtain ⟨found, _, sameKey⟩ := ReceiverView.build_eq_ok_iff.mp viewed
      rw [sameKey]
      exact declaresPackage built found
    endpoints := by
      rw [← PathNode.allEndpoints_eq]
      exact ofEndpoints.imp fun _ _ viewed => refersTo built viewed }

end RegistrationContext

/-! ## A shop -/

namespace Shop

/-- A method of the shop, on a pointer to it or on the shop itself. -/
def method (name : String) (pointer : Bool) : HandlerRef :=
  ⟨name, "example.com/shop", some ⟨"Shop", pointer⟩⟩

/-- Two endpoints, whose functions belong to a package, to a type of that package and
to a pointer to that type. -/
def tree : PathNode :=
  let check : HandlerRef := ⟨"Check", "example.com/shop", none⟩
  let query : Data := ⟨"Query", "example.com/shop", []⟩
  let done : Data := ⟨"Done", "", []⟩
  ⟨"", .root, [], [check],
    [⟨"carts", .static,
      [⟨.get, [⟨"carts", .static⟩], "", [], query, done, method "List" true, []⟩,
        ⟨.put, [⟨"carts", .static⟩], "", [], query, query, check, [method "Lock" false]⟩],
      [check, method "Open" true], []⟩]⟩

theorem importable : tree.IsImportable := by
  intro node visited
  rw [PathNode.walk_eq_preorder] at visited
  revert node
  decide

end Shop

theorem RegistrationContext.build_isHygienic_shop : ∃ context,
    RegistrationContext.build Shop.tree (.allocate Shop.tree) .standard = .ok context ∧
      context.IsHygienic Shop.tree .colon := by
  obtain ⟨context, built⟩ := RegistrationContext.build_succeeds .standard Shop.importable
  exact ⟨context, built, RegistrationContext.build_isHygienic built⟩

end RouteAtlas

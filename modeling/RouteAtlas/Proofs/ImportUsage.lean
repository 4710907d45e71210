/-
Module: RouteAtlas.Proofs.ImportUsage
Purpose: Which imports of registration code are used after the import block, and that
  others may be declared.
Main exports: RegistrationContext.references, PathNode.Uses,
  Route.extract_import_used_iff, Route.not_every_import_used
-/
import RouteAtlas.Proofs.ExtractionMirror
import RouteAtlas.Proofs.ReferenceHygiene
import RouteAtlas.Proofs.RegistrationCode

namespace RouteAtlas

open Fallible

/-! ## Parts of a text -/

namespace Text

/-- One text stands somewhere in another. -/
def Occurs (part whole : String) : Prop :=
  ∃ before after, whole = before ++ part ++ after

variable {part whole : String}

theorem Occurs.last (before part : String) : Occurs part (before ++ part) :=
  ⟨before, "", by rw [String.append_empty]⟩

theorem Occurs.lastThree (before one other part : String) :
    Occurs (one ++ other ++ part) (before ++ one ++ other ++ part) :=
  ⟨before, "", by simp only [String.append_assoc, String.append_empty]⟩

theorem Occurs.left (occurs : Occurs part whole) (more : String) :
    Occurs part (whole ++ more) := by
  obtain ⟨before, after, rfl⟩ := occurs
  exact ⟨before, after ++ more, by simp only [String.append_assoc]⟩

theorem Occurs.right (occurs : Occurs part whole) (more : String) :
    Occurs part (more ++ whole) := by
  obtain ⟨before, after, rfl⟩ := occurs
  exact ⟨more ++ before, after, by simp only [String.append_assoc]⟩

theorem Occurs.join {texts : List String} (occurs : Occurs part whole)
    (member : whole ∈ texts) : Occurs part (String.join texts) := by
  induction texts with
  | nil => cases member
  | cons text rest ih =>
      rw [String.join_cons]
      rcases List.mem_cons.mp member with rfl | later
      · exact occurs.left _
      · exact (ih later).right text

end Text

/-! ## References of the code -/

/-- The type of a parameter. -/
def ReceiverView.typeName (view : ReceiverView) : String :=
  view.importIdent ++ "." ++ view.key.name

/-- What the code of an endpoint names by an alias: its middleware, the type of its
request and the function that it calls. -/
def EndpointView.references (view : EndpointView) : List String :=
  view.middleware ++ [view.bodyType, view.handlerIdent ++ "." ++ view.handlerName]

namespace RegistrationContext

/-- What the code names by an alias after the import block: the types of the parameters
and what its endpoints name. -/
def references (context : RegistrationContext) : List String :=
  context.receivers.map ReceiverView.typeName ++
    context.endpoints.flatMap EndpointView.references

/-- The code down to the end of the import block, which declares the aliases. -/
def importCode (context : RegistrationContext) : String :=
  "// Code generated by routespec. DO NOT EDIT.\n" ++
  "\n" ++
  "package " ++ context.package ++ "\n" ++
  "\n" ++
  "import (\n" ++
  String.join (context.setupImports.map fun path => "\t" ++ Template.quote path ++ "\n") ++
  context.importsCode ++
  ")\n"

/-- The code after the import block. -/
def functionCode (context : RegistrationContext) : String :=
  "\n" ++
  "func RegisterHandlers(\n" ++
  "\tapp *fiber.App,\n" ++
  "\tv *validator.Validate,\n" ++
  String.join (context.receivers.map ReceiverView.code) ++
  ") \x7b\n" ++
  String.join (context.endpoints.map EndpointView.code) ++ "\x7d\n"

theorem code_eq (context : RegistrationContext) :
    context.code = context.importCode ++ context.functionCode := by
  unfold code headCode importCode functionCode
  ac_rfl

end RegistrationContext

namespace Text.Occurs

theorem typeName (view : ReceiverView) : Occurs view.typeName view.code := by
  refine Occurs.left ?_ ",\n"
  exact Occurs.lastThree _ _ _ _

/-- Whatever the code of an endpoint names stands in it.  The pieces of the code that come
after it are taken off one by one. -/
theorem of_mem_references {view : EndpointView} {reference : String}
    (member : reference ∈ view.references) : Occurs reference view.code := by
  rw [EndpointView.code]
  refine Occurs.right ?_ _
  unfold EndpointView.callCode
  rcases List.mem_append.mp member with inChain | inBody
  · have inLines : Occurs reference
        (String.join (view.middleware.map fun call => "\t\t" ++ call ++ ",\n")) := by
      have inLine : Occurs reference ("\t\t" ++ reference ++ ",\n") := (Occurs.last _ _).left _
      exact inLine.join (List.mem_map_of_mem inChain)
    iterate 26 refine Occurs.left ?_ _
    exact inLines.right _
  · rcases List.mem_cons.mp inBody with rfl | isCall
    · iterate 23 refine Occurs.left ?_ _
      exact Occurs.last _ _
    · cases List.mem_singleton.mp isCall
      iterate 10 refine Occurs.left ?_ _
      exact Occurs.lastThree _ _ _ _

theorem of_mem_context {context : RegistrationContext} {reference : String}
    (member : reference ∈ context.references) :
    Occurs reference context.functionCode := by
  unfold RegistrationContext.functionCode
  rcases List.mem_append.mp member with inParameters | inEndpoints
  · obtain ⟨view, found, rfl⟩ := List.mem_map.mp inParameters
    have inLines := (Occurs.typeName view).join (List.mem_map_of_mem found)
    iterate 3 refine Occurs.left ?_ _
    exact inLines.right _
  · obtain ⟨view, found, inView⟩ := List.mem_flatMap.mp inEndpoints
    have inCode : Occurs reference view.code := of_mem_references inView
    have inLines := inCode.join (List.mem_map_of_mem found)
    exact (inLines.right _).left _

/-- Every import is declared on a line of the import block. -/
theorem of_mem_imports {context : RegistrationContext} {view : ImportView}
    (member : view ∈ context.imports) : Occurs view.code context.importCode := by
  have some : context.imports ≠ [] := List.ne_nil_of_mem member
  have inBlock : Occurs view.code context.importsCode := by
    rw [RegistrationContext.importsCode, if_neg some]
    have whole : Occurs view.code view.code := ⟨"", "", by simp⟩
    exact (whole.join (List.mem_map_of_mem member)).right "\n"
  exact (inBlock.right _).left ")\n"

end Text.Occurs

/-! ## Uses of a package -/

namespace PathNode

/-- A tree calls into a package: a method bound to one of its types is referred to
anywhere, or an endpoint takes a request record of it, or an endpoint or the chain that
leads to an endpoint calls a function of it.  Response records do not count, and neither
do functions in chains that lead to no endpoint. -/
def Uses (tree : PathNode) (path : String) : Prop :=
  ∃ node ∈ tree.walk,
    (∃ ref ∈ node.refs, ref.receiver.isSome ∧ ref.importPath = path) ∨
      ∃ endpoint ∈ node.endpoints, endpoint.body.importPath = path ∨
        ∃ ref ∈ node.middleware ++ endpoint.refs, ref.importPath = path

/-- A built-in request record, which no alias is put before, has a name that itself
begins with some text and a dot. -/
def SpellsOut (tree : PathNode) (ident : String) : Prop :=
  ∃ node ∈ tree.walk, ∃ endpoint ∈ node.endpoints, endpoint.body.importPath = "" ∧
    Text.beforeFirst? '.' endpoint.body.name = some ident

theorem mem_allEndpoints_iff {tree node : PathNode} {endpoint : Endpoint} :
    (node, endpoint) ∈ tree.allEndpoints ↔ node ∈ tree.walk ∧ endpoint ∈ node.endpoints := by
  rw [allEndpoints, List.mem_flatMap]
  simp only [List.mem_map, Prod.mk.injEq]
  constructor
  · rintro ⟨owner, visited, _, bound, rfl, rfl⟩
    exact ⟨visited, bound⟩
  · rintro ⟨visited, bound⟩
    exact ⟨node, visited, endpoint, bound, rfl, rfl⟩

theorem mem_refs_of_endpoint {node : PathNode} {endpoint : Endpoint} {ref : HandlerRef}
    (bound : endpoint ∈ node.endpoints) (member : ref ∈ node.middleware ++ endpoint.refs) :
    ref ∈ node.refs := by
  rcases List.mem_append.mp member with inChain | inEndpoint
  · exact List.mem_append_left _ inChain
  · exact List.mem_append_right _ (List.mem_flatMap.mpr ⟨endpoint, bound, inEndpoint⟩)

end PathNode

namespace RegistrationContext

variable {tree : PathNode} {options : RenderOptions} {context : RegistrationContext}
  {view : ImportView} {ident path : String}

theorem owner_mem_idents {ref : HandlerRef} (declared : context.DeclaresOwner ident ref) :
    ident ∈ context.idents := by
  unfold DeclaresOwner at declared
  split at declared
  · exact List.mem_append_left _ (List.mem_map_of_mem declared.entry)
  · obtain ⟨other, isReceiver, rfl, _⟩ := declared.entry
    exact List.mem_append_right _ (List.mem_map_of_mem isReceiver)

variable (built : build tree (.allocate tree) options = .ok context)
include built

/-! ### What the alias of an import stands for -/

theorem idents_nodup : context.idents.Nodup := by
  rw [idents_of_build built]
  exact Collector.idents_finish_nodup _

theorem dot_notMem_ident (member : ident ∈ context.idents) : '.' ∉ ident.toList := by
  rw [idents_of_build built] at member
  exact SymbolTable.dot_notMem_of_mem_idents member

theorem importPaths_eq :
    context.imports.map ImportView.importPath =
      Ascending.ofList (Collector.visit tree {}).imports := by
  obtain ⟨_, _, _, _, _, imports⟩ := build_eq_ok_iff.mp built
  rw [imports, List.map_map]
  exact Collector.importPaths_finish _

/-- The packages that are declared are those that the tree refers to anywhere. -/
theorem mem_importPaths_iff : path ∈ context.imports.map ImportView.importPath ↔
    path ≠ "" ∧ ∃ node ∈ tree.walk, path ∈ node.packages := by
  rw [importPaths_eq built, Ascending.mem_ofList, (Collector.gains_visit tree {}).imports,
    or_iff_left List.not_mem_nil, List.mem_flatMap]

theorem importPath_ne (member : view ∈ context.imports) : view.importPath ≠ "" :=
  ((mem_importPaths_iff built).mp (List.mem_map_of_mem member)).1

/-- The alias of an import stands for one package only. -/
theorem path_eq (member : view ∈ context.imports)
    (declared : context.DeclaresPackage view.ident path) : path = view.importPath := by
  have apart := (List.nodup_append.mp (idents_nodup built)).1
  have same := List.inj_on_of_nodup_map apart declared.entry member rfl
  exact congrArg ImportView.importPath same

/-- A package has one alias only. -/
theorem ident_eq (member : view ∈ context.imports)
    (declared : context.DeclaresPackage ident view.importPath) : ident = view.ident := by
  have apart : (context.imports.map ImportView.importPath).Nodup := by
    rw [importPaths_eq built]
    exact (Ascending.ofList_ascending _).nodup
  have same := List.inj_on_of_nodup_map apart declared.entry member rfl
  exact congrArg ImportView.ident same

/-- What is called through the alias of an import is a function of its package. -/
theorem owner_path_eq {ref : HandlerRef} (member : view ∈ context.imports)
    (declared : context.DeclaresOwner view.ident ref) : ref.importPath = view.importPath := by
  unfold DeclaresOwner at declared
  split at declared
  · exact path_eq built member declared
  · obtain ⟨other, isReceiver, same, _⟩ := declared.entry
    have inImports : view.ident ∈ context.imports.map ImportView.ident :=
      List.mem_map_of_mem member
    have inReceivers : other.ident ∈ context.receivers.map ReceiverView.ident :=
      List.mem_map_of_mem isReceiver
    have apart := (List.nodup_append.mp (idents_nodup built)).2.2
    exact absurd same.symm (apart _ inImports _ inReceivers)

theorem owner_ident_eq {ref : HandlerRef} (member : view ∈ context.imports)
    (free : ref.receiver = none) (ofPackage : ref.importPath = view.importPath)
    (declared : context.DeclaresOwner ident ref) : ident = view.ident := by
  unfold DeclaresOwner at declared
  rw [free, ofPackage] at declared
  exact ident_eq built member declared

/-! ### Parameters -/

theorem typeName_qualifier {receiver : ReceiverView}
    (declared : context.DeclaresPackage receiver.importIdent path) :
    Text.beforeFirst? '.' receiver.typeName = some receiver.importIdent := by
  have listed : receiver.importIdent ∈ context.idents :=
    List.mem_append_left _ (List.mem_map_of_mem declared.entry)
  exact Text.beforeFirst?_append (dot_notMem_ident built listed) _

/-- The type of a parameter is qualified by the alias of its package. -/
theorem owner_of_receiver {receiver : ReceiverView} (member : receiver ∈ context.receivers) :
    context.DeclaresPackage receiver.importIdent receiver.key.importPath ∧
      ∃ node ∈ tree.walk, receiver.key ∈ node.receivers := by
  obtain ⟨ofReceivers, _⟩ := build_eq_ok_iff.mp built
  obtain ⟨entry, listed, viewed⟩ := exists_of_mem_right ofReceivers member
  obtain ⟨found, _, sameKey⟩ := ReceiverView.build_eq_ok_iff.mp viewed
  rw [sameKey]
  exact ⟨declaresPackage built found,
    SymbolTable.mem_receiverKeys_allocate_iff.mp (List.mem_map_of_mem listed)⟩

/-- A bound method is reached through a parameter. -/
theorem receiver_of_ref {node : PathNode} {ref : HandlerRef} (visited : node ∈ tree.walk)
    (referred : ref ∈ node.refs) (isBound : ref.receiver.isSome) :
    ∃ receiver ∈ context.receivers, receiver.key.importPath = ref.importPath := by
  obtain ⟨receiver, bound⟩ := Option.isSome_iff_exists.mp isBound
  have noted : ReceiverKey.ofHandler? ref =
      some ⟨ref.importPath, receiver.name, receiver.pointer⟩ := by
    rw [ReceiverKey.ofHandler?, bound]
    rfl
  have known := PathNode.mem_receivers.mpr ⟨ref, referred, noted⟩
  have listed := SymbolTable.mem_receiverKeys_allocate_iff.mpr ⟨node, visited, known⟩
  obtain ⟨entry, inTable, sameEntry⟩ := List.mem_map.mp listed
  obtain ⟨ofReceivers, _⟩ := build_eq_ok_iff.mp built
  obtain ⟨view, member, viewed⟩ := exists_of_mem_left ofReceivers inTable
  obtain ⟨_, _, sameKey⟩ := ReceiverView.build_eq_ok_iff.mp viewed
  exact ⟨view, member, by rw [sameKey, sameEntry]⟩

/-! ### Endpoints -/

theorem handler_qualifier {endpointView : EndpointView} {ref : HandlerRef}
    (declared : context.DeclaresOwner endpointView.handlerIdent ref) :
    Text.beforeFirst? '.' (endpointView.handlerIdent ++ "." ++ endpointView.handlerName) =
      some endpointView.handlerIdent :=
  Text.beforeFirst?_append (dot_notMem_ident built (owner_mem_idents declared)) _

/-- An alias that qualifies something in the code of an endpoint belongs to a package that
the endpoint or its chain calls into, unless the name of a built-in record is spelled like
that. -/
theorem uses_of_endpoint {node : PathNode} {endpoint : Endpoint} {endpointView : EndpointView}
    {reference : String} (member : view ∈ context.imports) (visited : node ∈ tree.walk)
    (bound : endpoint ∈ node.endpoints)
    (refers : endpointView.RefersTo context options.conventions.paramStyle node endpoint)
    (inView : reference ∈ endpointView.references)
    (qualified : Text.beforeFirst? '.' reference = some view.ident) :
    tree.Uses view.importPath ∨ tree.SpellsOut view.ident := by
  rcases List.mem_append.mp inView with inChain | inBody
  · obtain ⟨ref, called, ident, cut, _, declared⟩ := exists_of_mem_right refers.middleware inChain
    cases Option.some.inj (cut.symm.trans qualified)
    have inRefs : ref ∈ node.middleware ++ endpoint.refs := by
      rcases List.mem_append.mp called with above | own
      · exact List.mem_append_left _ above
      · exact List.mem_append_right _ (List.mem_cons_of_mem _ own)
    exact .inl ⟨node, visited, .inr ⟨endpoint, bound, .inr
      ⟨ref, inRefs, owner_path_eq built member declared⟩⟩⟩
  · rcases List.mem_cons.mp inBody with rfl | isCall
    · have named := refers.bodyType
      unfold DeclaresType at named
      split at named
      · next builtIn =>
          rw [named] at qualified
          exact .inr ⟨node, visited, endpoint, bound, builtIn, qualified⟩
      · obtain ⟨ident, cut, _, declared⟩ := named
        cases Option.some.inj (cut.symm.trans qualified)
        exact .inl ⟨node, visited, .inr ⟨endpoint, bound, .inl (path_eq built member declared)⟩⟩
    · cases List.mem_singleton.mp isCall
      have cut := handler_qualifier built refers.handlerIdent
      have same : endpointView.handlerIdent = view.ident :=
        Option.some.inj (cut.symm.trans qualified)
      have declared := refers.handlerIdent
      rw [same] at declared
      have inRefs : endpoint.handler ∈ node.middleware ++ endpoint.refs :=
        List.mem_append_right _ List.mem_cons_self
      exact .inl ⟨node, visited, .inr ⟨endpoint, bound, .inr
        ⟨_, inRefs, owner_path_eq built member declared⟩⟩⟩

/-- The code of an endpoint is qualified by the alias of every package whose request
record it takes or whose functions it calls. -/
theorem qualifies_of_endpoint {node : PathNode} {endpoint : Endpoint}
    {endpointView : EndpointView} (member : view ∈ context.imports)
    (refers : endpointView.RefersTo context options.conventions.paramStyle node endpoint)
    (uses : endpoint.body.importPath = view.importPath ∨
      ∃ ref ∈ node.middleware ++ endpoint.refs,
        ref.receiver = none ∧ ref.importPath = view.importPath) :
    ∃ reference ∈ endpointView.references,
      Text.beforeFirst? '.' reference = some view.ident := by
  rcases uses with ofPackage | ⟨ref, inRefs, free, ofPackage⟩
  · have named := refers.bodyType
    rw [DeclaresType, if_neg (ofPackage ▸ importPath_ne built member), ofPackage] at named
    obtain ⟨ident, cut, _, declared⟩ := named
    cases ident_eq built member declared
    exact ⟨_, List.mem_append_right _ List.mem_cons_self, cut⟩
  · have inCalls : ref = endpoint.handler ∨ ref ∈ node.middleware ++ endpoint.middleware := by
      rcases List.mem_append.mp inRefs with above | here
      · exact .inr (List.mem_append_left _ above)
      · rcases List.mem_cons.mp here with isHandler | own
        · exact .inl isHandler
        · exact .inr (List.mem_append_right _ own)
    rcases inCalls with rfl | called
    · have cut := handler_qualifier built refers.handlerIdent
      have same := owner_ident_eq built member free ofPackage refers.handlerIdent
      exact ⟨_, List.mem_append_right _ (List.mem_cons_of_mem _ List.mem_cons_self),
        cut.trans (congrArg some same)⟩
    · obtain ⟨call, inChain, ident, cut, _, declared⟩ := exists_of_mem_left refers.middleware called
      cases owner_ident_eq built member free ofPackage declared
      exact ⟨call, List.mem_append_left _ inChain, cut⟩

/-! ### All references -/

/-- The alias of an import qualifies something after the import block exactly when the
tree calls into its package, or when the name of a built-in request record is spelled like
a use of the alias. -/
theorem exists_reference_iff (member : view ∈ context.imports) :
    (∃ reference ∈ context.references, Text.beforeFirst? '.' reference = some view.ident) ↔
      tree.Uses view.importPath ∨ tree.SpellsOut view.ident := by
  obtain ⟨_, ofEndpoints, _⟩ := build_eq_ok_iff.mp built
  constructor
  · rintro ⟨reference, inCode, qualified⟩
    rcases List.mem_append.mp inCode with inParameters | inEndpoints
    · obtain ⟨receiver, isReceiver, rfl⟩ := List.mem_map.mp inParameters
      obtain ⟨declared, node, visited, known⟩ := owner_of_receiver built isReceiver
      have cut := typeName_qualifier built declared
      have same : receiver.importIdent = view.ident := Option.some.inj (cut.symm.trans qualified)
      rw [same] at declared
      obtain ⟨ref, referred, noted⟩ := PathNode.mem_receivers.mp known
      obtain ⟨_, bound, _⟩ := Option.map_eq_some_iff.mp noted
      refine .inl ⟨node, visited, .inl ⟨ref, referred, Option.isSome_of_eq_some bound, ?_⟩⟩
      rw [← ReceiverKey.importPath_of_ofHandler? noted]
      exact path_eq built member declared
    · obtain ⟨endpointView, isView, inView⟩ := List.mem_flatMap.mp inEndpoints
      obtain ⟨⟨node, endpoint⟩, owned, viewed⟩ := exists_of_mem_right ofEndpoints isView
      obtain ⟨visited, bound⟩ := PathNode.mem_allEndpoints_iff.mp owned
      exact uses_of_endpoint built member visited bound (refersTo built viewed) inView qualified
  · rintro (uses | ⟨node, visited, endpoint, bound, builtIn, spelled⟩)
    · -- A bound method is qualified by its parameter, wherever it is referred to.
      have viaReceiver : ∀ node ∈ tree.walk, ∀ ref ∈ node.refs, ref.receiver.isSome →
          ref.importPath = view.importPath → ∃ reference ∈ context.references,
            Text.beforeFirst? '.' reference = some view.ident := by
        intro node visited ref referred isBound ofPackage
        obtain ⟨receiver, isReceiver, samePath⟩ := receiver_of_ref built visited referred isBound
        obtain ⟨declared, _⟩ := owner_of_receiver built isReceiver
        have cut := typeName_qualifier built declared
        rw [samePath, ofPackage] at declared
        have same := ident_eq built member declared
        exact ⟨_, List.mem_append_left _ (List.mem_map_of_mem isReceiver),
          cut.trans (congrArg some same)⟩
      obtain ⟨node, visited, ⟨ref, referred, isBound, ofPackage⟩ | ⟨endpoint, bound, uses⟩⟩ := uses
      · exact viaReceiver node visited ref referred isBound ofPackage
      · obtain ⟨endpointView, isView, viewed⟩ := exists_of_mem_left ofEndpoints
          (PathNode.mem_allEndpoints_iff.mpr ⟨visited, bound⟩)
        have refers := refersTo built viewed
        have inCode : (∃ reference ∈ endpointView.references,
            Text.beforeFirst? '.' reference = some view.ident) → ∃ reference ∈ context.references,
              Text.beforeFirst? '.' reference = some view.ident := by
          rintro ⟨reference, inView, qualified⟩
          exact ⟨reference, List.mem_append_right _ (List.mem_flatMap.mpr
            ⟨endpointView, isView, inView⟩), qualified⟩
        rcases uses with ofPackage | ⟨ref, inRefs, ofPackage⟩
        · exact inCode (qualifies_of_endpoint built member refers (.inl ofPackage))
        · cases receiver : ref.receiver with
          | none =>
              exact inCode (qualifies_of_endpoint built member refers
                (.inr ⟨ref, inRefs, receiver, ofPackage⟩))
          | some owner =>
              exact viaReceiver node visited ref (PathNode.mem_refs_of_endpoint bound inRefs)
                (Option.isSome_of_eq_some receiver) ofPackage
    · obtain ⟨endpointView, isView, viewed⟩ := exists_of_mem_left ofEndpoints
        (PathNode.mem_allEndpoints_iff.mpr ⟨visited, bound⟩)
      have named := (refersTo built viewed).bodyType
      rw [DeclaresType, if_pos builtIn] at named
      refine ⟨endpointView.bodyType, ?_, by rw [named, spelled]⟩
      exact List.mem_append_right _ (List.mem_flatMap.mpr
        ⟨endpointView, isView, List.mem_append_right _ List.mem_cons_self⟩)

end RegistrationContext

/-! ## Rendered code -/

/-- A renderer gives the text of its template in the context of the tree, whatever its
buffer holds. -/
theorem Renderer.render_of_build (renderer : Renderer) {tree : PathNode} {table : SymbolTable}
    {context : RegistrationContext}
    (built : RegistrationContext.build tree table renderer.options = .ok context) :
    (renderer.render tree table).2 =
      renderer.engine.render renderer.template context.toJson := by
  rw [Renderer.render, built, Engine.render]
  simp only
  cases renderer.engine.renderTo renderer.template context.toJson "" with
  | mk text result => cases result <;> rfl

/-- Rendering the template that comes with the library gives the code of the context. -/
theorem renderRegistration_embedded {tree : PathNode} {table : SymbolTable}
    {options : RenderOptions} {context : RegistrationContext}
    (built : RegistrationContext.build tree table options = .ok context) :
    renderRegistration tree table .embedded options = .ok context.code := by
  rw [renderRegistration, Fallible.bind_eq_ok]
  let renderer : Renderer := ⟨⟨none⟩, Template.embeddedName, options, ""⟩
  refine ⟨renderer, rfl, ?_⟩
  rw [renderer.render_of_build built]
  exact Engine.render_of_find RegistrationContext.find_embedded context.writes

/-- The registration code of an extracted tree declares the packages that the tree refers to
anywhere, each with an alias, and names types and functions after that.  The alias of an import
qualifies the type of a parameter, or middleware, the request type or the function call of an
endpoint, exactly when the tree calls into its package.  The only other way for an alias to stand
there is as part of the name of a built-in request record. -/
theorem Route.extract_import_used_iff {keys : TagKeys} {route : Route} {tree : PathNode}
    (extracted : route.extract keys = .ok tree) (options : RenderOptions) :
    ∃ context, RegistrationContext.build tree (.allocate tree) options = .ok context ∧
      renderRegistration tree (.allocate tree) .embedded options =
        .ok (context.importCode ++ context.functionCode) ∧
      (∀ path, path ∈ context.imports.map ImportView.importPath ↔
        path ≠ "" ∧ ∃ node ∈ tree.walk, path ∈ node.packages) ∧
      (∀ view ∈ context.imports, Text.Occurs view.code context.importCode) ∧
      (∀ reference ∈ context.references, Text.Occurs reference context.functionCode) ∧
      ∀ view ∈ context.imports,
        (∃ reference ∈ context.references,
          Text.beforeFirst? '.' reference = some view.ident) ↔
          tree.Uses view.importPath ∨ tree.SpellsOut view.ident := by
  obtain ⟨context, built⟩ :=
    RegistrationContext.build_succeeds options (Route.extract_importable extracted)
  refine ⟨context, built, ?rendered, ?listed, ?declared, ?named, ?used⟩
  case rendered => rw [renderRegistration_embedded built, RegistrationContext.code_eq]
  case listed => exact fun _ => RegistrationContext.mem_importPaths_iff built
  case declared => exact fun _ member => Text.Occurs.of_mem_imports member
  case named => exact fun _ member => Text.Occurs.of_mem_context member
  case used => exact fun _ member => RegistrationContext.exists_reference_iff built member

/-! ## A service whose replies are declared elsewhere -/

namespace Replies

/-- A handler whose request and reply belong to different packages. -/
def handler : Function :=
  .handler (.qualified "example.com/users.Get") (.emptyRecord "Request" "example.com/users")
    (.emptyRecord "Reply" "example.com/replies")

def routes : Route :=
  Route.root.bindEndpoint .get (.plain handler "")

/-- The imports with their aliases, and what the code names after the import block. -/
def names (context : RegistrationContext) : List (String × String) × List String :=
  (context.imports.map fun view => (view.importPath, view.ident), context.references)

theorem names_of_routes :
    ((routes.extract {}).toOption.bind fun tree =>
      (RegistrationContext.build tree (.allocate tree) .standard).toOption.map names) =
        some ([("example.com/replies", "ai"), ("example.com/users", "bi")],
          ["bi.Request", "bi.Get"]) := by
  decide +kernel

theorem packages_of_routes :
    ((routes.extract {}).toOption.map fun tree => tree.walk.flatMap PathNode.packages) =
      some ["example.com/users", "example.com/replies", "example.com/users"] := by
  decide +kernel

variable {tree : PathNode} {context : RegistrationContext}

theorem names_eq (extracted : routes.extract {} = .ok tree)
    (built : RegistrationContext.build tree (.allocate tree) .standard = .ok context) :
    context.imports.map (fun view => (view.importPath, view.ident)) =
        [("example.com/replies", "ai"), ("example.com/users", "bi")] ∧
      context.references = ["bi.Request", "bi.Get"] := by
  have named := names_of_routes
  rw [extracted, Except.toOption, Option.bind_some, built, Except.toOption, Option.map_some]
    at named
  exact Prod.mk.inj (Option.some.inj named)

/-- The package of the reply is referred to. -/
theorem exists_reply (extracted : routes.extract {} = .ok tree) :
    ∃ node ∈ tree.walk, "example.com/replies" ∈ node.packages := by
  have packages := packages_of_routes
  rw [extracted, Except.toOption, Option.map_some, Option.some.injEq] at packages
  rw [← List.mem_flatMap, packages]
  decide

theorem not_used {view : ImportView} (listed : view ∈ context.imports)
    (isReply : view.importPath = "example.com/replies")
    (named : context.imports.map (fun view => (view.importPath, view.ident)) =
      [("example.com/replies", "ai"), ("example.com/users", "bi")])
    (references : context.references = ["bi.Request", "bi.Get"]) :
    ¬ ∃ reference ∈ context.references, Text.beforeFirst? '.' reference = some view.ident := by
  have entry : (view.importPath, view.ident) ∈
      [("example.com/replies", "ai"), ("example.com/users", "bi")] :=
    named ▸ List.mem_map_of_mem listed
  have ident : view.ident = "ai" := by simpa [isReply] using entry
  rw [references, ident]
  decide

end Replies

/-- The package of a reply is declared, and its alias is not used. -/
theorem Route.extract_import_used_iff_replies :
    ∃ (tree : PathNode) (context : RegistrationContext) (view : ImportView),
      Replies.routes.extract {} = .ok tree ∧
      renderRegistration tree (.allocate tree) .embedded .standard =
        .ok (context.importCode ++ context.functionCode) ∧
      view.importPath = "example.com/replies" ∧ Text.Occurs view.code context.importCode ∧
      ¬ tree.Uses "example.com/replies" := by
  obtain ⟨tree, extracted⟩ : ∃ tree, Replies.routes.extract {} = .ok tree := ⟨_, rfl⟩
  obtain ⟨context, built, rendered, listed, declared, _, used⟩ :=
    Route.extract_import_used_iff extracted .standard
  have isListed := (listed "example.com/replies").mpr ⟨by decide, Replies.exists_reply extracted⟩
  obtain ⟨view, member, isReply⟩ := List.mem_map.mp isListed
  obtain ⟨named, references⟩ := Replies.names_eq extracted built
  refine ⟨tree, context, view, extracted, rendered, isReply, declared view member, fun uses => ?_⟩
  exact Replies.not_used member isReply named references
    ((used view member).mpr (.inl (isReply ▸ uses)))

/-- The package of a reply is imported without being used. -/
theorem Route.not_every_import_used : ¬ ∀ (route : Route) (tree : PathNode)
    (context : RegistrationContext), route.extract {} = .ok tree →
      RegistrationContext.build tree (.allocate tree) .standard = .ok context →
        ∀ view ∈ context.imports, ∃ reference ∈ context.references,
          Text.beforeFirst? '.' reference = some view.ident := by
  intro allUsed
  obtain ⟨tree, extracted⟩ : ∃ tree, Replies.routes.extract {} = .ok tree := ⟨_, rfl⟩
  obtain ⟨context, built⟩ :=
    RegistrationContext.build_succeeds .standard (Route.extract_importable extracted)
  obtain ⟨named, references⟩ := Replies.names_eq extracted built
  have entry : ("example.com/replies", "ai") ∈
      context.imports.map fun view => (view.importPath, view.ident) := by simp [named]
  obtain ⟨view, member, same⟩ := List.mem_map.mp entry
  exact Replies.not_used member (Prod.mk.inj same).1 named references
    (allUsed Replies.routes tree context extracted built view member)

end RouteAtlas

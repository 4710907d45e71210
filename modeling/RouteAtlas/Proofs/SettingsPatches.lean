/-
Module: RouteAtlas.Proofs.SettingsPatches
Purpose: A settings document gives the standard settings with what it sets replaced, and the
  document of settings gives these settings back.
Main exports: Conventions.Patch, RegistrationSettings.Patch, OpenApiSettings.Patch,
  Settings.Patch, Settings.ofNode_of_given, Settings.ofYaml_patches
-/
import RouteAtlas.Proofs.YamlValues
import RouteAtlas.Settings.Yaml

namespace RouteAtlas

open Yaml

/-! ## Patches -/

/-- What a document sets of the conventions. -/
structure Conventions.Patch where
  methodCase : Option MethodCase := none
  paramStyle : Option ParamStyle := none
  requestAccessors : Option Role.Map := none
  responseAccessors : Option Role.Map := none
  cookieHeader : Option String := none

/-- Conventions with what is set replaced; a table of accessors is replaced as a whole. -/
def Conventions.Patch.onto (patch : Patch) (conventions : Conventions) : Conventions where
  methodCase := patch.methodCase.getD conventions.methodCase
  paramStyle := patch.paramStyle.getD conventions.paramStyle
  requestAccessors := patch.requestAccessors.getD conventions.requestAccessors
  responseAccessors := patch.responseAccessors.getD conventions.responseAccessors
  cookieHeader := patch.cookieHeader.getD conventions.cookieHeader

/-- What a document sets of the settings of registration code.  A path may also be set to
nothing. -/
structure RegistrationSettings.Patch where
  enabled : Option Bool := none
  output : Option (Option String) := none
  template : Option (Option String) := none
  package : Option String := none
  validateImport : Option String := none
  frameworkImports : Option (List String) := none
  conventions : Option Conventions.Patch := none

/-- The settings with what is set replaced. -/
def RegistrationSettings.Patch.onto (patch : Patch) (settings : RegistrationSettings) :
    RegistrationSettings where
  enabled := patch.enabled.getD settings.enabled
  output := patch.output.getD settings.output
  template := patch.template.getD settings.template
  render := {
    package := patch.package.getD settings.render.package
    validateImport := patch.validateImport.getD settings.render.validateImport
    frameworkImports := patch.frameworkImports.getD settings.render.frameworkImports
    conventions := (patch.conventions.getD {}).onto settings.render.conventions }

/-- What a document sets of the settings of an OpenAPI document. -/
structure OpenApiSettings.Patch where
  enabled : Option Bool := none
  output : Option (Option String) := none
  title : Option String := none
  version : Option String := none
  serverUrl : Option String := none

/-- The settings with what is set replaced. -/
def OpenApiSettings.Patch.onto (patch : Patch) (settings : OpenApiSettings) : OpenApiSettings where
  enabled := patch.enabled.getD settings.enabled
  output := patch.output.getD settings.output
  title := patch.title.getD settings.title
  version := patch.version.getD settings.version
  serverUrl := patch.serverUrl.getD settings.serverUrl

/-- What a document sets of all settings. -/
structure Settings.Patch where
  version : Option Nat := none
  registration : Option RegistrationSettings.Patch := none
  openapi : Option OpenApiSettings.Patch := none

/-- The settings with what is set replaced. -/
def Settings.Patch.onto (patch : Patch) (settings : Settings) : Settings where
  version := patch.version.getD settings.version
  registration := (patch.registration.getD {}).onto settings.registration
  openapi := (patch.openapi.getD {}).onto settings.openapi

/-! ## Tables of accessors -/

namespace Role

theorem lookup_all (role : Role) :
    (Role.all.map fun role => (role.name, role)).lookup role.name = some role := by
  cases role <;> decide

theorem length_name (role : Role) : role.name.toList.length ≤ 100 := by
  cases role <;> decide

namespace Map

theorem get?_foldl (pairs : List (Role × String)) (map : Role.Map) (role : Role) :
    (pairs.foldl (fun map entry => map.insert entry.1 entry.2) map).get? role =
      (pairs.reverse.lookup role).or (map.get? role) := by
  induction pairs generalizing map with
  | nil => rfl
  | cons pair pairs ih =>
      obtain ⟨bound, text⟩ := pair
      rw [List.foldl_cons, ih, Role.Map.get?_insert, List.reverse_cons, List.lookup_append,
        Option.or_assoc, List.lookup_cons, List.lookup_nil]
      by_cases same : role = bound
      · simp [same]
      · simp [same, beq_eq_false_iff_ne.mpr same]

theorem get?_ofList (pairs : List (Role × String)) (role : Role) :
    (Role.Map.ofList pairs).get? role = pairs.reverse.lookup role := by
  rw [Role.Map.ofList, get?_foldl]
  cases role <;> exact Option.or_none

theorem ext_get? {map other : Role.Map} (same : ∀ role, map.get? role = other.get? role) :
    map = other := by
  obtain ⟨json, query, path, header, cookie⟩ := map
  obtain ⟨json', query', path', header', cookie'⟩ := other
  cases same .json
  cases same .query
  cases same .path
  cases same .header
  cases same .cookie
  rfl

theorem get?_eq_lookup (map : Role.Map) (role : Role) :
    map.get? role = map.toList.reverse.lookup role := by
  obtain ⟨json, query, path, header, cookie⟩ := map
  cases role <;> cases json <;> cases query <;> cases path <;> cases header <;> cases cookie <;>
    rfl

/-- A mapping from names of roles to texts; of two for one role the last one counts. -/
inductive HeldBy : Role.Map → Node → Prop where
  | mapping {map : Role.Map} {pairs : List (Role × String)} {entries : List (Scalar × Node)}
      (holds : List.Forall₂ (fun pair entry =>
        HoldsText pair.1.name (.scalar entry.1) ∧ HoldsText pair.2 entry.2) pairs entries)
      (last : ∀ role, map.get? role = pairs.reverse.lookup role) : HeldBy map (.mapping entries)

theorem ofNode_of_heldBy (map : Role.Map) (node : Node) (holds : HeldBy map node) :
    Map.ofNode node = .ok map := by
  cases holds with
  | @mapping pairs entries holds last =>
      have same : Role.Map.ofList pairs = map :=
        ext_get? fun role => (get?_ofList pairs role).trans (last role).symm
      rw [Role.Map.ofNode, Fallible.bind_eq_ok]
      refine ⟨pairs, ?_, congrArg Except.ok same⟩
      rw [Fallible.mapM_eq_ok]
      refine holds.flip.imp ?_
      rintro ⟨key, value⟩ ⟨role, text⟩ ⟨isRole, isText⟩
      rw [Fallible.bind_eq_ok]
      refine ⟨role, asChoice_of_holds lookup_all role _ isRole, ?_⟩
      rw [Fallible.bind_eq_ok]
      exact ⟨text, asStrictText_of_holds text value isText, rfl⟩

theorem heldBy_toJson (map : Role.Map) : HeldBy map (.ofJson map.toJson) := by
  refine @HeldBy.mapping map map.toList _ ?_ (get?_eq_lookup map)
  induction map.toList with
  | nil => exact .nil
  | cons pair pairs ih => exact .cons ⟨.scalar (kind_ofText _), holdsText_ofText pair.2⟩ ih

theorem isWritable_toJson (map : Role.Map) : (Node.ofJson map.toJson).IsWritable := by
  refine isWritable_object ?_ ?_
  · rw [List.forall_mem_map]
    rintro ⟨role, text⟩ _
    exact length_name role
  · rw [List.forall_mem_map]
    exact fun entry _ => isWritable_string entry.2

end Map

end Role

/-! ## Documents -/

/-- Entries that set of the conventions what the patch sets. -/
structure Conventions.Patch.GivenBy (patch : Patch) (entries : List (Scalar × Node)) : Prop where
  keys : ∀ entry ∈ entries, entry.1.kind = .text
  distinct : (entries.map keyOf).Nodup
  methodCase : Gives entries "method_case" (HoldsName MethodCase.name) patch.methodCase
  paramStyle : Gives entries "param_style" (HoldsName ParamStyle.name) patch.paramStyle
  requestAccessors : Gives entries "request_accessors" Role.Map.HeldBy patch.requestAccessors
  responseAccessors : Gives entries "response_accessors" Role.Map.HeldBy patch.responseAccessors
  cookieHeader : Gives entries "cookie_header" HoldsText patch.cookieHeader

/-- A mapping that sets of the conventions what the patch sets. -/
def Conventions.Patch.In (patch : Patch) (node : Node) : Prop :=
  ∃ entries, node = .mapping entries ∧ patch.GivenBy entries

/-- Entries that set of the settings of registration code what the patch sets. -/
structure RegistrationSettings.Patch.GivenBy (patch : Patch) (entries : List (Scalar × Node)) :
    Prop where
  distinct : (entries.map keyOf).Nodup
  enabled : Gives entries "enabled" HoldsTruth patch.enabled
  output : Gives entries "output" HoldsPath patch.output
  template : Gives entries "template" HoldsPath patch.template
  package : Gives entries "package" HoldsText patch.package
  validateImport : Gives entries "validate_import" HoldsText patch.validateImport
  frameworkImports : Gives entries "framework_imports" HoldsTexts patch.frameworkImports
  conventions : Gives entries "conventions" Conventions.Patch.In patch.conventions

/-- A section that sets of these settings what the patch sets. -/
def RegistrationSettings.Patch.In (patch : Patch) (node : Node) : Prop :=
  ∃ entries, IsSection entries node ∧ patch.GivenBy entries

/-- Entries that set of the settings of an OpenAPI document what the patch sets. -/
structure OpenApiSettings.Patch.GivenBy (patch : Patch) (entries : List (Scalar × Node)) :
    Prop where
  distinct : (entries.map keyOf).Nodup
  enabled : Gives entries "enabled" HoldsTruth patch.enabled
  output : Gives entries "output" HoldsPath patch.output
  title : Gives entries "title" HoldsWritten patch.title
  version : Gives entries "version" HoldsWritten patch.version
  serverUrl : Gives entries "server_url" HoldsWritten patch.serverUrl

/-- A section that sets of these settings what the patch sets. -/
def OpenApiSettings.Patch.In (patch : Patch) (node : Node) : Prop :=
  ∃ entries, IsSection entries node ∧ patch.GivenBy entries

/-- Entries that set of all settings what the patch sets. -/
structure Settings.Patch.GivenBy (patch : Patch) (entries : List (Scalar × Node)) : Prop where
  distinct : (entries.map keyOf).Nodup
  version : Gives entries "version" HoldsNumber patch.version
  registration : Gives entries "registration" RegistrationSettings.Patch.In patch.registration
  openapi : Gives entries "openapi" OpenApiSettings.Patch.In patch.openapi

/-- A document that sets of all settings what the patch sets. -/
def Settings.Patch.In (patch : Patch) (node : Node) : Prop :=
  ∃ entries, IsSection entries node ∧ patch.GivenBy entries

namespace Conventions

theorem fields :
    IsField setters "method_case"
      (Node.asChoice (MethodCase.all.map fun style => (style.name, style))) methodCase ∧
    IsField setters "param_style"
      (Node.asChoice (ParamStyle.all.map fun style => (style.name, style))) paramStyle ∧
    IsField setters "request_accessors" Role.Map.ofNode requestAccessors ∧
    IsField setters "response_accessors" Role.Map.ofNode responseAccessors ∧
    IsField setters "cookie_header" Node.asStrictText cookieHeader := by
  refine ⟨⟨⟨_, rfl⟩, ?_⟩, ⟨⟨_, rfl⟩, ?_⟩, ⟨⟨_, rfl⟩, ?_⟩, ⟨⟨_, rfl⟩, ?_⟩, ⟨⟨_, rfl⟩, ?_⟩⟩ <;>
    simp [setters]

theorem asMethodCase (style : MethodCase) (node : Node)
    (holds : HoldsName MethodCase.name style node) :
    node.asChoice (MethodCase.all.map fun style => (style.name, style)) = .ok style :=
  asChoice_of_holds (fun style => by cases style <;> decide) style node holds

theorem asParamStyle (style : ParamStyle) (node : Node)
    (holds : HoldsName ParamStyle.name style node) :
    node.asChoice (ParamStyle.all.map fun style => (style.name, style)) = .ok style :=
  asChoice_of_holds (fun style => by cases style <;> decide) style node holds

theorem ofNode_of_given {patch : Patch} {node : Node} (given : patch.In node) :
    ofNode node = .ok (patch.onto .fiber) := by
  obtain ⟨entries, rfl, given⟩ := given
  have named : ∀ entry ∈ entries,
      Node.nameOfKey (setters.map (·.1)) entry.1 = .ok (some (keyOf entry)) := by
    intro entry member
    rw [Node.nameOfKey, given.keys entry member]
    rfl
  have takes : ∀ entry ∈ setters, ∀ node, nodeAt? entry.1 entries = some node →
      ∀ before, ∃ after, entry.2 node before = .ok after := by
    simp only [setters, List.forall_mem_cons]
    exact ⟨given.methodCase.takes asMethodCase _, given.paramStyle.takes asParamStyle _,
      given.requestAccessors.takes Role.Map.ofNode_of_heldBy _,
      given.responseAccessors.takes Role.Map.ofNode_of_heldBy _,
      given.cookieHeader.takes asStrictText_of_holds _, nofun⟩
  obtain ⟨after, sets⟩ := exists_sets takes named given.distinct .fiber
  obtain ⟨ofCase, ofStyle, ofRequest, ofResponse, ofCookie⟩ := fields
  have methodCase := given.methodCase.get_eq asMethodCase ofCase sets
  have paramStyle := given.paramStyle.get_eq asParamStyle ofStyle sets
  have request := given.requestAccessors.get_eq Role.Map.ofNode_of_heldBy ofRequest sets
  have response := given.responseAccessors.get_eq Role.Map.ofNode_of_heldBy ofResponse sets
  have cookie := given.cookieHeader.get_eq asStrictText_of_holds ofCookie sets
  have same : after = patch.onto .fiber := by
    cases after
    cases methodCase
    cases paramStyle
    cases request
    cases response
    cases cookie
    rfl
  rw [ofNode, Node.asRecord, sets.ran, same]

end Conventions

namespace RegistrationSettings

theorem fields :
    IsField setters "enabled" Node.asBool enabled ∧
    IsField setters "output" Node.asOptionalText output ∧
    IsField setters "template" Node.asOptionalText template ∧
    IsField setters "package" Node.asStrictText (·.render.package) ∧
    IsField setters "validate_import" Node.asStrictText (·.render.validateImport) ∧
    IsField setters "framework_imports" Node.asStrictTexts (·.render.frameworkImports) ∧
    IsField setters "conventions" Conventions.ofNode (·.render.conventions) := by
  refine ⟨⟨⟨_, rfl⟩, ?_⟩, ⟨⟨_, rfl⟩, ?_⟩, ⟨⟨_, rfl⟩, ?_⟩, ⟨⟨_, rfl⟩, ?_⟩, ⟨⟨_, rfl⟩, ?_⟩,
    ⟨⟨_, rfl⟩, ?_⟩, ⟨⟨_, rfl⟩, ?_⟩⟩ <;>
    simp [setters, mapRender, -Bool.exists_bool, -Bool.forall_bool]

theorem asConventions (conventions : Conventions) (node : Node)
    (holds : ∃ patch : Conventions.Patch, patch.In node ∧ patch.onto .fiber = conventions) :
    Conventions.ofNode node = .ok conventions := by
  obtain ⟨patch, given, rfl⟩ := holds
  exact Conventions.ofNode_of_given given

theorem ofNode_of_given {patch : Patch} {node : Node} (given : patch.In node) :
    ofNode node = .ok (patch.onto {}) := by
  obtain ⟨entries, isSection, given⟩ := given
  have ofPatch := given.conventions.map (·.onto .fiber)
  have takes : ∀ entry ∈ setters, ∀ node, nodeAt? entry.1 entries = some node →
      ∀ before, ∃ after, entry.2 node before = .ok after := by
    simp only [setters, List.forall_mem_cons]
    exact ⟨given.enabled.takes asBool_of_holds _, given.output.takes asOptionalText_of_holds _,
      given.template.takes asOptionalText_of_holds _,
      given.package.takes asStrictText_of_holds _,
      given.validateImport.takes asStrictText_of_holds _,
      given.frameworkImports.takes asStrictTexts_of_holds _,
      ofPatch.takes asConventions _, nofun⟩
  obtain ⟨after, sets, read⟩ := exists_asSection isSection _ takes given.distinct {}
  obtain ⟨ofEnabled, ofOutput, ofTemplate, ofPackage, ofValidate, ofFramework, ofConventions⟩ :=
    fields
  have enabled := given.enabled.get_eq asBool_of_holds ofEnabled sets
  have output := given.output.get_eq asOptionalText_of_holds ofOutput sets
  have template := given.template.get_eq asOptionalText_of_holds ofTemplate sets
  have package := given.package.get_eq asStrictText_of_holds ofPackage sets
  have validate := given.validateImport.get_eq asStrictText_of_holds ofValidate sets
  have framework := given.frameworkImports.get_eq asStrictTexts_of_holds ofFramework sets
  have conventions : after.render.conventions = (patch.conventions.getD {}).onto .fiber :=
    (ofPatch.get_eq asConventions ofConventions sets).trans
      (Option.getD_map (·.onto Conventions.fiber) ({} : Conventions.Patch) patch.conventions)
  have same : after = patch.onto {} := by
    obtain ⟨_, _, _, _, _, _, _⟩ := after
    cases enabled
    cases output
    cases template
    cases package
    cases validate
    cases framework
    cases conventions
    rfl
  rw [ofNode, read, same]

end RegistrationSettings

namespace OpenApiSettings

theorem fields :
    IsField setters "enabled" Node.asBool enabled ∧
    IsField setters "output" Node.asOptionalText output ∧
    IsField setters "title" Node.asText title ∧
    IsField setters "version" Node.asText version ∧
    IsField setters "server_url" Node.asText serverUrl := by
  refine ⟨⟨⟨_, rfl⟩, ?_⟩, ⟨⟨_, rfl⟩, ?_⟩, ⟨⟨_, rfl⟩, ?_⟩, ⟨⟨_, rfl⟩, ?_⟩, ⟨⟨_, rfl⟩, ?_⟩⟩ <;>
    simp [setters, -Bool.exists_bool, -Bool.forall_bool]

theorem ofNode_of_given {patch : Patch} {node : Node} (given : patch.In node) :
    ofNode node = .ok (patch.onto {}) := by
  obtain ⟨entries, isSection, given⟩ := given
  have takes : ∀ entry ∈ setters, ∀ node, nodeAt? entry.1 entries = some node →
      ∀ before, ∃ after, entry.2 node before = .ok after := by
    simp only [setters, List.forall_mem_cons]
    exact ⟨given.enabled.takes asBool_of_holds _, given.output.takes asOptionalText_of_holds _,
      given.title.takes asText_of_holds _, given.version.takes asText_of_holds _,
      given.serverUrl.takes asText_of_holds _, nofun⟩
  obtain ⟨after, sets, read⟩ := exists_asSection isSection _ takes given.distinct {}
  obtain ⟨ofEnabled, ofOutput, ofTitle, ofVersion, ofServer⟩ := fields
  have enabled := given.enabled.get_eq asBool_of_holds ofEnabled sets
  have output := given.output.get_eq asOptionalText_of_holds ofOutput sets
  have title := given.title.get_eq asText_of_holds ofTitle sets
  have version := given.version.get_eq asText_of_holds ofVersion sets
  have server := given.serverUrl.get_eq asText_of_holds ofServer sets
  have same : after = patch.onto {} := by
    cases after
    cases enabled
    cases output
    cases title
    cases version
    cases server
    rfl
  rw [ofNode, read, same]

end OpenApiSettings

namespace Settings

theorem fields :
    IsField setters "version" (Node.asNatural (Nat.pow 2 32)) version ∧
    IsField setters "registration" RegistrationSettings.ofNode registration ∧
    IsField setters "openapi" OpenApiSettings.ofNode openapi := by
  refine ⟨⟨⟨_, rfl⟩, ?_⟩, ⟨⟨_, rfl⟩, ?_⟩, ⟨⟨_, rfl⟩, ?_⟩⟩ <;>
    simp [setters]

theorem asRegistration (settings : RegistrationSettings) (node : Node)
    (holds : ∃ patch : RegistrationSettings.Patch, patch.In node ∧ patch.onto {} = settings) :
    RegistrationSettings.ofNode node = .ok settings := by
  obtain ⟨patch, given, rfl⟩ := holds
  exact RegistrationSettings.ofNode_of_given given

theorem asOpenApi (settings : OpenApiSettings) (node : Node)
    (holds : ∃ patch : OpenApiSettings.Patch, patch.In node ∧ patch.onto {} = settings) :
    OpenApiSettings.ofNode node = .ok settings := by
  obtain ⟨patch, given, rfl⟩ := holds
  exact OpenApiSettings.ofNode_of_given given

/-- The settings in a document are the standard ones with what it sets replaced. -/
theorem ofNode_of_given {patch : Patch} {node : Node} (given : patch.In node) :
    ofNode node = .ok (patch.onto {}) := by
  obtain ⟨entries, isSection, given⟩ := given
  have ofRegistration := given.registration.map (·.onto {})
  have ofOpenApi := given.openapi.map (·.onto {})
  have takes : ∀ entry ∈ setters, ∀ node, nodeAt? entry.1 entries = some node →
      ∀ before, ∃ after, entry.2 node before = .ok after := by
    simp only [setters, List.forall_mem_cons]
    exact ⟨given.version.takes asNatural_of_holds _, ofRegistration.takes asRegistration _,
      ofOpenApi.takes asOpenApi _, nofun⟩
  obtain ⟨after, sets, read⟩ := exists_asSection isSection _ takes given.distinct {}
  obtain ⟨versionField, registrationField, openApiField⟩ := fields
  have version := given.version.get_eq asNatural_of_holds versionField sets
  have registration : after.registration = (patch.registration.getD {}).onto {} :=
    (ofRegistration.get_eq asRegistration registrationField sets).trans
      (Option.getD_map (·.onto {}) ({} : RegistrationSettings.Patch) patch.registration)
  have openapi : after.openapi = (patch.openapi.getD {}).onto {} :=
    (ofOpenApi.get_eq asOpenApi openApiField sets).trans
      (Option.getD_map (·.onto {}) ({} : OpenApiSettings.Patch) patch.openapi)
  have same : after = patch.onto {} := by
    cases after
    cases version
    cases registration
    cases openapi
    rfl
  rw [ofNode, read, same]

end Settings

/-! ## The document of settings -/

/-- The patch that sets every field. -/
def Conventions.toPatch (conventions : Conventions) : Patch :=
  ⟨some conventions.methodCase, some conventions.paramStyle, some conventions.requestAccessors,
    some conventions.responseAccessors, some conventions.cookieHeader⟩

/-- The patch that sets every field. -/
def RegistrationSettings.toPatch (settings : RegistrationSettings) : Patch :=
  ⟨some settings.enabled, some settings.output, some settings.template,
    some settings.render.package, some settings.render.validateImport,
    some settings.render.frameworkImports, some settings.render.conventions.toPatch⟩

/-- The patch that sets every field. -/
def OpenApiSettings.toPatch (settings : OpenApiSettings) : Patch :=
  ⟨some settings.enabled, some settings.output, some settings.title, some settings.version,
    some settings.serverUrl⟩

/-- The patch that sets every field. -/
def Settings.toPatch (settings : Settings) : Patch :=
  ⟨some settings.version, some settings.registration.toPatch, some settings.openapi.toPatch⟩

theorem Conventions.toPatch_given (conventions : Conventions) :
    conventions.toPatch.In (.ofJson conventions.toJson) := by
  refine ⟨Node.ofMembers _, rfl, ?_⟩
  exact {
    keys := by
      rw [ofMembers_eq_map, List.forall_mem_map]
      exact fun member _ => kind_ofText member.1
    distinct := by
      rw [keys_ofMembers]
      simp
    methodCase := gives_ofMembers rfl (holdsText_ofText _)
    paramStyle := gives_ofMembers rfl (holdsText_ofText _)
    requestAccessors := gives_ofMembers rfl (Role.Map.heldBy_toJson _)
    responseAccessors := gives_ofMembers rfl (Role.Map.heldBy_toJson _)
    cookieHeader := gives_ofMembers rfl (holdsText_ofText _) }

theorem RegistrationSettings.toPatch_given (settings : RegistrationSettings) :
    settings.toPatch.In (.ofJson settings.toJson) := by
  refine ⟨Node.ofMembers _, .mapping _, ?_⟩
  exact {
    distinct := by
      rw [keys_ofMembers]
      simp [RenderOptions.toMembers]
    enabled := gives_ofMembers rfl (holdsTruth_ofBool _)
    output := gives_ofMembers rfl (holdsPath_ofOption _)
    template := gives_ofMembers rfl (holdsPath_ofOption _)
    package := gives_ofMembers rfl (holdsText_ofText _)
    validateImport := gives_ofMembers rfl (holdsText_ofText _)
    frameworkImports := gives_ofMembers rfl (holdsTexts_ofStrings _)
    conventions := gives_ofMembers rfl (Conventions.toPatch_given _) }

theorem OpenApiSettings.toPatch_given (settings : OpenApiSettings) :
    settings.toPatch.In (.ofJson settings.toJson) := by
  refine ⟨Node.ofMembers _, .mapping _, ?_⟩
  exact {
    distinct := by
      rw [keys_ofMembers]
      simp
    enabled := gives_ofMembers rfl (holdsTruth_ofBool _)
    output := gives_ofMembers rfl (holdsPath_ofOption _)
    title := gives_ofMembers rfl (holdsWritten_ofText _)
    version := gives_ofMembers rfl (holdsWritten_ofText _)
    serverUrl := gives_ofMembers rfl (holdsWritten_ofText _) }

/-! ### Writing it -/

theorem Conventions.isWritable_toJson (conventions : Conventions) :
    (Node.ofJson conventions.toJson).IsWritable := by
  refine isWritable_object (by simp only [List.forall_mem_cons]; decide) ?_
  simp only [List.forall_mem_cons]
  exact ⟨isWritable_string _, isWritable_string _, Role.Map.isWritable_toJson _,
    Role.Map.isWritable_toJson _, isWritable_string _, nofun⟩

theorem RegistrationSettings.isWritable_toJson (settings : RegistrationSettings) :
    (Node.ofJson settings.toJson).IsWritable := by
  refine isWritable_object ?_ ?_
  · simp only [RenderOptions.toMembers, List.cons_append, List.nil_append, List.forall_mem_cons]
    decide
  · simp only [RenderOptions.toMembers, List.cons_append, List.nil_append, List.forall_mem_cons]
    exact ⟨isWritable_bool _, isWritable_option _, isWritable_option _, isWritable_string _,
      isWritable_string _, isWritable_strings _, Conventions.isWritable_toJson _, nofun⟩

theorem OpenApiSettings.isWritable_toJson (settings : OpenApiSettings) :
    (Node.ofJson settings.toJson).IsWritable := by
  refine isWritable_object (by simp only [List.forall_mem_cons]; decide) ?_
  simp only [List.forall_mem_cons]
  exact ⟨isWritable_bool _, isWritable_option _, isWritable_string _, isWritable_string _,
    isWritable_string _, nofun⟩

theorem Settings.isWritable_toNode {settings : Settings} (known : settings.version = knownVersion) :
    settings.toNode.IsWritable := by
  refine isWritable_object (by simp only [List.forall_mem_cons]; decide) ?_
  simp only [List.forall_mem_cons]
  refine ⟨?_, RegistrationSettings.isWritable_toJson _, OpenApiSettings.isWritable_toJson _, nofun⟩
  rw [known]
  exact isWritable_one

namespace Settings

/-- The document of settings sets every field to what it is. -/
theorem toPatch_given {settings : Settings} (known : settings.version = knownVersion) :
    settings.toPatch.In settings.toNode := by
  refine ⟨Node.ofMembers _, .mapping _, ?_⟩
  exact {
    distinct := by
      rw [keys_ofMembers]
      simp
    version := by
      refine gives_ofMembers rfl ?_
      rw [known]
      exact holdsNumber_one
    registration := gives_ofMembers rfl (RegistrationSettings.toPatch_given _)
    openapi := gives_ofMembers rfl (OpenApiSettings.toPatch_given _) }

/-- Settings from a text are those of the document in it, once their version is known to be
understood. -/
theorem ofYaml_of_given {text : String} {node : Node} {patch : Patch}
    (read : Yaml.read text = .ok node) (given : patch.In node) :
    ofYaml text = (patch.onto {}).validate := by
  have found : Yaml.read text >>= ofNode = .ok (patch.onto {}) :=
    Fallible.bind_eq_ok.mpr ⟨node, read, ofNode_of_given given⟩
  rw [ofYaml, found]

/-- A document gives the standard settings with what it sets replaced, and is refused if it sets
another version than the one that is understood; the document of settings gives them back. -/
theorem ofYaml_patches :
    (∀ text node (patch : Patch), Yaml.read text = .ok node → patch.In node →
      (∀ version ∈ patch.version, version = knownVersion) → ofYaml text = .ok (patch.onto {})) ∧
    (∀ text node (patch : Patch), Yaml.read text = .ok node → patch.In node →
      ∀ version ∈ patch.version, version ≠ knownVersion →
        ofYaml text =
          .error (.config ("Unsupported routespec.yaml version: " ++ toString version))) ∧
    (∀ settings : Settings, settings.version = knownVersion →
      ofYaml settings.toYaml = .ok settings) := by
  refine ⟨?known, ?unknown, ?reload⟩
  case known =>
    intro text node patch read given known
    have version : (patch.onto {}).version = knownVersion := by
      cases given : patch.version with
      | none => simp [Patch.onto, given, knownVersion]
      | some version =>
          rw [Patch.onto, given]
          exact known version given
    rw [ofYaml_of_given read given, validate, if_pos version]
  case unknown =>
    intro text node patch read given version set unknown
    have isSet : (patch.onto {}).version = version := by
      rw [Patch.onto, Option.mem_def.mp set]
      rfl
    rw [ofYaml_of_given read given, validate, if_neg (isSet ▸ unknown), isSet]
    rfl
  case reload =>
    intro settings known
    have read := Yaml.read_print (isWritable_toNode known)
    rw [toYaml, ofYaml_of_given read (toPatch_given known), validate]
    exact if_pos known

/-- A document with a title and a version. -/
def shopDocument (version : Nat) : Node :=
  .ofJson (.object [("openapi", .object [("title", .string "Shop")]), ("version", .int version)])

/-- What it sets. -/
def shopPatch (version : Nat) : Patch :=
  { version := some version, openapi := some { title := some "Shop" } }

theorem read_shopDocument {version : Nat} (plain : IsPlainText (toString (version : Int)).toList) :
    Yaml.read (Yaml.print (shopDocument version)) = .ok (shopDocument version) := by
  have title : (Node.ofJson (.object [("title", .string "Shop")])).IsWritable :=
    isWritable_object (by decide) (by simpa using isWritable_string "Shop")
  refine Yaml.read_print (isWritable_object ?_ ?_)
  · simp only [List.forall_mem_cons]
    decide
  · simp only [List.forall_mem_cons]
    exact ⟨title, isWritable_word plain, nofun⟩

theorem shopPatch_given {version : Nat} (holds : HoldsNumber version (.ofJson (.int version))) :
    (shopPatch version).In (shopDocument version) := by
  have title : OpenApiSettings.Patch.In { title := some "Shop" }
      (.ofJson (.object [("title", .string "Shop")])) := by
    refine ⟨Node.ofMembers _, .mapping _, ?_⟩
    exact {
      distinct := by decide
      enabled := .none
      output := .none
      title := gives_ofMembers rfl (holdsWritten_ofText _)
      version := .none
      serverUrl := .none }
  refine ⟨Node.ofMembers _, .mapping _, ?_⟩
  exact {
    distinct := by
      rw [keys_ofMembers]
      simp
    version := gives_ofMembers rfl holds
    registration := .none
    openapi := gives_ofMembers rfl title }

theorem ofYaml_patches_shop :
    ofYaml (Yaml.print (shopDocument 1)) = .ok { openapi := { title := "Shop" } } ∧
    ofYaml (Yaml.print (shopDocument 2)) =
      .error (.config "Unsupported routespec.yaml version: 2") ∧
    ofYaml ({ openapi := { output := some "api.json" } } : Settings).toYaml =
      .ok { openapi := { output := some "api.json" } } := by
  obtain ⟨known, unknown, reload⟩ := ofYaml_patches
  refine ⟨?_, ?_, reload _ rfl⟩
  · refine known _ _ (shopPatch 1) (read_shopDocument ⟨by decide, by decide, by decide⟩)
      (shopPatch_given (.scalar (by decide) (by decide))) ?_
    rintro version ⟨⟩
    rfl
  · exact unknown _ _ (shopPatch 2) (read_shopDocument ⟨by decide, by decide, by decide⟩)
      (shopPatch_given (.scalar (by decide) (by decide))) 2 rfl (by decide)

end Settings

end RouteAtlas

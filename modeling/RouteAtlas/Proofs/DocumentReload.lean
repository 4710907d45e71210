/-
Module: RouteAtlas.Proofs.DocumentReload
Purpose: Reading the text of a document gives back the document, or refuses the text when it
  nests too many containers.
Main exports: OpenApi.IsSorted, OpenApi.isSorted_ofTree, OpenApi.restores,
  OpenApi.load_written
-/
import RouteAtlas.OpenApi.Printer
import RouteAtlas.OpenApi.Reader
import RouteAtlas.Proofs.DocumentPaths
import RouteAtlas.Proofs.DumpReload

namespace RouteAtlas

open Json (Decoder Restores Fills nonEmpty? nonBlank?)

variable {room : Nat}

/-! ## Order

The dictionaries of a document are kept in ascending order of their names, at any depth.
-/

/-- A dictionary is in order, and so is each of its values. -/
def Dictionary.AllSorted {α : Type} (isSorted : α → Prop) (dictionary : Dictionary α) : Prop :=
  dictionary.IsSorted ∧ ∀ entry ∈ dictionary, isSorted entry.2

/-- The properties of a schema are in order, and so are those of the schemas inside it. -/
inductive Schema.IsSorted : Schema → Prop where
  | intro {type : String} {properties : Dictionary Schema} {items : Option Schema}
      {required : List String} (names : properties.IsSorted)
      (inner : ∀ entry ∈ properties, IsSorted entry.2)
      (element : ∀ schema, items = some schema → IsSorted schema) :
      IsSorted ⟨type, properties, items, required⟩

def MediaType.IsSorted (media : MediaType) : Prop :=
  media.schema.IsSorted

def RequestBody.IsSorted (body : RequestBody) : Prop :=
  body.content.AllSorted MediaType.IsSorted

def Response.IsSorted (response : Response) : Prop :=
  response.content.AllSorted MediaType.IsSorted

structure Operation.IsSorted (operation : Operation) : Prop where
  parameters : ∀ parameter ∈ operation.parameters, parameter.schema.IsSorted
  requestBody : ∀ body, operation.requestBody = some body → body.IsSorted
  responses : operation.responses.AllSorted Response.IsSorted

def PathItem.IsSorted (item : PathItem) : Prop :=
  ∀ method operation, item.get? method = some operation → operation.IsSorted

/-- Every dictionary of a document is in order. -/
def OpenApi.IsSorted (document : OpenApi) : Prop :=
  document.paths.AllSorted PathItem.IsSorted

/-! ### Documents of trees -/

theorem Dictionary.allSorted_singleton {α : Type} {isSorted : α → Prop} {name : String}
    {value : α} (sorted : isSorted value) : Dictionary.AllSorted isSorted [(name, value)] := by
  refine ⟨List.pairwise_singleton _ _, fun entry member => ?_⟩
  cases List.mem_singleton.mp member
  exact sorted

namespace Schema

theorem isSorted_ofType (type : String) : (ofType type).IsSorted :=
  .intro .nil (fun _ member => absurd member List.not_mem_nil) (fun _ none => by cases none)

theorem isSorted_array {type : String} {schema : Schema} (sorted : schema.IsSorted) :
    IsSorted { ofType type with items := schema } := by
  refine .intro .nil (fun _ member => absurd member List.not_mem_nil) fun _ same => ?_
  cases same
  exact sorted

theorem isSorted_ofFields {fields : List Field} {entries : List (String × Schema)}
    (inner : ∀ entry ∈ entries, entry.2.IsSorted) : (ofFields fields entries).IsSorted :=
  .intro Dictionary.isSorted_ofList
    (fun entry member => inner entry (Dictionary.mem_of_mem_ofList member))
    (fun _ none => by cases none)

mutual

theorem isSorted_ofField : ∀ field : Field, (ofField field).IsSorted
  | ⟨_, .string, _, _, _⟩ => isSorted_ofType "string"
  | ⟨_, .integer _, _, _, _⟩ => isSorted_ofType "integer"
  | ⟨_, .bool, _, _, _⟩ => isSorted_ofType "boolean"
  | ⟨_, .map, _, _, _⟩ => isSorted_ofType "object"
  | ⟨_, .array, _, _, []⟩ => isSorted_array (isSorted_ofType "string")
  | ⟨_, .array, _, _, element :: _⟩ => isSorted_array (isSorted_ofField element)
  | ⟨_, .record, _, _, subfields⟩ => isSorted_ofFields (isSorted_entries subfields)

theorem isSorted_entries : ∀ fields : List Field, ∀ entry ∈ entries fields, entry.2.IsSorted
  | [], _, member => absurd member List.not_mem_nil
  | field :: rest, entry, member => by
      rcases List.mem_cons.mp member with rfl | later
      · exact isSorted_ofField field
      · exact isSorted_entries rest entry later

end

theorem isSorted_object (fields : List Field) : (object fields).IsSorted :=
  isSorted_ofFields (isSorted_entries fields)

end Schema

theorem MediaType.allSorted_json {schema : Schema} (sorted : schema.IsSorted) :
    (json schema).AllSorted MediaType.IsSorted :=
  Dictionary.allSorted_singleton sorted

theorem Parameter.isSorted_ofField? {field : Field} {parameter : Parameter}
    (found : ofField? field = some parameter) : parameter.schema.IsSorted := by
  unfold ofField? at found
  split at found
  · cases found
    exact Schema.isSorted_ofField field
  · cases found
    exact Schema.isSorted_ofField field
  · cases found

theorem RequestBody.isSorted_ofEndpoint? {endpoint : Endpoint} {body : RequestBody}
    (found : ofEndpoint? endpoint = some body) : body.IsSorted := by
  unfold ofEndpoint? at found
  dsimp only at found
  split at found
  · cases found
  · cases found
    exact MediaType.allSorted_json (Schema.isSorted_object _)

theorem Operation.isSorted_ofEndpoint (endpoint : Endpoint) : (ofEndpoint endpoint).IsSorted where
  parameters := by
    intro parameter member
    obtain ⟨field, _, found⟩ := List.mem_filterMap.mp member
    exact Parameter.isSorted_ofField? found
  requestBody _ found := RequestBody.isSorted_ofEndpoint? found
  responses := Dictionary.allSorted_singleton <|
    MediaType.allSorted_json (Schema.isSorted_object endpoint.response.fields)

theorem OpenApi.isSorted_ofTree (tree : PathNode) (title version server : String) :
    (ofTree tree title version server).IsSorted := by
  refine ⟨pathsOf_isSorted tree, fun entry member method operation found => ?_⟩
  have there : (pathsOf tree).get? entry.1 = some entry.2 :=
    (Dictionary.mem_iff_get? (pathsOf_isSorted tree)).mp member
  have placed : operation? (pathsOf tree) entry.1 method = some operation := by
    rw [operation?, there, Option.bind_some, found]
  rw [operation?_pathsOf] at placed
  obtain ⟨last, _, rfl⟩ := Option.map_eq_some_iff.mp placed
  exact Operation.isSorted_ofEndpoint last.2

/-! ## Members that are left out when they hold nothing -/

section LeftOut

open Json (Slot)

variable {σ α : Type} {slots : List (Slot σ)} {name : String} {optional : Bool}
  {draft filled : σ}

/-- What the slot of a truth value holds when false is left out. -/
def trueOnly? (value : Bool) : Option Bool :=
  if value then some true else none

@[simp] theorem getD_trueOnly? (value : Bool) : (trueOnly? value).getD false = value := by
  cases value <;> rfl

theorem Json.Fills.ifTrue {get : σ → Option Bool} {set : Bool → σ → σ} {value : Bool}
    (put : Option Bool → σ) (absent : put none = draft) (same : put (trueOnly? value) = filled)
    (found : slots.find? (·.name == name) = some (.of name optional Decoder.bool get set))
    (free : get draft = none) (present : ∀ value, set value draft = put (some value)) :
    Fills slots room (Json.memberIfTrue name value) draft filled := by
  refine Fills.leftOut put absent same found free present ?_
  cases value with
  | false => exact .inl ⟨rfl, rfl⟩
  | true => exact .inr ⟨_, _, rfl, rfl, Json.restores_bool true⟩

theorem Json.Fills.ifSome {decode : Decoder α} {get : σ → Option (Option α)}
    {set : Option α → σ → σ} {form : α → Json} {value : Option α}
    (put : Option (Option α) → σ) (absent : put none = draft)
    (same : put (value.map some) = filled)
    (found : slots.find? (·.name == name) =
      some (.of name optional (Decoder.option decode) get set))
    (free : get draft = none) (present : ∀ value, set value draft = put (some value))
    (restores : ∀ held, value = some held →
      Restores decode room (form held) held ∧ form held ≠ .null) :
    Fills slots room (Json.memberIfSome name (value.map form)) draft filled := by
  refine Fills.leftOut put absent same found free present ?_
  cases value with
  | none => exact .inl ⟨rfl, rfl⟩
  | some held =>
      obtain ⟨restored, notNull⟩ := restores held rfl
      exact .inr ⟨_, _, rfl, rfl, restored.some notNull⟩

theorem Dictionary.restores {decode : Decoder α} {form : α → Json} {dictionary : Dictionary α}
    (sorted : dictionary.IsSorted)
    (restores : ∀ inner, room = inner + 1 → ∀ entry ∈ dictionary,
      Restores decode inner (form entry.2) entry.2) :
    Restores (Dictionary.decode decode) room (.object (dictionary.toMembers form))
      dictionary := by
  have entries := Restores.entries restores
  unfold Restores at entries ⊢
  rw [Dictionary.decode, Dictionary.toMembers, entries]
  split
  · rw [Except.map, Dictionary.ofList_of_isSorted sorted]
  · rfl

theorem Json.Fills.unlessBare {decode : Decoder (Dictionary α)}
    {get : σ → Option (Dictionary α)} {set : Dictionary α → σ → σ} {form : α → Json}
    {dictionary : Dictionary α} (put : Option (Dictionary α) → σ) (absent : put none = draft)
    (same : put (nonEmpty? dictionary) = filled)
    (found : slots.find? (·.name == name) = some (.of name optional decode get set))
    (free : get draft = none) (present : ∀ value, set value draft = put (some value))
    (restores : Restores decode room (.object (dictionary.toMembers form)) dictionary) :
    Fills slots room (Json.memberUnlessBare name (dictionary.toMembers form)) draft filled := by
  refine Fills.leftOut put absent same found free present ?_
  cases dictionary with
  | nil => exact .inl ⟨rfl, rfl⟩
  | cons entry rest => exact .inr ⟨_, _, rfl, rfl, restores⟩

end LeftOut

/-! ## Schemas -/

namespace Schema

theorem membersToJson_eq (properties : List (String × Schema)) :
    membersToJson properties = Dictionary.toMembers toJson properties := by
  induction properties with
  | nil => rfl
  | cons entry rest ih =>
      obtain ⟨name, schema⟩ := entry
      rw [membersToJson, ih]
      rfl

theorem toJson_eq (type : String) (properties : Dictionary Schema) (items : Option Schema)
    (required : List String) :
    toJson ⟨type, properties, items, required⟩ =
      .object (((Json.memberUnlessBlank "type" type ++
        Json.memberUnlessBare "properties" (properties.toMembers toJson)) ++
        Json.memberIfSome "items" (items.map toJson)) ++
        Json.memberUnlessEmpty "required" (required.map .string)) := by
  cases items <;> simp [toJson, optionToJson, membersToJson_eq]

theorem toJson_ne_null (schema : Schema) : schema.toJson ≠ .null := by
  cases schema
  simp [toJson]

/-- A level of schemas opens a container, so the room runs out before the levels do. -/
theorem restores_levels (levels : Nat) :
    ∀ (room : Nat) (schema : Schema), room < levels → schema.IsSorted →
      Restores (decodeLevels levels) room schema.toJson schema := by
  induction levels with
  | zero =>
      intro room schema few
      exact absurd few (Nat.not_lt_zero room)
  | succ levels ih =>
      rintro room ⟨type, properties, items, required⟩ few ⟨names, below, element⟩
      rw [toJson_eq]
      refine Restores.record
        { type := nonBlank? type, properties := nonEmpty? properties, items := items.map some
          required := nonEmpty? required } ?_ ?_
      · intro inner opened
        have dictionary : Restores (Dictionary.decode (decodeLevels levels)) inner
            (.object (Dictionary.toMembers toJson properties)) properties := by
          refine Dictionary.restores names fun innermost opened entry member => ?_
          exact ih innermost entry.2 (by omega) (below entry member)
        -- Each member is added to the draft that the members before it have filled.
        iterate 3 apply Fills.append
        · exact Fills.unlessBlank (fun type => { type }) rfl rfl (by rfl) (by rfl) fun _ => rfl
        · exact Fills.unlessBare (fun properties => { type := nonBlank? type, properties })
            rfl rfl (by rfl) (by rfl) (fun _ => rfl) dictionary
        · refine Fills.ifSome
            (fun items => { type := nonBlank? type, properties := nonEmpty? properties, items })
            rfl rfl (by rfl) (by rfl) (fun _ => rfl) fun schema held => ?_
          exact ⟨ih inner schema (by omega) (element schema held), schema.toJson_ne_null⟩
        · exact Fills.unlessEmpty
            (fun required =>
              { type := nonBlank? type, properties := nonEmpty? properties
                items := items.map some, required })
            rfl rfl (by rfl) (by rfl) (fun _ => rfl) (restores_strings required)
      · cases items <;> simp [ofDraft]

theorem restores {schema : Schema} (sorted : schema.IsSorted) :
    Restores decode room schema.toJson schema :=
  restores_levels (room + 1) room schema (Nat.lt_succ_self room) sorted

end Schema

/-! ## Operations -/

theorem MediaType.restores {media : MediaType} (sorted : media.IsSorted) :
    Restores decode room media.toJson media := by
  refine Restores.record (some media.schema) ?_ rfl
  intro inner _
  exact Fills.member (by rfl) (by rfl) (Schema.restores sorted) (by rfl)

theorem MediaType.restores_all {content : Dictionary MediaType}
    (sorted : content.AllSorted MediaType.IsSorted) :
    Restores (Dictionary.decode decode) room (.object (content.toMembers toJson)) content :=
  Dictionary.restores sorted.1 fun _ _ entry member => MediaType.restores (sorted.2 entry member)

theorem Parameter.restores {parameter : Parameter} (sorted : parameter.schema.IsSorted) :
    Restores decode room parameter.toJson parameter := by
  obtain ⟨name, location, required, schema⟩ := parameter
  refine Restores.record
    { name := some name, location := some location, required := trueOnly? required
      schema := some schema } ?_ ?_
  · intro inner _
    iterate 2 apply Fills.append
    · exact Fills.cons (by rfl) (by rfl) (Json.restores_string name) (by rfl) <|
        Fills.member (by rfl) (by rfl) (Json.restores_string location) (by rfl)
    · exact Fills.ifTrue
        (fun required => { name := some name, location := some location, required })
        rfl rfl (by rfl) (by rfl) fun _ => rfl
    · exact Fills.member (by rfl) (by rfl) (Schema.restores sorted) (by rfl)
  · simp [Json.require, bind, pure, Except.bind, Except.pure]

theorem RequestBody.restores {body : RequestBody} (sorted : body.IsSorted) :
    Restores decode room body.toJson body := by
  obtain ⟨required, content⟩ := body
  refine Restores.record { required := trueOnly? required, content := some content } ?_ ?_
  · intro inner _
    apply Fills.append
    · exact Fills.ifTrue (fun required => { required }) rfl rfl (by rfl) (by rfl) fun _ => rfl
    · exact Fills.member (by rfl) (by rfl) (MediaType.restores_all sorted) (by rfl)
  · simp [Json.require, bind, pure, Except.bind, Except.pure]

theorem Response.restores {response : Response} (sorted : response.IsSorted) :
    Restores decode room response.toJson response := by
  obtain ⟨description, content⟩ := response
  refine Restores.record
    { description := some description, content := nonEmpty? content } ?_ ?_
  · intro inner _
    refine Fills.cons (by rfl) (by rfl) (Json.restores_string description) (by rfl) ?_
    exact Fills.unlessBare (fun content => { description := some description, content })
      rfl rfl (by rfl) (by rfl) (fun _ => rfl) (MediaType.restores_all sorted)
  · simp [Json.require, bind, pure, Except.bind, Except.pure]

theorem Operation.restores {operation : Operation} (sorted : operation.IsSorted) :
    Restores decode room operation.toJson operation := by
  obtain ⟨summary, operationId, description, parameters, requestBody, responses⟩ := operation
  refine Restores.record
    { summary := nonBlank? summary, operationId := nonBlank? operationId
      description := nonBlank? description, parameters := nonEmpty? parameters
      requestBody := requestBody.map some, responses := some responses } ?_ ?_
  · intro inner _
    have listed : Restores (Decoder.list Parameter.decode) inner
        (.array (parameters.map Parameter.toJson)) parameters :=
      Restores.list fun _ _ parameter member =>
        Parameter.restores (sorted.parameters parameter member)
    have answers : Restores (Dictionary.decode Response.decode) inner
        (.object (responses.toMembers Response.toJson)) responses :=
      Dictionary.restores sorted.responses.1 fun _ _ entry member =>
        Response.restores (sorted.responses.2 entry member)
    -- Each member is added to the draft that the members before it have filled.
    iterate 5 apply Fills.append
    · exact Fills.unlessBlank (fun summary => { summary }) rfl rfl (by rfl) (by rfl) fun _ => rfl
    · exact Fills.unlessBlank
        (fun operationId => { summary := nonBlank? summary, operationId })
        rfl rfl (by rfl) (by rfl) fun _ => rfl
    · exact Fills.unlessBlank
        (fun description =>
          { summary := nonBlank? summary, operationId := nonBlank? operationId, description })
        rfl rfl (by rfl) (by rfl) fun _ => rfl
    · exact Fills.unlessEmpty
        (fun parameters =>
          { summary := nonBlank? summary, operationId := nonBlank? operationId
            description := nonBlank? description, parameters })
        rfl rfl (by rfl) (by rfl) (fun _ => rfl) listed
    · refine Fills.ifSome
        (fun requestBody =>
          { summary := nonBlank? summary, operationId := nonBlank? operationId
            description := nonBlank? description, parameters := nonEmpty? parameters
            requestBody })
        rfl rfl (by rfl) (by rfl) (fun _ => rfl) fun body held => ?_
      exact ⟨RequestBody.restores (sorted.requestBody body held), by simp [RequestBody.toJson]⟩
    · exact Fills.member (by rfl) (by rfl) answers (by rfl)
  · cases requestBody <;> simp [Json.require, bind, pure, Except.bind, Except.pure]

theorem PathItem.restores {item : PathItem} (sorted : item.IsSorted) :
    Restores decode room item.toJson item := by
  obtain ⟨get, post, put, patch, delete⟩ := item
  have held : ∀ {inner : Nat} (method : Method) (operation : Operation),
      Method.Map.get? ⟨get, post, put, patch, delete⟩ method = some operation →
        Restores Operation.decode inner operation.toJson operation ∧ operation.toJson ≠ .null :=
    fun method operation found =>
      ⟨Operation.restores (sorted method operation found), by simp [Operation.toJson]⟩
  refine Restores.record
    { get := get.map some, post := post.map some, put := put.map some
      patch := patch.map some, delete := delete.map some } ?_ ?_
  · intro inner _
    -- Each member is added to the draft that the members before it have filled.
    iterate 4 apply Fills.append
    · exact Fills.ifSome (fun get => { get }) rfl rfl (by rfl) (by rfl) (fun _ => rfl) (held .get)
    · exact Fills.ifSome (fun post => { get := get.map some, post })
        rfl rfl (by rfl) (by rfl) (fun _ => rfl) (held .post)
    · exact Fills.ifSome (fun put => { get := get.map some, post := post.map some, put })
        rfl rfl (by rfl) (by rfl) (fun _ => rfl) (held .put)
    · exact Fills.ifSome
        (fun patch => { get := get.map some, post := post.map some, put := put.map some, patch })
        rfl rfl (by rfl) (by rfl) (fun _ => rfl) (held .patch)
    · exact Fills.ifSome
        (fun delete =>
          { get := get.map some, post := post.map some, put := put.map some
            patch := patch.map some, delete })
        rfl rfl (by rfl) (by rfl) (fun _ => rfl) (held .delete)
  · cases get <;> cases post <;> cases put <;> cases patch <;> cases delete <;> rfl

/-! ## Documents -/

theorem ApiInfo.restores (info : ApiInfo) :
    Restores decode room
      (.object [("title", .string info.title), ("version", .string info.version)]) info := by
  refine Restores.record ⟨some info.title, some info.version⟩ ?_ rfl
  intro inner _
  refine Fills.cons (by rfl) (by rfl) (Json.restores_string info.title) (by rfl) ?_
  exact Fills.member (by rfl) (by rfl) (Json.restores_string info.version) (by rfl)

theorem ApiServer.restores (server : ApiServer) :
    Restores decode room (.object [("url", .string server.url)]) server := by
  refine Restores.record (some server.url) ?_ rfl
  intro inner _
  exact Fills.member (by rfl) (by rfl) (Json.restores_string server.url) (by rfl)

theorem OpenApi.restores {document : OpenApi} (sorted : document.IsSorted) :
    Restores decode room document.toJson document := by
  obtain ⟨openapi, info, servers, paths⟩ := document
  refine Restores.record
    { openapi := some openapi, info := some info, servers := nonEmpty? servers
      paths := some paths } ?_ ?_
  · intro inner _
    have listed : Restores (Decoder.list ApiServer.decode) inner
        (.array (servers.map fun server => .object [("url", .string server.url)])) servers :=
      Restores.list fun _ _ server _ => server.restores
    have items : Restores (Dictionary.decode PathItem.decode) inner
        (.object (paths.toMembers PathItem.toJson)) paths :=
      Dictionary.restores sorted.1 fun _ _ entry member =>
        PathItem.restores (sorted.2 entry member)
    iterate 2 apply Fills.append
    · exact Fills.cons (by rfl) (by rfl) (Json.restores_string openapi) (by rfl) <|
        Fills.member (by rfl) (by rfl) info.restores (by rfl)
    · exact Fills.unlessEmpty
        (fun servers => { openapi := some openapi, info := some info, servers })
        rfl rfl (by rfl) (by rfl) (fun _ => rfl) listed
    · exact Fills.member (by rfl) (by rfl) items (by rfl)
  · simp [Json.require, bind, pure, Except.bind, Except.pure]

/-! ## Documents as texts

A document holds no numbers, so every part of it is read back exactly.
-/

theorem itemsPortable_map {α : Type} {form : α → Json} {items : List α}
    (portable : ∀ item ∈ items, (form item).IsPortable) :
    Json.ItemsPortable (items.map form) := by
  rw [Json.itemsPortable_iff]
  simpa using portable

theorem membersPortable_append {one other : List (String × Json)}
    (first : Json.MembersPortable one) (second : Json.MembersPortable other) :
    Json.MembersPortable (one ++ other) := by
  rw [Json.membersPortable_iff] at first second ⊢
  exact List.forall_mem_append.mpr ⟨first, second⟩

theorem membersPortable_unlessEmpty (name : String) {items : List Json}
    (portable : Json.ItemsPortable items) :
    Json.MembersPortable (Json.memberUnlessEmpty name items) := by
  unfold Json.memberUnlessEmpty
  split
  · trivial
  · exact ⟨portable, trivial⟩

theorem membersPortable_unlessBlank (name text : String) :
    Json.MembersPortable (Json.memberUnlessBlank name text) := by
  unfold Json.memberUnlessBlank
  split <;> trivial

theorem membersPortable_ifTrue (name : String) (value : Bool) :
    Json.MembersPortable (Json.memberIfTrue name value) := by
  cases value
  · trivial
  · exact ⟨trivial, trivial⟩

theorem membersPortable_ifSome (name : String) {form : Option Json}
    (portable : ∀ value, form = some value → value.IsPortable) :
    Json.MembersPortable (Json.memberIfSome name form) := by
  cases form with
  | none => trivial
  | some value => exact ⟨portable value rfl, trivial⟩

theorem membersPortable_unlessBare (name : String) {members : List (String × Json)}
    (portable : Json.MembersPortable members) :
    Json.MembersPortable (Json.memberUnlessBare name members) := by
  unfold Json.memberUnlessBare
  split
  · trivial
  · exact ⟨portable, trivial⟩

theorem Dictionary.portable {α : Type} {form : α → Json}
    (portable : ∀ value, (form value).IsPortable) (dictionary : Dictionary α) :
    Json.MembersPortable (dictionary.toMembers form) := by
  induction dictionary with
  | nil => trivial
  | cons entry rest ih => exact ⟨portable entry.2, ih⟩

mutual

theorem Schema.portable : ∀ schema : Schema, schema.toJson.IsPortable
  | ⟨type, properties, items, required⟩ => by
      refine membersPortable_append (membersPortable_append
        (membersPortable_append ?_ ?_) ?_) ?_
      · exact membersPortable_unlessBlank "type" type
      · exact membersPortable_unlessBare "properties" (Schema.portable_members properties)
      · exact membersPortable_ifSome "items" (Schema.portable_option items)
      · exact membersPortable_unlessEmpty "required" (itemsPortable_map fun _ _ => trivial)

theorem Schema.portable_members : ∀ properties : List (String × Schema),
    Json.MembersPortable (Schema.membersToJson properties)
  | [] => trivial
  | (_, schema) :: rest => ⟨schema.portable, Schema.portable_members rest⟩

theorem Schema.portable_option : ∀ (items : Option Schema) (form : Json),
    Schema.optionToJson items = some form → form.IsPortable
  | some schema, _, rfl => schema.portable

end

theorem MediaType.portable (media : MediaType) : media.toJson.IsPortable :=
  ⟨media.schema.portable, trivial⟩

theorem Parameter.portable (parameter : Parameter) : parameter.toJson.IsPortable :=
  membersPortable_append
    (membersPortable_append ⟨trivial, trivial, trivial⟩
      (membersPortable_ifTrue "required" parameter.required))
    ⟨parameter.schema.portable, trivial⟩

theorem RequestBody.portable (body : RequestBody) : body.toJson.IsPortable :=
  membersPortable_append (membersPortable_ifTrue "required" body.required)
    ⟨Dictionary.portable MediaType.portable body.content, trivial⟩

theorem Response.portable (response : Response) : response.toJson.IsPortable :=
  ⟨trivial, membersPortable_unlessBare "content"
    (Dictionary.portable MediaType.portable response.content)⟩

theorem Operation.portable (operation : Operation) : operation.toJson.IsPortable := by
  refine membersPortable_append (membersPortable_append (membersPortable_append
    (membersPortable_append (membersPortable_append ?_ ?_) ?_) ?_) ?_) ?_
  · exact membersPortable_unlessBlank "summary" operation.summary
  · exact membersPortable_unlessBlank "operationId" operation.operationId
  · exact membersPortable_unlessBlank "description" operation.description
  · exact membersPortable_unlessEmpty "parameters"
      (itemsPortable_map fun parameter _ => parameter.portable)
  · refine membersPortable_ifSome "requestBody" fun form held => ?_
    obtain ⟨body, _, rfl⟩ := Option.map_eq_some_iff.mp held
    exact body.portable
  · exact ⟨Dictionary.portable Response.portable operation.responses, trivial⟩

theorem PathItem.portable (item : PathItem) : item.toJson.IsPortable := by
  have held : ∀ (name : String) (slot : Option Operation),
      Json.MembersPortable (Json.memberIfSome name (slot.map Operation.toJson)) := by
    intro name slot
    refine membersPortable_ifSome name fun form held => ?_
    obtain ⟨operation, _, rfl⟩ := Option.map_eq_some_iff.mp held
    exact operation.portable
  exact membersPortable_append (membersPortable_append (membersPortable_append
    (membersPortable_append (held "get" _) (held "post" _)) (held "put" _))
    (held "patch" _)) (held "delete" _)

namespace OpenApi

theorem portable (document : OpenApi) : document.toJson.IsPortable :=
  membersPortable_append
    (membersPortable_append ⟨trivial, ⟨trivial, trivial, trivial⟩, trivial⟩
      (membersPortable_unlessEmpty "servers"
        (itemsPortable_map fun _ _ => ⟨trivial, trivial⟩)))
    ⟨Dictionary.portable PathItem.portable document.paths, trivial⟩

/-- A text that is read as the form of a document is loaded as the document if the form is
not too deep. -/
theorem load_of_read {document : OpenApi} (sorted : document.IsSorted) {text : String}
    (read : Json.read text = ⟨Json.Reading.ofJson document.toJson, false⟩) :
    load text =
      if document.toJson.depth ≤ 127 then .ok document else .error .malformed := by
  have restored : Restores decode Json.nestingLimit document.toJson document :=
    OpenApi.restores sorted
  unfold Restores at restored
  rw [load, Json.decodeText, read, restored]
  by_cases fits : document.toJson.depth ≤ 127
  · simp [Json.nestingLimit, fits]
  · simp [Json.nestingLimit, fits]

/-- Loading either text of a document gives back the very document when the text nests at
most 127 arrays and objects, and is refused as a malformed text when it nests more.  So
does loading the text that is written for a tree. -/
theorem load_written :
    (∀ document : OpenApi, document.IsSorted →
      ∀ text ∈ [document.toJson.pretty, document.toJson.compact],
        load text =
          if document.toJson.depth ≤ 127 then .ok document else .error .malformed) ∧
    ∀ (tree : PathNode) (title version server : String),
      load (render tree title version server) =
        if (ofTree tree title version server).toJson.depth ≤ 127 then
          .ok (ofTree tree title version server)
        else .error .malformed := by
  constructor
  · intro document sorted text member
    simp only [List.mem_cons, List.not_mem_nil, or_false] at member
    rcases member with rfl | rfl
    · exact load_of_read sorted (Json.read_pretty document.portable)
    · exact load_of_read sorted (Json.read_compact document.portable)
  · intro tree title version server
    exact load_of_read (isSorted_ofTree tree title version server)
      (Json.read_pretty_line (portable _))

/-- A user has a name and may have tags. -/
def userSchema : Schema where
  type := "object"
  properties :=
    [("name", .ofType "string"),
      ("tags", { Schema.ofType "array" with items := Schema.ofType "string" })]
  items := none
  required := ["name"]

/-- A service that lists its users by page. -/
def userListing : Operation where
  summary := "List"
  operationId := "List"
  description := ""
  parameters := [⟨"page", "query", false, .ofType "integer"⟩]
  requestBody := none
  responses :=
    [("200", ⟨"Users", MediaType.json { Schema.ofType "array" with items := userSchema }⟩),
      ("404", ⟨"No such page", []⟩)]

def userService : OpenApi where
  openapi := "3.1.0"
  info := ⟨"Users", "1.0.0"⟩
  servers := []
  paths := [("/users", { PathItem.empty with get := userListing })]

theorem isSorted_userSchema : userSchema.IsSorted := by
  refine .intro (List.pairwise_pair.mpr (by decide)) (fun entry member => ?_)
    (fun _ none => by cases none)
  rcases List.mem_pair.mp member with rfl | rfl
  · exact Schema.isSorted_ofType "string"
  · exact Schema.isSorted_array (Schema.isSorted_ofType "string")

theorem isSorted_userListing : userListing.IsSorted where
  parameters parameter member := by
    cases List.mem_singleton.mp member
    exact Schema.isSorted_ofType "integer"
  requestBody _ none := by cases none
  responses := by
    refine ⟨List.pairwise_pair.mpr (by decide), fun entry member => ?_⟩
    rcases List.mem_pair.mp member with rfl | rfl
    · exact MediaType.allSorted_json (Schema.isSorted_array isSorted_userSchema)
    · exact ⟨.nil, fun _ member => absurd member List.not_mem_nil⟩

theorem isSorted_userService : userService.IsSorted := by
  refine Dictionary.allSorted_singleton fun method operation found => ?_
  cases method <;> cases found
  exact isSorted_userListing

theorem load_written_userService :
    userService.IsSorted ∧ load userService.toJson.pretty = .ok userService ∧
      load userService.toJson.compact = .ok userService := by
  have fits : userService.toJson.depth ≤ 127 := by decide
  have loaded := load_written.1 userService isSorted_userService
  simp only [fits, if_true] at loaded
  exact ⟨isSorted_userService, loaded _ (by simp), loaded _ (by simp)⟩

end OpenApi

end RouteAtlas

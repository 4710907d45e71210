/-
Module: RouteAtlas.Proofs.OperationParts
Purpose: Which parts of the operation of an endpoint stand for which fields.  A field of the
  request is a parameter or a property of the body, and never both.
Main exports: Schema.IsObjectOf, Schema.object_isObjectOf, Field.TravelsApart,
  Operation.Presents, Operation.ofEndpoint_presents
-/
import Mathlib.Logic.Basic
import RouteAtlas.OpenApi.Assembly
import RouteAtlas.Proofs.DictionaryLaws
import RouteAtlas.Proofs.Fallible

namespace RouteAtlas

/-! ## Objects -/

namespace Schema

/-- A schema of objects with given fields.  There is a property under the wire name of each
of them, which is the last one of this name, and those that are mandatory are required. -/
structure IsObjectOf (schema : Schema) (fields : List Field) : Prop where
  type : schema.type = "object"
  items : schema.items = none
  sorted : Dictionary.IsSorted schema.properties
  properties : ∀ name, Dictionary.get? name schema.properties =
    (fields.reverse.find? fun field => field.wireName = name).map ofField
  required : schema.required =
    (fields.filter fun field => "required" ∈ field.validation).map Field.wireName

variable {schema : Schema} {fields : List Field} {field : Field}

theorem entries_eq_map (fields : List Field) :
    entries fields = fields.map fun field => (field.wireName, ofField field) := by
  induction fields with
  | nil => rfl
  | cons field rest ih => rw [entries, ih, List.map_cons]

theorem object_isObjectOf (fields : List Field) : (object fields).IsObjectOf fields where
  type := rfl
  items := rfl
  sorted := Dictionary.isSorted_ofList
  properties name := by
    rw [object, ofFields, Dictionary.get?_ofList, entries_eq_map, ← List.map_reverse,
      List.find?_map, Option.map_map]
    rfl
  required := by
    have same : Field.isRequired = fun field => decide ("required" ∈ field.validation) := by
      funext field
      simp [Field.isRequired, Field.requiredRule]
    rw [object, ofFields, same]

/-- No field is lost, whatever other fields have its name. -/
theorem IsObjectOf.isSome_get? (isObject : schema.IsObjectOf fields) (listed : field ∈ fields) :
    (Dictionary.get? field.wireName schema.properties).isSome = true := by
  rw [isObject.properties, Option.isSome_map, List.find?_isSome]
  exact ⟨field, List.mem_reverse.mpr listed, by simp⟩

/-- Only an object without fields has no properties. -/
theorem IsObjectOf.properties_eq_nil_iff (isObject : schema.IsObjectOf fields) :
    schema.properties = [] ↔ fields = [] := by
  constructor
  · intro none
    cases fields with
    | nil => rfl
    | cons field rest =>
        have found := isObject.isSome_get? List.mem_cons_self
        rw [none] at found
        cases found
  · rintro rfl
    apply Dictionary.eq_of_get?_eq isObject.sorted List.Pairwise.nil
    intro name
    rw [isObject.properties]
    rfl

end Schema

/-! ## Parameters -/

/-- A field of a request that travels in the path or in the query. -/
def Field.TravelsApart (field : Field) : Prop :=
  field.role? = some .path ∨ field.role? = some .query

instance : DecidablePred Field.TravelsApart := fun field =>
  inferInstanceAs (Decidable (field.role? = some .path ∨ field.role? = some .query))

/-- A parameter for a field: one in the path, which is always required, or one in the query,
which is required if the field is. -/
structure Parameter.StandsFor (parameter : Parameter) (field : Field) : Prop where
  name : parameter.name = field.wireName
  schema : parameter.schema = .ofField field
  place : (field.role? = some .path ∧ parameter.location = "path" ∧ parameter.required = true) ∨
    (field.role? = some .query ∧ parameter.location = "query" ∧
      (parameter.required = true ↔ "required" ∈ field.validation))

variable {field : Field}

theorem Parameter.StandsFor.travelsApart {parameter : Parameter}
    (standsFor : parameter.StandsFor field) : field.TravelsApart :=
  standsFor.place.imp And.left And.left

theorem Parameter.ofField?_of_apart (apart : field.TravelsApart) :
    ∃ parameter, ofField? field = some parameter ∧ parameter.StandsFor field := by
  unfold ofField?
  rcases apart with inPath | inQuery
  · rw [inPath]
    exact ⟨_, rfl, rfl, rfl, .inl ⟨inPath, rfl, rfl⟩⟩
  · rw [inQuery]
    refine ⟨_, rfl, rfl, rfl, .inr ⟨inQuery, rfl, ?_⟩⟩
    simp [Field.isRequired, Field.requiredRule]

theorem Parameter.ofField?_of_not_apart (within : ¬ field.TravelsApart) :
    ofField? field = none := by
  unfold ofField?
  split
  · next inPath => exact absurd (.inl inPath) within
  · next inQuery => exact absurd (.inr inQuery) within
  · rfl

/-- The body has exactly the fields that are no parameters. -/
theorem Field.inBody_eq (field : Field) : field.inBody = !decide field.TravelsApart := by
  unfold inBody
  split
  · next inPath => simp [TravelsApart, inPath]
  · next inQuery => simp [TravelsApart, inQuery]
  · next notInPath notInQuery =>
      have within : ¬ field.TravelsApart := fun apart => apart.elim notInPath notInQuery
      simp [within]

/-! ## Operations -/

/-- A body that must be there and is JSON of a schema. -/
structure RequestBody.HasSchema (body : RequestBody) (schema : Schema) : Prop where
  required : body.required = true
  content : body.content = [("application/json", ⟨schema⟩)]

namespace Operation

/-- Some parameter stands for a field. -/
def HasParameter (operation : Operation) (field : Field) : Prop :=
  ∃ parameter ∈ operation.parameters, parameter.StandsFor field

/-- A field is not to be a parameter, and the body has a property under its name. -/
def HasProperty (operation : Operation) (field : Field) : Prop :=
  ¬ field.TravelsApart ∧ ∃ body schema, operation.requestBody = some body ∧
    body.HasSchema schema ∧ (Dictionary.get? field.wireName schema.properties).isSome = true

/-- An operation presents the request and the response of an endpoint. -/
structure Presents (operation : Operation) (endpoint : Endpoint) : Prop where
  /-- The parameters are those fields of the request, in their order, that travel apart. -/
  parameters : List.Forall₂ (fun field parameter => parameter.StandsFor field)
    (endpoint.body.fields.filter fun field => field.TravelsApart) operation.parameters
  /-- There is a body unless the method is GET or all fields travel apart. -/
  hasBody : operation.requestBody.isSome = true ↔
    endpoint.method ≠ .get ∧ ∃ field ∈ endpoint.body.fields, ¬ field.TravelsApart
  /-- The body is an object of all other fields. -/
  body : ∀ body ∈ operation.requestBody, ∃ schema, body.HasSchema schema ∧
    schema.IsObjectOf (endpoint.body.fields.filter fun field => ¬ field.TravelsApart)
  /-- A field of the request is presented in one of the two ways only. -/
  once : endpoint.method ≠ .get → ∀ field ∈ endpoint.body.fields,
    Xor (operation.HasParameter field) (operation.HasProperty field)
  /-- The response is an object of all of its fields. -/
  response : ∃ schema, schema.IsObjectOf endpoint.response.fields ∧
    operation.responses = [("200", ⟨"Successful response", [("application/json", ⟨schema⟩)]⟩)]

end Operation

/-- The object in the body of a request. -/
def Endpoint.bodySchema (endpoint : Endpoint) : Schema :=
  .object (endpoint.body.fields.filter fun field => ¬ field.TravelsApart)

/-- That the object in the body has no properties is as good as that no field is left for
it. -/
theorem Endpoint.bodySchema_properties_eq_nil_iff (endpoint : Endpoint) :
    endpoint.bodySchema.properties = [] ↔
      ¬ ∃ field ∈ endpoint.body.fields, ¬ field.TravelsApart := by
  have isObject := Schema.object_isObjectOf
    (endpoint.body.fields.filter fun field => ¬ field.TravelsApart)
  apply isObject.properties_eq_nil_iff.trans
  simp

theorem RequestBody.ofEndpoint?_eq (endpoint : Endpoint) :
    ofEndpoint? endpoint =
      if endpoint.method ≠ .get ∧ ∃ field ∈ endpoint.body.fields, ¬ field.TravelsApart then
        some ⟨true, MediaType.json endpoint.bodySchema⟩
      else none := by
  have same : endpoint.body.fields.filter Field.inBody =
      endpoint.body.fields.filter fun field => ¬ field.TravelsApart := by
    apply List.filter_congr
    intro field _
    simp [field.inBody_eq]
  unfold ofEndpoint?
  dsimp only
  rw [same, ← Endpoint.bodySchema]
  have isNil := endpoint.bodySchema_properties_eq_nil_iff
  by_cases left : ∃ field ∈ endpoint.body.fields, ¬ field.TravelsApart
  · have some : endpoint.bodySchema.properties.isEmpty = false := by
      rw [List.isEmpty_eq_false_iff]
      exact fun none => isNil.mp none left
    by_cases isGet : endpoint.method = .get
    · simp [Endpoint.isGet, isGet]
    · simp [Endpoint.isGet, isGet, some, left]
  · have none : endpoint.bodySchema.properties.isEmpty = true :=
      List.isEmpty_iff.mpr (isNil.mpr left)
    simp [none, left]

namespace Operation

variable {endpoint : Endpoint} {field : Field}

/-- The fields that have a parameter are those that travel apart. -/
theorem hasParameter_iff (listed : field ∈ endpoint.body.fields) :
    (ofEndpoint endpoint).HasParameter field ↔ field.TravelsApart := by
  constructor
  · rintro ⟨parameter, _, standsFor⟩
    exact standsFor.travelsApart
  · intro apart
    obtain ⟨parameter, made, standsFor⟩ := Parameter.ofField?_of_apart apart
    exact ⟨parameter, List.mem_filterMap.mpr ⟨field, listed, made⟩, standsFor⟩

/-- The fields that have a property in the body are the others. -/
theorem hasProperty_iff (notGet : endpoint.method ≠ .get)
    (listed : field ∈ endpoint.body.fields) :
    (ofEndpoint endpoint).HasProperty field ↔ ¬ field.TravelsApart := by
  constructor
  · exact And.left
  · intro within
    refine ⟨within, ⟨true, MediaType.json endpoint.bodySchema⟩, endpoint.bodySchema, ?_,
      ⟨rfl, rfl⟩, ?_⟩
    · exact (RequestBody.ofEndpoint?_eq endpoint).trans (if_pos ⟨notGet, field, listed, within⟩)
    · apply (Schema.object_isObjectOf _).isSome_get?
      simp [listed, within]

/-- The operation of an endpoint presents its request and its response: a field of the
request as a parameter, if it travels in the path or in the query, and otherwise in the
body, if there is one; and every field of the response. -/
theorem ofEndpoint_presents (endpoint : Endpoint) : (ofEndpoint endpoint).Presents endpoint where
  parameters := by
    apply Fallible.related_filterMap
    · intro field _ apart
      exact Parameter.ofField?_of_apart (of_decide_eq_true apart)
    · intro field _ within
      exact Parameter.ofField?_of_not_apart (of_decide_eq_false within)
  hasBody := by
    rw [ofEndpoint, RequestBody.ofEndpoint?_eq]
    split <;> simp_all
  body := by
    intro body given
    rw [ofEndpoint, RequestBody.ofEndpoint?_eq] at given
    split at given
    · cases given
      exact ⟨endpoint.bodySchema, ⟨rfl, rfl⟩, Schema.object_isObjectOf _⟩
    · cases given
  once := by
    intro notGet field listed
    rw [hasParameter_iff listed, hasProperty_iff notGet listed]
    exact xor_not_right.mpr Iff.rfl
  response := ⟨_, Schema.object_isObjectOf endpoint.response.fields, rfl⟩

end Operation

end RouteAtlas

/-
Module: RouteAtlas.Proofs.DumpReload
Purpose: Loading the dump of a route tree gives back the tree, or refuses the
  text when it nests too many containers.
Main exports: Field.restores, Endpoint.restores, PathNode.restores,
  PathNode.verbal, PathNode.load_dump
-/
import RouteAtlas.PathNode.Dump
import RouteAtlas.Proofs.JsonRoundTrip
import RouteAtlas.Proofs.TypedReading

namespace RouteAtlas

open Json (Decoder Restores Fills nonEmpty? nonBlank?)

variable {room : Nat}

/-! ## Choices -/

theorem Method.restores (method : Method) :
    Restores Method.decode room (.string method.name) method :=
  Json.restores_name (by cases method <;> rfl)

theorem PathKind.restores (kind : PathKind) :
    Restores PathKind.decode room (.string kind.name) kind :=
  Json.restores_name (by cases kind <;> rfl)

theorem IntType.restores (type : IntType) :
    Restores IntType.decode room (.string type.name) type :=
  Json.restores_name (by cases type <;> rfl)

theorem Role.restores (role : Role) :
    Restores Role.decode room (.string role.name) role :=
  Json.restores_name (by cases role <;> rfl)

theorem FieldKind.restores (kind : FieldKind) :
    Restores FieldKind.decode room kind.toJson kind := by
  cases kind with
  | integer type =>
      refine Json.restores_variantObject rfl ?_
      intro inner _
      have inside : Restores IntType.decode inner (.string type.name) type :=
        type.restores
      unfold Restores at inside ⊢
      simp [inside, Json.depth, Except.map]
  | bool => exact Json.restores_variantName rfl
  | string => exact Json.restores_variantName rfl
  | array => exact Json.restores_variantName rfl
  | record => exact Json.restores_variantName rfl
  | map => exact Json.restores_variantName rfl

/-! ## Structures without structures of their own kind -/

theorem PathSegment.restores (segment : PathSegment) :
    Restores PathSegment.decode room segment.toJson segment := by
  refine Restores.record ⟨some segment.name, some segment.kind⟩ ?_ rfl
  intro inner _
  refine Fills.cons (by rfl) (by rfl) (Json.restores_string segment.name) (by rfl) ?_
  exact Fills.member (by rfl) (by rfl) segment.kind.restores (by rfl)

theorem Receiver.restores (receiver : Receiver) :
    Restores Receiver.decode room receiver.toJson receiver := by
  refine Restores.record ⟨some receiver.name, some receiver.pointer⟩ ?_ rfl
  intro inner _
  refine Fills.cons (by rfl) (by rfl) (Json.restores_string receiver.name) (by rfl) ?_
  exact Fills.member (by rfl) (by rfl) (Json.restores_bool receiver.pointer) (by rfl)

theorem HandlerRef.restores (ref : HandlerRef) :
    Restores HandlerRef.decode room ref.toJson ref := by
  obtain ⟨name, importPath, receiver⟩ := ref
  refine Restores.record ⟨some name, some importPath, receiver.map some⟩ ?_ ?_
  · intro inner _
    refine Fills.cons (by rfl) (by rfl) (Json.restores_string name) (by rfl) ?_
    refine Fills.cons (by rfl) (by rfl) (Json.restores_string importPath) (by rfl) ?_
    cases receiver with
    | none => exact Fills.nil _
    | some receiver =>
        have present : receiver.toJson ≠ .null := by simp [Receiver.toJson]
        exact Fills.member (by rfl) (by rfl) (receiver.restores.some present) (by rfl)
  · cases receiver <;> rfl

theorem Serialization.restores (serialization : Serialization) :
    Restores Serialization.decode room serialization.toJson serialization := by
  refine Restores.record ⟨some serialization.role, some serialization.name⟩ ?_ rfl
  intro inner _
  refine Fills.cons (by rfl) (by rfl) serialization.role.restores (by rfl) ?_
  exact Fills.member (by rfl) (by rfl) (Json.restores_string serialization.name) (by rfl)

theorem restores_strings (texts : List String) :
    Restores (Decoder.list Decoder.string) room (.array (texts.map .string)) texts :=
  Restores.list fun _ _ text _ => Json.restores_string text

/-! ## Fields -/

theorem Field.listToJson_eq_map (fields : List Field) :
    Field.listToJson fields = fields.map Field.toJson := by
  induction fields with
  | nil => rfl
  | cons field fields ih => simp [Field.listToJson, ih]

theorem Field.toJson_eq (name : String) (kind : FieldKind)
    (serialization : Option Serialization) (validation : List String)
    (subfields : List Field) :
    Field.toJson ⟨name, kind, serialization, validation, subfields⟩ =
      .object (((([("name", .string name), ("kind", kind.toJson)] ++
        serialization.toList.map fun value => ("serialization", value.toJson)) ++
        Json.memberUnlessEmpty "validation" (validation.map .string)) ++
        Json.memberUnlessEmpty "subfields" (subfields.map Field.toJson))) := by
  cases serialization <;> simp [Field.toJson, Field.listToJson_eq_map]

/-- A level of fields opens two containers, an object and an array, so the room
runs out before the levels do. -/
theorem Field.restores_levels (levels : Nat) :
    ∀ (room : Nat) (field : Field), room < levels →
      Restores (Field.decodeLevels levels) room field.toJson field := by
  induction levels with
  | zero =>
      intro room field few
      exact absurd few (Nat.not_lt_zero room)
  | succ levels ih =>
      rintro room ⟨name, kind, serialization, validation, subfields⟩ few
      rw [Field.toJson_eq]
      refine Restores.record
        { name := some name, kind := some kind
          serialization := serialization.map some
          validation := nonEmpty? validation, subfields := nonEmpty? subfields } ?_ ?_
      · intro inner opened
        have below : Restores (Decoder.list (Field.decodeLevels levels)) inner
            (.array (subfields.map Field.toJson)) subfields := by
          refine Restores.list ?_
          intro innermost opened field _
          exact ih innermost field (by omega)
        -- The members are taken from the last to the first, as they are appended.
        refine Fills.append
          { name := some name, kind := some kind
            serialization := serialization.map some
            validation := nonEmpty? validation } ?_ ?_
        · refine Fills.append
            { name := some name, kind := some kind
              serialization := serialization.map some } ?_ ?_
          · refine Fills.append { name := some name, kind := some kind } ?_ ?_
            · refine Fills.cons (by rfl) (by rfl) (Json.restores_string name) (by rfl) ?_
              exact Fills.member (by rfl) (by rfl) kind.restores (by rfl)
            · cases serialization with
              | none => exact Fills.nil _
              | some serialization =>
                  have present : serialization.toJson ≠ .null := by
                    simp [Serialization.toJson]
                  exact Fills.member (by rfl) (by rfl)
                    (serialization.restores.some present) (by rfl)
          · exact Fills.unlessEmpty
              (fun validation =>
                { name := some name, kind := some kind
                  serialization := serialization.map some, validation })
              rfl rfl (by rfl) (by rfl) (fun _ => rfl) (restores_strings validation)
        · exact Fills.unlessEmpty
            (fun subfields =>
              { name := some name, kind := some kind
                serialization := serialization.map some
                validation := nonEmpty? validation, subfields })
            rfl rfl (by rfl) (by rfl) (fun _ => rfl) below
      · cases serialization <;>
          simp [Field.ofDraft, Json.require, bind, pure, Except.bind, Except.pure]

theorem Field.restores (field : Field) :
    Restores Field.decode room field.toJson field :=
  Field.restores_levels (room + 1) room field (Nat.lt_succ_self room)

/-! ## Endpoints -/

theorem Data.restores (data : Data) : Restores Data.decode room data.toJson data := by
  refine Restores.record ⟨some data.name, some data.importPath, some data.fields⟩ ?_ rfl
  intro inner _
  have fields : Restores (Decoder.list Field.decode) inner
      (.array (data.fields.map Field.toJson)) data.fields :=
    Restores.list fun _ _ field _ => field.restores
  rw [Field.listToJson_eq_map]
  refine Fills.cons (by rfl) (by rfl) (Json.restores_string data.name) (by rfl) ?_
  refine Fills.cons (by rfl) (by rfl) (Json.restores_string data.importPath) (by rfl) ?_
  exact Fills.member (by rfl) (by rfl) fields (by rfl)

theorem restores_handlers (refs : List HandlerRef) :
    Restores (Decoder.list HandlerRef.decode) room (.array (refs.map HandlerRef.toJson))
      refs :=
  Restores.list fun _ _ ref _ => ref.restores

theorem Endpoint.restores (endpoint : Endpoint) :
    Restores Endpoint.decode room endpoint.toJson endpoint := by
  obtain ⟨method, path, description, authorization, body, response, handler,
    middleware⟩ := endpoint
  refine Restores.record
    { method := some method, path := some path
      description := nonBlank? description, authorization := nonEmpty? authorization
      body := some body, response := some response, handler := some handler
      middleware := nonEmpty? middleware } ?_ ?_
  · intro inner _
    have segments : Restores (Decoder.list PathSegment.decode) inner
        (.array (path.map PathSegment.toJson)) path :=
      Restores.list fun _ _ segment _ => segment.restores
    -- The members are taken from the last to the first, as they are appended.
    refine Fills.append
      { method := some method, path := some path
        description := nonBlank? description, authorization := nonEmpty? authorization
        body := some body, response := some response, handler := some handler } ?_ ?_
    · refine Fills.append
        { method := some method, path := some path
          description := nonBlank? description
          authorization := nonEmpty? authorization } ?_ ?_
      · refine Fills.append
          { method := some method, path := some path
            description := nonBlank? description } ?_ ?_
        · refine Fills.append { method := some method, path := some path } ?_ ?_
          · refine Fills.cons (by rfl) (by rfl) method.restores (by rfl) ?_
            exact Fills.member (by rfl) (by rfl) segments (by rfl)
          · exact Fills.unlessBlank
              (fun description =>
                { method := some method, path := some path, description })
              rfl rfl (by rfl) (by rfl) fun _ => rfl
        · exact Fills.unlessEmpty
            (fun authorization =>
              { method := some method, path := some path
                description := nonBlank? description, authorization })
            rfl rfl (by rfl) (by rfl) (fun _ => rfl) (restores_strings authorization)
      · refine Fills.cons (by rfl) (by rfl) body.restores (by rfl) ?_
        refine Fills.cons (by rfl) (by rfl) response.restores (by rfl) ?_
        exact Fills.member (by rfl) (by rfl) handler.restores (by rfl)
    · exact Fills.unlessEmpty
        (fun middleware =>
          { method := some method, path := some path
            description := nonBlank? description
            authorization := nonEmpty? authorization
            body := some body, response := some response, handler := some handler
            middleware })
        rfl rfl (by rfl) (by rfl) (fun _ => rfl) (restores_handlers middleware)
  · simp [Json.require, bind, pure, Except.bind, Except.pure]

/-! ## Trees -/

theorem PathNode.listToJson_eq_map (nodes : List PathNode) :
    PathNode.listToJson nodes = nodes.map PathNode.toJson := by
  induction nodes with
  | nil => rfl
  | cons node nodes ih => simp [PathNode.listToJson, ih]

/-- A level of nodes opens two containers, an object and an array, so the room
runs out before the levels do. -/
theorem PathNode.restores_levels (levels : Nat) :
    ∀ (room : Nat) (node : PathNode), room < levels →
      Restores (PathNode.decodeLevels levels) room node.toJson node := by
  induction levels with
  | zero =>
      intro room node few
      exact absurd few (Nat.not_lt_zero room)
  | succ levels ih =>
      rintro room ⟨name, kind, endpoints, middleware, children⟩ few
      rw [PathNode.toJson, PathNode.listToJson_eq_map]
      refine Restores.record ⟨some name, some kind, some endpoints, some middleware,
        some children⟩ ?_ rfl
      intro inner opened
      have listed : Restores (Decoder.list Endpoint.decode) inner
          (.array (endpoints.map Endpoint.toJson)) endpoints :=
        Restores.list fun _ _ endpoint _ => endpoint.restores
      have below : Restores (Decoder.list (PathNode.decodeLevels levels)) inner
          (.array (children.map PathNode.toJson)) children := by
        refine Restores.list ?_
        intro innermost opened node _
        exact ih innermost node (by omega)
      refine Fills.cons (by rfl) (by rfl) (Json.restores_string name) (by rfl) ?_
      refine Fills.cons (by rfl) (by rfl) kind.restores (by rfl) ?_
      refine Fills.cons (by rfl) (by rfl) listed (by rfl) ?_
      refine Fills.cons (by rfl) (by rfl) (restores_handlers middleware) (by rfl) ?_
      exact Fills.member (by rfl) (by rfl) below (by rfl)

theorem PathNode.restores (node : PathNode) :
    Restores PathNode.decode room node.toJson node :=
  PathNode.restores_levels (room + 1) room node (Nat.lt_succ_self room)

/-! ## Dumps as texts

A dump holds no numbers, so every part of it is read back exactly.
-/

/-- Whether every member of an object has a property. -/
def MembersHave (P : String × Json → Prop) (members : List (String × Json)) : Prop :=
  ∀ member ∈ members, P member

section Members

variable {P : String × Json → Prop} {name : String} {form : Json}
  {one other members : List (String × Json)}

theorem MembersHave.nil : MembersHave P [] := by
  simp [MembersHave]

theorem MembersHave.cons (first : P (name, form)) (others : MembersHave P members) :
    MembersHave P ((name, form) :: members) :=
  List.forall_mem_cons.mpr ⟨first, others⟩

theorem MembersHave.append (first : MembersHave P one) (second : MembersHave P other) :
    MembersHave P (one ++ other) :=
  List.forall_mem_append.mpr ⟨first, second⟩

theorem MembersHave.unlessEmpty {items : List Json} (listed : P (name, .array items)) :
    MembersHave P (Json.memberUnlessEmpty name items) := by
  unfold Json.memberUnlessEmpty
  split
  · exact .nil
  · exact .cons listed .nil

theorem MembersHave.unlessBlank {text : String} (written : P (name, .string text)) :
    MembersHave P (Json.memberUnlessBlank name text) := by
  unfold Json.memberUnlessBlank
  split
  · exact .nil
  · exact .cons written .nil

theorem MembersHave.verbal (each : MembersHave (fun member => member.2.IsVerbal) members) :
    Json.IsVerbal (.object members) :=
  .object each

theorem verbal_map {α : Type} {form : α → Json} {items : List α}
    (each : ∀ item ∈ items, (form item).IsVerbal) : Json.IsVerbal (.array (items.map form)) := by
  refine .array ?_
  simpa using each

theorem verbal_strings (texts : List String) : Json.IsVerbal (.array (texts.map .string)) :=
  verbal_map fun text _ => .string text

end Members

theorem PathSegment.verbal (segment : PathSegment) : segment.toJson.IsVerbal :=
  MembersHave.verbal (.cons (.string _) <| .cons (.string _) .nil)

theorem HandlerRef.verbal (ref : HandlerRef) : ref.toJson.IsVerbal := by
  obtain ⟨name, importPath, receiver⟩ := ref
  refine MembersHave.verbal (.cons (.string _) <| .cons (.string _) ?_)
  cases receiver with
  | none => exact .nil
  | some receiver =>
      exact .cons (MembersHave.verbal (.cons (.string _) <| .cons (.bool _) .nil)) .nil

theorem FieldKind.verbal (kind : FieldKind) : kind.toJson.IsVerbal := by
  cases kind with
  | integer type => exact MembersHave.verbal (.cons (.string _) .nil)
  | bool => exact .string _
  | string => exact .string _
  | array => exact .string _
  | record => exact .string _
  | map => exact .string _

theorem Serialization.verbal (serialization : Serialization) : serialization.toJson.IsVerbal :=
  MembersHave.verbal (.cons (.string _) <| .cons (.string _) .nil)

mutual

theorem Field.verbal : ∀ field : Field, field.toJson.IsVerbal
  | ⟨name, kind, serialization, validation, subfields⟩ => by
      have below := Field.verbal_list subfields
      refine MembersHave.verbal (.append (.append (.append ?_ ?_) ?_) ?_)
      · exact .cons (.string _) <| .cons kind.verbal .nil
      · cases serialization with
        | none => exact .nil
        | some serialization => exact .cons serialization.verbal .nil
      · exact .unlessEmpty (verbal_strings validation)
      · exact .unlessEmpty (.array below)

theorem Field.verbal_list : ∀ fields : List Field,
    ∀ form ∈ Field.listToJson fields, form.IsVerbal
  | [] => by simp [Field.listToJson]
  | field :: rest => List.forall_mem_cons.mpr ⟨field.verbal, Field.verbal_list rest⟩

end

theorem Data.verbal (data : Data) : data.toJson.IsVerbal :=
  MembersHave.verbal (.cons (.string _) <| .cons (.string _) <|
    .cons (.array (Field.verbal_list data.fields)) .nil)

theorem Endpoint.verbal (endpoint : Endpoint) : endpoint.toJson.IsVerbal := by
  refine MembersHave.verbal (.append (.append (.append (.append ?_ ?_) ?_) ?_) ?_)
  · exact .cons (.string _) <| .cons (verbal_map fun segment _ => segment.verbal) .nil
  · exact .unlessBlank (.string endpoint.description)
  · exact .unlessEmpty (verbal_strings endpoint.authorization)
  · exact .cons endpoint.body.verbal <| .cons endpoint.response.verbal <|
      .cons endpoint.handler.verbal .nil
  · exact .unlessEmpty (verbal_map fun ref _ => ref.verbal)

mutual

theorem PathNode.verbal : ∀ node : PathNode, node.toJson.IsVerbal
  | ⟨_, _, _, _, children⟩ =>
      MembersHave.verbal (.cons (.string _) <| .cons (.string _) <|
        .cons (verbal_map fun endpoint _ => endpoint.verbal) <|
        .cons (verbal_map fun ref _ => ref.verbal) <|
        .cons (.array (PathNode.verbal_list children)) .nil)

theorem PathNode.verbal_list : ∀ nodes : List PathNode,
    ∀ form ∈ PathNode.listToJson nodes, form.IsVerbal
  | [] => by simp [PathNode.listToJson]
  | node :: rest => List.forall_mem_cons.mpr ⟨node.verbal, PathNode.verbal_list rest⟩

end

theorem PathNode.portable (node : PathNode) : node.toJson.IsPortable :=
  node.verbal.portable

/-- Loading the dump of a tree gives back the very tree when the dump nests at
most 127 arrays and objects, and is refused as a malformed text when it nests
more. -/
theorem PathNode.load_dump (node : PathNode) :
    PathNode.load node.dump =
      if node.toJson.depth ≤ 127 then .ok node else .error .malformed := by
  have restores : Restores PathNode.decode Json.nestingLimit node.toJson node :=
    node.restores
  have document := Json.read_pretty node.portable
  unfold Restores at restores
  rw [PathNode.load, PathNode.dump, Json.decodeText, document, restores]
  by_cases fits : node.toJson.depth ≤ 127
  · simp [Json.nestingLimit, fits]
  · simp [Json.nestingLimit, fits]

end RouteAtlas

/-
Module: RouteAtlas.Proofs.PresentedDumps
Purpose: A route tree is loaded from every presentation of its dump.
Main exports: Field.loads, Endpoint.loads, PathNode.loads, PathNode.load_presented
-/
import RouteAtlas.Proofs.Presentations

namespace RouteAtlas

open Json (Decoder)
open Dump (Complete Loads Served given)

variable {room : Nat}

/-! ## What is left out -/

namespace Dump

section LeftOut

variable {owner : Record} {members : List (String × Json)} {held : List String} {name : String}

/-- A member without a default is met. -/
theorem Complete.required {α : Type} (complete : Complete owner members held)
    (inside : name ∈ members.map Prod.fst) (needed : owner.default? name = none) (value : α) :
    given name held value = some value := by
  obtain ⟨⟨name, form⟩, member, rfl⟩ := List.mem_map.mp inside
  by_cases met : name ∈ held
  · exact if_pos met
  · have default := complete name form member met
    rw [needed] at default
    cases default

/-- A text that was not met is empty. -/
theorem Complete.text (complete : Complete owner members held) {text : String}
    (default : owner.default? name = some (.string ""))
    (inside : text ≠ "" → (name, .string text) ∈ members) :
    (given name held text).getD "" = text := by
  unfold given
  split
  · rfl
  · next absent =>
    by_cases filled : text = ""
    · rw [filled]
      rfl
    · have same := complete name _ (inside filled) absent
      rw [default] at same
      injection same with same
      injection same

/-- A list that was not met is empty. -/
theorem Complete.items {α : Type} (complete : Complete owner members held) (form : α → Json)
    {items : List α} (default : owner.default? name = some (.array []))
    (inside : items ≠ [] → (name, .array (items.map form)) ∈ members) :
    (given name held items).getD [] = items := by
  unfold given
  split
  · rfl
  · next absent =>
    cases items with
    | nil => rfl
    | cons item items =>
        have same := complete name _ (inside (List.cons_ne_nil item items)) absent
        rw [default] at same
        cases same

/-- A flag that was not met is not set. -/
theorem Complete.flag (complete : Complete owner members held) {value : Bool}
    (default : owner.default? name = some (.bool false)) (inside : (name, .bool value) ∈ members) :
    (given name held value).getD false = value := by
  unfold given
  split
  · rfl
  · next absent =>
    have same := complete name _ inside absent
    rw [default] at same
    injection same with same
    injection same with same

/-- A structure that was not met is absent. -/
theorem Complete.option {α : Type} (complete : Complete owner members held) (form : α → Json)
    {value : Option α} (default : owner.default? name = some .null)
    (inside : ∀ present, value = some present → (name, form present) ∈ members)
    (notNull : ∀ present, form present ≠ .null) : (given name held value).getD none = value := by
  unfold given
  split
  · rfl
  · next absent =>
    cases value with
    | none => rfl
    | some present =>
        have same := complete name _ (inside present rfl) absent
        rw [default] at same
        injection same with same
        exact absurd same.symm (notNull present)

/-! ### Members that dumps leave out -/

theorem mem_unlessBlank {text : String} (filled : text ≠ "") :
    (name, .string text) ∈ Json.memberUnlessBlank name text := by
  simp [Json.memberUnlessBlank, filled]

theorem mem_unlessEmpty {α : Type} {form : α → Json} {items : List α} (filled : items ≠ []) :
    (name, .array (items.map form)) ∈ Json.memberUnlessEmpty name (items.map form) := by
  simp [Json.memberUnlessEmpty, filled]

theorem names_unlessBlank (name text : String) :
    ((Json.memberUnlessBlank name text).map Prod.fst).Sublist [name] := by
  unfold Json.memberUnlessBlank
  split <;> simp

theorem names_unlessEmpty (name : String) (items : List Json) :
    ((Json.memberUnlessEmpty name items).map Prod.fst).Sublist [name] := by
  unfold Json.memberUnlessEmpty
  split <;> simp

theorem listed_append {one other : List (String × Json)} {names more : List String}
    (first : (one.map Prod.fst).Sublist names) (second : (other.map Prod.fst).Sublist more) :
    ((one ++ other).map Prod.fst).Sublist (names ++ more) := by
  rw [List.map_append]
  exact first.append second

end LeftOut

end Dump

/-! ## Structures without structures of their own kind -/

namespace PathSegment

/-- The draft of a segment of which some members have been met. -/
def met (segment : PathSegment) (held : List String) : Draft where
  name := given "name" held segment.name
  kind := given "kind" held segment.kind

theorem loads (segment : PathSegment) :
    Loads decode room (.record .segment) segment.toJson segment := by
  refine Loads.record segment.met rfl (List.Sublist.refl _) ?_ ?_
  · intro inner _
    refine .cons (.of rfl (fun _ => rfl) ?_ (.leaf (Json.restores_string _))) <|
      .cons (.of rfl (fun _ => rfl) ?_ (.leaf segment.kind.restores)) .nil
    all_goals simp [met, given]
  · intro held complete
    have name : given "name" held segment.name = some segment.name :=
      complete.required (by simp) rfl _
    have kind : given "kind" held segment.kind = some segment.kind :=
      complete.required (by simp) rfl _
    simp [met, name, kind, Json.require, bind, pure, Except.bind, Except.pure]

end PathSegment

namespace Receiver

/-- The draft of a receiver of which some members have been met. -/
def met (receiver : Receiver) (held : List String) : Draft where
  name := given "name" held receiver.name
  pointer := given "pointer" held receiver.pointer

theorem loads (receiver : Receiver) :
    Loads decode room (.record .receiver) receiver.toJson receiver := by
  refine Loads.record receiver.met rfl (List.Sublist.refl _) ?_ ?_
  · intro inner _
    refine .cons (.of rfl (fun _ => rfl) ?_ (.leaf (Json.restores_string _))) <|
      .cons (.of rfl (fun _ => rfl) ?_ (.leaf (Json.restores_bool _))) .nil
    all_goals simp [met, given]
  · intro held complete
    have name : given "name" held receiver.name = some receiver.name :=
      complete.required (by simp) rfl _
    have pointer : (given "pointer" held receiver.pointer).getD false = receiver.pointer :=
      complete.flag rfl (by simp)
    simp [met, name, pointer, Json.require, bind, pure, Except.bind, Except.pure]

end Receiver

namespace HandlerRef

/-- The draft of a function reference of which some members have been met. -/
def met (ref : HandlerRef) (held : List String) : Draft where
  name := given "name" held ref.name
  importPath := given "import" held ref.importPath
  receiver := given "receiver" held ref.receiver

theorem loads (ref : HandlerRef) : Loads decode room (.record .reference) ref.toJson ref := by
  obtain ⟨name, importPath, receiver⟩ := ref
  refine Loads.record (met ⟨name, importPath, receiver⟩) rfl ?_ ?_ ?_
  · cases receiver <;> simp [Dump.Record.names, Dump.Record.members]
  · intro inner _
    refine .cons (.of rfl (fun _ => rfl) ?_ (.leaf (Json.restores_string _))) <|
      .cons (.of rfl (fun _ => rfl) ?_ (.leaf (Json.restores_string _))) ?_
    · simp [met, given]
    · simp [met, given]
    cases receiver with
    | none => exact .nil
    | some receiver =>
        exact .cons (.of rfl (fun _ => rfl) (by simp [met, given]) receiver.loads.some) .nil
  · intro held complete
    have name : given "name" held name = some name := complete.required (by simp) rfl _
    have importPath : given "import" held importPath = some importPath :=
      complete.required (by simp) rfl _
    have receiver : (given "receiver" held receiver).getD none = receiver :=
      complete.option Receiver.toJson rfl (by rintro present rfl; simp)
        (fun present => by simp [Receiver.toJson])
    simp [met, name, importPath, receiver, Json.require, bind, pure, Except.bind, Except.pure]

end HandlerRef

namespace Serialization

/-- The draft of a serialization of which some members have been met. -/
def met (serialization : Serialization) (held : List String) : Draft where
  role := given "role" held serialization.role
  name := given "name" held serialization.name

theorem loads (serialization : Serialization) :
    Loads decode room (.record .serialization) serialization.toJson serialization := by
  refine Loads.record serialization.met rfl (List.Sublist.refl _) ?_ ?_
  · intro inner _
    refine .cons (.of rfl (fun _ => rfl) ?_ (.leaf serialization.role.restores)) <|
      .cons (.of rfl (fun _ => rfl) ?_ (.leaf (Json.restores_string _))) .nil
    all_goals simp [met, given]
  · intro held complete
    have role : given "role" held serialization.role = some serialization.role :=
      complete.required (by simp) rfl _
    have name : given "name" held serialization.name = some serialization.name :=
      complete.required (by simp) rfl _
    simp [met, role, name, Json.require, bind, pure, Except.bind, Except.pure]

end Serialization

theorem loads_strings (texts : List String) :
    Loads (Decoder.list Decoder.string) room (.list .leaf) (.array (texts.map .string)) texts :=
  .list fun _ _ text _ => .leaf (Json.restores_string text)

theorem loads_handlers (refs : List HandlerRef) :
    Loads (Decoder.list HandlerRef.decode) room (.list (.record .reference))
      (.array (refs.map HandlerRef.toJson)) refs :=
  .list fun _ _ ref _ => ref.loads

/-! ## Fields -/

namespace Field

/-- The draft of a field of which some members have been met. -/
def met (field : Field) (held : List String) : Draft where
  name := given "name" held field.name
  kind := given "kind" held field.kind
  serialization := given "serialization" held field.serialization
  validation := given "validation" held field.validation
  subfields := given "subfields" held field.subfields

/-- A level of fields opens two containers, an object and an array, so the room runs out before
the levels do. -/
theorem loads_levels (levels : Nat) :
    ∀ (room : Nat) (field : Field), room < levels →
      Loads (decodeLevels levels) room (.record .field) field.toJson field := by
  induction levels with
  | zero =>
      intro room field few
      exact absurd few (Nat.not_lt_zero room)
  | succ levels ih =>
      rintro room ⟨name, kind, serialization, validation, subfields⟩ few
      rw [toJson_eq]
      refine Loads.record (met ⟨name, kind, serialization, validation, subfields⟩) rfl ?_ ?_ ?_
      · have own : ((serialization.toList.map fun value =>
            ("serialization", value.toJson)).map Prod.fst).Sublist ["serialization"] := by
          cases serialization <;> simp
        change (List.map Prod.fst (_ ++ _ ++ _ ++ _)).Sublist
          (["name", "kind"] ++ ["serialization"] ++ ["validation"] ++ ["subfields"])
        exact Dump.listed_append (Dump.listed_append (Dump.listed_append (List.Sublist.refl _) own)
          (Dump.names_unlessEmpty "validation" _)) (Dump.names_unlessEmpty "subfields" _)
      · intro inner opened
        have below : Loads (Decoder.list (decodeLevels levels)) inner (.list (.record .field))
            (.array (subfields.map toJson)) subfields := by
          refine .list ?_
          intro innermost opened field _
          exact ih innermost field (by omega)
        refine .append (.append (.append ?_ ?_) ?_) ?_
        · refine .cons (.of rfl (fun _ => rfl) ?_ (.leaf (Json.restores_string _))) <|
            .cons (.of rfl (fun _ => rfl) ?_ (.leaf kind.restores)) .nil
          all_goals simp [met, given]
        · cases serialization with
          | none => exact .nil
          | some serialization =>
              exact .cons (.of rfl (fun _ => rfl) (by simp [met, given]) serialization.loads.some)
                .nil
        · exact .unlessEmpty (.of rfl (fun _ => rfl) (by simp [met, given])
            (loads_strings validation))
        · exact .unlessEmpty (.of rfl (fun _ => rfl) (by simp [met, given]) below)
      · intro held complete
        have name : (given "name" held name).getD "" = name :=
          complete.text rfl (fun _ => by simp)
        have kind : given "kind" held kind = some kind := complete.required (by simp) rfl _
        have serialization : (given "serialization" held serialization).getD none =
            serialization :=
          complete.option Serialization.toJson rfl (by rintro present rfl; simp)
            (fun present => by simp [Serialization.toJson])
        have validation : (given "validation" held validation).getD [] = validation :=
          complete.items Json.string rfl (fun filled => by simp [Dump.mem_unlessEmpty filled])
        have subfields : (given "subfields" held subfields).getD [] = subfields :=
          complete.items Field.toJson rfl (fun filled => by simp [Dump.mem_unlessEmpty filled])
        simp [ofDraft, met, name, kind, serialization, validation, subfields, Json.require, bind,
          pure, Except.bind, Except.pure]

theorem loads (field : Field) : Loads decode room (.record .field) field.toJson field :=
  loads_levels (room + 1) room field (Nat.lt_succ_self room)

end Field

/-! ## Endpoints -/

namespace Data

/-- The draft of a record schema of which some members have been met. -/
def met (data : Data) (held : List String) : Draft where
  name := given "name" held data.name
  importPath := given "import" held data.importPath
  fields := given "fields" held data.fields

theorem loads (data : Data) : Loads decode room (.record .data) data.toJson data := by
  rw [toJson, Field.listToJson_eq_map]
  refine Loads.record data.met rfl (List.Sublist.refl _) ?_ ?_
  · intro inner _
    have fields : Loads (Decoder.list Field.decode) inner (.list (.record .field))
        (.array (data.fields.map Field.toJson)) data.fields :=
      .list fun _ _ field _ => field.loads
    refine .cons (.of rfl (fun _ => rfl) ?_ (.leaf (Json.restores_string _))) <|
      .cons (.of rfl (fun _ => rfl) ?_ (.leaf (Json.restores_string _))) <|
      .cons (.of rfl (fun _ => rfl) ?_ fields) .nil
    all_goals simp [met, given]
  · intro held complete
    have name : given "name" held data.name = some data.name := complete.required (by simp) rfl _
    have importPath : (given "import" held data.importPath).getD "" = data.importPath :=
      complete.text rfl (fun _ => by simp)
    have fields : (given "fields" held data.fields).getD [] = data.fields :=
      complete.items Field.toJson rfl (fun _ => by simp)
    simp [met, name, importPath, fields, Json.require, bind, pure, Except.bind, Except.pure]

end Data

namespace Endpoint

/-- The draft of an endpoint of which some members have been met. -/
def met (endpoint : Endpoint) (held : List String) : Draft where
  method := given "method" held endpoint.method
  path := given "path" held endpoint.path
  description := given "description" held endpoint.description
  authorization := given "authorization" held endpoint.authorization
  body := given "body" held endpoint.body
  response := given "response" held endpoint.response
  handler := given "handler" held endpoint.handler
  middleware := given "middleware" held endpoint.middleware

theorem loads (endpoint : Endpoint) :
    Loads decode room (.record .endpoint) endpoint.toJson endpoint := by
  refine Loads.record endpoint.met rfl ?_ ?_ ?_
  · change (List.map Prod.fst (_ ++ _ ++ _ ++ _ ++ _)).Sublist
      (["method", "path"] ++ ["description"] ++ ["authorization"] ++
        ["body", "response", "handler"] ++ ["middleware"])
    exact Dump.listed_append (Dump.listed_append (Dump.listed_append (Dump.listed_append
      (List.Sublist.refl _) (Dump.names_unlessBlank "description" _))
      (Dump.names_unlessEmpty "authorization" _)) (List.Sublist.refl _))
      (Dump.names_unlessEmpty "middleware" _)
  · intro inner _
    have segments : Loads (Decoder.list PathSegment.decode) inner (.list (.record .segment))
        (.array (endpoint.path.map PathSegment.toJson)) endpoint.path :=
      .list fun _ _ segment _ => segment.loads
    refine .append (.append (.append (.append ?_ ?_) ?_) ?_) ?_
    · refine .cons (.of rfl (fun _ => rfl) ?_ (.leaf endpoint.method.restores)) <|
        .cons (.of rfl (fun _ => rfl) ?_ segments) .nil
      all_goals simp [met, given]
    · exact .unlessBlank (.of rfl (fun _ => rfl) (by simp [met, given])
        (.leaf (Json.restores_string _)))
    · exact .unlessEmpty (.of rfl (fun _ => rfl) (by simp [met, given])
        (loads_strings endpoint.authorization))
    · refine .cons (.of rfl (fun _ => rfl) ?_ endpoint.body.loads) <|
        .cons (.of rfl (fun _ => rfl) ?_ endpoint.response.loads) <|
        .cons (.of rfl (fun _ => rfl) ?_ endpoint.handler.loads) .nil
      all_goals simp [met, given]
    · exact .unlessEmpty (.of rfl (fun _ => rfl) (by simp [met, given])
        (loads_handlers endpoint.middleware))
  · intro held complete
    have method : given "method" held endpoint.method = some endpoint.method :=
      complete.required (by simp) rfl _
    have path : given "path" held endpoint.path = some endpoint.path :=
      complete.required (by simp) rfl _
    have description : (given "description" held endpoint.description).getD "" =
        endpoint.description :=
      complete.text rfl (fun filled => by simp [Dump.mem_unlessBlank filled])
    have authorization : (given "authorization" held endpoint.authorization).getD [] =
        endpoint.authorization :=
      complete.items Json.string rfl (fun filled => by simp [Dump.mem_unlessEmpty filled])
    have body : given "body" held endpoint.body = some endpoint.body :=
      complete.required (by simp) rfl _
    have response : given "response" held endpoint.response = some endpoint.response :=
      complete.required (by simp) rfl _
    have handler : given "handler" held endpoint.handler = some endpoint.handler :=
      complete.required (by simp) rfl _
    have middleware : (given "middleware" held endpoint.middleware).getD [] =
        endpoint.middleware :=
      complete.items HandlerRef.toJson rfl (fun filled => by simp [Dump.mem_unlessEmpty filled])
    simp [met, method, path, description, authorization, body, response, handler, middleware,
      Json.require, bind, pure, Except.bind, Except.pure]

end Endpoint

/-! ## Trees -/

namespace PathNode

/-- The draft of a node of which some members have been met. -/
def met (node : PathNode) (held : List String) : Draft where
  name := given "name" held node.name
  kind := given "kind" held node.kind
  endpoints := given "endpoints" held node.endpoints
  middleware := given "middleware" held node.middleware
  children := given "children" held node.children

/-- A level of nodes opens two containers, an object and an array, so the room runs out before
the levels do. -/
theorem loads_levels (levels : Nat) :
    ∀ (room : Nat) (node : PathNode), room < levels →
      Loads (decodeLevels levels) room (.record .node) node.toJson node := by
  induction levels with
  | zero =>
      intro room node few
      exact absurd few (Nat.not_lt_zero room)
  | succ levels ih =>
      rintro room ⟨name, kind, endpoints, middleware, children⟩ few
      rw [toJson, listToJson_eq_map]
      refine Loads.record (met ⟨name, kind, endpoints, middleware, children⟩) rfl
        (List.Sublist.refl _) ?_ ?_
      · intro inner opened
        have listed : Loads (Decoder.list Endpoint.decode) inner (.list (.record .endpoint))
            (.array (endpoints.map Endpoint.toJson)) endpoints :=
          .list fun _ _ endpoint _ => endpoint.loads
        have below : Loads (Decoder.list (decodeLevels levels)) inner (.list (.record .node))
            (.array (children.map toJson)) children := by
          refine .list ?_
          intro innermost opened node _
          exact ih innermost node (by omega)
        refine .cons (.of rfl (fun _ => rfl) ?_ (.leaf (Json.restores_string _))) <|
          .cons (.of rfl (fun _ => rfl) ?_ (.leaf kind.restores)) <|
          .cons (.of rfl (fun _ => rfl) ?_ listed) <|
          .cons (.of rfl (fun _ => rfl) ?_ (loads_handlers middleware)) <|
          .cons (.of rfl (fun _ => rfl) ?_ below) .nil
        all_goals simp [met, given]
      · intro held complete
        have name : (given "name" held name).getD "" = name :=
          complete.text rfl (fun _ => by simp)
        have kind : given "kind" held kind = some kind := complete.required (by simp) rfl _
        have endpoints : (given "endpoints" held endpoints).getD [] = endpoints :=
          complete.items Endpoint.toJson rfl (fun _ => by simp)
        have middleware : (given "middleware" held middleware).getD [] = middleware :=
          complete.items HandlerRef.toJson rfl (fun _ => by simp)
        have children : (given "children" held children).getD [] = children :=
          complete.items PathNode.toJson rfl (fun _ => by simp)
        simp [ofDraft, met, name, kind, endpoints, middleware, children, Json.require, bind, pure,
          Except.bind, Except.pure]

theorem loads (node : PathNode) : Loads decode room (.record .node) node.toJson node :=
  loads_levels (room + 1) room node (Nat.lt_succ_self room)

/-- Loading does not depend on how a tree is presented.  Members may stand in any order, with any
blanks between the tokens; those that have their default may be left out, and members of any other
name with any value may be added, as long as the text nests at most 127 arrays and objects. -/
theorem load_presented (node : PathNode) (source : Json.Source) (text : String)
    (presents : Dump.Presents (.record .node) node.toJson source) (shallow : source.depth ≤ 127)
    (written : source.IsWritten text) : load text = .ok node := by
  have taken : decode Json.nestingLimit source.reading = .ok node :=
    node.loads source written.wellFormed presents shallow
  rw [load, Json.decodeText, written.read]
  simp [taken]

/-! A static segment, presented with its members in another order, without the lists that are
empty, and with a foreign member whose value is a numeral that no number type holds. -/

namespace Owned

def node : PathNode where
  name := "api"
  kind := .static
  endpoints := []
  middleware := []
  children := []

def kind : Dump.Entry :=
  ⟨"kind", "kind".toList, .token "\"static\"".toList⟩

def owner : Dump.Entry :=
  ⟨"owner", "owner".toList, .array [.token "1e999".toList]⟩

def name : Dump.Entry :=
  ⟨"name", "name".toList, .token "\"api\"".toList⟩

def source : Json.Source :=
  .object ([kind, owner, name].map Dump.Entry.written)

def text : String :=
  "\x7b\"kind\": \"static\", \"owner\": [1e999], \"name\": \"api\"\x7d\n"

theorem spelled : ∀ entry ∈ [kind, owner, name], Json.Spells entry.body entry.name.toList := by
  simp only [List.forall_mem_cons]
  exact ⟨Json.spells_plain (by simp [kind]), Json.spells_plain (by simp [owner]),
    Json.spells_plain (by simp [name]), by simp⟩

theorem isNumeral : Json.IsNumeral "1e999".toList := by
  have whole : Json.IsWhole ['1'] := ⟨by simp, by simp [Json.isDigit], by simp⟩
  have power : Json.IsPower ('e' :: ([] ++ ['9', '9', '9'])) :=
    .digits (by simp) (by simp) (by simp) (by simp [Json.isDigit])
  have numeral := Json.IsNumeral.mk (by decide : [] ∈ [[], ['-']]) whole .absent power
  simpa using numeral

theorem wellFormed : source.WellFormed := by
  refine .object ?_ ?_
  · intro member inside
    obtain ⟨entry, listed, rfl⟩ := List.mem_map.mp inside
    exact (spelled entry listed).isBody
  · have static : Json.IsToken ('"' :: ("static".toList ++ ['"'])) :=
      .string (Json.spells_plain (by simp)).isBody
    have api : Json.IsToken ('"' :: ("api".toList ++ ['"'])) :=
      .string (Json.spells_plain (by simp)).isBody
    have numerals : Json.Source.WellFormed (.array [.token "1e999".toList]) :=
      .array (List.forall_mem_singleton.mpr (.token (.numeral isNumeral)))
    exact List.forall_mem_cons.mpr ⟨.token static, List.forall_mem_cons.mpr
      ⟨numerals, List.forall_mem_singleton.mpr (.token api)⟩⟩

theorem isWritten : source.IsWritten text := by
  have none := Json.isBlank_nil
  have space := Json.isBlank_space
  have spaced : Json.Spaced source.tokens _ :=
    .cons none <| .cons none <| .cons none <| .cons space <| .cons none <| .cons space <|
    .cons none <| .cons space <| .cons none <| .cons none <| .cons none <| .cons space <|
    .cons none <| .cons space <| .cons none .nil
  exact ⟨wellFormed, _, ['\n'], spaced, Json.isBlank_newLine 0, by decide⟩

def kept : List (Json × Dump.Entry) :=
  [(.string "api", name), (.string "static", kind)]

theorem presents : Dump.Presents (.record .node) node.toJson source := by
  have api : Json.Spells "api".toList "api".toList := Json.spells_plain (by simp)
  have static : Json.Spells "static".toList "static".toList := Json.spells_plain (by simp)
  have omitted : (kept.map fun one => (one.2.name, one.1)).Sublist
      [("name", .string "api"), ("kind", .string "static"), ("endpoints", .array []),
        ("middleware", .array []), ("children", .array [])] :=
    .cons_cons _ (.cons_cons _ (.cons _ (.cons _ (.cons _ .slnil))))
  have reordered : [kind, owner, name].Perm (kept.map Prod.snd ++ [owner]) :=
    (List.perm_append_comm : ([kind, owner] ++ [name]).Perm ([name] ++ [kind, owner]))
  refine .record omitted ?_ ?_ ?_ reordered spelled
  · intro member inside absent
    simp only [List.mem_cons, List.not_mem_nil, or_false] at inside
    rcases inside with rfl | rfl | rfl | rfl | rfl
    · exact absurd (.head _) absent
    · exact absurd (.tail _ (.head _)) absent
    · rfl
    · rfl
    · rfl
  · intro one inside
    simp only [kept, List.mem_cons, List.not_mem_nil, or_false] at inside
    rcases inside with rfl | rfl
    · exact .text api
    · exact .text static
  · intro entry inside
    rw [List.mem_singleton.mp inside]
    decide

end Owned

theorem load_presented_owned :
    Dump.Presents (.record .node) Owned.node.toJson Owned.source ∧
      Owned.source.depth ≤ 127 ∧ Owned.source.IsWritten Owned.text ∧
      load Owned.text = .ok Owned.node :=
  ⟨Owned.presents, by decide, Owned.isWritten,
    load_presented Owned.node Owned.source Owned.text Owned.presents (by decide)
      Owned.isWritten⟩

end PathNode

end RouteAtlas

/-
Module: RouteAtlas.Proofs.TruncatedDumps
Purpose: No proper start of a dump is loaded: it is refused as a text that ends too early,
  wherever it was cut, although most members of the model may be left out.
Main exports: Json.Streams, PathNode.streams, PathNode.load_truncated
-/
import RouteAtlas.Proofs.DumpReload
import RouteAtlas.Proofs.TruncatedReading

namespace RouteAtlas

namespace Json

/-!
## Decoders that notice a cut

A decoder walks a reading from left to right.  Up to the cut it meets what it met when it took
the whole, so it goes as far as the cut; there it stops, since it knows of no default for what
breaks off.
-/

/-- A decoder that refuses every cut of a form that it takes whole, as a text that ends too
early. -/
structure Streams {α : Type} (decode : Decoder α) : Prop where
  refuses : ∀ {room : Nat} {form : Json} {value : α} {part : Reading},
    decode room (Reading.ofJson form) = .ok value → Cut form part →
      decode room part = .error (.broken .early)

/-- A slot that refuses every cut of a form that it takes whole. -/
structure Slot.Streams {σ : Type} (slot : Slot σ) : Prop where
  refuses : ∀ {room : Nat} {form : Json} {draft filled : σ} {part : Reading},
    slot.fill room (Reading.ofJson form) draft = .ok filled → Cut form part →
      slot.fill room part draft = .error (.broken .early)

section Readers

variable {α : Type}

theorem streams_string : Streams Decoder.string := by
  refine ⟨?_⟩
  intro room form value part accepted cut
  cases cut with
  | missing _ => rfl
  | flag _ | array _ | object _ => cases accepted

theorem streams_bool : Streams Decoder.bool := by
  refine ⟨?_⟩
  intro room form value part accepted cut
  cases cut with
  | missing _ | flag _ => rfl
  | array _ | object _ => cases accepted

/-- What breaks off is no `null`, so an option reads it as a value that is there. -/
theorem Streams.option {decode : Decoder α} (streams : Streams decode) :
    Streams (Decoder.option decode) := by
  have there : ∀ {room reading}, reading ≠ .null → Decoder.option decode room reading =
      (decode room reading).map some := by
    intro room reading present
    unfold Decoder.option
    split
    · exact absurd rfl present
    · cases decode room _ <;> rfl
  refine ⟨?_⟩
  intro room form value part accepted cut
  rw [there cut.ofJson_ne_null] at accepted
  rw [there cut.ne_null]
  cases read : decode room (Reading.ofJson form) with
  | error fault => simp [read, Except.map] at accepted
  | ok value =>
      rw [streams.refuses read cut]
      rfl

theorem toList_cut {decode : Reading → Except Fault α}
    (streams : ∀ {form : Json} {value : α} {part : Reading},
      decode (Reading.ofJson form) = .ok value → Cut form part →
        decode part = .error (.broken .early))
    {forms : List Json} {values : List α} {items : Items}
    (accepted : (Items.ofList forms).toList decode = .ok values) (cut : CutItems forms items) :
    items.toList decode = .error (.broken .early) := by
  induction forms generalizing values items with
  | nil =>
      cases cut with
      | ended _ => rfl
  | cons form forms ih =>
      rw [Items.ofList, Items.toList] at accepted
      cases cut with
      | ended _ => rfl
      | inside cut =>
          cases first : decode (Reading.ofJson form) with
          | error fault => simp [first] at accepted
          | ok value => rw [Items.toList, streams first cut]
      | later cut =>
          cases first : decode (Reading.ofJson form) with
          | error fault => simp [first] at accepted
          | ok value =>
              cases others : (Items.ofList forms).toList decode with
              | error fault => simp [first, others] at accepted
              | ok values => rw [Items.toList, first, ih others cut]

theorem Streams.list {decode : Decoder α} (streams : Streams decode) :
    Streams (Decoder.list decode) := by
  refine ⟨?_⟩
  intro room form values part accepted cut
  cases cut with
  | missing _ => cases room <;> rfl
  | flag _ | object _ => cases room <;> cases accepted
  | array cut =>
      cases room with
      | zero => cases accepted
      | succ room => exact toList_cut streams.refuses accepted cut

/-- What the variants of a choice carry is streamed. -/
def Payload.Streams : Payload α → Prop
  | .none _ => True
  | .one decode => Json.Streams decode

theorem unitPayload_cut {value result : α} {form : Json} {part : Reading}
    (accepted : Decoder.unitPayload value (Reading.ofJson form) = .ok result)
    (cut : Cut form part) : False := by
  cases form with
  | null => exact cut.ofJson_ne_null rfl
  | _ => cases accepted

theorem onlyMember_cut {value result : α} {forms : List (String × Json)} {members : Members}
    (accepted : Decoder.onlyMember value (Members.ofList forms) = .ok result)
    (cut : CutMembers forms members) :
    Decoder.onlyMember value members = .error (.broken .early) := by
  cases forms with
  | nil =>
      cases cut with
      | ended _ => rfl
  | cons _ _ => cases accepted

theorem Streams.variant {options : List (String × Payload α)}
    (each : ∀ option ∈ options, option.2.Streams) : Streams (Decoder.variant options) := by
  refine ⟨?_⟩
  intro room form value part accepted cut
  cases cut with
  | missing _ => cases room <;> rfl
  | flag _ | array _ => cases room <;> cases accepted
  | @object forms members cut =>
      cases room with
      | zero => cases accepted
      | succ room =>
          cases cut with
          | ended _ => rfl
          | key _ _ _ _ => rfl
          | @inside name form rest part cut =>
              simp only [Reading.ofJson, Members.ofList, Decoder.variant] at accepted ⊢
              cases known : options.lookup name with
              | none => simp [known] at accepted
              | some payload =>
                  rw [known] at accepted
                  cases payload with
                  | none result =>
                      dsimp only at accepted
                      split at accepted
                      · cases accepted
                      · next taken => exact (unitPayload_cut taken cut).elim
                  | one decode =>
                      obtain ⟨before, after, rfl, _⟩ := List.lookup_eq_some_iff.mp known
                      have streams : Streams decode := each (name, .one decode) (by simp)
                      dsimp only at accepted ⊢
                      split at accepted
                      · cases accepted
                      · next taken => rw [streams.refuses taken cut]
          | @later name form rest members cut =>
              simp only [Reading.ofJson, Members.ofList, Decoder.variant] at accepted ⊢
              cases known : options.lookup name with
              | none => simp [known] at accepted
              | some payload =>
                  rw [known] at accepted
                  dsimp only at accepted ⊢
                  split at accepted
                  · cases accepted
                  · exact onlyMember_cut accepted cut

theorem streams_name {options : List (String × α)} : Streams (Decoder.name options) := by
  apply Streams.variant
  intro option inside
  obtain ⟨entry, _, rfl⟩ := List.mem_map.mp inside
  trivial

end Readers

/-! ### Structures -/

section Structures

variable {σ α : Type} {slots : List (Slot σ)} {room : Nat}

theorem Slot.Streams.of {name : String} {optional : Bool} {decode : Decoder α} {get : σ → Option α}
    {set : α → σ → σ} (streams : Json.Streams decode) :
    (Slot.of name optional decode get set).Streams := by
  refine ⟨?_⟩
  intro room form draft filled part accepted cut
  simp only [Slot.of] at accepted ⊢
  cases read : decode room (Reading.ofJson form) with
  | error fault => simp [read] at accepted
  | ok value => rw [streams.refuses read cut]

/-- Slots that all refuse what is cut short. -/
def SlotsStream (slots : List (Slot σ)) : Prop :=
  ∀ slot ∈ slots, slot.Streams

theorem SlotsStream.nil : SlotsStream ([] : List (Slot σ)) := by
  simp [SlotsStream]

theorem SlotsStream.cons {slot : Slot σ} (first : slot.Streams) (others : SlotsStream slots) :
    SlotsStream (slot :: slots) :=
  List.forall_mem_cons.mpr ⟨first, others⟩

theorem Members.fill_cut (each : SlotsStream slots)
    {forms : List (String × Json)} {members : Members} {draft filled : σ}
    (accepted : (Members.ofList forms).fill slots room draft = .ok filled)
    (cut : CutMembers forms members) :
    members.fill slots room draft = .error (.broken .early) := by
  induction forms generalizing members draft with
  | nil =>
      cases cut with
      | ended _ => rfl
  | cons member forms ih =>
      obtain ⟨name, form⟩ := member
      rw [Members.ofList, Members.fill] at accepted
      cases cut with
      | ended _ => rfl
      | key _ _ _ _ => rfl
      | inside cut =>
          rw [Members.fill]
          cases found : slots.find? (·.name == name) with
          | none => simp [Reading.ignore, cut.skip]
          | some slot =>
              rw [found] at accepted
              dsimp only at accepted ⊢
              split at accepted
              · cases accepted
              next free =>
              rw [if_neg free]
              cases read : slot.fill room (Reading.ofJson form) draft with
              | error fault => simp [read] at accepted
              | ok next => rw [(each slot (List.mem_of_find?_eq_some found)).refuses read cut]
      | later cut =>
          rw [Members.fill]
          cases found : slots.find? (·.name == name) with
          | none =>
              simp only [found, Reading.ignore, Reading.skip_ofJson] at accepted ⊢
              exact ih accepted cut
          | some slot =>
              rw [found] at accepted
              dsimp only at accepted ⊢
              split at accepted
              · cases accepted
              next free =>
              rw [if_neg free]
              cases read : slot.fill room (Reading.ofJson form) draft with
              | error fault => simp [read] at accepted
              | ok next =>
                  rw [read] at accepted
                  exact ih accepted cut

theorem Items.fill_cut {expected : String} (each : SlotsStream slots)
    {forms : List Json} {items : Items} {index : Nat} {draft filled : σ}
    (accepted : (Items.ofList forms).fill expected room slots index draft = .ok filled)
    (cut : CutItems forms items) :
    items.fill expected room slots index draft = .error (.broken .early) := by
  induction slots generalizing forms items index draft with
  | nil =>
      cases cut with
      | ended _ => rfl
      | inside _ | later _ => cases accepted
  | cons slot slots ih =>
      obtain ⟨first, others⟩ := List.forall_mem_cons.mp each
      cases cut with
      | ended _ => rfl
      | @inside form forms part cut =>
          rw [Items.ofList, Items.fill] at accepted
          cases read : slot.fill room (Reading.ofJson form) draft with
          | error fault => simp [read] at accepted
          | ok next => rw [Items.fill, first.refuses read cut]
      | @later form forms items cut =>
          rw [Items.ofList, Items.fill] at accepted
          cases read : slot.fill room (Reading.ofJson form) draft with
          | error fault => simp [read] at accepted
          | ok next =>
              rw [read] at accepted
              rw [Items.fill, read]
              exact ih others accepted cut

theorem Streams.record {label : String} {empty : σ} {finish : σ → Except Fault α}
    (each : SlotsStream slots) :
    Streams (Decoder.record label slots empty finish) := by
  refine ⟨?_⟩
  intro room form value part accepted cut
  cases cut with
  | missing _ => cases room <;> rfl
  | flag _ => cases room <;> cases accepted
  | @array forms items cut =>
      cases room with
      | zero => cases accepted
      | succ room =>
          simp only [Reading.ofJson, Decoder.record] at accepted ⊢
          split at accepted
          · cases accepted
          · next draft filled => rw [Items.fill_cut each filled cut]
  | @object forms members cut =>
      cases room with
      | zero => cases accepted
      | succ room =>
          simp only [Reading.ofJson, Decoder.record] at accepted ⊢
          split at accepted
          · cases accepted
          · next draft filled => rw [Members.fill_cut each filled cut]

end Structures

end Json

open Json (Decoder Streams streams_string streams_bool streams_name)

/-! ## The structures of a dump -/

theorem Method.streams : Streams Method.decode :=
  streams_name

theorem PathKind.streams : Streams PathKind.decode :=
  streams_name

theorem IntType.streams : Streams IntType.decode :=
  streams_name

theorem Role.streams : Streams Role.decode :=
  streams_name

theorem FieldKind.streams : Streams FieldKind.decode := by
  apply Streams.variant
  have integer : Streams fun room reading => (IntType.decode room reading).map FieldKind.integer := by
    refine ⟨?_⟩
    intro room form value part accepted cut
    cases read : IntType.decode room (Json.Reading.ofJson form) with
    | error fault => simp [read, Except.map] at accepted
    | ok type => simp [IntType.streams.refuses read cut, Except.map]
  simpa [Json.Payload.Streams] using integer

theorem PathSegment.streams : Streams PathSegment.decode :=
  .record <| .cons (.of streams_string) <| .cons (.of PathKind.streams) .nil

theorem Receiver.streams : Streams Receiver.decode :=
  .record <| .cons (.of streams_string) <| .cons (.of streams_bool) .nil

theorem HandlerRef.streams : Streams HandlerRef.decode :=
  .record <| .cons (.of streams_string) <| .cons (.of streams_string) <|
    .cons (.of Receiver.streams.option) .nil

theorem Serialization.streams : Streams Serialization.decode :=
  .record <| .cons (.of Role.streams) <| .cons (.of streams_string) .nil

theorem Field.streams_levels (levels : Nat) : Streams (Field.decodeLevels levels) := by
  induction levels with
  | zero =>
      refine ⟨?_⟩
      intro room form value part accepted cut
      cases accepted
  | succ levels ih =>
      exact .record <| .cons (.of streams_string) <| .cons (.of FieldKind.streams) <|
        .cons (.of Serialization.streams.option) <| .cons (.of streams_string.list) <|
        .cons (.of ih.list) .nil

theorem Field.streams : Streams Field.decode :=
  ⟨fun accepted cut => (Field.streams_levels _).refuses accepted cut⟩

theorem Data.streams : Streams Data.decode :=
  .record <| .cons (.of streams_string) <| .cons (.of streams_string) <|
    .cons (.of Field.streams.list) .nil

theorem Endpoint.streams : Streams Endpoint.decode :=
  .record <| .cons (.of Method.streams) <| .cons (.of PathSegment.streams.list) <|
    .cons (.of streams_string) <| .cons (.of streams_string.list) <| .cons (.of Data.streams) <|
    .cons (.of Data.streams) <| .cons (.of HandlerRef.streams) <|
    .cons (.of HandlerRef.streams.list) .nil

theorem PathNode.streams_levels (levels : Nat) : Streams (PathNode.decodeLevels levels) := by
  induction levels with
  | zero =>
      refine ⟨?_⟩
      intro room form value part accepted cut
      cases accepted
  | succ levels ih =>
      exact .record <| .cons (.of streams_string) <| .cons (.of PathKind.streams) <|
        .cons (.of Endpoint.streams.list) <| .cons (.of HandlerRef.streams.list) <|
        .cons (.of ih.list) .nil

theorem PathNode.streams : Streams PathNode.decode :=
  ⟨fun accepted cut => (PathNode.streams_levels _).refuses accepted cut⟩

/-! ## Starts of dumps -/

theorem Json.readValue_pretty {form : Json} (verbal : form.IsVerbal) {start lost : List Char}
    (whole : start ++ lost = Json.prettyText 0 form) (missed : lost ≠ []) (fuel : Nat) :
    ∃ part, form.Cut part ∧ Json.readValue fuel start = (part, []) := by
  have read := (Json.readsAs_prettyText 0 form verbal.portable).reads
    (2 * (Json.prettyText 0 form).length) [] (Nat.le_refl _) trivial
  rw [List.append_nil, ← whole] at read
  rcases Json.readValue_start verbal read fuel with ⟨left, none, _⟩ | cut
  · exact absurd (List.append_eq_nil_iff.mp none.symm).2 missed
  · exact cut

/-- No proper start of a dump is loaded.  Cut anywhere, inside a name, between two members or
after all of them, it is refused as a text that ends too early. -/
theorem PathNode.load_truncated (node : PathNode) (fits : node.toJson.depth ≤ 127)
    (start lost : String) (cut : node.dump = start ++ lost) (missed : lost ≠ "") :
    PathNode.load start = .error (.broken .early) := by
  have taken : PathNode.decode Json.nestingLimit (Json.Reading.ofJson node.toJson) = .ok node := by
    have restores : Json.Restores PathNode.decode Json.nestingLimit node.toJson node :=
      node.restores
    exact restores.trans (if_pos fits)
  have whole : start.toList ++ lost.toList = Json.prettyText 0 node.toJson := by
    rw [← String.toList_append, ← cut, PathNode.dump, Json.pretty, String.toList_ofList]
  have more : lost.toList ≠ [] := by
    simpa using missed
  obtain ⟨part, cutShort, read⟩ :=
    Json.readValue_pretty node.verbal whole more (2 * start.toList.length + 2)
  rw [PathNode.load, Json.decodeText, Json.read, read]
  dsimp only
  rw [PathNode.streams.refuses taken cutShort]

/-- A root whose only middleware is bound to a pointer. -/
def PathNode.guarded : PathNode where
  name := ""
  kind := .root
  endpoints := []
  middleware := [⟨"Auth", "app/auth", some ⟨"Guard", true⟩⟩]
  children := []

/-- Cut in the middle of a flag, inside four containers. -/
theorem PathNode.load_truncated_guarded :
    PathNode.guarded.toJson.depth ≤ 127 ∧
      PathNode.load ("\x7b\n  \"name\": \"\",\n  \"kind\": \"root\",\n  \"endpoints\": [],\n" ++
        "  \"middleware\": [\n    \x7b\n      \"name\": \"Auth\",\n      \"import\": \"app/auth\",\n" ++
        "      \"receiver\": \x7b\n        \"name\": \"Guard\",\n        \"pointer\": tr") =
        .error (.broken .early) :=
  ⟨by decide, PathNode.load_truncated .guarded (by decide) _
    "ue\n      \x7d\n    \x7d\n  ],\n  \"children\": []\n\x7d" (by decide +kernel) (by decide)⟩

end RouteAtlas

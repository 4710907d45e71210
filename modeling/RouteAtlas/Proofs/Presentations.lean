/-
Module: RouteAtlas.Proofs.Presentations
Purpose: The ways to present a dump: members in any order, members at their default left out,
  foreign members added; and that a structure is loaded from each of them.
Main exports: Dump.Record, Dump.Shape, Dump.Presents, Dump.Loads, Dump.Loads.list,
  Dump.Loads.record
-/
import RouteAtlas.Proofs.DumpReload
import RouteAtlas.Proofs.JsonSources

namespace RouteAtlas.Dump

open Json (Decoder Fault Items Members Reading Restores Slot Source Spells)

/-! ## Declared members -/

/-- The structures of a dump. -/
inductive Record where
  | node
  | endpoint
  | data
  | field
  | segment
  | reference
  | receiver
  | serialization
deriving Repr, DecidableEq

/-- What a value of a dump is: a text, a flag or a choice, a list of values of one shape, or a
structure. -/
inductive Shape where
  | leaf
  | list (item : Shape)
  | record (record : Record)

namespace Record

/-- The members of a structure in their order, each with the value that it has when it is left
out, if it may be left out. -/
def members : Record → List (String × Shape × Option Json)
  | .node =>
      [("name", .leaf, some (.string "")), ("kind", .leaf, none),
        ("endpoints", .list (.record .endpoint), some (.array [])),
        ("middleware", .list (.record .reference), some (.array [])),
        ("children", .list (.record .node), some (.array []))]
  | .endpoint =>
      [("method", .leaf, none), ("path", .list (.record .segment), none),
        ("description", .leaf, some (.string "")), ("authorization", .list .leaf, some (.array [])),
        ("body", .record .data, none), ("response", .record .data, none),
        ("handler", .record .reference, none),
        ("middleware", .list (.record .reference), some (.array []))]
  | .data =>
      [("name", .leaf, none), ("import", .leaf, some (.string "")),
        ("fields", .list (.record .field), some (.array []))]
  | .field =>
      [("name", .leaf, some (.string "")), ("kind", .leaf, none),
        ("serialization", .record .serialization, some .null),
        ("validation", .list .leaf, some (.array [])),
        ("subfields", .list (.record .field), some (.array []))]
  | .segment => [("name", .leaf, none), ("kind", .leaf, none)]
  | .reference =>
      [("name", .leaf, none), ("import", .leaf, none), ("receiver", .record .receiver, some .null)]
  | .receiver => [("name", .leaf, none), ("pointer", .leaf, some (.bool false))]
  | .serialization => [("role", .leaf, none), ("name", .leaf, none)]

/-- The names of the members of a structure. -/
def names (record : Record) : List String :=
  record.members.map (·.1)

/-- The shape of a member. -/
def shape (record : Record) (name : String) : Shape :=
  ((record.members.lookup name).map (·.1)).getD .leaf

/-- The value that a member has when it is left out. -/
def default? (record : Record) (name : String) : Option Json :=
  (record.members.lookup name).bind (·.2)

theorem nodup_names (record : Record) : record.names.Nodup := by
  cases record <;> decide

end Record

/-! ## Presentations -/

/-- A member as it is written: its name, the spelling of the name, and the text of its value. -/
structure Entry where
  name : String
  body : List Char
  source : Source

namespace Entry

/-- The member of a source. -/
def written (entry : Entry) : List Char × Source :=
  (entry.body, entry.source)

end Entry

mutual

/-- A text presents a value of a dump.  The members of a structure stand in any order; those
that have their default may be left out, and any others may be added under names that the
structure does not declare. -/
inductive Presents : Shape → Json → Source → Prop where
  | text {text : String} {body : List Char} (spells : Spells body text.toList) :
      Presents .leaf (.string text) (.token ('"' :: (body ++ ['"'])))
  | flag (value : Bool) : Presents .leaf (.bool value) (.token (Json.scalarText (.bool value)))
  | choice {name text : String} {letters body : List Char} (named : Spells letters name.toList)
      (spells : Spells body text.toList) :
      Presents .leaf (.object [(name, .string text)])
        (.object [(letters, .token ('"' :: (body ++ ['"'])))])
  | list {item : Shape} {forms : List Json} {sources : List Source}
      (all : PresentsAll item forms sources) : Presents (.list item) (.array forms) (.array sources)
  | record {record : Record} {members : List (String × Json)} {kept : List (Json × Entry)}
      {foreign entries : List Entry}
      (omitted : (kept.map fun (form, entry) => (entry.name, form)).Sublist members)
      (defaults : ∀ member ∈ members, member ∉ kept.map (fun (form, entry) => (entry.name, form)) →
        record.default? member.1 = some member.2)
      (presented : ∀ one ∈ kept, Presents (record.shape one.2.name) one.1 one.2.source)
      (undeclared : ∀ entry ∈ foreign, entry.name ∉ record.names)
      (reordered : entries.Perm (kept.map Prod.snd ++ foreign))
      (spelled : ∀ entry ∈ entries, Spells entry.body entry.name.toList) :
      Presents (.record record) (.object members) (.object (entries.map Entry.written))

/-- Texts present the items of a list one by one. -/
inductive PresentsAll : Shape → List Json → List Source → Prop where
  | nil (item : Shape) : PresentsAll item [] []
  | cons {item : Shape} {form : Json} {forms : List Json} {source : Source}
      {sources : List Source} (first : Presents item form source)
      (others : PresentsAll item forms sources) :
      PresentsAll item (form :: forms) (source :: sources)

end

/-- A decoder that takes every well-formed text which presents a form, and nests no more
containers than there is room for, for a value. -/
def Loads {α : Type} (decode : Decoder α) (room : Nat) (shape : Shape) (form : Json)
    (value : α) : Prop :=
  ∀ source : Source, source.WellFormed → Presents shape form source → source.depth ≤ room →
    decode room source.reading = .ok value

/-! ### Texts, flags and choices -/

section Values

variable {α : Type} {room : Nat}

theorem reading_quoted {body : List Char} {text : String} (spells : Spells body text.toList) :
    (Source.token ('"' :: (body ++ ['"']))).reading = .string text := by
  rw [Source.reading, spells.readValue_eq, String.ofList_toList]

/-- A text, a flag or a choice is read the same however it is spelled. -/
theorem Presents.reading_leaf {form : Json} {source : Source} (presents : Presents .leaf form source) :
    source.reading = Reading.ofJson form ∧ source.depth = form.depth := by
  cases presents with
  | text spells => exact ⟨reading_quoted spells, rfl⟩
  | flag value => cases value <;> exact ⟨rfl, rfl⟩
  | choice named spells =>
      refine ⟨?_, rfl⟩
      rw [Source.reading, Source.membersReading, reading_quoted spells, named.readKey_eq]
      rfl

theorem Loads.leaf {decode : Decoder α} {form : Json} {value : α}
    (restores : Restores decode room form value) : Loads decode room .leaf form value := by
  intro source _ presents fits
  obtain ⟨read, deep⟩ := presents.reading_leaf
  rw [read]
  rw [deep] at fits
  exact restores.trans (if_pos fits)

/-- A structure that is there is never `null`. -/
theorem Loads.some {decode : Decoder α} {record : Record} {form : Json} {value : α}
    (loads : Loads decode room (.record record) form value) :
    Loads (Decoder.option decode) room (.record record) form (some value) := by
  intro source wellFormed presents fits
  have taken := loads source wellFormed presents fits
  cases presents with
  | record =>
      rw [Source.reading] at taken ⊢
      rw [Decoder.option, taken]
      simp

/-! ### Lists -/

theorem toList_presented {decode : Reading → Except Fault α} {item : Shape} {limit : Nat}
    {form : α → Json} {values : List α} {sources : List Source}
    (loads : ∀ value ∈ values, ∀ source : Source, source.WellFormed →
      Presents item (form value) source → source.depth ≤ limit →
        decode source.reading = .ok value)
    (wellFormed : ∀ source ∈ sources, source.WellFormed)
    (all : PresentsAll item (values.map form) sources)
    (fits : Source.itemsDepth sources ≤ limit) :
    (Source.itemsReading sources).toList decode = .ok values := by
  induction values generalizing sources with
  | nil =>
      cases all
      rfl
  | cons value values ih =>
      rw [List.map_cons] at all
      obtain _ | ⟨first, others⟩ := all
      obtain ⟨firstWell, othersWell⟩ := List.forall_mem_cons.mp wellFormed
      obtain ⟨loadsFirst, loadsOthers⟩ := List.forall_mem_cons.mp loads
      rw [Source.itemsDepth, Nat.max_le] at fits
      rw [Source.itemsReading, Items.toList, loadsFirst _ firstWell first fits.1]
      simp [ih loadsOthers othersWell others fits.2]

theorem Loads.list {decode : Decoder α} {item : Shape} {form : α → Json} {values : List α}
    (loads : ∀ inner, room = inner + 1 → ∀ value ∈ values,
      Loads decode inner item (form value) value) :
    Loads (Decoder.list decode) room (.list item) (.array (values.map form)) values := by
  intro source wellFormed presents fits
  obtain _ | _ | _ | all | _ := presents
  obtain _ | wellFormed | _ := wellFormed
  rw [Source.depth] at fits
  obtain ⟨inner, rfl⟩ := Nat.exists_eq_succ_of_ne_zero (by omega : room ≠ 0)
  exact toList_presented (loads inner rfl) wellFormed all (Nat.le_of_succ_le_succ fits)

end Values

/-! ### Structures -/

section Structures

variable {σ α : Type} {slots : List (Slot σ)} {room : Nat} {owner : Record}
  {hold : List String → σ}

/-- What a draft has for a member when the members of some names have been met. -/
def given {β : Type} (name : String) (held : List String) (value : β) : Option β :=
  if name ∈ held then some value else none

/-- A slot takes a reading into any draft that has nothing for it yet. -/
def Takes (slots : List (Slot σ)) (room : Nat) (hold : List String → σ) (name : String)
    (reading : Reading) : Prop :=
  ∃ slot, slots.find? (·.name == name) = some slot ∧ ∀ held, name ∉ held →
    slot.isFilled (hold held) = false ∧
      slot.fill room reading (hold held) = .ok (hold (name :: held))

/-- The names among those of some entries that are declared. -/
def declared (names : List String) (entries : List Entry) : List String :=
  (entries.map Entry.name).filter (· ∈ names)

/-- The declared names among reordered entries are those of the members that were kept. -/
theorem declared_perm {names : List String} {kept : List (Json × Entry)}
    {foreign entries : List Entry} (own : ∀ one ∈ kept, one.2.name ∈ names)
    (undeclared : ∀ entry ∈ foreign, entry.name ∉ names)
    (reordered : entries.Perm (kept.map Prod.snd ++ foreign)) :
    (declared names entries).Perm (kept.map fun one => one.2.name) := by
  have keeps : (kept.map fun one => one.2.name).filter (· ∈ names) =
      kept.map fun one => one.2.name := by
    rw [List.filter_eq_self]
    simpa using fun name form entry inside same => same ▸ own (form, entry) inside
  have drops : (foreign.map Entry.name).filter (· ∈ names) = [] := by
    rw [List.filter_eq_nil_iff]
    simpa using undeclared
  have perm := (reordered.map Entry.name).filter (· ∈ names)
  rwa [List.map_append, List.filter_append, List.map_map, Function.comp_def, keeps, drops,
    List.append_nil] at perm

/-- Entries fill the slots that they are for, in whatever order they stand; the others are
passed over. -/
theorem fill_entries {names : List String} (declares : slots.map (·.name) = names)
    {entries : List Entry} {held : List String}
    (spelled : ∀ entry ∈ entries, Spells entry.body entry.name.toList)
    (complete : ∀ entry ∈ entries, entry.source.reading.skip = .ok ())
    (taken : ∀ entry ∈ entries, entry.name ∈ names →
      Takes slots room hold entry.name entry.source.reading)
    (distinct : (declared names entries).Nodup)
    (fresh : ∀ name ∈ declared names entries, name ∉ held) :
    (Source.membersReading (entries.map Entry.written)).fill slots room (hold held) =
      .ok (hold ((declared names entries).reverse ++ held)) := by
  induction entries generalizing held with
  | nil => rfl
  | cons entry entries ih =>
      obtain ⟨spelledFirst, spelledOthers⟩ := List.forall_mem_cons.mp spelled
      obtain ⟨completeFirst, completeOthers⟩ := List.forall_mem_cons.mp complete
      obtain ⟨takenFirst, takenOthers⟩ := List.forall_mem_cons.mp taken
      rw [List.map_cons, Entry.written, Source.membersReading, spelledFirst.readKey_eq,
        Members.fill]
      by_cases own : entry.name ∈ names
      · have next : declared names (entry :: entries) = entry.name :: declared names entries := by
          simp [declared, own]
        rw [next] at distinct fresh ⊢
        obtain ⟨apart, distinctOthers⟩ := List.nodup_cons.mp distinct
        obtain ⟨freshFirst, freshOthers⟩ := List.forall_mem_cons.mp fresh
        obtain ⟨slot, found, takes⟩ := takenFirst own
        obtain ⟨free, filled⟩ := takes held freshFirst
        have freshAfter : ∀ name ∈ declared names entries, name ∉ entry.name :: held := by
          intro name inside met
          rcases List.mem_cons.mp met with rfl | met
          · exact apart inside
          · exact freshOthers name inside met
        rw [found]
        simp only [free, filled]
        rw [List.reverse_cons, List.append_assoc]
        exact ih spelledOthers completeOthers takenOthers distinctOthers freshAfter
      · have next : declared names (entry :: entries) = declared names entries := by
          simp [declared, own]
        have undeclared : slots.find? (·.name == entry.name) = none := by
          rw [List.find?_eq_none]
          intro slot inside same
          exact own (declares ▸ List.mem_map.mpr ⟨slot, inside, by simpa using same⟩)
        rw [next] at distinct fresh ⊢
        rw [undeclared]
        simp only [Reading.ignore, completeFirst]
        exact ih spelledOthers completeOthers takenOthers distinct fresh

/-- A member of a dump fills its slot from every text that presents it. -/
def Served (slots : List (Slot σ)) (room : Nat) (owner : Record) (hold : List String → σ)
    (member : String × Json) : Prop :=
  ∀ source : Source, source.WellFormed → Presents (owner.shape member.1) member.2 source →
    source.depth ≤ room → Takes slots room hold member.1 source.reading

theorem Served.of {name : String} {optional : Bool} {decode : Decoder α} {get : σ → Option α}
    {set : α → σ → σ} {form : Json} {value : α}
    (found : slots.find? (·.name == name) = some (.of name optional decode get set))
    (got : ∀ held, get (hold held) = given name held value)
    (put : ∀ held, set value (hold held) = hold (name :: held))
    (loads : Loads decode room (owner.shape name) form value) :
    Served slots room owner hold (name, form) := by
  intro source wellFormed presents fits
  refine ⟨_, found, ?_⟩
  intro held free
  constructor
  · simp [Slot.of, got, given, free]
  · simp [Slot.of, loads source wellFormed presents fits, put]

/-- Whatever has not been met has its default. -/
def Complete (owner : Record) (members : List (String × Json)) (held : List String) : Prop :=
  ∀ name form, (name, form) ∈ members → name ∉ held → owner.default? name = some form

theorem depth_le_membersDepth {members : List (List Char × Source)} :
    ∀ member ∈ members, member.2.depth ≤ Source.membersDepth members := by
  induction members with
  | nil => simp
  | cons member members ih =>
      obtain ⟨name, source⟩ := member
      rw [List.forall_mem_cons, Source.membersDepth]
      exact ⟨Nat.le_max_left _ _, fun other inside =>
        Nat.le_trans (ih other inside) (Nat.le_max_right _ _)⟩

/-- A structure is loaded from every text that presents it: its draft holds the members that
were met, and what was left out is what the structure has by default. -/
theorem Loads.record {label : String} {finish : σ → Except Fault α}
    {members : List (String × Json)} {value : α} (hold : List String → σ)
    (declares : slots.map (·.name) = owner.names)
    (listed : (members.map Prod.fst).Sublist owner.names)
    (served : ∀ inner, room = inner + 1 → MembersHave (Served slots inner owner hold) members)
    (finished : ∀ held, Complete owner members held → finish (hold held) = .ok value) :
    Loads (Decoder.record label slots (hold []) finish) room (.record owner) (.object members)
      value := by
  intro source wellFormed presents fits
  cases presents with
  | @record _ _ kept foreign entries omitted defaults presented undeclared reordered spelled =>
      obtain _ | _ | ⟨names, each⟩ := wellFormed
      rw [Source.depth] at fits
      obtain ⟨inner, rfl⟩ := Nat.exists_eq_succ_of_ne_zero (by omega : room ≠ 0)
      have keptNames : (kept.map fun one => one.2.name).Sublist owner.names := by
        have names := (omitted.map Prod.fst).trans listed
        simpa [Function.comp_def] using names
      have met := declared_perm
        (fun one inside => keptNames.subset (List.mem_map_of_mem inside)) undeclared reordered
      have taken : ∀ entry ∈ entries, entry.name ∈ owner.names →
          Takes slots inner hold entry.name entry.source.reading := by
        intro entry inside own
        have well := each entry.written (List.mem_map_of_mem inside)
        have shallow := depth_le_membersDepth entry.written (List.mem_map_of_mem inside)
        rcases List.mem_append.mp (reordered.mem_iff.mp inside) with keeps | adds
        · obtain ⟨⟨form, entry⟩, chosen, rfl⟩ := List.mem_map.mp keeps
          have listed := omitted.subset (List.mem_map_of_mem chosen)
          exact served inner rfl _ listed entry.source well (presented _ chosen)
            (Nat.le_trans shallow (Nat.le_of_succ_le_succ fits))
        · exact absurd own (undeclared entry adds)
      have skipped : ∀ entry ∈ entries, entry.source.reading.skip = .ok () :=
        fun entry inside => (each entry.written (List.mem_map_of_mem inside)).skip
      have filled := fill_entries declares spelled skipped taken
        (met.nodup_iff.mpr (keptNames.nodup owner.nodup_names)) (fun _ _ => List.not_mem_nil)
      have complete : Complete owner members ((declared owner.names entries).reverse ++ []) := by
        intro name form inside absent
        refine defaults (name, form) inside ?_
        intro chosen
        obtain ⟨one, keeps, same⟩ := List.mem_map.mp chosen
        injection same with same _
        subst same
        have name := met.mem_iff.mpr (List.mem_map.mpr ⟨one, keeps, rfl⟩)
        exact absent (by simpa using name)
      rw [Source.reading, Decoder.record, filled]
      exact finished _ complete

end Structures

end RouteAtlas.Dump

/-
Module: RouteAtlas.Proofs.TypedReading
Purpose: A typed value is restored from its JSON form unless the form nests
  more containers than may be opened, and then the text counts as malformed.
Main exports: Json.Restores, Json.Fills, Json.Restores.list,
  Json.Restores.entries, Json.Restores.record
-/
import RouteAtlas.PathNode.Load

namespace RouteAtlas.Json

/-!
## Restoring a value

Both relations below say what happens with any number of containers left to
open: enough of them and the value is restored, too few and the text is
malformed.  Either way they compose, because the depth of an array or an object
is one more than the greatest depth inside it.
-/

/-- Decoding a JSON form gives a value exactly when the form nests no more
containers than there is room for. -/
def Restores {α : Type} (decode : Decoder α) (room : Nat) (form : Json)
    (value : α) : Prop :=
  decode room (Reading.ofJson form) =
    if form.depth ≤ room then .ok value else .error .malformed

/-- Members fill a draft exactly when none of them nests more containers than
there is room for. -/
def Fills {σ : Type} (slots : List (Slot σ)) (room : Nat)
    (members : List (String × Json)) (draft filled : σ) : Prop :=
  (Members.ofList members).fill slots room draft =
    if membersDepth members ≤ room then .ok filled else .error .malformed

/-! ### Members of a structure -/

section Filling

variable {σ α : Type} {slots : List (Slot σ)} {room : Nat}

/-- Filling goes on after some members where it stopped. -/
theorem fill_append (one other : List (String × Json)) (draft : σ) :
    (Members.ofList (one ++ other)).fill slots room draft =
      match (Members.ofList one).fill slots room draft with
      | .error fault => .error fault
      | .ok draft => (Members.ofList other).fill slots room draft := by
  induction one generalizing draft with
  | nil => rfl
  | cons member one ih =>
      obtain ⟨key, value⟩ := member
      simp only [List.cons_append, Members.ofList, Members.fill]
      split
      · split
        · rfl
        · exact ih draft
      · split
        · rfl
        · split
          · rfl
          · exact ih _

theorem membersDepth_append (one other : List (String × Json)) :
    membersDepth (one ++ other) = max (membersDepth one) (membersDepth other) := by
  induction one with
  | nil => simp [membersDepth]
  | cons member one ih => simp [membersDepth, ih, Nat.max_assoc]

theorem Fills.nil (draft : σ) : Fills slots room [] draft draft := by
  simp [Fills, Members.ofList, Members.fill, membersDepth]

theorem Fills.append {one other : List (String × Json)} {draft filled : σ}
    (between : σ) (first : Fills slots room one draft between)
    (second : Fills slots room other between filled) :
    Fills slots room (one ++ other) draft filled := by
  unfold Fills at first second ⊢
  rw [fill_append, first, membersDepth_append]
  by_cases fitsOne : membersDepth one ≤ room
  · by_cases fitsOther : membersDepth other ≤ room
    · rw [if_pos (Nat.max_le.mpr ⟨fitsOne, fitsOther⟩)]
      simp [fitsOne, fitsOther, second]
    · rw [if_neg fun fit => fitsOther (Nat.max_le.mp fit).2]
      simp [fitsOne, fitsOther, second]
  · rw [if_neg fun fit => fitsOne (Nat.max_le.mp fit).1]
    simp [fitsOne]

/-- A member fills its slot if the draft has no value there yet. -/
theorem Fills.member {name : String} {optional : Bool} {decode : Decoder α}
    {get : σ → Option α} {set : α → σ → σ} {draft filled : σ} {form : Json} {value : α}
    (found : slots.find? (·.name == name) = some (.of name optional decode get set))
    (free : get draft = none) (restores : Restores decode room form value)
    (same : set value draft = filled) :
    Fills slots room [(name, form)] draft filled := by
  unfold Restores at restores
  subst same
  by_cases fits : form.depth ≤ room
  · simp [Fills, Members.ofList, Members.fill, membersDepth, found, Slot.of, free,
      restores, fits]
  · simp [Fills, Members.ofList, Members.fill, membersDepth, found, Slot.of, free,
      restores, fits]

theorem Fills.cons {name : String} {optional : Bool} {decode : Decoder α}
    {get : σ → Option α} {set : α → σ → σ} {draft between filled : σ} {form : Json}
    {value : α} {rest : List (String × Json)}
    (found : slots.find? (·.name == name) = some (.of name optional decode get set))
    (free : get draft = none) (restores : Restores decode room form value)
    (same : set value draft = between) (others : Fills slots room rest between filled) :
    Fills slots room ((name, form) :: rest) draft filled :=
  (Fills.member found free restores same).append between others

end Filling

/-! ### Values -/

section Restoring

variable {α : Type} {room : Nat}

theorem restores_string (text : String) :
    Restores Decoder.string room (.string text) text := by
  simp [Restores, Reading.ofJson, Decoder.string, depth]

theorem restores_bool (value : Bool) :
    Restores Decoder.bool room (.bool value) value := by
  simp [Restores, Reading.ofJson, Decoder.bool, depth]

/-- A form other than `null` stands for a value that is there. -/
theorem Restores.some {decode : Decoder α} {form : Json} {value : α}
    (restores : Restores decode room form value) (present : form ≠ .null) :
    Restores (Decoder.option decode) room form (some value) := by
  unfold Restores at restores ⊢
  have unfolded : Decoder.option decode room (Reading.ofJson form) =
      match decode room (Reading.ofJson form) with
      | .error fault => .error fault
      | .ok value => .ok (Option.some value) := by
    cases form with
    | null => exact absurd rfl present
    | _ => rfl
  rw [unfolded, restores]
  by_cases fits : form.depth ≤ room
  · simp [fits]
  · simp [fits]

/-- A name is restored to the variant that it names. -/
theorem restores_variantName {options : List (String × Payload α)} {name : String}
    {value : α} (known : options.lookup name = some (.none value)) :
    Restores (Decoder.variant options) room (.string name) value := by
  simp [Restores, Reading.ofJson, Decoder.variant, depth, known]

theorem lookup_named {options : List (String × α)} {name : String} {value : α}
    (known : options.lookup name = some value) :
    (options.map fun (name, value) => (name, Payload.none value)).lookup name =
      some (.none value) := by
  induction options with
  | nil => simp at known
  | cons entry options ih =>
      obtain ⟨other, first⟩ := entry
      rw [List.lookup_cons] at known
      rw [List.map_cons, List.lookup_cons]
      split
      · next same =>
        rw [same] at known
        injection known with known
        rw [known]
      · next differs =>
        rw [differs] at known
        exact ih known

/-- A choice among variants that carry nothing is restored from its name. -/
theorem restores_name {options : List (String × α)} {name : String} {value : α}
    (known : options.lookup name = some value) :
    Restores (Decoder.name options) room (.string name) value :=
  restores_variantName (lookup_named known)

/-- A variant that carries a value is restored from an object with one
member. -/
theorem restores_variantObject {options : List (String × Payload α)} {name : String}
    {decode : Decoder α} {form : Json} {value : α}
    (known : options.lookup name = some (.one decode))
    (restores : ∀ inner, room = inner + 1 → Restores decode inner form value) :
    Restores (Decoder.variant options) room (.object [(name, form)]) value := by
  cases room with
  | zero => simp [Restores, Reading.ofJson, Decoder.variant, depth]
  | succ inner =>
      have inside := restores inner rfl
      unfold Restores at inside
      by_cases fits : form.depth ≤ inner
      · simp [Restores, Reading.ofJson, Members.ofList, Decoder.variant, depth,
          membersDepth, known, inside, fits, Decoder.onlyMember]
      · simp [Restores, Reading.ofJson, Members.ofList, Decoder.variant, depth,
          membersDepth, known, inside, fits]

theorem toList_ofList {decode : Reading → Except Fault α} {form : α → Json}
    {limit : Nat} {items : List α}
    (restores : ∀ item ∈ items, decode (Reading.ofJson (form item)) =
      if (form item).depth ≤ limit then .ok item else .error .malformed) :
    (Items.ofList (items.map form)).toList decode =
      if itemsDepth (items.map form) ≤ limit then .ok items
      else .error .malformed := by
  induction items with
  | nil => simp [Items.ofList, Items.toList, itemsDepth]
  | cons item items ih =>
      have first := restores item (by simp)
      have others := ih fun other inside => restores other (by simp [inside])
      simp only [List.map_cons, Items.ofList, Items.toList, itemsDepth, first, others]
      by_cases fits : (form item).depth ≤ limit
      · by_cases fitOthers : itemsDepth (items.map form) ≤ limit
        · rw [if_pos (Nat.max_le.mpr ⟨fits, fitOthers⟩)]
          simp [fits, fitOthers]
        · rw [if_neg fun fit => fitOthers (Nat.max_le.mp fit).2]
          simp [fits, fitOthers]
      · rw [if_neg fun fit => fits (Nat.max_le.mp fit).1]
        simp [fits]

/-- A list is restored from an array of the forms of its items. -/
theorem Restores.list {decode : Decoder α} {form : α → Json} {items : List α}
    (restores : ∀ inner, room = inner + 1 → ∀ item ∈ items,
      Restores decode inner (form item) item) :
    Restores (Decoder.list decode) room (.array (items.map form)) items := by
  cases room with
  | zero => simp [Restores, Reading.ofJson, Decoder.list, depth]
  | succ inner =>
      have inside := toList_ofList (restores inner rfl)
      simp [Restores, Reading.ofJson, Decoder.list, depth, inside]

theorem toEntries_ofList {decode : Reading → Except Fault α} {form : α → Json}
    {limit : Nat} {entries : List (String × α)}
    (restores : ∀ entry ∈ entries, decode (Reading.ofJson (form entry.2)) =
      if (form entry.2).depth ≤ limit then .ok entry.2 else .error .malformed) :
    (Members.ofList (entries.map fun (name, value) => (name, form value))).toEntries decode =
      if membersDepth (entries.map fun (name, value) => (name, form value)) ≤ limit then
        .ok entries
      else .error .malformed := by
  induction entries with
  | nil => simp [Members.ofList, Members.toEntries, membersDepth]
  | cons entry entries ih =>
      have first := restores entry (by simp)
      have others := ih fun other inside => restores other (by simp [inside])
      simp only [List.map_cons, Members.ofList, Members.toEntries, membersDepth, first, others]
      by_cases fits : (form entry.2).depth ≤ limit
      · by_cases fitOthers :
          membersDepth (entries.map fun (name, value) => (name, form value)) ≤ limit
        · rw [if_pos (Nat.max_le.mpr ⟨fits, fitOthers⟩)]
          simp [fits, fitOthers]
        · rw [if_neg fun fit => fitOthers (Nat.max_le.mp fit).2]
          simp [fits, fitOthers]
      · rw [if_neg fun fit => fits (Nat.max_le.mp fit).1]
        simp [fits]

/-- Values under arbitrary names are restored from an object of their forms. -/
theorem Restores.entries {decode : Decoder α} {form : α → Json} {entries : List (String × α)}
    (restores : ∀ inner, room = inner + 1 → ∀ entry ∈ entries,
      Restores decode inner (form entry.2) entry.2) :
    Restores (Decoder.entries decode) room
      (.object (entries.map fun (name, value) => (name, form value))) entries := by
  cases room with
  | zero => simp [Restores, Reading.ofJson, Decoder.entries, depth]
  | succ inner =>
      have inside := toEntries_ofList (restores inner rfl)
      simp [Restores, Reading.ofJson, Decoder.entries, depth, inside]

/-- A structure is restored from an object whose members fill its draft. -/
theorem Restores.record {σ : Type} {label : String} {slots : List (Slot σ)}
    {empty : σ} {finish : σ → Except Fault α}
    {members : List (String × Json)} {value : α} (filled : σ)
    (fills : ∀ inner, room = inner + 1 → Fills slots inner members empty filled)
    (finished : finish filled = .ok value) :
    Restores (Decoder.record label slots empty finish) room (.object members)
      value := by
  cases room with
  | zero => simp [Restores, Reading.ofJson, Decoder.record, depth]
  | succ inner =>
      have inside := fills inner rfl
      unfold Fills at inside
      by_cases fits : membersDepth members ≤ inner
      · simp [Restores, Reading.ofJson, Decoder.record, depth, inside, fits, finished]
      · simp [Restores, Reading.ofJson, Decoder.record, depth, inside, fits]

end Restoring

/-! ### Members that are left out when they hold nothing -/

section LeftOut

variable {σ α : Type} {slots : List (Slot σ)} {room : Nat} {name : String}
  {optional : Bool} {draft filled : σ}

/-- A member that may be left out fills its slot if it is there, and leaves the slot free if
it is not. -/
theorem Fills.leftOut {decode : Decoder α} {get : σ → Option α} {set : α → σ → σ}
    {members : List (String × Json)} {held : Option α} (put : Option α → σ)
    (absent : put none = draft) (same : put held = filled)
    (found : slots.find? (·.name == name) = some (.of name optional decode get set))
    (free : get draft = none) (present : ∀ value, set value draft = put (some value))
    (written : held = none ∧ members = [] ∨ ∃ value form,
      held = some value ∧ members = [(name, form)] ∧ Restores decode room form value) :
    Fills slots room members draft filled := by
  subst same
  rcases written with ⟨rfl, rfl⟩ | ⟨value, form, rfl, rfl, restores⟩
  · rw [absent]
    exact Fills.nil draft
  · exact Fills.member found free restores (present value)

/-- What the slot of a list holds when an empty list is left out. -/
def nonEmpty? (items : List α) : Option (List α) :=
  if items.isEmpty then none else some items

@[simp] theorem getD_nonEmpty? (items : List α) : (nonEmpty? items).getD [] = items := by
  cases items <;> rfl

/-- A member for a list fills its slot unless the list is empty, and then the
slot stays free. -/
theorem Fills.unlessEmpty {decode : Decoder (List α)}
    {get : σ → Option (List α)} {set : List α → σ → σ} {form : α → Json}
    {items : List α} (put : Option (List α) → σ)
    (absent : put none = draft) (same : put (nonEmpty? items) = filled)
    (found : slots.find? (·.name == name) = some (.of name optional decode get set))
    (free : get draft = none) (present : ∀ items, set items draft = put (some items))
    (restores : Restores decode room (.array (items.map form)) items) :
    Fills slots room (memberUnlessEmpty name (items.map form)) draft filled := by
  refine Fills.leftOut put absent same found free present ?_
  cases items with
  | nil => exact .inl ⟨rfl, rfl⟩
  | cons item items => exact .inr ⟨_, _, rfl, rfl, restores⟩

/-- What the slot of a text holds when an empty text is left out. -/
def nonBlank? (text : String) : Option String :=
  if text = "" then none else some text

@[simp] theorem getD_nonBlank? (text : String) : (nonBlank? text).getD "" = text := by
  unfold nonBlank?
  split
  · next blank => simp [blank]
  · rfl

/-- A member for a text fills its slot unless the text is empty, and then the
slot stays free. -/
theorem Fills.unlessBlank {get : σ → Option String} {set : String → σ → σ}
    {text : String} (put : Option String → σ) (absent : put none = draft)
    (same : put (nonBlank? text) = filled)
    (found : slots.find? (·.name == name) =
      some (.of name optional Decoder.string get set))
    (free : get draft = none) (present : ∀ text, set text draft = put (some text)) :
    Fills slots room (memberUnlessBlank name text) draft filled := by
  refine Fills.leftOut put absent same found free present ?_
  unfold memberUnlessBlank nonBlank?
  split
  · exact .inl ⟨rfl, rfl⟩
  · exact .inr ⟨_, _, rfl, rfl, restores_string text⟩

end LeftOut

end RouteAtlas.Json

/-
Module: RouteAtlas.Proofs.YamlRecords
Purpose: What the fields of a structure are once the entries of a mapping have set them: what is
  written under their names, in whatever order, or what they were before.
Main exports: Yaml.nodeAt?, Yaml.IsField, Yaml.Sets, Yaml.exists_sets, Yaml.Gives,
  Yaml.Gives.get_eq
-/
import RouteAtlas.Proofs.Fallible
import RouteAtlas.Yaml.Decoder

namespace RouteAtlas.Yaml

variable {σ α : Type} {setters : List (Setter σ)} {name : String}
  {nameOf : Scalar → Except Fault (Option String)} {seen : List String}
  {entries : List (Scalar × Node)} {before after : σ}

/-! ## Entries -/

/-- The text of the key of an entry. -/
def keyOf (entry : Scalar × Node) : String :=
  entry.1.text

/-- The node under a name. -/
def nodeAt? (name : String) (entries : List (Scalar × Node)) : Option Node :=
  (entries.find? fun entry => keyOf entry == name).map Prod.snd

theorem nodeAt?_cons_of_eq {entry : Scalar × Node} (same : keyOf entry = name) :
    nodeAt? name (entry :: entries) = some entry.2 := by
  simp [nodeAt?, same]

theorem nodeAt?_cons_of_ne {entry : Scalar × Node} (other : keyOf entry ≠ name) :
    nodeAt? name (entry :: entries) = nodeAt? name entries := by
  simp [nodeAt?, other]

theorem nodeAt?_eq_none (absent : name ∉ entries.map keyOf) : nodeAt? name entries = none := by
  rw [nodeAt?, Option.map_eq_none_iff, List.find?_eq_none]
  intro entry member
  simpa using fun same => absent (List.mem_map.mpr ⟨entry, member, same⟩)

/-- Where no key occurs twice, an entry is found under its key. -/
theorem nodeAt?_of_mem (distinct : (entries.map keyOf).Nodup) {entry : Scalar × Node}
    (member : entry ∈ entries) : nodeAt? (keyOf entry) entries = some entry.2 := by
  induction entries with
  | nil => cases member
  | cons first rest ih =>
      obtain ⟨only, distinctRest⟩ := List.nodup_cons.mp distinct
      rcases List.mem_cons.mp member with rfl | later
      · exact nodeAt?_cons_of_eq rfl
      · have other : keyOf first ≠ keyOf entry :=
          fun same => only (same ▸ List.mem_map_of_mem later)
        rw [nodeAt?_cons_of_ne other, ih distinctRest later]

/-! ## Setting fields -/

@[simp]
theorem setter_name (read : Node → Except Fault α) (set : α → σ → σ) :
    (setter name read set).1 = name :=
  rfl

@[simp]
theorem setter_eq_ok {read : Node → Except Fault α} {set : α → σ → σ} {node : Node} :
    (setter name read set).2 node before = .ok after ↔
      ∃ value, read node = .ok value ∧ set value before = after := by
  cases found : read node <;> simp [setter, found, Except.map]

/-- Of the setters, the one of the given name puts what it reads where `get` finds it, and the
others change nothing there. -/
structure IsField (setters : List (Setter σ)) (name : String) (read : Node → Except Fault α)
    (get : σ → α) : Prop where
  known : ∃ set, setters.lookup name = some set
  puts : ∀ entry ∈ setters, ∀ node before after, entry.2 node before = .ok after →
    if entry.1 = name then read node = .ok (get after) else get after = get before

theorem mem_of_lookup {set : Node → σ → Except Fault σ} (found : setters.lookup name = some set) :
    (name, set) ∈ setters := by
  obtain ⟨before, after, rfl, _⟩ := List.lookup_eq_some_iff.mp found
  exact List.mem_append_right _ List.mem_cons_self

/-- One entry sets the field of its name. -/
theorem setEntries_cons_eq_ok {entry : Scalar × Node}
    (named : nameOf entry.1 = .ok (some (keyOf entry))) :
    setEntries setters nameOf seen before (entry :: entries) = .ok after ↔
      match setters.lookup (keyOf entry) with
      | none => setEntries setters nameOf seen before entries = .ok after
      | some set => keyOf entry ∉ seen ∧ ∃ between, set entry.2 before = .ok between ∧
          setEntries setters nameOf (keyOf entry :: seen) between entries = .ok after := by
  obtain ⟨key, node⟩ := entry
  rw [setEntries, Fallible.bind_eq_ok]
  simp only [named, Except.ok.injEq, exists_eq_left']
  cases setters.lookup (keyOf (key, node)) with
  | none => rfl
  | some set =>
      by_cases again : keyOf (key, node) ∈ seen
      · simp [again, throw, throwThe, MonadExceptOf.throw, bind, Except.bind]
      · have new : seen.contains (keyOf (key, node)) = false := by simpa using again
        simp only [again, new, not_false_eq_true, true_and]
        exact Fallible.bind_eq_ok

/-- A field ends up with what is under its name; with nothing there it is as it was. -/
theorem get_of_setEntries {read : Node → Except Fault α} {get : σ → α}
    (field : IsField setters name read get)
    (named : ∀ entry ∈ entries, nameOf entry.1 = .ok (some (keyOf entry)))
    (distinct : (entries.map keyOf).Nodup)
    (ran : setEntries setters nameOf seen before entries = .ok after) :
    match nodeAt? name entries with
    | none => get after = get before
    | some node => read node = .ok (get after) := by
  induction entries generalizing seen before with
  | nil =>
      cases ran
      rfl
  | cons entry rest ih =>
      obtain ⟨namedFirst, namedRest⟩ := List.forall_mem_cons.mp named
      obtain ⟨only, distinctRest⟩ := List.nodup_cons.mp distinct
      rw [setEntries_cons_eq_ok namedFirst] at ran
      by_cases isOwn : keyOf entry = name
      · obtain ⟨set, found⟩ := field.known
        rw [isOwn, found] at ran
        obtain ⟨_, between, put, others⟩ := ran
        have there := field.puts _ (mem_of_lookup found) _ _ _ put
        rw [if_pos rfl] at there
        -- No later entry has the same key.
        have unchanged := ih namedRest distinctRest others
        rw [nodeAt?_eq_none (isOwn ▸ only)] at unchanged
        change get after = get between at unchanged
        rw [nodeAt?_cons_of_eq isOwn, unchanged]
        exact there
      · rw [nodeAt?_cons_of_ne isOwn]
        cases found : setters.lookup (keyOf entry) with
        | none =>
            rw [found] at ran
            exact ih namedRest distinctRest ran
        | some set =>
            rw [found] at ran
            obtain ⟨_, between, put, others⟩ := ran
            have unchanged := field.puts _ (mem_of_lookup found) _ _ _ put
            rw [if_neg isOwn] at unchanged
            rw [← unchanged]
            exact ih namedRest distinctRest others

/-- Entries are set if each of them can be, and no key occurs twice. -/
theorem setEntries_succeeds
    (takes : ∀ entry ∈ entries, ∀ set, setters.lookup (keyOf entry) = some set →
      ∀ before, ∃ after, set entry.2 before = .ok after)
    (named : ∀ entry ∈ entries, nameOf entry.1 = .ok (some (keyOf entry)))
    (distinct : (entries.map keyOf).Nodup) (fresh : ∀ entry ∈ entries, keyOf entry ∉ seen)
    (before : σ) : ∃ after, setEntries setters nameOf seen before entries = .ok after := by
  induction entries generalizing seen before with
  | nil => exact ⟨before, rfl⟩
  | cons entry rest ih =>
      obtain ⟨takesFirst, takesRest⟩ := List.forall_mem_cons.mp takes
      obtain ⟨namedFirst, namedRest⟩ := List.forall_mem_cons.mp named
      obtain ⟨only, distinctRest⟩ := List.nodup_cons.mp distinct
      obtain ⟨new, freshRest⟩ := List.forall_mem_cons.mp fresh
      simp only [setEntries_cons_eq_ok namedFirst]
      cases found : setters.lookup (keyOf entry) with
      | none => exact ih takesRest namedRest distinctRest freshRest before
      | some set =>
          obtain ⟨between, put⟩ := takesFirst set found before
          have freshAfter : ∀ later ∈ rest, keyOf later ∉ keyOf entry :: seen := by
            intro later member
            rw [List.mem_cons, not_or]
            exact ⟨fun same => only (same ▸ List.mem_map_of_mem member), freshRest later member⟩
          obtain ⟨after, others⟩ := ih takesRest namedRest distinctRest freshAfter between
          exact ⟨after, new, between, put, others⟩

/-- Entries with different keys, all of them names, that turn one structure into another. -/
structure Sets (setters : List (Setter σ)) (nameOf : Scalar → Except Fault (Option String))
    (entries : List (Scalar × Node)) (before after : σ) : Prop where
  named : ∀ entry ∈ entries, nameOf entry.1 = .ok (some (keyOf entry))
  distinct : (entries.map keyOf).Nodup
  ran : setEntries setters nameOf [] before entries = .ok after

/-- Entries are set if what is under the name of each field can be put there. -/
theorem exists_sets
    (takes : ∀ entry ∈ setters, ∀ node, nodeAt? entry.1 entries = some node →
      ∀ before, ∃ after, entry.2 node before = .ok after)
    (named : ∀ entry ∈ entries, nameOf entry.1 = .ok (some (keyOf entry)))
    (distinct : (entries.map keyOf).Nodup) (before : σ) :
    ∃ after, Sets setters nameOf entries before after := by
  have succeeds : ∃ after, setEntries setters nameOf [] before entries = .ok after := by
    refine setEntries_succeeds ?_ named distinct (fun _ _ => List.not_mem_nil) before
    intro entry member set found
    exact takes _ (mem_of_lookup found) entry.2 (nodeAt?_of_mem distinct member)
  obtain ⟨after, ran⟩ := succeeds
  exact ⟨after, named, distinct, ran⟩

/-! ## What is given -/

/-- Under a name there is a node that holds what is given, or none if nothing is. -/
def Gives (entries : List (Scalar × Node)) (name : String) (Holds : α → Node → Prop)
    (given : Option α) : Prop :=
  Option.Rel Holds given (nodeAt? name entries)

namespace Gives

variable {β : Type} {Holds : α → Node → Prop} {given : Option α} {read : Node → Except Fault α}

/-- What is given, turned into something else. -/
theorem map (gives : Gives entries name Holds given) (value : α → β) :
    Gives entries name (fun result node => ∃ one, Holds one node ∧ value one = result)
      (given.map value) := by
  unfold Gives at gives ⊢
  cases given with
  | none =>
      rw [Fallible.rel_none_left gives]
      exact .none
  | some one =>
      obtain ⟨node, found, holds⟩ := Fallible.rel_some_left gives
      rw [found]
      exact .some ⟨one, holds, rfl⟩

theorem takes (gives : Gives entries name Holds given)
    (reads : ∀ value node, Holds value node → read node = .ok value) (set : α → σ → σ)
    (node : Node) (found : nodeAt? name entries = some node) (before : σ) :
    ∃ after, (setter name read set).2 node before = .ok after := by
  rw [Gives, found] at gives
  obtain ⟨value, _, holds⟩ := Fallible.rel_some_right gives
  exact ⟨set value before, setter_eq_ok.mpr ⟨value, reads value node holds, rfl⟩⟩

/-- A field is what is given, or stays as it was if nothing is. -/
theorem get_eq {get : σ → α} (gives : Gives entries name Holds given)
    (reads : ∀ value node, Holds value node → read node = .ok value)
    (field : IsField setters name read get) (sets : Sets setters nameOf entries before after) :
    get after = given.getD (get before) := by
  have result := get_of_setEntries field sets.named sets.distinct sets.ran
  cases given with
  | none =>
      rw [Gives] at gives
      rwa [Fallible.rel_none_left gives] at result
  | some value =>
      obtain ⟨node, found, holds⟩ := Fallible.rel_some_left gives
      rw [found] at result
      exact (Except.ok.inj ((reads value node holds).symm.trans result)).symm

end Gives

end RouteAtlas.Yaml

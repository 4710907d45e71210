/-
Module: RouteAtlas.Proofs.DictionaryLaws
Purpose: A dictionary stays in ascending order, and changing the value under a
  name changes nothing else.
Main exports: Dictionary.IsSorted.alter, Dictionary.get?_alter,
  Dictionary.mem_iff_get?, Dictionary.eq_of_get?_eq, Dictionary.isSorted_ofList,
  Dictionary.get?_ofList, Dictionary.ofList_of_isSorted
-/
import Mathlib.Data.List.Sort
import RouteAtlas.Dictionary

namespace RouteAtlas.Dictionary

variable {α : Type} {dictionary : Dictionary α} {name other key : String}

theorem compare_eq_lt : compare name key = .lt ↔ name < key :=
  compareOfLessAndEq_eq_lt

theorem compare_eq_gt : compare name key = .gt ↔ key < name := by
  rw [Std.OrientedCmp.gt_iff_lt, compare_eq_lt]

/-! ## Order -/

theorem IsSorted.tail {entry : String × α} (sorted : IsSorted (entry :: dictionary)) :
    dictionary.IsSorted :=
  (List.pairwise_cons.mp sorted).2

theorem IsSorted.head_lt {entry : String × α} (sorted : IsSorted (entry :: dictionary)) :
    ∀ later ∈ dictionary, entry.1 < later.1 :=
  (List.pairwise_cons.mp sorted).1

/-- The only new name that a change can bring is the one it is made under. -/
theorem name_of_mem_alter {change : Option α → α} {entry : String × α}
    (member : entry ∈ dictionary.alter name change) :
    entry.1 = name ∨ ∃ before ∈ dictionary, entry.1 = before.1 := by
  induction dictionary with
  | nil =>
      cases List.mem_singleton.mp member
      exact .inl rfl
  | cons first rest ih =>
      obtain ⟨key, value⟩ := first
      rw [alter] at member
      split at member
      · rcases List.mem_cons.mp member with rfl | member
        · exact .inl rfl
        · exact .inr ⟨entry, member, rfl⟩
      · rcases List.mem_cons.mp member with rfl | member
        · exact .inr ⟨(key, value), List.mem_cons_self, rfl⟩
        · exact .inr ⟨entry, List.mem_cons_of_mem _ member, rfl⟩
      · rcases List.mem_cons.mp member with rfl | member
        · exact .inr ⟨(key, value), List.mem_cons_self, rfl⟩
        · rcases ih member with same | ⟨before, found, same⟩
          · exact .inl same
          · exact .inr ⟨before, List.mem_cons_of_mem _ found, same⟩

theorem IsSorted.alter (sorted : dictionary.IsSorted) (name : String)
    (change : Option α → α) : (dictionary.alter name change).IsSorted := by
  induction dictionary with
  | nil => exact List.pairwise_singleton _ _
  | cons first rest ih =>
      obtain ⟨key, value⟩ := first
      rw [Dictionary.alter]
      split
      · next before =>
          have first := compare_eq_lt.mp before
          refine List.pairwise_cons.mpr ⟨?_, sorted⟩
          intro later member
          rcases List.mem_cons.mp member with rfl | member
          · exact first
          · exact String.lt_trans first (sorted.head_lt later member)
      · exact List.pairwise_cons.mpr ⟨sorted.head_lt, sorted.tail⟩
      · next after =>
          refine List.pairwise_cons.mpr ⟨?_, ih sorted.tail⟩
          intro later member
          rcases name_of_mem_alter member with same | ⟨before, found, same⟩
          · rw [same]
            exact compare_eq_gt.mp after
          · rw [same]
            exact sorted.head_lt before found

/-! ## Values -/

theorem get?_cons (value : α) :
    get? name ((key, value) :: dictionary) =
      if name = key then some value else dictionary.get? name := by
  unfold get?
  rw [List.lookup_cons]
  split <;> simp_all

theorem get?_eq_none (absent : ∀ entry ∈ dictionary, entry.1 ≠ name) :
    dictionary.get? name = none := by
  induction dictionary with
  | nil => rfl
  | cons first rest ih =>
      obtain ⟨key, value⟩ := first
      have differ : name ≠ key := fun same =>
        absent (key, value) List.mem_cons_self same.symm
      rw [get?_cons, if_neg differ]
      exact ih fun entry member => absent entry (List.mem_cons_of_mem _ member)

/-- Under the name that is changed stands what the change makes of the value
before; every other name keeps what it has. -/
theorem get?_alter (sorted : dictionary.IsSorted) (change : Option α → α) :
    (dictionary.alter name change).get? other =
      if other = name then some (change (dictionary.get? name)) else dictionary.get? other := by
  induction dictionary with
  | nil => exact get?_cons _
  | cons first rest ih =>
      obtain ⟨key, value⟩ := first
      rw [alter]
      split
      · next before =>
          have absent : get? name ((key, value) :: rest) = none := by
            apply get?_eq_none
            intro entry member same
            have first : name < key := compare_eq_lt.mp before
            rcases List.mem_cons.mp member with rfl | member
            · exact String.lt_irrefl _ (same ▸ first)
            · have later := sorted.head_lt entry member
              rw [same] at later
              exact String.lt_irrefl _ (String.lt_trans first later)
          rw [get?_cons, absent]
      · next here =>
          have same : name = key := Std.compare_eq_iff_eq.mp here
          subst same
          rw [get?_cons, get?_cons, get?_cons, if_pos rfl]
          split <;> rfl
      · next after =>
          have differ : name ≠ key := by
            rintro rfl
            exact String.lt_irrefl _ (compare_eq_gt.mp after)
          rw [get?_cons, get?_cons, get?_cons, ih sorted.tail, if_neg differ]
          by_cases atKey : other = key
          · rw [if_pos atKey, if_pos atKey, if_neg]
            rw [atKey]
            exact Ne.symm differ
          · rw [if_neg atKey, if_neg atKey]

/-- An entry of an ordered dictionary is the only one under its name. -/
theorem mem_iff_get? (sorted : dictionary.IsSorted) {value : α} :
    (name, value) ∈ dictionary ↔ dictionary.get? name = some value := by
  induction dictionary with
  | nil => simp [get?]
  | cons first rest ih =>
      obtain ⟨key, held⟩ := first
      rw [get?_cons, List.mem_cons, ih sorted.tail, Prod.mk.injEq]
      by_cases atKey : name = key
      · have absent : get? name rest = none := by
          apply get?_eq_none
          intro entry member same
          have later := sorted.head_lt entry member
          rw [same, atKey] at later
          exact String.lt_irrefl _ later
        rw [if_pos atKey, absent]
        simp [atKey, eq_comm]
      · rw [if_neg atKey]
        simp [atKey]

/-- Dictionaries that give the same values are the same: the order of the entries follows
from their names. -/
theorem eq_of_get?_eq {dictionary' : Dictionary α} (sorted : dictionary.IsSorted)
    (sorted' : dictionary'.IsSorted)
    (same : ∀ name, dictionary.get? name = dictionary'.get? name) :
    dictionary = dictionary' := by
  have irrefl : Std.Irrefl fun one other : String × α => one.1 < other.1 :=
    ⟨fun entry => String.lt_irrefl entry.1⟩
  have antisymm : Std.Antisymm fun one other : String × α => one.1 < other.1 :=
    ⟨fun _ _ before after => absurd (String.lt_trans before after) (String.lt_irrefl _)⟩
  apply List.Pairwise.eq_of_mem_iff sorted sorted'
  rintro ⟨name, value⟩
  rw [mem_iff_get? sorted, mem_iff_get? sorted', same]

/-! ## Entries one after another -/

theorem isSorted_insert (sorted : dictionary.IsSorted) (name : String) (value : α) :
    (dictionary.insert name value).IsSorted :=
  sorted.alter name fun _ => value

theorem mem_of_mem_insert {value : α} {entry : String × α}
    (member : entry ∈ dictionary.insert name value) :
    entry = (name, value) ∨ entry ∈ dictionary := by
  induction dictionary with
  | nil => exact .inl (List.mem_singleton.mp member)
  | cons first rest ih =>
      obtain ⟨key, held⟩ := first
      rw [insert, alter] at member
      split at member
      · exact List.mem_cons.mp member
      · next here =>
          have same : name = key := Std.compare_eq_iff_eq.mp here
          subst same
          exact (List.mem_cons.mp member).imp_right (List.mem_cons_of_mem _)
      · rcases List.mem_cons.mp member with same | later
        · exact .inr (same ▸ List.mem_cons_self)
        · exact (ih later).imp_right (List.mem_cons_of_mem _)

/-- A name after all others is put last. -/
theorem insert_of_lt (value : α) (below : ∀ entry ∈ dictionary, entry.1 < name) :
    dictionary.insert name value = dictionary ++ [(name, value)] := by
  induction dictionary with
  | nil => rfl
  | cons first rest ih =>
      obtain ⟨key, held⟩ := first
      have after : compare name key = .gt := compare_eq_gt.mpr (below _ List.mem_cons_self)
      have others := ih fun entry member => below entry (List.mem_cons_of_mem _ member)
      rw [insert] at others
      rw [insert, alter, after, others, List.cons_append]

section Entries

variable {entries : List (String × α)}

theorem isSorted_foldl_insert (sorted : dictionary.IsSorted) :
    (entries.foldl (fun dictionary entry => dictionary.insert entry.1 entry.2)
      dictionary).IsSorted := by
  induction entries generalizing dictionary with
  | nil => exact sorted
  | cons entry entries ih => exact ih (isSorted_insert sorted entry.1 entry.2)

theorem isSorted_ofList : (ofList entries).IsSorted :=
  isSorted_foldl_insert List.Pairwise.nil

/-- After entries have been put in one after another, a name has the value of the last one
under it. -/
theorem get?_foldl_insert (sorted : dictionary.IsSorted) :
    (entries.foldl (fun dictionary entry => dictionary.insert entry.1 entry.2)
      dictionary).get? name =
      match entries.reverse.find? fun entry => entry.1 = name with
      | some entry => some entry.2
      | none => dictionary.get? name := by
  induction entries generalizing dictionary with
  | nil => rfl
  | cons entry entries ih =>
      rw [List.foldl_cons, ih (isSorted_insert sorted entry.1 entry.2), List.reverse_cons,
        List.find?_append]
      cases entries.reverse.find? fun entry => entry.1 = name with
      | some later => rfl
      | none =>
          rw [Option.none_or, List.find?_singleton, insert, get?_alter sorted]
          by_cases same : name = entry.1
          · simp [same]
          · simp [same, Ne.symm same]

theorem get?_ofList : (ofList entries).get? name =
    (entries.reverse.find? fun entry => entry.1 = name).map Prod.snd := by
  rw [ofList, get?_foldl_insert List.Pairwise.nil]
  cases entries.reverse.find? fun entry => entry.1 = name <;> rfl

theorem mem_of_mem_foldl_insert {entry : String × α}
    (member : entry ∈ entries.foldl (fun dictionary entry => dictionary.insert entry.1 entry.2)
      dictionary) : entry ∈ entries ∨ entry ∈ dictionary := by
  induction entries generalizing dictionary with
  | nil => exact .inr member
  | cons first entries ih =>
      rcases ih member with later | before
      · exact .inl (List.mem_cons_of_mem _ later)
      · rcases mem_of_mem_insert before with rfl | before
        · exact .inl List.mem_cons_self
        · exact .inr before

theorem mem_of_mem_ofList {entry : String × α} (member : entry ∈ ofList entries) :
    entry ∈ entries :=
  (mem_of_mem_foldl_insert member).resolve_right List.not_mem_nil

theorem foldl_insert_eq_append (sorted : IsSorted (dictionary ++ entries)) :
    entries.foldl (fun dictionary entry => dictionary.insert entry.1 entry.2) dictionary =
      dictionary ++ entries := by
  induction entries generalizing dictionary with
  | nil => exact (List.append_nil dictionary).symm
  | cons entry entries ih =>
      have below : ∀ before ∈ dictionary, before.1 < entry.1 := fun before member =>
        (List.pairwise_append.mp sorted).2.2 before member entry List.mem_cons_self
      rw [List.append_cons] at sorted
      rw [List.foldl_cons, insert_of_lt entry.2 below, ih sorted, ← List.append_cons]

/-- The entries of an ordered dictionary make up the dictionary. -/
theorem ofList_of_isSorted (sorted : dictionary.IsSorted) : ofList dictionary = dictionary :=
  foldl_insert_eq_append sorted

end Entries

end RouteAtlas.Dictionary

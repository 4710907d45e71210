/-
Module: RouteAtlas.Proofs.Fallible
Purpose: When a chain of steps that can fail succeeds, and what its results have
  in common with what they were made from.
Main exports: Fallible.bind_eq_ok, Fallible.mapError_eq_ok, Fallible.mapM_eq_ok,
  Fallible.mapM_succeeds_iff, Fallible.mapM_congr, Fallible.FailsExactly, Fallible.FaultsFirst,
  Fallible.exists_of_mem_right
-/
import Mathlib.Data.List.Forall2

namespace RouteAtlas.Fallible

variable {ε δ α β γ : Type}

/-! ## Steps -/

/-- A step fails exactly when it does not succeed. -/
theorem fails_iff {step : Except ε α} :
    (∃ fault, step = .error fault) ↔ ¬ ∃ result, step = .ok result := by
  cases step <;> simp

/-- A chain succeeds when its first step does and the rest does with the result
of that step. -/
theorem bind_eq_ok {step : Except ε α} {next : α → Except ε β} {result : β} :
    step >>= next = .ok result ↔ ∃ value, step = .ok value ∧ next value = .ok result := by
  cases step with
  | error fault =>
      constructor
      · intro run
        cases run
      · rintro ⟨value, run, _⟩
        cases run
  | ok value =>
      constructor
      · intro run
        exact ⟨value, rfl, run⟩
      · rintro ⟨other, same, run⟩
        cases same
        exact run

/-- Wording an error differently makes no difference to a success. -/
theorem mapError_eq_ok {step : Except ε α} {word : ε → δ} {result : α} :
    step.mapError word = .ok result ↔ step = .ok result := by
  cases step <;> simp [Except.mapError]

theorem pure_eq_ok {value result : α} :
    (pure value : Except ε α) = .ok result ↔ value = result := by
  simp [pure, Except.pure]

/-- What is known of the result of a step is known of the value that it succeeds with. -/
theorem map_toOption_eq_some {step : Except ε α} {part : α → β} {result : β} :
    step.toOption.map part = some result ↔ ∃ value, step = .ok value ∧ part value = result := by
  cases step <;> simp [Except.toOption]

/-- Steps for all items of a list succeed when each of them does. -/
theorem mapM_eq_ok {step : α → Except ε β} {items : List α} {results : List β} :
    items.mapM step = .ok results ↔
      List.Forall₂ (fun item result => step item = .ok result) items results := by
  induction items generalizing results with
  | nil =>
      rw [List.mapM_nil, pure_eq_ok, List.forall₂_nil_left_iff]
      exact eq_comm
  | cons item items ih =>
      rw [List.mapM_cons, bind_eq_ok, List.forall₂_cons_left_iff]
      constructor
      · rintro ⟨first, ran, rest⟩
        obtain ⟨others, ranOthers, same⟩ := bind_eq_ok.mp rest
        exact ⟨first, others, ran, ih.mp ranOthers, (pure_eq_ok.mp same).symm⟩
      · rintro ⟨first, others, ran, ranOthers, rfl⟩
        exact ⟨first, ran, bind_eq_ok.mpr ⟨others, ih.mpr ranOthers, rfl⟩⟩

/-- Steps for all items of a list succeed with some results exactly when none of
the items is refused. -/
theorem mapM_succeeds_iff {step : α → Except ε β} {items : List α} :
    (∃ results, items.mapM step = .ok results) ↔
      ∀ item ∈ items, ∃ result, step item = .ok result := by
  induction items with
  | nil => simp [pure, Except.pure]
  | cons item items ih =>
      rw [List.forall_mem_cons, ← ih]
      constructor
      · rintro ⟨results, ran⟩
        rw [mapM_eq_ok, List.forall₂_cons_left_iff] at ran
        obtain ⟨first, others, ranFirst, ranOthers, _⟩ := ran
        exact ⟨⟨first, ranFirst⟩, others, mapM_eq_ok.mpr ranOthers⟩
      · rintro ⟨⟨first, ranFirst⟩, others, ranOthers⟩
        exact ⟨first :: others, mapM_eq_ok.mpr (.cons ranFirst (mapM_eq_ok.mp ranOthers))⟩

/-- Steps that agree for all items of a list agree for the list. -/
theorem mapM_congr {step other : α → Except ε β} {items : List α}
    (same : ∀ item ∈ items, step item = other item) : items.mapM step = items.mapM other := by
  induction items with
  | nil => rfl
  | cons item items ih =>
      obtain ⟨first, rest⟩ := List.forall_mem_cons.mp same
      rw [List.mapM_cons, List.mapM_cons, first, ih rest]

/-! ## Failures -/

/-- A step fails exactly under a condition, and then always with the same fault. -/
structure FailsExactly (fault : ε) (bad : Prop) (step : Except ε α) : Prop where
  fails : bad → step = .error fault
  succeeds : ¬ bad → ∃ result, step = .ok result

namespace FailsExactly

variable {fault other : ε} {bad worse : Prop} {step : Except ε α} {next : α → Except ε β}

theorem fails_iff (exactly : FailsExactly fault bad step) :
    (∃ fault, step = .error fault) ↔ bad := by
  constructor
  · intro failed
    by_contra good
    exact Fallible.fails_iff.mp failed (exactly.succeeds good)
  · intro isBad
    exact ⟨fault, exactly.fails isBad⟩

theorem fault_eq (exactly : FailsExactly fault bad step) (failed : step = .error other) :
    other = fault := by
  have same := exactly.fails (exactly.fails_iff.mp ⟨other, failed⟩)
  rw [failed] at same
  exact Except.error.inj same

theorem congr (same : bad ↔ worse) (exactly : FailsExactly fault bad step) :
    FailsExactly fault worse step := by
  rwa [← propext same]

theorem ofPure (fault : ε) (value : α) : FailsExactly fault False (pure value) where
  fails := False.elim
  succeeds _ := ⟨value, rfl⟩

/-- A chain fails with a fault that all its steps share when one of them does. -/
theorem bind (first : FailsExactly fault bad step)
    (rest : ∀ value, step = .ok value → FailsExactly fault worse (next value)) :
    FailsExactly fault (bad ∨ worse) (step >>= next) := by
  by_cases isBad : bad
  · refine ⟨fun _ => ?_, fun good => absurd (.inl isBad) good⟩
    rw [first.fails isBad]
    rfl
  · obtain ⟨value, ran⟩ := first.succeeds isBad
    have later := rest value ran
    rw [ran, or_iff_right isBad]
    exact later

theorem mapM {items : List α} {step : α → Except ε β} {bad : α → Prop}
    (each : ∀ item ∈ items, FailsExactly fault (bad item) (step item)) :
    FailsExactly fault (∃ item ∈ items, bad item) (items.mapM step) := by
  induction items with
  | nil => exact (ofPure fault []).congr (by simp)
  | cons item items ih =>
      obtain ⟨first, rest⟩ := List.forall_mem_cons.mp each
      rw [List.mapM_cons]
      refine (first.bind fun value _ => (ih rest).bind fun values _ => ofPure fault _).congr ?_
      rw [or_false, List.exists_mem_cons_iff]

end FailsExactly

/-! ## Faults -/

/-- The fault of a step that fails. -/
def fault? : Except ε α → Option ε
  | .error fault => some fault
  | .ok _ => none

theorem fault?_eq_some_iff {step : Except ε α} {fault : ε} :
    fault? step = some fault ↔ step = .error fault := by
  cases step <;> simp [fault?]

theorem fault?_eq_none_iff {step : Except ε α} :
    fault? step = none ↔ ∃ result, step = .ok result := by
  cases step <;> simp [fault?]

theorem fault?_mapError_eq_some_iff {step : Except ε α} {word : ε → δ} {fault : δ} :
    fault? (step.mapError word) = some fault ↔
      ∃ inner, step = .error inner ∧ word inner = fault := by
  cases step <;> simp [fault?, Except.mapError]

/-- Whenever a step fails, its fault is of some kind. -/
def FaultsIn (kind : ε → Prop) (step : Except ε α) : Prop :=
  ∀ fault, step = .error fault → kind fault

namespace FaultsIn

variable {kind : ε → Prop} {step : Except ε α}

theorem ok (value : α) : FaultsIn kind (.ok value) := nofun

theorem error {fault : ε} (isKind : kind fault) : FaultsIn kind (.error fault : Except ε α) := by
  rintro _ ⟨⟩
  exact isKind

theorem bind {next : α → Except ε β} (first : FaultsIn kind step)
    (rest : ∀ value, FaultsIn kind (next value)) : FaultsIn kind (step >>= next) := by
  cases step with
  | error fault => exact error (first fault rfl)
  | ok value => exact rest value

theorem mapError {word : ε → δ} {outer : δ → Prop} (first : FaultsIn kind step)
    (worded : ∀ fault, kind fault → outer (word fault)) : FaultsIn outer (step.mapError word) := by
  cases step with
  | error fault => exact error (worded fault (first fault rfl))
  | ok value => exact ok value

end FaultsIn

/-- A step fails with the fault of the first of some checks that is not passed, and
succeeds if all of them are. -/
def FaultsFirst (verdict : γ → Option ε) (checks : List γ) (step : Except ε α) : Prop :=
  fault? step = checks.findSome? verdict

namespace FaultsFirst

variable {verdict : γ → Option ε} {checks later : List γ} {check : γ} {step : Except ε α}
  {next : α → Except ε β} {fault : ε}

theorem succeeds_iff (first : FaultsFirst verdict checks step) :
    (∃ result, step = .ok result) ↔ ∀ check ∈ checks, verdict check = none := by
  rw [← fault?_eq_none_iff, first, List.findSome?_eq_none_iff]

theorem eq_error_iff (first : FaultsFirst verdict checks step) :
    step = .error fault ↔ ∃ before check after, checks = before ++ check :: after ∧
      verdict check = some fault ∧ ∀ earlier ∈ before, verdict earlier = none := by
  rw [← fault?_eq_some_iff, first, List.findSome?_eq_some_iff]

theorem ofPure (value : α) : FaultsFirst verdict [] (pure value : Except ε α) := rfl

/-- One check decides about a step. -/
theorem single (same : verdict check = fault? step) : FaultsFirst verdict [check] step := by
  rw [FaultsFirst, List.findSome?_cons, same]
  cases fault? step <;> rfl

/-- A check that is passed makes no difference. -/
theorem passed (passes : verdict check = none) (first : FaultsFirst verdict checks step) :
    FaultsFirst verdict (check :: checks) step := by
  rw [FaultsFirst, List.findSome?_cons, passes]
  exact first

/-- No check after one that is not passed makes a difference. -/
theorem refused (fails : verdict check = some fault) (failed : step = .error fault) :
    FaultsFirst verdict (check :: checks) step := by
  rw [FaultsFirst, List.findSome?_cons, fails, failed]
  rfl

/-- No check needs to be made twice. -/
theorem repeated {earlier : γ} (same : verdict earlier = verdict check)
    (first : FaultsFirst verdict (check :: checks) step) :
    FaultsFirst verdict (earlier :: check :: checks) step := by
  rw [FaultsFirst, List.findSome?_cons, same, first, List.findSome?_cons]
  cases verdict check <;> rfl

/-- In a chain the checks of the first step come first.  Those of the rest may depend
on what the first step gives. -/
theorem bind (first : FaultsFirst verdict checks step)
    (rest : ∀ value, step = .ok value → FaultsFirst verdict later (next value)) :
    FaultsFirst verdict (checks ++ later) (step >>= next) := by
  rw [FaultsFirst, List.findSome?_append, ← first]
  cases step with
  | error fault => rfl
  | ok value => exact rest value rfl

/-- Giving back what is made from the result is no further step. -/
theorem map (first : FaultsFirst verdict checks step) (make : α → β) :
    FaultsFirst verdict checks (step >>= fun value => pure (make value)) := by
  rw [FaultsFirst, ← first]
  cases step <;> rfl

/-- Wording an error differently is wording the faults of all checks so. -/
theorem mapError {ζ : Type} {word : ε → δ} {outer : ζ → Option δ} {wrap : γ → ζ}
    (worded : ∀ check, outer (wrap check) = (verdict check).map word)
    (first : FaultsFirst verdict checks step) :
    FaultsFirst outer (checks.map wrap) (step.mapError word) := by
  have same : outer ∘ wrap = Option.map word ∘ verdict := funext worded
  rw [FaultsFirst, List.findSome?_map, same, ← List.map_findSome?, ← first]
  cases step <;> rfl

/-- Steps for all items of a list have the checks of one item after another. -/
theorem mapM {items : List α} {step : α → Except ε β} {checks : α → List γ}
    (each : ∀ item ∈ items, FaultsFirst verdict (checks item) (step item)) :
    FaultsFirst verdict (items.flatMap checks) (items.mapM step) := by
  induction items with
  | nil => exact ofPure []
  | cons item items ih =>
      obtain ⟨first, rest⟩ := List.forall_mem_cons.mp each
      rw [List.mapM_cons, List.flatMap_cons]
      exact first.bind fun value _ => (ih rest).map _

end FaultsFirst

/-! ## Items and results -/

/-- Lists whose items agree in what is read off them agree in the lists of it. -/
theorem map_eq_map_of_related {γ : Type} {R : α → β → Prop} {items : List α}
    {results : List β} {read : α → γ} {readResult : β → γ}
    (agree : ∀ item result, R item result → read item = readResult result)
    (related : List.Forall₂ R items results) : items.map read = results.map readResult := by
  induction related with
  | nil => rfl
  | cons first _ ih => rw [List.map_cons, List.map_cons, agree _ _ first, ih]

/-- The results for the items that have one are related to these items if each of them is. -/
theorem related_filterMap {R : α → β → Prop} {keep : α → Bool} {make : α → Option β}
    {items : List α}
    (kept : ∀ item ∈ items, keep item = true → ∃ result, make item = some result ∧ R item result)
    (left : ∀ item ∈ items, keep item = false → make item = none) :
    List.Forall₂ R (items.filter keep) (items.filterMap make) := by
  induction items with
  | nil => exact .nil
  | cons item items ih =>
      obtain ⟨keptFirst, keptRest⟩ := List.forall_mem_cons.mp kept
      obtain ⟨leftFirst, leftRest⟩ := List.forall_mem_cons.mp left
      have others := ih keptRest leftRest
      cases isKept : keep item with
      | true =>
          obtain ⟨result, made, both⟩ := keptFirst isKept
          rw [List.filter_cons_of_pos isKept, List.filterMap_cons_some made]
          exact .cons both others
      | false =>
          rw [List.filter_cons_of_neg (by simp [isKept]), List.filterMap_cons_none (leftFirst isKept)]
          exact others

theorem exists_of_mem_right {R : α → β → Prop} {items : List α} {results : List β}
    (related : List.Forall₂ R items results) {result : β} (member : result ∈ results) :
    ∃ item ∈ items, R item result := by
  induction related with
  | nil => cases member
  | cons first _ ih =>
      rcases List.mem_cons.mp member with rfl | member
      · exact ⟨_, List.mem_cons_self, first⟩
      · obtain ⟨item, found, both⟩ := ih member
        exact ⟨item, List.mem_cons_of_mem _ found, both⟩

theorem exists_of_mem_left {R : α → β → Prop} {items : List α} {results : List β}
    (related : List.Forall₂ R items results) {item : α} (member : item ∈ items) :
    ∃ result ∈ results, R item result :=
  exists_of_mem_right (R := flip R) related.flip member

/-- Related lists have related items at the same places. -/
theorem rel_getElem? {R : α → β → Prop} {items : List α} {results : List β}
    (related : List.Forall₂ R items results) (index : Nat) :
    Option.Rel R items[index]? results[index]? := by
  induction related generalizing index with
  | nil => exact .none
  | cons first _ ih =>
      cases index with
      | zero => exact .some first
      | succ index => simpa using ih index

theorem rel_some_left {R : α → β → Prop} {value : α} {other : Option β}
    (related : Option.Rel R (some value) other) :
    ∃ result, other = some result ∧ R value result := by
  cases related with
  | some both => exact ⟨_, rfl, both⟩

theorem rel_some_right {R : α → β → Prop} {one : Option α} {result : β}
    (related : Option.Rel R one (some result)) : ∃ value, one = some value ∧ R value result := by
  cases related with
  | some both => exact ⟨_, rfl, both⟩

theorem rel_none_left {R : α → β → Prop} {other : Option β}
    (related : Option.Rel R none other) : other = none := by
  cases related with
  | none => rfl

theorem rel_mono {R S : α → β → Prop} {one : Option α} {other : Option β}
    (weaken : ∀ value result, R value result → S value result)
    (related : Option.Rel R one other) : Option.Rel S one other := by
  cases related with
  | none => exact .none
  | some both => exact .some (weaken _ _ both)

end RouteAtlas.Fallible

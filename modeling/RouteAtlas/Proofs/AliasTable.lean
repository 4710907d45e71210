/-
Module: RouteAtlas.Proofs.AliasTable
Purpose: The aliases of a table are pairwise distinct, and what they stand for is
  listed once and in ascending order.
Main exports: Alias.letters_injective, Alias.ofImport_ne_ofReceiver,
  Ascending.ofList_ascending, Ascending.ofList_congr, SymbolTable.idents,
  Collector.idents_finish_nodup
-/
import Mathlib.Data.List.Nodup
import Mathlib.Data.List.Sort
import RouteAtlas.Proofs.SymbolLookup
import RouteAtlas.Text.Split

namespace RouteAtlas

/-! ## Names -/

namespace Alias

theorem toNat_letter (index : Nat) : (letter index).toNat = 97 + index % 26 := by
  have small : index % 26 < 26 := Nat.mod_lt _ (by decide)
  have valid : (97 + index % 26).isValidChar := .inl (by omega)
  change (Char.ofNat (97 + index % 26)).toNat = _
  rw [Char.ofNat, dif_pos valid]
  rfl

/-- The first letter gives the place within the alphabet, and the number of letters
after it how often the alphabet was used up before. -/
theorem letters_injective : Function.Injective letters := by
  intro one other same
  obtain ⟨first, rest⟩ := List.cons_eq_cons.mp same
  have place : one % 26 = other % 26 := by
    have codes := congrArg Char.toNat first
    rw [toNat_letter, toNat_letter] at codes
    exact Nat.add_left_cancel codes
  have rounds : one / 26 = other / 26 := by
    simpa using congrArg List.length rest
  rw [← Nat.div_add_mod one 26, ← Nat.div_add_mod other 26, place, rounds]

theorem ofImport_injective : Function.Injective ofImport := fun _ _ same =>
  letters_injective (List.append_cancel_right (String.ofList_injective same))

theorem ofReceiver_injective : Function.Injective ofReceiver := fun _ _ same =>
  letters_injective (List.append_cancel_right (String.ofList_injective same))

theorem ofImport_ne_ofReceiver (index other : Nat) : ofImport index ≠ ofReceiver other := by
  intro same
  have last := congrArg List.getLast? (String.ofList_injective same)
  simp at last

theorem dot_notMem_letters (index : Nat) : '.' ∉ letters index := by
  intro member
  rcases List.mem_cons.mp member with first | later
  · have code := congrArg Char.toNat first
    rw [toNat_letter] at code
    have small : (46 : Nat) = 97 + index % 26 := code
    omega
  · cases List.eq_of_mem_replicate later

theorem dot_notMem_ofImport (index : Nat) : '.' ∉ (ofImport index).toList := by
  rw [ofImport, String.toList_ofList, List.mem_append]
  rintro (member | member)
  · exact dot_notMem_letters index member
  · cases List.mem_singleton.mp member

theorem dot_notMem_ofReceiver (index : Nat) : '.' ∉ (ofReceiver index).toList := by
  rw [ofReceiver, String.toList_ofList, List.mem_append]
  rintro (member | member)
  · exact dot_notMem_letters index member
  · cases List.mem_singleton.mp member

end Alias

/-! ## Ascending lists -/

namespace Ascending

variable {α : Type} [Ord α] [Std.LawfulEqOrd α] {values : List α}

/-- Strictly ascending in the order of the type. -/
def IsAscending (values : List α) : Prop :=
  values.Pairwise fun one other => compare one other = .lt

theorem IsAscending.nodup (ascending : IsAscending values) : values.Nodup :=
  ascending.imp fun before same => by
    rw [same, Std.compare_self] at before
    cases before

variable [Std.TransOrd α]

theorem IsAscending.insert (ascending : IsAscending values) (value : α) :
    IsAscending (insert value values) := by
  induction values with
  | nil => exact List.pairwise_singleton _ _
  | cons head rest ih =>
      obtain ⟨below, ascendingRest⟩ := List.pairwise_cons.mp ascending
      rw [Ascending.insert]
      split
      · next before =>
          refine List.pairwise_cons.mpr ⟨?_, ascending⟩
          intro other member
          rcases List.mem_cons.mp member with rfl | member
          · exact before
          · exact Std.TransCmp.lt_trans before (below other member)
      · exact ascending
      · next after =>
          refine List.pairwise_cons.mpr ⟨?_, ih ascendingRest⟩
          intro other member
          rcases mem_insert.mp member with rfl | member
          · exact Std.OrientedCmp.lt_of_gt after
          · exact below other member

theorem ofList_ascending (values : List α) : IsAscending (ofList values) := by
  have run : ∀ known : List α, IsAscending known →
      IsAscending (values.foldl (fun known value => Ascending.insert value known) known) := by
    induction values with
    | nil => exact fun _ ascending => ascending
    | cons value values ih => exact fun known ascending => ih _ (ascending.insert value)
  exact run [] List.Pairwise.nil

/-- Ascending lists of the same values are the same. -/
theorem IsAscending.eq_of_mem_iff {values' : List α} (ascending : IsAscending values)
    (ascending' : IsAscending values') (same : ∀ value, value ∈ values ↔ value ∈ values') :
    values = values' := by
  have irrefl : Std.Irrefl fun one other : α => compare one other = .lt :=
    ⟨fun value before => by rw [Std.compare_self] at before; cases before⟩
  have antisymm : Std.Antisymm fun one other : α => compare one other = .lt := by
    refine ⟨fun one other before after => ?_⟩
    rw [← Std.OrientedCmp.gt_iff_lt, before] at after
    cases after
  exact List.Pairwise.eq_of_mem_iff ascending ascending' same

/-- The ascending list of some values depends on which values they are, not on their
order or on how often they occur. -/
theorem ofList_congr {values' : List α} (same : ∀ value, value ∈ values ↔ value ∈ values') :
    ofList values = ofList values' := by
  refine (ofList_ascending values).eq_of_mem_iff (ofList_ascending values') fun value => ?_
  rw [mem_ofList, mem_ofList, same]

end Ascending

instance : Std.TransOrd ReceiverKey :=
  inferInstanceAs <| Std.TransCmp <| compareLex (compareOn ReceiverKey.importPath) <|
    compareLex (compareOn ReceiverKey.name) (compareOn ReceiverKey.pointer)

/-! ## Tables -/

/-- All aliases of a table. -/
def SymbolTable.idents (table : SymbolTable) : List String :=
  table.imports.map Prod.snd ++ table.receivers.map Prod.snd

theorem map_fst_numbered {κ : Type} (keys : List κ) (name : Nat → String) :
    (keys.zipIdx.map fun (key, index) => (key, name index)).map Prod.fst = keys := by
  rw [List.map_map]
  exact List.zipIdx_map_fst 0 keys

theorem map_snd_numbered {κ : Type} (keys : List κ) (name : Nat → String) :
    (keys.zipIdx.map fun (key, index) => (key, name index)).map Prod.snd =
      (List.range' 0 keys.length).map name := by
  rw [List.map_map, ← List.zipIdx_map_snd 0 keys, List.map_map]
  rfl

namespace Collector

variable (collector : Collector)

theorem importPaths_finish :
    collector.finish.imports.map Prod.fst = Ascending.ofList collector.imports :=
  map_fst_numbered _ _

theorem receiverKeys_finish :
    collector.finish.receivers.map Prod.fst = Ascending.ofList collector.receivers :=
  map_fst_numbered _ _

/-- No two aliases are the same, not even one of a package and one of a receiver. -/
theorem idents_finish_nodup : collector.finish.idents.Nodup := by
  have imports := map_snd_numbered (Ascending.ofList collector.imports) Alias.ofImport
  have receivers := map_snd_numbered (Ascending.ofList collector.receivers) Alias.ofReceiver
  have ofImports : (collector.finish.imports.map Prod.snd).Nodup := by
    rw [finish, imports]
    exact (List.nodup_range' ..).map Alias.ofImport_injective
  have ofReceivers : (collector.finish.receivers.map Prod.snd).Nodup := by
    rw [finish, receivers]
    exact (List.nodup_range' ..).map Alias.ofReceiver_injective
  refine List.nodup_append.mpr ⟨ofImports, ofReceivers, ?_⟩
  intro one ofImport other ofReceiver
  rw [finish, imports] at ofImport
  rw [finish, receivers] at ofReceiver
  obtain ⟨index, _, rfl⟩ := List.mem_map.mp ofImport
  obtain ⟨index', _, rfl⟩ := List.mem_map.mp ofReceiver
  exact Alias.ofImport_ne_ofReceiver index index'

end Collector

end RouteAtlas

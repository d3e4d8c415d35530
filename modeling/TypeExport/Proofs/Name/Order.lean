import TypeExport.Name.Order
import Mathlib.Data.List.Nodup
import Mathlib.Data.String.Basic

/-!
# Sorted names

The keys of names are linearly ordered, so items with distinct keys have one sorted order.

* `Name.SortKey.le_trans`, `Name.SortKey.le_total`, `Name.SortKey.le_antisymm` — the order of keys.
* `Name.sortByName_perm`, `Name.pairwise_sortByName` — sorting reorders items by their names.
* `Name.DistinctKeys` — no two of the names that items are sorted by have the same key.
* `Name.sortByName_eq_of_perm` — items with distinct keys are sorted alike, whatever their order.
-/

namespace TypeExport.Name

/-! ### The order of keys -/

namespace SortKey

/-- Keys are compared by the folded texts first, and by the swapped ones where those are equal. -/
theorem le_iff {a b : SortKey} :
    a.le b = true ↔ a.folded < b.folded ∨ a.folded = b.folded ∧ a.swapped ≤ b.swapped := by
  simp [le]

/-- The order of keys is transitive. -/
theorem le_trans {a b c : SortKey} (hab : a.le b = true) (hbc : b.le c = true) :
    a.le c = true := by
  rw [le_iff] at hab hbc ⊢
  obtain hab | ⟨heq, hab⟩ := hab
  · obtain hbc | ⟨heq', -⟩ := hbc
    · exact .inl (String.lt_trans hab hbc)
    · exact .inl (heq' ▸ hab)
  · obtain hbc | ⟨heq', hbc⟩ := hbc
    · exact .inl (heq ▸ hbc)
    · exact .inr ⟨heq.trans heq', String.le_trans hab hbc⟩

/-- Any two keys are in order. -/
theorem le_total (a b : SortKey) : a.le b = true ∨ b.le a = true := by
  simp only [le_iff]
  obtain hlt | heq | hgt := lt_trichotomy a.folded b.folded
  · exact .inl (.inl hlt)
  · obtain hle | hle := String.le_total a.swapped b.swapped
    · exact .inl (.inr ⟨heq, hle⟩)
    · exact .inr (.inr ⟨heq.symm, hle⟩)
  · exact .inr (.inl hgt)

/-- Keys that are in order both ways are equal. -/
theorem le_antisymm {a b : SortKey} (hab : a.le b = true) (hba : b.le a = true) : a = b := by
  rw [le_iff] at hab hba
  -- If one of the folded names came first, it would come before itself.
  obtain hlt | ⟨heq, hle⟩ := hab
  · obtain hgt | ⟨heq, -⟩ := hba
    · exact absurd hgt (String.lt_asymm hlt)
    · exact absurd (heq ▸ hlt) (String.lt_irrefl _)
  · obtain hgt | ⟨-, hge⟩ := hba
    · exact absurd (heq ▸ hgt) (String.lt_irrefl _)
    · obtain ⟨folded, swapped⟩ := a
      obtain rfl : folded = b.folded := heq
      obtain rfl : swapped = b.swapped := String.le_antisymm hle hge
      rfl

end SortKey

/-! ### Sorting -/

section

variable {α : Type}

/-- Keyed items are sorted by their keys. -/
theorem pairwise_mergeSort (keyed : List (SortKey × α)) :
    (keyed.mergeSort fun a b => a.1.le b.1).Pairwise fun a b => a.1.le b.1 = true := by
  refine List.pairwise_mergeSort (fun a b c => ?_) (fun a b => ?_) keyed
  · exact SortKey.le_trans
  · rw [Bool.or_eq_true]
    exact SortKey.le_total a.1 b.1

/-- Keyed items of which no two have the same key have one sorted order. -/
theorem mergeSort_eq_of_perm {keyed keyed' : List (SortKey × α)} (h : keyed.Perm keyed')
    (hdistinct : (keyed.map Prod.fst).Nodup) :
    (keyed.mergeSort fun a b => a.1.le b.1) = keyed'.mergeSort fun a b => a.1.le b.1 := by
  have hperm : (keyed.mergeSort fun a b => a.1.le b.1).Perm
      (keyed'.mergeSort fun a b => a.1.le b.1) :=
    (List.mergeSort_perm _ _).trans (h.trans (List.mergeSort_perm _ _).symm)
  refine List.Perm.eq_of_pairwise (fun a b ha hb hab hba => ?_) (pairwise_mergeSort keyed)
    (pairwise_mergeSort keyed') hperm
  have ha : a ∈ keyed := List.mem_mergeSort.mp ha
  have hb : b ∈ keyed := h.mem_iff.mpr (List.mem_mergeSort.mp hb)
  exact List.inj_on_of_nodup_map hdistinct ha hb (SortKey.le_antisymm hab hba)

variable (name : α → String)

/-- Sorting only reorders. -/
theorem sortByName_perm (items : List α) : (sortByName name items).Perm items := by
  have hperm := (List.mergeSort_perm (items.map fun item => (sortKey (name item), item))
    fun a b => a.1.le b.1).map Prod.snd
  rwa [List.map_map, show Prod.snd ∘ (fun item => (sortKey (name item), item)) = id from rfl,
    List.map_id] at hperm

/-- Sorted items stand in the order of their names. -/
theorem pairwise_sortByName (items : List α) :
    (sortByName name items).Pairwise fun a b =>
      (sortKey (name a)).le (sortKey (name b)) = true := by
  unfold sortByName
  refine List.pairwise_map.mpr ?_
  refine (pairwise_mergeSort (items.map fun item => (sortKey (name item), item))).imp_of_mem ?_
  intro a b ha hb hle
  -- An item stands beside the key of its name.
  obtain ⟨item, -, rfl⟩ := List.mem_map.mp (List.mem_mergeSort.mp ha)
  obtain ⟨other, -, rfl⟩ := List.mem_map.mp (List.mem_mergeSort.mp hb)
  exact hle

/-- The names of the items have pairwise distinct keys. -/
def DistinctKeys (items : List α) : Prop :=
  (items.map fun item => sortKey (name item)).Nodup

instance (items : List α) : Decidable (DistinctKeys name items) :=
  inferInstanceAs (Decidable (List.Nodup _))

/-- **One sorted order.**  Items whose names have distinct keys are sorted alike, whatever order
they come in. -/
theorem sortByName_eq_of_perm {items items' : List α} (h : items.Perm items')
    (hdistinct : DistinctKeys name items) : sortByName name items = sortByName name items' := by
  have hsorted := mergeSort_eq_of_perm (h.map fun item => (sortKey (name item), item)) ?_
  · unfold sortByName
    exact congrArg (List.map Prod.snd) hsorted
  · rw [List.map_map]
    exact hdistinct

end

end TypeExport.Name

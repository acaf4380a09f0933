import Mathlib.Data.List.Destutter
import Mathlib.Data.List.Sort
import Mathlib.Data.Finset.Card
import Mathlib.Data.Finset.SDiff

namespace Coderd.Foundation

variable {α : Type} [LinearOrder α] {l l' : List α}

/-- In ascending order, each run of equal elements as one: `sort` and then `dedup`. -/
def uniqueSorted (l : List α) : List α :=
  (l.insertionSort (· ≤ ·)).destutter (· ≠ ·)

theorem uniqueSorted_eq_dedup (l : List α) :
    uniqueSorted l = (l.insertionSort (· ≤ ·)).dedup :=
  (List.pairwise_insertionSort (· ≤ ·) l).destutter_eq_dedup

@[simp] theorem mem_uniqueSorted {a : α} : a ∈ uniqueSorted l ↔ a ∈ l := by
  rw [uniqueSorted_eq_dedup, List.mem_dedup, List.mem_insertionSort]

theorem nodup_uniqueSorted (l : List α) : (uniqueSorted l).Nodup := by
  rw [uniqueSorted_eq_dedup]
  exact List.nodup_dedup _

theorem pairwise_uniqueSorted (l : List α) : (uniqueSorted l).Pairwise (· < ·) := by
  have hsorted : (uniqueSorted l).Pairwise (· ≤ ·) :=
    (List.pairwise_insertionSort (· ≤ ·) l).sublist (List.destutter_sublist _ _)
  exact (hsorted.and (nodup_uniqueSorted l)).imp fun h => lt_of_le_of_ne h.1 h.2

/-- A list stands for the set of its elements. -/
theorem uniqueSorted_eq_iff : uniqueSorted l = uniqueSorted l' ↔ ∀ a, a ∈ l ↔ a ∈ l' := by
  constructor
  · intro h a
    rw [← mem_uniqueSorted, h, mem_uniqueSorted]
  · intro h
    refine (pairwise_uniqueSorted l).eq_of_mem_iff (pairwise_uniqueSorted l') fun a => ?_
    rw [mem_uniqueSorted, mem_uniqueSorted, h]

theorem toFinset_uniqueSorted (l : List α) : (uniqueSorted l).toFinset = l.toFinset := by
  ext a
  rw [List.mem_toFinset, List.mem_toFinset, mem_uniqueSorted]

theorem length_filter_notMem (h : l.Nodup) :
    (l.filter fun a => decide (a ∉ l')).length = (l.toFinset \ l'.toFinset).card := by
  rw [← List.toFinset_card_of_nodup (h.filter _)]
  congr 1
  ext a
  simp

end Coderd.Foundation

-- SUMMARY: Rows read in the order of their numbers.
import Mathlib.Data.Finset.Card
import Mathlib.Data.List.Range

/-!
# Numbered rows

A table with numbered rows is a tree map. A reader that takes the first `n` rows
and finds `n` of them has the rows `0` to `n - 1`, provided that no row has a
higher number.
-/

namespace Ordered
open List

open Std (TreeMap)

variable {α : Type} {m : TreeMap Nat α} {n i : Nat}

/-- No row has the number `n` or a higher one. -/
def Below (m : TreeMap Nat α) (n : Nat) : Prop := ∀ k v, m[k]? = some v → k < n

/-- The first `n` rows, in order. -/
def first (m : TreeMap Nat α) (n : Nat) : List α := (m.toList.take n).map Prod.snd

/-- The first `n` rows, when they come in the order of these numbers. -/
def inOrder (m : TreeMap Nat α) (numbers : List Nat) (n : Nat) : List α :=
  (numbers.take n).filterMap (m[·]?)

theorem inOrder_keys : inOrder m m.keys n = first m n := by
  rw [inOrder, first, ← TreeMap.map_fst_toList_eq_keys, ← map_take, filterMap_map, ← filterMap_eq_map]
  refine filterMap_congr fun row hrow => ?_
  exact TreeMap.mem_toList_iff_getElem?_eq_some.mp (mem_of_mem_take hrow)

theorem length_inOrder {numbers : List Nat} (h : numbers.Perm m.keys) :
    (inOrder m numbers n).length = (first m n).length := by
  have hall : ∀ i ∈ numbers.take n, (m[i]?).isSome := fun i hi => by
    rw [← TreeMap.mem_iff_isSome_getElem?, ← TreeMap.mem_keys]
    exact h.mem_iff.mp (mem_of_mem_take hi)
  rw [inOrder, first, filterMap_length_eq_length.mpr hall, length_take, h.length_eq, length_map, length_take,
    TreeMap.length_keys, TreeMap.length_toList]

theorem keys_sorted : m.keys.Pairwise (· < ·) := by simpa [Nat.compare_eq_lt] using m.ordered_keys

/-- A strictly increasing list that has all numbers below `n` starts with them. -/
theorem getElem?_of_sorted {l : List Nat} (hsorted : l.Pairwise (· < ·)) (hall : ∀ k < n, k ∈ l) (hi : i < n) :
    l[i]? = some i := by
  have hle : ∀ j (hj : j < l.length), j ≤ l[j] := by
    intro j
    induction j with
    | zero => exact fun _ => Nat.zero_le _
    | succ j ih =>
      intro hj
      have hlt := pairwise_iff_getElem.mp hsorted j (j + 1) (by omega) hj .refl
      have := ih (by omega)
      omega
  induction i using Nat.strongRecOn with
  | ind i ih =>
    obtain ⟨j, hj, hji⟩ := mem_iff_getElem.mp (hall i hi)
    have hlow := hle j hj
    -- an earlier place has its own number
    have hnot : ¬ j < i := by
      intro hlt
      have hearlier := ih j hlt (by omega)
      rw [getElem?_eq_getElem hj, hji] at hearlier
      exact absurd (Option.some.inj hearlier) (by omega)
    obtain rfl : j = i := by omega
    rw [getElem?_eq_getElem hj, hji]

/-- The reader's rows are the rows of the table by number. -/
theorem getElem?_first (hkeys : ∀ k < n, k ∈ m.keys) (hi : i < n) : (first m n)[i]? = m[i]? := by
  have hkey : (m.toList[i]?).map Prod.fst = some i := by
    rw [← getElem?_map, TreeMap.map_fst_toList_eq_keys]
    exact getElem?_of_sorted keys_sorted hkeys hi
  obtain ⟨⟨k, v⟩, hget, rfl⟩ := Option.map_eq_some_iff.mp hkey
  have hrow : m[k]? = some v := TreeMap.mem_toList_iff_getElem?_eq_some.mp (mem_of_getElem? hget)
  rw [first, getElem?_map, getElem?_take_of_lt hi, hget, hrow]
  rfl

/-- `n` rows below `n` have all the numbers. -/
theorem first_of_full (hbelow : Below m n) (hfull : (first m n).length = n) (hi : i < n) :
    (first m n)[i]? = m[i]? := by
  simp only [first, length_map, length_take, TreeMap.length_toList] at hfull
  have hnodup : m.keys.Nodup := keys_sorted.imp Nat.ne_of_lt
  have hsub : m.keys.toFinset ⊆ Finset.range n := by
    intro k hk
    have hk : k ∈ m := TreeMap.mem_keys.mp (mem_toFinset.mp hk)
    exact Finset.mem_range.mpr (hbelow k m[k] (TreeMap.getElem?_eq_some_getElem hk))
  have hcard : (Finset.range n).card ≤ m.keys.toFinset.card := by
    rw [Finset.card_range, toFinset_card_of_nodup hnodup, TreeMap.length_keys]
    omega
  refine getElem?_first (fun k hk => ?_) hi
  rw [← mem_toFinset, Finset.eq_of_subset_of_card_le hsub hcard]
  exact Finset.mem_range.mpr hk

/-- A reader of the first `n` rows of a table that has the rows `0` to `n - 1` gets these. -/
theorem first_of_all {f : Nat → α} (hall : ∀ k < n, m[k]? = some (f k)) :
    first m n = (range n).map f := by
  apply ext_getElem?
  intro i
  by_cases hi : i < n
  · rw [getElem?_first (fun k hk => ?_) hi, hall i hi, getElem?_map, getElem?_range hi]
    · rfl
    · rw [TreeMap.mem_keys, TreeMap.mem_iff_isSome_getElem?, hall k hk]
      rfl
  · have hshort : (first m n).length ≤ i := by
      simp only [first, length_map, length_take]
      omega
    rw [getElem?_eq_none hshort, getElem?_eq_none (by simpa using hi)]

end Ordered

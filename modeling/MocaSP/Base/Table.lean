-- SUMMARY: Tables as lists of rows under a key.
import Mathlib.Algebra.Order.Ring.Nat
import Mathlib.Algebra.Ring.Int.Defs
import Mathlib.Data.List.Pairwise

/-!
# Tables

A table is a list of rows; a unique key is a pairwise condition on them.
-/

namespace Table
open List

variable {α : Type}

section
variable [DecidableEq α] {zero old new : α}

/-- The value of a column after an update from a record, which leaves out zero values. -/
def written (zero old new : α) : α := if new = zero then old else new

theorem written_eq_iff : written zero old new = new ↔ (new = zero → old = zero) := by
  unfold written
  split <;> simp [*]

@[simp] theorem written_zero : written zero old zero = old := if_pos rfl

@[simp] theorem written_self : written zero old old = old := by simp [written]

end

variable {rows : List α}

/-- Two rows of a table that break its (symmetric) key condition are one row. -/
theorem eq_of_key {R : α → α → Prop} (h : rows.Pairwise R) (hsymm : ∀ a b, R a b → R b a) {a b : α}
    (ha : a ∈ rows) (hb : b ∈ rows) (hab : ¬ R a b) : a = b := by
  have : Std.Symm R := ⟨hsymm⟩
  by_contra hne
  exact hab (h.forall ha hb hne)

/-- The rows matching a condition that only one row can meet. -/
theorem filter_length_le_one {R : α → α → Prop} (h : rows.Pairwise R) {p : α → Bool}
    (hp : ∀ a b, p a = true → p b = true → ¬ R a b) : (rows.filter p).length ≤ 1 := by
  induction rows with
  | nil => simp
  | cons a rows ih =>
    obtain ⟨hhead, htail⟩ := pairwise_cons.mp h
    rw [filter_cons]
    split
    next hpa =>
      have hnone : rows.filter p = [] := by
        rw [filter_eq_nil_iff]
        intro b hb hpb
        exact hp a b hpa hpb (hhead b hb)
      simp [hnone]
    · exact ih htail

variable {f : α → α}

/-- What holds of the rows that an update matches, once updated, and of the others holds of all rows
after it. -/
theorem forall_update {q : α → Prop} [DecidablePred q] {P : α → Prop}
    (hyes : ∀ a ∈ rows, q a → P (f a)) (hno : ∀ a ∈ rows, ¬ q a → P a) :
    ∀ a ∈ rows.map (fun a => if q a then f a else a), P a := by
  intro _ hb
  obtain ⟨a, ha, rfl⟩ := mem_map.mp hb
  split
  next hq => exact hyes a ha hq
  next hq => exact hno a ha hq

/-- An update that keeps the key of a row keeps the keys. -/
theorem map_update {κ : Type} {key : α → κ} {q : α → Prop} [DecidablePred q]
    (hf : ∀ a, key (f a) = key a) :
    (rows.map fun a => if q a then f a else a).map key = rows.map key := by
  rw [map_map]
  refine map_congr_left fun a _ => ?_
  simp only [Function.comp_apply]
  split
  · exact hf a
  · rfl

section
variable {κ : Type} [DecidableEq κ] {key : α → κ} {rows : List α} {a : α}

/-- Under a unique key a row is found by its key. -/
theorem find?_of_mem (hnodup : (rows.map key).Nodup) (ha : a ∈ rows) :
    rows.find? (fun b => key b = key a) = some a := by
  induction rows with
  | nil => cases ha
  | cons b _ ih =>
    rw [map_cons, nodup_cons] at hnodup
    rw [find?_cons]
    rcases mem_cons.mp ha with rfl | hrest
    · simp
    · have hne : key b ≠ key a := fun heq => hnodup.1 (heq ▸ mem_map_of_mem hrest)
      simpa only [hne, decide_false] using ih hnodup.2 hrest

theorem find?_eq_none {k : κ} (hk : k ∉ rows.map key) : rows.find? (fun b => key b = k) = none := by
  rw [List.find?_eq_none]
  intro _ hb heq
  exact hk (of_decide_eq_true heq ▸ mem_map_of_mem hb)

variable {k k' : κ}

/-- A lookup after an update of the rows under one key. -/
theorem find?_update (hf : ∀ a, key (f a) = key a) :
    (rows.map fun a => if key a = k then f a else a).find? (fun a => key a = k') =
      if k' = k then (rows.find? fun a => key a = k').map f else rows.find? fun a => key a = k' := by
  have hkey : ∀ a, key (if key a = k then f a else a) = key a := by
    intro a
    split
    · exact hf a
    · rfl
  rw [find?_map]
  simp only [Function.comp_def, hkey]
  cases hfind : rows.find? fun a => key a = k' with
  | none => simp
  | some a =>
    have ha := find?_some hfind
    have ha : key a = k' := of_decide_eq_true ha
    by_cases h : k' = k
    · simp [ha, h]
    · simp [ha, h]

/-- A lookup after the rows under one key were deleted. -/
theorem find?_erase : (rows.filter fun a => key a ≠ k).find? (fun a => key a = k') =
      if k' = k then none else rows.find? fun a => key a = k' := by
  rw [find?_filter]
  by_cases h : k' = k
  · subst h
    simp
  rw [if_neg h]
  refine congrArg (find? · rows) (funext fun a => ?_)
  by_cases ha : key a = k'
  · simp [ha, h]
  · simp [ha]

/-- A lookup after a row with a new key was added. -/
theorem find?_append_new (hnew : key a ∉ rows.map key) : (rows ++ [a]).find? (fun b => key b = k) =
      if k = key a then some a else rows.find? fun b => key b = k := by
  rw [find?_append]
  by_cases h : k = key a
  · rw [h, find?_eq_none hnew]
    simp
  · simp [h, Ne.symm h]

end

section
variable {κ : Type} [DecidableEq κ] {key : α → κ} {rows : List α} {a : α} {w : α → Int}

/-- One row apart, a sum over rows under a unique key is that over the others. -/
theorem sum_others (hnodup : (rows.map key).Nodup) (ha : a ∈ rows) :
    (rows.map w).sum = w a + ((rows.filter fun b => key b ≠ key a).map w).sum := by
  induction rows with
  | nil => cases ha
  | cons b _ ih =>
    rw [map_cons, nodup_cons] at hnodup
    rw [map_cons, sum_cons]
    rcases mem_cons.mp ha with rfl | hrest
    · rw [filter_cons_of_neg (by simp), filter_eq_self.mpr]
      exact fun b hb => decide_eq_true fun heq => hnodup.1 (heq ▸ mem_map_of_mem hb)
    · have hne : key b ≠ key a := fun heq => hnodup.1 (heq ▸ mem_map_of_mem hrest)
      rw [filter_cons_of_pos (by simp [hne]), ih hnodup.2 hrest, map_cons, sum_cons]
      omega

theorem sum_update (hnodup : (rows.map key).Nodup) (ha : a ∈ rows) :
    ((rows.map fun b => if key b = key a then f b else b).map w).sum =
      (rows.map w).sum - w a + w (f a) := by
  rw [map_map, sum_others hnodup ha, sum_others (w := w) hnodup ha, add_sub_cancel_left, add_comm]
  refine congrArg₂ (List.sum · + ·) (map_congr_left fun b hb => ?_) (congrArg w (if_pos rfl))
  exact congrArg w (if_neg (of_decide_eq_true (mem_filter.mp hb).2))

end
end Table

-- SUMMARY: Texts with separators, their parts and their paths.
import Mathlib.Algebra.Order.Ring.Nat
import Mathlib.Data.List.Basic

/-!
# Paths

A text is split at its separators, and leading parts are joined again to the path of
a directory, which ends in a separator. The path says what the parts are, except that
no part at all and one empty part have the same path, the separator alone.
-/

namespace Paths
open List

variable {α : Type} [DecidableEq α] {sep : α} {ps qs : List (List α)}

/-- No part has a separator in it. -/
def Split (sep : α) (ps : List (List α)) : Prop := ∀ p ∈ ps, sep ∉ p

theorem split_splitOn (text : List α) : Split sep (text.splitOn sep) := by
  by_cases hsep : sep ∈ text
  · obtain ⟨front, rest, rfl, hfront⟩ := eq_append_cons_of_mem hsep
    rw [splitOn_append_cons_self_of_not_mem hfront]
    exact forall_mem_cons.2 ⟨hfront, split_splitOn rest⟩
  · rw [splitOn_eq_singleton hsep]
    exact forall_mem_singleton.2 hsep
termination_by text.length
decreasing_by
  subst text
  simp
  omega

omit [DecidableEq α] in
theorem Split.take (h : Split sep ps) (n : Nat) : Split sep (ps.take n) :=
  fun p hp => h p (mem_of_mem_take hp)

/-- The path of a directory. -/
def dir (sep : α) (ps : List (List α)) : List α := [sep].intercalate ps ++ [sep]

theorem eq_of_dir (hps : Split sep ps) (hqs : Split sep qs) (hp : ps ≠ []) (hq : qs ≠ [])
    (h : dir sep ps = dir sep qs) : ps = qs := by
  have hjoined := append_cancel_right h
  rw [← splitOn_intercalate sep hps hp, hjoined, splitOn_intercalate sep hqs hq]

/-- Only a text that starts with a separator has a directory with the path of none. -/
theorem eq_of_dir_nil (hps : Split sep ps) (hp : ps ≠ []) (h : dir sep ps = dir sep []) :
    ps = [[]] := by
  have hjoined := append_cancel_right h
  rw [← splitOn_intercalate sep hps hp, hjoined]
  rfl

end Paths

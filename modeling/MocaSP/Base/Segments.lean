-- SUMMARY: Data cut into segments of a fixed size.
import Mathlib.Algebra.Order.Ring.Nat
import Mathlib.Data.List.Basic

/-!
# Segments

Data of any length is cut into segments of one size; the last one may be
shorter, and none is empty. The number of the segments then follows from the
length of the data.
-/

namespace Segments
open List

variable {β : Type} {n i : Nat} {d : List β} {segments : List (List β)}

def totalSize (segments : List (List β)) : Nat := (segments.map List.length).sum

/-- Every segment but the last has length `n`, and the last one fits. -/
structure Cut (n : Nat) (segments : List (List β)) : Prop where
  full : ∀ d ∈ segments.dropLast, d.length = n
  fits : ∀ d ∈ segments, 0 < d.length ∧ d.length ≤ n

def AllFull (n : Nat) (segments : List (List β)) : Prop := ∀ d ∈ segments, d.length = n

@[simp] theorem totalSize_nil : totalSize ([] : List (List β)) = 0 := rfl

@[simp] theorem totalSize_cons : totalSize (d :: segments) = d.length + totalSize segments := by
  simp [totalSize]

variable {more : List (List β)}

@[simp] theorem totalSize_append :
    totalSize (segments ++ more) = totalSize segments + totalSize more := by
  simp [totalSize]

theorem cut_nil : Cut n ([] : List (List β)) := ⟨by simp, by simp⟩

theorem Cut.tail (h : Cut n (d :: segments)) : Cut n segments := by
  refine ⟨fun e he => ?_, fun e he => h.fits e (.tail d he)⟩
  cases segments with
  | nil => simp at he
  | cons => exact h.full e (.tail d he)

/-- A full segment in front. -/
theorem Cut.cons (h : Cut n segments) (hn : 0 < n) (hd : d.length = n) : Cut n (d :: segments) := by
  refine ⟨fun e he => ?_, fun e he => ?_⟩
  · cases segments with
    | nil => simp at he
    | cons =>
      rcases mem_cons.mp he with rfl | he
      · exact hd
      · exact h.full e he
  · rcases mem_cons.mp he with rfl | he
    · exact ⟨by omega, by omega⟩
    · exact h.fits e he

theorem AllFull.cut (h : AllFull n segments) (hn : 0 < n) : Cut n segments := by
  refine ⟨fun e he => h e ((dropLast_sublist segments).mem he), fun e he => ?_⟩
  rw [h e he]
  exact ⟨hn, .refl⟩

/-- One segment more after full ones. -/
theorem AllFull.cut_append (h : AllFull n segments) (hn : 0 < n) (hpos : 0 < d.length)
    (hd : d.length ≤ n) : Cut n (segments ++ [d]) := by
  refine ⟨fun e he => h e (by simpa using he), fun e he => ?_⟩
  rcases mem_append.mp he with he | he
  · rw [h e he]
    exact ⟨hn, .refl⟩
  · cases mem_singleton.mp he
    exact ⟨hpos, hd⟩

theorem AllFull.totalSize (h : AllFull n segments) : totalSize segments = segments.length * n := by
  induction segments with
  | nil => simp
  | cons d _ ih =>
    rw [totalSize_cons, h d (by simp), ih fun e he => h e (.tail d he),
      length_cons, Nat.succ_mul, Nat.add_comm]

section
variable (h : Cut n segments)
include h

theorem Cut.totalSize_le : totalSize segments ≤ segments.length * n := by
  induction segments with
  | nil => simp
  | cons d _ ih =>
    have hd := (h.fits d (by simp)).2
    have hrest := ih h.tail
    rw [totalSize_cons, length_cons, Nat.succ_mul]
    omega

/-- Segment `i` begins before the end of the data. -/
theorem Cut.lt_length_iff : i < segments.length ↔ i * n < totalSize segments := by
  induction segments generalizing i with
  | nil => simp
  | cons d rest ih =>
    obtain ⟨hpos, _⟩ := h.fits d (by simp)
    cases i with
    | zero => simpa using Nat.lt_add_right (totalSize rest) hpos
    | succ =>
      rw [length_cons, Nat.add_lt_add_iff_right, ih h.tail, totalSize_cons, Nat.succ_mul]
      cases rest with
      | nil => simp; omega
      | cons =>
        have hd : d.length = n := h.full d (by simp)
        omega

/-- Data of one size is cut into one number of segments. -/
theorem Cut.length_eq {other : List (List β)} (h' : Cut n other)
    (hsize : totalSize segments = totalSize other) : segments.length = other.length := by
  refine eq_of_forall_lt_iff fun _ => ?_
  rw [h.lt_length_iff, h'.lt_length_iff, hsize]

/-- Segments that make up full ones are full. -/
theorem Cut.allFull_of_le (hsize : segments.length * n ≤ totalSize segments) :
    AllFull n segments := by
  induction segments with
  | nil => simp [AllFull]
  | cons d _ ih =>
    have hd := (h.fits d (by simp)).2
    have hrest := h.tail.totalSize_le
    rw [totalSize_cons, length_cons, Nat.succ_mul] at hsize
    intro e he
    rcases mem_cons.mp he with rfl | he
    · omega
    · exact ih h.tail (by omega) e he

/-- The last segment decides. -/
theorem Cut.allFull_of_last (hi : i + 1 = segments.length)
    (hget : segments[i]? = some d) (hd : d.length = n) : AllFull n segments := by
  have hne : segments ≠ [] := fun hnil => by simp [hnil] at hi
  have hlast : segments.getLast hne = d := by
    rw [getLast_eq_getElem]
    obtain ⟨_, heq⟩ := List.getElem?_eq_some_iff.mp hget
    simp only [show segments.length - 1 = i by omega, heq]
  intro e he
  rw [← dropLast_append_getLast hne] at he
  rcases mem_append.mp he with he | he
  · exact h.full e he
  · rw [mem_singleton.mp he, hlast, hd]

end

/-- Full segments in front. -/
theorem AllFull.append_cut (h : AllFull n segments) (hn : 0 < n) (hmore : Cut n more) :
    Cut n (segments ++ more) := by
  induction segments with
  | nil => exact hmore
  | cons d _ ih => exact (ih fun e he => h e (.tail d he)).cons hn (h d (by simp))

/-- The segments before the last. -/
theorem Cut.allFull_take (h : Cut n segments) (hi : i < segments.length) :
    AllFull n (segments.take i) := by
  intro e he
  refine h.full e ?_
  rw [dropLast_eq_take]
  exact (take_sublist_take_left (by omega)).mem he

/-- Data that ends with `more`, after `i` full segments. -/
theorem Cut.length_of_totalSize_add (h : Cut n segments) (hmore : Cut n more) (hne : more ≠ [])
    (hsize : totalSize segments = i * n + totalSize more) : segments.length = i + more.length := by
  refine eq_of_forall_lt_iff fun j => ?_
  rw [h.lt_length_iff, hsize]
  rcases Nat.lt_or_ge j i with _ | hge
  · have hle : j * n ≤ i * n := Nat.mul_le_mul_right n (by omega)
    have hpos : 0 * n < totalSize more := hmore.lt_length_iff.mp (length_pos_of_ne_nil hne)
    exact iff_of_true (by omega) (by omega)
  · obtain ⟨_, rfl⟩ := Nat.exists_eq_add_of_le hge
    rw [Nat.add_mul, Nat.add_lt_add_iff_left, Nat.add_lt_add_iff_left, hmore.lt_length_iff]

/-- The number of segments before position `i * n`. -/
theorem Cut.length_of_totalSize (h : Cut n segments) (hn : 0 < n) (hsize : totalSize segments = i * n) :
    segments.length = i := by
  refine eq_of_forall_lt_iff fun _ => ?_
  rw [h.lt_length_iff, hsize, Nat.mul_lt_mul_right hn]

end Segments

-- SUMMARY: Append-only histories, newest first.
import Mathlib.Algebra.Order.Ring.Nat
import Mathlib.Data.List.Basic

/-!
# Histories

A history is a list of events, the newest first.
-/

namespace History

variable {ε α : Type} {P : ε → List ε → Prop}

/-- Every event satisfies `P` with the events before it. -/
def Each (P : ε → List ε → Prop) : List ε → Prop
  | [] => True
  | x :: before => P x before ∧ Each P before

instance decidableEach [∀ x before, Decidable (P x before)] : (events : List ε) →
    Decidable (Each P events)
  | [] => .isTrue trivial
  | x :: before =>
    haveI := decidableEach before
    inferInstanceAs (Decidable (P x before ∧ Each P before))

/-- What the last event that `f` reads says. -/
def last (f : ε → Option α) (events : List ε) : Option α := events.findSome? f

variable {f : ε → Option α} {events new : List ε}

/-- Events of which `P` asks nothing. -/
theorem Each.append (h : Each P events) (hnew : ∀ x ∈ new, ∀ before, P x before) :
    Each P (new ++ events) := by
  induction new with
  | nil => exact h
  | cons x _ ih => exact ⟨hnew x (by simp) _, ih fun y hy => hnew y (.tail x hy)⟩

theorem last_cons_some {x : ε} {a : α} (h : f x = some a) : last f (x :: events) = some a := by
  simp [last, h]

theorem last_cons_none {x : ε} (h : f x = none) : last f (x :: events) = last f events := by
  simp [last, h]

/-- Events that `f` does not read. -/
theorem last_append (hnew : ∀ x ∈ new, f x = none) : last f (new ++ events) = last f events := by
  rw [last, List.findSome?_append, List.findSome?_eq_none_iff.mpr hnew]
  rfl

end History

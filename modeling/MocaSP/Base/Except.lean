-- SUMMARY: Checks and steps of a fallible computation, inverted.
import Mathlib.Algebra.Order.Ring.Nat
import Mathlib.Data.List.Forall2

/-!
# Fallible computations

A transaction body or a verification is a chain of checks and steps in
`Except`. The lemmas here take a successful chain apart: every check passed, and
every step returned a value.
-/

namespace Except

variable {ε α β : Type}

/-- Fail with `e` when `c` holds. -/
def failIf (c : Prop) [Decidable c] (e : ε) : Except ε Unit := if c then .error e else .ok ()

/-- The value of `o`, or fail with `e`. -/
def orFail (o : Option α) (e : ε) : Except ε α :=
  match o with
  | some a => .ok a
  | none => .error e

variable {e : ε}

@[simp] theorem failIf_eq_ok {c : Prop} [Decidable c] {u : Unit} : failIf c e = .ok u ↔ ¬ c := by
  unfold failIf
  split
  · simp [*]
  · simp [*]

@[simp] theorem orFail_eq_ok {o : Option α} {a : α} : orFail o e = .ok a ↔ o = some a := by
  cases o <;> simp [orFail]

variable {x : Except ε α} {f : α → Except ε β}

theorem bind_eq_ok {b : β} : (x >>= f) = .ok b ↔ ∃ a, x = .ok a ∧ f a = .ok b := by
  cases x <;> simp [bind, Except.bind]

theorem bind_eq_error : (x >>= f) = .error e ↔ x = .error e ∨ ∃ a, x = .ok a ∧ f a = .error e := by
  cases x <;> simp [bind, Except.bind]

@[simp] theorem failIf_eq_error {c : Prop} [Decidable c] {e' : ε} :
    failIf c e = .error e' ↔ c ∧ e = e' := by
  unfold failIf
  split
  · simp [*]
  · simp [*]

@[simp] theorem orFail_eq_error {o : Option α} {e' : ε} :
    orFail o e = .error e' ↔ o = none ∧ e = e' := by
  cases o <;> simp [orFail]

@[simp] theorem mapError_eq_ok {ε' : Type} {f : ε → ε'} {a : α} :
    x.mapError f = .ok a ↔ x = .ok a := by
  cases x <;> simp [Except.mapError]

theorem pure_eq_ok {a b : α} : (pure a : Except ε α) = .ok b ↔ a = b := by simp [pure, Except.pure]

/-- The results of a loop that succeeds, element by element. -/
theorem mapM_eq_ok_iff {as : List α} {bs : List β} : as.mapM f = .ok bs ↔ as.map f = bs.map .ok := by
  induction as generalizing bs with
  | nil => cases bs <;> simp [pure_eq_ok]
  | cons _ _ ih => cases bs <;> simp [-bind_pure_comp, bind_eq_ok, pure_eq_ok, ih]

end Except

theorem List.mapM_eq_some_iff {α β : Type} {f : α → Option β} {as : List α} {bs : List β} :
    as.mapM f = some bs ↔ as.map f = bs.map some := by
  induction as generalizing bs with
  | nil => cases bs <;> simp
  | cons _ _ ih => cases bs <;> simp [Option.bind_eq_some_iff, ih]

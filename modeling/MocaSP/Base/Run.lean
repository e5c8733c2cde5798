-- SUMMARY: Runs of a step function, and the induction over them.
import Mathlib.Algebra.Order.Ring.Nat
import Mathlib.Data.List.Induction

/-!
# Runs

A system that takes one atomic step after another is a partial step function: an
action that cannot be taken in a state has no result. `Run` is what is reached
when every step also meets a condition on the state it starts from.
-/

inductive Run {σ α : Type} (step : σ → α → Option σ) (Cond : σ → α → Prop) (s₀ : σ) : σ → Prop where
  | start : Run step Cond s₀ s₀
  | step {s s' : σ} {a : α} (h : Run step Cond s₀ s) (meets : Cond s a) (taken : step s a = some s') :
      Run step Cond s₀ s'

namespace Run

variable {σ α : Type} {step : σ → α → Option σ} {Cond : σ → α → Prop} {s₀ s s' : σ}

/-- The rule for invariants. -/
theorem invariant {Inv : σ → Prop} (h : Run step Cond s₀ s) (hstart : Inv s₀)
    (hstep : ∀ s a s', Inv s → Cond s a → step s a = some s' → Inv s') : Inv s := by
  induction h with
  | start => exact hstart
  | step _ hmeets hstep' ih => exact hstep _ _ _ ih hmeets hstep'

variable (step Cond) [∀ s a, Decidable (Cond s a)]

/-- The state after the actions, if each can be taken and meets `Cond`. -/
def exec : List α → σ → Option σ
  | [], s => some s
  | a :: as, s => if Cond s a then (step s a).bind (exec as) else none

variable {step Cond}

theorem of_exec {as : List α} (h : Run step Cond s₀ s) (hexec : exec step Cond as s = some s') :
    Run step Cond s₀ s' := by
  induction as generalizing s with
  | nil =>
    cases hexec
    exact h
  | cons _ _ ih =>
    rw [exec] at hexec
    split at hexec
    next hmeets =>
      obtain ⟨_, hstep, hrest⟩ := Option.bind_eq_some_iff.mp hexec
      exact ih (.step h hmeets hstep) hrest
    · cases hexec

/-- Actions that lead to a state with a property. -/
theorem exists_of_exec {P : σ → Prop} [DecidablePred P] (as : List α)
    (h : (exec step Cond as s₀).any (P ·) = true) : ∃ s, Run step Cond s₀ s ∧ P s := by
  obtain ⟨s, hexec, hP⟩ := (Option.any_eq_true _ _).mp h
  exact ⟨s, of_exec .start hexec, of_decide_eq_true hP⟩

end Run

/-- If, where the property holds, a step keeps it just when it meets the condition, then it holds all
along a list of steps just when it holds at the start and every step meets the condition. -/
theorem List.foldl_always_iff {σ α : Type} {f : σ → α → σ} {P : σ → Prop} {C : σ → α → Prop}
    (h : ∀ s a, P s → (P (f s a) ↔ C s a)) {as : List α} {s : σ} :
    (∀ pre, pre <+: as → P (pre.foldl f s)) ↔
      P s ∧ ∀ pre a, pre ++ [a] <+: as → C (pre.foldl f s) a := by
  constructor
  · intro hall
    refine ⟨hall [] (List.nil_prefix), ?_⟩
    intro pre a hpre
    have hbefore := hall pre ((List.prefix_append pre [a]).trans hpre)
    have hafter := hall (pre ++ [a]) hpre
    rw [List.foldl_append] at hafter
    exact (h _ a hbefore).mp hafter
  · rintro ⟨hstart, hmeets⟩ pre
    -- the prefix grows at its end
    induction pre using List.reverseRecOn with
    | nil => exact fun _ => hstart
    | append_singleton pre a ih =>
      intro hpre
      rw [List.foldl_append]
      exact (h _ a (ih ((List.prefix_append pre [a]).trans hpre))).mpr (hmeets pre a hpre)

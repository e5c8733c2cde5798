-- SUMMARY: Calculations on 64-bit words as programs.
import MocaSP.Base.Prog

/-!
# Calculations on machine words

A calculation is a program whose calls are additions and subtractions of 64-bit
words. `eval` is what the machine computes. `Exact` says that no operation on the
way wraps around, so that every intermediate value is the integer it stands for.
-/

inductive WordOp : Type → Type where
  | add (a b : UInt64) : WordOp UInt64
  | sub (a b : UInt64) : WordOp UInt64

namespace WordOp

/-- The machine's answer, modulo `2 ^ 64`. -/
def value {β : Type} : WordOp β → β
  | .add a b => a + b
  | .sub a b => a - b

/-- The answer is the sum or the difference of the integers. -/
def Fits {β : Type} : WordOp β → Prop
  | .add a b => a.toNat + b.toNat < 2 ^ 64
  | .sub a b => b ≤ a

end WordOp

/-- Calculations. -/
abbrev Calc := Prog WordOp

namespace Calc

variable {α β : Type}

def add (a b : UInt64) : Calc UInt64 := Prog.do_ (.add a b)

def sub (a b : UInt64) : Calc UInt64 := Prog.do_ (.sub a b)

def eval : Calc α → α
  | .ret a => a
  | .call e next => eval (next e.value)

/-- No operation wraps around. -/
def Exact : Calc α → Prop
  | .ret _ => True
  | .call e next => e.Fits ∧ Exact (next e.value)

/-- The calculation is exact and its value is in `Q`. -/
structure Computes (p : Calc α) (Q : α → Prop) : Prop where
  exact : Exact p
  value : Q (eval p)

variable {Q Q' : α → Prop}

protected theorem Computes.pure {a : α} (h : Q a) : Computes (pure a) Q := ⟨trivial, h⟩

theorem Computes.mono {p : Calc α} (h : Computes p Q) (hQ : ∀ a, Q a → Q' a) : Computes p Q' :=
  ⟨h.exact, hQ _ h.value⟩

theorem eval_bind (p : Calc α) (f : α → Calc β) : eval (p >>= f) = eval (f (eval p)) := by
  induction p with
  | ret => rfl
  | call e _ ih => exact ih e.value

/-- Sequencing. -/
theorem Computes.bind {p : Calc α} {f : α → Calc β} {R : β → Prop} (h : Computes p Q)
    (hf : ∀ a, Q a → Computes (f a) R) : Computes (p >>= f) R := by
  induction p with
  | ret a => exact hf a h.value
  | call e _ ih =>
    have hrest := ih e.value ⟨h.exact.2, h.value⟩
    exact ⟨⟨h.exact.1, hrest.exact⟩, hrest.value⟩

/-- A sum that fits is known by its integer. -/
theorem computes_add {a b : UInt64} (hfits : a.toNat + b.toNat < 2 ^ 64) :
    Computes (add a b) fun c => c.toNat = a.toNat + b.toNat := by
  refine ⟨⟨hfits, trivial⟩, ?_⟩
  show (a + b).toNat = _
  rw [UInt64.toNat_add, Nat.mod_eq_of_lt hfits]

/-- A difference that fits is known by its integer. -/
theorem computes_sub {a b : UInt64} (hfits : b.toNat ≤ a.toNat) :
    Computes (sub a b) fun c => c.toNat + b.toNat = a.toNat := by
  have hle := UInt64.le_iff_toNat_le.mpr hfits
  refine ⟨⟨hle, trivial⟩, ?_⟩
  show (a - b).toNat + _ = _
  rw [UInt64.toNat_sub_of_le _ _ hle]
  exact Nat.sub_add_cancel hfits

variable {a b : UInt64} {p p' : Calc α}

theorem computes_le [Decidable (a ≤ b)] (hle : a.toNat ≤ b.toNat → Computes p Q)
    (hlt : b.toNat < a.toNat → Computes p' Q) : Computes (if a ≤ b then p else p') Q := by
  split
  next h => exact hle (UInt64.le_iff_toNat_le.mp h)
  next h => exact hlt (UInt64.lt_iff_toNat_lt.mp (UInt64.not_le.mp h))

theorem computes_lt [Decidable (a < b)] (hlt : a.toNat < b.toNat → Computes p Q)
    (hle : b.toNat ≤ a.toNat → Computes p' Q) : Computes (if a < b then p else p') Q := by
  split
  next h => exact hlt (UInt64.lt_iff_toNat_lt.mp h)
  next h => exact hle (UInt64.le_iff_toNat_le.mp (UInt64.not_lt.mp h))

end Calc

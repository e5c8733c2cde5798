-- SUMMARY: Programs as trees of calls, and disciplines of what they may call.
import Mathlib.Algebra.Order.Ring.Nat

/-!
# Programs over calls

A program is the tree of the calls it makes: `ret` ends it, `call` makes one
call and continues with the answer. Sequential code is written in the monad;
what a call does is left to a machine that runs it.

Under fixed answers a program has a result, `eval`, and a trace, `observe`. On a
state it has a weakest precondition, `wp`.

A *discipline* says when a program may make a call, in terms of what it knows,
and what an answer teaches it. That a program follows a discipline is proved on
the program alone, for all answers; what the knowledge means about the state of
a running system is a separate matter.
-/

universe u

inductive Prog (E : Type → Type u) (α : Type) : Type (max 1 u) where
  | ret (a : α)
  | call {β : Type} (e : E β) (next : β → Prog E α)

namespace Prog

variable {E : Type → Type u} {α β : Type}

protected def bind : Prog E α → (α → Prog E β) → Prog E β
  | .ret a, f => f a
  | .call e next, f => .call e fun r => (next r).bind f

instance : Monad (Prog E) where
  pure := .ret
  bind := Prog.bind

/-- Make one call. -/
def do_ (e : E β) : Prog E β := .call e .ret

@[simp] theorem ret_bind (a : α) (f : α → Prog E β) : (Prog.ret a >>= f) = f a := rfl

@[simp] theorem pure_bind (a : α) (f : α → Prog E β) : ((pure a : Prog E α) >>= f) = f a := rfl

section
variable {ω : Type} (answer : {β : Type} → E β → β) (see : {β : Type} → E β → List ω)

/-- The result when every call is answered by `answer`. -/
def eval : Prog E α → α
  | .ret a => a
  | .call e next => eval (next (answer e))

/-- What is seen of the calls on the way. -/
def observe : Prog E α → List ω
  | .ret _ => []
  | .call e next => see e ++ observe (next (answer e))

@[simp] theorem eval_pure (a : α) : eval answer (pure a) = a := rfl

@[simp] theorem eval_do (e : E β) : eval answer (do_ e) = answer e := rfl

@[simp] theorem eval_bind (p : Prog E α) (f : α → Prog E β) :
    eval answer (p >>= f) = eval answer (f (eval answer p)) := by
  induction p with
  | ret => rfl
  | call e _ ih => exact ih (answer e)

@[simp] theorem observe_pure (a : α) : observe answer see (pure a) = [] := rfl

@[simp] theorem observe_do (e : E β) : observe answer see (do_ e) = see e := by simp [do_, observe]

@[simp] theorem observe_bind (p : Prog E α) (f : α → Prog E β) : observe answer see (p >>= f) =
      observe answer see p ++ observe answer see (f (eval answer p)) := by
  induction p with
  | ret => rfl
  | call e next ih =>
    show see e ++ observe answer see (next (answer e) >>= f) = _
    rw [ih (answer e), ← List.append_assoc]
    rfl

end

section
variable {σ : Type} (step : {β : Type} → E β → σ → Option (β × σ)) {Q Q' : α → σ → Prop} {s : σ}

/-- Total correctness: from `s` every call has an answer, and the program ends with
a result and a state in `Q`. -/
def wp : Prog E α → σ → (α → σ → Prop) → Prop
  | .ret a, s, Q => Q a s
  | .call e next, s, Q => ∃ r s', step e s = some (r, s') ∧ wp (next r) s' Q

variable {step}

protected theorem wp.pure {a : α} (h : Q a s) : wp step (pure a) s Q := h

protected theorem wp.do_bind {e : E β} {f : β → Prog E α} {r : β} {s' : σ} (hstep : step e s = some (r, s'))
    (h : wp step (f r) s' Q) : wp step (do_ e >>= f) s Q := ⟨r, s', hstep, h⟩

theorem wp.mono {p : Prog E α} (h : wp step p s Q) (hQ : ∀ a s', Q a s' → Q' a s') :
    wp step p s Q' := by
  induction p generalizing s with
  | ret a => exact hQ a s h
  | call _ _ ih =>
    obtain ⟨r, s', hstep, h⟩ := h
    exact ⟨r, s', hstep, ih r h⟩

theorem wp.bind {p : Prog E α} {f : α → Prog E β} {R : β → σ → Prop} (h : wp step p s Q)
    (hf : ∀ a s', Q a s' → wp step (f a) s' R) : wp step (p >>= f) s R := by
  induction p generalizing s with
  | ret a => exact hf a s h
  | call _ _ ih =>
    obtain ⟨r, s', hstep, h⟩ := h
    exact ⟨r, s', hstep, ih r h⟩

end

end Prog

/-- What a program must know to make a call, which answers it has to expect,
and what it knows after one. -/
structure Discipline (E : Type → Type u) (κ : Type) where
  allowed : {β : Type} → κ → E β → Prop
  answers : {β : Type} → κ → E β → β → Prop
  learn : {β : Type} → κ → E β → β → κ

namespace Discipline

variable {E : Type → Type u} {κ : Type} (D : Discipline E κ) {α β : Type}

/-- From knowledge `k` the program only makes calls that are allowed, and ends
with a result and knowledge in `Q`. -/
def Follows : Prog E α → κ → (α → κ → Prop) → Prop
  | .ret a, k, Q => Q a k
  | .call e next, k, Q => D.allowed k e ∧ ∀ r, D.answers k e r → Follows (next r) (D.learn k e r) Q

variable {D} {Q Q' : α → κ → Prop} {k : κ}

protected theorem Follows.pure {a : α} (h : Q a k) : D.Follows (pure a) k Q := h

protected theorem Follows.do_ {e : E β} {Q : β → κ → Prop} (hallowed : D.allowed k e)
    (hnext : ∀ r, D.answers k e r → Q r (D.learn k e r)) : D.Follows (Prog.do_ e) k Q :=
  ⟨hallowed, hnext⟩

theorem Follows.mono {p : Prog E α} (h : D.Follows p k Q) (hQ : ∀ a k, Q a k → Q' a k) :
    D.Follows p k Q' := by
  induction p generalizing k with
  | ret a => exact hQ a k h
  | call _ _ ih => exact ⟨h.1, fun r hr => ih r (h.2 r hr)⟩

/-- Sequencing: the second program starts from what the first one taught. -/
theorem Follows.bind {p : Prog E α} {f : α → Prog E β} {R : β → κ → Prop} {Q : α → κ → Prop}
    (h : D.Follows p k Q) (hf : ∀ a k, Q a k → D.Follows (f a) k R) : D.Follows (p >>= f) k R := by
  induction p generalizing k with
  | ret a => exact hf a k h
  | call _ _ ih => exact ⟨h.1, fun r hr => ih r (h.2 r hr)⟩

/-- One call in front of a program. -/
protected theorem Follows.do_bind {e : E β} {f : β → Prog E α} (hallowed : D.allowed k e)
    (hnext : ∀ r, D.answers k e r → D.Follows (f r) (D.learn k e r) Q) :
    D.Follows (Prog.do_ e >>= f) k Q :=
  ⟨hallowed, hnext⟩

end Discipline

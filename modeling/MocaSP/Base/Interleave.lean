-- SUMMARY: Threads that run programs on a shared state, and invariants of every run.
import MocaSP.Base.Prog

/-!
# Interleaved programs

A machine runs any number of threads. Each thread executes a program, one call
at a time, on a shared state; an oracle settles what a call leaves open (a
fault, an answer from outside). Between calls other threads run, the environment
acts, and threads may be killed.

`Sound` is the proof rule. When every program follows its thread's discipline,
it remains to show, call by call, that the state's invariant is kept, that what
an answer teaches is true, and that what other threads know stays true.
-/

universe u

structure Machine (E : Type → Type u) (τ σ O J V : Type) where
  exec : {β : Type} → τ → E β → O → σ → Option (β × σ)
  /-- The program a thread runs for a job. -/
  body : τ → J → Prog E Unit
  /-- The state when a thread starts a job, if it may. -/
  start : τ → J → σ → Option σ
  env : V → σ → Option σ

namespace Machine
open Option

variable {E : Type → Type u} {τ σ O J V : Type} [DecidableEq τ]

/-- The state and the live threads. -/
structure Config (E : Type → Type u) (τ σ : Type) where
  state : σ
  threads : τ → Option (Prog E Unit)

inductive Action (τ O J V : Type) where
  | start (t : τ) (j : J)
  | step (t : τ) (o : O)
  | env (v : V)
  | kill (dead : τ → Bool)

def setThread (threads : τ → Option (Prog E Unit)) (t : τ) (p : Option (Prog E Unit)) :
    τ → Option (Prog E Unit) :=
  fun u => if u = t then p else threads u

variable (M : Machine E τ σ O J V)

def act : Action τ O J V → Config E τ σ → Option (Config E τ σ)
  | .start t j, c =>
    match c.threads t, M.start t j c.state with
    | none, some s => some ⟨s, setThread c.threads t (some (M.body t j))⟩
    | _, _ => none
  | .step t o, c =>
    match c.threads t with
    | none => none
    | some (.ret _) => some ⟨c.state, setThread c.threads t none⟩
    | some (.call e next) =>
      match M.exec t e o c.state with
      | none => none
      | some (r, s) => some ⟨s, setThread c.threads t (some (next r))⟩
  | .env v, c => (M.env v c.state).map fun s => ⟨s, c.threads⟩
  | .kill dead, c => some ⟨c.state, fun t => if dead t then none else c.threads t⟩

variable {M} in
/-- A step ends a thread that has returned, or makes the next call of the thread. -/
theorem act_step {t : τ} {o : O} {c c' : Config E τ σ} (h : M.act (.step t o) c = some c') :
    c' = ⟨c.state, setThread c.threads t none⟩ ∨
      ∃ (β : Type) (e : E β) (next : β → Prog E Unit) (r : β) (s : σ),
        c.threads t = some (.call e next) ∧ M.exec t e o c.state = some (r, s) ∧
          c' = ⟨s, setThread c.threads t (some (next r))⟩ := by
  simp only [act] at h
  split at h
  · cases h
  · cases h
    exact .inl rfl
  rename_i β e next hthread
  split at h
  · cases h
  next r s hexec =>
    cases h
    exact .inr ⟨β, e, next, r, s, hthread, hexec, rfl⟩

/-- The condition that every step meets. -/
def always (β : Type) (_ : τ) (_ : E β) (_ : σ) : Prop := True

instance {β : Type} {t : τ} {e : E β} {s : σ} : Decidable (always β t e s) := .isTrue trivial

/-- The call of the step, if the action is one, meets the condition. -/
def Meets (Cond : ∀ β : Type, τ → E β → σ → Prop) : Action τ O J V → Config E τ σ → Prop
  | .step t _, c => ∀ (β : Type) (e : E β) (next : β → Prog E Unit),
      c.threads t = some (.call e next) → Cond β t e c.state
  | _, _ => True

/-- The configurations reached from `s₀` by steps that all meet `Cond`. -/
inductive Reach (Cond : ∀ β : Type, τ → E β → σ → Prop) (s₀ : σ) : Config E τ σ → Prop where
  | init : Reach Cond s₀ ⟨s₀, fun _ => none⟩
  | act {c c' : Config E τ σ} {a : Action τ O J V} (h : Reach Cond s₀ c) (meets : Meets Cond a c)
      (act : M.act a c = some c') : Reach Cond s₀ c'

section
variable (Cond : ∀ β : Type, τ → E β → σ → Prop) [∀ β t e s, Decidable (Cond β t e s)]

/-- `Meets`, checked. -/
def meets : Action τ O J V → Config E τ σ → Bool
  | .step t _, c =>
    match c.threads t with
    | some (.call e _) => decide (Cond _ t e c.state)
    | _ => true
  | _, _ => true

/-- The configuration after the actions, if each can be taken and meets `Cond`. -/
def run : List (Action τ O J V) → Config E τ σ → Option (Config E τ σ)
  | [], c => some c
  | a :: as, c => if meets Cond a c then (M.act a c).bind (run as) else none

variable {Cond}

omit [DecidableEq τ] in
theorem meets_of_check {a : Action τ O J V} {c : Config E τ σ} (h : meets Cond a c = true) :
    Meets Cond a c := by
  cases a with
  | step =>
    intro _ _ _ ht
    simp only [meets, ht, decide_eq_true_eq] at h
    exact h
  | start => trivial
  | env => trivial
  | kill => trivial

variable {M}

theorem Reach.run {s₀ : σ} {c c' : Config E τ σ} (h : M.Reach Cond s₀ c)
    {as : List (Action τ O J V)} (hrun : M.run Cond as c = some c') : M.Reach Cond s₀ c' := by
  induction as generalizing c with
  | nil =>
    cases hrun
    exact h
  | cons _ _ ih =>
    simp only [Machine.run] at hrun
    split at hrun
    next hmeets =>
      obtain ⟨_, hact, hrest⟩ := bind_eq_some_iff.mp hrun
      exact ih (.act h (meets_of_check hmeets) hact) hrest
    · cases hrun

/-- Actions that lead to a configuration with a property. -/
theorem Reach.exists_of_run {s₀ : σ} {P : Config E τ σ → Prop} [DecidablePred P]
    (as : List (Action τ O J V)) (h : (M.run Cond as ⟨s₀, fun _ => none⟩).any (P ·) = true) :
    ∃ c, M.Reach Cond s₀ c ∧ P c := by
  obtain ⟨c, hrun, hP⟩ := (any_eq_true _ _).mp h
  exact ⟨c, .run .init hrun, of_decide_eq_true hP⟩

theorem Reach.exists_act {s₀ : σ} {P : Config E τ σ → Config E τ σ → Prop} [DecidableRel P]
    (as : List (Action τ O J V)) (a : Action τ O J V)
    (h : ((M.run Cond as ⟨s₀, fun _ => none⟩).any fun c => (M.act a c).any (P c ·)) = true) :
    ∃ c c', M.Reach Cond s₀ c ∧ M.act a c = some c' ∧ P c c' := by
  obtain ⟨c, hrun, hc⟩ := (any_eq_true _ _).mp h
  obtain ⟨c', hact, hP⟩ := (any_eq_true _ _).mp hc
  exact ⟨c, c', .run .init hrun, hact, of_decide_eq_true hP⟩

end

variable {M}

/-- The obligations, one call at a time, under which `Inv` holds in every
configuration reached by steps that meet `Cond`. `Rel t k s` is what the
knowledge `k` of thread `t` means in state `s`. -/
structure Sound (M : Machine E τ σ O J V) {κ : Type} (D : τ → Discipline E κ) (know : τ → J → κ)
    (Cond : ∀ β : Type, τ → E β → σ → Prop) (Inv : σ → Prop) (Rel : τ → κ → σ → Prop) : Prop where
  body : ∀ t j s s', M.start t j s = some s' → (D t).Follows (M.body t j) (know t j) fun _ _ => True
  start : ∀ t j s s', Inv s → M.start t j s = some s' →
    Inv s' ∧ Rel t (know t j) s' ∧ ∀ u k, u ≠ t → Rel u k s → Rel u k s'
  step : ∀ {β : Type} (t : τ) (k : κ) (e : E β) (o : O) (s s' : σ) (r : β), Inv s → Rel t k s →
    (D t).allowed k e → Cond β t e s → M.exec t e o s = some (r, s') →
    Inv s' ∧ (D t).answers k e r ∧ Rel t ((D t).learn k e r) s' ∧
      ∀ u k', u ≠ t → Rel u k' s → Rel u k' s'
  env : ∀ v s s', Inv s → M.env v s = some s' → Inv s' ∧ ∀ u k, Rel u k s → Rel u k s'

/-- Every live thread follows its discipline from knowledge that is true. -/
def Disciplined {κ : Type} (D : τ → Discipline E κ) (Rel : τ → κ → σ → Prop) (c : Config E τ σ) :
    Prop :=
  ∀ t p, c.threads t = some p → ∃ k, (D t).Follows p k (fun _ _ => True) ∧ Rel t k c.state

variable {κ : Type} {D : τ → Discipline E κ} {know : τ → J → κ} {Cond : ∀ β : Type, τ → E β → σ → Prop}
  {Inv Inv' : σ → Prop} {Rel Rel' : τ → κ → σ → Prop} {c c' : Config E τ σ}

theorem Disciplined.setThread (h : Disciplined D Rel c) {s : σ} {t : τ} {p : Option (Prog E Unit)}
    (hothers : ∀ u k, u ≠ t → Rel u k c.state → Rel u k s)
    (hself : ∀ q, p = some q → ∃ k, (D t).Follows q k (fun _ _ => True) ∧ Rel t k s) :
    Disciplined D Rel ⟨s, Machine.setThread c.threads t p⟩ := by
  intro u q hu
  simp only [Machine.setThread] at hu
  split at hu
  next hut =>
    subst hut
    exact hself q hu
  next hut =>
    obtain ⟨k, hf, hrel⟩ := h u q hu
    exact ⟨k, hf, hothers u k hut hrel⟩

theorem Sound.act (hs : Sound M D know Cond Inv Rel) {a : Action τ O J V} (hinv : Inv c.state)
    (hthreads : Disciplined D Rel c) (hmeets : Meets Cond a c)
    (hact : M.act a c = some c') : Inv c'.state ∧ Disciplined D Rel c' := by
  cases a with
  | start t j =>
    simp only [Machine.act] at hact
    split at hact
    next s _ hstart =>
      cases hact
      obtain ⟨hinv', hrel, hothers⟩ := hs.start t j c.state s hinv hstart
      refine ⟨hinv', hthreads.setThread hothers ?_⟩
      rintro _ ⟨⟩
      exact ⟨know t j, hs.body t j c.state s hstart, hrel⟩
    · cases hact
  | step t o =>
    obtain rfl | ⟨β, e, next, r, s, hthread, hexec, rfl⟩ := act_step hact
    · exact ⟨hinv, hthreads.setThread (fun _ _ _ h => h) (by rintro q ⟨⟩)⟩
    obtain ⟨k, hf, hrel⟩ := hthreads t _ hthread
    obtain ⟨hinv', hans, hrel', hothers⟩ :=
      hs.step t k e o c.state s r hinv hrel hf.1 (hmeets β e next hthread) hexec
    refine ⟨hinv', hthreads.setThread hothers ?_⟩
    rintro _ ⟨⟩
    exact ⟨_, hf.2 r hans, hrel'⟩
  | env v =>
    simp only [Machine.act, map_eq_some_iff] at hact
    obtain ⟨s, henv, rfl⟩ := hact
    obtain ⟨hinv', hrel⟩ := hs.env v c.state s hinv henv
    refine ⟨hinv', ?_⟩
    intro t p ht
    obtain ⟨k, hf, hk⟩ := hthreads t p ht
    exact ⟨k, hf, hrel t k hk⟩
  | kill =>
    cases hact
    refine ⟨hinv, ?_⟩
    intro t p ht
    simp only at ht
    split at ht
    · cases ht
    · exact hthreads t p ht

/-- **Soundness.** The invariant holds in every configuration reached. -/
theorem Sound.reach (hs : Sound M D know Cond Inv Rel) {s₀ : σ} (h₀ : Inv s₀) (h : M.Reach Cond s₀ c) :
    Inv c.state ∧ Disciplined D Rel c := by
  induction h with
  | init => exact ⟨h₀, nofun⟩
  | act _ hmeets hact ih => exact hs.act ih.1 ih.2 hmeets hact

/-- What a second invariant and meaning must show on top of sound ones, which
they may use before and after every step. -/
structure Extends (M : Machine E τ σ O J V) {κ : Type} (D : τ → Discipline E κ) (know : τ → J → κ)
    (Inv : σ → Prop) (Rel : τ → κ → σ → Prop) (Cond : ∀ β : Type, τ → E β → σ → Prop)
    (Inv' : σ → Prop) (Rel' : τ → κ → σ → Prop) : Prop where
  start : ∀ t j s s', Inv s → Inv' s → M.start t j s = some s' → Rel t (know t j) s' →
    Inv' s' ∧ Rel' t (know t j) s' ∧ ∀ u k, u ≠ t → Rel' u k s → Rel' u k s'
  step : ∀ {β : Type} (t : τ) (k : κ) (e : E β) (o : O) (s s' : σ) (r : β), Inv s → Inv' s →
    Rel t k s → Rel' t k s → (D t).allowed k e → Cond β t e s → M.exec t e o s = some (r, s') →
    Inv s' → Rel t ((D t).learn k e r) s' →
    Inv' s' ∧ Rel' t ((D t).learn k e r) s' ∧
      ∀ u k', u ≠ t → Rel u k' s → Rel' u k' s → Rel' u k' s'
  env : ∀ v s s', Inv s → Inv' s → M.env v s = some s' → Inv' s' ∧ ∀ u k, Rel' u k s → Rel' u k s'

omit [DecidableEq τ] in
theorem Sound.extend (hs : Sound M D know always Inv Rel)
    (hx : Extends M D know Inv Rel Cond Inv' Rel') :
    Sound M D know Cond (fun s => Inv s ∧ Inv' s) (fun t k s => Rel t k s ∧ Rel' t k s) where
  body := hs.body
  start := by
    intro t j s s' hinv hstart
    obtain ⟨hinv₁, hrel₁, hothers₁⟩ := hs.start t j s s' hinv.1 hstart
    obtain ⟨hinv₂, hrel₂, hothers₂⟩ := hx.start t j s s' hinv.1 hinv.2 hstart hrel₁
    exact ⟨⟨hinv₁, hinv₂⟩, ⟨hrel₁, hrel₂⟩, fun u k hne h => ⟨hothers₁ u k hne h.1, hothers₂ u k hne h.2⟩⟩
  step := by
    intro _ t k e o s s' r hinv hrel hallowed hcond hexec
    obtain ⟨hinv₁, hans, hrel₁, hothers₁⟩ :=
      hs.step t k e o s s' r hinv.1 hrel.1 hallowed trivial hexec
    obtain ⟨hinv₂, hrel₂, hothers₂⟩ :=
      hx.step t k e o s s' r hinv.1 hinv.2 hrel.1 hrel.2 hallowed hcond hexec hinv₁ hrel₁
    exact ⟨⟨hinv₁, hinv₂⟩, hans, ⟨hrel₁, hrel₂⟩, fun u k' hne h =>
      ⟨hothers₁ u k' hne h.1, hothers₂ u k' hne h.1 h.2⟩⟩
  env := by
    intro v s s' hinv henv
    obtain ⟨hinv₁, hrel₁⟩ := hs.env v s s' hinv.1 henv
    obtain ⟨hinv₂, hrel₂⟩ := hx.env v s s' hinv.1 hinv.2 henv
    exact ⟨⟨hinv₁, hinv₂⟩, fun u k h => ⟨hrel₁ u k h.1, hrel₂ u k h.2⟩⟩

end Machine

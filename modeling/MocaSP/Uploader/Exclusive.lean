-- SUMMARY: One handler at a time works on a resumable object.
import MocaSP.Uploader.Reservation

/-!
# Resumable uploads are exclusive

A request goes through phases, and its phase says whether the entry of the map is
its own. A registering or adopted entry belongs to the request whose task it has:
the loop takes over pending entries only, and what a request releases or keeps for
retirement it compares with its own entry first. Hence at most one handler holds
the object, whatever the manager answers and however late the calls come.

A handler whose drop fails gives the object up before it returns, so another one
may adopt the object while the first is still on its way out.
-/

namespace Uploader.Inflight

open Prog (do_)
open Machine State Option Stage

/-! ## Phases -/

inductive Phase where
  /-- Nothing reserved yet. -/
  | idle
  /-- Holds the object and has the registration of an abandoned task to drop. -/
  | retiring (r : Reservation) (abandoned : Nat)
  | holds (r : Reservation)
  | created (r : Reservation)
  /-- The registration was cut short. -/
  | doubtful (r : Reservation)
  /-- The handler's own registration is to be dropped. -/
  | dropping (r : Reservation)
  /-- Nothing is left but to release the object. -/
  | leaving (r : Reservation)
  | failed
  /-- The pre-check left its own task in the map. -/
  | kept
  | ready
  | ended
  | reporting (task : Nat)

namespace Phase

/-- The reservation that the request holds. -/
def held : Phase → Option Reservation
  | retiring r _ | holds r | created r | doubtful r | dropping r | leaving r => some r
  | _ => none

/-- The state in which the request may reserve the object. -/
def reserves : Phase → ResumableState → Prop
  | idle, state => state = .registering
  | ready, state => state = .adopted
  | _, _ => False

/-- The task that the request has to report. -/
def owes (t : Nat) : Phase → Nat → Prop
  | retiring _ b', b => b = b'
  | doubtful _, b | dropping _, b => b = t
  | reporting b', b => b = b'
  | _, _ => False

def afterCreate (created : Created) : Phase → Phase
  | holds r => if created.ok then .created r else if created.cutShort then doubtful r else leaving r
  | k => k

def afterReport : Phase → Phase
  | retiring r _ => holds r
  | doubtful r | dropping r => leaving r
  | reporting _ => ended
  | k => k

def afterRefusal : Phase → Phase
  | holds r => dropping r
  | k => k

def afterFinish : Phase → Phase
  | holds r => leaving r
  | k => k

def afterKeep : Phase → Phase
  | doubtful _ => kept
  | retiring r _ => if r.state = .registering then failed else ended
  | _ => ended

def afterRelease : Phase → Phase
  | leaving r => if r.state = .registering then failed else ended
  | _ => ended

def learn (t : Nat) (k : Phase) : {β : Type} → Cmd β → β → Phase
  | _, .loadOrStore mine, none => holds mine
  | _, .compareAndSwap old new, true =>
    if new.state = .adopted ∧ old.task = t then holds new else retiring new old.task
  | _, .create, c => k.afterCreate c
  | _, .report _, true => k.afterReport
  | _, .store _, _ => ready
  | _, .push, false => k.afterRefusal
  | _, .finish, _ => k.afterFinish
  | _, .keepForRetire _ _, _ => k.afterKeep
  | _, .compareAndDelete _, _ => k.afterRelease
  | _, .preReturn false, _ | _, .handlerReturn, _ => ended
  | _, _, _ => k

def allowed (t : Nat) (k : Phase) : {β : Type} → Cmd β → Prop
  | _, .loadOrStore mine => mine.task = t ∧ k.reserves mine.state
  | _, .compareAndSwap old new => old.state = .pending ∧ new.task = t ∧ k.reserves new.state
  | _, .store r => (∃ h, k = created h ∧ h.state = .registering) ∧ r.task = t ∧ r.state = .pending
  | _, .keepForRetire mine left => k.held = some mine ∧ left.state = .pending ∧ k.owes t left.task
  | _, .compareAndDelete mine => k = leaving mine ∨ k = ended ∧ mine.task = t ∧ mine.state ≠ .pending
  | _, .create => ∃ r, k = holds r ∧ r.state = .registering
  | _, .report b => k.owes t b
  | _, .push | _, .upload | _, .finish => ∃ r, k = holds r ∧ r.state = .adopted
  | _, .preReturn true => k = ready
  | _, .preReturn false => k = idle ∨ k = failed ∨ k = kept
  | _, .handlerReturn => k = ended ∨ k = ready
  | _, .checks | _, .manager _ => k = idle
  | _, .now => k ≠ kept
  | _, .stuck => True

end Phase

def phases (t : Nat) : Discipline Cmd Phase where
  allowed := fun k e => k.allowed t e
  answers := fun _ _ _ => True
  learn := fun k e r => k.learn t e r

/-- The phase in which a job starts. -/
def firstPhase (_ : Nat) : Job → Phase
  | .finalReport b => .reporting b
  | _ => .idle

/-! ## The programs go through the phases -/

section
variable {t : Nat} {k : Phase}

/-- The phase after the loop, by what it returned. -/
def Reserved (k : Phase) (mine : Reservation) : Option (Option Nat) → Phase → Prop
  | none, k' => k' = k
  | some none, k' => k' = .holds mine
  | some (some b), k' => k' = .retiring mine b

theorem reserveLoop_follows {mine : Reservation} {now : Int} (htask : mine.task = t)
    (hres : k.reserves mine.state) (tries : Nat) :
    (phases t).Follows (reserveLoop mine now tries) k (Reserved k mine) := by
  induction tries with
  | zero => exact .do_bind trivial fun e => nomatch e
  | succ _ ih =>
    refine .do_bind ⟨htask, hres⟩ ?_
    rintro (_ | cur) -
    · exact .pure rfl
    dsimp only
    split
    next hown =>
      refine .do_bind ⟨hown.2.2, htask, hres⟩ ?_
      rintro (_ | _) -
      · exact ih
      · exact .pure (if_pos ⟨hown.1, hown.2.1.trans htask⟩)
    next hnot =>
      split
      next hstale =>
        have hpending : cur.state = .pending := by
          simp only [Reservation.stale, Bool.and_eq_true, decide_eq_true_eq] at hstale
          exact hstale.1
        refine .do_bind ⟨hpending, htask, hres⟩ ?_
        rintro (_ | _) -
        · exact ih
        · refine .pure (if_neg ?_)
          rintro ⟨hadopted, hcur⟩
          exact hnot ⟨hadopted, hcur.trans htask.symm, hpending⟩
      · exact .pure rfl

theorem reserve_follows {state : ResumableState} (hres : k.reserves state) (tries : Nat) :
    (phases t).Follows (reserveResumableObject tries t state) k fun o k' =>
      match o with
      | none => k' = k
      | some (r, b) => r.task = t ∧ r.state = state ∧ Reserved k r (some b) k' := by
  have hnow : k ≠ .kept := by
    rintro rfl
    exact hres.elim
  refine .do_bind hnow ?_
  intro now _
  have hloop := @reserveLoop_follows t k ⟨t, state, now⟩ now rfl hres tries
  refine hloop.bind ?_
  rintro (_ | b) k' hk'
  · exact .pure hk'
  · exact .pure ⟨rfl, rfl, hk'⟩

theorem reportLoop_follows {b : Nat} (howes : k.owes t b) (attempts : Nat) :
    (phases t).Follows (reportLoop b attempts) k fun ok k' =>
      k' = if ok then k.afterReport else k := by
  induction attempts with
  | zero => exact .pure rfl
  | succ _ ih =>
    refine .do_bind howes ?_
    rintro (_ | _) -
    · exact ih
    · exact .pure rfl

theorem registerTask_follows {r : Reservation} (hstate : r.state = .registering) :
    (phases t).Follows (registerTask t r) (.holds r) fun ok k' => k'.allowed t (.preReturn ok) := by
  refine .do_bind ⟨r, rfl, hstate⟩ ?_
  rintro ⟨_ | _, _ | _⟩ -
  -- refused in time
  · exact .do_bind (.inl rfl) fun _ _ => .pure (.inr (.inl (if_pos hstate)))
  -- cut short
  · refine (reportLoop_follows (k := .doubtful r) rfl reportAttempts).bind ?_
    rintro (_ | _) k' rfl
    · exact .do_bind ⟨rfl, rfl, rfl⟩ fun _ _ => .pure (.inr (.inr rfl))
    · exact .do_bind (.inl rfl) fun _ _ => .pure (.inr (.inl (if_pos hstate)))
  -- registered
  all_goals
    exact .do_bind (nofun : Phase.created r ≠ .kept) fun now _ =>
      .do_bind ⟨⟨r, rfl, hstate⟩, rfl, rfl⟩ fun _ _ => .pure rfl

theorem preResumableUploadObject_follows (tries : Nat) :
    (phases t).Follows (preResumableUploadObject tries t) .idle fun ok k' =>
      k'.allowed t (.preReturn ok) := by
  refine .do_bind rfl ?_
  rintro (_ | _) -
  · exact .pure (.inl rfl)
  refine (reserve_follows (k := .idle) rfl tries).bind ?_
  rintro (_ | ⟨r, _ | b⟩) k' hk'
  · exact .pure (.inl hk')
  · obtain ⟨-, hstate, rfl⟩ := hk'
    exact registerTask_follows hstate
  obtain ⟨-, hstate, rfl⟩ := hk'
  refine (reportLoop_follows (k := .retiring r b) rfl reportAttempts).bind ?_
  rintro (_ | _) k' rfl
  · exact .do_bind ⟨rfl, rfl, rfl⟩ fun _ _ => .pure (.inr (.inl (if_pos hstate)))
  · exact registerTask_follows hstate

theorem uploadTask_follows {r : Reservation} (htask : r.task = t) (hstate : r.state = .adopted) :
    (phases t).Follows (uploadTask t r) (.holds r) fun _ k' => k' = .ended := by
  have hlive : r.state ≠ .pending := hstate ▸ by decide
  have hover : r.state ≠ .registering := hstate ▸ by decide
  refine .do_bind ⟨r, rfl, hstate⟩ ?_
  rintro (_ | _) -
  · refine (reportLoop_follows (k := .dropping r) rfl reportAttempts).bind ?_
    rintro (_ | _) k' rfl
    · exact .do_bind ⟨rfl, rfl, rfl⟩ fun _ _ => .do_ (.inr ⟨rfl, htask, hlive⟩) fun _ _ => rfl
    · exact .do_ (.inl rfl) fun _ _ => if_neg hover
  · exact .do_bind ⟨r, rfl, hstate⟩ fun _ _ =>
      .do_bind ⟨r, rfl, hstate⟩ fun _ _ => .do_ (.inl rfl) fun _ _ => if_neg hover

theorem handleResumableUploadObjectTask_follows (tries : Nat) :
    (phases t).Follows (handleResumableUploadObjectTask tries t) .ready fun _ k' =>
      k' = .ended ∨ k' = .ready := by
  refine (reserve_follows (k := .ready) rfl tries).bind ?_
  rintro (_ | ⟨r, _ | b⟩) k' hk'
  · exact .pure (.inr hk')
  · obtain ⟨htask, hstate, rfl⟩ := hk'
    exact (uploadTask_follows htask hstate).mono fun _ _ h => .inl h
  obtain ⟨htask, hstate, rfl⟩ := hk'
  refine (reportLoop_follows (k := .retiring r b) rfl reportAttempts).bind ?_
  rintro (_ | _) k' rfl
  · have hended : (Phase.retiring r b).afterKeep = .ended := if_neg (hstate ▸ by decide)
    refine .do_bind ⟨rfl, rfl, rfl⟩ fun _ _ => ?_
    refine .do_ (.inr ⟨hended, htask, hstate ▸ by decide⟩) fun _ _ => .inl ?_
    exact congrArg Phase.afterRelease hended
  · exact (uploadTask_follows htask hstate).mono fun _ _ h => .inl h

theorem jobBody_follows (t : Nat) (j : Job) :
    (phases t).Follows (jobBody t j) (firstPhase t j) fun _ _ => True := by
  cases j with
  | request tries =>
    refine (preResumableUploadObject_follows tries).bind ?_
    intro ok k hk
    refine .do_bind hk fun _ _ => ?_
    cases ok with
    | false => exact .pure trivial
    | true =>
      obtain rfl : k = .ready := hk
      refine (handleResumableUploadObjectTask_follows tries).bind fun _ _ h => ?_
      exact .do_ h fun _ _ => trivial
  | finalReport b =>
    exact (reportLoop_follows (k := .reporting b) rfl reportAttempts).bind fun _ _ _ =>
      .pure trivial
  | manager => exact .do_ rfl fun _ _ => trivial

end

/-! ## What the phases mean -/

section
variable {μ : Type} {s : State μ} {t u : Nat} {r : Reservation}

namespace State

@[simp] theorem put_inflight : (s.put t r).inflight = some r := by
  unfold put
  split <;> rfl

@[simp] theorem put_maker : (s.put t r).maker = some t := by
  unfold put
  split <;> rfl

@[simp] theorem put_started : (s.put t r).started = s.started := by
  unfold put
  split <;> rfl

@[simp] theorem put_final : (s.put t r).final = s.final := by
  unfold put
  split <;> rfl

@[simp] theorem put_manager : (s.put t r).manager = s.manager := by
  unfold put
  split <;> rfl

theorem put_stage_ne (h : u ≠ t) : (s.put t r).stage u = s.stage u := by
  unfold put
  split
  · exact if_neg h
  · rfl

theorem put_stage_adopted (h : r.state = .adopted) : (s.put t r).stage t = .working := by
  simp [put, h, setStage]

theorem put_stage (h : r.state ≠ .adopted) : (s.put t r).stage = s.stage := by simp [put, h]

@[simp] theorem giveUp_inflight : (s.giveUp t).inflight = s.inflight := by
  unfold giveUp
  split <;> rfl

@[simp] theorem giveUp_maker : (s.giveUp t).maker = s.maker := by
  unfold giveUp
  split <;> rfl

@[simp] theorem giveUp_started : (s.giveUp t).started = s.started := by
  unfold giveUp
  split <;> rfl

@[simp] theorem giveUp_final : (s.giveUp t).final = s.final := by
  unfold giveUp
  split <;> rfl

@[simp] theorem giveUp_manager : (s.giveUp t).manager = s.manager := by
  unfold giveUp
  split <;> rfl

theorem giveUp_stage_ne (h : u ≠ t) : (s.giveUp t).stage u = s.stage u := by
  unfold giveUp
  split
  · exact if_neg h
  · rfl

@[simp] theorem giveUp_holding : ((s.giveUp t).stage t).holding = false := by
  unfold giveUp
  split
  · simp [setStage, holding]
  next h => simpa using h

end State

end

/-- The entry of the map is live: its request registers or runs its handler. -/
def Reservation.Live (r : Reservation) : Prop := r.state ≠ .pending

section
variable {μ V : Type} {mgr : Manager μ V} {t u : Nat} {k : Phase} {s s' : State μ}

/-- The entry is the request's own while its phase has a reservation; otherwise no
live entry is. -/
structure Owns (t : Nat) (k : Phase) (s : State μ) : Prop where
  started : s.started t = true
  held : ∀ r, k.held = some r → s.inflight = some r ∧ r.task = t ∧ r.Live ∧ s.maker = some t ∧
    (s.stage t).holding = decide (r.state = .adopted)
  free : k.held = none → (∀ r, s.inflight = some r → r.Live → r.task ≠ t) ∧
    (s.stage t).holding = false

structure Held (s : State μ) : Prop where
  /-- A handler that holds the object has the entry. -/
  holder : ∀ t, (s.stage t).holding = true →
    ∃ r, s.inflight = some r ∧ r.task = t ∧ r.state = .adopted
  maker : ∀ r, s.inflight = some r → r.Live → s.maker = some r.task ∧ s.started r.task = true
  fresh : ∀ t, s.started t = false → s.stage t = .outside

/-- What a step of request `t` does to the others: it leaves the entry alone, or
neither the entry before nor the one after is a live one of theirs. -/
structure Moves (t : Nat) (s s' : State μ) : Prop where
  started : s'.started = s.started
  stage : ∀ u, u ≠ t → s'.stage u = s.stage u
  entry : s'.inflight = s.inflight ∧ s'.maker = s.maker ∨
    (∀ r, s.inflight = some r → r.Live → r.task = t) ∧
      ∀ r, s'.inflight = some r → r.Live → r.task = t ∧ s'.maker = some t

theorem Moves.same (hstarted : s'.started = s.started) (hstage : ∀ u, u ≠ t → s'.stage u = s.stage u)
    (hentry : s'.inflight = s.inflight) (hmaker : s'.maker = s.maker) : Moves t s s' :=
  ⟨hstarted, hstage, .inl ⟨hentry, hmaker⟩⟩

theorem Owns.moves (h : Owns u k s) (hne : u ≠ t) (hm : Moves t s s') : Owns u k s' where
  started := by
    rw [hm.started]
    exact h.started
  held := by
    intro r hr
    obtain ⟨hentry, htask, hlive, hmaker, hstage⟩ := h.held r hr
    rw [hm.stage u hne]
    rcases hm.entry with ⟨hsame, hmk⟩ | ⟨hbefore, -⟩
    · exact ⟨hsame.trans hentry, htask, hlive, hmk.trans hmaker, hstage⟩
    · exact absurd (htask.symm.trans (hbefore r hentry hlive)) hne
  free := by
    intro hk
    rw [hm.stage u hne]
    refine ⟨?_, (h.free hk).2⟩
    intro r hr hlive htask
    rcases hm.entry with ⟨hsame, -⟩ | ⟨-, hafter⟩
    · exact (h.free hk).1 r (hsame ▸ hr) hlive htask
    · exact hne (htask.symm.trans (hafter r hr hlive).1)

theorem Held.moves (h : Held s) (hm : Moves t s s') (howns : Owns t k s') : Held s' where
  holder := by
    intro u hu
    by_cases hut : u = t
    · subst hut
      cases hk : k.held with
      | none => exact absurd hu (by simp [(howns.free hk).2])
      | some r =>
        obtain ⟨hentry, htask, -, -, hstage⟩ := howns.held r hk
        exact ⟨r, hentry, htask, of_decide_eq_true (hstage ▸ hu)⟩
    · rw [hm.stage u hut] at hu
      obtain ⟨r, hentry, htask, hadopted⟩ := h.holder u hu
      rcases hm.entry with ⟨hsame, -⟩ | ⟨hbefore, -⟩
      · exact ⟨r, hsame.trans hentry, htask, hadopted⟩
      · have hlive : r.Live := fun hp => by simp [hadopted] at hp
        exact absurd (htask.symm.trans (hbefore r hentry hlive)) hut
  maker := by
    intro r hr hlive
    rcases hm.entry with ⟨hsame, hmk⟩ | ⟨-, hafter⟩
    · rw [hmk, hm.started]
      exact h.maker r (hsame ▸ hr) hlive
    · obtain ⟨rfl, hmk⟩ := hafter r hr hlive
      exact ⟨hmk, howns.started⟩
  fresh := by
    intro u hu
    by_cases hut : u = t
    · rw [hut, howns.started] at hu
      cases hu
    · rw [hm.stage u hut]
      exact h.fresh u (hm.started ▸ hu)

variable {k' : Phase}

theorem Owns.phase (h : Owns t k s) (hk : k'.held = k.held) : Owns t k' s :=
  ⟨h.started, fun r hr => h.held r (hk ▸ hr), fun hn => h.free (hk ▸ hn)⟩

theorem Phase.reserves.held {state : ResumableState} (h : k.reserves state) : k.held = none := by
  cases k <;> first | rfl | exact h.elim

variable {r : Reservation}

theorem Phase.reserves.live (h : k.reserves r.state) : r.Live := by
  intro hp
  rw [hp] at h
  cases k <;> first | exact h.elim | cases h

/-- An entry that may be replaced: there is none, or a pending one. -/
theorem Moves.put (hbefore : ∀ r', s.inflight = some r' → r'.Live → r'.task = t)
    (hafter : r.Live → r.task = t) : Moves t s (s.put t r) where
  started := put_started
  stage := fun _ hu => put_stage_ne hu
  entry := by
    refine .inr ⟨hbefore, ?_⟩
    intro _ hr' hlive
    rw [put_inflight, some.injEq] at hr'
    subst hr'
    exact ⟨hafter hlive, put_maker⟩

theorem Owns.put (h : Owns t k s) (htask : r.task = t) (hres : k.reserves r.state)
    (hk' : k'.held = some r) : Owns t k' (s.put t r) where
  started := by
    rw [put_started]
    exact h.started
  held := by
    intro r' hr'
    obtain rfl : r = r' := some.inj (hk'.symm.trans hr')
    refine ⟨put_inflight, htask, hres.live, put_maker, ?_⟩
    by_cases hadopted : r.state = .adopted
    · rw [put_stage_adopted hadopted, decide_eq_true hadopted]
      rfl
    · rw [put_stage hadopted, decide_eq_false hadopted]
      exact (h.free hres.held).2
  free := fun hn => by rw [hk'] at hn; cases hn

/-- A pending entry, or none, in the place of the request's own; its handler, if it
had one, has given up. -/
theorem Owns.letGo (hstarted : s'.started t = true)
    (hpending : ∀ r, s'.inflight = some r → ¬ r.Live) (hstage : (s'.stage t).holding = false)
    (hk' : k'.held = none) : Owns t k' s' where
  started := hstarted
  held := fun r hr => by rw [hk'] at hr; cases hr
  free := fun _ => ⟨fun r hr hlive => absurd hlive (hpending r hr), hstage⟩

theorem Owns.live_own (h : Owns t k s) (hheld : k.held = some r) :
    ∀ r', s.inflight = some r' → r'.Live → r'.task = t := by
  intro _ hr' _
  obtain ⟨hentry, htask, -⟩ := h.held r hheld
  rw [hentry, some.injEq] at hr'
  exact hr' ▸ htask

theorem Owns.stays (h : Owns t k s) : Moves t s s ∧ Owns t k s :=
  ⟨.same rfl (fun _ _ => rfl) rfl rfl, h⟩

theorem Owns.manager {m : μ} (h : Owns t k s) (hk : k'.held = k.held) :
    Moves t s { s with manager := m } ∧ Owns t k' { s with manager := m } :=
  ⟨.same rfl (fun _ _ => rfl) rfl rfl, { h.phase hk with }⟩

theorem State.giveUp_eq (h : (s.stage t).holding = false) : s.giveUp t = s := by simp [giveUp, h]

theorem owns_keepForRetire {mine left : Reservation} (h : Owns t k s) (hheld : k.held = some mine)
    (hleft : left.state = .pending) (hk' : k.afterKeep.held = none) :
    Moves t s ((s.put t left).giveUp t) ∧ Owns t k.afterKeep ((s.put t left).giveUp t) := by
  have hput : Moves t s (s.put t left) := .put (h.live_own hheld) fun hl => absurd hleft hl
  refine ⟨⟨?_, ?_, ?_⟩, .letGo ?_ ?_ giveUp_holding hk'⟩
  · rw [giveUp_started, hput.started]
  · intro u hu
    rw [giveUp_stage_ne hu, hput.stage u hu]
  · rw [giveUp_inflight, giveUp_maker]
    exact hput.entry
  · rw [giveUp_started, put_started]
    exact h.started
  · rw [giveUp_inflight, put_inflight]
    rintro _ ⟨⟩ hl
    exact hl hleft

theorem owns_compareAndDelete {mine : Reservation} {o : Oracle} {ans : Unit} (h : Owns t k s)
    (hallowed : k.allowed t (.compareAndDelete mine))
    (hexec : execCmd mgr t (.compareAndDelete mine) o s = some (ans, s')) :
    Moves t s s' ∧ Owns t k.afterRelease s' := by
  have hafter : k.afterRelease.held = none := by
    rcases hallowed with rfl | ⟨rfl, -⟩
    · simp only [Phase.afterRelease]
      split <;> rfl
    · rfl
  simp only [execCmd] at hexec
  split at hexec
  next hentry =>
    cases hexec
    have htask : mine.task = t := by
      rcases hallowed with rfl | ⟨-, htask, -⟩
      · exact (h.held mine rfl).2.1
      · exact htask
    refine ⟨⟨giveUp_started, fun u hu => giveUp_stage_ne hu, .inr ⟨?_, ?_⟩⟩, .letGo ?_ ?_ ?_ hafter⟩
    · intro _ hr _
      exact some.inj (hentry.symm.trans hr) ▸ htask
    · intro _ hr
      rw [giveUp_inflight] at hr
      cases hr
    · rw [giveUp_started]
      exact h.started
    · intro _ hr
      rw [giveUp_inflight] at hr
      cases hr
    · exact giveUp_holding
  next hentry =>
    cases hexec
    rcases hallowed with rfl | ⟨rfl, -⟩
    · exact absurd (h.held mine rfl).1 hentry
    · rw [giveUp_eq (h.free rfl).2]
      exact h.stays

theorem owns_setStage {g : Stage} (h : Owns t (.holds r) s) (hstage : (s'.stage t).holding = true)
    (hadopted : r.state = .adopted) (hk' : k'.held = some r)
    (hs : s'.started = s.started ∧ s'.inflight = s.inflight ∧ s'.maker = s.maker)
    (hothers : s'.stage = (s.setStage t g).stage) : Moves t s s' ∧ Owns t k' s' := by
  obtain ⟨hentry, htask, hlive, hmaker, -⟩ := h.held r rfl
  refine ⟨.same hs.1 (fun u hu => by rw [hothers]; exact if_neg hu) hs.2.1 hs.2.2, ?_, ?_, ?_⟩
  · rw [hs.1]
    exact h.started
  · intro r' hr'
    obtain rfl : r = r' := some.inj (hk'.symm.trans hr')
    exact ⟨hs.2.1.trans hentry, htask, hlive, hs.2.2.trans hmaker, hstage.trans (decide_eq_true hadopted).symm⟩
  · intro hn
    rw [hk'] at hn
    cases hn

/-- A step keeps what the request owns and touches no live entry of another. -/
theorem exec_owns {β : Type} {e : Cmd β} {o : Oracle} {ans : β} (h : Owns t k s)
    (hallowed : k.allowed t e) (hexec : execCmd mgr t e o s = some (ans, s')) :
    Moves t s s' ∧ Owns t (k.learn t e ans) s' := by
  cases e with
  | checks | now | upload =>
    cases hexec
    exact h.stays
  | preReturn ok =>
    cases hexec
    cases ok with
    | true => exact h.stays
    | false =>
      have hfree : k.held = none := by rcases hallowed with rfl | rfl | rfl <;> rfl
      exact ⟨h.stays.1, h.phase hfree.symm⟩
  | loadOrStore =>
    simp only [execCmd] at hexec
    split at hexec
    · cases hexec
      exact h.stays
    rename_i hnone
    cases hexec
    refine ⟨.put ?_ fun _ => hallowed.1, h.put hallowed.1 hallowed.2 rfl⟩
    intro _ hr
    rw [hnone] at hr
    cases hr
  | compareAndSwap =>
    obtain ⟨hpending, htask, hres⟩ := hallowed
    simp only [execCmd] at hexec
    split at hexec
    next hentry =>
      cases hexec
      refine ⟨.put ?_ fun _ => htask, h.put htask hres ?_⟩
      · intro _ hr hlive
        exact absurd (some.inj (hentry.symm.trans hr) ▸ hpending) hlive
      · simp only [Phase.learn]
        split <;> rfl
    · cases hexec
      exact h.stays
  | store r =>
    obtain ⟨⟨_, rfl, _⟩, _, hpending⟩ := hallowed
    cases hexec
    have hput : Moves t s (s.put t r) := .put (h.live_own rfl) fun hl => absurd hpending hl
    refine ⟨⟨hput.started, ?_, hput.entry⟩, .letGo (hput.started ▸ h.started) ?_ ?_ rfl⟩
    · intro u hu
      exact (if_neg hu).trans (hput.stage u hu)
    · intro r' hr' hl
      obtain rfl : r = r' := some.inj (put_inflight.symm.trans hr')
      exact hl hpending
    · simp [setStage, holding]
  | compareAndDelete => exact owns_compareAndDelete h hallowed hexec
  | keepForRetire mine =>
    obtain ⟨hheld, hleft, -⟩ := hallowed
    simp only [execCmd, (h.held mine hheld).1, if_true] at hexec
    cases hexec
    refine owns_keepForRetire h hheld hleft ?_
    cases k with
    | retiring =>
      simp only [Phase.afterKeep]
      split <;> rfl
    | _ => rfl
  | create =>
    obtain ⟨_, rfl, -⟩ := hallowed
    obtain ⟨⟨_, _⟩, -, ⟨⟩⟩ := map_eq_some_iff.mp hexec
    refine h.manager ?_
    simp only [Phase.learn, Phase.afterCreate]
    split
    · rfl
    · split <;> rfl
  | report =>
    obtain ⟨⟨_, _⟩, -, ⟨⟩⟩ := map_eq_some_iff.mp hexec
    refine h.manager ?_
    cases ans with
    | false => rfl
    | true => cases k <;> rfl
  | manager =>
    obtain ⟨_, -, ⟨⟩⟩ := map_eq_some_iff.mp hexec
    exact h.manager rfl
  | push =>
    obtain ⟨_, rfl, hadopted⟩ := hallowed
    cases hexec
    split
    next hflag =>
      simp only [Phase.learn, hflag]
      exact h.stays
    next hflag =>
      simp only [Phase.learn, hflag]
      exact owns_setStage h (by simp [setStage, holding]) hadopted rfl ⟨rfl, rfl, rfl⟩ rfl
  | finish =>
    obtain ⟨_, rfl, hadopted⟩ := hallowed
    cases hexec
    exact owns_setStage h (by simp [setStage, holding]) hadopted rfl ⟨rfl, rfl, rfl⟩ rfl
  | handlerReturn =>
    cases hexec
    have hfree : k.held = none := by rcases hallowed with rfl | rfl <;> rfl
    refine ⟨.same rfl (fun u hu => if_neg hu) rfl rfl, h.started, ?_, fun _ => ⟨(h.free hfree).1, ?_⟩⟩
    · rintro _ ⟨⟩
    · simp [setStage, holding]
  | stuck => cases hexec

theorem startJob_eq {j : Job} (h : startJob t j s = some s') :
    s.started t = false ∧ (∀ u, s'.started u = if u = t then true else s.started u) ∧
      s'.inflight = s.inflight ∧ s'.maker = s.maker ∧ s'.stage = s.stage ∧ s'.manager = s.manager := by
  simp only [startJob] at h
  split at h
  · cases h
  rename_i hnew
  have hfresh : s.started t = false := by simpa using hnew
  cases j with
  | request | manager =>
    cases h
    exact ⟨hfresh, fun _ => rfl, rfl, rfl, rfl, rfl⟩
  | finalReport =>
    dsimp only at h
    split at h
    · cases h
      exact ⟨hfresh, fun _ => rfl, rfl, rfl, rfl, rfl⟩
    · cases h

theorem firstPhase_held (t : Nat) (j : Job) : (firstPhase t j).held = none := by cases j <;> rfl

/-- **Ownership.** In every run the phase of each request is true. -/
theorem resumable_sound (mgr : Manager μ V) :
    Sound (resumable mgr) phases firstPhase always Held Owns where
  body := fun t j _ _ _ => jobBody_follows t j
  start := by
    intro t j _ _ hheld hstart
    obtain ⟨hfresh, hstarted, hentry, hmaker, hstage, -⟩ := startJob_eq hstart
    refine ⟨⟨?_, ?_, ?_⟩, ⟨?_, ?_, ?_⟩, ?_⟩
    · rw [hstage, hentry]
      exact hheld.holder
    · intro r hr hlive
      obtain ⟨hm, hs⟩ := hheld.maker r (hentry ▸ hr) hlive
      rw [hmaker, hstarted]
      refine ⟨hm, ?_⟩
      split
      · rfl
      · exact hs
    · intro u hu
      rw [hstage]
      rw [hstarted] at hu
      split at hu
      · cases hu
      · exact hheld.fresh u hu
    · rw [hstarted]
      exact if_pos rfl
    · intro _ hr
      cases (firstPhase_held t j).symm.trans hr
    · intro _
      rw [hentry, hstage]
      refine ⟨?_, congrArg holding (hheld.fresh t hfresh)⟩
      rintro r hr hlive rfl
      exact absurd (hheld.maker r hr hlive).2 (by simp [hfresh])
    · intro _ _ hne h
      refine ⟨?_, ?_, ?_⟩
      · rw [hstarted]
        exact (if_neg hne).trans h.started
      · rw [hentry, hmaker, hstage]
        exact h.held
      · rw [hentry, hstage]
        exact h.free
  step := by
    intro _ _ _ _ _ _ _ _ hheld howns hallowed _ hexec
    obtain ⟨hmoves, howns'⟩ := exec_owns howns hallowed hexec
    exact ⟨hheld.moves hmoves howns', trivial, howns', fun u k' hne h => h.moves hne hmoves⟩
  env := by
    intro _ _ _ hheld henv
    obtain ⟨_, -, rfl⟩ := map_eq_some_iff.mp henv
    exact ⟨{ hheld with }, fun u k h => { h with }⟩

theorem held_init (m : μ) : Held ({ manager := m } : State μ) where
  holder := nofun
  maker := nofun
  fresh := fun _ _ => rfl

end

/-! ## Exclusion -/

/-- The calls by which a request lets go of the object. -/
def Cmd.letsGo : {β : Type} → Cmd β → Bool
  | _, .compareAndDelete _ | _, .keepForRetire _ _ => true
  | _, _ => false

/-- The next call of thread `t` is one by which it lets go. -/
def LettingGo {μ : Type} (t : Nat) (c : Config Cmd Nat (State μ)) : Prop :=
  ∃ (β : Type) (e : Cmd β) (next : β → Prog Cmd Unit),
    c.threads t = some (.call e next) ∧ e.letsGo = true

section
variable {μ V : Type} {mgr : Manager μ V} {t : Nat} {s s' : State μ} {k : Phase}

/-- **Resumable uploads are exclusive.** In every run, with any manager, one handler
at most is between its adoption and the moment it gives the object up; a live
entry is replaced or removed by its own request only; and what a request releases
or keeps for retirement, it wrote. -/
theorem one_handler_holds (mgr : Manager μ V) (m : μ) {c : Config Cmd Nat (State μ)}
    (hreach : (resumable mgr).Reach always { manager := m } c) :
    (∀ t u, (c.state.stage t).holding = true → (c.state.stage u).holding = true → t = u) ∧
      (∀ a c', (resumable mgr).act a c = some c' → ∀ r, c.state.inflight = some r → r.Live →
        c'.state.inflight ≠ some r → ∃ o, a = .step r.task o) ∧
      ∀ t o c', (resumable mgr).act (.step t o) c = some c' → LettingGo t c →
        c'.state.inflight ≠ c.state.inflight → c.state.maker = some t := by
  obtain ⟨hheld, hthreads⟩ := (resumable_sound mgr).reach (held_init m) hreach
  refine ⟨fun t u ht hu => ?_, ?_, ?_⟩
  · obtain ⟨_, hr, rfl, -⟩ := hheld.holder t ht
    obtain ⟨_, hr', rfl, -⟩ := hheld.holder u hu
    rw [hr, some.injEq] at hr'
    exact congrArg _ hr'
  · intro a _ hact r hr hlive hchange
    cases a with
    | start =>
      simp only [Machine.act] at hact
      split at hact
      next hstart =>
        cases hact
        exact absurd ((startJob_eq hstart).2.2.1.trans hr) hchange
      · cases hact
    | step t o =>
      obtain rfl | ⟨_, _, _, _, _, hthread, hexec, rfl⟩ := act_step hact
      · exact absurd hr hchange
      obtain ⟨_, hfollows, howns⟩ := hthreads t _ hthread
      obtain ⟨hmoves, -⟩ := exec_owns howns hfollows.1 hexec
      rcases hmoves.entry with ⟨hsame, -⟩ | ⟨hbefore, -⟩
      · exact absurd (hsame.trans hr) hchange
      · exact ⟨o, by rw [hbefore r hr hlive]⟩
    | env =>
      simp only [Machine.act, map_eq_some_iff] at hact
      obtain ⟨_, henv, rfl⟩ := hact
      obtain ⟨_, -, rfl⟩ := map_eq_some_iff.mp henv
      exact absurd hr hchange
    | kill =>
      cases hact
      exact absurd hr hchange
  · rintro t _ _ hact ⟨_, e, _, hthread, hgo⟩ hchange
    simp only [Machine.act, hthread] at hact
    split at hact
    · cases hact
    rename_i hexec
    cases hact
    obtain ⟨_, hfollows, howns⟩ := hthreads t _ hthread
    -- what lets go of the entry finds an entry of its own
    cases e with
    | compareAndDelete mine =>
      rcases hfollows.1 with rfl | ⟨-, htask, hlive⟩
      · exact (howns.held mine rfl).2.2.2.1
      simp only [resumable, execCmd] at hexec
      split at hexec
      next hentry => exact htask ▸ (hheld.maker mine hentry hlive).1
      · cases hexec
        exact absurd giveUp_inflight hchange
    | keepForRetire mine => exact (howns.held mine hfollows.1.1).2.2.2.1
    | _ => cases hgo

end

/-- A manager that takes every task and answers reports while it is up. -/
def plainManager : Manager Bool Bool where
  create := fun _ up => some (⟨true, false⟩, up)
  report := fun _ up => some (up, up)
  own := fun _ up => some up
  env := fun up _ => some up

/-- One step of a thread for each answer of the oracle. -/
def stepsOf {V : Type} (t : Nat) : List Oracle → List (Action Nat Oracle Job V) :=
  List.map (.step t)

/-- A pre-check without an abandoned reservation, and the adoption by its handler. -/
def adopts (t : Nat) (now : Int) : List (Action Nat Oracle Job Bool) :=
  stepsOf t [{}, { now := now }, {}, {}, { now := now }, {}, {}, { now := now }, {}, {}]

/-- The uploader's queue refuses the first handler's task and the manager is down, so
the handler keeps its task for retirement. Before it returns, a second request
retires the task, registers its own and adopts the object. -/
def lateReturn : List (Action Nat Oracle Job Bool) :=
  .start 0 (.request 1) :: adopts 0 0 ++ stepsOf 0 [{ flag := false }] ++ [.env false] ++
    stepsOf 0 [{}, {}, {}, {}] ++ [.env true, .start 1 (.request 1)] ++
    stepsOf 1 [{}, { now := 40000000000 }, {}, {}, {}, {}, { now := 40000000000 }, {}, {},
      { now := 40000000000 }, {}, {}]

/-- The second handler holds the object, and the first one has given it up. -/
theorem one_handler_holds_sample :
    ∃ c, (resumable plainManager).Reach always { manager := true } c ∧ c.state.stage 0 = .released ∧
      (c.state.stage 1).holding = true ∧ ∀ u, (c.state.stage u).holding = true → 1 = u := by
  obtain ⟨c, hreach, hfirst, hholding⟩ : ∃ c, (resumable plainManager).Reach always { manager := true } c ∧
      c.state.stage 0 = .released ∧ (c.state.stage 1).holding = true :=
    Reach.exists_of_run lateReturn (by decide +kernel)
  exact ⟨c, hreach, hfirst, hholding, fun u => (one_handler_holds plainManager true hreach).1 1 u hholding⟩

/-- Two handlers are between their adoption and their return. -/
theorem two_handlers_in_call : ¬ ∀ c, (resumable plainManager).Reach always { manager := true } c →
      ∀ t u, (c.state.stage t).inCall = true → (c.state.stage u).inCall = true → t = u := by
  intro hall
  obtain ⟨c, hreach, hfirst, hsecond⟩ : ∃ c, (resumable plainManager).Reach always { manager := true } c ∧
      (c.state.stage 0).inCall = true ∧ (c.state.stage 1).inCall = true :=
    Reach.exists_of_run lateReturn (by decide +kernel)
  exact absurd (hall c hreach 0 1 hfirst hsecond) (by decide)

end Uploader.Inflight

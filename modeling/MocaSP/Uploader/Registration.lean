-- SUMMARY: Who answers for a registration with the manager.
import MocaSP.Uploader.Exclusive

/-!
# Registrations of resumable requests

The manager queues the tasks of an object by their offset. A task is registered by
the pre-check and popped by a drop or by the final report, which name the offset
and not the task.

Every registration has one party that answers for it: the request that holds the
object, the pending entry of the map, or the final report. While each call takes
effect once and its caller learns of it, and while a handler adopts its own
pending entry only, the party is the only one that pops the registration, and it
pops no other. A registration leaks when the caller does not learn of it: the
manager keeps a task whose progress row it could not insert. A registration is hit
when a report is carried out twice, and a handler runs without one when it finds
the map empty after another request has retired its task.
-/

namespace Uploader.Inflight

open Machine State Phase Option

/-! ## The manager -/

inductive Delivery where
  | now
  /-- The call arrives after its caller gave up. -/
  | late
  | never
  deriving DecidableEq

/-- How the next call to the manager goes. -/
structure Course where
  delivery : Delivery := .now
  /-- The caller gets the answer, and for a report it is no error. -/
  answered : Bool := true
  /-- The caller's context is over when the call returns. -/
  cutShort : Bool := false
  /-- The manager finds the context over after the push. -/
  ctxOver : Bool := false
  /-- The manager is full, or another queue has the task. -/
  refused : Bool := false
  /-- The progress row is there or can be inserted. -/
  inserted : Bool := true

inductive Message where
  | create (task : Nat)
  | report (task : Nat)

/-- The manager's resumableUploadQueue, for one object: a task by its offset. -/
structure Registry where
  queue : Nat → Option Nat := fun _ => none
  course : Course := {}
  late : List Message := []

variable (m : Registry)

namespace Registry

def set (k : Nat) (x : Option Nat) : Registry :=
  { m with queue := fun k' => if k' = k then x else m.queue k' }

/-- Pops the task if it is the very one queued. -/
def popTask (k t : Nat) : Registry := if m.queue k = some t then m.set k none else m

def popByKey (k : Nat) : Registry := m.set k none

section
variable (offset : Nat → Nat)

/-- HandleCreateResumableUploadObjectTask: whether it returns nil, and the queue. -/
def handleCreate (t : Nat) (m : Registry) : Bool × Registry :=
  if m.course.refused then (false, m)
  else if (m.queue (offset t)).isSome then (false, m)
  else
    let m := m.set (offset t) (some t)
    if m.course.ctxOver then (false, m.popTask (offset t) t)
    else (m.course.inserted, m)

/-- HandleDoneResumableUploadObjectTask, as far as the queue goes. -/
def handleDone (b : Nat) (m : Registry) : Registry := m.popByKey (offset b)

def create (t : Nat) (m : Registry) : Created × Registry :=
  match m.course.delivery with
  | .now =>
    let (ok, m') := m.handleCreate offset t
    (⟨ok && m.course.answered, m.course.cutShort⟩, m')
  | .late => (⟨false, m.course.cutShort⟩, { m with late := m.late ++ [.create t] })
  | .never => (⟨false, m.course.cutShort⟩, m)

def report (b : Nat) (m : Registry) : Bool × Registry :=
  match m.course.delivery with
  | .now => (m.course.answered, m.handleDone offset b)
  | .late => (false, { m with late := m.late ++ [.report b] })
  | .never => (false, m)

def own (m : Registry) : ManagerStep → Option Registry
  | .retire k => some (m.set k none)
  | .deliver i =>
    let rest := { m with late := m.late.eraseIdx i }
    match m.late[i]? with
    | none => none
    | some (.create t) => some (rest.handleCreate offset t).2
    | some (.report b) => some (rest.handleDone offset b)

end

end Registry

/-- The manager of an object whose request `t` is at offset `offset t`. -/
def registry (offset : Nat → Nat) : Manager Registry Course where
  create := fun t m => some (m.create offset t)
  report := fun b m => some (m.report offset b)
  own := fun step m => m.own offset step
  env := fun course m => some { m with course }

/-! ## Orderly steps -/

/-- Every call takes effect once and its caller learns of it, no registration
expires, and a handler takes over its own pending entry only. -/
def Orderly (offset : Nat → Nat) (β : Type) (t : Nat) (e : Cmd β) (s : State Registry) : Prop :=
  let course := s.manager.course
  let slot := s.manager.queue (offset t)
  match e with
  | .create =>
    course.delivery ≠ .late ∧ (course.cutShort = true → slot = none) ∧
      -- a task that is registered behind an error
      (course.delivery = .now ∧ course.refused = false ∧ slot = none ∧ course.ctxOver = false ∧
        (course.inserted = false ∨ course.answered = false) → course.cutShort = true)
  | .report _ => course.delivery ≠ .late ∧ (course.delivery = .now → course.answered = true)
  | .manager (.retire k) => s.manager.queue k = none
  | .loadOrStore mine => mine.state = .adopted → s.inflight ≠ none
  | .compareAndSwap old new => new.state = .adopted → old.task = t
  | _ => True

instance (offset : Nat → Nat) (β : Type) (t : Nat) (e : Cmd β) (s : State Registry) :
    Decidable (Orderly offset β t e s) := by
  cases e with
  | manager step => cases step <;> dsimp only [Orderly] <;> infer_instance
  | _ =>
    dsimp only [Orderly]
    infer_instance

/-! ## The queue -/

namespace Registry

variable {offset : Nat → Nat} {t b : Nat} {m : Registry} {k : Nat} {x : Option Nat}

@[simp] theorem set_queue_self : (m.set k x).queue k = x := if_pos rfl

theorem set_queue_ne {k' : Nat} (h : k' ≠ k) : (m.set k x).queue k' = m.queue k' := if_neg h

/-- A registration is refused and changes nothing, or takes the free slot. -/
theorem handleCreate_cases (offset : Nat → Nat) (t : Nat) (m : Registry) :
    m.handleCreate offset t = (false, m) ∨
      m.course.refused = false ∧ m.queue (offset t) = none ∧ m.course.ctxOver = false ∧
        m.handleCreate offset t = (m.course.inserted, m.set (offset t) (some t)) := by
  unfold handleCreate
  split
  · exact .inl rfl
  rename_i hrefused
  split
  · exact .inl rfl
  rename_i hsome
  have hfree : m.queue (offset t) = none := by simpa using hsome
  dsimp only
  split
  · left
    have hpop : (m.set (offset t) (some t)).popTask (offset t) t = m := by
      simp only [popTask, if_true, set]
      congr 1
      funext k
      split
      next hk => rw [hk, hfree]
      · rfl
    rw [hpop]
  next hctx => exact .inr ⟨by simpa using hrefused, hfree, by simpa [set] using hctx, rfl⟩

variable {b' : Nat}

/-- Popping leaves a task registered at another offset, and one that is not the
task popped. -/
theorem pop_some {i : Nat} (hslot : m.queue k = none ∨ m.queue k = some b) (hne : b' ≠ b)
    (h : m.queue i = some b') : (m.set k none).queue i = some b' := by
  rw [set_queue_ne]
  · exact h
  rintro rfl
  rcases hslot with hs | hs
  · cases hs.symm.trans h
  · exact hne (some.inj (hs.symm.trans h)).symm

theorem pop_none {k' : Nat} (h : m.queue k' = none) : (m.set k none).queue k' = none := by
  simp only [set]
  split
  · rfl
  · exact h

theorem pop_ne {k' : Nat} {y : Nat} (h : m.queue k' ≠ some y) : (m.set k none).queue k' ≠ some y := by
  simp only [set]
  split
  · nofun
  · exact h

theorem push_some (hfree : m.queue (offset t) = none) (h : m.queue (offset b') = some b') :
    (m.set (offset t) (some t)).queue (offset b') = some b' := by
  rw [set_queue_ne]
  · exact h
  · intro hk
    rw [hk, hfree] at h
    cases h

theorem push_ne (hne : b' ≠ t) (h : m.queue (offset b') ≠ some b') :
    (m.set (offset t) (some t)).queue (offset b') ≠ some b' := by
  simp only [set]
  split
  · rintro ⟨⟩
    exact hne rfl
  · exact h

end Registry

/-! ## Who answers for a registration -/

section
open Registry (pop_some pop_none pop_ne push_some push_ne set_queue_self)
variable {offset : Nat → Nat} {s s' : State Registry} {t u b : Nat} {k k' : Phase}

def State.slot (offset : Nat → Nat) (s : State Registry) (b : Nat) : Option Nat :=
  s.manager.queue (offset b)

theorem slot_congr (h : s'.manager.queue = s.manager.queue) : s'.slot offset = s.slot offset := by
  funext b
  rw [slot, h]
  rfl

/-- A task that a request or an entry has to retire: it is registered, or its slot is
free and its handler will not come. -/
def Abandoned (offset : Nat → Nat) (s : State Registry) (b : Nat) : Prop :=
  s.final b = .none ∧ (s.slot offset b = some b ∨ s.slot offset b = none ∧ s.stage b ≠ .waiting)

/-- What the phase of request `t` says about registrations. -/
def Answers (offset : Nat → Nat) (t : Nat) (k : Phase) (s : State Registry) : Prop :=
  match k with
  | .idle => s.final t = .none ∧ s.slot offset t ≠ some t ∧ s.stage t ≠ .waiting
  | .retiring r b => r.state = .registering ∧ s.final t = .none ∧ s.slot offset t ≠ some t ∧
      s.stage t ≠ .waiting ∧ Abandoned offset s b
  | .holds r => s.final t = .none ∧
      (r.state = .registering → s.slot offset t ≠ some t ∧ s.stage t ≠ .waiting) ∧
      (r.state = .adopted → s.slot offset t = some t)
  | .created _ => s.final t = .none ∧ s.slot offset t = some t
  | .doubtful r => r.state = .registering ∧ s.final t = .none ∧ s.stage t ≠ .waiting ∧
      (s.slot offset t = none ∨ s.slot offset t = some t)
  | .dropping _ => s.final t = .none ∧ s.slot offset t = some t ∧ s.stage t = .ending
  | .leaving r => r.state = .registering → s.slot offset t ≠ some t
  | .failed => s.slot offset t ≠ some t
  | .ready => s.stage t = .waiting
  | .reporting b => s.final b = .started t ∧ s.slot offset b = some b
  | .kept | .ended => True

structure Registrations (offset : Nat → Nat) (s : State Registry) : Prop where
  late : s.manager.late = []
  pending : ∀ r, s.inflight = some r → r.state = .pending → Abandoned offset s r.task
  working : ∀ r, s.inflight = some r → r.state = .adopted → s.stage r.task = .working →
    s.final r.task = .none ∧ s.slot offset r.task = some r.task
  due : ∀ b, s.final b = .due → s.slot offset b = some b
  fresh : ∀ t, s.started t = false → s.final t = .none ∧ s.slot offset t ≠ some t

variable {r mine : Reservation} {o : Oracle}

theorem Owns.exclusive {r' : Reservation} (h : Owns t k s) (h' : Owns u k' s) (hk : k.held = some r)
    (hk' : k'.held = some r') : u = t := by
  obtain ⟨hentry, htask, -⟩ := h.held r hk
  obtain ⟨hentry', htask', -⟩ := h'.held r' hk'
  rw [hentry, some.injEq] at hentry'
  exact htask'.symm.trans (hentry' ▸ htask)

theorem Owns.entry {r' : Reservation} (h : Owns t k s) (hk : k.held = some r) (hr : s.inflight = some r') :
    r = r' :=
  some.inj ((h.held r hk).1.symm.trans hr)

/-- What a request reports is its own to pop: it holds the object, while no final report of `b` was
started, or is the final report. -/
theorem Answers.owed (h : Answers offset t k s) (howes : k.owes t b) :
    (s.slot offset b = none ∨ s.slot offset b = some b) ∧
      (k.held ≠ none ∧ s.final b = .none ∨ s.final b = .started t) := by
  cases k with
  | retiring _ b' =>
    obtain rfl : b = b' := howes
    obtain ⟨-, -, -, -, hf, hslot⟩ := h
    exact ⟨hslot.symm.imp_left And.left, .inl ⟨nofun, hf⟩⟩
  | doubtful =>
    obtain rfl : b = t := howes
    exact ⟨h.2.2.2, .inl ⟨nofun, h.2.1⟩⟩
  | dropping =>
    obtain rfl : b = t := howes
    exact ⟨.inr h.2.1, .inl ⟨nofun, h.1⟩⟩
  | reporting b' =>
    obtain rfl : b = b' := howes
    exact ⟨.inr h.2, .inr h.1⟩
  | _ => exact howes.elim

/-! ### Steps that leave the queue alone -/

theorem Abandoned.frame (h : Abandoned offset s b) (hqueue : s'.manager.queue = s.manager.queue)
    (hfinal : s'.final b = s.final b) (hstage : s'.stage b = .waiting → s.stage b = .waiting) :
    Abandoned offset s' b := by
  refine ⟨hfinal.trans h.1, ?_⟩
  simp only [slot, hqueue]
  rcases h.2 with hslot | ⟨hslot, hnot⟩
  · exact .inl hslot
  · exact .inr ⟨hslot, fun hw => hnot (hstage hw)⟩

/-- The phase relies on a final report that was not started, of the request itself or
of the task it retires, and on the one that it makes. -/
theorem Answers.frame (h : Answers offset u k s) (hqueue : s'.manager.queue = s.manager.queue)
    (hfinal : ∀ b, s.final b = .none ∧ (b = u ∨ k.held ≠ none) ∨ s.final b = .started u →
      s'.final b = s.final b)
    (hstage : s'.stage u = s.stage u)
    (hwaiting : k.held ≠ none → ∀ b, s'.stage b = .waiting → s.stage b = .waiting) :
    Answers offset u k s' := by
  have hslot := @slot_congr offset s s' hqueue
  have hown : s.final u = .none → s'.final u = s.final u := fun hf => hfinal u (.inl ⟨hf, .inl rfl⟩)
  cases k with
  | retiring _ b =>
    obtain ⟨hreg, hf, hs, hw, hb⟩ := h
    refine ⟨hreg, (hown hf).trans hf, hslot ▸ hs, hstage ▸ hw, hb.frame hqueue ?_ (hwaiting nofun b)⟩
    exact hfinal b (.inl ⟨hb.1, .inr nofun⟩)
  | reporting b => exact ⟨(hfinal b (.inr h.1)).trans h.1, hslot ▸ h.2⟩
  | kept | ended => trivial
  | leaving | failed | ready =>
    simp only [Answers, hslot, hstage] at h ⊢
    exact h
  | doubtful =>
    simp only [Answers, hslot, hown h.2.1, hstage] at h ⊢
    exact h
  | _ =>
    simp only [Answers, hslot, hown h.1, hstage] at h ⊢
    exact h

/-! ### Steps that pop a task -/

def State.pop (offset : Nat → Nat) (s : State Registry) (b : Nat) : State Registry :=
  { s with manager := s.manager.set (offset b) none }

/-- What another party answers for is not what `t` pops. -/
theorem Answers.ne_popped {x : Nat} (ht : Answers offset t k s) (hown : Owns t k s) (howes : k.owes t b)
    (hu : Owns u k' s) (hne : u ≠ t)
    (hx : k'.held ≠ none ∧ s.final x = .none ∨ s.final x = .started u) : x ≠ b := by
  rintro rfl
  rcases (ht.owed howes).2 with ⟨hk, hf⟩ | hf
  · rcases hx with ⟨hk', -⟩ | hf'
    · obtain ⟨_, hr⟩ := ne_none_iff_exists'.mp hk
      obtain ⟨_, hr'⟩ := ne_none_iff_exists'.mp hk'
      exact hne (hown.exclusive hu hr hr')
    · cases hf.symm.trans hf'
  · rcases hx with ⟨-, hf'⟩ | hf'
    · cases hf.symm.trans hf'
    · exact hne (FinalReport.started.inj (hf'.symm.trans hf))

theorem Abandoned.pop {x : Nat} (h : Abandoned offset s x) (hne : x ≠ b)
    (hslot : s.slot offset b = none ∨ s.slot offset b = some b) : Abandoned offset (s.pop offset b) x := by
  refine ⟨h.1, ?_⟩
  rcases h.2 with hx | ⟨hx, hnot⟩
  · exact .inl (pop_some hslot hne hx)
  · exact .inr ⟨pop_none hx, hnot⟩

theorem Answers.pop (h : Answers offset u k' s) (hslot : s.slot offset b = none ∨ s.slot offset b = some b)
    (hx : ∀ x, k'.held ≠ none ∧ s.final x = .none ∨ s.final x = .started u → x ≠ b) :
    Answers offset u k' (s.pop offset b) := by
  cases k' with
  | idle => exact ⟨h.1, pop_ne h.2.1, h.2.2⟩
  | retiring _ b' =>
    obtain ⟨hreg, hf, hs, hw, hb⟩ := h
    exact ⟨hreg, hf, pop_ne hs, hw, hb.pop (hx b' (.inl ⟨nofun, hb.1⟩)) hslot⟩
  | holds =>
    obtain ⟨hf, hreg, hadopted⟩ := h
    refine ⟨hf, fun hr => ⟨pop_ne (hreg hr).1, (hreg hr).2⟩, fun hr => ?_⟩
    exact pop_some hslot (hx u (.inl ⟨nofun, hf⟩)) (hadopted hr)
  | created => exact ⟨h.1, pop_some hslot (hx u (.inl ⟨nofun, h.1⟩)) h.2⟩
  | doubtful =>
    obtain ⟨hreg, hf, hw, hs⟩ := h
    refine ⟨hreg, hf, hw, ?_⟩
    rcases hs with hs | hs
    · exact .inl (pop_none hs)
    · exact .inr (pop_some hslot (hx u (.inl ⟨nofun, hf⟩)) hs)
  | dropping => exact ⟨h.1, pop_some hslot (hx u (.inl ⟨nofun, h.1⟩)) h.2.1, h.2.2⟩
  | leaving => exact fun hr => pop_ne (h hr)
  | failed => exact pop_ne h
  | ready => exact h
  | reporting b' => exact ⟨h.1, pop_some hslot (hx b' (.inr h.1)) h.2⟩
  | kept => trivial
  | ended => trivial

theorem Registrations.pop (h : Registrations offset s) (ht : Answers offset t k s) (hown : Owns t k s)
    (howes : k.owes t b) : Registrations offset (s.pop offset b) := by
  obtain ⟨hslot, hfinal⟩ := ht.owed howes
  refine ⟨h.late, ?_, ?_, ?_, fun u hu => ⟨(h.fresh u hu).1, pop_ne (h.fresh u hu).2⟩⟩
  · intro r hr hpending
    refine (h.pending r hr hpending).pop ?_ hslot
    rintro rfl
    rcases hfinal with ⟨hk, -⟩ | hf
    · obtain ⟨r', hr'⟩ := ne_none_iff_exists'.mp hk
      exact (hown.held r' hr').2.2.1 (hown.entry hr' hr ▸ hpending)
    · cases (h.pending r hr hpending).1.symm.trans hf
  · intro r hr hadopted hworking
    obtain ⟨hf, hs⟩ := h.working r hr hadopted hworking
    refine ⟨hf, pop_some hslot ?_ hs⟩
    rintro rfl
    cases k with
    | retiring | doubtful => exact absurd (hown.entry rfl hr ▸ ht.1) (by simp [hadopted])
    | dropping =>
      obtain rfl : r.task = t := howes
      exact absurd (hworking.symm.trans ht.2.2) (by decide)
    | reporting b' =>
      obtain rfl : r.task = b' := howes
      cases hf.symm.trans ht.1
    | _ => exact howes.elim
  · intro b' hb'
    refine pop_some hslot ?_ (h.due b' hb')
    rintro rfl
    rcases hfinal with ⟨-, hf⟩ | hf
    · cases hf.symm.trans hb'
    · cases hf.symm.trans hb'

/-! ### One step -/

/-- A step of `t` to phase `k`: all that the registrations and the phases say holds after it. -/
structure Settles (offset : Nat → Nat) (t : Nat) (k : Phase) (s s' : State Registry) : Prop where
  registrations : Registrations offset s'
  self : Answers offset t k s'
  others : ∀ u k', u ≠ t → Owns u k' s → Answers offset u k' s → Answers offset u k' s'

theorem State.giveUp_stage_waiting (h : (s.giveUp t).stage t = .waiting) : s.stage t = .waiting := by
  unfold giveUp at h
  split at h
  · simp [setStage] at h
  · exact h

theorem Registry.set_none (i : Nat) (h : m.queue i = none) : m.set i none = m := by
  have hqueue : (fun i' => if i' = i then none else m.queue i') = m.queue := by
    funext i'
    split
    next hi => rw [hi, h]
    · rfl
  simp only [Registry.set, hqueue]

section
variable (hregs : Registrations offset s)
include hregs

namespace Settles

theorem stays (hself : Answers offset t k s) :
    Settles offset t k s s :=
  ⟨hregs, hself, fun _ _ _ _ h => h⟩

/-- A step on the map or the stages: what has to be shown is about the new entry. -/
theorem entry (hown : Owns t k s) (hmoves : Moves t s s')
    (hmanager : s'.manager = s.manager) (hfinal : s'.final = s.final)
    (hwaiting : s'.stage t = .waiting → s.stage t = .waiting ∨ k.held ≠ none)
    (hpending : ∀ r, s'.inflight = some r → r.state = .pending → Abandoned offset s' r.task)
    (hworking : ∀ r, s'.inflight = some r → r.state = .adopted → s'.stage r.task = .working →
      s.final r.task = .none ∧ s.slot offset r.task = some r.task)
    (hself : Answers offset t k' s') : Settles offset t k' s s' where
  registrations := by
    have hslot := @slot_congr offset s s' (by rw [hmanager])
    refine ⟨hmanager ▸ hregs.late, hpending, ?_, ?_, ?_⟩
    · rw [hfinal, hslot]
      exact hworking
    · rw [hfinal, hslot]
      exact hregs.due
    · rw [hfinal, hslot, hmoves.started]
      exact hregs.fresh
  self := hself
  others := by
    intro u _ hne hu h
    refine h.frame (by rw [hmanager]) (fun b _ => by rw [hfinal]) (hmoves.stage u hne) ?_
    intro hk'' b hb
    by_cases hbt : b = t
    · subst hbt
      rcases hwaiting hb with hw | hk
      · exact hw
      · obtain ⟨_, hr⟩ := ne_none_iff_exists'.mp hk
        obtain ⟨_, hr'⟩ := ne_none_iff_exists'.mp hk''
        exact absurd (hown.exclusive hu hr hr') hne
    · exact hmoves.stage b hbt ▸ hb

/-- The entry stays, and the request's handler, if it has one, does not work any more. -/
theorem sameEntry (hown : Owns t k s) (hmoves : Moves t s s')
    (hentry : s'.inflight = s.inflight) (hmanager : s'.manager = s.manager)
    (hfinal : s'.final = s.final) (hstage : s'.stage t ≠ .waiting ∧ s'.stage t ≠ .working)
    (hself : Answers offset t k' s') : Settles offset t k' s s' := by
  refine .entry hregs hown hmoves hmanager hfinal (fun hw => absurd hw hstage.1) ?_ ?_ hself
  · intro r hr hpending
    rw [hentry] at hr
    refine (hregs.pending r hr hpending).frame (by rw [hmanager]) (by rw [hfinal]) ?_
    intro hw
    by_cases hrt : r.task = t
    · exact absurd (hrt ▸ hw) hstage.1
    · exact hmoves.stage r.task hrt ▸ hw
  · intro r hr hadopted hw
    rw [hentry] at hr
    by_cases hrt : r.task = t
    · exact absurd (hrt ▸ hw) hstage.2
    · exact hregs.working r hr hadopted (hmoves.stage r.task hrt ▸ hw)

theorem create {ans : Created} (hown : Owns t (.holds r) s) (hself : Answers offset t (.holds r) s)
    (hreg : r.state = .registering) (hcond : Orderly offset Created t .create s)
    (hexec : execCmd (registry offset) t .create o s = some (ans, s')) :
    Settles offset t (learn t (.holds r) .create ans) s s' := by
  obtain ⟨hfinal, hstart, -⟩ := hself
  obtain ⟨hslot, hstage⟩ := hstart hreg
  -- an error that leaves the queue alone
  have hrefused : ∀ cutShort, (cutShort = true → s.slot offset t = none) →
      Settles offset t (learn t (.holds r) .create ⟨false, cutShort⟩) s s := by
    intro cutShort hfree
    cases cutShort with
    | false => exact .stays hregs fun _ => hslot
    | true => exact .stays hregs ⟨hreg, hfinal, hstage, .inl (hfree rfl)⟩
  simp only [execCmd, registry, Registry.create, map_some] at hexec
  split at hexec
  next hnow =>
    rcases Registry.handleCreate_cases offset t s.manager with hcreate | ⟨href, hfree, hctx, hcreate⟩
    · rw [hcreate] at hexec
      cases hexec
      exact hrefused _ hcond.2.1
    rw [hcreate] at hexec
    cases hexec
    refine ⟨⟨hregs.late, ?_, ?_, ?_, ?_⟩, ?_, ?_⟩
    · intro _ hr' hpending
      exact absurd (hown.entry rfl hr' ▸ hreg) (by simp [hpending])
    · intro _ hr' hadopted
      exact absurd (hown.entry rfl hr' ▸ hreg) (by simp [hadopted])
    · exact fun b hb => push_some hfree (hregs.due b hb)
    · intro u hu
      refine ⟨(hregs.fresh u hu).1, push_ne ?_ (hregs.fresh u hu).2⟩
      rintro rfl
      exact absurd (hown.started.symm.trans hu) (by decide)
    · have hpushed : (s.manager.set (offset t) (some t)).queue (offset t) = some t := set_queue_self
      cases hok : s.manager.course.inserted && s.manager.course.answered with
      | true => exact ⟨hfinal, hpushed⟩
      | false =>
        have hcut : s.manager.course.cutShort = true :=
          hcond.2.2 ⟨hnow, href, hfree, hctx, Bool.and_eq_false_iff.mp hok⟩
        simp only [learn, afterCreate, hcut]
        exact ⟨hreg, hfinal, hstage, .inr hpushed⟩
    · intro _ k' hne hu h
      have hk' : ∀ r', k'.held ≠ some r' := fun r' hr' => hne (hown.exclusive hu rfl hr')
      cases k' with
      | idle => exact ⟨h.1, push_ne hne h.2.1, h.2.2⟩
      | failed => exact push_ne hne h
      | reporting => exact ⟨h.1, push_some hfree h.2⟩
      | ready => exact h
      | kept => trivial
      | ended => trivial
      | _ => exact absurd rfl (hk' _)
  next hlate => exact absurd hlate hcond.1
  · cases hexec
    exact hrefused _ hcond.2.1

theorem finish (hown : Owns t (.holds r) s) (hself : Answers offset t (.holds r) s)
    (hadopted : r.state = .adopted) :
    Settles offset t (.leaving r) s ((s.setFinal t .due).setStage t .ending) := by
  obtain ⟨hfinal, -, hslot⟩ := hself
  have hother : ∀ b, b ≠ t → ((s.setFinal t .due).setStage t .ending).final b = s.final b :=
    fun b hb => if_neg hb
  refine ⟨⟨hregs.late, ?_, ?_, ?_, ?_⟩, fun h => by simp [hadopted] at h, ?_⟩
  · intro _ hr' hpending
    exact absurd (hown.entry rfl hr' ▸ hadopted) (by simp [hpending])
  · intro _ hr' _ hworking
    obtain rfl : r.task = t := (hown.held r rfl).2.1
    rw [← hown.entry rfl hr'] at hworking
    simp [setStage] at hworking
  · intro b hb
    by_cases hbt : b = t
    · exact hbt ▸ hslot hadopted
    · exact hregs.due b ((hother b hbt).symm.trans hb)
  · intro u hu
    have hut : u ≠ t := by
      rintro rfl
      exact absurd (hown.started.symm.trans hu) (by decide)
    exact ⟨(hother u hut).trans (hregs.fresh u hu).1, (hregs.fresh u hu).2⟩
  · intro _ k' hne hu h
    have hk' : k'.held = none := by
      cases hk' : k'.held with
      | none => rfl
      | some => exact absurd (hown.exclusive hu rfl hk') hne
    refine h.frame rfl ?_ (if_neg hne) fun h => absurd hk' h
    intro b hb
    refine hother b ?_
    rintro rfl
    rcases hb with ⟨-, rfl | hheld⟩ | hf
    · exact hne rfl
    · exact hheld hk'
    · cases hfinal.symm.trans hf

end Settles

variable (hown : Owns t k s) (hself : Answers offset t k s)
include hown hself

namespace Settles

theorem report {ans : Bool} (howes : k.owes t b) (hcond : Orderly offset Bool t (.report b) s)
    (hexec : execCmd (registry offset) t (.report b) o s = some (ans, s')) :
    Settles offset t (k.learn t (.report b) ans) s s' := by
  have hslot := (hself.owed howes).1
  simp only [execCmd, registry, Registry.report, map_some] at hexec
  split at hexec
  next hnow =>
    rw [hcond.2 hnow] at hexec
    cases hexec
    refine ⟨hregs.pop hself hown howes, ?_, ?_⟩
    · have hpopped : (s.pop offset b).slot offset b ≠ some b := by
        rw [slot, pop, set_queue_self]
        simp
      cases k with
      | retiring =>
        obtain ⟨hreg, hf, hs, hw, -⟩ := hself
        exact ⟨hf, fun _ => ⟨pop_ne hs, hw⟩, fun hadopted => by simp [hreg] at hadopted⟩
      | doubtful | dropping =>
        obtain rfl : b = t := howes
        exact fun _ => hpopped
      | reporting => trivial
      | _ => exact howes.elim
    · intro _ _ hne hu h
      exact h.pop hslot fun x hx => hself.ne_popped hown howes hu hne hx
  next hlate => exact absurd hlate hcond.1
  · cases hexec
    exact .stays hregs hself

theorem loadOrStore {ans : Option Reservation} (hallowed : k.allowed t (.loadOrStore mine))
    (hcond : Orderly offset _ t (.loadOrStore mine) s)
    (hexec : execCmd (registry offset) t (.loadOrStore mine) o s = some (ans, s')) :
    Settles offset t (k.learn t (.loadOrStore mine) ans) s s' := by
  have hmoves := (exec_owns hown hallowed hexec).1
  simp only [execCmd] at hexec
  split at hexec
  · cases hexec
    exact .stays hregs hself
  rename_i hnone
  cases hexec
  have hadopted : mine.state ≠ .adopted := fun h => hcond h hnone
  cases k with
  | idle =>
    have hreg : mine.state = .registering := hallowed.2
    have hstage : (s.put t mine).stage = s.stage := put_stage hadopted
    refine .entry hregs hown hmoves put_manager put_final ?_ ?_ ?_ ?_
    · rw [hstage]
      exact .inl
    · rw [put_inflight]
      rintro _ ⟨⟩ hpending
      simp [hreg] at hpending
    · rw [put_inflight]
      rintro _ ⟨⟩ h
      exact absurd h hadopted
    refine ⟨?_, fun _ => ?_, fun h => absurd h hadopted⟩
    · rw [put_final]
      exact hself.1
    · rw [slot, put_manager, hstage]
      exact hself.2
  | ready => exact absurd hallowed.2 hadopted
  | _ => exact hallowed.2.elim

theorem compareAndSwap {old new : Reservation} {ans : Bool} (hallowed : k.allowed t (.compareAndSwap old new))
    (hcond : Orderly offset _ t (.compareAndSwap old new) s)
    (hexec : execCmd (registry offset) t (.compareAndSwap old new) o s = some (ans, s')) :
    Settles offset t (k.learn t (.compareAndSwap old new) ans) s s' := by
  have hmoves := (exec_owns hown hallowed hexec).1
  simp only [execCmd] at hexec
  split at hexec
  next hentry =>
    cases hexec
    have habandoned := hregs.pending old hentry hallowed.1
    have hnew : ∀ r, (s.put t new).inflight = some r → new = r := fun r hr =>
      some.inj (put_inflight.symm.trans hr)
    cases k with
    | idle =>
      have hreg : new.state = .registering := hallowed.2.2
      have hadopted : new.state ≠ .adopted := hreg ▸ by decide
      have hstage : (s.put t new).stage = s.stage := put_stage hadopted
      refine .entry hregs hown hmoves put_manager put_final ?_ ?_ ?_ ?_
      · rw [hstage]
        exact .inl
      · intro r hr hpending
        exact absurd (hnew r hr ▸ hreg) (by simp [hpending])
      · intro r hr h
        exact absurd h (hnew r hr ▸ hadopted)
      simp only [learn, hadopted, false_and, if_false]
      refine ⟨hreg, ?_, ?_, ?_, habandoned.frame ?_ ?_ ?_⟩
      · rw [put_final]
        exact hself.1
      · rw [slot, put_manager]
        exact hself.2.1
      · rw [hstage]
        exact hself.2.2
      · rw [put_manager]
      · rw [put_final]
      · rw [hstage]
        exact id
    | ready =>
      -- the request's own pending entry: it is registered, since its handler has come
      have hadopted : new.state = .adopted := hallowed.2.2
      have hold : old.task = t := hcond hadopted
      rw [hold] at habandoned
      have hslot : s.slot offset t = some t := habandoned.2.resolve_right fun h => h.2 hself
      refine .entry hregs hown hmoves put_manager put_final ?_ ?_ ?_ ?_
      · exact fun _ => .inl hself
      · intro r hr hpending
        exact absurd (hnew r hr ▸ hadopted) (by simp [hpending])
      · intro r hr _ _
        obtain rfl : r.task = t := hnew r hr ▸ hallowed.2.1
        exact ⟨habandoned.1, hslot⟩
      simp only [learn, hadopted, hold, and_self, if_true]
      refine ⟨?_, fun h => by simp [hadopted] at h, fun _ => ?_⟩
      · rw [put_final]
        exact habandoned.1
      · rw [slot, put_manager]
        exact hslot
    | _ => exact hallowed.2.2.elim
  · cases hexec
    exact .stays hregs hself

theorem store (hallowed : k.allowed t (.store r)) :
    Settles offset t .ready s ((s.put t r).setStage t .waiting) := by
  have hmoves := (@exec_owns _ _ (registry offset) _ _ _ _ _ (.store r) {} () hown hallowed rfl).1
  obtain ⟨⟨_, rfl, -⟩, htask, hpending⟩ := hallowed
  have hnew : ∀ r', ((s.put t r).setStage t .waiting).inflight = some r' → r = r' := fun r' hr =>
    some.inj (put_inflight.symm.trans hr)
  refine .entry hregs hown hmoves put_manager put_final (fun _ => .inr nofun) ?_ ?_ ?_
  · intro r' hr _
    obtain rfl := hnew r' hr
    rw [htask]
    refine ⟨?_, .inl ?_⟩
    · show (s.put t r).final t = .none
      rw [put_final]
      exact hself.1
    · show (s.put t r).manager.queue (offset t) = some t
      rw [put_manager]
      exact hself.2
  · intro r' hr hadopted
    exact absurd (hnew r' hr ▸ hpending) (by simp [hadopted])
  · exact if_pos rfl

theorem keepForRetire {left : Reservation} (hallowed : k.allowed t (.keepForRetire mine left)) :
    Settles offset t k.afterKeep s ((s.put t left).giveUp t) := by
  obtain ⟨hheld, hleft, howes⟩ := hallowed
  have hadopted : left.state ≠ .adopted := hleft ▸ by decide
  have hmoves := (@owns_keepForRetire _ _ _ _ mine left hown hheld hleft (by
    cases k with
    | retiring =>
      simp only [afterKeep]
      split <;> rfl
    | _ => rfl)).1
  have hslot := @slot_congr offset s ((s.put t left).giveUp t) (by simp)
  have hwaiting : ((s.put t left).giveUp t).stage t = .waiting → s.stage t = .waiting := fun h =>
    put_stage hadopted ▸ giveUp_stage_waiting h
  refine .entry hregs hown hmoves (by simp) (by simp) (fun h => .inl (hwaiting h)) ?_ ?_ ?_
  · rw [giveUp_inflight, put_inflight]
    rintro r ⟨⟩ -
    have habandoned : Abandoned offset s left.task := by
      cases k with
      | retiring _ b =>
        have hb : left.task = b := howes
        exact hb ▸ hself.2.2.2.2
      | doubtful =>
        have hb : left.task = t := howes
        rw [hb]
        refine ⟨hself.2.1, ?_⟩
        rcases hself.2.2.2 with hs | hs
        · exact .inr ⟨hs, hself.2.2.1⟩
        · exact .inl hs
      | dropping =>
        have hb : left.task = t := howes
        rw [hb]
        exact ⟨hself.1, .inl hself.2.1⟩
      | reporting => cases hheld
      | _ => exact howes.elim
    refine habandoned.frame (by simp) (by simp) ?_
    by_cases hb : left.task = t
    · rw [hb]
      exact hwaiting
    · exact hmoves.stage left.task hb ▸ id
  · rw [giveUp_inflight, put_inflight]
    rintro _ ⟨⟩ h
    exact absurd h hadopted
  · cases k with
    | retiring =>
      simp only [afterKeep, hself.1, if_true]
      show ((s.put t left).giveUp t).slot offset t ≠ some t
      rw [hslot]
      exact hself.2.2.1
    | _ => trivial

theorem compareAndDelete {ans : Unit} (hallowed : k.allowed t (.compareAndDelete mine))
    (hexec : execCmd (registry offset) t (.compareAndDelete mine) o s = some (ans, s')) :
    Settles offset t k.afterRelease s s' := by
  have hmoves := (owns_compareAndDelete hown hallowed hexec).1
  simp only [execCmd] at hexec
  split at hexec
  · cases hexec
    refine .entry hregs hown hmoves (by simp) (by simp) (fun h => .inl ?_) ?_ ?_ ?_
    · exact giveUp_stage_waiting (s := { s with inflight := none }) h
    · intro _ hr
      rw [giveUp_inflight] at hr
      cases hr
    · intro _ hr
      rw [giveUp_inflight] at hr
      cases hr
    rcases hallowed with rfl | ⟨rfl, -⟩
    · simp only [afterRelease]
      split
      next hreg =>
        have hslot := hself hreg
        simpa [Answers, slot] using hslot
      · trivial
    · trivial
  next hentry =>
    cases hexec
    rcases hallowed with rfl | ⟨rfl, -⟩
    · exact absurd (hown.held mine rfl).1 hentry
    · rw [giveUp_eq (hown.free rfl).2]
      exact .stays hregs hself

end Settles

/-- A step that is orderly keeps what the phases say about the registrations. -/
theorem exec_settles {β : Type} {e : Cmd β} {ans : β} (hallowed : k.allowed t e)
    (hcond : Orderly offset β t e s) (hexec : execCmd (registry offset) t e o s = some (ans, s')) :
    Settles offset t (k.learn t e ans) s s' := by
  have hmoves := (exec_owns hown hallowed hexec).1
  cases e with
  | checks | now | upload =>
    cases hexec
    exact .stays hregs hself
  | preReturn ok =>
    cases hexec
    cases ok with
    | true => exact .stays hregs hself
    | false => exact .stays hregs trivial
  | loadOrStore => exact .loadOrStore hregs hown hself hallowed hcond hexec
  | compareAndSwap => exact .compareAndSwap hregs hown hself hallowed hcond hexec
  | store =>
    cases hexec
    exact .store hregs hown hself hallowed
  | compareAndDelete => exact .compareAndDelete hregs hown hself hallowed hexec
  | keepForRetire mine =>
    simp only [execCmd, (hown.held mine hallowed.1).1, if_true] at hexec
    cases hexec
    exact .keepForRetire hregs hown hself hallowed
  | create =>
    obtain ⟨_, rfl, hreg⟩ := hallowed
    exact .create hregs hown hself hreg hcond hexec
  | report => exact .report hregs hown hself hallowed hcond hexec
  | manager step =>
    cases step with
    | retire i =>
      simp only [execCmd, registry, Registry.own, map_some, Registry.set_none _ i hcond] at hexec
      cases hexec
      exact .stays hregs hself
    | deliver => simp [execCmd, registry, Registry.own, hregs.late] at hexec
  | push =>
    obtain ⟨_, rfl, hadopted⟩ := hallowed
    cases hexec
    split at hmoves <;> rename_i hflag
    · simp only [learn, hflag, if_true]
      exact .stays hregs hself
    simp only [learn, hflag, if_false, Bool.false_eq_true]
    have hstage : (s.setStage t .ending).stage t = .ending := if_pos rfl
    exact .sameEntry hregs hown hmoves rfl rfl rfl (by rw [hstage]; decide)
      ⟨hself.1, hself.2.2 hadopted, hstage⟩
  | finish =>
    obtain ⟨_, rfl, hadopted⟩ := hallowed
    cases hexec
    exact .finish hregs hown hself hadopted
  | handlerReturn =>
    cases hexec
    have hstage : (s.setStage t .returned).stage t = .returned := if_pos rfl
    exact .sameEntry hregs hown hmoves rfl rfl rfl (by rw [hstage]; decide) trivial
  | stuck => cases hexec

end

theorem startJob_final {j : Job} (h : startJob t j s = some s') :
    (∃ b, j = .finalReport b ∧ s.final b = .due ∧
      ∀ u, s'.final u = if u = b then .started t else s.final u) ∨
    firstPhase t j = .idle ∧ s'.final = s.final := by
  simp only [startJob] at h
  split at h
  · cases h
  cases j with
  | request | manager =>
    cases h
    exact .inr ⟨rfl, rfl⟩
  | finalReport b =>
    dsimp only at h
    split at h
    next hdue =>
      cases h
      exact .inl ⟨b, rfl, hdue, fun _ => rfl⟩
    · cases h

theorem start_settles {j : Job} (hheld : Held s) (hregs : Registrations offset s)
    (hstart : startJob t j s = some s') :
    Registrations offset s' ∧ Answers offset t (firstPhase t j) s' ∧
      ∀ u k, Answers offset u k s → Answers offset u k s' := by
  obtain ⟨hfresh, hstarted, hentry, -, hstage, hmanager⟩ := startJob_eq hstart
  have hslot := @slot_congr offset s s' (by rw [hmanager])
  have hnew : ∀ u, s'.started u = false → s.started u = false := by
    intro _ hu
    rw [hstarted] at hu
    split at hu
    · cases hu
    · exact hu
  -- a report that was due may have a reporter now; everything else is as it was
  obtain ⟨hother, hdue, hself⟩ : (∀ u, s.final u ≠ .due → s'.final u = s.final u) ∧
      (∀ u, s'.final u = .due → s.final u = .due) ∧ Answers offset t (firstPhase t j) s' := by
    rcases startJob_final hstart with ⟨b, rfl, hdue, hfinal⟩ | ⟨hidle, hfinal⟩
    · refine ⟨fun u hu => ?_, fun u hu => ?_, (hfinal b).trans (if_pos rfl), hslot ▸ hregs.due b hdue⟩
      · rw [hfinal, if_neg]
        rintro rfl
        exact hu hdue
      rw [hfinal] at hu
      split at hu
      · cases hu
      · exact hu
    · refine ⟨fun _ _ => by rw [hfinal], fun _ => hfinal ▸ id, ?_⟩
      rw [hidle]
      obtain ⟨hf, hs⟩ := hregs.fresh t hfresh
      refine ⟨hfinal ▸ hf, hslot ▸ hs, ?_⟩
      rw [hstage, hheld.fresh t hfresh]
      decide
  refine ⟨⟨hmanager ▸ hregs.late, ?_, ?_, fun b hb => hslot ▸ hregs.due b (hdue b hb), ?_⟩, hself, ?_⟩
  · intro r hr hpending
    have h := hregs.pending r (hentry ▸ hr) hpending
    exact h.frame (by rw [hmanager]) (hother _ (by simp [h.1])) (by rw [hstage]; exact id)
  · intro r hr hadopted hworking
    obtain ⟨hf, hs⟩ := hregs.working r (hentry ▸ hr) hadopted (hstage ▸ hworking)
    exact ⟨(hother _ (by simp [hf])).trans hf, hslot ▸ hs⟩
  · intro u hu
    obtain ⟨hf, hs⟩ := hregs.fresh u (hnew u hu)
    exact ⟨(hother u (by simp [hf])).trans hf, hslot ▸ hs⟩
  · intro _ _ h
    refine h.frame (by rw [hmanager]) (fun x hx => hother x ?_) (by rw [hstage]) (by rw [hstage]; exact fun _ _ => id)
    rcases hx with ⟨hf, -⟩ | hf <;> simp [hf]

/-- **Charge.** In every run of orderly steps each registration is answered for. -/
theorem registrations_sound (offset : Nat → Nat) :
    Sound (resumable (registry offset)) phases firstPhase (Orderly offset)
      (fun s => Held s ∧ Registrations offset s)
      (fun t k s => Owns t k s ∧ Answers offset t k s) := by
  refine (resumable_sound (registry offset)).extend ⟨?_, ?_, ?_⟩
  · intro _ _ _ _ hheld hregs hstart _
    obtain ⟨hregs', hself, hothers⟩ := start_settles hheld hregs hstart
    exact ⟨hregs', hself, fun u k _ h => hothers u k h⟩
  · intro _ _ _ _ _ _ _ _ _ hregs hown hself hallowed hcond hexec _ _
    have hs := exec_settles hregs hown hself hallowed hcond hexec
    exact ⟨hs.registrations, hs.self, hs.others⟩
  intro _ _ _ _ hregs henv
  cases henv
  refine ⟨{ hregs with }, fun u k h => ?_⟩
  exact h.frame rfl (fun _ _ => rfl) rfl fun _ _ => id

/-- A pre-check that leaves its own task in the map ends with it there. -/
theorem kept_entry {β : Type} {e : Cmd β} {ans : β} (hown : Owns t k s) (hallowed : k.allowed t e)
    (hexec : execCmd (registry offset) t e o s = some (ans, s')) (hkept : k.learn t e ans = .kept) :
    ∃ r, s'.inflight = some r ∧ r.task = t ∧ r.state = .pending := by
  cases e with
  | keepForRetire mine left =>
    obtain ⟨hheld, hleft, howes⟩ := hallowed
    simp only [execCmd, (hown.held mine hheld).1, if_true] at hexec
    cases hexec
    refine ⟨left, by simp, ?_, hleft⟩
    cases k with
    | doubtful => exact howes
    | retiring =>
      simp only [learn, afterKeep] at hkept
      split at hkept <;> cases hkept
    | _ => cases hkept
  -- no other call leads to this phase
  | checks | manager =>
    cases hallowed
    cases hkept
  | now => exact absurd hkept hallowed
  | loadOrStore =>
    cases ans with
    | none => cases hkept
    | some =>
      cases hkept
      exact hallowed.2.elim
  | compareAndSwap =>
    cases ans with
    | true =>
      simp only [learn] at hkept
      split at hkept <;> cases hkept
    | false =>
      cases hkept
      exact hallowed.2.2.elim
  | compareAndDelete =>
    rcases hallowed with rfl | ⟨rfl, -⟩
    · simp only [learn, afterRelease] at hkept
      split at hkept <;> cases hkept
    · cases hkept
  | create =>
    obtain ⟨_, rfl, -⟩ := hallowed
    simp only [learn, afterCreate] at hkept
    split at hkept
    · cases hkept
    · split at hkept <;> cases hkept
  | report => cases ans <;> cases k <;> first | exact hallowed.elim | cases hkept
  | push =>
    obtain ⟨_, rfl, -⟩ := hallowed
    cases ans <;> cases hkept
  | upload | finish =>
    obtain ⟨_, rfl, -⟩ := hallowed
    cases hkept
  | preReturn ok =>
    cases ok with
    | true =>
      cases hallowed
      cases hkept
    | false => cases hkept
  | store | handlerReturn => cases hkept
  | stuck => cases ans

/-! ## No leak, no hit -/

/-- The pre-check returns an error. -/
def returning : Option (Prog Cmd Unit) → Bool
  | some (.call (.preReturn false) _) => true
  | _ => false

/-- The task whose report the manager may carry out at a call. -/
def Cmd.reported (m : Registry) : {β : Type} → Cmd β → Option Nat
  | _, .report b => some b
  | _, .manager (.deliver i) =>
    match m.late[i]? with
    | some (.report b) => some b
    | _ => none
  | _, _ => none

/-- That task, for the next step of a thread. -/
def reporting : Option (Prog Cmd Unit) → Option Nat
  | some (.call e _) => e.reported m
  | _ => none

/-- What an action leaves of the registrations. -/
structure Accounted (offset : Nat → Nat) (a : Action Nat Oracle Job Course)
    (c c' : Config Cmd Nat (State Registry)) : Prop where
  /-- A pre-check that fails leaves no registration, or leaves its task in the map. -/
  noLeak : ∀ t o, a = .step t o → returning (c'.threads t) = true →
    c'.state.slot offset t ≠ some t ∨
      ∃ r, c'.state.inflight = some r ∧ r.task = t ∧ r.state = .pending
  /-- A handler works while its task is registered. -/
  registered : ∀ t, c'.state.stage t = .working → c'.state.slot offset t = some t
  /-- A report of a task removes no other. -/
  noHit : ∀ t o b, a = .step t o → reporting c.state.manager (c.threads t) = some b →
    ∀ i x, x ≠ b → c.state.manager.queue i = some x → c'.state.manager.queue i = some x

/-- **Registrations neither leak nor hit another request**, in every run whose steps
are orderly. -/
theorem orderly_registrations_accounted (offset : Nat → Nat) (course : Course)
    {c c' : Config Cmd Nat (State Registry)} {a : Action Nat Oracle Job Course}
    (hreach : (resumable (registry offset)).Reach (Orderly offset) { manager := { course } } c)
    (hmeets : Meets (Orderly offset) a c) (hact : (resumable (registry offset)).act a c = some c') :
    Accounted offset a c c' := by
  have hsound := registrations_sound offset
  have hinit : Registrations offset { manager := { course } } :=
    ⟨rfl, nofun, nofun, nofun, fun _ _ => ⟨rfl, nofun⟩⟩
  obtain ⟨⟨hheld, hregs⟩, hthreads⟩ := hsound.reach ⟨held_init _, hinit⟩ hreach
  obtain ⟨⟨hheld', hregs'⟩, -⟩ := hsound.act ⟨hheld, hregs⟩ hthreads hmeets hact
  refine ⟨?_, fun t hworking => ?_, ?_⟩
  · rintro t _ rfl hret
    obtain ⟨_, hnext'⟩ : ∃ next, c'.threads t = some (.call (.preReturn false) next) := by
      unfold returning at hret
      split at hret
      · exact ⟨_, ‹_›⟩
      · cases hret
    obtain rfl | ⟨β, e, next, ans, s', hthread, hexec, rfl⟩ := act_step hact
    · simp [setThread] at hnext'
    simp only [setThread, if_true, some.injEq] at hnext'
    obtain ⟨_, hfollows, hown, hself⟩ := hthreads t _ hthread
    have hsettles := exec_settles hregs hown hself hfollows.1 (hmeets β e next hthread) hexec
    have hend := hfollows.2 ans trivial
    rw [hnext'] at hend
    have hself' := hsettles.self
    rcases hend.1 with hk | hk | hk
    · exact .inl ((hk ▸ hself' : Answers offset t .idle s').2.1)
    · exact .inl (hk ▸ hself' : Answers offset t .failed s')
    · exact .inr (kept_entry hown hfollows.1 hexec hk)
  · obtain ⟨r, hr, rfl, hadopted⟩ := hheld'.holder t (by rw [hworking]; rfl)
    exact (hregs'.working r hr hadopted hworking).2
  · rintro t o _ rfl hreport i x hne hx
    -- without calls on their way, only a thread that reports has one carried out
    obtain ⟨_, hthread⟩ : ∃ next, c.threads t = some (.call (.report _) next) := by
      unfold reporting at hreport
      split at hreport
      next e next heq =>
        rw [heq]
        cases e with
        | report =>
          cases hreport
          exact ⟨next, rfl⟩
        | manager step =>
          cases step with
          | retire => cases hreport
          | deliver => simp [Cmd.reported, hregs.late] at hreport
        | _ => cases hreport
      · cases hreport
    obtain ⟨_, hfollows, -, hself⟩ := hthreads t _ hthread
    obtain rfl | ⟨_, _, _, _, _, hthread', hexec, rfl⟩ := act_step hact
    · exact hx
    · cases hthread.symm.trans hthread'
      simp only [resumable, execCmd, registry, Registry.report, map_some] at hexec
      split at hexec
      · cases hexec
        exact pop_some (hself.owed hfollows.1).1 hne hx
      next hlate => exact absurd hlate (hmeets _ _ _ hthread).1
      · cases hexec
        exact hx

end

/-- A pre-check that registers its task at once, and the adoption by its handler. -/
def adoptsRegistered (t : Nat) : List (Action Nat Oracle Job Course) :=
  stepsOf t [{}, {}, {}, {}, {}, {}, {}, {}, {}]

/-- While the first request uploads, a second one finds its entry. -/
def refusesSecond : List (Action Nat Oracle Job Course) :=
  .start 0 (.request 1) :: adoptsRegistered 0 ++ [.step 0 {}, .start 1 (.request 1)] ++ stepsOf 1 [{}, {}]

theorem orderly_registrations_accounted_sample :
    ∃ c c', Accounted id (.step 1 {}) c c' ∧ c'.state.slot id 0 = some 0 ∧
      returning (c'.threads 1) = true ∧ c'.state.inflight = some ⟨0, .adopted, 0⟩ := by
  obtain ⟨c, c', hreach, hact, hmeets, hworking, hret, hentry⟩ : ∃ c c',
      (resumable (registry id)).Reach (Orderly id) { manager := {} } c ∧
        (resumable (registry id)).act (.step 1 {}) c = some c' ∧
        meets (Orderly id) (.step 1 {} : Action Nat Oracle Job Course) c = true ∧
        c'.state.stage 0 = .working ∧ returning (c'.threads 1) = true ∧
        c'.state.inflight = some ⟨0, .adopted, 0⟩ :=
    Reach.exists_act refusesSecond _ (by decide +kernel)
  have h := orderly_registrations_accounted id {} hreach (meets_of_check hmeets) hact
  exact ⟨c, c', h, h.registered 0 hworking, hret, hentry⟩

/-- The manager pushes the task and cannot insert its progress row; the pre-check
takes the answer as a refusal and frees the entry. -/
def leakRun : List (Action Nat Oracle Job Course) :=
  .start 0 (.request 1) :: stepsOf 0 [{}, {}, {}] ++ [.env { inserted := false }] ++ stepsOf 0 [{}]

/-- The first request's handler comes late: a second request has retired its task,
uploaded and left the map empty. -/
def strayRun : List (Action Nat Oracle Job Course) :=
  .start 0 (.request 1) :: stepsOf 0 [{}, {}, {}, {}, {}, {}, {}] ++ [.start 1 (.request 1)] ++
    stepsOf 1 [{}, { now := 40000000000 }, {}, {}, {}, {}, { now := 40000000000 }, {}, {},
      { now := 40000000000 }, {}, {}, {}, {}, {}, {}] ++ stepsOf 0 [{}]

/-- The answer to a final report is lost. Before the next attempt a second request
registers its task at the same offset. -/
def hitRun : List (Action Nat Oracle Job Course) :=
  .start 0 (.request 1) :: adoptsRegistered 0 ++ stepsOf 0 [{}, {}, {}, {}, {}] ++
    [.start 2 (.finalReport 0), .env { answered := false }, .step 2 {}, .env {},
      .start 1 (.request 1)] ++ stepsOf 1 [{}, {}, {}, {}]

/-- A registration leaks, a handler works without one, and a report hits another. -/
theorem registrations_not_accounted :
    (∃ c c', (resumable (registry id)).Reach always { manager := {} } c ∧
      (resumable (registry id)).act (.step 0 {}) c = some c' ∧ returning (c'.threads 0) = true ∧
        c'.state.slot id 0 = some 0 ∧ c'.state.inflight = none) ∧
    (∃ c c', (resumable (registry id)).Reach always { manager := {} } c ∧
      (resumable (registry id)).act (.step 0 {}) c = some c' ∧ c'.state.stage 0 = .working ∧
        c'.state.slot id 0 = none) ∧
    ∃ c c', (resumable (registry fun _ => 0)).Reach always { manager := {} } c ∧
      (resumable (registry fun _ => 0)).act (.step 2 {}) c = some c' ∧
        reporting c.state.manager (c.threads 2) = some 0 ∧ c.state.manager.queue 0 = some 1 ∧
          c'.state.manager.queue 0 = none := by
  refine ⟨?_, ?_, ?_⟩
  · exact Reach.exists_act leakRun _ (by decide +kernel)
  · exact Reach.exists_act strayRun _ (by decide +kernel)
  · exact Reach.exists_act hitRun _ (by decide +kernel)

end Uploader.Inflight

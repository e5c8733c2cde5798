-- SUMMARY: What one call of a thread does to the world.
import MocaSP.Signer.ConformDispose

/-!
# One call of a thread

`exec_does` inverts `exec`. Calls that only steer, such as clocks, notes and
audit markers, are *idle*: they leave alone everything an invariant speaks about
and teach nothing.
-/

namespace Signer
open World Signer.Fact

/-! ## Worlds that differ in nothing that matters -/

/-- A process changed in nothing but its clock, its markers, the steering notes
and a lease let go. -/
structure Proc.Same (v v' : Proc) : Prop where
  locked : v'.locked = v.locked
  mem : ∀ s, ∃ notes, v'.mem s = { v.mem s with notes } ∧ notes.epoch = (v.mem s).notes.epoch
  held : v'.lease.held = true → v.lease.held = true
  epoch : v'.lease.epoch = v.lease.epoch

theorem Proc.Same.refl (v : Proc) : v.Same v := ⟨rfl, fun _ => ⟨_, rfl, rfl⟩, id, rfl⟩

/-- Nothing an invariant speaks about changed. -/
structure Quiet (w w' : World) : Prop where
  log : w'.log = w.log
  db : w'.db = { w.db with now := w'.db.now }
  height : w.height ≤ w'.height
  procs : ∀ p, (w.procs p).Same (w'.procs p)

namespace Quiet

variable {w w' : World}

theorem refl (w : World) : Quiet w w := ⟨rfl, rfl, .refl, fun _ => .refl _⟩

theorem locked (h : Quiet w w') (p : String) : (w'.procs p).locked = (w.procs p).locked :=
  (h.procs p).locked

theorem terminalRetry (h : Quiet w w') (p : String) (s : SignType) :
    (w'.mem p s).terminalRetry = (w.mem p s).terminalRetry := by
  obtain ⟨_, hmem, -⟩ := (h.procs p).mem s
  rw [mem, hmem, mem]

theorem consumeUnknown (h : Quiet w w') (p : String) (s : SignType) :
    (w'.mem p s).consumeUnknown = (w.mem p s).consumeUnknown := by
  obtain ⟨_, hmem, -⟩ := (h.procs p).mem s
  rw [mem, hmem, mem]

theorem awaiting (h : Quiet w w') (p : String) (s : SignType) :
    (w'.mem p s).awaiting = (w.mem p s).awaiting := by
  obtain ⟨_, hmem, -⟩ := (h.procs p).mem s
  rw [mem, hmem, mem]

theorem synced (h : Quiet w w') (p : String) (s : SignType) :
    (w'.mem p s).notes.epoch = (w.mem p s).notes.epoch := by
  obtain ⟨_, hmem, hepoch⟩ := (h.procs p).mem s
  rw [mem, hmem, mem]
  exact hepoch

end Quiet

namespace World

variable (w : World) (p q : String)

theorem setProc_procs (v : Proc) : (w.setProc p v).procs q = if q = p then v else w.procs q := rfl

theorem setProc_mem {w : World} {p q : String} {s : SignType} {v : Proc}
    (hv : v.mem = (w.procs p).mem) : (w.setProc p v).mem q s = w.mem q s := by
  by_cases hq : q = p <;> simp [mem, setProc_procs, hq, hv]

theorem setMem_mem (scope s : SignType) (m : ScopeMem) :
    (w.setMem p scope m).mem q s = if q = p ∧ s = scope then m else w.mem q s := by
  by_cases hq : q = p <;> by_cases hs : s = scope <;>
    simp [setMem, setProc, mem, hq, hs]

theorem setMem_locked (scope : SignType) (m : ScopeMem) :
    ((w.setMem p scope m).procs q).locked = (w.procs q).locked := by
  by_cases hq : q = p <;> simp [setMem, setProc, hq]

theorem setMem_lease (scope : SignType) (m : ScopeMem) :
    ((w.setMem p scope m).procs q).lease = (w.procs q).lease := by
  by_cases hq : q = p <;> simp [setMem, setProc, hq]

end World

theorem Quiet.setProc {w : World} {p : String} {v : Proc} (h : (w.procs p).Same v) :
    Quiet w (w.setProc p v) := by
  refine ⟨rfl, rfl, .refl, fun q => ?_⟩
  rw [setProc_procs]
  split
  next hq => exact hq ▸ h
  · exact .refl _

/-! ## Calls -/

/-- The answers a thread has to expect of a chain read, and what they say of the chain. -/
def Query.Truthful {β : Type} (chain : Chain) (height : Nat) : Query β → β → Prop
  | .receipt h, .ok (some r) => chain.trueReceipt height h r
  | .waitReceipt h, .ok r => chain.trueReceipt height h r ∧ r.status = receiptStatusSuccessful
  | .searchEthereumTx h _, .ok (some v) => chain.trueView height h v
  | .cosmosTx _, .ok (some v) => chain.trueCosmos height v
  | .searchAccSeq _ _ _, .ok vs => ∀ v ∈ vs, chain.trueCosmos height v
  | _, _ => True

/-- What a call of thread `t` in world `w` does: its answer and the world after it. -/
inductive Does (S : Setup) (t : Tid) (w : World) : {β : Type} → Cmd β → β → World → Prop where
  | idle {β : Type} {e : Cmd β} {r : β} {w' : World} (quiet : Quiet w w')
      (learns : ∀ k, learn k e r = k) (answers : ∀ k, answers S t.proc k e r) : Does S t w e r w'
  | lock (scope) (free : (w.procs t.proc).locked scope = none) :
      Does S t w (.lock scope) () (w.setProc t.proc { w.procs t.proc with
        locked := fun s => if s = scope then some t.num else (w.procs t.proc).locked s })
  | unlock (scope) :
      Does S t w (.unlock scope) () (w.setProc t.proc { w.procs t.proc with
        locked := fun s => if s = scope then none else (w.procs t.proc).locked s })
  | loadMem (scope) : Does S t w (.loadMem scope) (w.mem t.proc scope) w
  | setTerminalRetry (scope r) :
      Does S t w (.setTerminalRetry scope r) ()
        (w.setMem t.proc scope { w.mem t.proc scope with terminalRetry := r })
  | setConsumeUnknown (scope o) :
      Does S t w (.setConsumeUnknown scope o) ()
        (w.setMem t.proc scope { w.mem t.proc scope with consumeUnknown := o })
  | putAwaiting (scope operation txHash) :
      Does S t w (.putAwaiting scope operation txHash) ()
        (w.setMem t.proc scope { w.mem t.proc scope with
          awaiting := (operation, txHash) ::
            (w.mem t.proc scope).awaiting.filter (·.1 ≠ operation) })
  | takeAwaiting (scope operation) :
      Does S t w (.takeAwaiting scope operation)
        (((w.mem t.proc scope).awaiting.find? (·.1 = operation)).map Prod.snd)
        (w.setMem t.proc scope { w.mem t.proc scope with
          awaiting := (w.mem t.proc scope).awaiting.filter (·.1 ≠ operation) })
  | setSynced (scope epoch) :
      Does S t w (.setSynced scope epoch) ()
        ((w.setMem t.proc scope { w.mem t.proc scope with
          notes := { (w.mem t.proc scope).notes with epoch } }).logged [.synced t.proc scope epoch])
  | fence (f) (held : ∀ x, f = some x → (w.procs t.proc).lease.held = true ∧
      x = { chainID := S.chainID, owner := t.proc, epoch := (w.procs t.proc).lease.epoch }) :
      Does S t w .fence f w
  | setAcquired (epoch) :
      Does S t w (.setAcquired epoch) () (w.setProc t.proc { w.procs t.proc with
        lease := { held := true, epoch, lastRenew := (w.procs t.proc).clock } })
  | store {β : Type} (c : StoreCall β) (fault : Fault) {r : Except StoreErr β} {db : DB}
      (exec : c.exec fault w.db = some (r, db)) :
      Does S t w (.store c) r { w with db, log := c.events fault w.height w.db ++ w.log }
  | ask {β : Type} (q : Query β) {r : β} (truthful : q.Truthful S.chain w.height r) :
      Does S t w (.ask q) r w
  | send (under txHash answer admitted)
      (refused : (classifyEvmSendError false answer).refused = true → admitted = false) :
      Does S t w (.send under txHash) answer (w.logged [.sent under txHash answer admitted])
  | noteCleared (scope operation epoch) :
      Does S t w (.noteCleared scope operation epoch) ()
        (w.logged [.cleared t scope operation epoch])
  | hand (txHash) :
      Does S t w (.respond (some txHash) false) () (w.logged [.handed t txHash])

variable {β : Type}

/-- A chain read is answered truthfully. -/
theorem Query.exec_truthful {chain : Chain} {height : Nat} {q : Query β} {o : Oracle} {r : β}
    (h : q.exec chain height o = some r) : q.Truthful chain height r := by
  cases q with
  | receipt | searchEthereumTx | cosmosTx =>
    cases o <;> simp only [Query.exec, reduceCtorEq] at h
    split at h
    · split at h
      · cases h
        assumption
      · cases h
    next hne =>
      cases h
      rcases r with e | _ | r
      · trivial
      · trivial
      · exact absurd rfl (hne r)
  | waitReceipt =>
    cases o <;> simp only [Query.exec, reduceCtorEq] at h
    split at h
    · split at h
      · cases h
        assumption
      · cases h
    · cases h
      trivial
    · cases h
      trivial
  | searchAccSeq =>
    cases o <;> simp only [Query.exec, reduceCtorEq] at h
    split at h
    · split at h
      next hall =>
        cases h
        simpa [Query.Truthful] using hall
      · cases h
    next hne =>
      cases h
      rcases r with e | vs
      · trivial
      · exact absurd rfl (hne vs)
  | _ => trivial

variable {S : Setup} {t : Tid} {e : Cmd β}

variable {w w' : World}

theorem exec_does {o : Oracle} {r : β} (h : exec S t e o w = some (r, w')) : Does S t w e r w' := by
  unfold exec at h
  cases e
  case ask q =>
    simp only [Option.map_eq_some_iff, Prod.mk.injEq] at h
    obtain ⟨_, hq, rfl, rfl⟩ := h
    exact .ask q (Query.exec_truthful hq)
  -- the answers that do not fit the call
  all_goals cases o <;> simp only [reduceCtorEq] at h
  case lock.none scope =>
    split at h
    · cases h
    · cases h
      exact .lock scope (by assumption)
  case unlock.none scope =>
    cases h
    exact .unlock scope
  case loadMem.none scope =>
    cases h
    exact .loadMem scope
  case setTerminalRetry.none scope x =>
    cases h
    exact .setTerminalRetry scope x
  case setConsumeUnknown.none scope x =>
    cases h
    exact .setConsumeUnknown scope x
  case putAwaiting.none scope operation txHash =>
    cases h
    exact .putAwaiting scope operation txHash
  case takeAwaiting.none scope operation =>
    cases h
    exact .takeAwaiting scope operation
  case setNotes.none scope f =>
    cases h
    refine .idle (.setProc ⟨rfl, fun s => ?_, id, rfl⟩) (fun _ => rfl) fun _ => trivial
    by_cases hs : s = scope
    · subst hs
      exact ⟨_, if_pos rfl, rfl⟩
    · exact ⟨_, if_neg hs, rfl⟩
  case setSynced.none scope epoch =>
    cases h
    exact .setSynced scope epoch
  case isAudited.none | readLease.none | ctxDone.flag =>
    cases h
    exact .idle (.refl w) (fun _ => rfl) fun _ => trivial
  case setAudited.none | forgetOutcomeCheck.none | setRenewed.none =>
    cases h
    exact .idle (.setProc ⟨rfl, fun _ => ⟨_, rfl, rfl⟩, fun h => h, rfl⟩) (fun _ => rfl)
      fun _ => trivial
  case outcomeCheckDue.none id =>
    have hmark : ∀ v, Quiet w (w.setProc t.proc { w.procs t.proc with outcomeChecked := v }) :=
      fun v => .setProc ⟨rfl, fun _ => ⟨_, rfl, rfl⟩, fun h => h, rfl⟩
    split at h
    · split at h
      · cases h
        exact .idle (.refl w) (fun _ => rfl) fun _ => trivial
      · cases h
        exact .idle (hmark _) (fun _ => rfl) fun _ => trivial
    · cases h
      exact .idle (hmark _) (fun _ => rfl) fun _ => trivial
  case fence.none =>
    split at h
    · cases h
      exact .fence none (by simp)
    rename_i hheld
    cases h
    refine .fence _ ?_
    rintro _ ⟨⟩
    exact ⟨by simpa using fun hn => hheld (.inl hn), rfl⟩
  case setAcquired.none epoch =>
    cases h
    exact .setAcquired epoch
  case setLost.none epoch =>
    split at h
    · cases h
      exact .idle (.refl w) (fun _ => rfl) fun _ => trivial
    · cases h
      exact .idle (.setProc ⟨rfl, fun _ => ⟨_, rfl, rfl⟩, by simp, rfl⟩) (fun _ => rfl)
        fun _ => trivial
  case store.fault c f =>
    split at h
    · cases h
    · cases h
      exact .store c _ (by assumption)
  case send.sent under txHash answer admitted =>
    split at h
    · cases h
    rename_i hadm
    cases h
    refine .send under txHash _ _ fun href => ?_
    simpa [href] using hadm
  case sign.signed scope operation nonce =>
    split at h
    · cases h
      exact .idle (.refl w) (fun _ => rfl) fun _ => trivial
    split at h
    next hsigned =>
      cases h
      exact .idle (.refl w) (fun _ => rfl) fun _ => ⟨hsigned.2.2, hsigned.2.1⟩
    · cases h
  case noteCleared.none scope operation epoch =>
    cases h
    exact .noteCleared scope operation epoch
  case respond.none txHash failed =>
    rcases txHash with _ | x
    · cases h
      exact .idle (.refl w) (fun _ => rfl) fun _ => trivial
    cases failed with
    | false =>
      cases h
      exact .hand x
    | true =>
      cases h
      exact .idle (.refl w) (fun _ => rfl) fun _ => trivial

theorem Env.quiet (v : Env) (w : World) : Quiet w (v.act w) := by
  cases v with
  | height => exact ⟨rfl, rfl, Nat.le_add_right _ _, fun _ => .refl _⟩
  | clock => exact .setProc ⟨rfl, fun _ => ⟨_, rfl, rfl⟩, id, rfl⟩
  | dbTime => exact ⟨rfl, rfl, .refl, fun _ => .refl _⟩

/-- What starting a job needs and does. -/
structure Starts (S : Setup) (may : Tid → Job → Bool) (t : Tid) (j : Job) (w w' : World) : Prop where
  world : w' = { w with nextThread := w.nextThread + 1 }
  num : t.num = w.nextThread
  may : may t j = true
  command : j.isCommand = true ↔ t.proc = cliName
  fence : ∀ f, j.fence? = some f → f.owner = t.proc ∧ f.chainID = S.chainID ∧
    Event.acquired t.proc f.epoch ∈ w.log

theorem system_starts {may : Tid → Job → Bool} {j : Job} {w w' : World}
    (h : (system S may).start t j w = some w') : Starts S may t j w w' := by
  simp only [system] at h
  split at h
  next hready =>
    cases h
    obtain ⟨hnum, hmay, hready⟩ := hready
    simp only [Job.ready, Bool.and_eq_true] at hready
    obtain ⟨⟨hcmd, -⟩, hfence⟩ := hready
    refine ⟨rfl, hnum, hmay, ?_, fun f hf => ?_⟩
    · simp only [decide_eq_true_eq] at hcmd
      rw [hcmd, decide_eq_true_eq]
    · simpa [hf, and_assoc] using hfence
  · cases h

/-! ## Shapes of calls -/

variable {c : StoreCall β}

/-- How a store call goes: it changes nothing and fails, or it commits, is
logged, and answers or loses its answer. -/
theorem StoreCall.exec_commits {fault : Fault} {db db' : DB} {r : Except StoreErr β} (height : Nat)
    (h : c.exec fault db = some (r, db')) :
    (db' = db ∧ c.events fault height db = [] ∧ ∃ e, r = .error e) ∨
      ∃ b, c.run db = .ok (b, db') ∧ c.events fault height db = c.event height b ∧
        (r = .ok b ∨ r = .error c.lostReply) := by
  unfold StoreCall.exec at h
  unfold StoreCall.events
  split at h
  next b _ hrun =>
    cases h
    exact .inr ⟨b, hrun, by rw [hrun]; rfl, .inl rfl⟩
  next e hrun =>
    cases h
    exact .inl ⟨rfl, by rw [hrun], e, rfl⟩
  · cases h
    refine .inl ⟨rfl, ?_, _, rfl⟩
    cases c.run db <;> rfl
  next applied b _ hrun =>
    cases h
    cases applied with
    | true => exact .inr ⟨b, hrun, by rw [hrun]; rfl, .inr rfl⟩
    | false => exact .inl ⟨rfl, by rw [hrun]; rfl, _, rfl⟩
  · cases h

/-- The calls whose commits are logged. -/
def StoreCall.isLogged {β : Type} : StoreCall β → Bool
  | .acquireLease .. | .record .. | .resolvePending .. | .consumeOutcome .. => true
  | _ => false

theorem StoreCall.event_nil (h : c.isLogged = false) (height : Nat) (b : β) :
    c.event height b = [] := by
  cases c with
  | acquireLease | record | resolvePending | consumeOutcome => cases h
  | _ => rfl

def StoreCall.records {β : Type} : StoreCall β → Option Hash
  | .record _ _ pending => some pending.txHash
  | _ => none

/-- The bytes `Record` is called with. -/
def Cmd.records {β : Type} : Cmd β → Option Hash
  | .store c => c.records
  | _ => none

/-- What a thread knows of its own position: a store call does not change it. -/
structure View.Stays (k k' : View) : Prop where
  scope : k'.scope = k.scope
  mem : k'.mem = k.mem
  cleared : k'.cleared = k.cleared
  fence : k'.fence = k.fence

theorem View.Grows.stays {k k' : View} (h : k.Grows k') : k.Stays k' := { h with }

variable (k : View)

theorem learnStore_stays (c : StoreCall β) (r : Except StoreErr β) :
    k.Stays (learnStore k c r) := by
  cases hends : c.endsRow with
  | false => exact (learnStore_grows hends r).stays
  | true =>
    cases c with
    | record =>
      rcases r with e | _
      · cases e <;> exact ⟨rfl, rfl, rfl, rfl⟩
      · exact ⟨rfl, rfl, rfl, rfl⟩
    | resolvePending fence pending terminal =>
      have h := (learnStore_resolvePending_grows k fence pending terminal r).stays
      exact { h with }
    | _ => cases hends

variable {x : Event}

/-- The log only grows. -/
theorem Does.log_mem {w w' : World} {r : β} (hd : Does S t w e r w') (hx : x ∈ w.log) :
    x ∈ w'.log := by
  cases hd with
  | idle quiet => exact quiet.log ▸ hx
  | store => exact List.mem_append_right _ hx
  | setSynced | send | noteCleared | hand => exact .tail _ hx
  | _ => exact hx

/-- A log entry that says nothing about leases, recorded transactions or sends. -/
def Event.isSilent : Event → Bool
  | .synced .. | .cleared .. | .handed .. => true
  | _ => false

/-- Tables, stashed terminals and unknown consumes are as they were, and nothing
about them was logged. -/
structure Calm (w w' : World) : Prop where
  log : ∃ es, w'.log = es ++ w.log ∧ ∀ x ∈ es, x.isSilent = true
  db : w'.db = { w.db with now := w'.db.now }
  height : w.height ≤ w'.height
  terminalRetry : ∀ p s, (w'.mem p s).terminalRetry = (w.mem p s).terminalRetry
  consumeUnknown : ∀ p s, (w'.mem p s).consumeUnknown = (w.mem p s).consumeUnknown

/-- The calls that are not calm write a stash, an unknown consume or the tables, or send. -/
def Cmd.isCalm {β : Type} : Cmd β → Bool
  | .setTerminalRetry .. | .setConsumeUnknown .. | .store _ | .send .. => false
  | _ => true

theorem Quiet.calm (h : Quiet w w') : Calm w w' :=
  ⟨⟨[], h.log, by simp⟩, h.db, h.height, h.terminalRetry, h.consumeUnknown⟩

theorem Calm.mem_log {w w' : World} (h : Calm w w') (hx : x.isSilent = false) :
    x ∈ w'.log ↔ x ∈ w.log := by
  obtain ⟨_, hlog, hsilent⟩ := h.log
  rw [hlog, List.mem_append, or_iff_right]
  intro hes
  rw [hsilent x hes] at hx
  cases hx

theorem Calm.setMem {w : World} {p : String} {scope : SignType} {m : ScopeMem} {e : List Event}
    (hes : ∀ x ∈ e, x.isSilent = true) (hretry : m.terminalRetry = (w.mem p scope).terminalRetry)
    (hunknown : m.consumeUnknown = (w.mem p scope).consumeUnknown) :
    Calm w ((w.setMem p scope m).logged e) := by
  have hmem : ∀ q s, ((w.setMem p scope m).mem q s).terminalRetry = (w.mem q s).terminalRetry ∧
      ((w.setMem p scope m).mem q s).consumeUnknown = (w.mem q s).consumeUnknown := by
    intro _ _
    rw [setMem_mem]
    split
    next hq =>
      rw [hq.1, hq.2]
      exact ⟨hretry, hunknown⟩
    · exact ⟨rfl, rfl⟩
  exact ⟨⟨e, rfl, hes⟩, rfl, .refl, fun q s => (hmem q s).1, fun q s => (hmem q s).2⟩

/-- A process changed in nothing but its locks and its lease. -/
theorem Calm.setProc {w : World} {p : String} {v : Proc} (hmem : v.mem = (w.procs p).mem) :
    Calm w (w.setProc p v) :=
  ⟨⟨[], rfl, by simp⟩, rfl, .refl, fun q s => by rw [setProc_mem hmem], fun q s => by rw [setProc_mem hmem]⟩

theorem Calm.logged (w : World) (hx : x.isSilent = true) : Calm w (w.logged [x]) :=
  ⟨⟨[x], rfl, by simpa using hx⟩, rfl, .refl, fun _ _ => rfl, fun _ _ => rfl⟩

theorem Does.calm {w w' : World} {r : β} (hd : Does S t w e r w') (he : e.isCalm = true) :
    Calm w w' := by
  cases hd with
  | idle quiet => exact quiet.calm
  | lock | unlock | setAcquired => exact .setProc rfl
  | loadMem | fence | ask => exact (Quiet.refl w).calm
  | putAwaiting | takeAwaiting => exact Calm.setMem (e := []) (by simp) rfl rfl
  | setSynced => exact .setMem (by simp [Event.isSilent]) rfl rfl
  | noteCleared | hand => exact .logged w rfl
  | setTerminalRetry | setConsumeUnknown | store | send => cases he

/-! ## What a thread learns of rows -/

theorem mem_underLock {k : View} {scope : SignType} {fs : List Fact} {x : Fact} :
    x ∈ k.underLock scope fs ↔ k.scope = some scope ∧ x ∈ fs := by
  simp [View.underLock]

/-- What is known of rows and of the hand in `k'` was known in `k`. -/
structure View.Tame (k k' : View) : Prop where
  row : ∀ f r, k'.facts (.row f r) → k.facts (.row f r)
  hand : k'.hand = .empty ∨ k'.hand = k.hand ∧ k'.scope = k.scope

theorem View.Tame.refl : k.Tame k := ⟨fun _ _ h => h, .inr ⟨rfl, rfl⟩⟩

theorem View.Tame.add (k : View) {fs : List Fact} (hfs : ∀ f r, Fact.row f r ∉ fs) :
    k.Tame (k.add fs) :=
  ⟨fun f r h => h.resolve_right (hfs f r), .inr ⟨rfl, rfl⟩⟩

theorem TerminalRetry.row_notMem_facts (x : TerminalRetry) (f : Fence) (r : PendingRecord) :
    row f r ∉ x.facts := by
  unfold TerminalRetry.facts
  split <;> simp

theorem OutcomeRecord.row_notMem_facts (o : OutcomeRecord) (f : Fence) (r : PendingRecord) :
    row f r ∉ o.facts := by
  unfold OutcomeRecord.facts
  split <;> simp

theorem View.load_stays (m : ScopeMem) :
    (k.load m).cleared = k.cleared ∧ (k.load m).scope = k.scope ∧ (k.load m).fence = k.fence := by
  unfold View.load
  split <;> exact ⟨rfl, rfl, rfl⟩

theorem View.Tame.load (k : View) (m : ScopeMem) : k.Tame (k.load m) := by
  unfold View.load
  split
  · exact ⟨fun _ _ h => h, .inr ⟨rfl, rfl⟩⟩
  refine ⟨fun f r h => h.resolve_right fun hmem => ?_, .inr ⟨rfl, rfl⟩⟩
  obtain hmem | hmem := List.mem_append.mp hmem
  · cases hretry : m.terminalRetry with
    | none => simp [hretry] at hmem
    | some x => exact x.row_notMem_facts f r (by simpa [hretry] using hmem)
  · cases hunknown : m.consumeUnknown with
    | none => simp [hunknown] at hmem
    | some o => exact o.row_notMem_facts f r (by simpa [hunknown] using hmem)

/-- Facts a chain read can show. -/
def Fact.isChain : Fact → Bool
  | .succeeded _ | .failed _ | .included _ | .cosmos _ => true
  | _ => false

theorem learnQuery_facts (k : View) (q : Query β) (r : β) {x : Fact}
    (hx : (learnQuery k q r).facts x) : k.facts x ∨ x.isChain = true := by
  have hadd : ∀ fs : List Fact, (∀ y ∈ fs, y.isChain = true) → (k.add fs).facts x →
      k.facts x ∨ x.isChain = true := fun fs hfs => Or.imp_right (hfs x)
  cases q with
  | receipt | searchEthereumTx =>
    rcases r with _ | _ | v
    · exact .inl hx
    · exact .inl hx
    · refine hadd _ ?_ hx
      split <;> simp [isChain]
  | cosmosTx =>
    rcases r with _ | _ | v
    · exact .inl hx
    · exact .inl hx
    · exact hadd _ (by simp [isChain]) hx
  | waitReceipt | searchAccSeq =>
    rcases r with _ | v
    · exact .inl hx
    · exact hadd _ (by simp [isChain]) hx
  | _ => exact .inl hx

theorem learnQuery_hand (q : Query β) (r : β) : (learnQuery k q r).hand = k.hand := by
  cases q with
  | receipt | searchEthereumTx | cosmosTx => rcases r with _ | _ | _ <;> rfl
  | waitReceipt | searchAccSeq => rcases r with _ | _ <;> rfl
  | _ => rfl

theorem View.Tame.learnQuery (k : View) (q : Query β) (r : β) : k.Tame (learnQuery k q r) :=
  ⟨fun f row h => (learnQuery_facts k q r h).resolve_right (by simp [isChain]),
    .inr ⟨learnQuery_hand k q r, (learnQuery_grows q r).scope⟩⟩

/-- The calls that show no row to their caller. -/
def StoreCall.isTame {β : Type} : StoreCall β → Bool
  | .getPending .. | .record .. => false
  | _ => true

theorem View.Tame.learnStore (k : View) (hc : c.isTame = true) (r : Except StoreErr β) :
    k.Tame (learnStore k c r) := by
  cases c with
  | getPending | record => cases hc
  | acquireLease =>
    rcases r with _ | ⟨_, _ | _⟩
    · exact .refl k
    · exact .refl k
    · exact .add k (by simp)
  | getOutcome =>
    rcases r with _ | _ | o
    · exact .refl k
    · exact .refl k
    exact .add k fun f row hx => o.row_notMem_facts f row (mem_underLock.mp hx).2
  | getSignedTxByHash =>
    rcases r with _ | _ | o
    · exact .refl k
    · exact .add k (by simp)
    · exact .add k (by simp)
  | hasAudit _ event =>
    rcases r with _ | _ | _
    · cases event <;> exact .refl k
    · cases event <;> exact .refl k
    · cases event <;> first | exact .refl k | exact .add k (by simp)
  | resolvePending _ pending terminal =>
    have hforget : k.Tame (if terminal.kind.notAdmitted then k.forget pending.txHash else k) := by
      split
      · exact ⟨fun _ _ h => h.1, .inr ⟨rfl, rfl⟩⟩
      · exact .refl k
    rcases r with _ | o
    · exact hforget
    · refine ⟨fun f row h => hforget.row f row (h.resolve_right ?_), hforget.hand⟩
      split <;> simp
  | consumeOutcome =>
    rcases r with _ | o
    · exact .refl k
    · exact .add k (by simp)
  | _ => exact .refl k

/-- The calls that neither show a row nor change the hand. -/
def Cmd.isTame {β : Type} : Cmd β → Bool
  | .store c => c.isTame
  | .send .. => false
  | _ => true

theorem learn_tame (he : e.isTame = true) (r : β) : k.Tame (learn k e r) := by
  cases e with
  | send => cases he
  | lock | unlock => exact ⟨nofun, .inl rfl⟩
  | loadMem => exact .load k r
  | store => exact .learnStore k he r
  | ask q => exact .learnQuery k q r
  | putAwaiting => exact ⟨fun _ _ h => h.1, .inr ⟨rfl, rfl⟩⟩
  | takeAwaiting =>
    cases r with
    | none => exact .refl k
    | some => exact .add k (by simp)
  | respond txHash failed =>
    cases txHash with
    | none => exact .refl k
    | some =>
      cases failed with
      | false => exact ⟨fun _ _ h => h.1, .inr ⟨rfl, rfl⟩⟩
      | true => exact .refl k
  | _ => exact ⟨fun _ _ h => h, .inr ⟨rfl, rfl⟩⟩

/-- A thread that holds a lock held it before the call, or is no command. -/
theorem learn_scope {p : String} {k : View} {r : β} (ha : allowed S p k e) {s : SignType}
    (hs : (learn k e r).scope = some s) : k.scope = some s ∨ p ≠ cliName := by
  cases e with
  | lock => exact .inr ha.2
  | unlock => cases hs
  | loadMem => exact .inl ((k.load_stays r).2.1 ▸ hs)
  | store c => exact .inl ((learnStore_stays k c r).scope ▸ hs)
  | ask q => exact .inl ((learnQuery_grows q r).scope ▸ hs)
  | takeAwaiting => cases r <;> exact .inl hs
  | send under => cases under <;> exact .inl hs
  | respond txHash failed =>
    cases txHash with
    | none => exact .inl hs
    | some => cases failed <;> exact .inl hs
  | _ => exact .inl hs

end Signer

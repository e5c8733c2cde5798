-- SUMMARY: What the knowledge of a thread means, and that it is true.
import MocaSP.Signer.Steps

/-!
# Knowledge is true

The part of a thread's knowledge that every property uses: the lock it holds is
its own, what it read of the scope's memory still stands, its fence names its
process, and what it was shown of the chain and of the evidence table is there.
This holds in every run, from any well-formed tables.
-/

namespace Signer
open List World Option Chain StoreCall OutcomeRecord

open Machine

/-! ## Invariant and meaning -/

/-- What a fact says, as far as it is about the chain or the evidence table. -/
def Setup.Means (S : Setup) (w : World) : Fact → Prop
  | .succeeded h => S.chain.SucceededBy w.height h
  | .failed h => S.chain.FailedBy w.height h
  | .included h => S.chain.IncludedBy w.height h
  | .cosmos v => S.chain.CosmosBy w.height v
  | .own e => e ∈ w.db.signedTx
  | _ => True

/-- The invariant of every run. -/
structure Base (S : Setup) (w : World) : Prop where
  wf : w.db.WF
  /-- An evidence row is for the operation its transaction carries. -/
  carries : ∀ e ∈ w.db.signedTx, S.carries e.txHash e.operation = true
  stash : ∀ p s r, (w.mem p s).terminalRetry = some r → r.pending.scope = s ∧
    r.pending.chainID = S.chainID ∧ (w.mem p s).consumeUnknown = none
  unknown : ∀ p s o, (w.mem p s).consumeUnknown = some o → o.state = .succeeded
  /-- A stashed terminal was observed. -/
  backed : ∀ p s r, (w.mem p s).terminalRetry = some r → ∀ x ∈ r.facts, S.Means w x

/-- What the knowledge `k` of thread `t` means. -/
structure Knows (S : Setup) (t : Tid) (k : View) (w : World) : Prop where
  lock : ∀ s, k.scope = some s → (w.procs t.proc).locked s = some t.num
  mem : ∀ s m, k.scope = some s → k.mem = some m →
    ((w.mem t.proc s).terminalRetry, (w.mem t.proc s).consumeUnknown) = m
  synced : ∀ s e, k.scope = some s → k.synced = some e → (w.mem t.proc s).notes.epoch = e
  fence : ∀ f, k.fence = some f → f.owner = t.proc ∧ f.chainID = S.chainID
  facts : ∀ x, k.facts x → S.Means w x

variable {S : Setup} {w w' : World} {t : Tid} {k k' : View} {p chainID : String} {scope : SignType}
  {m : ScopeMem} {db : DB} {o : OutcomeRecord} {e : SignedTxEvidence} {β : Type} {fault : Fault}

theorem Setup.Means.mono {x : Fact} (h : S.Means w x) (hheight : w.height ≤ w'.height)
    (hev : ∀ e ∈ w.db.signedTx, e ∈ w'.db.signedTx) : S.Means w' x := by
  cases x with
  | succeeded => exact Chain.SucceededBy.mono h hheight
  | failed => exact Chain.FailedBy.mono h hheight
  | included => exact Chain.IncludedBy.mono h hheight
  | cosmos => exact Chain.CosmosBy.mono h hheight
  | own e => exact hev e h
  | _ => trivial

/-- The lock of a scope has one holder. -/
theorem Knows.proc_ne {u : Tid} (h : Knows S t k w) (h' : Knows S u k' w) (hne : u ≠ t)
    {s : SignType} (hs : k.scope = some s) (hs' : k'.scope = some s) : u.proc ≠ t.proc := by
  intro hproc
  have hu := h'.lock s hs'
  rw [hproc, h.lock s hs] at hu
  obtain ⟨_, _⟩ := t
  obtain ⟨_, _⟩ := u
  simp only [some.injEq] at hu hproc
  exact hne (by rw [hproc, hu])

/-! ## What does not disturb a thread -/

/-- Nothing that a thread of process `p` knows changed between `w` and `w'`. -/
structure View.Undisturbed (k : View) (p : String) (w w' : World) : Prop where
  height : w.height ≤ w'.height
  evidence : ∀ e ∈ w.db.signedTx, e ∈ w'.db.signedTx
  lock : ∀ s, k.scope = some s → (w'.procs p).locked s = (w.procs p).locked s
  terminalRetry : ∀ s, k.scope = some s → (w'.mem p s).terminalRetry = (w.mem p s).terminalRetry
  consumeUnknown : ∀ s, k.scope = some s → (w'.mem p s).consumeUnknown = (w.mem p s).consumeUnknown
  synced : ∀ s, k.scope = some s → (w'.mem p s).notes.epoch = (w.mem p s).notes.epoch

theorem Knows.undisturbed (h : Knows S t k w) (hu : k.Undisturbed t.proc w w') :
    Knows S t k w' where
  lock := fun s hs => (hu.lock s hs).trans (h.lock s hs)
  mem := fun s m hs hm => by
    rw [hu.terminalRetry s hs, hu.consumeUnknown s hs]
    exact h.mem s m hs hm
  synced := fun s e hs he => (hu.synced s hs).trans (h.synced s e hs he)
  fence := h.fence
  facts := fun x hx => (h.facts x hx).mono hu.height hu.evidence

theorem Quiet.undisturbed (h : Quiet w w') : k.Undisturbed p w w' where
  height := h.height
  evidence := fun e he => by
    rw [h.db]
    exact he
  lock := fun s _ => congrFun (h.locked p) s
  terminalRetry := fun s _ => h.terminalRetry p s
  consumeUnknown := fun s _ => h.consumeUnknown p s
  synced := fun s _ => h.synced p s

/-- Only the tables, to which evidence was added, and the log changed. -/
theorem View.Undisturbed.of_procs (hprocs : w'.procs = w.procs) (hheight : w'.height = w.height)
    (hev : ∀ e ∈ w.db.signedTx, e ∈ w'.db.signedTx) : k.Undisturbed p w w' := by
  constructor
  · exact hheight ▸ Nat.le_refl _
  · exact hev
  all_goals
    intro _ _
    simp only [World.mem, hprocs]

/-- A thread that does not hold the lock is not disturbed by a write to the
memory of the scope. -/
theorem View.Undisturbed.setMem {q : String} (hfree : p = q → k.scope ≠ some scope) :
    k.Undisturbed p w (w.setMem q scope m) := by
  have hmem : ∀ s, k.scope = some s → (w.setMem q scope m).mem p s = w.mem p s := by
    intro _ hs
    rw [setMem_mem, if_neg]
    rintro ⟨rfl, rfl⟩
    exact hfree rfl hs
  constructor
  · exact .refl
  · exact fun e he => he
  · exact fun s _ => by rw [setMem_locked]
  all_goals exact fun s hs => by rw [hmem s hs]

/-- A thread is not disturbed by the lock of another scope. -/
theorem View.Undisturbed.setLock {q : String} {holder : Option Nat}
    (hfree : p = q → k.scope ≠ some scope) : k.Undisturbed p w (w.setProc q { w.procs q with
      locked := fun s => if s = scope then holder else (w.procs q).locked s }) := by
  constructor
  · exact .refl
  · exact fun e he => he
  · intro s hs
    rw [World.setProc_procs]
    split
    next hp =>
      subst hp
      exact if_neg fun (h : s = scope) => hfree rfl (h ▸ hs)
    · rfl
  all_goals exact fun s _ => by simp [World.setProc_mem]

/-! ## Answers of the store -/

theorem getPending_some {r : PendingRecord} (h : getPending chainID scope db = some r) :
    ∃ row ∈ db.state, row.state = .pending ∧ row.chainID = chainID ∧ row.scope = scope ∧
      r = row.toPending := by
  simp only [getPending, map_eq_some_iff] at h
  obtain ⟨row, hhead, rfl⟩ := h
  have hmem := mem_of_mem_head? hhead
  simp only [DB.pendingRows, mem_filter, decide_eq_true_eq] at hmem
  exact ⟨row, hmem.1, hmem.2.1, hmem.2.2.1, hmem.2.2.2, rfl⟩

theorem StateRow.outcome?_some {row : StateRow} (h : row.outcome? = some o) :
    row.state = .outcome o.state ∧ o = row.toOutcome o.state := by
  unfold StateRow.outcome? at h
  split at h
  · cases h
  next hs =>
    cases h
    exact ⟨hs, rfl⟩

theorem getOutcome_some {operation : Hash} (h : getOutcome chainID scope operation db = some o) :
    ∃ row ∈ db.state, row.state = .outcome o.state ∧ row.chainID = chainID ∧ row.scope = scope ∧
      row.operation = operation ∧ o = row.toOutcome o.state := by
  simp only [getOutcome, bind_eq_some_iff] at h
  obtain ⟨row, hhead, hout⟩ := h
  have hmem := mem_of_mem_head? hhead
  simp only [DB.outcomeRows, mem_filter, decide_eq_true_eq] at hmem
  obtain ⟨hstate, ho⟩ := StateRow.outcome?_some hout
  exact ⟨row, hmem.1, hstate, hmem.2.2.1, hmem.2.2.2.1, hmem.2.2.2.2, ho⟩

theorem getSignedTxByHash_some {h : Hash} (hfound : getSignedTxByHash chainID h db = some e) :
    e ∈ db.signedTx ∧ e.chainID = chainID ∧ e.txHash = h := by
  have hkey : e.chainID = chainID ∧ e.txHash = h := by simpa using List.find?_some hfound
  exact ⟨mem_of_find?_eq_some hfound, hkey⟩

variable {r : Except StoreErr β} {c : StoreCall β}

/-- What a store call answers is what a thread has to expect. -/
theorem answersStore_of_exec {db' : DB}
    (hcarries : ∀ e ∈ db.signedTx, S.carries e.txHash e.operation = true)
    (h : c.exec fault db = some (r, db')) : answersStore S c r := by
  obtain ⟨b, rfl, hrun⟩ | ⟨e, rfl, -⟩ | ⟨rfl, -⟩ := StoreCall.exec_cases h
  · cases c with simp only [StoreCall.run, Except.ok.injEq, Prod.mk.injEq] at hrun
    | getPending =>
      cases b with
      | none => trivial
      | some =>
        obtain ⟨_, -, -, hchain, hscope, rfl⟩ := getPending_some hrun.1
        exact ⟨hchain, hscope⟩
    | getOutcome =>
      cases b with
      | none => trivial
      | some =>
        obtain ⟨_, -, -, hchain, hscope, hop, ho⟩ := getOutcome_some hrun.1
        rw [answersStore, ho]
        exact ⟨hchain, hscope, hop⟩
    | listOutcomes =>
      intro _ ho
      rw [← hrun.1] at ho
      simp only [Signer.listOutcomes, mem_filterMap, mem_filter, decide_eq_true_eq] at ho
      obtain ⟨row, ⟨-, hchain⟩, hout⟩ := ho
      rw [(StateRow.outcome?_some hout).2]
      exact hchain
    | getSignedTx =>
      cases b with
      | none => trivial
      | some e => exact hcarries e (mem_of_find?_eq_some hrun.1)
    | getSignedTxByHash =>
      cases b with
      | none => trivial
      | some => exact (getSignedTxByHash_some hrun.1).2
    | listSignedTxAtNonce =>
      intro _ he
      have hmem := mem_of_mem_take (hrun.1 ▸ he)
      simp only [mem_filter, decide_eq_true_eq] at hmem
      exact hmem.2.2.2
    | record =>
      obtain ⟨-, -, _, _, -, -, rfl, -⟩ := record_ok hrun
      exact ⟨rfl, rfl, rfl⟩
    | _ => trivial
  · cases c <;> trivial
  · cases c <;> trivial

/-! ## One step keeps the invariant -/

section
variable {S : Setup} {t : Tid} {k : View} {w w' : World}

theorem Base.quiet (h : Base S w) (hq : Quiet w w') : Base S w' where
  wf := by
    rw [hq.db]
    exact h.wf.of_sameRows ⟨rfl, rfl, rfl, rfl⟩
  carries := by
    rw [hq.db]
    exact h.carries
  stash := fun p s r hr => by
    rw [hq.consumeUnknown]
    exact h.stash p s r (hq.terminalRetry p s ▸ hr)
  unknown := fun p s o ho => h.unknown p s o (hq.consumeUnknown p s ▸ ho)
  backed := fun p s r hr x hx => (h.backed p s r (hq.terminalRetry p s ▸ hr) x hx).mono hq.height
    fun e he => by
      rw [hq.db]
      exact he

/-- Only the log and locks and leases changed. -/
theorem Base.of_mem (h : Base S w) (hdb : w'.db = w.db) (hheight : w'.height = w.height)
    (hmem : ∀ p s, w'.mem p s = w.mem p s) : Base S w' where
  wf := hdb ▸ h.wf
  carries := hdb ▸ h.carries
  stash := fun p s => hmem p s ▸ h.stash p s
  unknown := fun p s => hmem p s ▸ h.unknown p s
  backed := fun p s r hr x hx => (h.backed p s r (hmem p s ▸ hr) x hx).mono
    (hheight ▸ Nat.le_refl _) (hdb ▸ fun _ he => he)

theorem Base.logged (h : Base S w) (es : List Event) : Base S (w.logged es) :=
  h.of_mem rfl rfl fun _ _ => rfl

theorem Knows.logged (h : Knows S t k w) (es : List Event) : Knows S t k (w.logged es) :=
  h.undisturbed (.of_procs rfl rfl fun _ he => he)

theorem Base.setMem (h : Base S w)
    (hstash : ∀ r, m.terminalRetry = some r → r.pending.scope = scope ∧
      r.pending.chainID = S.chainID ∧ m.consumeUnknown = none)
    (hunknown : ∀ o, m.consumeUnknown = some o → o.state = .succeeded)
    (hbacked : ∀ r, m.terminalRetry = some r → ∀ x ∈ r.facts, S.Means w x) :
    Base S (w.setMem p scope m) where
  __ := h
  stash := fun q s => by
    rw [setMem_mem]
    split
    next hq =>
      rw [hq.2]
      exact hstash
    · exact h.stash q s
  unknown := fun q s => by
    rw [setMem_mem]
    split
    · exact hunknown
    · exact h.unknown q s
  backed := fun q s => by
    rw [setMem_mem]
    split
    · exact hbacked
    · exact h.backed q s

theorem asCalled_of_allowed (h : allowedStore S p k c) : c.AsCalled := by
  cases c <;> first | trivial | exact h.2.2.2.2.2.2

/-- The evidence row a call may add. -/
def StoreCall.adds {β : Type} : StoreCall β → SignedTxEvidence → Prop
  | .record _ evidence _, e => ∃ id leaseEpoch, e = { evidence with id, leaseEpoch }
  | _, _ => False

theorem StoreCall.run_signedTx {db' : DB} {b : β} (hrun : c.run db = .ok (b, db'))
    (he : e ∈ db'.signedTx) : e ∈ db.signedTx ∨ c.adds e := by
  cases hrec : c.isRecord with
  | false => exact .inl ((run_rowTurn hrec hrun).rows.1 ▸ he)
  | true =>
    cases c with
    | record =>
      obtain ⟨-, -, _, _, href, -, -, rfl⟩ := record_ok hrun
      obtain ⟨hsame, -⟩ | ⟨-, hnew, -⟩ := href.grown
      · exact .inl (hsame ▸ he)
      · rw [hnew, mem_append, mem_singleton] at he
        exact he.imp (fun h => h) fun h => ⟨_, _, h⟩
    | _ => cases hrec

/-- A store call keeps the invariant and only adds evidence. -/
theorem Base.store (h : Base S w) {log : List Event} (hallowed : allowedStore S t.proc k c)
    (hexec : c.exec fault w.db = some (r, db)) :
    Base S { w with db, log } ∧ ∀ e ∈ w.db.signedTx, e ∈ db.signedTx := by
  obtain rfl | ⟨_, hrun⟩ := exec_db hexec
  · exact ⟨{ h with }, fun e he => he⟩
  have hchange := run_rowChange (asCalled_of_allowed hallowed) hrun
  have hev : ∀ e ∈ w.db.signedTx, e ∈ db.signedTx := fun e he => hchange.evidence.subset he
  refine ⟨⟨hchange.wf h.wf, fun e he => ?_, h.stash, h.unknown, fun p s r hr x hx =>
    (h.backed p s r hr x hx).mono .refl hev⟩, hev⟩
  obtain he | hadds := run_signedTx hrun he
  · exact h.carries e he
  cases c with
  | record =>
    obtain ⟨_, _, rfl⟩ := hadds
    obtain ⟨-, -, -, -, -, hcarries, -, -, hop, -, -, hhash⟩ := hallowed
    rwa [hop, hhash] at hcarries
  | _ => exact hadds.elim

theorem OutcomeRecord.means {o : OutcomeRecord} {x : Fact} (hx : x ∈ o.facts) : S.Means w x := by
  unfold facts at hx
  split at hx
  · simp only [mem_cons, not_mem_nil, or_false] at hx
    obtain rfl | rfl := hx <;> trivial
  · obtain rfl := mem_singleton.mp hx
    trivial

section
variable (h : Knows S t k w)
include h

namespace Knows

theorem add {fs : List Fact} (hfs : ∀ x ∈ fs, S.Means w x) : Knows S t (k.add fs) w :=
  { h with facts := fun x hx => hx.elim (h.facts x) (hfs x) }

theorem setHand (hand : Hand) : Knows S t { k with hand } w := { h with }

theorem forget (txHash : Hash) : Knows S t (k.forget txHash) w :=
  { h with facts := fun x hx => h.facts x hx.1 }

theorem drop (txHash : Hash) : Knows S t (k.drop txHash) w :=
  { h with facts := fun x hx => h.facts x hx.1 }

/-- What a store call teaches is true. -/
theorem learnStore {log : List Event}
    (hexec : c.exec fault w.db = some (r, db)) (hev : ∀ e ∈ w.db.signedTx, e ∈ db.signedTx) :
    Knows S t (Signer.learnStore k c r) { w with db, log } := by
  have hk : Knows S t k { w with db, log } := h.undisturbed (.of_procs rfl rfl hev)
  cases c with
  | acquireLease =>
    rcases r with _ | ⟨e, _ | _⟩
    · exact hk
    · exact hk
    · exact hk.add (by simp [Setup.Means])
  | getPending =>
    rcases r with _ | _ | row
    · exact hk
    · exact hk
    refine (hk.add fun x hx => ?_).setHand _
    simp only [mem_underLock, mem_cons, mem_toList, map_eq_some_iff] at hx
    obtain ⟨-, rfl | ⟨_, -, rfl⟩⟩ := hx <;> trivial
  | getOutcome =>
    rcases r with _ | _ | o
    · exact hk
    · exact hk
    exact hk.add fun x hx => means (mem_underLock.mp hx).2
  | getSignedTxByHash =>
    rcases r with _ | o
    · exact hk
    refine hk.add fun x hx => ?_
    obtain rfl := mem_singleton.mp hx
    obtain ⟨_, hb, hrun⟩ | ⟨_, hr, -⟩ | ⟨hr, -⟩ := exec_cases hexec
    · cases o with
      | none => trivial
      | some e =>
        cases hb
        simp only [StoreCall.run, Except.ok.injEq, Prod.mk.injEq] at hrun
        exact hev e (getSignedTxByHash_some hrun.1).1
    · cases hr
    · cases hr
  | hasAudit _ event =>
    rcases r with _ | _ | _
    · cases event <;> exact hk
    · cases event <;> exact hk
    · cases event <;> first | exact hk | exact hk.add (by simp [Setup.Means])
  | record =>
    rcases r with e | row
    · cases e <;> first | exact hk | exact hk.setHand _
    · exact (hk.add (by simp [Setup.Means])).setHand _
  | resolvePending _ pending terminal =>
    have hf : Knows S t (if terminal.kind.notAdmitted then k.forget pending.txHash else k)
        { w with db, log } := by
      split
      · exact hk.forget _
      · exact hk
    rcases r with _ | o
    · exact hf
    refine hf.add fun x hx => ?_
    split at hx
    · obtain rfl := mem_singleton.mp hx
      trivial
    · cases hx
  | consumeOutcome =>
    rcases r with _ | o
    · exact hk
    · exact hk.add (by simp [Setup.Means])
  | _ => exact hk

/-- What a chain read teaches is true. -/
theorem learnQuery {q : Query β} {r : β}
    (ht : q.Truthful S.chain w.height r) : Knows S t (Signer.learnQuery k q r) w := by
  cases q with
  | receipt =>
    rcases r with _ | _ | r
    · exact h
    · exact h
    refine h.add fun y hy => ?_
    obtain rfl := mem_singleton.mp hy
    obtain ⟨n, hr, hn⟩ := trueReceipt_iff.mp ht
    split
    · exact ⟨r, n, hr, hn, by assumption⟩
    · exact .inl ⟨r, n, hr, hn, by assumption⟩
  | waitReceipt =>
    rcases r with _ | r
    · exact h
    refine h.add fun y hy => ?_
    obtain rfl := mem_singleton.mp hy
    obtain ⟨n, hr, hn⟩ := trueReceipt_iff.mp ht.1
    exact ⟨r, n, hr, hn, ht.2⟩
  | searchEthereumTx =>
    rcases r with _ | _ | v
    · exact h
    · exact h
    obtain ⟨hv, hn⟩ := includedBy_of_trueView ht
    refine h.add fun y hy => ?_
    obtain rfl | hy := mem_cons.mp hy
    · exact .inr ⟨v, hv, hn⟩
    split at hy
    · obtain rfl := mem_singleton.mp hy
      exact .inr ⟨v, hv, hn, by assumption⟩
    · cases hy
  | cosmosTx =>
    rcases r with _ | _ | v
    · exact h
    · exact h
    · refine h.add fun y hy => ?_
      obtain rfl := mem_singleton.mp hy
      exact cosmosBy_of_trueCosmos ht
  | searchAccSeq =>
    rcases r with _ | _
    · exact h
    · refine h.add fun y hy => ?_
      obtain ⟨v, hv, rfl⟩ := mem_map.mp hy
      exact cosmosBy_of_trueCosmos (ht v hv)
  | _ => exact h

/-- A write to the memory of a locked scope by its holder. -/
theorem others_setMem (hscope : k.scope = some scope) :
    ∀ u k', u ≠ t → Knows S u k' w → Knows S u k' (w.setMem t.proc scope m) :=
  fun _ _ hne hu => hu.undisturbed (.setMem fun hproc hs => h.proc_ne hu hne hscope hs hproc)

theorem setMem (hscope : k.scope = some scope)
    (hscope' : k'.scope = k.scope) (hfence : k'.fence = k.fence)
    (hfacts : ∀ x, k'.facts x → S.Means w x)
    (hmem : ∀ x, k'.mem = some x → (m.terminalRetry, m.consumeUnknown) = x)
    (hsynced : ∀ e, k'.synced = some e → m.notes.epoch = e) :
    Knows S t k' (w.setMem t.proc scope m) := by
  have hat : ∀ s, k'.scope = some s → (w.setMem t.proc scope m).mem t.proc s = m := by
    intro s hs
    have hs' : s = scope := by simpa using hs.symm.trans (hscope'.trans hscope)
    rw [setMem_mem, if_pos ⟨rfl, hs'⟩]
  refine ⟨fun s hs => ?_, fun s x hs hx => ?_, fun s e hs he => ?_, fun f hf => ?_, hfacts⟩
  · rw [setMem_locked]
    exact h.lock s (hscope' ▸ hs)
  · rw [hat s hs]
    exact hmem x hx
  · rw [hat s hs]
    exact hsynced e he
  · exact h.fence f (hfence ▸ hf)

end Knows

end

end

/-! ## Every run -/

/-- Every thread of the system runs under the discipline of its process. -/
def disciplines (S : Setup) (t : Tid) : Discipline Cmd View := discipline S t.proc

def jobView (_ : Tid) (j : Job) : View := j.view

theorem Knows.load (hb : Base S w) (hk : Knows S t k w) (hscope : k.scope = some scope) :
    Knows S t (k.load (w.mem t.proc scope)) w := by
  have hat : ∀ s, k.scope = some s → s = scope := fun s hs => by simpa using hs.symm.trans hscope
  unfold View.load
  split
  · refine { hk with synced := ?_ }
    rintro s _ hs ⟨⟩
    rw [hat s hs]
  refine ⟨hk.lock, ?_, ?_, hk.fence, fun x hx => hx.elim (hk.facts x) fun hx => ?_⟩
  · rintro s _ hs ⟨⟩
    rw [hat s hs]
  · rintro s _ hs ⟨⟩
    rw [hat s hs]
  rw [mem_append] at hx
  obtain hx | hx := hx
  · cases hr : (w.mem t.proc scope).terminalRetry with
    | none => simp [hr] at hx
    | some r => exact hb.backed t.proc scope r hr x (by simpa [hr] using hx)
  · cases ho : (w.mem t.proc scope).consumeUnknown with
    | none => simp [ho] at hx
    | some o => exact means (o := o) (by simpa [ho] using hx)

theorem base_step {e : Cmd β} {r : β} (hb : Base S w) (hk : Knows S t k w)
    (ha : allowed S t.proc k e) (hd : Does S t w e r w') :
    Base S w' ∧ answers S t.proc k e r ∧ Knows S t (learn k e r) w' ∧
      ∀ u k', u ≠ t → Knows S u k' w → Knows S u k' w' := by
  cases hd with
  | idle quiet learns answers =>
    refine ⟨hb.quiet quiet, answers k, ?_, fun u k' _ hu => hu.undisturbed quiet.undisturbed⟩
    rw [learns]
    exact hk.undisturbed quiet.undisturbed
  | lock scope free =>
    refine ⟨hb.of_mem rfl rfl fun p s => setProc_mem rfl, trivial, ?_,
      fun u k' hne hu => hu.undisturbed (.setLock ?_)⟩
    · refine ⟨?_, ?_, ?_, hk.fence, ?_⟩
      · rintro _ ⟨⟩
        simp [setProc_procs]
      · rintro _ _ - ⟨⟩
      · rintro _ _ - ⟨⟩
      · rintro _ ⟨⟩
    · intro hproc hs
      have := hu.lock scope hs
      rw [hproc, free] at this
      cases this
  | unlock =>
    obtain ⟨hscope, -⟩ := ha
    refine ⟨hb.of_mem rfl rfl fun p s => setProc_mem rfl, trivial, ?_,
      fun u k' hne hu => hu.undisturbed (.setLock ?_)⟩
    · refine ⟨?_, ?_, ?_, hk.fence, ?_⟩
      · rintro _ ⟨⟩
      · rintro _ _ ⟨⟩
      · rintro _ _ ⟨⟩
      · rintro _ ⟨⟩
    · exact fun hproc hs => hk.proc_ne hu hne hscope hs hproc
  | loadMem scope =>
    refine ⟨hb, ⟨?_, ?_, ?_, ?_⟩, Knows.load hb hk ha, fun u k' _ hu => hu⟩
    · intro s u hm
      simpa using hk.mem scope (s, u) ha hm
    · exact (hk.synced scope · ha)
    · exact hb.stash t.proc scope
    · exact hb.unknown t.proc scope
  | setTerminalRetry scope =>
    obtain ⟨hscope, hstash⟩ := ha
    refine ⟨hb.setMem ?_ (hb.unknown t.proc scope) ?_, trivial, ?_, hk.others_setMem hscope⟩
    · rintro y rfl
      obtain ⟨hmem, hsc, hchain, -, -⟩ := hstash y rfl
      exact ⟨hsc, hchain, by simpa using congrArg Prod.snd (hk.mem scope _ hscope hmem)⟩
    · rintro y rfl z hz
      exact hk.facts z ((hstash y rfl).2.2.2.2 z hz)
    refine hk.setMem hscope rfl rfl hk.facts ?_ (hk.synced scope · hscope)
    intro _ hm
    obtain ⟨m', hm', rfl⟩ := map_eq_some_iff.mp hm
    rw [← hk.mem scope m' hscope hm']
  | setConsumeUnknown scope x =>
    obtain ⟨hscope, hunknown⟩ := ha
    have hclear : ∀ y, x = some y → (w.mem t.proc scope).terminalRetry = none := fun y hy => by
      simpa using congrArg Prod.fst (hk.mem scope _ hscope (hunknown y hy).1)
    refine ⟨hb.setMem ?_ ?_ (hb.backed t.proc scope), trivial, ?_, hk.others_setMem hscope⟩
    · intro y hy
      obtain ⟨hsc, hchain, -⟩ := hb.stash t.proc scope y hy
      refine ⟨hsc, hchain, ?_⟩
      cases x with
      | none => rfl
      | some o =>
        rw [hclear o rfl] at hy
        cases hy
    · rintro y rfl
      exact (hunknown y rfl).2.1
    · refine hk.setMem hscope rfl rfl hk.facts ?_ (hk.synced scope · hscope)
      intro _ hm
      obtain ⟨m', hm', rfl⟩ := map_eq_some_iff.mp hm
      rw [← hk.mem scope m' hscope hm']
  | putAwaiting scope _ txHash =>
    obtain ⟨hscope, -, -⟩ := ha
    refine ⟨hb.setMem (hb.stash t.proc scope) (hb.unknown t.proc scope) (hb.backed t.proc scope),
      trivial, ?_, hk.others_setMem hscope⟩
    exact hk.setMem hscope rfl rfl (hk.drop txHash).facts (hk.mem scope · hscope) (hk.synced scope · hscope)
  | takeAwaiting scope operation =>
    refine ⟨hb.setMem (hb.stash t.proc scope) (hb.unknown t.proc scope) (hb.backed t.proc scope),
      trivial, ?_, hk.others_setMem ha⟩
    cases ((w.mem t.proc scope).awaiting.find? (·.1 = operation)).map Prod.snd with
    | none => exact hk.setMem ha rfl rfl hk.facts (hk.mem scope · ha) (hk.synced scope · ha)
    | some =>
      refine hk.setMem ha rfl rfl (hk.add ?_).facts (hk.mem scope · ha) (hk.synced scope · ha)
      simp [Setup.Means]
  | setSynced scope =>
    refine ⟨Base.logged (hb.setMem ?_ ?_ ?_) _, trivial, ?_,
      fun u k' hne hu => (hk.others_setMem ha u k' hne hu).logged _⟩
    · exact hb.stash t.proc scope
    · exact hb.unknown t.proc scope
    · exact hb.backed t.proc scope
    refine Knows.logged (hk.setMem ha ?_ ?_ ?_ ?_ ?_) _
    · rfl
    · rfl
    · exact hk.facts
    · exact (hk.mem scope · ha)
    · rintro _ ⟨⟩
      rfl
  | fence f held =>
    have hf : ∀ x, f = some x → x.owner = t.proc ∧ x.chainID = S.chainID := by
      intro x hx
      obtain ⟨-, rfl⟩ := held x hx
      exact ⟨rfl, rfl⟩
    refine ⟨hb, ?_, { hk with fence := hf }, fun u k' _ hu => hu⟩
    cases f with
    | none => trivial
    | some x => exact hf x rfl
  | setAcquired epoch =>
    have hframe : ∀ (k' : View) (p : String), k'.Undisturbed p w (w.setProc t.proc
        { w.procs t.proc with
          lease := { held := true, epoch, lastRenew := (w.procs t.proc).clock } }) := by
      intro _ p
      constructor
      · exact .refl
      · exact fun e he => he
      all_goals
        intro _ _
        by_cases hp : p = t.proc <;> simp [mem, setProc_procs, hp]
    exact ⟨hb.of_mem rfl rfl fun p s => setProc_mem rfl, trivial, hk.undisturbed (hframe k t.proc),
      fun u k' _ hu => hu.undisturbed (hframe k' u.proc)⟩
  | store _ _ hexec =>
    obtain ⟨hb', hev⟩ := hb.store ha hexec
    exact ⟨hb', answersStore_of_exec hb.carries hexec, hk.learnStore hexec hev,
      fun u k' _ hu => hu.undisturbed (.of_procs rfl rfl hev)⟩
  | ask q truthful =>
    refine ⟨hb, ?_, hk.learnQuery truthful, fun u k' _ hu => hu⟩
    cases q with
    | waitReceipt =>
      rcases r with _ | r
      · trivial
      · exact truthful.2
    | _ => trivial
  | send under =>
    refine ⟨hb.logged _, trivial, ?_, fun u k' _ hu => hu.logged _⟩
    cases under with
    | none => exact hk.logged _
    | some => exact Knows.logged (hk.setHand _) _
  | noteCleared _ operation epoch =>
    refine ⟨hb.logged _, trivial, ?_, fun u k' _ hu => hu.logged _⟩
    exact Knows.logged (k := { k with cleared := some (operation, epoch), fence := none })
      { hk with fence := by simp } _
  | hand txHash =>
    exact ⟨hb.logged _, trivial, Knows.logged (hk.drop txHash) _, fun u k' _ hu => hu.logged _⟩

/-- The knowledge of every thread is true in every run. -/
theorem base_sound (S : Setup) (may : Tid → Job → Bool) :
    Sound (system S may) (disciplines S) jobView always (Base S) (Knows S) where
  body := fun t j w w' hstart => j.body_follows S t (system_starts hstart).command
  start := by
    intro _ _ w _ hb hstart
    obtain ⟨rfl, -, -, -, hfence⟩ := system_starts hstart
    have hsame : ∀ (u : Tid) (k : View), Knows S u k w →
        Knows S u k { w with nextThread := w.nextThread + 1 } :=
      fun u k hu => hu.undisturbed (.of_procs rfl rfl fun _ he => he)
    refine ⟨hb.of_mem rfl rfl fun _ _ => rfl, ⟨?_, ?_, ?_, ?_, ?_⟩, fun u k _ hu => hsame u k hu⟩
    · rintro _ ⟨⟩
    · rintro _ _ ⟨⟩
    · rintro _ _ ⟨⟩
    · exact fun f hf => ⟨(hfence f hf).1, (hfence f hf).2.1⟩
    · rintro _ ⟨⟩
  step := by
    intro _ _ _ _ _ _ _ _ hb hk ha _ hexec
    exact base_step hb hk ha (exec_does hexec)
  env := by
    intro v w _ hb henv
    cases henv
    exact ⟨hb.quiet (v.quiet w), fun u k hu => hu.undisturbed (v.quiet w).undisturbed⟩

end Signer

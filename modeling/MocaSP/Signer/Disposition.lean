-- SUMMARY: What a row that `resolve` deletes says about the chain.
import MocaSP.Signer.Knowledge

/-!
# Soundness of the disposition commands

When a command deletes a row, the recorded transaction has not executed and never
will, and nothing that used its nonce performed the operation. When a row becomes
`succeeded`, its result is a successful transaction that did.
-/

namespace Signer

open Machine Disposer Option

/-! ## The chain -/

/-- The transaction is in a block at `height`. -/
def Chain.IncludedAt (chain : Chain) (height : Nat) (h : Hash) : Prop :=
  (∃ r, chain.receipt h = some (r, height)) ∨ ∃ v, chain.view h = some v ∧ v.height = height

variable {chain : Chain} {h x y : Hash} {S : Setup} {n : Nat} {t : Tid} {k : View} {w w' : World}

theorem Chain.includedBy_iff {height : Nat} :
    chain.IncludedBy height h ↔ ∃ n ≤ height, chain.IncludedAt n h := by
  constructor
  · rintro (⟨r, n, hr, hn⟩ | ⟨v, hv, hn⟩)
    · exact ⟨n, hn, .inl ⟨r, hr⟩⟩
    · exact ⟨v.height, hn, .inr ⟨v, hv, rfl⟩⟩
  · rintro ⟨n, hn, ⟨r, hr⟩ | ⟨v, hv, rfl⟩⟩
    · exact .inl ⟨r, n, hr, hn⟩
    · exact .inr ⟨v, hv, hn⟩

/-- Each sequence number of an account is used by at most one transaction, and a
failed transaction leaves no state. -/
structure Setup.Coherent (S : Setup) : Prop where
  once : ∀ h m n, S.chain.IncludedAt m h → S.chain.IncludedAt n h → m = n
  rivals : ∀ h other m n, S.Rival h other → S.chain.IncludedAt m h → ¬ S.chain.IncludedAt n other
  /-- A Cosmos transaction that used the nonce of an included Ethereum transaction carried it. -/
  carrier : ∀ h a n v, (S.eth.tx h).sender = some a → S.chain.IncludedAt n h →
    v ∈ S.chain.cosmos a (S.eth.tx h).nonce → S.chain.view h = some v
  cosmos : ∀ a n v v', v ∈ S.chain.cosmos a n → v' ∈ S.chain.cosmos a n → v = v'
  failed : ∀ h v n, S.chain.view h = some v → v.code ≠ 0 → ¬ S.chain.SucceededBy n h

theorem Setup.Coherent.not_failed (hS : S.Coherent) {m : Nat} (hf : S.chain.FailedBy m h) :
    ¬ S.chain.SucceededBy n h := by
  obtain ⟨_, _, hr, -, hst⟩ | ⟨v, hv, -, hcode⟩ := hf
  · rintro ⟨_, _, hr', -, hst'⟩
    rw [hr] at hr'
    cases hr'
    exact hst hst'
  · exact hS.failed h v n hv hcode

theorem Chain.SucceededBy.includedAt (hs : chain.SucceededBy n h) : ∃ m ≤ n, chain.IncludedAt m h :=
  includedBy_iff.mp hs.included

theorem Chain.FailedBy.includedAt (hf : chain.FailedBy n h) : ∃ m ≤ n, chain.IncludedAt m h :=
  includedBy_iff.mp hf.included

/-! ## What a disposition promises -/

/-- The transaction `other` does what the recorded transaction `h` was signed for:
the signer signed it for the same operation, or it makes the same call. -/
def Setup.Performs (S : Setup) (w : World) (h operation other : Hash) : Prop :=
  (∃ e ∈ w.db.signedTx, e.txHash = other ∧ e.operation = operation) ∨
    sameCall (S.eth.tx other) (S.eth.tx h) = true

/-- The recorded transaction has not executed and cannot, and nothing that used
its nonce performed the operation. -/
structure Setup.Gone (S : Setup) (w : World) (h operation : Hash) : Prop where
  notExecuted : ∀ n, ¬ S.chain.SucceededBy n h
  notLater : ∀ n, S.chain.IncludedAt n h → n ≤ w.height
  noOther : ∀ other n, S.Rival h other → S.chain.SucceededBy n other →
    ¬ S.Performs w h operation other
  /-- The same for a Cosmos transaction that is no carrier of an Ethereum one. -/
  noCosmos : ∀ a v msgs, (S.eth.tx h).sender = some a → v ∈ S.chain.cosmos a (S.eth.tx h).nonce →
    (∀ x, S.chain.view x ≠ some v) → v.code = 0 → v.msgs = some msgs → operation ∉ msgs

/-- The transaction `result` was included, succeeded, and performed the operation. -/
def Setup.Did (S : Setup) (w : World) (h operation result : Hash) : Prop :=
  S.chain.SucceededBy w.height result ∧ (result = h ∨ S.Performs w h operation result)

/-! ## From knowledge to the chain -/

section
variable {S : Setup} {w : World} {h operation other : Hash}

/-- An included rival ends the recorded transaction; what is left to show is
that no success at its nonce performed the operation. -/
theorem Setup.Gone.of_rival (hS : S.Coherent) {m : Nat} (hr : S.Rival h other)
    (hi : S.chain.IncludedAt m other)
    (hother : ∀ n, S.chain.SucceededBy n other → ¬ S.Performs w h operation other) :
    S.Gone w h operation where
  notExecuted := fun n hs => by
    obtain ⟨i, -, hat⟩ := hs.includedAt
    exact hS.rivals h other i m hr hat hi
  notLater := fun n hn => (hS.rivals h other n m hr hn hi).elim
  noOther := fun x n hx hs => by
    by_cases hxo : x = other
    · subst hxo
      exact hother n hs
    · obtain ⟨i, -, hat⟩ := hs.includedAt
      have hrival : S.Rival other x := ⟨hxo, hx.2.1.trans hr.2.1.symm, hx.2.2.trans hr.2.2.symm⟩
      exact (hS.rivals other x m i hrival hi hat).elim
  noCosmos := fun a v msgs ha hv hcarrier _ _ => by
    rw [← hr.2.1] at ha
    rw [← hr.2.2] at hv
    exact (hcarrier other (hS.carrier other a m v ha hi hv)).elim

theorem Setup.Gone.of_failed (hS : S.Coherent) (hf : S.chain.FailedBy w.height h) :
    S.Gone w h operation := by
  obtain ⟨m, hm, hat⟩ := hf.includedAt
  refine ⟨fun n => hS.not_failed hf, fun n hn => ?_, fun other n hr hs => ?_, ?_⟩
  · rw [hS.once h n m hn hat]
    exact hm
  · obtain ⟨i, -, hi⟩ := hs.includedAt
    exact (hS.rivals h other m i hr hat hi).elim
  · intro a v _ ha hv hcarrier _ _
    exact (hcarrier h (hS.carrier h a m v ha hat hv)).elim

/-- A failed Cosmos transaction used the nonce. -/
theorem Setup.Gone.of_cosmos (hS : S.Coherent) {v : CosmosTxView} {a : Address}
    (hv : S.chain.CosmosBy w.height v) (hcode : v.code ≠ 0) (ha : (S.eth.tx h).sender = some a)
    (hseq : (a, (S.eth.tx h).nonce) ∈ v.accSeqs) : S.Gone w h operation := by
  have hmem : v ∈ S.chain.cosmos a (S.eth.tx h).nonce := hv.2 _ hseq
  refine ⟨fun n hs => ?_, fun n hn => ?_, fun other n hr hs => ?_, ?_⟩
  · obtain ⟨i, -, hat⟩ := hs.includedAt
    exact hS.failed h v n (hS.carrier h a i v ha hat hmem) hcode hs
  · have hview := hS.carrier h a n v ha hn hmem
    rw [hS.once h n v.height hn (.inr ⟨v, hview, rfl⟩)]
    exact hv.1
  · obtain ⟨i, -, hat⟩ := hs.includedAt
    have hview := hS.carrier other a i v (hr.2.1.trans ha) hat (hr.2.2 ▸ hmem)
    exact (hS.failed other v n hview hcode hs).elim
  intro _ v' _ ha' hv' _ hok
  rw [ha] at ha'
  cases ha'
  obtain rfl := hS.cosmos a _ v v' hmem hv'
  exact (hcode hok).elim

variable {op : Hash}

theorem Setup.carries_iff : S.carries x op = true ↔ ∃ recipient,
    (S.eth.tx x).recipient = some recipient ∧
    S.callOf op = (recipient, (S.eth.tx x).value, (S.eth.tx x).data) ∧
    S.operationOf (S.eth.tx x).sender (recipient, (S.eth.tx x).value, (S.eth.tx x).data) = op := by
  unfold Setup.carries
  dsimp only
  split
  next hr => simp [hr]
  next hr => simp [hr]

/-- A transaction carries one operation. -/
theorem Setup.carries_unique {op' : Hash} (hx : S.carries x op = true) (hx' : S.carries x op' = true) :
    op = op' := by
  obtain ⟨_, ha, -, ho⟩ := S.carries_iff.mp hx
  obtain ⟨_, hb, -, ho'⟩ := S.carries_iff.mp hx'
  rw [ha] at hb
  cases hb
  rw [← ho, ← ho']

theorem View.Ended.gone (hS : S.Coherent) (hb : Base S w) (hk : Knows S t k w)
    (hc : S.carries h operation = true) (he : k.Ended S h operation) : S.Gone w h operation := by
  obtain hf | ⟨x, hr, hf⟩ | ⟨_, _, hv, hcode, ha, hseq⟩ | ⟨x, hr, hs, how⟩ := he
  · exact .of_failed hS (hk.facts _ hf)
  · have hfailed : S.chain.FailedBy w.height x := hk.facts _ hf
    obtain ⟨_, -, hat⟩ := hfailed.includedAt
    exact .of_rival hS hr hat fun n hs => (hS.not_failed hfailed hs).elim
  · exact .of_cosmos hS (hk.facts _ hv) hcode ha hseq
  have hok : S.chain.SucceededBy w.height x := hk.facts _ hs
  obtain ⟨_, -, hat⟩ := hok.includedAt
  refine .of_rival hS hr hat fun n _ hperf => ?_
  obtain ⟨e, hown, rfl, hne⟩ | ⟨-, hcall⟩ := how
  · have he := hb.carries e (hk.facts _ hown)
    obtain ⟨e', he', hhash, hop⟩ | hsame := hperf
    · have he'' := hb.carries e' he'
      rw [hhash, hop] at he''
      exact hne (S.carries_unique he he'')
    · -- the same call by the same sender is the same operation
      obtain ⟨_, hax, -, hox⟩ := S.carries_iff.mp he
      obtain ⟨_, hby, -, hoy⟩ := S.carries_iff.mp hc
      simp only [sameCall, hax, hby, Bool.and_eq_true, decide_eq_true_eq] at hsame
      obtain ⟨⟨rfl, hvalue⟩, hdata⟩ := hsame
      rw [← hox, ← hoy, hr.2.1, hvalue, hdata] at hne
      exact hne rfl
  · obtain ⟨e', he', rfl, rfl⟩ | hsame := hperf
    · obtain ⟨_, hax, hcx, -⟩ := S.carries_iff.mp (hb.carries e' he')
      obtain ⟨_, hby, hcy, -⟩ := S.carries_iff.mp hc
      rw [hcx] at hcy
      simp only [Prod.mk.injEq] at hcy
      simp [sameCall, hax, hby, hcy] at hcall
    · rw [hsame] at hcall
      cases hcall

end

/-! ## The write of a command -/

/-- The writes of `resolve` and `resolve-outcome`. -/
def Cmd.isManual {β : Type} : Cmd β → Bool
  | .store (.manualResolvePending ..) => true
  | .store (.manualSettleOutcome _ _ _ event) => !event.event.byDecision
  | _ => false

/-- One row of `db`, for the transaction `h`, was deleted or turned into the
outcome `result`, and no other row changed. -/
structure Disposed (db db' : DB) (h : Hash) (result : Option OutcomeRecord) : Prop where
  deleted : ∀ row ∈ db.state, (∀ r ∈ db'.state, r.id ≠ row.id) → row.txHash = h ∧ result = none
  changed : ∀ row ∈ db'.state, row ∉ db.state → row.txHash = h ∧
    ∃ o ∈ result, row.state = .outcome o.state ∧ row.resultTxHash = o.resultTxHash

theorem disposed_of_turn (db : DB) (target : StateRow → Bool) (result : Option OutcomeRecord)
    (f : OutcomeRecord → StateRow → StateRow)
    (htarget : ∀ r ∈ db.state, target r = true → r.txHash = h)
    (hf : ∀ o r, (f o r).id = r.id ∧ (f o r).txHash = r.txHash ∧
      (f o r).state = .outcome o.state ∧ (f o r).resultTxHash = o.resultTxHash) :
    Disposed db { db with state := DB.turned db.state target (result.map f) } h result where
  deleted := fun row hrow hgone => by
    cases ht : target row with
    | false => exact absurd rfl (hgone row (DB.mem_turned.mpr (.inl ⟨hrow, ht⟩)))
    | true =>
      refine ⟨htarget row hrow ht, ?_⟩
      cases result with
      | none => rfl
      | some o =>
        exact absurd (hf o row).1
          (hgone (f o row) (DB.mem_turned.mpr (.inr ⟨f o, row, rfl, hrow, ht, rfl⟩)))
  changed := fun row hrow hnew => by
    obtain ⟨hold, -⟩ | ⟨g, r, hg, hr, ht, rfl⟩ := DB.mem_turned.mp hrow
    · exact absurd hold hnew
    · obtain ⟨o, ho, rfl⟩ := map_eq_some_iff.mp hg
      obtain ⟨-, hhash, hstate, hresult⟩ := hf o r
      exact ⟨hhash.trans (htarget r hr ht), o, ho, hstate, hresult⟩

/-- The writes of the commands change the row they were decided for. -/
theorem manualResolvePending_disposed {db db' : DB} {pending : PendingRecord}
    {result : Option OutcomeRecord} {event : AuditEvent} {u : Unit}
    (h : resolvePendingTo none pending result event db = .ok (u, db')) :
    Disposed db db' pending.txHash result := by
  obtain ⟨-, -, _, hturn, rfl⟩ := resolvePendingTo_ok h
  obtain ⟨-, rfl⟩ := DB.turn_ok hturn
  have htarget : ∀ r ∈ db.state,
      decide (r.id = pending.id ∧ r.txHash = pending.txHash ∧ r.state = .pending) = true →
      r.txHash = pending.txHash := by
    intro _ _ ht
    simp only [decide_eq_true_eq] at ht
    exact ht.2.1
  have hd := disposed_of_turn db _ result
    (fun o r => { outcomeColumns o r with ambiguous := false }) htarget
    fun _ _ => ⟨rfl, rfl, rfl, rfl⟩
  exact { hd with }

theorem manualSettleOutcome_disposed {db db' : DB} (hwf : db.WF) {outcome : OutcomeRecord}
    {from_ : List OutcomeState} {to_ : Option OutcomeRecord} {event : AuditEvent} {u : Unit}
    (h : settleOutcome none outcome from_ to_ event db = .ok (u, db')) :
    Disposed db db' outcome.txHash to_ := by
  obtain ⟨-, s, -, ⟨_, hrow, hid, -, href⟩, _, hturn, rfl⟩ := settleOutcome_ok h
  obtain ⟨-, rfl⟩ := DB.turn_ok hturn
  have htarget : ∀ r ∈ db.state, decide (r.id = outcome.id ∧ r.state = .outcome s) = true →
      r.txHash = outcome.txHash := by
    intro _ hr ht
    simp only [decide_eq_true_eq] at ht
    obtain rfl := hwf.row_unique hr hrow (ht.1.trans hid.symm)
    exact congrArg EvidenceRef.txHash href
  have hd := disposed_of_turn db _ to_ outcomeColumns htarget fun _ _ => ⟨rfl, rfl, rfl, rfl⟩
  exact { hd with }

/-- What the write of a command promises of the tables before and after it. -/
structure Setup.Promised (S : Setup) (w w' : World) : Prop where
  deleted : ∀ row ∈ w.db.state, (∀ r ∈ w'.db.state, r.id ≠ row.id) →
    S.Gone w' row.txHash row.operation
  succeeded : ∀ row ∈ w'.db.state, row ∉ w.db.state → row.state = .outcome .succeeded →
    S.Did w' row.txHash row.operation row.resultTxHash

/-- The operation of a row is the one its transaction carries. -/
theorem Base.row_operation (hb : Base S w) {row : StateRow} (hrow : row ∈ w.db.state)
    {operation : Hash} (hc : S.carries row.txHash operation = true) :
    row.operation = operation := by
  obtain ⟨e, he, href⟩ := hb.wf.ref row hrow
  have hop : row.operation = e.operation := congrArg EvidenceRef.operation href
  have hhash : row.txHash = e.txHash := congrArg EvidenceRef.txHash href
  rw [hop]
  exact S.carries_unique (hhash ▸ hb.carries e he) hc

theorem Setup.Promised.of_disposed (hS : S.Coherent) {operation : Hash} {result : Option OutcomeRecord}
    (hb : Base S w) (hb' : Base S w') (hk : Knows S t k w') (hd : Disposed w.db w'.db h result)
    (hc : S.carries h operation = true) (hended : result = none → k.Ended S h operation)
    (hdone : ∀ o ∈ result, o.state = .succeeded → k.Performed S h operation o.resultTxHash) :
    S.Promised w w' where
  deleted := fun row hrow hgone => by
    obtain ⟨rfl, hnone⟩ := hd.deleted row hrow hgone
    rw [hb.row_operation hrow hc]
    exact (hended hnone).gone hS hb' hk hc
  succeeded := fun row hrow hnew hstate => by
    obtain ⟨rfl, o, ho, hos, hresult⟩ := hd.changed row hrow hnew
    rw [hb'.row_operation hrow hc, hresult]
    rw [hos] at hstate
    obtain ⟨hown, hs⟩ | ⟨-, hs, how⟩ := hdone o ho (by simpa using hstate)
    · exact ⟨hown ▸ hk.facts _ hs, .inl hown⟩
    · refine ⟨hk.facts _ hs, .inr (how.imp ?_ fun h => h)⟩
      rintro ⟨e, he, hhash, hop⟩
      exact ⟨e, hk.facts _ he, hhash, hop⟩

/-- Tables whose rows did not change promise nothing. -/
theorem Setup.Promised.of_same (h : w'.db.state = w.db.state) : S.Promised w w' where
  deleted := fun row hrow hgone => absurd rfl (hgone row (h ▸ hrow))
  succeeded := fun _ hrow hnew _ => absurd (h ▸ hrow) hnew

theorem manual_step (hS : S.Coherent) {β : Type} {e : Cmd β} {r : β} (hmanual : e.isManual = true)
    (hb : Base S w) (hk : Knows S t k w) (ha : allowed S t.proc k e) (hd : Does S t w e r w') :
    S.Promised w w' := by
  obtain ⟨hb', -, hk', -⟩ := base_step hb hk ha hd
  cases hd with
  | idle quiet =>
    refine .of_same ?_
    rw [quiet.db]
  | store c _ hexec =>
    obtain rfl | ⟨_, hrun⟩ := StoreCall.exec_db hexec
    · exact .of_same rfl
    cases c with
    | manualResolvePending =>
      obtain ⟨-, -, hc, hended, hdone⟩ := ha
      exact .of_disposed hS hb hb' hk' (manualResolvePending_disposed hrun) hc hended hdone
    | manualSettleOutcome =>
      obtain ⟨hc, hended, hdone⟩ := ha.2.2 (Bool.not_eq_true' _ ▸ hmanual)
      exact .of_disposed hS hb hb' hk' (manualSettleOutcome_disposed hb.wf hrun) hc hended hdone
    | _ => cases hmanual
  | _ => cases hmanual

/-! ## Every run -/

/-- Any number of signers and of commands. -/
def anyJob : Tid → Job → Bool := fun _ _ => true

/-- Thread `t` is about to write what `resolve` or `resolve-outcome` decided. -/
def disposing (c : Config Cmd Tid World) (t : Tid) : Bool :=
  match c.threads t with
  | some (.call e _) => e.isManual
  | _ => false

/-- In every run of signers and commands, from any tables with valid evidence:
when `resolve` or `resolve-outcome` deletes a row, its transaction is gone for good and nothing at its
nonce performed the operation; when a row becomes `succeeded`, its result did. -/
theorem disposition_sound (S : Setup) (hS : S.Coherent) (db : DB) (hwf : db.WF)
    (hev : ∀ e ∈ db.signedTx, S.carries e.txHash e.operation = true) (c c' : Config Cmd Tid World)
    (hreach : (system S anyJob).Reach always { db } c) (t : Tid) (o : Oracle)
    (hdispose : disposing c t = true) (hact : (system S anyJob).act (.step t o) c = some c') :
    S.Promised c.state c'.state := by
  have hbase : Base S { db } := by
    refine ⟨hwf, hev, ?_, ?_, ?_⟩
    · rintro _ _ _ ⟨⟩
    · rintro _ _ _ ⟨⟩
    · rintro _ _ _ ⟨⟩
  obtain ⟨hb, hthreads⟩ := (base_sound S anyJob).reach hbase hreach
  unfold disposing at hdispose
  split at hdispose
  next next hthread =>
    obtain ⟨_, hf, hk⟩ := hthreads t _ hthread
    simp only [Machine.act, hthread] at hact
    split at hact
    · cases hact
    next hexec =>
      cases hact
      exact manual_step hS hdispose hb hk hf.1 (exec_does hexec)
  · cases hdispose

/-- The chain of a recorded transaction that failed in block 5. -/
def failedSetup : Setup :=
  sampleSetup fun h => if h = 1 then some ({ status := 0, blockNumber := some 5 }, 5) else none

/-- The row of that transaction, left pending. -/
def leftPending : DB where
  signedTx := [{ id := 1, chainID := "moca_5151-1", evmChainID := 5151, scope := .seal, operation := 7,
                 sender := 3, nonce := 0, txHash := 1, raw := [1], recordedBlock := 4 }]
  state := [{ id := 1, signedTxID := 1, chainID := "moca_5151-1", scope := .seal, operation := 7,
              sender := 3, nonce := 0, txHash := 1 }]
  nextSignedTx := 2
  nextState := 2

/-- `resolve` up to its write: both samples find the receipt. -/
def resolveFailed : List (Action Tid Oracle Job Env) :=
  let t : Tid := { proc := cliName, num := 0 }
  let sample (height : Nat) : List (Action Tid Oracle Job Env) :=
    [.step t (.nat (.ok height)),
     .step t (.receipt (.ok (some { status := 0, blockNumber := some 5 }))),
     .step t (.nat (.ok 1))]
  [.env (.height 6), .start t (.resolve { scope := .seal, txHash := 1, polls := 1 }),
   .step t (.fault .none), .step t (.fault .none), .step t (.optNat (.ok (some 5151)))] ++
    sample 5 ++ sample 6

theorem failedSetup_coherent : failedSetup.Coherent := by
  have hat : ∀ h n, failedSetup.chain.IncludedAt n h → h = 1 ∧ n = 5 := by
    rintro h n (⟨_, hr⟩ | ⟨v, hv, -⟩)
    · simp only [failedSetup, sampleSetup, ite_none_right_eq_some, some.injEq, Prod.mk.injEq] at hr
      exact ⟨hr.1, hr.2.2.symm⟩
    · cases hv
  constructor
  · intro h m n hm hn
    rw [(hat h m hm).2, (hat h n hn).2]
  · intro h other m n hr hm hn
    exact hr.1 ((hat other n hn).1.trans (hat h m hm).1.symm)
  · rintro _ _ _ _ - - ⟨⟩
  · rintro _ _ _ _ ⟨⟩
  · rintro _ _ _ ⟨⟩

theorem disposition_sound_failed :
    ∃ c c' : Config Cmd Tid World, (system failedSetup anyJob).Reach always { db := leftPending } c ∧
      c.state.db.state.length = 1 ∧ c'.state.db.state.length = 0 ∧
      failedSetup.Promised c.state c'.state := by
  have hrun : (((system failedSetup anyJob).run always resolveFailed
      ⟨{ db := leftPending }, fun _ => none⟩).bind fun c =>
        ((system failedSetup anyJob).act (.step { proc := cliName, num := 0 } (.fault .none)) c).map
          fun c' => (disposing c { proc := cliName, num := 0 }, c.state.db.state.length,
            c'.state.db.state.length)) = some (true, 1, 0) := by decide +kernel
  simp only [bind_eq_some_iff, map_eq_some_iff, Prod.mk.injEq] at hrun
  obtain ⟨c, hc, c', hc', hdispose, hbefore, hafter⟩ := hrun
  have hreach := Reach.run .init hc
  have hwf : leftPending.WF := by
    constructor <;> simp [leftPending, uniqueKeys, StateRow.ref, SignedTxEvidence.ref]
  exact ⟨c, c', hreach, hbefore, hafter, disposition_sound failedSetup failedSetup_coherent leftPending
    hwf (by decide +kernel) c c' hreach _ _ hdispose hc'⟩

end Signer

-- SUMMARY: What each committed transition of the store checked and changed.
import MocaSP.Signer.Store

/-!
# The store's transitions, inverted

One lemma per transition: from a transaction that commits, the checks that
passed and the tables it leaves. Later proofs cite these and never unfold a
transition.
-/

namespace Signer
open List

open Except

/-! ## Table operations -/

variable {db db' : DB} {u : Unit} {fence : Option Fence} {pending : PendingRecord}
  {evidence : SignedTxEvidence} {event : AuditEvent}

namespace DB

@[simp] theorem insertAudit_lease (db : DB) (c : String) (n : Nat) (e : AuditEvent) :
    (db.insertAudit c n e).lease = db.lease := rfl

/-- Two databases hold the same evidence and state rows; lease and audit may differ. -/
structure SameRows (db db' : DB) : Prop where
  signedTx : db'.signedTx = db.signedTx
  state : db'.state = db.state
  nextSignedTx : db'.nextSignedTx = db.nextSignedTx
  nextState : db'.nextState = db.nextState

theorem writeState_ok {rows : List StateRow} (h : db.writeState rows = .ok db') :
    uniqueKeys rows ∧ db' = { db with state := rows } := by
  simp only [writeState, bind_eq_ok, failIf_eq_ok, not_not, pure_eq_ok, exists_const] at h
  obtain ⟨hkeys, -, rfl⟩ := h
  exact ⟨hkeys, rfl⟩

/-- The rows `turn` leaves. -/
def turned (rows : List StateRow) (target : StateRow → Bool)
    (f : Option (StateRow → StateRow)) : List StateRow :=
  rows.filterMap fun r => if target r then f.map fun g => g r else some r

variable {target : StateRow → Bool} {f : Option (StateRow → StateRow)}

theorem mem_turned {rows : List StateRow} {x : StateRow} : x ∈ turned rows target f ↔
      (x ∈ rows ∧ target x = false) ∨ ∃ g r, f = some g ∧ r ∈ rows ∧ target r = true ∧ x = g r := by
  simp only [turned, mem_filterMap]
  constructor
  · rintro ⟨r, hr, hx⟩
    split at hx
    next ht =>
      obtain ⟨g, hg, rfl⟩ := Option.map_eq_some_iff.mp hx
      exact .inr ⟨g, r, hg, hr, ht, rfl⟩
    next ht =>
      cases hx
      exact .inl ⟨hr, by simpa using ht⟩
  · rintro (⟨hx, ht⟩ | ⟨g, r, rfl, hr, ht, rfl⟩)
    · exact ⟨x, hx, by simp [ht]⟩
    · exact ⟨r, hr, by simp [ht]⟩

theorem turn_ok {n : Nat} (h : db.turn target f = .ok (n, db')) :
    uniqueKeys (turned db.state target f) ∧
      db' = { db with state := turned db.state target f } := by
  simp only [turn, bind_eq_ok, pure_eq_ok, Prod.mk.injEq] at h
  obtain ⟨_, hw, rfl, rfl⟩ := h
  obtain ⟨hkeys, rfl⟩ := writeState_ok hw
  exact ⟨hkeys, rfl⟩

end DB

theorem conflictOnDuplicate_ok {α : Type} {x : Except StoreErr α} {a : α} :
    conflictOnDuplicate x = .ok a ↔ x = .ok a := by
  unfold conflictOnDuplicate
  split
  · simp
  · rfl

/-! ## The lease -/

/-- The lease row is held by `fence` now. -/
def FenceHolds (fence : Fence) (db : DB) : Prop :=
  ∃ row, db.leaseRow fence.chainID = some row ∧ row.owner = fence.owner ∧
    row.epoch = fence.epoch ∧ db.now < row.expiresAt

theorem fenceCheck_ok {fence : Fence} : fenceCheck fence db = .ok u ↔ FenceHolds fence db := by
  simp only [fenceCheck, FenceHolds, bind_eq_ok, orFail_eq_ok, failIf_eq_ok, not_or, not_not, ne_eq]

/-- The fence of a transition that may run without one holds. -/
def OptFenceHolds (fence : Option Fence) (db : DB) : Prop := ∀ f ∈ fence, FenceHolds f db

theorem optFenceCheck_ok {epoch : Nat} (h : optFenceCheck fence db = .ok epoch) :
    OptFenceHolds fence db ∧ epoch = (fence.map Fence.epoch).getD 0 := by
  cases fence with
  | none =>
    cases h
    exact ⟨by simp [OptFenceHolds], rfl⟩
  | some =>
    simp only [optFenceCheck, bind_eq_ok, fenceCheck_ok, pure_eq_ok, exists_const] at h
    obtain ⟨hf, rfl⟩ := h
    exact ⟨by simpa [OptFenceHolds] using hf, rfl⟩

/-! ## Transitions -/

/-- The scope's pending row is the one `pending` names. -/
def IsPending (pending : PendingRecord) (db : DB) : Prop :=
  ∃ row ∈ db.state, row.state = .pending ∧ row.chainID = pending.chainID ∧
    row.scope = pending.scope ∧ row.id = pending.id ∧ row.txHash = pending.txHash

theorem lockPending_ok (h : lockPending pending db = .ok u) : IsPending pending db := by
  simp only [lockPending, bind_eq_ok, orFail_eq_ok, failIf_eq_ok, not_or, not_not, ne_eq] at h
  obtain ⟨row, hhead, hid, hhash⟩ := h
  have hmem : row ∈ db.pendingRows pending.chainID pending.scope := mem_of_mem_head? hhead
  simp only [DB.pendingRows, mem_filter, decide_eq_true_eq] at hmem
  obtain ⟨hrow, hstate, hchain, hscope⟩ := hmem
  exact ⟨row, hrow, hstate, hchain, hscope, hid, hhash⟩

/-- What `Record` does to the evidence table. -/
structure Referenced (fence : Fence) (evidence : SignedTxEvidence) (db db' : DB) (id : Nat) :
    Prop where
  state : db' = { db with signedTx := db'.signedTx, nextSignedTx := db'.nextSignedTx }
  row : ∃ e ∈ db'.signedTx, e.id = id ∧ sameEvidence e evidence = true
  grown : (db'.signedTx = db.signedTx ∧ db'.nextSignedTx = db.nextSignedTx) ∨
    (getSignedTxByHash evidence.chainID evidence.txHash db = none ∧
      db'.signedTx =
        db.signedTx ++ [{ evidence with id := db.nextSignedTx, leaseEpoch := fence.epoch }] ∧
      db'.nextSignedTx = db.nextSignedTx + 1)

theorem referenceEvidence_ok {fence : Fence} {id : Nat}
    (h : referenceEvidence fence evidence db = .ok (id, db')) :
    Referenced fence evidence db db' id := by
  unfold referenceEvidence at h
  split at h
  next existing hfound =>
    split at h
    next hsame =>
      cases h
      exact ⟨rfl, ⟨existing, mem_of_find?_eq_some hfound, rfl, hsame⟩, .inl ⟨rfl, rfl⟩⟩
    · cases h
  next hnone =>
    cases h
    refine ⟨rfl, ⟨_, mem_append_right _ (mem_singleton.mpr rfl), rfl, ?_⟩, .inr ⟨hnone, rfl, rfl⟩⟩
    simp [sameEvidence]

theorem record_ok {fence : Fence} {r : PendingRecord} (h : record fence evidence pending db = .ok (r, db')) :
    FenceHolds fence db ∧ db.outcomeRows pending.chainID pending.scope pending.operation = [] ∧
    ∃ db₁ id, Referenced fence evidence db db₁ id ∧
      uniqueKeys (db.state ++ [recordedRow fence pending id db.nextState]) ∧
      r = { pending with id := db.nextState, signedTxID := id, leaseEpoch := fence.epoch } ∧
      db' = { db₁ with
        state := db.state ++ [recordedRow fence pending id db.nextState]
        nextState := db.nextState + 1
        audit := db.audit ++
          [{ r.audit .recorded with chainID := pending.chainID, leaseEpoch := fence.epoch }] } := by
  simp only [record, bind_eq_ok, Prod.exists, fenceCheck_ok, failIf_eq_ok, not_not, ne_eq,
    conflictOnDuplicate_ok, pure_eq_ok, Prod.mk.injEq] at h
  obtain ⟨-, hfence, -, hout, id, db₁, href, _, hw, rfl, rfl⟩ := h
  obtain ⟨hkeys, rfl⟩ := DB.writeState_ok hw
  have href := referenceEvidence_ok href
  have hstate : db₁.state = db.state := by rw [href.state]
  have hnext : db₁.nextState = db.nextState := by rw [href.state]
  have haudit : db₁.audit = db.audit := by rw [href.state]
  rw [hstate, hnext] at hkeys
  refine ⟨hfence, hout, db₁, id, href, hkeys, ?_, ?_⟩
  · simp only [recordedRow, hnext]
  · simp only [DB.insertAudit, recordedRow, hstate, hnext, haudit]

/-- What `Record` inserts and returns. -/
structure Inserted (fence : Fence) (pending r : PendingRecord) (db db' : DB) : Prop where
  row : r = { pending with id := db.nextState, signedTxID := r.signedTxID, leaseEpoch := fence.epoch }
  state : db'.state = db.state ++ [recordedRow fence pending r.signedTxID db.nextState]
  nextState : db'.nextState = db.nextState + 1
  evidence : ∀ e ∈ db.signedTx, e ∈ db'.signedTx

theorem record_inserted {fence : Fence} {r : PendingRecord}
    (h : record fence evidence pending db = .ok (r, db')) : Inserted fence pending r db db' := by
  obtain ⟨-, -, _, _, href, -, rfl, rfl⟩ := record_ok h
  refine ⟨rfl, rfl, rfl, fun e he => ?_⟩
  obtain ⟨hsame, -⟩ | ⟨-, hnew, -⟩ := href.grown
  · exact hsame ▸ he
  · exact hnew ▸ mem_append_left _ he

theorem markAmbiguous_ok {fence : Fence} (h : markAmbiguous fence pending db = .ok (u, db')) :
    FenceHolds fence db ∧ ∃ n db₁,
      db.turn (fun r => r.id = pending.id ∧ r.txHash = pending.txHash)
        (some fun r => { r with ambiguous := true }) = .ok (n, db₁) ∧
      db' = db₁.insertAudit pending.chainID fence.epoch (pending.audit .markedAmbiguous) := by
  simp only [markAmbiguous, bind_eq_ok, Prod.exists, fenceCheck_ok, pure_eq_ok, Prod.mk.injEq] at h
  obtain ⟨-, hfence, ⟨⟩, -, n, db₁, hturn, -, rfl⟩ := h
  exact ⟨hfence, n, db₁, hturn, rfl⟩

/-- The audit rows of a resolved pending row. -/
def DB.insertTerminalAudits (db : DB) (fence : Fence) (pending : PendingRecord)
    (terminal : PendingTerminal) : DB :=
  terminal.kind.auditEvents.foldl (fun db name =>
    db.insertAudit pending.chainID fence.epoch (terminalAudit pending terminal name)) db

theorem resolvePending_ok {fence : Fence} {terminal : PendingTerminal} {o : Option OutcomeRecord}
    (h : resolvePending fence pending terminal db = .ok (o, db')) :
    FenceHolds fence db ∧ IsPending pending db ∧ ∃ db₁,
      db.turn (fun r => r.id = pending.id ∧ r.txHash = pending.txHash)
        (if terminal.kind = .successKeep then some (keepColumns pending terminal) else none) =
          .ok (1, db₁) ∧
      db' = db₁.insertTerminalAudits fence pending terminal := by
  simp only [resolvePending, bind_eq_ok, Prod.exists, fenceCheck_ok, conflictOnDuplicate_ok,
    affectedOne, failIf_eq_ok, not_not, ne_eq, pure_eq_ok, Prod.mk.injEq] at h
  obtain ⟨-, hfence, ⟨⟩, hlock, _, db₁, hturn, -, rfl, -, rfl⟩ := h
  exact ⟨hfence, lockPending_ok hlock, db₁, hturn, rfl⟩

variable {outcome : OutcomeRecord}

theorem consumeOutcome_ok {fence : Fence} (h : consumeOutcome fence outcome db = .ok (u, db')) :
    FenceHolds fence db ∧ (∃ row ∈ db.state, row.id = outcome.id ∧
      row.state = .outcome .succeeded) ∧ ∃ db₁,
      db.turn (fun r => r.id = outcome.id ∧ r.state = .outcome .succeeded) none = .ok (1, db₁) ∧
      db' = db₁.insertAudit outcome.chainID fence.epoch (outcome.audit .outcomeConsumed) := by
  simp only [consumeOutcome, bind_eq_ok, Prod.exists, fenceCheck_ok, orFail_eq_ok, affectedOne,
    failIf_eq_ok, not_or, not_not, ne_eq, pure_eq_ok, Prod.mk.injEq] at h
  obtain ⟨-, hfence, row, hfind, -, ⟨hst, -⟩, _, db₁, hturn, -, rfl, -, rfl⟩ := h
  have hid : row.id = outcome.id := by simpa using List.find?_some hfind
  exact ⟨hfence, ⟨row, mem_of_find?_eq_some hfind, hid, hst⟩, db₁, hturn, rfl⟩

theorem appendAudit_ok {chainID : String} (h : appendAudit fence chainID event db = .ok (u, db')) :
    OptFenceHolds fence db ∧
      db' = db.insertAudit chainID ((fence.map Fence.epoch).getD 0) event := by
  simp only [appendAudit, bind_eq_ok, pure_eq_ok, Prod.mk.injEq] at h
  obtain ⟨_, hcheck, -, rfl⟩ := h
  obtain ⟨hf, rfl⟩ := optFenceCheck_ok hcheck
  exact ⟨hf, rfl⟩

theorem resolvePendingTo_ok {result : Option OutcomeRecord}
    (h : resolvePendingTo fence pending result event db = .ok (u, db')) :
    OptFenceHolds fence db ∧ IsPending pending db ∧ ∃ db₁,
      db.turn (fun r => r.id = pending.id ∧ r.txHash = pending.txHash ∧ r.state = .pending)
        (result.map fun o r => { outcomeColumns o r with ambiguous := false }) = .ok (1, db₁) ∧
      db' = db₁.insertAudit pending.chainID ((fence.map Fence.epoch).getD 0) event := by
  simp only [resolvePendingTo, bind_eq_ok, Prod.exists, conflictOnDuplicate_ok, affectedOne,
    failIf_eq_ok, not_not, ne_eq, pure_eq_ok, Prod.mk.injEq] at h
  obtain ⟨_, hcheck, ⟨⟩, hlock, -, -, _, db₁, hturn, -, rfl, -, rfl⟩ := h
  obtain ⟨hf, rfl⟩ := optFenceCheck_ok hcheck
  exact ⟨hf, lockPending_ok hlock, db₁, hturn, rfl⟩

theorem settleOutcome_ok {from_ : List OutcomeState} {to_ : Option OutcomeRecord}
    (h : settleOutcome fence outcome from_ to_ event db = .ok (u, db')) :
    OptFenceHolds fence db ∧ ∃ s ∈ from_, (∃ row ∈ db.state, row.id = outcome.id ∧
      row.state = .outcome s ∧ row.ref = outcome.ref) ∧ ∃ db₁,
      db.turn (fun r => r.id = outcome.id ∧ r.state = .outcome s) (to_.map outcomeColumns) =
        .ok (1, db₁) ∧
      db' = db₁.insertAudit outcome.chainID ((fence.map Fence.epoch).getD 0) event := by
  simp only [settleOutcome, checkSettleable, bind_eq_ok, Prod.exists, orFail_eq_ok, affectedOne,
    failIf_eq_ok, not_or, not_not, ne_eq, pure_eq_ok, Prod.mk.injEq] at h
  obtain ⟨_, hcheck, current, hcur, -, ⟨-, hsame, hfrom⟩, -, -, _, db₁, hturn, -, rfl, -, rfl⟩ := h
  obtain ⟨hf, rfl⟩ := optFenceCheck_ok hcheck
  have hmem := mem_of_mem_head? hcur
  simp only [mem_filterMap, mem_filter, decide_eq_true_eq] at hmem
  obtain ⟨row, ⟨hrow, -, hid⟩, hout⟩ := hmem
  unfold StateRow.outcome? at hout
  split at hout
  · cases hout
  rename_i hstate
  cases hout
  refine ⟨hf, _, hfrom, ⟨row, hrow, hid, hstate, ?_⟩, db₁, hturn, rfl⟩
  obtain ⟨hc, hs, ho, hi, ht, hn, hfr⟩ := hsame
  simp only [StateRow.toOutcome] at hc hs ho hi ht hn hfr
  simp only [StateRow.ref, OutcomeRecord.ref, hc, hs, ho, hi, ht, hn, hfr]

end Signer

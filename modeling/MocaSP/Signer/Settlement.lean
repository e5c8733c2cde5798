-- SUMMARY: When the signer settles a blocked outcome.
import MocaSP.Signer.System

/-!
# Completeness of automatic settlement

The receipts that decide a blocked outcome are the original's and those of other transactions of the
signer at the same nonce. The latter are looked up among the evidence rows recorded after the
original's; a transaction whose row is older is not found, nor one after the window.
-/

namespace Signer

open Prog Client

namespace Chain

variable (chain : Chain) (height : Nat) (h : Hash)

/-- The receipt that the nodes have at a height. -/
def receiptNow : Option Receipt :=
  (chain.receipt h).bind fun r => if r.2 ≤ height then some r.1 else none

def viewNow : Option CosmosTxView := (chain.view h).filter fun v => v.height ≤ height

/-- A receipt at or below the height. -/
def ReceiptBy : Prop := ∃ r, chain.receiptNow height h = some r ∧ ∃ n, r.blockNumber = some n ∧ n ≤ height

end Chain

section
variable (S : Setup) (t : Tid) (fence : Fence) (outcome : OutcomeRecord) (w : World)

/-- Nothing fails, and the chain is as it is at the height the nodes have reached. -/
def truthfully {β : Type} (e : Cmd β) (w : World) : Option (β × World) :=
  exec S t e (match e with
    | .store _ => .fault .none
    | .ask (.receipt h) => .receipt (.ok (S.chain.receiptNow w.height h))
    | .ask .evmChainID => .optNat (.ok (some S.evmChainID))
    | .ask .blockNumber => .nat (.ok w.height)
    | .ask .network => .text (.ok S.chainID)
    | .ask (.searchEthereumTx h _) => .view (.ok (S.chain.viewNow w.height h))
    | _ => .none) w

/-- The outcome is no longer blocked: it succeeded, or it was deleted. -/
def Unblocked (w : World) : Prop :=
  ∀ row ∈ w.db.state, row.id = outcome.id → row.state ≠ .outcome .blockedUnknown

/-- Another transaction that the signer made and recorded. -/
def Other (e : SignedTxEvidence) : Prop :=
  e.txHash ≠ outcome.txHash ∧ ∃ h, verify S.eth S.evmChainID (some e) e.ref = .ok h

/-- One of the rows is another transaction with a receipt. -/
def Hit (height : Nat) (rows : List SignedTxEvidence) : Prop :=
  ∃ e ∈ rows, Other S outcome e ∧ S.chain.ReceiptBy height e.txHash

/-- The original has a receipt, or another transaction of the signer from the same address at the same
nonce, recorded before or after it. -/
def ReceiptShown : Prop :=
  S.chain.ReceiptBy w.height outcome.txHash ∨ ∃ e ∈ w.db.signedTx, e.chainID = S.chainID ∧
    e.sender = outcome.sender ∧ e.nonce = outcome.nonce ∧ Other S outcome e ∧ S.chain.ReceiptBy w.height e.txHash

/-- The rows that `autoSettleOutcome` looks at. -/
def listed : List SignedTxEvidence :=
  listSignedTxAtNonce S.chainID outcome.sender outcome.nonce outcome.signedTxID evmSupersedeWindow w.db

/-- The original has a receipt, or one of the rows recorded after its own, within the window, or the
Cosmos index shows the original's failure or one of those rows. -/
def Found : Prop :=
  S.chain.ReceiptBy w.height outcome.txHash ∨
    Hit S outcome w.height (listed S outcome w) ∨
    S.autoCosmos = true ∧ ((∃ v, S.chain.viewNow w.height outcome.txHash = some v ∧ v.code ≠ 0) ∨
      ∃ e ∈ listed S outcome w, Other S outcome e ∧ (S.chain.viewNow w.height e.txHash).isSome = true)

/-- The lease is the signer's and the row is as it was read, so that the store settles it. -/
def Settleable : Prop :=
  ∀ to_ event, ∃ db, settleOutcome (some fence) outcome [.blockedUnknown] to_ event w.db = .ok ((), db)

/-- The signer uses the EVM RPC, the outcome is blocked and its check is due, and the store will settle it. -/
structure Ready : Prop where
  auto : S.autoEvm = true
  chain : S.evmChainID < 2 ^ 64
  blocked : outcome.state = .blockedUnknown
  due : ∀ last, (w.procs t.proc).outcomeChecked.find? (·.1 = outcome.id) = some last →
    ¬ (w.procs t.proc).clock - last.2 < evmOutcomeCheckInterval
  settleable : Settleable fence outcome w

end

/-! ## The parts of the code -/

section
variable {S : Setup} {t : Tid} {fence : Fence} {outcome : OutcomeRecord} {w : World}

theorem truthfully_receipt (h : Hash) :
    truthfully S t (.ask (.receipt h)) w = some (.ok (S.chain.receiptNow w.height h), w) := by
  have htrue : ∀ r, S.chain.receiptNow w.height h = some r → S.chain.trueReceipt w.height h r = true := by
    intro _ hr
    obtain ⟨⟨_, n⟩, hr', heq⟩ := Option.bind_eq_some_iff.mp hr
    split at heq
    · cases heq
      exact Chain.trueReceipt_iff.mpr ⟨n, hr', by assumption⟩
    · cases heq
  cases hr : S.chain.receiptNow w.height h with
  | none => simp [truthfully, exec, Query.exec, hr]
  | some r => simp [truthfully, exec, Query.exec, hr, htrue r hr]

theorem truthfully_search (h : Hash) (height : Nat) :
    truthfully S t (.ask (.searchEthereumTx h height)) w = some (.ok (S.chain.viewNow w.height h), w) := by
  cases hv : S.chain.viewNow w.height h with
  | none => simp [truthfully, exec, Query.exec, hv]
  | some v =>
    obtain ⟨hview, hle⟩ := Option.filter_eq_some_iff.mp hv
    have htrue : S.chain.trueView w.height h v = true := by simpa [Chain.trueView, hview] using hle
    simp [truthfully, exec, Query.exec, hv, htrue]

theorem receiptAtOrBelow_reads (h : Hash) :
    wp (truthfully S t) (receiptAtOrBelow h w.height) w fun r w' =>
      w' = w ∧ (r.isSome = true ↔ S.chain.ReceiptBy w.height h) := by
  refine .do_bind (truthfully_receipt h) ?_
  unfold Chain.ReceiptBy
  cases S.chain.receiptNow w.height h with
  | none => exact .pure (by simp)
  | some r =>
    obtain ⟨_, block⟩ := r
    cases block with
    | none => exact .pure (by simp)
    | some n => exact .pure (by by_cases hn : n ≤ w.height <;> simp [hn])

/-- A settlement is written: the row is deleted, or is no longer blocked. -/
theorem writeAutoOutcome_settles (hw : Settleable fence outcome w) {to_ : Option OutcomeRecord}
    (hto : ∀ o, to_ = some o → o.state ≠ .blockedUnknown) (event : AuditEvent) :
    wp (truthfully S t) (writeAutoOutcome S fence outcome to_ event) w fun e w' =>
      e = none ∧ Unblocked outcome w' := by
  obtain ⟨db, hdb⟩ := hw to_ event
  have hstep : truthfully S t (.store (.autoSettleOutcome fence outcome [.blockedUnknown] to_ event)) w =
      some (.ok (), { w with db }) := by
    simp [truthfully, exec, StoreCall.exec, StoreCall.run, StoreCall.events, StoreCall.event, hdb]
  refine .do_bind hstep (.pure ⟨rfl, ?_⟩)
  obtain ⟨-, _, hs, -, _, hturn, rfl⟩ := settleOutcome_ok hdb
  obtain rfl := List.mem_singleton.mp hs
  obtain ⟨-, rfl⟩ := DB.turn_ok hturn
  intro _ hrow hid hblocked
  obtain ⟨-, hnot⟩ | ⟨_, _, hf, -, -, rfl⟩ := DB.mem_turned.mp hrow
  · simp [hid, hblocked] at hnot
  · obtain ⟨o, rfl, rfl⟩ := Option.map_eq_some_iff.mp hf
    exact hto o rfl (RowState.outcome.inj hblocked)

theorem applyAutoOutcome_settles (hw : Settleable fence outcome w) {to_ : Option OutcomeRecord}
    (hto : ∀ o, to_ = some o → o.state ≠ .blockedUnknown) (event : AuditEvent) :
    wp (truthfully S t) (applyAutoOutcome S fence outcome to_ event) w fun settled w' =>
      settled = true ∧ Unblocked outcome w' := by
  refine (writeAutoOutcome_settles hw hto _).bind ?_
  rintro _ _ ⟨rfl, hw'⟩
  exact .do_bind rfl (.pure ⟨rfl, hw'⟩)

theorem delete_settles (hw : Settleable fence outcome w) (event : AuditEvent) :
    wp (truthfully S t) (applyAutoOutcome S fence outcome none event) w fun settled w' =>
      settled = true ∧ Unblocked outcome w' :=
  applyAutoOutcome_settles hw (by simp) event

section
variable (hw : Settleable fence outcome w)
include hw

variable (base : AuditEvent)

/-- The loop over receipts settles by the first one, or leaves the other transactions for the index. -/
theorem settleByReceipts_reads (rows : List SignedTxEvidence) :
    wp (truthfully S t) (settleByReceipts S fence outcome w.height base rows) w fun r w' =>
      (r = .inl true ∧ Unblocked outcome w' ∧ Hit S outcome w.height rows) ∨
      ∃ others, r = .inr others ∧ w' = w ∧ ¬ Hit S outcome w.height rows ∧
        ∀ e, e ∈ others ↔ e ∈ rows ∧ Other S outcome e := by
  induction rows with
  | nil => exact .pure (.inr ⟨[], rfl, rfl, by simp [Hit], by simp⟩)
  | cons row _ ih =>
    simp only [Hit, List.mem_cons, or_and_right, exists_or, exists_eq_left]
    unfold settleByReceipts
    by_cases hhash : row.txHash = outcome.txHash
    · rw [if_pos hhash]
      have hnot : ¬ Other S outcome row := fun h => h.1 hhash
      have hne (e : SignedTxEvidence) : ¬ (e = row ∧ Other S outcome e) := fun h => hnot (h.1 ▸ h.2)
      simpa only [Hit, hnot, hne, false_and, false_or] using ih
    rw [if_neg hhash]
    cases hverify : verify S.eth S.evmChainID (some row) row.ref with
    | error e =>
      have hnot : ¬ Other S outcome row := fun ⟨_, h, hok⟩ => by simp [hverify] at hok
      have hne (e : SignedTxEvidence) : ¬ (e = row ∧ Other S outcome e) := fun h => hnot (h.1 ▸ h.2)
      simpa only [Hit, hnot, hne, false_and, false_or] using ih
    | ok h =>
      have hother : Other S outcome row := ⟨hhash, h, hverify⟩
      refine (receiptAtOrBelow_reads row.txHash).bind ?_
      rintro (_ | _) w' ⟨rfl, hreceipt⟩
      · have hno : ¬ S.chain.ReceiptBy w'.height row.txHash := fun h => by simpa using hreceipt.mpr h
        simp only [hno, and_false, false_or]
        refine ih.bind ?_
        rintro _ _ (⟨rfl, hsettled⟩ | ⟨others, rfl, rfl, hnone, hmem⟩)
        · exact .pure (.inl ⟨rfl, hsettled⟩)
        · refine .pure (.inr ⟨row :: others, rfl, rfl, hnone, fun e => ?_⟩)
          rw [List.mem_cons, hmem]
          exact or_congr_left ⟨fun heq => ⟨heq, heq ▸ hother⟩, And.left⟩
      · refine (delete_settles hw _).bind ?_
        rintro _ _ ⟨rfl, hsettled⟩
        exact .pure (.inl ⟨rfl, hsettled, .inl ⟨hother, hreceipt.mp rfl⟩⟩)

/-- The loop over the Cosmos index. -/
theorem settleByIndex_reads (rows : List SignedTxEvidence) :
    wp (truthfully S t) (settleByIndex S fence outcome w.height base rows) w fun settled w' =>
      (settled = true ∧ Unblocked outcome w') ↔ ∃ e ∈ rows, (S.chain.viewNow w.height e.txHash).isSome = true := by
  induction rows with
  | nil => exact .pure (by simp)
  | cons row _ ih =>
    refine .do_bind (truthfully_search row.txHash w.height) ?_
    cases hview : S.chain.viewNow w.height row.txHash with
    | none => exact ih.mono fun settled w' h => by simpa [hview] using h
    | some => exact (delete_settles hw _).mono fun settled w' h => by simp [h, hview]

theorem settleFromCosmos_reads (others : List SignedTxEvidence) :
    wp (truthfully S t) (settleFromCosmos S fence outcome w.height base others) w fun settled w' =>
      (settled = true ∧ Unblocked outcome w') ↔ S.autoCosmos = true ∧
        ((∃ v, S.chain.viewNow w.height outcome.txHash = some v ∧ v.code ≠ 0) ∨
          ∃ e ∈ others, (S.chain.viewNow w.height e.txHash).isSome = true) := by
  unfold settleFromCosmos
  cases S.autoCosmos with
  | false => exact .pure (by simp)
  | true =>
    have hnetwork : wp (truthfully S t) (checkCosmos S) w fun ok w' => ok = true ∧ w' = w :=
      .do_bind rfl (.pure (by simp))
    refine hnetwork.bind ?_
    rintro _ w' ⟨rfl, rfl⟩
    refine .do_bind (truthfully_search outcome.txHash w'.height) ?_
    cases hview : S.chain.viewNow w'.height outcome.txHash with
    | none => exact (settleByIndex_reads hw base others).mono fun settled w' h => by simpa using h
    | some v =>
      change wp _ (if v.code ≠ 0 then _ else _) _ _
      split_ifs with hcode
      · exact (delete_settles hw _).mono fun settled w' h => by simp [h, hcode]
      · exact (settleByIndex_reads hw base others).mono fun settled w' h => by simpa [hcode] using h

end

theorem truthfully_due (hw : Ready S t fence outcome w) :
    ∃ v, truthfully S t (.outcomeCheckDue outcome.id) w = some (true, w.setProc t.proc v) := by
  simp only [truthfully, exec]
  split
  next hlast =>
    rw [if_neg (hw.due _ hlast)]
    exact ⟨_, rfl⟩
  · exact ⟨_, rfl⟩

theorem autoSettleOutcome_reads (hw : Ready S t fence outcome w) :
    wp (truthfully S t) (autoSettleOutcome S fence outcome) w fun settled w' =>
      (settled = true ∧ Unblocked outcome w') ↔ Found S outcome w := by
  obtain ⟨v, hdue⟩ := truthfully_due hw
  -- the tables and the height are the same
  generalize hw₁ : w.setProc t.proc v = w₁ at hdue
  have hsettle : Settleable fence outcome w₁ := hw₁ ▸ hw.settleable
  have hfound : Found S outcome w₁ ↔ Found S outcome w := by rw [← hw₁]; rfl
  unfold autoSettleOutcome
  rw [hw.auto, hw.blocked, ← hfound]
  refine .do_bind hdue ?_
  have hchain : wp (truthfully S t) (checkEvm S) w₁ fun ok w' => ok = true ∧ w' = w₁ :=
    .do_bind rfl (.pure ⟨decide_eq_true ⟨hw.chain, rfl⟩, rfl⟩)
  refine hchain.bind ?_
  rintro _ w' ⟨rfl, rfl⟩
  refine .do_bind rfl ?_
  refine (receiptAtOrBelow_reads outcome.txHash).bind ?_
  rintro (_ | receipt) w'' ⟨rfl, hreceipt⟩
  · -- the original's receipt was not found
    have hnone : ¬ S.chain.ReceiptBy w''.height outcome.txHash := fun h => by simpa using hreceipt.mpr h
    refine .do_bind (r := .ok (listed S outcome w'')) rfl ?_
    refine (settleByReceipts_reads hsettle _ _).bind ?_
    rintro _ w' (⟨rfl, hsettled, hhit⟩ | ⟨others, rfl, rfl, hmiss, hothers⟩)
    · exact .pure (iff_of_true ⟨rfl, hsettled⟩ (.inr (.inl hhit)))
    · refine (settleFromCosmos_reads hsettle _ others).mono fun settled w' h => h.trans ?_
      simp only [Found, hnone, hmiss, false_or, hothers, and_assoc]
  have hyes : Found S outcome w'' := .inl (hreceipt.mp rfl)
  change wp _ (if receipt.status ≠ receiptStatusSuccessful then _ else _) _ _
  split_ifs
  · exact (delete_settles hsettle _).mono fun settled w' h => iff_of_true h hyes
  refine (applyAutoOutcome_settles hsettle ?_ _).mono fun settled w' h => iff_of_true h hyes
  intro _ ho hstate
  cases ho
  cases hstate

end

/-! ## Settlement -/

/-- A receipt settles a blocked outcome just when it is the original's, or one within the window after
the original's own evidence row, or the Cosmos index decides. -/
theorem receipt_settles_iff (S : Setup) (t : Tid) (fence : Fence) (outcome : OutcomeRecord) (w : World)
    (hw : Ready S t fence outcome w) :
    wp (truthfully S t) (autoSettleOutcome S fence outcome) w fun settled w' =>
      ((ReceiptShown S outcome w → settled = true ∧ Unblocked outcome w') ↔
        (ReceiptShown S outcome w → Found S outcome w)) :=
  (autoSettleOutcome_reads hw).mono fun _ _ h => imp_congr_right fun _ => h

/-- A signer that signed the transactions 16 and 17 at nonce 1, of which one is in block 5. -/
def supersededSetup (included : Hash) : Setup :=
  { sampleSetup fun h => if h = included then some ({ status := 1, blockNumber := some 5 }, 5) else none with
    autoEvm := true }

def evidenceOf (id : Nat) (byte : Bytes) : SignedTxEvidence :=
  { id, chainID := "moca_5151-1", evmChainID := 5151, scope := .seal, operation := 7, sender := 3, nonce := 1,
    txHash := (byte.headD 0).setWidth 256, raw := byte, recordedBlock := 2 }

/-- The operation of the second transaction is blocked. -/
def blockedRow : StateRow :=
  { id := 9, signedTxID := 2, chainID := "moca_5151-1", scope := .seal, operation := 7, sender := 3, nonce := 1,
    txHash := 17, state := .outcome .blockedUnknown, leaseEpoch := 1 }

def blockedOutcome : OutcomeRecord := blockedRow.toOutcome .blockedUnknown

def blockedWorld : World :=
  { height := 6
    db := { lease := [⟨"moca_5151-1", "a", 1, 10⟩], state := [blockedRow],
            signedTx := [evidenceOf 1 [16], evidenceOf 2 [17]] } }

def fenceOfSigner : Fence := { chainID := "moca_5151-1", owner := "a", epoch := 1 }

theorem sample_ready (included : Hash) :
    Ready (supersededSetup included) ⟨"a", 0⟩ fenceOfSigner blockedOutcome blockedWorld := by
  refine ⟨rfl, ?_, rfl, fun _ h => by simp [blockedWorld] at h, fun to_ event => ?_⟩
  · simp [supersededSetup, sampleSetup]
  · cases to_ <;> exact ⟨_, rfl⟩

theorem receiptBy_sample (h : Hash) : (supersededSetup h).chain.ReceiptBy 6 h :=
  ⟨{ status := 1, blockNumber := some 5 }, by simp [supersededSetup, sampleSetup, Chain.receiptNow], 5, rfl, by decide⟩

theorem receipt_settles_sample : wp (truthfully (supersededSetup 17) ⟨"a", 0⟩)
      (autoSettleOutcome (supersededSetup 17) fenceOfSigner blockedOutcome) blockedWorld
      fun settled _ => settled = true :=
  (receipt_settles_iff _ ⟨"a", 0⟩ fenceOfSigner _ _ (sample_ready 17)).mono fun _ _ h =>
    (h.mpr (fun _ => .inl (receiptBy_sample 17)) (.inl (receiptBy_sample 17))).1

/-- The bytes of the earlier transaction, which was given up and its nonce used again, land late: the
outcome of the later one stays blocked. -/
theorem earlier_transaction_missed : ReceiptShown (supersededSetup 16) blockedOutcome blockedWorld ∧
      wp (truthfully (supersededSetup 16) ⟨"a", 0⟩)
        (autoSettleOutcome (supersededSetup 16) fenceOfSigner blockedOutcome) blockedWorld
        fun settled w' => ¬ (settled = true ∧ Unblocked blockedOutcome w') := by
  have hother : Other (supersededSetup 16) blockedOutcome (evidenceOf 1 [16]) := ⟨by decide, 16, by decide⟩
  have hlisted : listed (supersededSetup 16) blockedOutcome blockedWorld = [] := by decide
  have hnone : (supersededSetup 16).chain.receiptNow 6 17 = none := by decide
  refine ⟨.inr ⟨evidenceOf 1 [16], .head _, rfl, rfl, rfl, hother, receiptBy_sample 16⟩, ?_⟩
  refine (autoSettleOutcome_reads (sample_ready 16)).mono fun settled w' h => ?_
  rw [h, Found, hlisted]
  rintro (⟨_, hr, -⟩ | ⟨_, he, -⟩ | ⟨hcosmos, -⟩)
  · cases hnone.symm.trans hr
  · cases he
  · cases hcosmos

end Signer

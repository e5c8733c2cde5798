-- SUMMARY: The code of `evm_state_auto.go`.
import MocaSP.Signer.Manager

/-!
# Automatic dispositions
-/

namespace Signer.Client

variable (S : Setup) (p : String)

/-- `checkEvm`: the EVM RPC serves the signer's EVM chain. -/
def checkEvm : Code Bool := do
  match ← ask .evmChainID with
  | .ok (some id) => return id < 2 ^ 64 ∧ id = S.evmChainID
  | _ => return false

/-- `checkCosmos`: the CometBFT RPC serves the signer's chain. -/
def checkCosmos : Code Bool := do
  match ← ask .network with
  | .ok network => return network = S.chainID
  | .error _ => return false

variable (fence : Fence) (scope : SignType)

def forgetObservation : Code Unit := .do_ (.setNotes scope fun n => { n with autoSeen := none })

/-- `observe`: whether the same conclusion was already seen for the same
transaction at a lower height. -/
def observe (txHash : Hash) (reason : BlockReason) (height : Nat) : Code Bool := do
  let mem ← .do_ (.loadMem scope)
  match mem.notes.autoSeen with
  | some seen =>
    if seen.txHash = txHash ∧ seen.reason = reason then return seen.height < height
    else
      .do_ (.setNotes scope fun n => { n with autoSeen := some { txHash, reason, height } })
      return false
  | none =>
    .do_ (.setNotes scope fun n => { n with autoSeen := some { txHash, reason, height } })
    return false

/-- `autoBlocked`. -/
def autoBlocked (reason : BlockReason) : OutcomeRecord :=
  { state := .blockedUnknown, reason := some reason, source := some .auto }

/-- `withCosmosEvidence`. -/
def withCosmosEvidence (event : AuditEvent) (view : CosmosTxView) : AuditEvent :=
  { event with
    evidence := some (.cosmos view.hash)
    receiptBlock := if view.height ≠ 0 then some view.height else event.receiptBlock }

variable (pending : PendingRecord)

/-- The read back of an unknown `AutoResolvePending`. -/
def readBackAutoPending (event : AuditName) : Code Bool := do
  match ← store (.getPending S.chainID scope) with
  | .error _ => return false
  | .ok current =>
    if current.map PendingRecord.id = some pending.id then return false
    match ← store (.hasAudit S.chainID event pending.txHash 0) with
    | .ok done => return done
    | .error _ => return false

/-- `AutoResolvePending`, and the read back of an unknown commit. -/
def writeAutoPending
    (result : Option OutcomeRecord) (event : AuditEvent) : Code (Option StoreErr) := do
  match ← store (.autoResolvePending fence pending result event) with
  | .ok _ => return none
  | .error .commitUnknown =>
    if ← readBackAutoPending S scope pending event.event then return none
    else return some .commitUnknown
  | .error e => return some e

/-- The next transaction of the scope takes the chain nonce. A row of an earlier
key does not touch the current key's. -/
def takeChainNonce (sender : Address) (nextNonce : Nat) : Code Unit :=
  if S.key p scope = some sender ∧ hasNonceCache scope then setNonce scope nextNonce else return

/-- `applyAutoPending`: whether the row is gone. -/
def applyAutoPending
    (result : Option OutcomeRecord) (event : AuditEvent) (nextNonce : Nat) : Code Bool := do
  let event := match result with
    | some o => { event with outcomeID := some pending.id, outcomeState := some o.state,
                             outcomeReason := o.reason }
    | none => event
  match ← writeAutoPending S fence scope pending result event with
  | some .rowGone => return true
  | some _ => return false
  | none =>
    clearLastSeen scope pending.id
    forgetObservation scope
    takeChainNonce S p scope pending.sender nextNonce
    return true

/-- The branch of `autoDisposePending` for a used nonce. -/
def autoDisposeUsed (height chainNonce : Nat) (base : AuditEvent) : Code Bool := do
  if !S.autoCosmos then return false
  if !(← checkCosmos S) then return false
  match ← ask (.searchEthereumTx pending.txHash height) with
  | .error _ => return false
  | .ok (some view) =>
    if view.code ≠ 0 then
      applyAutoPending S p fence scope pending none
        { withCosmosEvidence base view with event := .autoResolvedFailed } chainNonce
    else
      -- included without a failure code: its receipt decides
      forgetObservation scope
      return false
  | .ok none =>
    if !(← observe scope pending.txHash .receiptMissing height) then return false
    applyAutoPending S p fence scope pending (some (autoBlocked .receiptMissing))
      { base with event := .autoBlockedMissing } chainNonce

/-- The branch of `autoDisposePending` for a nonce that is not used yet: whether
the row moved, and whether the bytes were re-sent. -/
def autoDisposeOpen (signedTx : Hash)
    (height chainNonce : Nat) (base : AuditEvent) : Code (Bool × Bool) := do
  match ← ask (.pendingNonceAt pending.sender) with
  | .error _ => return (false, false)
  | .ok pendingNonce =>
    if pendingNonce ≠ chainNonce then
      forgetObservation scope
      return (false, false)
    let sendErr ← .do_ (.send (some fence) signedTx)
    let done ← .do_ .ctxDone
    let classified := classifyEvmSendError done sendErr
    let conclusion : Option (BlockReason × AuditName) :=
      if chainNonce = pending.nonce ∧ classified = .rejected then
        some (.dropped, .autoBlockedDropped)
      else if chainNonce < pending.nonce ∧ classified = .nonceRejected ∧
          isEvmNonceHighError ((sendErr.map SendErr.text).getD "") then
        some (.nonceGap, .autoBlockedNonceGap)
      else none
    match conclusion with
    | none =>
      forgetObservation scope
      return (false, true)
    | some (reason, event) =>
      if !(← observe scope pending.txHash reason height) then return (false, true)
      let moved ← applyAutoPending S p fence scope pending (some (autoBlocked reason))
        { base with event } chainNonce
      return (moved, true)

/-- `autoDisposePending`: whether the row is gone, and whether the recorded
bytes were re-sent. -/
def autoDisposePending (signedTx : Hash) : Code (Bool × Bool) := do
  if !S.autoEvm then return (false, false)
  if !(← checkEvm S) then return (false, false)
  match ← ask .blockNumber with
  | .error _ => return (false, false)
  | .ok height =>
    match ← ask (.nonceAt pending.sender height) with
    | .error _ => return (false, false)
    | .ok chainNonce =>
      let base := { pending.audit .recorded with
        chainNonce := some chainNonce, chainHeight := some height }
      if pending.nonce < chainNonce then
        let moved ← autoDisposeUsed S p fence scope pending height chainNonce base
        return (moved, false)
      else autoDisposeOpen S p fence scope pending signedTx height chainNonce base

/-! ## Blocked outcomes -/

variable (outcome : OutcomeRecord)

/-- `AutoSettleOutcome`, and the read back of an unknown commit. -/
def writeAutoOutcome (to_ : Option OutcomeRecord)
    (event : AuditEvent) : Code (Option StoreErr) := do
  match ← store (.autoSettleOutcome fence outcome [.blockedUnknown] to_ event) with
  | .ok _ => return none
  | .error .commitUnknown =>
    match ← store (.hasAudit S.chainID event.event 0 outcome.id) with
    | .ok true => return none
    | _ => return some .commitUnknown
  | .error e => return some e

/-- `applyAutoOutcome`: whether the outcome was settled or changed. -/
def applyAutoOutcome (to_ : Option OutcomeRecord) (event : AuditEvent) : Code Bool := do
  let event := match to_ with
    | some o => { event with outcomeState := some o.state }
    | none => event
  match ← writeAutoOutcome S fence outcome to_ event with
  | some .rowGone | some .conflict => return true
  | some _ => return false
  | none =>
    .do_ (.forgetOutcomeCheck outcome.id)
    return true

/-- `supersededBy`. -/
def supersededBy (base : AuditEvent) (row : SignedTxEvidence) : AuditEvent :=
  { base with event := .autoOutcomeSuperseded, evidence := some (.evm row.txHash) }

/-- The receipt of a transaction in a block at or below `height`. -/
def receiptAtOrBelow (txHash : Hash) (height : Nat) : Code (Option Receipt) := do
  match ← ask (.receipt txHash) with
  | .ok (some r) =>
    match r.blockNumber with
    | some n => return if n ≤ height then some r else none
    | none => return none
  | _ => return none

/-- The loop over the other transactions signed at the outcome's nonce: those
without a receipt, or the result of settling by one that has one. -/
def settleByReceipts (fence : Fence) (outcome : OutcomeRecord) (height : Nat) (base : AuditEvent) :
    List SignedTxEvidence → Code (Bool ⊕ List SignedTxEvidence)
  | [] => return .inr []
  | row :: rows => do
    if row.txHash = outcome.txHash then settleByReceipts fence outcome height base rows
    else
      match verify S.eth S.evmChainID (some row) row.ref with
      | .error _ => settleByReceipts fence outcome height base rows
      | .ok _ =>
        match ← receiptAtOrBelow row.txHash height with
        | some _ =>
          let settled ← applyAutoOutcome S fence outcome none (supersededBy base row)
          return .inl settled
        | none =>
          match ← settleByReceipts fence outcome height base rows with
          | .inl settled => return .inl settled
          | .inr others => return .inr (row :: others)

/-- The loop over the same transactions in the Cosmos index. -/
def settleByIndex (fence : Fence) (outcome : OutcomeRecord) (height : Nat) (base : AuditEvent) :
    List SignedTxEvidence → Code Bool
  | [] => return false
  | row :: rows => do
    match ← ask (.searchEthereumTx row.txHash height) with
    | .error .indexDisabled => return false
    | .ok (some _) => applyAutoOutcome S fence outcome none (supersededBy base row)
    | _ => settleByIndex fence outcome height base rows

/-- The part of `autoSettleOutcome` that searches the Cosmos index. -/
def settleFromCosmos (height : Nat) (base : AuditEvent)
    (others : List SignedTxEvidence) : Code Bool := do
  if !S.autoCosmos then return false
  if !(← checkCosmos S) then return false
  match ← ask (.searchEthereumTx outcome.txHash height) with
  | .error .indexDisabled => return false
  | .ok (some view) =>
    if view.code ≠ 0 then
      applyAutoOutcome S fence outcome none
        { withCosmosEvidence base view with event := .autoOutcomeFailed }
    else settleByIndex S fence outcome height base others
  | _ => settleByIndex S fence outcome height base others

/-- `evmSupersedeWindow`. -/
def evmSupersedeWindow : Nat := 1000

/-- The part of `autoSettleOutcome` after the original's receipt. -/
def settleFromOthers (height : Nat) (base : AuditEvent) : Code Bool := do
  match ← store (.listSignedTxAtNonce S.chainID outcome.sender outcome.nonce outcome.signedTxID
      evmSupersedeWindow) with
  | .error _ => return false
  | .ok rows =>
    match ← settleByReceipts S fence outcome height base rows with
    | .inl settled => return settled
    | .inr others => settleFromCosmos S fence outcome height base others

/-- `autoSettleOutcome`: whether the outcome was settled. -/
def autoSettleOutcome : Code Bool := do
  if !S.autoEvm || outcome.state ≠ .blockedUnknown then return false
  if !(← .do_ (.outcomeCheckDue outcome.id)) then return false
  if !(← checkEvm S) then return false
  match ← ask .blockNumber with
  | .error _ => return false
  | .ok height =>
    let base := { outcome.audit .recorded with chainHeight := some height }
    match ← receiptAtOrBelow outcome.txHash height with
    | some receipt =>
      let event := { base with
        receiptStatus := some receipt.status, receiptBlock := receipt.blockNumber }
      if receipt.status ≠ receiptStatusSuccessful then
        applyAutoOutcome S fence outcome none { event with event := .autoOutcomeFailed }
      else
        applyAutoOutcome S fence outcome
          (some { state := .succeeded, resultTxHash := outcome.txHash,
                  receiptBlock := receipt.blockNumber.getD 0, source := some .auto })
          { event with event := .autoOutcomeSucceeded }
    | none => settleFromOthers S fence outcome height base

end Signer.Client

-- SUMMARY: The code of `resolvePendingEvmTx`.
import MocaSP.Signer.Auto

/-!
# Resolving a scope

`resolveEvmState` calls itself after each transition that changed the state. The
source counts the depth up to `evmResolveMaxDepth`; here the number of calls left
is counted down. The functions that may start over take that call as `again`.
-/

namespace Signer.Client

variable (S : Setup) (p : String)

/-- `readBackConsumed`: the row is gone and its `outcome_consumed` audit exists. -/
def readBackConsumed (outcome : OutcomeRecord) : Code (Except StoreErr Bool) := do
  match ← store (.getOutcome S.chainID outcome.scope outcome.operation) with
  | .error e => return .error e
  | .ok current =>
    if current.map OutcomeRecord.id = some outcome.id then return .ok false
    store (.hasAudit S.chainID .outcomeConsumed 0 outcome.id)

variable (again : Code Decision) (fence : Fence) (scope : SignType)

/-- `consumeOutcome`: hand a succeeded outcome to the request for its operation. -/
def consumeOutcome (outcome : OutcomeRecord) : Code Decision := do
  match ← store (.consumeOutcome fence outcome) with
  | .ok _ => return some { hash := some outcome.resultTxHash }
  | .error .rowGone => again
  | .error .commitUnknown =>
    match ← readBackConsumed S outcome with
    | .ok true => return some { hash := some outcome.resultTxHash }
    | _ =>
      .do_ (.setConsumeUnknown scope (some outcome))
      return fail (.takeOutcome outcome.id .commitUnknown)
  | .error e => return fail (.takeOutcome outcome.id e)

variable (operation : Hash)

/-- Step 3 of `resolveEvmState`: an active outcome of the operation. -/
def resolveOutcome (outcome : OutcomeRecord) : Code Decision := do
  match ← loadEvidence S (some fence) .outcome outcome.id outcome.ref (outcome.audit .recorded) with
  | .error e => return fail e
  | .ok _ =>
    match outcome.state with
    | .succeeded => consumeOutcome S again fence scope outcome
    | .executedElsewhere => return fail (.executedElsewhere operation outcome.evidence outcome.id)
    | .blockedUnknown =>
      if ← autoSettleOutcome S fence outcome then again
      else return fail (.blocked operation outcome.id outcome.reason)

/-- Step 4 for a scope without a pending row: note a row that was removed
outside the signer. -/
def resolveEmpty : Code Decision := do
  let mem ← .do_ (.loadMem scope)
  let lastSeen := mem.notes.lastSeenPending
  if lastSeen = 0 then return none
  match ← store (.appendAudit (some fence) S.chainID { event := .pendingVanished, scope }) with
  | .error e => return fail (.auditVanished e)
  | .ok _ =>
    match ← refreshNonceFromChain scope with
    | some e => return fail e
    | none =>
      clearLastSeen scope lastSeen
      return none

/-- `rebroadcastPendingEvmTx`, unless the bytes were `sent` just before. Sending
the same bytes again can execute them at most once. -/
def rebroadcastPendingEvmTx (signedTx : Hash) (sent : Bool) : Code Unit := do
  if sent then return
  if ← .do_ .ctxDone then return
  let _ ← .do_ (.send (some fence) signedTx)

variable (pending : PendingRecord)

/-- Step 4 for a pending row without a receipt. -/
def resolveUnconfirmed (signedTx : Hash) : Code Decision := do
  let (moved, sent) ← autoDisposePending S p fence scope pending signedTx
  if moved then again
  else
    rebroadcastPendingEvmTx fence signedTx sent
    return some { hash := some pending.txHash,
                  err := some (.unconfirmed scope pending.nonce pending.txHash pending.ambiguous) }

/-- The terminal a receipt gives a request for `operation`. -/
def receiptTerminal (receipt : Receipt) : PendingTerminal :=
  { kind :=
      if receipt.status = receiptStatusSuccessful then
        if pending.operation = operation then .successConsume else .successKeep
      else .failed
    receiptStatus := some receipt.status
    receiptBlock := receipt.blockNumber.getD 0
    source := some .resolve }

/-- Step 4 for a pending row with a receipt. -/
def resolveReceipt (receipt : Receipt) : Code Decision := do
  let terminal := receiptTerminal operation pending receipt
  match ← applyTerminal S fence pending terminal with
  | none =>
    if terminal.kind = .successConsume then return some { hash := some pending.txHash }
    else return none
  | some .rowGone => again
  | some e =>
    stashTerminal fence scope pending terminal
    return fail (.terminalNotRecorded pending.txHash e)

/-- Step 4 of `resolveEvmState`: the scope's pending transaction. -/
def resolvePending : Code Decision := do
  match ← store (.getPending S.chainID scope) with
  | .error e => return fail (.readPending e)
  | .ok none => resolveEmpty S fence scope
  | .ok (some pending) =>
    setLastSeen scope pending.id
    match ← loadEvidence S (some fence) .pending pending.id pending.ref (pending.audit .recorded) with
    | .error e => return some { hash := some pending.txHash, err := some e }
    | .ok signedTx =>
      match ← ask (.receipt pending.txHash) with
      | .ok (some receipt) => resolveReceipt S again fence scope operation pending receipt
      | _ => resolveUnconfirmed S p again fence scope pending signedTx

/-- `evmResolveMaxDepth`. -/
def evmResolveMaxDepth : Nat := 4

/-- `resolveEvmState`, with `left` calls left. -/
def resolveEvmState (fence : Fence) (scope : SignType) (operation : Hash) :
    (left : Nat) → Code Decision
  | 0 => return fail (.keepsChanging scope)
  | left + 1 => do
    let retried ← retryEvmMemory S fence scope operation
    if retried.isSome then return retried
    let again := resolveEvmState fence scope operation left
    if operation = 0 then resolvePending S p again fence scope operation
    else
      match ← store (.getOutcome S.chainID scope operation) with
      | .error e => return fail (.readOutcome e)
      | .ok (some outcome) => resolveOutcome S again fence scope operation outcome
      | .ok none => resolvePending S p again fence scope operation

/-- `resolvePendingEvmTx`: whether a request for `operation` may be signed. A
background resolution passes the zero operation. -/
def resolvePendingEvmTx : Code Decision := do
  match ← .do_ .fence with
  | none => return fail .leaseNotHeld
  | some fence =>
    let syncErr ← syncEvmScopeEpoch S p fence scope none
    match syncErr with
    | none | some (.nonceUnsynced ..) =>
      let decision ← resolveEvmState S p fence scope operation (evmResolveMaxDepth + 1)
      match decision, syncErr with
      | some answer, _ => return some answer
      | none, some e => return fail e
      | none, none =>
        .do_ (.noteCleared scope operation fence.epoch)
        return none
    | some e => return fail e

/-! ## Background work -/

/-- `scopeLock(scope) != nil`. -/
def hasScopeLock : SignType → Bool := hasNonceCache

/-- `backgroundResolveEvm`. -/
def backgroundResolveEvm : Code Unit := do
  if !hasScopeLock scope then return
  .do_ (.lock scope)
  let _ ← resolvePendingEvmTx S p scope 0
  .do_ (.unlock scope)

/-- The body of the loop of `backgroundSettleOutcomes`. -/
def settleVerified (outcome : OutcomeRecord) : Code Unit := do
  match ← loadEvidence S (some fence) .outcome outcome.id outcome.ref (outcome.audit .recorded) with
  | .ok _ => let _ ← autoSettleOutcome S fence outcome
  | .error _ => return

/-- The loop of `backgroundSettleOutcomes`. -/
def settleOutcomes (fence : Fence) : List OutcomeRecord → Code Unit
  | [] => return
  | outcome :: rest => do
    if outcome.state = .blockedUnknown ∧ hasScopeLock outcome.scope then
      .do_ (.lock outcome.scope)
      settleVerified S fence outcome
      .do_ (.unlock outcome.scope)
      settleOutcomes fence rest
    else settleOutcomes fence rest

/-- `backgroundSettleOutcomes`. -/
def backgroundSettleOutcomes : Code Unit := do
  match ← store (.listOutcomes S.chainID) with
  | .error _ => return
  | .ok outcomes => settleOutcomes S fence outcomes

/-- The part of `recoverEvmState` that audits the loaded pending rows. -/
def auditLoaded (fence : Fence) : List PendingRecord → Code Unit
  | [] => return
  | pending :: rest => do
    match ← loadEvidence S (some fence) .pending pending.id pending.ref
        (pending.audit .recorded) with
    | .error _ => auditLoaded fence rest
    | .ok _ =>
      let _ ← store (.appendAudit (some fence) S.chainID (pending.audit .loadedOnStart))
      auditLoaded fence rest

/-- The part of `recoverEvmState` that checks the evidence of the outcomes. -/
def checkOutcomes (fence : Fence) : List OutcomeRecord → Code Unit
  | [] => return
  | outcome :: rest => do
    let _ ← loadEvidence S (some fence) .outcome outcome.id outcome.ref (outcome.audit .recorded)
    checkOutcomes fence rest

/-- The part of `recoverEvmState` that syncs the scopes. -/
def syncScopes (fence : Fence) (pendings : List PendingRecord) : List SignType → Code Unit
  | [] => return
  | scope :: rest => do
    .do_ (.lock scope)
    let _ ← syncEvmScopeEpoch S p fence scope (pendings.filter (·.scope = scope)).getLast?
    .do_ (.unlock scope)
    syncScopes fence pendings rest

/-- `recoverEvmState`, without the work it spawns at its end. -/
def recoverEvmState : Code Unit := do
  match ← store (.listPending S.chainID) with
  | .error _ => return
  | .ok pendings =>
    auditLoaded S fence pendings
    match ← store (.listOutcomes S.chainID) with
    | .ok outcomes =>
      checkOutcomes S fence outcomes
      syncScopes S p fence pendings [.operator, .seal, .gc]
    | .error _ => syncScopes S p fence pendings [.operator, .seal, .gc]

end Signer.Client

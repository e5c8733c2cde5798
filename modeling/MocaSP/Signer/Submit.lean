-- SUMMARY: The code that signs, and the lease loop.
import MocaSP.Signer.Resolve

/-!
# Signing, and the lease

The signing methods of `signer_client.go` differ in the message they build; they
share the code from `resolvePendingEvmTx` on, which is what is modelled here. The
message enters through its fingerprint, the operation.
-/

namespace Signer.Client

variable (S : Setup) (p : String)

/-! ## Submitting -/

variable (fence : Fence) (scope : SignType)

/-- `recordPendingEvmTx`. Nothing may be sent unless it returns a row. -/
def recordPendingEvmTx (operation txHash : Hash) (raw : Bytes) :
    Code (Except Err PendingRecord) := do
  let tx := S.eth.tx txHash
  match tx.chainID, tx.sender with
  | none, _ => return .error .noChainID
  | some evmChainID, none => return .error (if evmChainID < 2 ^ 64 then .noSender else .noChainID)
  | some evmChainID, some sender =>
    if 2 ^ 64 ≤ evmChainID then return .error .noChainID
    match ← ask .blockNumber with
    | .error _ => return .error .blockNumber
    | .ok block =>
      let evidence : SignedTxEvidence :=
        { chainID := S.chainID, evmChainID, scope, operation, sender, nonce := tx.nonce, txHash, raw,
          recordedBlock := block }
      let pending : PendingRecord :=
        { chainID := S.chainID, scope, sender, nonce := tx.nonce, txHash, operation }
      match ← store (.record fence evidence pending) with
      | .ok recorded =>
        setLastSeen scope recorded.id
        return .ok recorded
      | .error .commitUnknown =>
        match ← store (.getPending S.chainID scope) with
        | .ok (some current) =>
          if current.txHash = txHash then
            setLastSeen scope current.id
            return .ok current
          else return .error (.record .commitUnknown)
        | _ => return .error (.record .commitUnknown)
      | .error e => return .error (.record e)

variable (pending : PendingRecord)

/-- `finishPendingEvmTx`: on failure the evidence is kept for the next request
in the scope. -/
def finishPendingEvmTx (terminal : PendingTerminal) : Code (Option StoreErr) := do
  match ← applyTerminal S fence pending terminal with
  | none => return none
  | some e =>
    stashTerminal fence pending.scope pending terminal
    return some e

/-- The re-sends after an unknown first send. No answer to them ends the row. -/
def resend (fence : Fence) (txHash : Hash) : (attempts : Nat) → Code Unit
  | 0 => return
  | attempts + 1 => do
    if ← .do_ .ctxDone then return
    let err ← .do_ (.send (some fence) txHash)
    let done ← .do_ .ctxDone
    if evmNodeAnswered done err then return
    resend fence txHash attempts

/-- `BroadcastTxRetry`. -/
def BroadcastTxRetry : Nat := 3

/-- The end of `submitEvmTx`: wait for the receipt. -/
def confirm (txHash : Hash) : Code Answer := do
  match ← ask (.waitReceipt txHash) with
  | .error _ => return { hash := some txHash, err := some .waitReceipt }
  | .ok receipt =>
    let terminal : PendingTerminal :=
      { kind := .successConsume, receiptStatus := some receipt.status,
        receiptBlock := receipt.blockNumber.getD 0, source := some .submit }
    match ← finishPendingEvmTx S fence pending terminal with
    | some e => return { hash := some txHash, err := some (.confirmedNotRecorded e) }
    | none => return { hash := some txHash }

/-- The first send of `submitEvmTx` was refused: end the row as not admitted. -/
def refuse (kind : TerminalKind) (sendErr : Option SendErr) (recorded : Err) : Code Answer := do
  match ← finishPendingEvmTx S fence pending { kind } with
  | some e => return { err := some (.refusalNotRecorded sendErr e) }
  | none => return { err := some recorded }

/-- The first send and what follows it. -/
def sendRecorded (txHash : Hash) : Code Answer := do
  let sendErr ← .do_ (.send (some fence) txHash)
  let done ← .do_ .ctxDone
  match classifyEvmSendError done sendErr with
  | .nonceRejected =>
    let kind := if isEvmNonceHighError ((sendErr.map SendErr.text).getD "") then
      TerminalKind.notAdmittedNonceHigh else .notAdmittedNonceLow
    refuse S fence pending kind sendErr (.nonceRejected sendErr)
  | .rejected => refuse S fence pending .notAdmittedRejected sendErr (.rejected sendErr)
  | .ambiguous =>
    let _ ← store (.markAmbiguous fence pending)
    resend fence txHash (BroadcastTxRetry - 1)
    confirm S fence pending txHash
  | .accepted => confirm S fence pending txHash

/-- `submitEvmTx`. An answer without a hash means that nothing may have been
admitted. -/
def submitEvmTx (operation txHash : Hash) (raw : Bytes) : Code Answer := do
  if ← .do_ .ctxDone then return { err := some .ctxDone }
  match ← .do_ .fence with
  | none => return { err := some .leaseNotHeld }
  | some fence =>
    match ← recordPendingEvmTx S fence scope operation txHash raw with
    | .error e => return { err := some e }
    | .ok pending => sendRecorded S fence pending txHash

/-! ## Signing methods -/

/-- The retry loop of a signing method. It signs again only after a nonce
rejection. -/
def signLoop (scope : SignType) (operation : Hash) : (attempts : Nat) → Code Answer
  | 0 => return { err := some .broadcast }
  | attempts + 1 => do
    let mem ← .do_ (.loadMem scope)
    let nonce := mem.notes.nonce
    match ← .do_ (.sign scope operation nonce) with
    | none => return { err := some .sign }
    | some (txHash, raw) =>
      let answer ← submitEvmTx S scope operation txHash raw
      match answer.hash, answer.err with
      | none, some (.nonceRejected _) =>
        match ← ask (.cosmosNonce scope) with
        | .error _ => return { err := some .nonceOnChain }
        | .ok onChain =>
          setNonce scope onChain
          signLoop scope operation attempts
      | none, some e => return { err := some e }
      | _, _ =>
        setNonce scope (nonce + 1)
        return answer

/-- A signing method, such as `SealObjectEvm`. The caller gets the answer when
the method returns; it is noted before the deferred unlock, since nothing can
change it any more. -/
def request (operation : Hash) : Code Unit := do
  .do_ (.lock scope)
  match ← resolvePendingEvmTx S p scope operation with
  | some answer =>
    .do_ (.respond answer.hash answer.err.isSome)
    .do_ (.unlock scope)
  | none =>
    let answer ← signLoop S scope operation BroadcastTxRetry
    .do_ (.respond answer.hash answer.err.isSome)
    .do_ (.unlock scope)

/-! ## The lease -/

/-- `lose`. -/
def lose (epoch : Nat) : Code Unit := do
  if ← .do_ (.setLost epoch) then
    let _ ← store (.appendAudit none S.chainID { event := .leaseLost })

/-- `tick`: acquire or renew once. The recovery that a new epoch spawns is a
job of its own. -/
def tick : Code Unit := do
  let (lease, _) ← .do_ .readLease
  if !lease.held then
    match ← store (.acquireLease S.chainID p S.ttl) with
    | .ok (epoch, true) => .do_ (.setAcquired epoch)
    | _ => return
  else
    match ← store (.renewLease { chainID := S.chainID, owner := p, epoch := lease.epoch } S.ttl) with
    | .ok true => .do_ .setRenewed
    | .ok false => lose S lease.epoch
    | .error _ =>
      let (_, now) ← .do_ .readLease
      if now - lease.lastRenew > S.ttl then lose S lease.epoch

/-- `stop`. -/
def stop : Code Unit := do
  let (lease, _) ← .do_ .readLease
  if lease.held then
    let _ ← .do_ (.setLost lease.epoch)
    let _ ← store (.releaseLease { chainID := S.chainID, owner := p, epoch := lease.epoch })

end Signer.Client

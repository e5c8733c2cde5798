-- SUMMARY: The code of `evm_state_manager.go`.
import MocaSP.Signer.World

/-!
# The state manager

Programs over the calls of `World`. Every function runs under its scope's lock
unless it says otherwise. Contexts with timeouts only make calls fail and are
part of what a call leaves open; log lines are left out.
-/

namespace Signer

abbrev Code := Prog Cmd

/-- The errors a request can get. -/
inductive Err where
  | leaseNotHeld
  | readPending (e : StoreErr)
  | readOutcome (e : StoreErr)
  | readEvidence (id : Nat) (e : StoreErr)
  | readBack (e : StoreErr)
  | evidence (why : EvidenceError)
  | nonceUnsynced (scope : SignType) (epoch : Nat)
  | nonceRefresh (scope : SignType)
  | keepsChanging (scope : SignType)
  | executedElsewhere (operation : Hash) (evidence : Option TxRef) (outcomeID : Nat)
  | blocked (operation : Hash) (outcomeID : Nat) (reason : Option BlockReason)
  | auditVanished (e : StoreErr)
  | unconfirmed (scope : SignType) (nonce : Nat) (txHash : Hash) (ambiguous : Bool)
  | terminalNotRecorded (txHash : Hash) (e : StoreErr)
  | takeOutcome (id : Nat) (e : StoreErr)
  | ctxDone
  | sign
  | noChainID
  | noSender
  | blockNumber
  | record (e : StoreErr)
  | nonceRejected (err : Option SendErr)
  | rejected (err : Option SendErr)
  | refusalNotRecorded (err : Option SendErr) (e : StoreErr)
  | waitReceipt
  | confirmedNotRecorded (e : StoreErr)
  | nonceOnChain
  | broadcast

/-- The hash, if any, and the error a request is answered with. -/
structure Answer where
  hash : Option Hash := none
  err : Option Err := none

/-- `(hash, handled, err)`: a request that is handled has its answer; one that
is not may be signed. -/
abbrev Decision := Option Answer

def fail (e : Err) : Decision := some { err := some e }

namespace Client

def store {β : Type} (c : StoreCall β) : Code (Except StoreErr β) := .do_ (.store c)

def ask {β : Type} (q : Query β) : Code β := .do_ (.ask q)

variable (S : Setup) (p : String)

/-- `nonceCache(scope) != nil`. -/
def hasNonceCache : SignType → Bool
  | .operator | .seal | .gc => true
  | .approval => false

variable (fence : Fence) (scope : SignType)

def clearLastSeen (id : Nat) : Code Unit :=
  .do_ (.setNotes scope fun n =>
    if n.lastSeenPending = id then { n with lastSeenPending := 0 } else n)

def setLastSeen (id : Nat) : Code Unit :=
  .do_ (.setNotes scope fun n => { n with lastSeenPending := id })

def setNonce (nonce : Nat) : Code Unit := .do_ (.setNotes scope fun n => { n with nonce })

/-- The audit of an invalid evidence row, once per referencing row. -/
def auditInvalid (fence : Option Fence) (kind : RowKind) (rowID : Nat) (event : AuditEvent) :
    Code Unit := do
  if ← .do_ (.isAudited kind rowID) then return
  match ← store (.appendAudit fence S.chainID { event with event := .evidenceInvalid }) with
  | .ok _ => .do_ (.setAudited kind rowID)
  | .error _ => return

/-- `loadEvidence`: the verified evidence of a referencing row. -/
def loadEvidence (fence : Option Fence) (kind : RowKind) (rowID : Nat) (ref : EvidenceRef)
    (event : AuditEvent) : Code (Except Err Hash) := do
  match ← store (.getSignedTx ref.signedTxID) with
  | .error e => return .error (.readEvidence ref.signedTxID e)
  | .ok evidence =>
    match verify S.eth S.evmChainID evidence ref with
    | .ok h => return .ok h
    | .error why =>
      auditInvalid S fence kind rowID event
      return .error (.evidence why)

/-- `refreshNonceFromChain`. -/
def refreshNonceFromChain : Code (Option Err) := do
  if !hasNonceCache scope then return none
  match ← ask (.cosmosNonce scope) with
  | .error _ => return some (.nonceRefresh scope)
  | .ok nonce =>
    setNonce scope nonce
    return none

/-- The nonce a scope syncs to: the account's, but above a pending row of the
current key. -/
def syncedNonce (pending : Option PendingRecord) (nonce : Nat) : Nat :=
  match pending with
  | some r => if S.key p scope = some r.sender ∧ r.nonce + 1 > nonce then r.nonce + 1 else nonce
  | none => nonce

/-- The scope's pending row, unless the caller has read it. -/
def knownPending : Option PendingRecord → Code (Except StoreErr (Option PendingRecord))
  | some r => return .ok (some r)
  | none => store (.getPending S.chainID scope)

/-- `syncEvmScopeEpoch`. `known` is the scope's row when the caller has read it. -/
def syncEvmScopeEpoch (known : Option PendingRecord) : Code (Option Err) := do
  let mem ← .do_ (.loadMem scope)
  if mem.notes.epoch = fence.epoch then return none
  match ← knownPending S scope known with
  | .error e => return some (.readPending e)
  | .ok pending =>
    setLastSeen scope ((pending.map PendingRecord.id).getD 0)
    if hasNonceCache scope && S.hasClient scope then
      match ← ask (.cosmosNonce scope) with
      | .error _ => return some (.nonceUnsynced scope fence.epoch)
      | .ok nonce =>
        setNonce scope (syncedNonce S p scope pending nonce)
        .do_ (.setSynced scope fence.epoch)
        return none
    else
      .do_ (.setSynced scope fence.epoch)
      return none

/-! ## Ending a pending row -/

variable (pending : PendingRecord) (terminal : PendingTerminal)

/-- `readBackResolved`: the row is gone and the transition's audit is there. -/
def readBackResolved : Code (Except StoreErr Bool) := do
  match ← store (.getPending S.chainID pending.scope) with
  | .error e => return .error e
  | .ok current =>
    if current.map PendingRecord.id = some pending.id then return .ok false
    store (.hasAudit S.chainID terminal.kind.doneEvent pending.txHash 0)

/-- `ResolvePending`, and the read back of an unknown commit. -/
def writeTerminal : Code (Option StoreErr) := do
  match ← store (.resolvePending fence pending terminal) with
  | .ok _ => return none
  | .error .commitUnknown =>
    match ← readBackResolved S pending terminal with
    | .ok true => return none
    | _ => return some .commitUnknown
  | .error e => return some e

/-- `applyTerminal`. -/
def applyTerminal : Code (Option StoreErr) := do
  match ← writeTerminal S fence pending terminal with
  | some e => return some e
  | none =>
    clearLastSeen pending.scope pending.id
    return none

/-- The first of `kinds` whose transition of `pending` committed, by its audit. -/
def firstLanded (pending : PendingRecord) :
    List TerminalKind → Code (Except StoreErr (Option TerminalKind))
  | [] => return .ok none
  | k :: ks => do
    match ← store (.hasAudit S.chainID k.doneEvent pending.txHash 0) with
    | .error e => return .error e
    | .ok true => return .ok (some k)
    | .ok false => firstLanded pending ks

/-- `landedTerminal`: for a success either kind, since a retry may have tried
the other one. -/
def landedTerminal (kind : TerminalKind) : Code (Except StoreErr (Option TerminalKind)) :=
  firstLanded S pending
    (if kind = .successConsume ∨ kind = .successKeep then [.successConsume, .successKeep] else [kind])

def stashTerminal : Code Unit :=
  .do_ (.setTerminalRetry scope (some { pending, terminal, epoch := fence.epoch }))

/-! ## What only memory knows -/

/-- After a retried terminal is recorded: hand over the hash, or refresh the
nonce the node refused. -/
def afterRetried : TerminalKind → Code Decision
  | .successConsume => return some { hash := some pending.txHash }
  | .notAdmittedNonceLow | .notAdmittedNonceHigh => do
    match ← refreshNonceFromChain scope with
    | some e => return fail e
    | none => return none
  | _ => return none

/-- The terminal a retry tries: only a request for the row's own operation may
take the hash without a kept row. -/
def retriedTerminal (retry : TerminalRetry) (operation : Hash) : PendingTerminal :=
  if retry.terminal.kind = .successConsume ∧ retry.pending.operation ≠ operation then
    { retry.terminal with kind := .successKeep }
  else retry.terminal

/-- The `terminalRetry` part of `retryEvmMemory`. -/
def retryTerminal (operation : Hash) (retry : TerminalRetry) : Code Decision := do
  let terminal := retriedTerminal retry operation
  match ← applyTerminal S fence retry.pending terminal with
  | none =>
    .do_ (.setTerminalRetry scope none)
    afterRetried scope retry.pending terminal.kind
  | some .rowGone =>
    -- an earlier unknown commit landed, or someone else handled the row
    match ← landedTerminal S retry.pending retry.terminal.kind with
    | .error e => return fail (.readBack e)
    | .ok none =>
      .do_ (.setTerminalRetry scope none)
      return none
    | .ok (some .successConsume) =>
      .do_ (.putAwaiting scope retry.pending.operation retry.pending.txHash)
      .do_ (.setTerminalRetry scope none)
      return none
    | .ok (some landed) =>
      .do_ (.setTerminalRetry scope none)
      afterRetried scope retry.pending landed
  | some e => return fail (.terminalNotRecorded retry.pending.txHash e)

/-- The `consumeUnknown` part of `retryEvmMemory`. -/
def retryConsume (consume : OutcomeRecord) : Code Decision := do
  match ← store (.getOutcome S.chainID consume.scope consume.operation) with
  | .error e => return fail (.readBack e)
  | .ok current =>
    if current.map OutcomeRecord.id = some consume.id then
      .do_ (.setConsumeUnknown scope none)
      return none
    else
      match ← store (.hasAudit S.chainID .outcomeConsumed 0 consume.id) with
      | .error e => return fail (.readBack e)
      | .ok true =>
        .do_ (.putAwaiting scope consume.operation consume.resultTxHash)
        .do_ (.setConsumeUnknown scope none)
        return none
      | .ok false =>
        .do_ (.setConsumeUnknown scope none)
        return none

/-- A refusal seen under an earlier lease is dropped: another holder may have
re-sent the recorded bytes since. -/
def dropOldRefusal (retry : Option TerminalRetry) : Code (Option TerminalRetry) :=
  match retry with
  | some r =>
    if r.terminal.kind.notAdmitted ∧ r.epoch ≠ fence.epoch then do
      .do_ (.setTerminalRetry scope none)
      return none
    else return some r
  | none => return none

/-- The `awaiting` part of `retryEvmMemory`. -/
def takeAwaiting (operation : Hash) : Code Decision := do
  if operation = 0 then return none
  match ← .do_ (.takeAwaiting scope operation) with
  | some h => return some { hash := some h }
  | none => return none

def retryStash (operation : Hash) (stash : Option TerminalRetry) : Code Decision := do
  match ← dropOldRefusal fence scope stash with
  | some retry => retryTerminal S fence scope operation retry
  | none => return none

def retryUnknown : Option OutcomeRecord → Code Decision
  | some consume => retryConsume S scope consume
  | none => return none

/-- `retryEvmMemory`. -/
def retryEvmMemory (operation : Hash) : Code Decision := do
  let mem ← .do_ (.loadMem scope)
  match ← retryStash S fence scope operation mem.terminalRetry with
  | some answer => return some answer
  | none =>
    match ← retryUnknown S scope mem.consumeUnknown with
    | some answer => return some answer
    | none => takeAwaiting scope operation

end Client

end Signer

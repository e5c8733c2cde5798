-- SUMMARY: The signer's EVM state store and its transitions.
import MocaSP.Signer.Types

/-!
# Signer EVM state: the SQL store

The tables are lists in id order. A transition takes the tables at the point
where its transaction runs and returns the tables it commits, or the error that
rolls it back. Transactions are serialisable: every writing transaction locks
the rows it decides on.
-/

namespace Signer

open Except

/-- The errors of a store call. -/
inductive StoreErr where
  | leaseNotHeld   -- errEvmLeaseNotHeld
  | conflict       -- errEvmStateConflict
  | rowGone        -- errEvmRowGone
  | commitUnknown  -- evmCommitUnknownError
  | duplicateKey   -- MySQL error 1062, before a caller turns it into a conflict
  | foreignKey
  | other
  deriving DecidableEq

structure DB where
  signedTx : List SignedTxEvidence := []
  state : List StateRow := []
  lease : List LeaseRow := []
  audit : List AuditRow := []
  /-- The next AUTO_INCREMENT values: an id is never used twice. -/
  nextSignedTx : Nat := 1
  nextState : Nat := 1
  /-- `NOW(6)`, in microseconds. -/
  now : Nat := 0

/-! ## Tables and keys -/

/-- Two rows share a value of `uniq_pending` or of `uniq_outcome`. -/
def StateRow.clashes (a b : StateRow) : Bool :=
  a.chainID = b.chainID && a.scope = b.scope &&
    match a.state, b.state with
    | .pending, .pending => true
    | .outcome _, .outcome _ => a.operation = b.operation
    | _, _ => false

/-- The unique keys of `signer_evm_state`. -/
def uniqueKeys (rows : List StateRow) : Prop := rows.Pairwise fun a b => a.clashes b = false

instance (rows : List StateRow) : Decidable (uniqueKeys rows) :=
  inferInstanceAs (Decidable (List.Pairwise _ _))

variable (fence : Fence) (pending : PendingRecord) (terminal : PendingTerminal) (db : DB)
  (chainID : String) (scope : SignType)

namespace DB

/-- The pending rows of a scope: at most one, by `uniq_pending`. -/
def pendingRows : List StateRow :=
  db.state.filter fun r => r.state = .pending ∧ r.chainID = chainID ∧ r.scope = scope

/-- The outcome rows of an operation: at most one, by `uniq_outcome`. -/
def outcomeRows (operation : Hash) : List StateRow :=
  db.state.filter fun r =>
    r.state ≠ .pending ∧ r.chainID = chainID ∧ r.scope = scope ∧ r.operation = operation

/-- Replace the rows of `signer_evm_state`, under its keys. -/
def writeState (rows : List StateRow) : Except StoreErr DB := do
  failIf (¬ uniqueKeys rows) .duplicateKey
  failIf (¬ ∀ r ∈ rows, ∃ e ∈ db.signedTx, e.id = r.signedTxID) .foreignKey
  return { db with state := rows }

/-- UPDATE the rows `target` matches with `f`, or DELETE them when there is no
`f`: the number of rows matched, and the tables. -/
def turn (target : StateRow → Bool) (f : Option (StateRow → StateRow)) :
    Except StoreErr (Nat × DB) := do
  let db' ← db.writeState <| db.state.filterMap fun r =>
    if target r then f.map fun g => g r else some r
  return (db.state.countP target, db')

/-- `insertAudit`. -/
def insertAudit (epoch : Nat) (event : AuditEvent) : DB :=
  { db with audit := db.audit ++ [{ event with chainID, leaseEpoch := epoch }] }

end DB

/-- A row in an outcome state, as the record a reader gets. -/
def StateRow.outcome? (r : StateRow) : Option OutcomeRecord :=
  match r.state with
  | .pending => none
  | .outcome s => some (r.toOutcome s)

/-- A duplicate key is reported as a conflict. -/
def conflictOnDuplicate {α : Type} : Except StoreErr α → Except StoreErr α
  | .error .duplicateKey => .error .conflict
  | r => r

/-- `RowsAffected` must be 1. -/
def affectedOne (n : Nat) : Except StoreErr Unit := failIf (n ≠ 1) .conflict

/-! ## The lease -/

/-- `'1970-01-01 00:00:01'`, the expiry of a lease nobody holds. -/
def leaseReleased : Nat := 1000000

/-- The lease row of a chain, when there is exactly one. -/
def DB.leaseRow : Option LeaseRow :=
  match db.lease.filter fun r => r.chainID = chainID with
  | [row] => some row
  | _ => none

/-- `fenceCheck`: the lease row is held by `fence` and has not expired. -/
def fenceCheck : Except StoreErr Unit := do
  let row ← orFail (db.leaseRow fence.chainID) .leaseNotHeld
  failIf (row.owner ≠ fence.owner ∨ row.epoch ≠ fence.epoch ∨ ¬ db.now < row.expiresAt)
    .leaseNotHeld

/-- The fencing check of a transition that may run without a lease, and the
epoch its audit carries. -/
def optFenceCheck (fence : Option Fence) (db : DB) : Except StoreErr Nat :=
  match fence with
  | none => .ok 0
  | some f => do fenceCheck f db; return f.epoch

/-- INSERT IGNORE of a chain's lease row. -/
def DB.ensureLease : DB :=
  if ∃ r ∈ db.lease, r.chainID = chainID then db
  else
    { db with lease := db.lease ++ [{ chainID, owner := "", epoch := 0, expiresAt := leaseReleased }] }

/-- The UPDATE of an acquisition. -/
def grantLease (chainID owner : String) (epoch expiresAt : Nat) (r : LeaseRow) : LeaseRow :=
  if r.chainID = chainID then { r with owner := owner, epoch := epoch, expiresAt := expiresAt } else r

def acquireLease (chainID owner : String) (ttl : Nat) (db : DB) :
    Except StoreErr ((Nat × Bool) × DB) := do
  let db := db.ensureLease chainID
  let row ← orFail (db.leaseRow chainID) .other
  -- refused only while another owner's lease has not expired
  if ¬ row.expiresAt < db.now ∧ row.owner ≠ owner then return ((0, false), db)
  else
    let epoch := row.epoch + 1
    let db := { db with lease := db.lease.map (grantLease chainID owner epoch (db.now + ttl)) }
    return ((epoch, true), db.insertAudit chainID epoch { event := .leaseAcquired })

def renewLease (ttl : Nat) (db : DB) : Except StoreErr (Bool × DB) :=
  let p : LeaseRow → Bool := fun r =>
    r.chainID = fence.chainID ∧ r.owner = fence.owner ∧ r.epoch = fence.epoch ∧ db.now < r.expiresAt
  let lease := db.lease.map fun r => if p r then { r with expiresAt := db.now + ttl } else r
  .ok (db.lease.countP p = 1, { db with lease })

def releaseLease : Except StoreErr (Unit × DB) :=
  let lease := db.lease.map fun r =>
    if r.chainID = fence.chainID ∧ r.owner = fence.owner ∧ r.epoch = fence.epoch then
      { r with expiresAt := leaseReleased }
    else r
  .ok ((), { db with lease })

/-! ## Reads -/

def getPending (db : DB) : Option PendingRecord :=
  (db.pendingRows chainID scope).head?.map StateRow.toPending

def listPending (db : DB) : List PendingRecord :=
  (db.state.filter fun r => r.state = .pending ∧ r.chainID = chainID).map StateRow.toPending

def getOutcome (operation : Hash) (db : DB) : Option OutcomeRecord :=
  (db.outcomeRows chainID scope operation).head?.bind StateRow.outcome?

def listOutcomes (db : DB) : List OutcomeRecord :=
  (db.state.filter fun r => r.chainID = chainID).filterMap StateRow.outcome?

def getOutcomeByID (id : Nat) (db : DB) : Option OutcomeRecord :=
  ((db.state.filter fun r => r.chainID = chainID ∧ r.id = id).filterMap StateRow.outcome?).head?

def getSignedTx (id : Nat) (db : DB) : Option SignedTxEvidence :=
  db.signedTx.find? fun e => e.id = id

def getSignedTxByHash (txHash : Hash) (db : DB) : Option SignedTxEvidence :=
  db.signedTx.find? fun e => e.chainID = chainID ∧ e.txHash = txHash

/-- `HasAudit`: a zero hash or a zero id is no filter. -/
def hasAudit (event : AuditName) (txHash : Hash) (outcomeID : Nat) (db : DB) : Bool :=
  db.audit.any fun a => a.chainID = chainID ∧ a.event = event ∧
    (txHash = 0 ∨ a.txHash = txHash) ∧ (outcomeID = 0 ∨ a.outcomeID = some outcomeID)

def listSignedTxAtNonce (sender : Address) (nonce afterID window : Nat)
    (db : DB) : List SignedTxEvidence :=
  (db.signedTx.filter fun e => afterID < e.id ∧ e.chainID = chainID ∧ e.sender = sender ∧
    e.nonce = nonce).take window

/-! ## Transitions -/

/-- The evidence row a recorded transaction references: an identical one, or a new one. -/
def referenceEvidence (evidence : SignedTxEvidence) (db : DB) : Except StoreErr (Nat × DB) :=
  match getSignedTxByHash evidence.chainID evidence.txHash db with
  | some existing =>
    if sameEvidence existing evidence then .ok (existing.id, db) else .error .conflict
  | none =>
    let row := { evidence with id := db.nextSignedTx, leaseEpoch := fence.epoch }
    .ok (row.id, { db with signedTx := db.signedTx ++ [row], nextSignedTx := db.nextSignedTx + 1 })

/-- The pending row `Record` inserts. -/
def recordedRow (signedTxID id : Nat) : StateRow :=
  { id, signedTxID, chainID := pending.chainID, scope := pending.scope,
    operation := pending.operation, sender := pending.sender, nonce := pending.nonce,
    txHash := pending.txHash, leaseEpoch := fence.epoch }

def record (evidence : SignedTxEvidence) (pending : PendingRecord) (db : DB) :
    Except StoreErr (PendingRecord × DB) := do
  fenceCheck fence db
  failIf (db.outcomeRows pending.chainID pending.scope pending.operation ≠ []) .conflict
  let (signedTxID, db) ← referenceEvidence fence evidence db
  let row := recordedRow fence pending signedTxID db.nextState
  let db ← conflictOnDuplicate (db.writeState (db.state ++ [row]))
  let pending := { pending with id := row.id, signedTxID, leaseEpoch := fence.epoch }
  let db := { db with nextState := db.nextState + 1 }
  return (pending, db.insertAudit pending.chainID fence.epoch (pending.audit .recorded))

/-- `lockPending`: the scope's pending row exists and is the expected one. -/
def lockPending : Except StoreErr Unit := do
  let row ← orFail (db.pendingRows pending.chainID pending.scope).head? .rowGone
  failIf (row.id ≠ pending.id ∨ row.txHash ≠ pending.txHash) .conflict

def markAmbiguous : Except StoreErr (Unit × DB) := do
  fenceCheck fence db
  lockPending pending db
  let (_, db) ← db.turn (fun r => r.id = pending.id ∧ r.txHash = pending.txHash)
    (some fun r => { r with ambiguous := true })
  return ((), db.insertAudit pending.chainID fence.epoch (pending.audit .markedAmbiguous))

/-- The outcome a `successKeep` leaves. -/
def keptOutcome : OutcomeRecord :=
  { id := pending.id, signedTxID := pending.signedTxID, chainID := pending.chainID,
    scope := pending.scope, operation := pending.operation, sender := pending.sender,
    nonce := pending.nonce, txHash := pending.txHash, state := .succeeded,
    resultTxHash := pending.txHash, receiptBlock := terminal.receiptBlock,
    source := terminal.source }

/-- The columns a `successKeep` sets. -/
def keepColumns (r : StateRow) : StateRow :=
  { r with state := .outcome .succeeded, resultTxHash := pending.txHash,
           receiptBlock := terminal.receiptBlock, source := terminal.source }

/-- The audit of a resolved pending row, one per event of the terminal kind. -/
def terminalAudit (name : AuditName) : AuditEvent :=
  { pending.audit name with
    receiptStatus := terminal.receiptStatus
    receiptBlock := if terminal.receiptBlock ≠ 0 then some terminal.receiptBlock else none
    outcomeID := if name = .outcomeCreated then some pending.id else none
    outcomeState := if name = .outcomeCreated then some .succeeded else none }

def resolvePending : Except StoreErr (Option OutcomeRecord × DB) := do
  fenceCheck fence db
  lockPending pending db
  let (affected, db) ← conflictOnDuplicate <|
    db.turn (fun r => r.id = pending.id ∧ r.txHash = pending.txHash)
      (if terminal.kind = .successKeep then some (keepColumns pending terminal) else none)
  affectedOne affected
  let db := terminal.kind.auditEvents.foldl
    (fun db name => db.insertAudit pending.chainID fence.epoch (terminalAudit pending terminal name)) db
  return (if terminal.kind = .successKeep then some (keptOutcome pending terminal) else none, db)

def consumeOutcome (outcome : OutcomeRecord) (db : DB) : Except StoreErr (Unit × DB) := do
  fenceCheck fence db
  let row ← orFail (db.state.find? fun r => r.id = outcome.id) .rowGone
  failIf (row.state ≠ .outcome .succeeded ∨ row.chainID ≠ outcome.chainID ∨
    row.scope ≠ outcome.scope ∨ row.operation ≠ outcome.operation) .conflict
  let (affected, db) ← db.turn (fun r => r.id = outcome.id ∧ r.state = .outcome .succeeded) none
  affectedOne affected
  return ((), db.insertAudit outcome.chainID fence.epoch (outcome.audit .outcomeConsumed))

def appendAudit (fence : Option Fence) (chainID : String) (event : AuditEvent) (db : DB) :
    Except StoreErr (Unit × DB) := do
  let epoch ← optFenceCheck fence db
  return ((), db.insertAudit chainID epoch event)

/-- `lockEvidence`, taken when the row will become an outcome. -/
def lockEvidence (result : Option OutcomeRecord) (id : Nat) (db : DB) : Except StoreErr Unit :=
  failIf (result.isSome ∧ ¬ ∃ e ∈ db.signedTx, e.id = id) .conflict

/-- `outcomeColumns`: the columns a transition sets when it turns a row into,
or updates, an active outcome. -/
def outcomeColumns (o : OutcomeRecord) (r : StateRow) : StateRow :=
  { r with state := .outcome o.state, resultTxHash := o.resultTxHash, evidence := o.evidence,
           reason := o.reason, receiptBlock := o.receiptBlock, source := o.source }

/-- `resolvePendingTo`: delete the pending row, or turn it into the outcome `result`. -/
def resolvePendingTo (fence : Option Fence) (pending : PendingRecord)
    (result : Option OutcomeRecord) (event : AuditEvent) (db : DB) :
    Except StoreErr (Unit × DB) := do
  let epoch ← optFenceCheck fence db
  lockPending pending db
  lockEvidence result pending.signedTxID db
  let (affected, db) ← conflictOnDuplicate <|
    db.turn (fun r => r.id = pending.id ∧ r.txHash = pending.txHash ∧ r.state = .pending)
      (result.map fun o r => { outcomeColumns o r with ambiguous := false })
  affectedOne affected
  return ((), db.insertAudit pending.chainID epoch event)

/-- `checkSettleable`: the locked row is the one the transition was decided on. -/
def checkSettleable (current want : OutcomeRecord) (from_ : List OutcomeState) :
    Except StoreErr Unit := do
  failIf (current.chainID ≠ want.chainID ∨ current.scope ≠ want.scope ∨
    current.operation ≠ want.operation ∨ current.signedTxID ≠ want.signedTxID ∨
    current.txHash ≠ want.txHash ∨ current.nonce ≠ want.nonce ∨ current.sender ≠ want.sender)
    .conflict
  failIf (current.state ∉ from_) .conflict

/-- `settleOutcome`: delete the outcome row, or update it to `to_`. -/
def settleOutcome (fence : Option Fence) (outcome : OutcomeRecord) (from_ : List OutcomeState)
    (to_ : Option OutcomeRecord) (event : AuditEvent) (db : DB) : Except StoreErr (Unit × DB) := do
  let epoch ← optFenceCheck fence db
  let current ← orFail (getOutcomeByID outcome.chainID outcome.id db) .rowGone
  checkSettleable current outcome from_
  lockEvidence to_ current.signedTxID db
  let (affected, db) ← db.turn (fun r => r.id = outcome.id ∧ r.state = .outcome current.state)
    (to_.map outcomeColumns)
  affectedOne affected
  return ((), db.insertAudit outcome.chainID epoch event)

/-! ## Calls -/

/-- The calls of `evmStateStore`, with the type of what each returns. -/
inductive StoreCall : Type → Type where
  | acquireLease (chainID owner : String) (ttl : Nat) : StoreCall (Nat × Bool)
  | renewLease (fence : Fence) (ttl : Nat) : StoreCall Bool
  | releaseLease (fence : Fence) : StoreCall Unit
  | getPending (chainID : String) (scope : SignType) : StoreCall (Option PendingRecord)
  | listPending (chainID : String) : StoreCall (List PendingRecord)
  | getOutcome (chainID : String) (scope : SignType) (operation : Hash) :
      StoreCall (Option OutcomeRecord)
  | listOutcomes (chainID : String) : StoreCall (List OutcomeRecord)
  | getSignedTx (id : Nat) : StoreCall (Option SignedTxEvidence)
  | getSignedTxByHash (chainID : String) (txHash : Hash) : StoreCall (Option SignedTxEvidence)
  | getOutcomeByID (chainID : String) (id : Nat) : StoreCall (Option OutcomeRecord)
  | hasAudit (chainID : String) (event : AuditName) (txHash : Hash) (outcomeID : Nat) :
      StoreCall Bool
  | listSignedTxAtNonce (chainID : String) (sender : Address) (nonce afterID window : Nat) :
      StoreCall (List SignedTxEvidence)
  | record (fence : Fence) (evidence : SignedTxEvidence) (pending : PendingRecord) :
      StoreCall PendingRecord
  | markAmbiguous (fence : Fence) (pending : PendingRecord) : StoreCall Unit
  | resolvePending (fence : Fence) (pending : PendingRecord) (terminal : PendingTerminal) :
      StoreCall (Option OutcomeRecord)
  | consumeOutcome (fence : Fence) (outcome : OutcomeRecord) : StoreCall Unit
  | appendAudit (fence : Option Fence) (chainID : String) (event : AuditEvent) : StoreCall Unit
  | manualResolvePending (pending : PendingRecord) (result : Option OutcomeRecord)
      (event : AuditEvent) : StoreCall Unit
  | manualSettleOutcome (outcome : OutcomeRecord) (from_ : List OutcomeState)
      (to_ : Option OutcomeRecord) (event : AuditEvent) : StoreCall Unit
  | autoResolvePending (fence : Fence) (pending : PendingRecord) (result : Option OutcomeRecord)
      (event : AuditEvent) : StoreCall Unit
  | autoSettleOutcome (fence : Fence) (outcome : OutcomeRecord) (from_ : List OutcomeState)
      (to_ : Option OutcomeRecord) (event : AuditEvent) : StoreCall Unit

variable {β : Type}

namespace StoreCall

/-- The transaction of a call. -/
def run : StoreCall β → DB → Except StoreErr (β × DB)
  | .acquireLease chainID owner ttl, db => Signer.acquireLease chainID owner ttl db
  | .renewLease fence ttl, db => Signer.renewLease fence ttl db
  | .releaseLease fence, db => Signer.releaseLease fence db
  | .getPending chainID scope, db => .ok (Signer.getPending chainID scope db, db)
  | .listPending chainID, db => .ok (Signer.listPending chainID db, db)
  | .getOutcome chainID scope operation, db => .ok (Signer.getOutcome chainID scope operation db, db)
  | .listOutcomes chainID, db => .ok (Signer.listOutcomes chainID db, db)
  | .getSignedTx id, db => .ok (Signer.getSignedTx id db, db)
  | .getSignedTxByHash chainID txHash, db => .ok (Signer.getSignedTxByHash chainID txHash db, db)
  | .getOutcomeByID chainID id, db => .ok (Signer.getOutcomeByID chainID id db, db)
  | .hasAudit chainID event txHash outcomeID, db =>
    .ok (Signer.hasAudit chainID event txHash outcomeID db, db)
  | .listSignedTxAtNonce chainID sender nonce afterID window, db =>
    .ok (Signer.listSignedTxAtNonce chainID sender nonce afterID window db, db)
  | .record fence evidence pending, db => Signer.record fence evidence pending db
  | .markAmbiguous fence pending, db => Signer.markAmbiguous fence pending db
  | .resolvePending fence pending terminal, db => Signer.resolvePending fence pending terminal db
  | .consumeOutcome fence outcome, db => Signer.consumeOutcome fence outcome db
  | .appendAudit fence chainID event, db => Signer.appendAudit fence chainID event db
  | .manualResolvePending pending result event, db => resolvePendingTo none pending result event db
  | .manualSettleOutcome outcome from_ to_ event, db => settleOutcome none outcome from_ to_ event db
  | .autoResolvePending fence pending result event, db =>
    resolvePendingTo (some fence) pending result event db
  | .autoSettleOutcome fence outcome from_ to_ event, db =>
    settleOutcome (some fence) outcome from_ to_ event db

/-- The error of a call whose COMMIT, or single statement, was sent but not
answered. Only `txn` reports it as an unknown commit. -/
def lostReply : StoreCall β → StoreErr
  | .renewLease .. | .releaseLease .. => .other
  | .getPending .. | .listPending .. | .getOutcome .. | .listOutcomes .. | .getSignedTx .. => .other
  | .getSignedTxByHash .. | .getOutcomeByID .. | .hasAudit .. | .listSignedTxAtNonce .. => .other
  | _ => .commitUnknown

end StoreCall

/-- How a store call goes. -/
inductive Fault where
  | none
  | failed
  | unknown (applied : Bool)

/-- A call against the tables: its answer and the tables after it. A call fails
before it commits and changes nothing, or its result is lost, applied or not. -/
def StoreCall.exec (c : StoreCall β) (fault : Fault) (db : DB) : Option (Except StoreErr β × DB) :=
  match fault, c.run db with
  | .none, .ok (b, db') => some (.ok b, db')
  | .none, .error e => some (.error e, db)
  | .failed, _ => some (.error .other, db)
  | .unknown applied, .ok (_, db') => some (.error c.lostReply, if applied then db' else db)
  | .unknown _, .error _ => none

end Signer

-- SUMMARY: Data of the signer's EVM state.
import MocaSP.Base.Except

/-!
# Signer EVM state: data

The records of `evm_state.go` and of the four tables of `store/sqldb/signer_evm.go`.
Hash and address columns hold the hex text of their value and are empty for the
zero value; the model keeps the value, zero included. Timestamps of rows, the
actor and the free texts of the audit are left out: nothing reads them.
-/

namespace Signer

open Except

/-- `ethcmn.Hash`. -/
abbrev Hash := BitVec 256
/-- `ethcmn.Address`. -/
abbrev Address := BitVec 160
abbrev Bytes := List (BitVec 8)

/-- `SignType`: the key a transaction is signed with, the scope of its state. -/
inductive SignType where
  | operator | seal | approval | gc
  deriving DecidableEq

inductive OutcomeState where
  | succeeded | executedElsewhere | blockedUnknown
  deriving DecidableEq

/-- The `state` column: `'pending'`, or an outcome. -/
inductive RowState where
  | pending
  | outcome (s : OutcomeState)
  deriving DecidableEq

/-- The `reason` column of a blocked outcome. -/
inductive BlockReason where
  | dropped | receiptMissing | otherTxUnverified | nonceGap
  deriving DecidableEq

/-- The `source` column. -/
inductive OutcomeSource where
  | auto | submit | resolve | startup | manual
  deriving DecidableEq

/-- `evidence_kind` and `evidence_tx_hash` together: the transaction a decision rests on. -/
inductive TxRef where
  | evm (hash : Hash)
  | cosmos (hash : Hash)
  deriving DecidableEq

/-- The name in the audit's `event` column. -/
inductive AuditName where
  | recorded | markedAmbiguous | resolvedSuccess | resolvedFailed
  | notAdmittedNonceLow | notAdmittedNonceHigh | notAdmittedRejected
  | outcomeCreated | outcomeConsumed | loadedOnStart | leaseAcquired | leaseLost
  | pendingVanished | evidenceInvalid
  | autoResolvedFailed | autoBlockedMissing | autoBlockedDropped | autoBlockedNonceGap
  | autoOutcomeSucceeded | autoOutcomeFailed | autoOutcomeSuperseded
  | manualResolveSuccess | manualResolveFailed | manualResolveOtherTxFailed
  | manualResolveOtherUnrelated | manualResolveSameCall | manualResolveElsewhere
  | manualResolveUnknown | manualResolveNonceGap | manualOutcomeResolved
  | manualReleaseUnknown | manualDisposeOutcome | manualRejected
  deriving DecidableEq

/-- `evmFence`: the lease a write runs under. -/
structure Fence where
  chainID : String
  owner : String
  epoch : Nat
  deriving DecidableEq

/-- `signedTxEvidence`: a row of the append-only evidence table. -/
structure SignedTxEvidence where
  id : Nat := 0
  chainID : String
  evmChainID : Nat
  scope : SignType
  operation : Hash
  sender : Address
  nonce : Nat
  txHash : Hash
  raw : Bytes
  recordedBlock : Nat
  leaseEpoch : Nat := 0

/-- `pendingRecord`: the at most one unresolved transaction of a scope. -/
structure PendingRecord where
  id : Nat := 0
  chainID : String
  signedTxID : Nat := 0
  scope : SignType
  sender : Address
  nonce : Nat
  txHash : Hash
  operation : Hash
  ambiguous : Bool := false
  leaseEpoch : Nat := 0

/-- `outcomeRecord`: an active conclusion for an operation. As the target of a
transition only `state` and the fields after it are written (`outcomeColumns`). -/
structure OutcomeRecord where
  id : Nat := 0
  signedTxID : Nat := 0
  chainID : String := ""
  scope : SignType := .operator
  operation : Hash := 0
  sender : Address := 0
  nonce : Nat := 0
  txHash : Hash := 0
  state : OutcomeState
  resultTxHash : Hash := 0
  evidence : Option TxRef := none
  reason : Option BlockReason := none
  receiptBlock : Nat := 0
  source : Option OutcomeSource := none
  deriving DecidableEq

/-- A row of `signer_evm_state`. The generated columns `pending_scope` and
`outcome_operation` are read off `state`. -/
structure StateRow where
  id : Nat
  signedTxID : Nat
  chainID : String
  scope : SignType
  operation : Hash
  sender : Address
  nonce : Nat
  txHash : Hash
  state : RowState := .pending
  resultTxHash : Hash := 0
  evidence : Option TxRef := none
  reason : Option BlockReason := none
  receiptBlock : Nat := 0
  source : Option OutcomeSource := none
  ambiguous : Bool := false
  leaseEpoch : Nat := 0

structure LeaseRow where
  chainID : String
  owner : String
  epoch : Nat
  expiresAt : Nat

/-- `evmAuditEvent`. -/
structure AuditEvent where
  event : AuditName
  scope : Option SignType := none
  sender : Address := 0
  nonce : Option Nat := none
  txHash : Hash := 0
  operation : Hash := 0
  signedTxID : Option Nat := none
  receiptStatus : Option Nat := none
  receiptBlock : Option Nat := none
  chainNonce : Option Nat := none
  chainHeight : Option Nat := none
  outcomeID : Option Nat := none
  outcomeState : Option OutcomeState := none
  outcomeReason : Option BlockReason := none
  evidence : Option TxRef := none

/-- A row of the audit table: the event with what `insertAudit` adds. -/
structure AuditRow extends AuditEvent where
  chainID : String
  leaseEpoch : Nat

def PendingRecord.audit (p : PendingRecord) (event : AuditName) : AuditEvent :=
  { event, scope := some p.scope, sender := p.sender, nonce := some p.nonce, txHash := p.txHash,
    operation := p.operation, signedTxID := some p.signedTxID }

def OutcomeRecord.audit (o : OutcomeRecord) (event : AuditName) : AuditEvent :=
  { event, scope := some o.scope, sender := o.sender, nonce := some o.nonce, txHash := o.txHash,
    operation := o.operation, signedTxID := some o.signedTxID, outcomeID := some o.id,
    outcomeState := some o.state, outcomeReason := o.reason, evidence := o.evidence }

/-- `pendingFromRow`. -/
def StateRow.toPending (r : StateRow) : PendingRecord :=
  { id := r.id, chainID := r.chainID, signedTxID := r.signedTxID, scope := r.scope,
    sender := r.sender, nonce := r.nonce, txHash := r.txHash, operation := r.operation,
    ambiguous := r.ambiguous, leaseEpoch := r.leaseEpoch }

/-- `outcomeFromRow`, for a row in outcome state `s`. -/
def StateRow.toOutcome (r : StateRow) (s : OutcomeState) : OutcomeRecord :=
  { id := r.id, signedTxID := r.signedTxID, chainID := r.chainID, scope := r.scope,
    operation := r.operation, sender := r.sender, nonce := r.nonce, txHash := r.txHash, state := s,
    resultTxHash := r.resultTxHash, evidence := r.evidence, reason := r.reason,
    receiptBlock := r.receiptBlock, source := r.source }

/-! ## How a pending row ends -/

/-- `pendingTerminalKind`. -/
inductive TerminalKind where
  | successConsume | successKeep | failed
  | notAdmittedNonceLow | notAdmittedNonceHigh | notAdmittedRejected
  deriving DecidableEq

namespace TerminalKind

def auditEvents : TerminalKind → List AuditName
  | .successConsume => [.resolvedSuccess, .outcomeConsumed]
  | .successKeep => [.resolvedSuccess, .outcomeCreated]
  | .failed => [.resolvedFailed]
  | .notAdmittedNonceLow => [.notAdmittedNonceLow]
  | .notAdmittedNonceHigh => [.notAdmittedNonceHigh]
  | .notAdmittedRejected => [.notAdmittedRejected]

/-- The transition is a node's refusal of the send. -/
def notAdmitted : TerminalKind → Bool
  | .notAdmittedNonceLow | .notAdmittedNonceHigh | .notAdmittedRejected => true
  | _ => false

/-- The audit event whose presence proves that the transition for a hash
committed: the last of `auditEvents`. -/
def doneEvent (k : TerminalKind) : AuditName :=
  k.auditEvents.getLast (by cases k <;> simp [auditEvents])

end TerminalKind

/-- `pendingTerminal`: the evidence that ends a pending row. -/
structure PendingTerminal where
  kind : TerminalKind
  receiptStatus : Option Nat := none
  receiptBlock : Nat := 0
  source : Option OutcomeSource := none

/-! ## Evidence -/

/-- `evidenceRef`: the columns a pending or outcome row shares with its evidence row. -/
structure EvidenceRef where
  signedTxID : Nat
  chainID : String
  scope : SignType
  operation : Hash
  sender : Address
  nonce : Nat
  txHash : Hash

def PendingRecord.ref (p : PendingRecord) : EvidenceRef :=
  { signedTxID := p.signedTxID, chainID := p.chainID, scope := p.scope, operation := p.operation,
    sender := p.sender, nonce := p.nonce, txHash := p.txHash }

def OutcomeRecord.ref (o : OutcomeRecord) : EvidenceRef :=
  { signedTxID := o.signedTxID, chainID := o.chainID, scope := o.scope, operation := o.operation,
    sender := o.sender, nonce := o.nonce, txHash := o.txHash }

def SignedTxEvidence.ref (e : SignedTxEvidence) : EvidenceRef :=
  { signedTxID := e.id, chainID := e.chainID, scope := e.scope, operation := e.operation,
    sender := e.sender, nonce := e.nonce, txHash := e.txHash }

def StateRow.ref (r : StateRow) : EvidenceRef :=
  { signedTxID := r.signedTxID, chainID := r.chainID, scope := r.scope, operation := r.operation,
    sender := r.sender, nonce := r.nonce, txHash := r.txHash }

/-- `sameEvidence`: an existing evidence row describes exactly the transaction
being recorded. -/
def sameEvidence (a b : SignedTxEvidence) : Bool :=
  a.chainID = b.chainID && a.evmChainID = b.evmChainID && a.scope = b.scope &&
  a.operation = b.operation && a.sender = b.sender && a.nonce = b.nonce &&
  a.txHash = b.txHash && a.raw = b.raw

/-- A signed transaction as go-ethereum decodes it. `sender` is what
`types.Sender` recovers; the chain id may be absent. -/
structure Tx where
  chainID : Option Nat
  sender : Option Address
  nonce : Nat
  recipient : Option Address
  value : Nat
  data : Bytes

/-- What the signer takes from go-ethereum. A transaction is named by its
hash: `tx` is the transaction with a given hash, `decode` is
`UnmarshalBinary` followed by `Hash`, and `keccak` is `crypto.Keccak256Hash`. -/
structure Eth where
  tx : Hash → Tx
  decode : Bytes → Option Hash
  keccak : Bytes → Hash

/-- What is wrong with an evidence row (`errEvmEvidenceInvalid`). -/
inductive EvidenceError where
  | missing (id : Nat)
  | rawDoesNotDecode (id : Nat)
  | hashMismatch (id : Nat)
  | chainIDMismatch (id : Nat)
  | senderDoesNotRecover (id : Nat)
  | senderMismatch (id : Nat)
  | nonceMismatch (id : Nat)
  | referenceMismatch (id : Nat) (columns : List String)
  | foreignEvmChain (id : Nat)
  deriving DecidableEq

/-- The columns in which a referencing row differs from its evidence row. -/
def mismatched (e : SignedTxEvidence) (ref : EvidenceRef) : List String :=
  (if ref.signedTxID ≠ e.id then ["signed_tx_id"] else []) ++
  (if ref.chainID ≠ e.chainID then ["chain_id"] else []) ++
  (if ref.scope ≠ e.scope then ["scope"] else []) ++
  (if ref.operation ≠ e.operation then ["operation"] else []) ++
  (if ref.sender ≠ e.sender then ["from_address"] else []) ++
  (if ref.nonce ≠ e.nonce then ["nonce"] else []) ++
  (if ref.txHash ≠ e.txHash then ["tx_hash"] else [])

/-- `verifySignedTxEvidence`: the check V(e). It returns the hash that names
the decoded transaction. -/
def verifySignedTxEvidence (eth : Eth) (evidence : Option SignedTxEvidence) (ref : EvidenceRef) :
    Except EvidenceError Hash := do
  let e ← orFail evidence (.missing ref.signedTxID)
  let h ← orFail (eth.decode e.raw) (.rawDoesNotDecode e.id)
  failIf (eth.keccak e.raw ≠ e.txHash ∨ h ≠ e.txHash) (.hashMismatch e.id)
  -- `IsUint64`, then equality with the evidence's chain id
  failIf ((eth.tx h).chainID ≠ some e.evmChainID ∨ 2 ^ 64 ≤ e.evmChainID) (.chainIDMismatch e.id)
  let sender ← orFail (eth.tx h).sender (.senderDoesNotRecover e.id)
  failIf (sender ≠ e.sender) (.senderMismatch e.id)
  failIf ((eth.tx h).nonce ≠ e.nonce) (.nonceMismatch e.id)
  failIf (mismatched e ref ≠ []) (.referenceMismatch e.id (mismatched e ref))
  return h

/-- `evmState.verify`: V(e), for the EVM chain this signer is configured for. -/
def verify (eth : Eth) (evmChainID : Nat) (evidence : Option SignedTxEvidence) (ref : EvidenceRef) :
    Except EvidenceError Hash := do
  let h ← verifySignedTxEvidence eth evidence ref
  let e ← orFail evidence (.missing ref.signedTxID)
  failIf (e.evmChainID ≠ evmChainID) (.foreignEvmChain e.id)
  return h

variable {ref : EvidenceRef}

theorem mismatched_eq_nil {e : SignedTxEvidence} : mismatched e ref = [] ↔ ref = e.ref := by
  obtain ⟨_, _, _, _, _, _, _⟩ := ref
  simp only [mismatched, List.append_eq_nil_iff, ite_eq_right_iff, reduceCtorEq, imp_false,
    not_not, SignedTxEvidence.ref, EvidenceRef.mk.injEq]
  tauto

/-- What a passed V(e) says: `e` is the row's evidence, and its bytes are the
transaction `e.txHash` of sender `e.sender` at `e.nonce`. -/
def Eth.Valid (eth : Eth) (e : SignedTxEvidence) (ref : EvidenceRef) : Prop :=
  ref = e.ref ∧ eth.decode e.raw = some e.txHash ∧ (eth.tx e.txHash).sender = some e.sender ∧
    (eth.tx e.txHash).nonce = e.nonce

theorem verify_ok {eth : Eth} {evmChainID : Nat} {evidence : Option SignedTxEvidence} {h : Hash}
    (hok : verify eth evmChainID evidence ref = .ok h) :
    ∃ e, evidence = some e ∧ h = e.txHash ∧ eth.Valid e ref := by
  simp only [verify, verifySignedTxEvidence, bind_eq_ok, pure_eq_ok, orFail_eq_ok, failIf_eq_ok,
    not_or, not_not, ne_eq] at hok
  obtain ⟨_, ⟨e, he, _, hdec, -, ⟨-, rfl⟩, -, -, _, hsender, -, rfl, -, hnonce, -, href, rfl⟩, -, -, -, -,
    rfl⟩ := hok
  exact ⟨e, he, rfl, mismatched_eq_nil.mp href, hdec, hsender, hnonce⟩

end Signer

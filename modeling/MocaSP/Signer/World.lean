-- SUMMARY: The state signer processes share, and the calls their code makes.
import MocaSP.Base.Interleave
import MocaSP.Signer.Chain
import MocaSP.Signer.Fencing

/-!
# Signer processes: state and calls

A world holds the tables, the height the nodes have reached, the memory of every
signer process and a log. A process is named by its lease owner, which is unique
per start; a restarted signer is another process with empty memory. The log
records what the theorems speak about and is read by nothing.

Calls are the points where code of different threads can interleave: store and
chain calls, and the short sections under `st.mu` or `l.mu`.
-/

namespace Signer

/-! ## Memory of a process -/

/-- `evmTerminalRetry`: a terminal transition whose write failed. -/
structure TerminalRetry where
  pending : PendingRecord
  terminal : PendingTerminal
  epoch : Nat

/-- `evmAutoObservation`. -/
structure AutoObservation where
  txHash : Hash
  reason : BlockReason
  height : Nat

/-- The part of `evmScopeMemory` that only steers: the epoch of the last sync,
the pending row last seen, the first sighting of an automatic conclusion, and
the scope's cached account nonce. -/
structure ScopeNotes where
  epoch : Nat := 0
  lastSeenPending : Nat := 0
  autoSeen : Option AutoObservation := none
  nonce : Nat := 0

/-- `evmScopeMemory`. -/
structure ScopeMem where
  terminalRetry : Option TerminalRetry := none
  consumeUnknown : Option OutcomeRecord := none
  awaiting : List (Hash × Hash) := []
  notes : ScopeNotes := {}

/-- The part of `evmLease` under its mutex. -/
structure LeaseView where
  held : Bool := false
  epoch : Nat := 0
  lastRenew : Nat := 0

/-- Which row an `evidence_invalid` audit was written for. -/
inductive RowKind where
  | pending | outcome
  deriving DecidableEq

structure Proc where
  lease : LeaseView := {}
  mem : SignType → ScopeMem := fun _ => {}
  /-- The thread that holds a scope's lock. -/
  locked : SignType → Option Nat := fun _ => none
  audited : List (RowKind × Nat) := []
  /-- `outcomeChecked`: when each blocked outcome was last checked. -/
  outcomeChecked : List (Nat × Nat) := []
  /-- `time.Now` of the process. -/
  clock : Nat := 0

/-- A thread: its process and its number. -/
structure Tid where
  proc : String
  num : Nat
  deriving DecidableEq

/-! ## The log -/

inductive Event where
  /-- An acquisition of the lease committed. -/
  | acquired (proc : String) (epoch : Nat)
  /-- `Record` committed, at a height of the chain. -/
  | recorded (proc : String) (epoch height rowID : Nat) (txHash : Hash) (scope : SignType)
      (operation : Hash)
  /-- Bytes were sent, by a signer under a fence or by the CLI. -/
  | sent (under : Option Fence) (txHash : Hash) (answer : Option SendErr) (admitted : Bool)
  /-- `ResolvePending` committed. -/
  | resolved (proc : String) (epoch : Nat) (rowID : Nat) (txHash : Hash) (kind : TerminalKind)
  /-- `ConsumeOutcome` committed. -/
  | consumed (proc : String) (rowID : Nat) (txHash : Hash)
  /-- A request returned the hash without an error. -/
  | handed (t : Tid) (txHash : Hash)
  /-- The scope was synced for an epoch. -/
  | synced (proc : String) (scope : SignType) (epoch : Nat)
  /-- `resolvePendingEvmTx` let a request's operation be signed. -/
  | cleared (t : Tid) (scope : SignType) (operation : Hash) (epoch : Nat)
  deriving DecidableEq

structure World where
  db : DB := {}
  height : Nat := 0
  procs : String → Proc := fun _ => {}
  log : List Event := []
  /-- Numbers of threads not started yet start here. -/
  nextThread : Nat := 0

/-! ## Configuration -/

/-- What the signer's binary and configuration fix. `key` is `keyAddress`;
`hasClient` is `mocaClients[scope] != nil`; `autoEvm` and `autoCosmos` say which
parts of `autoChain` are configured. -/
structure Setup where
  eth : Eth
  chain : Chain
  chainID : String
  evmChainID : Nat
  ttl : Nat
  key : String → SignType → Option Address
  hasClient : SignType → Bool
  autoEvm : Bool
  autoCosmos : Bool
  /-- The recipient, value and data a signing method submits a message with, by the message's
  `evmOperationFingerprint`. -/
  callOf : (operation : Hash) → Address × Nat × Bytes
  /-- The fingerprint of the message behind a call. Every field of the message is in the call, or
  is the sender. -/
  operationOf : (sender : Option Address) → (call : Address × Nat × Bytes) → Hash

/-- The transaction is one that a signing method makes for the operation. -/
def Setup.carries (S : Setup) (h operation : Hash) : Bool :=
  let tx := S.eth.tx h
  match tx.recipient with
  | some recipient =>
    let call := (recipient, tx.value, tx.data)
    S.callOf operation = call && S.operationOf tx.sender call = operation
  | none => false

/-! ## Calls -/

/-- Reads of the chain. -/
inductive Query : Type → Type where
  | receipt (txHash : Hash) : Query (Except ChainErr (Option Receipt))
  /-- `WaitForEvmTx`. -/
  | waitReceipt (txHash : Hash) : Query (Except ChainErr Receipt)
  | evmChainID : Query (Except ChainErr (Option Nat))
  | blockNumber : Query (Except ChainErr Nat)
  | nonceAt (account : Address) (height : Nat) : Query (Except ChainErr Nat)
  | pendingNonceAt (account : Address) : Query (Except ChainErr Nat)
  | network : Query (Except ChainErr String)
  | searchEthereumTx (txHash : Hash) (height : Nat) : Query (Except ChainErr (Option CosmosTxView))
  /-- `getCosmosNonceFn` and `getNonceOnChain`. -/
  | cosmosNonce (scope : SignType) : Query (Except ChainErr Nat)
  /-- `TransactionByHash`: the hash of the transaction in the answer. -/
  | txByHash (txHash : Hash) : Query (Except ChainErr (Option Hash))
  | codeAt (account : Address) (height : Nat) : Query (Except ChainErr Bytes)
  | blockTxs (height : Nat) : Query (Except ChainErr (List EvmBlockTx))
  /-- The CometBFT RPC's `Tx`. -/
  | cosmosTx (hash : Hash) : Query (Except ChainErr (Option CosmosTxView))
  | searchAccSeq (account : Address) (sequence height : Nat) :
      Query (Except ChainErr (List CosmosTxView))

inductive Cmd : Type → Type 1 where
  | lock (scope : SignType) : Cmd Unit
  | unlock (scope : SignType) : Cmd Unit
  | loadMem (scope : SignType) : Cmd ScopeMem
  | setTerminalRetry (scope : SignType) (r : Option TerminalRetry) : Cmd Unit
  | setConsumeUnknown (scope : SignType) (o : Option OutcomeRecord) : Cmd Unit
  | putAwaiting (scope : SignType) (operation txHash : Hash) : Cmd Unit
  | takeAwaiting (scope : SignType) (operation : Hash) : Cmd (Option Hash)
  | setNotes (scope : SignType) (f : ScopeNotes → ScopeNotes) : Cmd Unit
  /-- `mem.epoch = fence.Epoch`. -/
  | setSynced (scope : SignType) (epoch : Nat) : Cmd Unit
  | isAudited (kind : RowKind) (rowID : Nat) : Cmd Bool
  | setAudited (kind : RowKind) (rowID : Nat) : Cmd Unit
  | outcomeCheckDue (outcomeID : Nat) : Cmd Bool
  | forgetOutcomeCheck (outcomeID : Nat) : Cmd Unit
  /-- `lease.fence()`. -/
  | fence : Cmd (Option Fence)
  /-- The lease view, with the process's clock. -/
  | readLease : Cmd (LeaseView × Nat)
  | setAcquired (epoch : Nat) : Cmd Unit
  | setRenewed : Cmd Unit
  /-- The guarded `held = false` of `lose`: whether it was still held at `epoch`. -/
  | setLost (epoch : Nat) : Cmd Bool
  | store {β : Type} (c : StoreCall β) : Cmd (Except StoreErr β)
  | ask {β : Type} (q : Query β) : Cmd β
  /-- Send bytes. `under` is the fence the code runs under; the node does not see it. -/
  | send (under : Option Fence) (txHash : Hash) : Cmd (Option SendErr)
  /-- Build and sign a transaction: its hash and its encoding. -/
  | sign (scope : SignType) (operation : Hash) (nonce : Nat) : Cmd (Option (Hash × Bytes))
  /-- `ctx.Err() != nil`. -/
  | ctxDone : Cmd Bool
  /-- Not in the code: notes in the log that `resolvePendingEvmTx` cleared the request. -/
  | noteCleared (scope : SignType) (operation : Hash) (epoch : Nat) : Cmd Unit
  /-- The request's answer. -/
  | respond (txHash : Option Hash) (failed : Bool) : Cmd Unit

/-! ## What calls do -/

/-- What a call leaves open: how a store call goes, or what comes from outside. -/
inductive Oracle where
  | none
  | fault (f : Fault)
  | flag (b : Bool)
  | nat (a : Except ChainErr Nat)
  | optNat (a : Except ChainErr (Option Nat))
  | text (a : Except ChainErr String)
  | receipt (a : Except ChainErr (Option Receipt))
  | view (a : Except ChainErr (Option CosmosTxView))
  | views (a : Except ChainErr (List CosmosTxView))
  | tx (a : Except ChainErr (Option Hash))
  | code (a : Except ChainErr Bytes)
  | txs (a : Except ChainErr (List EvmBlockTx))
  | sent (answer : Option SendErr) (admitted : Bool)
  | signed (tx : Option (Hash × Bytes))

variable (w : World) (p : String)

namespace World

def proc : Proc := w.procs p

def setProc (v : Proc) : World := { w with procs := fun q => if q = p then v else w.procs q }

def setMem (scope : SignType) (m : ScopeMem) : World :=
  w.setProc p { w.procs p with mem := fun s => if s = scope then m else (w.procs p).mem s }

def mem (w : World) (p : String) (scope : SignType) : ScopeMem := (w.procs p).mem scope

def logged (es : List Event) : World := { w with log := es ++ w.log }

end World

variable {β : Type}

/-- The log entry of a committed store call. -/
def StoreCall.event (height : Nat) : StoreCall β → β → List Event
  | .acquireLease _ owner _, (epoch, acquired) => if acquired then [.acquired owner epoch] else []
  | .record fence _ _, r =>
    [.recorded fence.owner fence.epoch height r.id r.txHash r.scope r.operation]
  | .resolvePending fence pending terminal, _ =>
    [.resolved fence.owner fence.epoch pending.id pending.txHash terminal.kind]
  | .consumeOutcome fence outcome, _ => [.consumed fence.owner outcome.id outcome.txHash]
  | _, _ => []

/-- The log entries of a store call that goes as `fault` says. -/
def StoreCall.events (c : StoreCall β) (fault : Fault) (height : Nat) (db : DB) : List Event :=
  match c.run db with
  | .ok (b, _) => if fault.applied then c.event height b else []
  | .error _ => []

/-- The answers a chain read can get at `height`: receipts and Cosmos
transactions are true, the rest is not constrained. -/
def Query.exec (chain : Chain) (height : Nat) : Query β → Oracle → Option β
  | .receipt h, .receipt a =>
    match a with
    | .ok (some r) => if chain.trueReceipt height h r then some a else none
    | _ => some a
  -- a receipt only for a success
  | .waitReceipt h, .receipt a =>
    match a with
    | .ok (some r) =>
      if chain.trueReceipt height h r ∧ r.status = receiptStatusSuccessful then some (.ok r) else none
    | .ok none => some (.error .notFound)
    | .error e => some (.error e)
  | .evmChainID, .optNat a => some a
  | .blockNumber, .nat a => some a
  | .nonceAt _ _, .nat a => some a
  | .pendingNonceAt _, .nat a => some a
  | .network, .text a => some a
  | .searchEthereumTx h _, .view a =>
    match a with
    | .ok (some v) => if chain.trueView height h v then some a else none
    | _ => some a
  | .cosmosNonce _, .nat a => some a
  | .txByHash _, .tx a => some a
  | .codeAt _ _, .code a => some a
  | .blockTxs _, .txs a => some a
  | .cosmosTx _, .view a =>
    match a with
    | .ok (some v) => if chain.trueCosmos height v then some a else none
    | _ => some a
  | .searchAccSeq _ _ _, .views a =>
    match a with
    | .ok vs => if vs.all (chain.trueCosmos height) then some a else none
    | _ => some a
  | _, _ => none

/-- `evmOutcomeCheckInterval`, in microseconds. -/
def evmOutcomeCheckInterval : Nat := 10000000

/-- A call of thread `t`. -/
def exec (S : Setup) {β : Type} (t : Tid) (e : Cmd β) (o : Oracle) (w : World) :
    Option (β × World) :=
  let p := w.procs t.proc
  match e, o with
  | .lock scope, .none =>
    match p.locked scope with
    | some _ => none
    | none => some ((), w.setProc t.proc
        { p with locked := fun s => if s = scope then some t.num else p.locked s })
  | .unlock scope, .none =>
    some ((), w.setProc t.proc
      { p with locked := fun s => if s = scope then none else p.locked s })
  | .loadMem scope, .none => some (p.mem scope, w)
  | .setTerminalRetry scope r, .none =>
    some ((), w.setMem t.proc scope { p.mem scope with terminalRetry := r })
  | .setConsumeUnknown scope o, .none =>
    some ((), w.setMem t.proc scope { p.mem scope with consumeUnknown := o })
  | .putAwaiting scope operation txHash, .none =>
    let m := p.mem scope
    some ((), w.setMem t.proc scope
      { m with awaiting := (operation, txHash) :: m.awaiting.filter (·.1 ≠ operation) })
  | .takeAwaiting scope operation, .none =>
    let m := p.mem scope
    some ((m.awaiting.find? (·.1 = operation)).map Prod.snd, w.setMem t.proc scope
      { m with awaiting := m.awaiting.filter (·.1 ≠ operation) })
  | .setNotes scope f, .none =>
    let m := p.mem scope
    some ((), w.setMem t.proc scope { m with notes := { f m.notes with epoch := m.notes.epoch } })
  | .setSynced scope epoch, .none =>
    let m := p.mem scope
    some ((), (w.setMem t.proc scope { m with notes := { m.notes with epoch } }).logged
      [.synced t.proc scope epoch])
  | .isAudited kind rowID, .none => some (decide ((kind, rowID) ∈ p.audited), w)
  | .setAudited kind rowID, .none =>
    some ((), w.setProc t.proc { p with audited := (kind, rowID) :: p.audited })
  | .outcomeCheckDue id, .none =>
    match p.outcomeChecked.find? (·.1 = id) with
    | some (_, last) =>
      if p.clock - last < evmOutcomeCheckInterval then some (false, w)
      else some (true, w.setProc t.proc { p with
        outcomeChecked := (id, p.clock) :: p.outcomeChecked.filter (·.1 ≠ id) })
    | none => some (true, w.setProc t.proc { p with outcomeChecked := (id, p.clock) :: p.outcomeChecked })
  | .forgetOutcomeCheck id, .none =>
    some ((), w.setProc t.proc { p with outcomeChecked := p.outcomeChecked.filter (·.1 ≠ id) })
  | .fence, .none =>
    if ¬ p.lease.held ∨ p.clock - p.lease.lastRenew > S.ttl / 2 then some (none, w)
    else some (some { chainID := S.chainID, owner := t.proc, epoch := p.lease.epoch }, w)
  | .readLease, .none => some ((p.lease, p.clock), w)
  | .setAcquired epoch, .none =>
    some ((), w.setProc t.proc { p with lease := { held := true, epoch, lastRenew := p.clock } })
  | .setRenewed, .none =>
    some ((), w.setProc t.proc { p with lease := { p.lease with lastRenew := p.clock } })
  | .setLost epoch, .none =>
    if ¬ p.lease.held ∨ p.lease.epoch ≠ epoch then some (false, w)
    else some (true, w.setProc t.proc { p with lease := { p.lease with held := false } })
  | .store c, .fault f =>
    match c.exec f w.db with
    | none => none
    | some (r, db) => some (r, { w with db, log := c.events f w.height w.db ++ w.log })
  | .ask q, o => (q.exec S.chain w.height o).map fun r => (r, w)
  | .send under txHash, .sent answer admitted =>
    -- a send the node refuses does not admit the bytes
    if (classifyEvmSendError false answer).refused && admitted then none
    else some (answer, w.logged [.sent under txHash answer admitted])
  | .sign _ operation nonce, .signed tx =>
    match tx with
    | none => some (none, w)
    -- the zero hash stands for no transaction
    | some (h, raw) =>
      if (S.eth.tx h).nonce = nonce ∧ S.carries h operation ∧ h ≠ 0 then some (some (h, raw), w)
      else none
  | .ctxDone, .flag b => some (b, w)
  | .noteCleared scope operation epoch, .none =>
    some ((), w.logged [.cleared t scope operation epoch])
  | .respond txHash failed, .none =>
    match txHash, failed with
    | some h, false => some ((), w.logged [.handed t h])
    | _, _ => some ((), w)
  | _, _ => none

end Signer

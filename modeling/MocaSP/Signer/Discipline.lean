-- SUMMARY: What signer code knows, and which calls that allows.
import MocaSP.Signer.System

/-!
# The discipline of signer code

The knowledge of a thread is a `View`: the scope lock it holds, what it has read
of the scope's memory under that lock, the fence it took last, how far the row it
recorded got, and facts it has been shown. `allowed` says what the thread must
know to make a call: a row is ended as not admitted only by the thread that saw
the first send refused, bytes are sent only for a row seen under the lock, and so
on. What the knowledge means in a world is defined with each property.
-/

namespace Signer

/-- The row a thread recorded last, until its first send is answered. -/
inductive Hand where
  | empty
  /-- The commit of `Record` is unknown. -/
  | unsure (epoch : Nat) (txHash : Hash)
  | unsent (epoch : Nat) (row : PendingRecord)
  /-- The first send was refused. -/
  | refused (epoch : Nat) (row : PendingRecord)

inductive Fact where
  /-- A receipt or the Cosmos index showed how the transaction ended. -/
  | succeeded (txHash : Hash)
  | failed (txHash : Hash)
  | included (txHash : Hash)
  /-- A Cosmos transaction of the chain. -/
  | cosmos (view : CosmosTxView)
  /-- The process acquired the epoch. -/
  | acquired (epoch : Nat)
  /-- The row was read or recorded as the scope's pending row, under the lock and after `fence` was taken. -/
  | row (fence : Fence) (row : PendingRecord)
  | outcome (row : OutcomeRecord)
  /-- Nobody has handed over the transaction's result yet, if this process consumed it. -/
  | claimable (txHash : Hash)
  /-- This process consumed the transaction's result. -/
  | consumed (txHash : Hash)
  /-- `HasAudit` showed an `outcome_consumed` audit for the hash, or for the id. -/
  | audited (txHash : Hash) (outcomeID : Nat)
  /-- The evidence row of the hash, or that there is none. -/
  | own (evidence : SignedTxEvidence)
  | notOwn (txHash : Hash)

structure View where
  scope : Option SignType := none
  /-- `terminalRetry` and `consumeUnknown` of the locked scope. -/
  mem : Option (Option TerminalRetry × Option OutcomeRecord) := none
  /-- The epoch the locked scope was last synced for. -/
  synced : Option Nat := none
  /-- The operation that was cleared for signing, and the epoch it was cleared under. -/
  cleared : Option (Hash × Nat) := none
  /-- The fence taken last, since the request was cleared. -/
  fence : Option Fence := none
  hand : Hand := .empty
  facts : Fact → Prop := fun _ => False

namespace Hand

/-- The hand after a send of `txHash`. -/
def send (txHash : Hash) (answer : Option SendErr) : Hand → Hand
  | .unsent e r =>
    if r.txHash = txHash then
      if (classifyEvmSendError false answer).refused then .refused e r else .empty
    else .unsent e r
  | .refused e r => if r.txHash = txHash then .empty else .refused e r
  | .unsure e h => if h = txHash then .empty else .unsure e h
  | .empty => .empty

/-- The hand after the scope's pending row was read. -/
def see (row : PendingRecord) : Hand → Hand
  | .unsure e h => if row.txHash = h then .unsent e row else .unsure e h
  | hand => hand

end Hand

/-- What a stashed terminal was observed from. -/
def TerminalRetry.facts (r : TerminalRetry) : List Fact :=
  match r.terminal.kind with
  | .failed => [.failed r.pending.txHash]
  | .successConsume | .successKeep => [.succeeded r.pending.txHash, .claimable r.pending.txHash]
  | _ => []

/-- What a consume with an unknown commit was tried on. -/
def OutcomeRecord.facts (o : OutcomeRecord) : List Fact :=
  if o.state = .succeeded then [.outcome o, .claimable o.resultTxHash] else [.outcome o]

/-- Another transaction of the same sender at the same nonce. -/
def Setup.Rival (S : Setup) (h other : Hash) : Prop :=
  other ≠ h ∧ (S.eth.tx other).sender = (S.eth.tx h).sender ∧
    (S.eth.tx other).nonce = (S.eth.tx h).nonce

namespace View

variable (S : Setup) (k : View)

def add (fs : List Fact) : View := { k with facts := fun x => k.facts x ∨ x ∈ fs }

/-- The result of `txHash` has been handed over, or put aside for it. -/
def drop (txHash : Hash) : View := { k with facts := fun x => k.facts x ∧ x ≠ .claimable txHash }

/-- The row of `txHash` may have been deleted. -/
def forget (txHash : Hash) : View :=
  { k with facts := fun x => k.facts x ∧ ∀ f r, x = .row f r → r.txHash ≠ txHash }

/-- The result of `txHash` is this process's to hand over. -/
def CanHand (txHash : Hash) : Prop :=
  k.facts (.claimable txHash) ∧
    (k.facts (.consumed txHash) ∨ k.facts (.audited txHash 0) ∨
      ∃ o, k.facts (.outcome o) ∧ o.state = .succeeded ∧ o.resultTxHash = txHash ∧
        k.facts (.audited 0 o.id))

/-- Every fact behind what the thread knows to be in memory. -/
def Backed : Prop :=
  ∀ s u, k.mem = some (s, u) →
    (∀ r ∈ s, ∀ x ∈ r.facts, k.facts x) ∧ ∀ o ∈ u, ∀ x ∈ o.facts, k.facts x

/-- A terminal of kind `kind` may be written for the row under the epoch. -/
def Justifies (epoch : Nat) (row : PendingRecord) (kind : TerminalKind) : Prop :=
  match kind with
  | .failed => k.facts (.failed row.txHash)
  | .successConsume | .successKeep => k.facts (.succeeded row.txHash)
  | _ => k.hand = .refused epoch row ∨
      ∃ r u, k.mem = some (some r, u) ∧ r.pending = row ∧ r.epoch = epoch ∧ r.terminal.kind.notAdmitted

/-- Another transaction used the nonce of `h`. -/
def Superseded (h : Hash) : Prop :=
  ∃ other, S.Rival h other ∧
    (k.facts (.succeeded other) ∨ k.facts (.failed other) ∨ k.facts (.included other))

/-- The transaction `h` did not run, cannot run any more, and no transaction that
used its nonce performed the operation. -/
def Ended (h operation : Hash) : Prop :=
  k.facts (.failed h) ∨
  (∃ other, S.Rival h other ∧ k.facts (.failed other)) ∨
  (∃ v a, k.facts (.cosmos v) ∧ v.code ≠ 0 ∧ (S.eth.tx h).sender = some a ∧
    (a, (S.eth.tx h).nonce) ∈ v.accSeqs) ∨
  ∃ other, S.Rival h other ∧ k.facts (.succeeded other) ∧
    ((∃ e, k.facts (.own e) ∧ e.txHash = other ∧ e.operation ≠ operation) ∨
      (k.facts (.notOwn other) ∧ Disposer.sameCall (S.eth.tx other) (S.eth.tx h) = false))

/-- The transaction `result` performed the operation of `h`. -/
def Performed (h operation result : Hash) : Prop :=
  (result = h ∧ k.facts (.succeeded h)) ∨
  S.Rival h result ∧ k.facts (.succeeded result) ∧
    ((∃ e, k.facts (.own e) ∧ e.txHash = result ∧ e.operation = operation) ∨
      Disposer.sameCall (S.eth.tx result) (S.eth.tx h) = true)

end View

/-! ## Which calls are allowed -/

/-- The audit of a write that rests on the operator's word. -/
def AuditName.byDecision : AuditName → Bool
  | .manualReleaseUnknown | .manualDisposeOutcome => true
  | _ => false

section
variable (S : Setup) (p : String) (k : View)

/-- The thread works under the fence and holds the lock of the scope. -/
def View.Works (fence : Fence) (scope : SignType) : Prop :=
  k.fence = some fence ∧ k.scope = some scope

/-- A terminal kept in memory is backed. -/
def View.MayStash (scope : SignType) (r : TerminalRetry) : Prop :=
  k.mem = some (none, none) ∧ r.pending.scope = scope ∧ r.pending.chainID = S.chainID ∧
    k.Justifies r.epoch r.pending r.terminal.kind ∧ ∀ x ∈ r.facts, k.facts x

variable {β : Type}

def allowedStore : StoreCall β → Prop
  | .acquireLease chainID owner _ => chainID = S.chainID ∧ owner = p
  | .record fence evidence pending =>
    k.Works fence pending.scope ∧ (∃ e, k.cleared = some (pending.operation, e)) ∧
      k.mem = some (none, none) ∧ pending.chainID = S.chainID ∧ pending.txHash ≠ 0 ∧
      S.carries pending.txHash pending.operation ∧ Mirrors pending evidence
  | .resolvePending fence pending terminal =>
    k.Works fence pending.scope ∧ pending.chainID = S.chainID ∧
      k.Justifies fence.epoch pending terminal.kind
  | .consumeOutcome fence outcome =>
    k.Works fence outcome.scope ∧ outcome.chainID = S.chainID ∧ k.facts (.outcome outcome) ∧
      outcome.state = .succeeded
  | .autoResolvePending fence pending result event =>
    k.Works fence pending.scope ∧ pending.chainID = S.chainID ∧ event.event ≠ .outcomeConsumed ∧
      (result = none → k.facts (.failed pending.txHash)) ∧
      ∀ o ∈ result, o.state = .blockedUnknown
  | .autoSettleOutcome fence outcome from_ to_ event =>
    k.Works fence outcome.scope ∧ outcome.chainID = S.chainID ∧ event.event ≠ .outcomeConsumed ∧
      from_ = [.blockedUnknown] ∧
      (to_ = none → k.facts (.failed outcome.txHash) ∨ k.Superseded S outcome.txHash) ∧
      ∀ o ∈ to_, o.state = .succeeded ∧ o.resultTxHash = outcome.txHash ∧
        k.facts (.succeeded outcome.txHash)
  | .manualResolvePending pending result event =>
    p = cliName ∧ event.event ≠ .outcomeConsumed ∧ S.carries pending.txHash pending.operation ∧
      (result = none → k.Ended S pending.txHash pending.operation) ∧
      ∀ o ∈ result, o.state = .succeeded →
        k.Performed S pending.txHash pending.operation o.resultTxHash
  | .manualSettleOutcome outcome _ to_ event =>
    p = cliName ∧ event.event ≠ .outcomeConsumed ∧
      (event.event.byDecision = false → S.carries outcome.txHash outcome.operation ∧
        (to_ = none → k.Ended S outcome.txHash outcome.operation) ∧
        ∀ o ∈ to_, o.state = .succeeded →
          k.Performed S outcome.txHash outcome.operation o.resultTxHash)
  | .appendAudit _ _ event => event.event ≠ .outcomeConsumed
  | _ => True

def allowed : Cmd β → Prop
  | .lock _ => k.scope = none ∧ p ≠ cliName
  | .unlock scope => k.scope = some scope ∧ k.Backed
  | .loadMem scope => k.scope = some scope
  | .setTerminalRetry scope r => k.scope = some scope ∧ ∀ x ∈ r, k.MayStash S scope x
  | .setConsumeUnknown scope o =>
    k.scope = some scope ∧ ∀ x ∈ o, k.mem = some (none, none) ∧ x.state = .succeeded ∧
      ∀ y ∈ x.facts, k.facts y
  | .putAwaiting scope _ txHash => k.scope = some scope ∧ k.mem.isSome ∧ k.CanHand txHash
  | .takeAwaiting scope _ => k.scope = some scope
  | .setNotes scope _ => k.scope = some scope
  | .setSynced scope _ => k.scope = some scope
  | .setAcquired epoch => k.facts (.acquired epoch)
  | .store c => allowedStore S p k c
  | .send (some fence) txHash =>
    ∃ scope row, k.Works fence scope ∧ row.scope = scope ∧ k.facts (.row fence row) ∧
      row.txHash = txHash ∧ k.mem = some (none, none)
  | .send none _ => p = cliName
  | .noteCleared scope _ epoch => k.scope = some scope ∧ k.synced = some epoch
  | .respond (some h) false => k.scope.isSome ∧ k.mem = some (none, none) ∧ k.CanHand h
  | _ => True

/-! ## Which answers to expect -/

def answersStore : StoreCall β → Except StoreErr β → Prop
  | .getPending chainID scope, .ok (some r) => r.chainID = chainID ∧ r.scope = scope
  | .getOutcome chainID scope operation, .ok (some o) =>
    o.chainID = chainID ∧ o.scope = scope ∧ o.operation = operation
  | .listOutcomes chainID, .ok os => ∀ o ∈ os, o.chainID = chainID
  | .getSignedTx _, .ok (some e) => S.carries e.txHash e.operation
  | .getSignedTxByHash chainID txHash, .ok (some e) => e.chainID = chainID ∧ e.txHash = txHash
  | .listSignedTxAtNonce _ sender nonce _ _, .ok rows =>
    ∀ e ∈ rows, e.sender = sender ∧ e.nonce = nonce
  | .record _ _ pending, .ok r =>
    r.txHash = pending.txHash ∧ r.scope = pending.scope ∧ r.chainID = pending.chainID
  | _, _ => True

def answers : Cmd β → β → Prop
  | .loadMem scope, m =>
    (∀ s u, k.mem = some (s, u) → m.terminalRetry = s ∧ m.consumeUnknown = u) ∧
    (∀ e, k.synced = some e → m.notes.epoch = e) ∧
    (∀ r ∈ m.terminalRetry, r.pending.scope = scope ∧ r.pending.chainID = S.chainID ∧
      m.consumeUnknown = none) ∧
    ∀ o ∈ m.consumeUnknown, o.state = .succeeded
  | .fence, some f => f.owner = p ∧ f.chainID = S.chainID
  | .store c, r => answersStore S c r
  | .ask (.waitReceipt _), .ok r => r.status = receiptStatusSuccessful
  | .sign _ operation _, some (h, _) => h ≠ 0 ∧ S.carries h operation
  | _, _ => True

/-! ## What an answer teaches -/

/-- Facts that hold only under the lock of `scope`. -/
def View.underLock (scope : SignType) (fs : List Fact) : List Fact :=
  if k.scope = some scope then fs else []

def learnStore : StoreCall β → Except StoreErr β → View
  | .acquireLease .., .ok (epoch, true) => k.add [.acquired epoch]
  | .getPending _ scope, .ok (some r) =>
    { k.add (k.underLock scope
        (.claimable r.txHash :: (k.fence.map fun f => Fact.row f r).toList)) with
      hand := if k.scope = some scope then k.hand.see r else k.hand }
  | .getOutcome _ scope _, .ok (some o) => k.add (k.underLock scope o.facts)
  | .getSignedTxByHash _ txHash, .ok o =>
    k.add [match o with
      | some e => .own e
      | none => .notOwn txHash]
  | .hasAudit _ .outcomeConsumed txHash outcomeID, .ok true => k.add [.audited txHash outcomeID]
  | .record fence _ _, .ok r =>
    { k.add [.row fence r, .claimable r.txHash] with hand := .unsent fence.epoch r }
  | .record fence evidence _, .error .commitUnknown =>
    { k with hand := .unsure fence.epoch evidence.txHash }
  | .resolvePending _ pending terminal, r =>
    let k := if terminal.kind.notAdmitted then k.forget pending.txHash else k
    match r with
    | .ok _ => k.add (if terminal.kind = .successConsume then [.consumed pending.txHash] else [])
    | .error _ => k
  | .consumeOutcome _ outcome, .ok _ => k.add [.consumed outcome.resultTxHash]
  | _, _ => k

def learnQuery : Query β → β → View
  | .receipt h, .ok (some r) =>
    k.add [if r.status = receiptStatusSuccessful then .succeeded h else .failed h]
  | .waitReceipt h, .ok _ => k.add [.succeeded h]
  | .searchEthereumTx h _, .ok (some v) =>
    k.add (.included h :: if v.code ≠ 0 then [.failed h] else [])
  | .cosmosTx _, .ok (some v) => k.add [.cosmos v]
  | .searchAccSeq _ _ _, .ok vs => k.add (vs.map .cosmos)
  | _, _ => k

/-- The scope's memory was read. What backs it is learnt with it, once. -/
def View.load (m : ScopeMem) : View :=
  match k.mem with
  | some _ => { k with synced := some m.notes.epoch }
  | none =>
    { k.add ((m.terminalRetry.map TerminalRetry.facts).getD [] ++
        (m.consumeUnknown.map OutcomeRecord.facts).getD []) with
      mem := some (m.terminalRetry, m.consumeUnknown), synced := some m.notes.epoch }

def View.setRetry (r : Option TerminalRetry) : View := { k with mem := k.mem.map fun m => (r, m.2) }

def View.setUnknown (o : Option OutcomeRecord) : View :=
  { k with mem := k.mem.map fun m => (m.1, o) }

def learn : Cmd β → β → View
  | .lock scope, _ => { scope := some scope, fence := k.fence }
  | .unlock _, _ => { fence := k.fence }
  | .loadMem _, m => k.load m
  | .setTerminalRetry _ r, _ => k.setRetry r
  | .setConsumeUnknown _ o, _ => k.setUnknown o
  | .putAwaiting _ _ txHash, _ => k.drop txHash
  | .takeAwaiting _ _, some h => k.add [.claimable h, .consumed h]
  | .setSynced _ epoch, _ => { k with synced := some epoch, cleared := none }
  | .fence, f => { k with fence := f }
  | .store c, r => learnStore k c r
  | .ask q, r => learnQuery k q r
  | .send (some _) txHash, answer => { k with hand := k.hand.send txHash answer }
  | .noteCleared _ operation epoch, _ => { k with cleared := some (operation, epoch), fence := none }
  | .respond (some h) false, _ => k.drop h
  | _, _ => k

end

/-- The discipline of the threads of process `p`. -/
def discipline (S : Setup) (p : String) : Discipline Cmd View where
  allowed := fun k e => allowed S p k e
  answers := fun k e r => answers S p k e r
  learn := fun k e r => learn k e r

/-- What a thread knows when it starts a job. -/
def Job.view (j : Job) : View := { fence := j.fence? }

end Signer

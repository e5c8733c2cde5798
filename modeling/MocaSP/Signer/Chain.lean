-- SUMMARY: What the signer sees of the chain.
import MocaSP.Signer.Types

/-!
# The chain and the node

The chain is given by its final history: the receipt, or the Cosmos transaction,
each Ethereum transaction ends up with, if any. At a height the nodes know the
part of it up to that height. A positive answer is true; that something is not
found, or an error, says nothing.
-/

namespace Signer

/-- `types.Receipt`. -/
structure Receipt where
  status : Nat
  blockNumber : Option Nat
  deriving DecidableEq

/-- `types.ReceiptStatusSuccessful`. -/
def receiptStatusSuccessful : Nat := 1

/-- `CosmosTxView`: a Cosmos transaction as the signer sees it. -/
structure CosmosTxView where
  hash : Hash
  height : Nat
  code : Nat
  /-- The `tx.acc_seq` attributes: the signers and the sequence each one used. -/
  accSeqs : List (Address × Nat) := []
  /-- The operation fingerprint of each message; `none` when the transaction does not decode. -/
  msgs : Option (List Hash) := some []
  deriving DecidableEq

/-- `EvmBlockTx`: a transaction as a block lists it. -/
structure EvmBlockTx where
  hash : Hash
  sender : Address
  nonce : Nat

/-- Errors of a chain read. -/
inductive ChainErr where
  | notFound        -- ethereum.NotFound
  | indexDisabled   -- errCosmosIndexDisabled
  | unavailable     -- errEvmBlockUnavailable
  | other

/-- The final history of the chain: what each Ethereum transaction ends up with. -/
structure Chain where
  /-- The receipt, with the height of its block. -/
  receipt : Hash → Option (Receipt × Nat)
  /-- The Cosmos transaction that got through the ante handler with the transaction in it. -/
  view : Hash → Option CosmosTxView
  /-- The Cosmos transactions that used a sequence of an account. -/
  cosmos : Address → Nat → List CosmosTxView := fun _ _ => []

namespace Chain

variable (chain : Chain)

/-- The transaction was included and executed successfully. -/
def SucceededBy (height : Nat) (h : Hash) : Prop :=
  ∃ r n, chain.receipt h = some (r, n) ∧ n ≤ height ∧ r.status = receiptStatusSuccessful

/-- The transaction was included and failed: by its receipt, or as a Cosmos
transaction with a failure code, which has no receipt. It left no state. -/
def FailedBy (height : Nat) (h : Hash) : Prop :=
  (∃ r n, chain.receipt h = some (r, n) ∧ n ≤ height ∧ r.status ≠ receiptStatusSuccessful) ∨
    ∃ v, chain.view h = some v ∧ v.height ≤ height ∧ v.code ≠ 0

/-- The transaction is in a block: it used its sender's nonce. -/
def IncludedBy (height : Nat) (h : Hash) : Prop :=
  (∃ r n, chain.receipt h = some (r, n) ∧ n ≤ height) ∨ ∃ v, chain.view h = some v ∧ v.height ≤ height

/-- The Cosmos transaction is in a block and used the sequences it lists. -/
def CosmosBy (height : Nat) (v : CosmosTxView) : Prop :=
  v.height ≤ height ∧ ∀ s ∈ v.accSeqs, v ∈ chain.cosmos s.1 s.2

/-- A receipt read at `height` is true. -/
def trueReceipt (height : Nat) (h : Hash) (r : Receipt) : Bool :=
  match chain.receipt h with
  | some (r', n) => r' = r && n ≤ height
  | none => false

/-- A search result read at `height` is true. -/
def trueView (height : Nat) (h : Hash) (v : CosmosTxView) : Bool :=
  match chain.view h with
  | some v' => v' = v && v'.height ≤ height
  | none => false

/-- A Cosmos transaction looked up at `height` is one of the chain's, with every
sequence it used. -/
def trueCosmos (height : Nat) (v : CosmosTxView) : Bool :=
  v.height ≤ height && v.accSeqs.all fun (a, n) => v ∈ chain.cosmos a n

variable {chain}

variable {height m n : Nat} {h : Hash} {v : CosmosTxView}

theorem trueReceipt_iff {r : Receipt} :
    chain.trueReceipt height h r = true ↔ ∃ n, chain.receipt h = some (r, n) ∧ n ≤ height := by
  unfold trueReceipt
  split
  next hr => simp [hr]
  next hr => simp [hr]

theorem includedBy_of_trueView (ht : chain.trueView height h v = true) :
    chain.view h = some v ∧ v.height ≤ height := by
  unfold trueView at ht
  split at ht
  next hv =>
    simp only [Bool.and_eq_true, decide_eq_true_eq] at ht
    obtain ⟨rfl, hle⟩ := ht
    exact ⟨hv, hle⟩
  · cases ht

theorem cosmosBy_of_trueCosmos (ht : chain.trueCosmos height v = true) : chain.CosmosBy height v := by
  simp only [trueCosmos, Bool.and_eq_true, decide_eq_true_eq, List.all_eq_true] at ht
  exact ht

theorem SucceededBy.mono (hs : chain.SucceededBy m h) (hmn : m ≤ n) : chain.SucceededBy n h := by
  obtain ⟨r, k, hr, hk, hst⟩ := hs
  exact ⟨r, k, hr, Nat.le_trans hk hmn, hst⟩

theorem FailedBy.mono (hf : chain.FailedBy m h) (hmn : m ≤ n) : chain.FailedBy n h := by
  obtain ⟨r, k, hr, hk, hst⟩ | ⟨v, hv, hk, hc⟩ := hf
  · exact .inl ⟨r, k, hr, Nat.le_trans hk hmn, hst⟩
  · exact .inr ⟨v, hv, Nat.le_trans hk hmn, hc⟩

theorem IncludedBy.mono (hi : chain.IncludedBy m h) (hmn : m ≤ n) : chain.IncludedBy n h := by
  obtain ⟨r, k, hr, hk⟩ | ⟨v, hv, hk⟩ := hi
  · exact .inl ⟨r, k, hr, Nat.le_trans hk hmn⟩
  · exact .inr ⟨v, hv, Nat.le_trans hk hmn⟩

theorem CosmosBy.mono (hc : chain.CosmosBy m v) (hmn : m ≤ n) : chain.CosmosBy n v :=
  ⟨Nat.le_trans hc.1 hmn, hc.2⟩

theorem SucceededBy.included (hs : chain.SucceededBy n h) : chain.IncludedBy n h := by
  obtain ⟨r, k, hr, hk, -⟩ := hs
  exact .inl ⟨r, k, hr, hk⟩

theorem FailedBy.included (hf : chain.FailedBy n h) : chain.IncludedBy n h := by
  obtain ⟨r, k, hr, hk, -⟩ | ⟨v, hv, hk, -⟩ := hf
  · exact .inl ⟨r, k, hr, hk⟩
  · exact .inr ⟨v, hv, hk⟩

end Chain

/-! ## Sends -/

/-- `strings.Contains`. -/
def containsChars (reason : List Char) : List Char → Bool
  | [] => reason.isPrefixOf []
  | c :: cs => reason.isPrefixOf (c :: cs) || containsChars reason cs

def containsAnyReason (msg : String) (reasons : List String) : Bool :=
  reasons.any fun reason => containsChars reason.toList msg.toList

def isEvmNonceLowError (msg : String) : Bool :=
  containsAnyReason msg ["nonce too low", "invalid nonce", "tx nonce is lower than account nonce"]

def isEvmNonceHighError (msg : String) : Bool :=
  containsAnyReason msg ["nonce too high", "tx nonce is higher than account nonce"]

/-- `evmNotAdmittedReasons`. -/
def evmNotAdmittedReasons : List String :=
  ["failed to validate transaction", "failed to build cosmos tx", "failed to encode transaction",
   "insufficient funds", "insufficient fee", "intrinsic gas too low"]

def evmRPCCodeInvalidParams : Int := -32602
def evmRPCCodeInternal : Int := -32603
def evmRPCCodeTimeout : Int := -32002

/-- An error of `eth_sendRawTransaction`, as far as it is looked at. -/
structure SendErr where
  /-- The error is `context.Canceled` or `context.DeadlineExceeded`. -/
  ctx : Bool := false
  /-- It wraps an `rpc.HTTPError`. -/
  http : Bool := false
  /-- It wraps an `rpc.Error` with this code and message. -/
  rpc : Option (Int × String) := none
  /-- Its whole text. -/
  text : String := ""
  deriving DecidableEq

/-- `evmSendOutcome`. -/
inductive SendOutcome where
  | accepted | ambiguous | nonceRejected | rejected
  deriving DecidableEq

/-- `classifyEvmSendError`. `ctxDone` is `ctx.Err() != nil`. -/
def classifyEvmSendError (ctxDone : Bool) (err : Option SendErr) : SendOutcome :=
  match err with
  | none => .accepted
  | some e =>
    if ctxDone || e.ctx || e.http then .ambiguous
    else match e.rpc with
      | none => .ambiguous
      | some (code, msg) =>
        if code = evmRPCCodeTimeout ∨ code = evmRPCCodeInternal then .ambiguous
        else if code = evmRPCCodeInvalidParams then .rejected
        else if isEvmNonceLowError msg || isEvmNonceHighError msg then .nonceRejected
        else if containsAnyReason msg evmNotAdmittedReasons then .rejected
        else .ambiguous

/-- The node verifiably refused the bytes. -/
def SendOutcome.refused : SendOutcome → Bool
  | .nonceRejected | .rejected => true
  | .accepted | .ambiguous => false

/-- `evmNodeAnswered`. -/
def evmNodeAnswered (ctxDone : Bool) (err : Option SendErr) : Bool :=
  match err with
  | none => true
  | some e =>
    if ctxDone || e.http then false
    else match e.rpc with
      | none => false
      | some (code, _) => code ≠ evmRPCCodeTimeout && code ≠ evmRPCCodeInternal

end Signer

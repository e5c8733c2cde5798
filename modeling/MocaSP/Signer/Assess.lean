-- SUMMARY: The evidence a disposition command reads from the chain.
import MocaSP.Signer.Manager

/-!
# Assessing a recorded transaction

What a command of `signer-evm` concludes about a recorded transaction at one
height. The notes of a sample are left out: nothing reads them.
-/

namespace Signer

/-- The branches of an assessment. -/
inductive Branch where
  | originalSucceeded | originalFailed | nonceUnused | nonceNotReached
  | otherTxFailed | ownOtherOp | plainTransfer | sameCall | cosmosSameOp
  | undetermined | occupierMissing | nonceGap | gapUnproven | gapNotProbed
  deriving DecidableEq

/-- `EvmDisposeRequest`, as far as it decides what is done. `cosmos` says that a
CometBFT RPC is configured, `polls` how often the wait for the second height polls. -/
structure DisposeRequest where
  scope : SignType := .operator
  txHash : Hash := 0
  outcomeID : Nat := 0
  evidenceTx : Option Hash := none
  evidenceCosmosTx : Option Hash := none
  scanBlocks : Nat := 0
  acceptUnknown : Bool := false
  acceptGap : Bool := false
  dryRun : Bool := false
  cosmos : Bool := true
  polls : Nat := 0

/-- What used the nonce: an EVM transaction, or a Cosmos transaction. -/
inductive Used where
  | evm (hash : Hash)
  | cosmos (view : CosmosTxView)

def Used.ref : Used → TxRef
  | .evm h => .evm h
  | .cosmos v => .cosmos v.hash

/-- `EvmDisposeOccupier`. -/
structure Occupier where
  used : Used
  block : Nat
  succeeded : Bool

/-- `EvmDisposeSample`. -/
structure Sample where
  height : Nat
  chainNonce : Nat := 0
  branch : Option Branch := none
  receiptBlock : Nat := 0
  occupier : Option Occupier := none

/-- `key`: what two samples must agree on. A nonce gap also needs the same
account nonce at both heights. -/
def Sample.key (s : Sample) : Option Branch × Option (TxRef ⊕ Nat) :=
  match s.branch with
  | some .nonceGap | some .gapUnproven | some .gapNotProbed => (s.branch, some (.inr s.chainNonce))
  | b => (b, s.occupier.map fun o => .inl o.used.ref)

/-- `evmDisposeTarget`. -/
structure Target where
  evidence : SignedTxEvidence
  tx : Hash
  operation : Hash
  probeGap : Bool := false
  gapIsBranch : Bool := false

/-- What a disposer remembers between reads. -/
structure Disposer where
  cosmosChecked : Bool := false
  blocks : List (Nat × List EvmBlockTx) := []

/-- A read of the chain or of the store failed. -/
inductive AssessErr where
  | chain (e : ChainErr)
  | store (e : StoreErr)
  | network
  | noCosmosRPC

namespace Disposer

open Client (store ask)

variable (S : Setup) (req : DisposeRequest)

/-- `checkCosmos`: once, that the CometBFT RPC serves the row's chain. -/
def checkCosmos (d : Disposer) (evidence : SignedTxEvidence) : Code (Except AssessErr Disposer) := do
  if !req.cosmos || d.cosmosChecked then return .ok d
  match ← ask .network with
  | .error e => return .error (.chain e)
  | .ok network =>
    if network ≠ evidence.chainID then return .error .network
    else return .ok { d with cosmosChecked := true }

variable (evidence : SignedTxEvidence)

/-- The transaction an RPC returned is from the row's sender at its nonce. -/
def fromSender (txHash found : Hash) : Bool :=
  let tx := S.eth.tx found
  (tx.chainID = none ∨ tx.chainID = some evidence.evmChainID) ∧
    tx.sender = some evidence.sender ∧ tx.nonce = evidence.nonce ∧ found = txHash

/-- `evmOccupier`: an EVM transaction of the row's sender at its nonce, other
than the original, with a receipt at or below the height. -/
def evmOccupier (txHash : Hash) (height : Nat) : Code (Except AssessErr (Option Occupier)) := do
  if txHash = evidence.txHash then return .ok none
  match ← ask (.txByHash txHash) with
  | .error .notFound => return .ok none
  | .error e => return .error (.chain e)
  | .ok none => return .ok none
  | .ok (some found) =>
    if !fromSender S evidence txHash found then return .ok none
    match ← ask (.receipt txHash) with
    | .error .notFound => return .ok none
    | .error e => return .error (.chain e)
    | .ok none => return .ok none
    | .ok (some receipt) =>
      match receipt.blockNumber with
      | none => return .ok none
      | some block =>
        if height < block then return .ok none
        else return .ok (some { used := .evm txHash, block,
                                succeeded := receipt.status = receiptStatusSuccessful })

/-- `cosmosOccupier`: a Cosmos transaction the row's sender signed at its nonce,
at or below the height. -/
def cosmosOccupier (view : CosmosTxView) (height : Nat) : Option Occupier :=
  if (evidence.sender, evidence.nonce) ∉ view.accSeqs then none
  else if view.height = 0 ∨ height < view.height then none
  else some { used := .cosmos view, block := view.height, succeeded := view.code = 0 }

/-- The scan of one block's transactions. -/
def scanTxs (evidence : SignedTxEvidence) (height : Nat) :
    List EvmBlockTx → Code (Except AssessErr (Option Occupier))
  | [] => return .ok none
  | tx :: txs => do
    if tx.sender ≠ evidence.sender ∨ tx.nonce ≠ evidence.nonce ∨ tx.hash = evidence.txHash then
      scanTxs evidence height txs
    else
      match ← evmOccupier S evidence tx.hash height with
      | .ok none => scanTxs evidence height txs
      | r => return r

/-- The transactions of a block, read once. -/
def blockTxs (d : Disposer) (block : Nat) :
    Code (Except AssessErr (Option (List EvmBlockTx) × Disposer)) := do
  match d.blocks.find? (·.1 = block) with
  | some (_, txs) => return .ok (some txs, d)
  | none =>
    match ← ask (.blockTxs block) with
    | .error .unavailable => return .ok (none, d)
    | .error e => return .error (.chain e)
    | .ok txs => return .ok (some txs, { d with blocks := (block, txs) :: d.blocks })

/-- The scan of `count` blocks from `block` on. -/
def scanBlocks (evidence : SignedTxEvidence) (height : Nat) (d : Disposer) (block : Nat) :
    (count : Nat) → Code (Except AssessErr (Option Occupier × Disposer))
  | 0 => return .ok (none, d)
  | count + 1 => do
    match ← blockTxs d block with
    | .error e => return .error e
    | .ok (none, d) => scanBlocks evidence height d (block + 1) count
    | .ok (some txs, d) =>
      match ← scanTxs S evidence height txs with
      | .error e => return .error e
      | .ok (some o) => return .ok (some o, d)
      | .ok none => scanBlocks evidence height d (block + 1) count

/-- The lookup of `--evidence-tx`. -/
def givenEvm (height : Nat) : Code (Except AssessErr (Option Occupier)) :=
  match req.evidenceTx with
  | some h => evmOccupier S evidence h height
  | none => return .ok none

/-- The lookup of `--evidence-cosmos-tx`. -/
def givenCosmos (height : Nat) (d : Disposer) :
    Code (Except AssessErr (Option Occupier × Disposer)) := do
  match req.evidenceCosmosTx with
  | none => return .ok (none, d)
  | some hash =>
    if !req.cosmos then return .error .noCosmosRPC
    match ← checkCosmos req d evidence with
    | .error e => return .error e
    | .ok d =>
      match ← ask (.cosmosTx hash) with
      | .error .indexDisabled => return .ok (none, d)
      | .error e => return .error (.chain e)
      | .ok none => return .ok (none, d)
      | .ok (some view) => return .ok (cosmosOccupier evidence view height, d)

/-- The search by `tx.acc_seq`. -/
def searchCosmos (height : Nat) (d : Disposer) :
    Code (Except AssessErr (Option Occupier × Disposer)) := do
  match ← checkCosmos req d evidence with
  | .error e => return .error e
  | .ok d =>
    if !req.cosmos then return .ok (none, d)
    match ← ask (.searchAccSeq evidence.sender evidence.nonce height) with
    | .error .indexDisabled => return .ok (none, d)
    | .error e => return .error (.chain e)
    | .ok views => return .ok (views.findSome? fun v => cosmosOccupier evidence v height, d)

/-- `findOccupier`: the given EVM hash, the given Cosmos hash, then a bounded
scan from the recorded block. -/
def findOccupier (height : Nat) (d : Disposer) :
    Code (Except AssessErr (Option Occupier × Disposer)) := do
  match ← givenEvm S req evidence height with
  | .error e => return .error e
  | .ok (some o) => return .ok (some o, d)
  | .ok none =>
    match ← givenCosmos req evidence height d with
    | .error e => return .error e
    | .ok (some o, d) => return .ok (some o, d)
    | .ok (none, d) =>
      if req.scanBlocks = 0 then return .ok (none, d)
      let start := evidence.recordedBlock
      let stop := min (start + req.scanBlocks - 1) height
      match ← scanBlocks S evidence height d start (stop + 1 - start) with
      | .error e => return .error e
      | .ok (some o, d) => return .ok (some o, d)
      | .ok (none, d) => searchCosmos req evidence height d

/-! ## What the occupier did -/

/-- `isPossiblePrecompile`: the first 18 bytes of the address are zero. -/
def isPossiblePrecompile (a : Address) : Bool := a.toNat < 2 ^ 16

/-- The two transactions make the same call. -/
def sameCall (tx original : Tx) : Bool :=
  match tx.recipient, original.recipient with
  | some a, some b => a = b && tx.value = original.value && tx.data = original.data
  | _, _ => false

variable (target : Target)

/-- The part of `classify` for a succeeded EVM transaction this signer did not sign. -/
def classifyForeign (txHash : Hash) (block : Nat) : Code Branch := do
  let tx := S.eth.tx txHash
  if sameCall tx (S.eth.tx target.tx) then return .sameCall
  match tx.recipient with
  | none => return .undetermined
  | some recipient =>
    if tx.data ≠ [] ∨ isPossiblePrecompile recipient ∨ block = 0 then return .undetermined
    -- the recipient had no code before the block or in it
    match ← ask (.codeAt recipient (block - 1)) with
    | .ok [] =>
      match ← ask (.codeAt recipient block) with
      | .ok [] => return .plainTransfer
      | _ => return .undetermined
    | _ => return .undetermined

/-- `classify`: what an occupier found at the height proves. -/
def classify (o : Occupier) : Code (Except AssessErr Branch) := do
  if !o.succeeded then return .ok .otherTxFailed
  match o.used with
  | .cosmos view =>
    match view.msgs with
    | none => return .ok .undetermined
    | some msgs => return .ok (if target.operation ∈ msgs then .cosmosSameOp else .undetermined)
  | .evm txHash =>
    match ← store (.getSignedTxByHash target.evidence.chainID txHash) with
    | .error e => return .error (.store e)
    | .ok (some own) =>
      match verify S.eth S.evmChainID (some own) own.ref with
      | .error _ => return .ok .undetermined
      | .ok _ => return .ok (if own.operation = target.operation then .sameCall else .ownOtherOp)
    | .ok none =>
      let branch ← classifyForeign S target txHash o.block
      return .ok branch

variable (sample : Sample)

/-- `assessGap`: the node refuses the bytes for a nonce above the account's. -/
def assessGap : Code (Sample × Option AssessErr) := do
  match ← ask (.pendingNonceAt target.evidence.sender) with
  | .error e => return (sample, some (.chain e))
  | .ok pending =>
    if !target.probeGap then return ({ sample with branch := some .gapNotProbed }, none)
    if pending ≠ sample.chainNonce then return ({ sample with branch := some .gapUnproven }, none)
    let sendErr ← .do_ (.send none target.tx)
    let done ← .do_ .ctxDone
    if sendErr.isSome ∧ classifyEvmSendError done sendErr = .nonceRejected ∧
        isEvmNonceHighError ((sendErr.map SendErr.text).getD "") then
      return ({ sample with branch := some .nonceGap }, none)
    else return ({ sample with branch := some .gapUnproven }, none)

/-- The original's receipt at or below the height. -/
def assessReceipt (height : Nat) : Code (Except AssessErr Sample) := do
  match ← ask (.receipt target.evidence.txHash) with
  | .error .notFound => return .ok { height }
  | .error e => return .error (.chain e)
  | .ok none => return .ok { height }
  | .ok (some receipt) =>
    match receipt.blockNumber with
    | none => return .ok { height }
    | some block =>
      if height < block then return .ok { height }
      let branch := if receipt.status = receiptStatusSuccessful then
        Branch.originalSucceeded else .originalFailed
      return .ok { height, branch := some branch, receiptBlock := block }

/-- The original as a failed Cosmos transaction without a receipt. -/
def assessFailed (d : Disposer) : Code (Except AssessErr (Option Sample × Disposer)) := do
  if !req.cosmos then return .ok (none, d)
  match ← checkCosmos req d target.evidence with
  | .error e => return .error e
  | .ok d =>
    match ← ask (.searchEthereumTx target.evidence.txHash sample.height) with
    | .error .indexDisabled => return .ok (none, d)
    | .error e => return .error (.chain e)
    | .ok (some view) =>
      if view.code ≠ 0 then
        return .ok (some { sample with branch := some .originalFailed, receiptBlock := view.height }, d)
      else return .ok (none, d)
    | .ok none => return .ok (none, d)

/-- The part of `assess` for a used nonce. -/
def assessUsed (d : Disposer) : Code (Sample × Option AssessErr × Disposer) := do
  match ← assessFailed req target sample d with
  | .error e => return (sample, some e, d)
  | .ok (some failed, d) => return (failed, none, d)
  | .ok (none, d) =>
    match ← findOccupier S req target.evidence sample.height d with
    | .error e => return (sample, some e, d)
    | .ok (none, d) => return ({ sample with branch := some .occupierMissing }, none, d)
    | .ok (some o, d) =>
      let sample := { sample with occupier := some o }
      match ← classify S target o with
      | .error e => return (sample, some e, d)
      | .ok branch => return ({ sample with branch := some branch }, none, d)

/-- `assess`: the case at one height. -/
def assess (height : Nat) (d : Disposer) : Code (Sample × Option AssessErr × Disposer) := do
  match ← assessReceipt target height with
  | .error e => return ({ height }, some e, d)
  | .ok sample =>
    match ← ask (.nonceAt target.evidence.sender height) with
    | .error e => return (sample, some (.chain e), d)
    | .ok chainNonce =>
      let sample := { sample with chainNonce }
      if sample.branch.isSome then return (sample, none, d)
      if chainNonce = target.evidence.nonce then
        return ({ sample with branch := some .nonceUnused }, none, d)
      if chainNonce < target.evidence.nonce then
        if !target.gapIsBranch then
          return ({ sample with branch := some .nonceNotReached }, none, d)
        let (sample, err) ← assessGap target sample
        return (sample, err, d)
      assessUsed S req target sample d

end Disposer

end Signer

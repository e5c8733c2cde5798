-- SUMMARY: The commands of `signer-evm` that change a row.
import MocaSP.Signer.Assess

/-!
# Disposition commands

The CLI holds no lease. Every write is conditioned on the row the decision was
made on. Texts of the report, the operator and the reason are left out.
-/

namespace Signer

/-- The exit codes of the commands. -/
inductive ExitCode where
  | ok | error | notProven | precondition | evidenceInvalid

/-- What a command did, or in a dry run would do. -/
inductive DisposeAction where
  | none
  | turnPending (to_ : OutcomeRecord)
  | deletePending
  | updateOutcome (to_ : OutcomeRecord)
  | deleteOutcome

/-- `EvmDisposeReport`. -/
structure Report where
  samples : List Sample := []
  branch : Option Branch := none
  action : Option DisposeAction := none
  applied : Bool := false
  event : Option AuditName := none
  exitCode : ExitCode := .ok

namespace Disposer

open Client (store ask)

variable (S : Setup) (req : DisposeRequest)

/-- `manualEvent`: the name, and the account nonce and height of the last sample. -/
def manualEvent (samples : List Sample) (base : AuditEvent) (event : AuditName) : AuditEvent :=
  match samples.getLast? with
  | some last => { base with
      event, chainNonce := some last.chainNonce, chainHeight := some last.height }
  | none => { base with event }

variable (report : Report)

/-- `reject`: end without a change, audited except in a dry run. -/
def reject (base : AuditEvent) (code : ExitCode) : Code Report := do
  let report := { report with exitCode := code, action := some .none }
  if req.dryRun then return report
  match ← store (.appendAudit none S.chainID (manualEvent report.samples base .manualRejected)) with
  | .ok _ => return { report with event := some .manualRejected }
  | .error _ => return report

/-- `checkEvidence`: the verified evidence of a row, or the end of the command. -/
def checkEvidence (ref : EvidenceRef) (base : AuditEvent) :
    Code (Except Report (SignedTxEvidence × Hash)) := do
  match ← store (.getSignedTx ref.signedTxID) with
  | .error _ => return .error { exitCode := .error }
  | .ok found =>
    match found, verify S.eth S.evmChainID found ref with
    | some evidence, .ok tx => return .ok (evidence, tx)
    | _, _ =>
      if req.dryRun then return .error { exitCode := .evidenceInvalid }
      match ← store (.appendAudit none S.chainID (manualEvent [] base .evidenceInvalid)) with
      | .ok _ => return .error { exitCode := .evidenceInvalid, event := some .evidenceInvalid }
      | .error _ => return .error { exitCode := .evidenceInvalid }

/-- `waitHeight`, with `polls` polls left. `ctxDone` also stands for the deadline. -/
def waitHeight (want : Nat) : (polls : Nat) → Code (Option Nat)
  | 0 => return none
  | polls + 1 => do
    match ← ask .blockNumber with
    | .error _ => return none
    | .ok height =>
      if want ≤ height then return some height
      if ← .do_ .ctxDone then return none
      waitHeight want polls

/-- `assessTwice`: two samples at heights H < H' that agree, or the end of the
command. -/
def assessTwice (target : Target) (base : AuditEvent) : Code (Except Report (Sample × Report)) := do
  let stop (report : Report) (code : ExitCode) : Code (Except Report (Sample × Report)) := do
    let r ← reject S req report base code
    return .error r
  match ← ask .evmChainID with
  | .ok (some id) =>
    if 2 ^ 64 ≤ id ∨ id ≠ target.evidence.evmChainID then stop {} .error
    else
      match ← ask .blockNumber with
      | .error _ => stop {} .error
      | .ok first =>
        let (a, err, d) ← assess S req target first {}
        let report : Report := { samples := [a] }
        if err.isSome then stop report .error
        else
          match ← waitHeight (first + 1) req.polls with
          | none => stop report .error
          | some second =>
            let (b, err, _) ← assess S req target second d
            let report := { report with samples := [a, b] }
            if err.isSome then stop report .error
            else if a.key ≠ b.key then stop report .notProven
            else return .ok (b, { report with branch := b.branch })
  | _ => stop {} .error

/-- `withOccupier`: the occupying transaction in an audit event. -/
def withOccupier (base : AuditEvent) (sample : Sample) : AuditEvent :=
  let base := match sample.occupier with
    | some o => { base with evidence := some o.used.ref }
    | none => base
  if sample.receiptBlock ≠ 0 then { base with receiptBlock := some sample.receiptBlock } else base

/-- `finishWrite`: the report on a manual transition. -/
def finishWrite (base : AuditEvent) (event : AuditName) (err : Option StoreErr) : Code Report :=
  match err with
  | none => return { report with applied := true, event := some event, exitCode := .ok }
  | some .rowGone | some .conflict => reject S req report base .precondition
  | some _ => return { report with exitCode := .error }

/-! ## `resolve` -/

/-- The EVM hash of the occupier. -/
def occupierHash (sample : Sample) : Hash :=
  match sample.occupier.map Occupier.used with
  | some (.evm h) => h
  | some (.cosmos v) => v.hash
  | none => 0

/-- `keep`: the outcome a pending row turns into. -/
def keep (sample : Sample) (state : OutcomeState) (reason : Option BlockReason) (result : Hash) :
    OutcomeRecord :=
  { state, reason, resultTxHash := result, source := some .manual
    evidence := sample.occupier.map fun o => o.used.ref
    receiptBlock := match sample.occupier with
      | some { used := .evm _, block, .. } => block
      | _ => sample.receiptBlock }

/-- What `resolve` makes of a branch: the outcome to keep, if any, and the audit
event; nothing when the case is not proven. -/
def resolveBranch (pending : PendingRecord) (sample : Sample) :
    Option (Option OutcomeRecord × AuditName) :=
  match sample.branch with
  | some .originalSucceeded =>
    some (some (keep sample .succeeded none pending.txHash), .manualResolveSuccess)
  | some .originalFailed => some (none, .manualResolveFailed)
  | some .otherTxFailed => some (none, .manualResolveOtherTxFailed)
  | some .ownOtherOp | some .plainTransfer => some (none, .manualResolveOtherUnrelated)
  | some .sameCall =>
    some (some (keep sample .succeeded none (occupierHash sample)), .manualResolveSameCall)
  | some .cosmosSameOp =>
    some (some (keep sample .executedElsewhere none 0), .manualResolveElsewhere)
  | some .undetermined =>
    if req.acceptUnknown then
      some (some (keep sample .blockedUnknown (some .otherTxUnverified) 0), .manualResolveUnknown)
    else none
  | some .occupierMissing =>
    if req.acceptUnknown then
      some (some (keep sample .blockedUnknown (some .receiptMissing) 0), .manualResolveUnknown)
    else none
  | some .nonceGap =>
    if req.acceptGap then
      some (some (keep sample .blockedUnknown (some .nonceGap) 0), .manualResolveNonceGap)
    else none
  | _ => none

/-- The write of `resolve`, and its read back when the commit is unknown. -/
def writeResolve (base : AuditEvent) (pending : PendingRecord)
    (result : Option OutcomeRecord) (event : AuditName) : Code Report := do
  let audit := manualEvent report.samples base event
  let audit := match result with
    | some o => { audit with outcomeID := some pending.id, outcomeState := some o.state,
                             outcomeReason := o.reason }
    | none => audit
  let report := { report with
    action := some (match result with
      | some o => .turnPending o
      | none => .deletePending) }
  if req.dryRun then return report
  match ← store (.manualResolvePending pending result audit) with
  | .ok _ => finishWrite S req report base event none
  | .error .commitUnknown =>
    match ← store (.getPending S.chainID req.scope) with
    | .ok current =>
      if current.map PendingRecord.id = some pending.id then
        finishWrite S req report base event (some .commitUnknown)
      else
        match ← store (.hasAudit S.chainID event pending.txHash 0) with
        | .ok true => finishWrite S req report base event none
        | _ => finishWrite S req report base event (some .commitUnknown)
    | .error _ => finishWrite S req report base event (some .commitUnknown)
  | .error e => finishWrite S req report base event (some e)

/-- `resolve`. -/
def resolve : Code Report := do
  match ← store (.getPending S.chainID req.scope) with
  | .error _ => return { exitCode := .error }
  | .ok none => return { exitCode := .precondition }
  | .ok (some pending) =>
    if pending.txHash ≠ req.txHash then return { exitCode := .precondition }
    let base := pending.audit .recorded
    match ← checkEvidence S req pending.ref base with
    | .error report => return report
    | .ok (evidence, tx) =>
      let target : Target :=
        { evidence, tx, operation := pending.operation, probeGap := !req.dryRun, gapIsBranch := true }
      match ← assessTwice S req target base with
      | .error report => return report
      | .ok (sample, report) =>
        let base := withOccupier base sample
        match resolveBranch req pending sample with
        | none => reject S req report base .notProven
        | some (result, event) => writeResolve S req report base pending result event

/-! ## `resolve-outcome` -/

/-- What `resolve-outcome` makes of a branch: the state to update to, or a
deletion; nothing when the case is not proven. -/
def outcomeBranch (outcome : OutcomeRecord) (sample : Sample) : Option (Option OutcomeRecord) :=
  let evidence := sample.occupier.map fun o => o.used.ref
  match sample.branch with
  | some .originalSucceeded =>
    some (some { state := .succeeded, resultTxHash := outcome.txHash, evidence,
                 receiptBlock := sample.receiptBlock, source := some .manual })
  | some .sameCall =>
    some (some { state := .succeeded, resultTxHash := occupierHash sample, evidence,
                 receiptBlock := (sample.occupier.map Occupier.block).getD 0, source := some .manual })
  | some .cosmosSameOp =>
    some (some { state := .executedElsewhere, evidence, source := some .manual })
  | some .originalFailed | some .otherTxFailed | some .ownOtherOp | some .plainTransfer => some none
  | _ => none

/-- `loadOutcome`: the outcome row of the request, in one of the states, or the
end of the command. -/
def loadOutcome (states : List OutcomeState) : Code (Except Report OutcomeRecord) := do
  match ← store (.getOutcomeByID S.chainID req.outcomeID) with
  | .error _ => return .error { exitCode := .error }
  | .ok none =>
    let r ← reject S req {} { event := .manualRejected, outcomeID := some req.outcomeID } .precondition
    return .error r
  | .ok (some outcome) =>
    if outcome.state ∈ states then return .ok outcome
    else
      let r ← reject S req {} (outcome.audit .manualRejected) .precondition
      return .error r

/-- `settle`: the write, and its read back when the commit is unknown. -/
def settle (base : AuditEvent) (outcome : OutcomeRecord)
    (from_ : List OutcomeState) (to_ : Option OutcomeRecord) (audit : AuditEvent) : Code Report := do
  if req.dryRun then return report
  match ← store (.manualSettleOutcome outcome from_ to_ audit) with
  | .ok _ => finishWrite S req report base audit.event none
  | .error .commitUnknown =>
    match ← store (.hasAudit S.chainID audit.event 0 outcome.id) with
    | .ok true => finishWrite S req report base audit.event none
    | _ => finishWrite S req report base audit.event (some .commitUnknown)
  | .error e => finishWrite S req report base audit.event (some e)

/-- `resolveOutcome`. -/
def resolveOutcome : Code Report := do
  match ← loadOutcome S req [.blockedUnknown] with
  | .error report => return report
  | .ok outcome =>
    let base := outcome.audit .recorded
    match ← checkEvidence S req outcome.ref base with
    | .error report => return report
    | .ok (evidence, tx) =>
      let target : Target := { evidence, tx, operation := outcome.operation }
      match ← assessTwice S req target base with
      | .error report => return report
      | .ok (sample, report) =>
        let base := withOccupier base sample
        match outcomeBranch outcome sample with
        | none => reject S req report base .notProven
        | some to_ =>
          let audit := manualEvent report.samples base .manualOutcomeResolved
          let audit := match to_ with
            | some o => { audit with outcomeState := some o.state, outcomeReason := none }
            | none => audit
          let report := { report with
            action := some (match to_ with
              | some o => .updateOutcome o
              | none => .deleteOutcome) }
          settle S req report base outcome [.blockedUnknown] to_ audit

/-! ## `release` and `dispose-outcome` -/

/-- `settleByDecision`: the deletion of an outcome on the operator's word. -/
def settleByDecision (release : Bool) : Code Report := do
  let states : List OutcomeState := if release then [.blockedUnknown] else [.succeeded, .executedElsewhere]
  let event := if release then .manualReleaseUnknown else .manualDisposeOutcome
  match ← loadOutcome S req states with
  | .error report => return report
  | .ok outcome =>
    let base := outcome.audit .recorded
    let write := settle S req { action := some .deleteOutcome } base outcome states none (manualEvent [] base event)
    if release then
      match ← checkEvidence S req outcome.ref base with
      | .error report => return report
      | .ok _ => write
    else
      -- what is wrong with the evidence is only noted in the report
      let _ ← store (.getSignedTx outcome.signedTxID)
      write

end Disposer

end Signer

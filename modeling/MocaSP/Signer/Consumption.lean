-- SUMMARY: The store calls that take a result out of the tables.
import MocaSP.Signer.Ledger

/-!
# Consumptions

A result leaves the tables when `ResolvePending` consumes it with the row or
`ConsumeOutcome` takes a kept one. Either ends the only row of the transaction,
and only these two write an `outcome_consumed` audit.
-/

namespace Signer
open List DB Option

/-! ## Consumptions and results in the log -/

/-- A result was taken out of the tables: by whom, from which outcome row if it was
kept in one, and of which transaction. -/
structure Consumption where
  proc : String
  outcomeID : Option Nat
  txHash : Hash

def Event.consumption : Event → Option Consumption
  | .resolved proc _ _ txHash .successConsume => some { proc, outcomeID := none, txHash }
  | .consumed proc rowID txHash => some { proc, outcomeID := some rowID, txHash }
  | _ => none

/-- What a request was answered with. -/
def Event.result : Event → Option Hash
  | .handed _ txHash => some txHash
  | _ => none

def World.consumptions (w : World) : List Consumption := w.log.filterMap Event.consumption

def World.results (w : World) : List Hash := w.log.filterMap Event.result

/-- `HasAudit` with these filters finds the audit of the consumption. -/
def Consumption.Answers (c : Consumption) (txHash : Hash) (outcomeID : Nat) : Prop :=
  (txHash = 0 ∨ c.txHash = txHash) ∧ (outcomeID = 0 ∨ c.outcomeID = some outcomeID)

instance (c : Consumption) (txHash : Hash) (outcomeID : Nat) :
    Decidable (c.Answers txHash outcomeID) := inferInstanceAs (Decidable (_ ∧ _))

/-- A succeeded outcome is of the row's own transaction. -/
def StateRow.OwnResult (row : StateRow) : Prop :=
  row.state = .outcome .succeeded → row.resultTxHash = row.txHash

/-! ## Store calls -/

/-- What a call takes out of the tables when it commits. -/
def StoreCall.consumption {β : Type} : StoreCall β → Option Consumption
  | .resolvePending fence pending terminal =>
    if terminal.kind = .successConsume then
      some { proc := fence.owner, outcomeID := none, txHash := pending.txHash }
    else none
  | .consumeOutcome fence outcome =>
    some { proc := fence.owner, outcomeID := some outcome.id, txHash := outcome.txHash }
  | _ => none

theorem StoreCall.event_consumption {β : Type} (c : StoreCall β) (height : Nat) (b : β) :
    (c.event height b).filterMap Event.consumption = c.consumption.toList := by
  cases c with
  | acquireLease => obtain ⟨_, _ | _⟩ := b <;> rfl
  | resolvePending _ _ terminal =>
    obtain ⟨kind⟩ := terminal
    cases kind <;> rfl
  | _ => rfl

theorem StoreCall.event_result {β : Type} (c : StoreCall β) (height : Nat) (b : β) :
    (c.event height b).filterMap Event.result = [] := by
  cases c with
  | acquireLease => obtain ⟨_, _ | _⟩ := b <;> rfl
  | _ => rfl

section
variable {S : Setup} {t : Tid} {k : View} {w : World} {β : Type} {c : StoreCall β} {b : β} {db : DB}

theorem DB.ownResult_turn {db db₁ db' : DB} {target : StateRow → Bool}
    {f : Option (StateRow → StateRow)} {n : Nat} (hturn : db.turn target f = .ok (n, db₁))
    (hstate : db'.state = db₁.state) (h : ∀ row ∈ db.state, row.OwnResult)
    (hf : ∀ g, f = some g → ∀ row ∈ db.state, target row = true → (g row).OwnResult) :
    ∀ row ∈ db'.state, row.OwnResult := by
  obtain ⟨-, rfl⟩ := turn_ok hturn
  intro row hrow
  rw [hstate] at hrow
  obtain ⟨hold, -⟩ | ⟨g, r, rfl, hr, ht, rfl⟩ := mem_turned.mp hrow
  · exact h row hold
  · exact hf g rfl r hr ht

/-- No call of a signer makes another transaction the result of a row. -/
theorem StoreCall.run_ownResult (hp : t.proc ≠ cliName) (hwf : w.db.WF)
    (ha : allowedStore S t.proc k c) (hrun : c.run w.db = .ok (b, db))
    (h : ∀ row ∈ w.db.state, row.OwnResult) : ∀ row ∈ db.state, row.OwnResult := by
  have hsame : w.db.SameRows db → ∀ row ∈ db.state, row.OwnResult := fun hs => hs.state ▸ h
  cases c with
  | acquireLease => exact hsame (acquireLease_sameRows hrun)
  | record =>
    rw [(record_inserted hrun).state]
    intro row hrow
    obtain hrow | hrow := mem_append.mp hrow
    · exact h row hrow
    · obtain rfl := mem_singleton.mp hrow
      rintro ⟨⟩
  | markAmbiguous =>
    obtain ⟨-, _, _, hturn, rfl⟩ := markAmbiguous_ok hrun
    refine ownResult_turn hturn rfl h ?_
    rintro _ ⟨⟩ row hrow -
    exact h row hrow
  | resolvePending =>
    obtain ⟨-, -, _, hturn, rfl⟩ := resolvePending_ok hrun
    refine ownResult_turn hturn (insertTerminalAudits_sameRows ..).state h ?_
    intro _ hg _ _ htarget _
    split at hg
    · cases hg
      exact (of_decide_eq_true htarget).2.symm
    · cases hg
  | consumeOutcome =>
    obtain ⟨-, -, _, hturn, rfl⟩ := consumeOutcome_ok hrun
    exact ownResult_turn hturn rfl h (by rintro g ⟨⟩)
  | appendAudit =>
    obtain ⟨-, rfl⟩ := appendAudit_ok hrun
    exact h
  | manualResolvePending | manualSettleOutcome => exact absurd ha.1 hp
  | autoResolvePending =>
    obtain ⟨-, -, _, hturn, rfl⟩ := resolvePendingTo_ok hrun
    refine ownResult_turn hturn rfl h ?_
    intro _ hg _ _ _ hstate
    obtain ⟨o, ho, rfl⟩ := map_eq_some_iff.mp hg
    have hblocked := ha.2.2.2.2 o ho
    simp [outcomeColumns, hblocked] at hstate
  | autoSettleOutcome =>
    obtain ⟨-, _, -, ⟨_, hrow₀, hid, -, href⟩, _, hturn, rfl⟩ := settleOutcome_ok hrun
    refine ownResult_turn hturn rfl h ?_
    intro _ hg _ hrow htarget _
    obtain ⟨o, ho, rfl⟩ := map_eq_some_iff.mp hg
    obtain rfl := hwf.row_unique hrow hrow₀ ((of_decide_eq_true htarget).1.trans hid.symm)
    simp only [StateRow.ref, OutcomeRecord.ref, EvidenceRef.mk.injEq] at href
    have hresult := (ha.2.2.2.2.2 o ho).2.1
    simp only [outcomeColumns, hresult]
    exact href.2.2.2.2.2.2.symm
  -- the rest leaves the rows alone
  | _ =>
    cases hrun
    exact h

theorem mem_insertTerminalAudits {db : DB} {fence : Fence} {pending : PendingRecord}
    {terminal : PendingTerminal} {a : AuditRow}
    (h : a ∈ (db.insertTerminalAudits fence pending terminal).audit) :
    a ∈ db.audit ∨ ∃ name ∈ terminal.kind.auditEvents, a = { terminalAudit pending terminal name with
      chainID := pending.chainID, leaseEpoch := fence.epoch } := by
  unfold insertTerminalAudits at h
  generalize terminal.kind.auditEvents = names at h ⊢
  induction names generalizing db with
  | nil => exact .inl h
  | cons name _ ih =>
    obtain hold | ⟨name', hname', rfl⟩ := ih h
    · obtain hold | hnew := mem_append.mp hold
      · exact .inl hold
      · exact .inr ⟨name, .head _, mem_singleton.mp hnew⟩
    · exact .inr ⟨name', .tail _ hname', rfl⟩

/-- Only consumptions are audited as consumptions. -/
theorem StoreCall.run_audit (ha : allowedStore S t.proc k c) (hp : t.proc ≠ cliName)
    (hrun : c.run w.db = .ok (b, db)) {a : AuditRow} (hmem : a ∈ db.audit)
    (hevent : a.event = .outcomeConsumed) :
    a ∈ w.db.audit ∨ ∃ x ∈ c.consumption, x.outcomeID = a.outcomeID ∧ x.txHash = a.txHash := by
  -- an audit of another event, next to unchanged audits
  have hother : ∀ (old : List AuditRow) (new : AuditRow), old = w.db.audit →
      db.audit = old ++ [new] → new.event ≠ .outcomeConsumed → a ∈ w.db.audit := by
    rintro _ _ rfl haudit hne
    rw [haudit] at hmem
    obtain hold | hnew := mem_append.mp hmem
    · exact hold
    · obtain rfl := mem_singleton.mp hnew
      exact absurd hevent hne
  have hturned : ∀ {db₁ : DB} {target : StateRow → Bool} {f : Option (StateRow → StateRow)} {n : Nat},
      w.db.turn target f = .ok (n, db₁) → db₁.audit = w.db.audit := by
    intro _ _ _ _ hturn
    obtain ⟨-, rfl⟩ := turn_ok hturn
    rfl
  cases c with
  | acquireLease chainID =>
    left
    simp only [StoreCall.run, Signer.acquireLease, Except.bind_eq_ok] at hrun
    obtain ⟨_, -, hrun⟩ := hrun
    have hens : (w.db.ensureLease chainID).audit = w.db.audit := by
      unfold ensureLease
      split <;> rfl
    split at hrun
    · cases hrun
      exact hens ▸ hmem
    · cases hrun
      exact hother _ _ hens rfl (by simp)
  | record =>
    obtain ⟨-, -, _, _, -, -, -, rfl⟩ := record_ok hrun
    obtain hold | hnew := mem_append.mp hmem
    · exact .inl hold
    · obtain rfl := mem_singleton.mp hnew
      cases hevent
  | markAmbiguous =>
    obtain ⟨-, _, _, hturn, rfl⟩ := markAmbiguous_ok hrun
    exact .inl (hother _ _ (hturned hturn) rfl (by simp [PendingRecord.audit]))
  | resolvePending _ _ terminal =>
    obtain ⟨-, -, _, hturn, rfl⟩ := resolvePending_ok hrun
    obtain hold | ⟨name, hname, rfl⟩ := mem_insertTerminalAudits hmem
    · exact .inl (hturned hturn ▸ hold)
    obtain rfl : name = .outcomeConsumed := hevent
    have hkind : terminal.kind = .successConsume := by
      cases hk : terminal.kind <;> simp [hk, TerminalKind.auditEvents] at hname ⊢
    exact .inr ⟨_, if_pos hkind, rfl, rfl⟩
  | consumeOutcome =>
    obtain ⟨-, -, _, hturn, rfl⟩ := consumeOutcome_ok hrun
    obtain hold | hnew := mem_append.mp hmem
    · exact .inl (hturned hturn ▸ hold)
    · obtain rfl := mem_singleton.mp hnew
      exact .inr ⟨_, rfl, rfl, rfl⟩
  | appendAudit =>
    obtain ⟨-, rfl⟩ := appendAudit_ok hrun
    exact .inl (hother _ _ rfl rfl ha)
  | manualResolvePending | manualSettleOutcome => exact absurd ha.1 hp
  | autoResolvePending =>
    obtain ⟨-, -, _, hturn, rfl⟩ := resolvePendingTo_ok hrun
    exact .inl (hother _ _ (hturned hturn) rfl ha.2.2.1)
  | autoSettleOutcome =>
    obtain ⟨-, _, -, -, _, hturn, rfl⟩ := settleOutcome_ok hrun
    exact .inl (hother _ _ (hturned hturn) rfl ha.2.2.1)
  | _ =>
    cases hrun
    exact .inl hmem

/-- A consumption ends the only row of its transaction. -/
structure Takes (w : World) (db : DB) (x : Consumption) : Prop where
  row : ∃ row ∈ w.db.state, row.txHash = x.txHash
  gone : ∀ row ∈ db.state, row.txHash ≠ x.txHash
  outcome : ∀ id, x.outcomeID = some id → ∃ s op, w.Recorded id x.txHash s op

theorem Takes.of_turn {db₁ : DB} {target : StateRow → Bool} {n : Nat} {x : Consumption} {row : StateRow}
    (hwf : w.db.WF) (hl : Ledger S w) (hturn : w.db.turn target none = .ok (n, db₁))
    (hstate : db.state = db₁.state) (hrow : row ∈ w.db.state) (ht : target row = true)
    (hhash : row.txHash = x.txHash)
    (houtcome : ∀ id, x.outcomeID = some id → ∃ s op, w.Recorded id x.txHash s op) :
    Takes w db x := by
  refine ⟨⟨row, hrow, hhash⟩, ?_, houtcome⟩
  obtain ⟨-, rfl⟩ := turn_ok hturn
  intro row' hrow' hsame
  rw [hstate] at hrow'
  obtain ⟨hold, hkept⟩ | ⟨_, -, hg, -⟩ := mem_turned.mp hrow'
  · obtain rfl := hwf.row_unique_evidence hold hrow
      ((hl.row row' hold).1.trans (hl.row row hrow).1.symm) (hsame.trans hhash.symm)
    rw [ht] at hkept
    cases hkept
  · cases hg

theorem StoreCall.run_takes (hb : Base S w) (hl : Ledger S w) (h : Reads t k w)
    (ha : allowedStore S t.proc k c) (hrun : c.run w.db = .ok (b, db)) {x : Consumption}
    (hx : x ∈ c.consumption) : Takes w db x := by
  cases c with
  | resolvePending =>
    obtain ⟨-, ⟨_, hrow, -, -, -, hid, hhash⟩, _, hturn, rfl⟩ := resolvePending_ok hrun
    simp only [StoreCall.consumption, mem_def, ite_none_right_eq_some, some.injEq] at hx
    obtain ⟨hkind, rfl⟩ := hx
    rw [if_neg (by simp [hkind])] at hturn
    exact .of_turn hb.wf hl hturn (insertTerminalAudits_sameRows ..).state hrow
      (decide_eq_true ⟨hid, hhash⟩) hhash (by simp)
  | consumeOutcome _ outcome =>
    obtain ⟨-, ⟨row, hrow, hid, hstate⟩, _, hturn, rfl⟩ := consumeOutcome_ok hrun
    cases hx
    have hrec := h.facts (.outcome outcome) ha.2.2.1
    have hhash : row.txHash = outcome.txHash :=
      hl.once _ _ _ _ _ _ _ (hid ▸ (hl.row row hrow).2) hrec
    exact .of_turn hb.wf hl hturn rfl hrow (decide_eq_true ⟨hid, hstate⟩) hhash (by
      rintro _ ⟨⟩
      exact ⟨_, _, hrec⟩)
  | _ => cases hx

end

end Signer

-- SUMMARY: The invariant of the signer's tables.
import MocaSP.Base.Table
import MocaSP.Signer.StoreSpec

/-!
# The invariant of the store

`DB.WF` says what the tables always satisfy. Its keys are enforced by the
schema; that a pending row and an outcome never name the same operation is not a
key, and holds because an outcome is only made from its scope's single pending
row and `Record` looks for outcomes first.
-/

namespace Signer
open List StoreCall Table List.Pairwise

open Except

/-- The pending row `Record` is called with mirrors its evidence. -/
def Mirrors (pending : PendingRecord) (evidence : SignedTxEvidence) : Prop :=
  pending.chainID = evidence.chainID ∧ pending.scope = evidence.scope ∧
  pending.operation = evidence.operation ∧ pending.sender = evidence.sender ∧
  pending.nonce = evidence.nonce ∧ pending.txHash = evidence.txHash

/-- The invariant of the evidence and state tables. -/
structure DB.WF (db : DB) : Prop where
  keys : uniqueKeys db.state
  rowIds : db.state.Pairwise fun a b => a.id ≠ b.id
  rowBound : ∀ r ∈ db.state, 0 < r.id ∧ r.id < db.nextState
  nextPos : 0 < db.nextState
  evidenceIds : db.signedTx.Pairwise fun a b => a.id ≠ b.id
  evidenceBound : ∀ e ∈ db.signedTx, e.id < db.nextSignedTx
  evidenceHash : db.signedTx.Pairwise fun a b => ¬ (a.chainID = b.chainID ∧ a.txHash = b.txHash)
  /-- Every row agrees with an evidence row in the columns they share. -/
  ref : ∀ r ∈ db.state, ∃ e ∈ db.signedTx, r.ref = e.ref
  /-- A pending row and an outcome of one scope are for different operations. -/
  separate : ∀ r ∈ db.state, ∀ o ∈ db.state, r.state = .pending → o.state ≠ .pending →
    r.chainID = o.chainID → r.scope = o.scope → r.operation ≠ o.operation

/-- The empty tables. -/
theorem DB.WF.empty : DB.WF {} where
  keys := nil
  rowIds := nil
  rowBound := by simp
  nextPos := by decide
  evidenceIds := nil
  evidenceBound := by simp
  evidenceHash := nil
  ref := by simp
  separate := by simp

variable {db db' : DB} {a b : StateRow} {target : StateRow → Bool} {f : Option (StateRow → StateRow)}
  {β : Type}

theorem DB.WF.of_sameRows (h : db.WF) (hs : db.SameRows db') : db'.WF := by
  obtain ⟨he, hr, hne, hnr⟩ := hs
  constructor
  · rw [hr]; exact h.keys
  · rw [hr]; exact h.rowIds
  · rw [hr, hnr]; exact h.rowBound
  · rw [hnr]; exact h.nextPos
  · rw [he]; exact h.evidenceIds
  · rw [he, hne]; exact h.evidenceBound
  · rw [he]; exact h.evidenceHash
  · rw [hr, he]; exact h.ref
  · rw [hr]; exact h.separate

/-! ## Rows by their keys -/

theorem StateRow.clashes_comm (a b : StateRow) : a.clashes b = b.clashes a := by
  unfold StateRow.clashes
  congr 1
  · rw [decide_eq_decide.mpr eq_comm, decide_eq_decide.mpr (eq_comm (a := a.scope))]
  · cases a.state <;> cases b.state <;> simp [eq_comm]

/-- Two rows of a table with unique keys that clash are the same row. -/
theorem uniqueKeys.eq_of_clashes {rows : List StateRow} (h : uniqueKeys rows) (ha : a ∈ rows)
    (hb : b ∈ rows) (hc : a.clashes b = true) : a = b := by
  refine eq_of_key h ?_ ha hb (by simp [hc])
  intro _ _ hxy
  rw [StateRow.clashes_comm, hxy]

theorem StateRow.clashes_pending (ha : a.state = .pending) (hb : b.state = .pending)
    (hchain : a.chainID = b.chainID) (hscope : a.scope = b.scope) : a.clashes b = true := by
  simp [StateRow.clashes, ha, hb, hchain, hscope]

theorem StateRow.clashes_outcome (ha : a.state ≠ .pending) (hb : b.state ≠ .pending)
    (hchain : a.chainID = b.chainID) (hscope : a.scope = b.scope) (hop : a.operation = b.operation) :
    a.clashes b = true := by
  cases hsa : a.state with
  | pending => exact absurd hsa ha
  | outcome =>
    cases hsb : b.state with
    | pending => exact absurd hsb hb
    | outcome => simp [StateRow.clashes, hsa, hsb, hchain, hscope, hop]

namespace DB.WF

variable {db : DB}

/-- The pending row of a scope. -/
theorem pending_unique (h : db.WF) (ha : a ∈ db.state) (hb : b ∈ db.state) (hap : a.state = .pending)
    (hbp : b.state = .pending) (hchain : a.chainID = b.chainID) (hscope : a.scope = b.scope) :
    a = b :=
  h.keys.eq_of_clashes ha hb (StateRow.clashes_pending hap hbp hchain hscope)

theorem row_unique (h : db.WF) (ha : a ∈ db.state) (hb : b ∈ db.state) (hid : a.id = b.id) : a = b :=
  eq_of_key h.rowIds (fun _ _ hxy => hxy.symm) ha hb (not_not.mpr hid)

theorem evidence_unique_hash (h : db.WF) {a b : SignedTxEvidence} (ha : a ∈ db.signedTx)
    (hb : b ∈ db.signedTx) (hchain : a.chainID = b.chainID) (hhash : a.txHash = b.txHash) :
    a = b := by
  refine eq_of_key h.evidenceHash ?_ ha hb (not_not.mpr ⟨hchain, hhash⟩)
  rintro _ _ hxy ⟨hc, ht⟩
  exact hxy ⟨hc.symm, ht.symm⟩

/-- One row per evidence row. -/
theorem row_unique_evidence (h : db.WF) (ha : a ∈ db.state) (hb : b ∈ db.state)
    (hchain : a.chainID = b.chainID) (hhash : a.txHash = b.txHash) : a = b := by
  obtain ⟨ea, hea, hra⟩ := h.ref a ha
  obtain ⟨eb, heb, hrb⟩ := h.ref b hb
  simp only [StateRow.ref, SignedTxEvidence.ref, EvidenceRef.mk.injEq] at hra hrb
  have he : ea = eb := h.evidence_unique_hash hea heb
    (by rw [← hra.2.1, ← hrb.2.1, hchain]) (by rw [← hra.2.2.2.2.2.2, ← hrb.2.2.2.2.2.2, hhash])
  subst he
  have hscope : a.scope = b.scope := by rw [hra.2.2.1, hrb.2.2.1]
  have hop : a.operation = b.operation := by rw [hra.2.2.2.1, hrb.2.2.2.1]
  -- the same scope and operation: both pending, both outcomes, or excluded by `separate`
  by_cases hap : a.state = .pending <;> by_cases hbp : b.state = .pending
  · exact h.pending_unique ha hb hap hbp hchain hscope
  · exact absurd hop (h.separate a ha b hb hap hbp hchain hscope)
  · exact absurd hop.symm (h.separate b hb a ha hbp hap hchain.symm hscope.symm)
  · exact h.keys.eq_of_clashes ha hb (StateRow.clashes_outcome hap hbp hchain hscope hop)

end DB.WF

/-! ## Preservation -/

/-- An update that keeps a row's identity and never makes an outcome pending. -/
def KeepsRow (g : StateRow → StateRow) : Prop :=
  ∀ r, (g r).id = r.id ∧ (g r).ref = r.ref ∧ ((g r).state = .pending → r.state = .pending)

theorem keepsRow_outcomeColumns (o : OutcomeRecord) : KeepsRow (outcomeColumns o) :=
  fun _ => ⟨rfl, rfl, fun h => by simp [outcomeColumns] at h⟩

theorem keepsRow_ambiguous (b : Bool) : KeepsRow fun r => { r with ambiguous := b } :=
  fun _ => ⟨rfl, rfl, id⟩

/-- Every row after a `turn` comes from a row with its id and reference that
was pending if it is. -/
theorem DB.turned_source {rows : List StateRow} (hf : ∀ g ∈ f, KeepsRow g) {x : StateRow}
    (hx : x ∈ turned rows target f) :
    ∃ r ∈ rows, x.id = r.id ∧ x.ref = r.ref ∧ (x.state = .pending → r.state = .pending) ∧
      (target r = false → x = r) ∧ (target r = true → ∃ g ∈ f, x = g r) := by
  obtain ⟨hx, ht⟩ | ⟨g, r, hg, hr, ht, rfl⟩ := mem_turned.mp hx
  · exact ⟨x, hx, rfl, rfl, id, fun _ => rfl, fun h => by simp [ht] at h⟩
  · obtain ⟨hid, href, hp⟩ := hf g (by simp [hg]) r
    exact ⟨r, hr, hid, href, hp, fun h => by simp [ht] at h, fun _ => ⟨g, by simp [hg], rfl⟩⟩

theorem DB.turned_ids {rows : List StateRow} (hf : ∀ g ∈ f, KeepsRow g)
    (h : rows.Pairwise fun a b => a.id ≠ b.id) :
    (turned rows target f).Pairwise fun a b => a.id ≠ b.id := by
  have hkeep : ∀ a b : StateRow, (if target a then f.map fun g => g a else some a) = some b →
      b.id = a.id := by
    intro a _ hab
    split at hab
    · obtain ⟨g, hg, rfl⟩ := Option.map_eq_some_iff.mp hab
      exact (hf g (by simp [hg]) a).1
    · cases hab
      rfl
  refine filterMap _ ?_ h
  intro a a' hne b hb b' hb'
  rw [hkeep a b hb, hkeep a' b' hb']
  exact hne

theorem DB.WF.turn (h : db.WF) (hf : ∀ g ∈ f, KeepsRow g) {n : Nat}
    (ht : db.turn target f = .ok (n, db')) : db'.WF := by
  obtain ⟨hkeys, rfl⟩ := DB.turn_ok ht
  refine { h with keys := hkeys, rowIds := turned_ids hf h.rowIds, rowBound := ?_, ref := ?_,
                  separate := ?_ }
  · intro _ hx
    obtain ⟨r, hr, hid, -⟩ := turned_source hf hx
    rw [hid]
    exact h.rowBound r hr
  · intro _ hx
    obtain ⟨r, hr, -, href, -⟩ := turned_source hf hx
    rw [href]
    exact h.ref r hr
  · intro x hx _ hy hxp hyo hchain hscope hop
    obtain ⟨r, hr, -, hxr, hxp', _, hxturn⟩ := turned_source hf hx
    obtain ⟨o, ho, -, hyo', -, hykeep, hyturn⟩ := turned_source hf hy
    simp only [StateRow.ref, EvidenceRef.mk.injEq] at hxr hyo'
    have hrp : r.state = .pending := hxp' hxp
    have hchain' : r.chainID = o.chainID := by rw [← hxr.2.1, ← hyo'.2.1, hchain]
    have hscope' : r.scope = o.scope := by rw [← hxr.2.2.1, ← hyo'.2.2.1, hscope]
    have hop' : r.operation = o.operation := by rw [← hxr.2.2.2.1, ← hyo'.2.2.2.1, hop]
    by_cases hop : o.state = .pending
    · -- the outcome was made from the scope's pending row, which `x` also comes from
      have hro : r = o := h.pending_unique hr ho hrp hop hchain' hscope'
      subst hro
      cases htr : target r with
      | false => exact hyo (by rw [hykeep htr]; exact hrp)
      | true =>
        obtain ⟨_, hg, rfl⟩ := hxturn htr
        obtain ⟨_, hg', rfl⟩ := hyturn htr
        rw [Option.mem_def] at hg hg'
        rw [hg] at hg'
        cases hg'
        exact hyo hxp
    · exact h.separate r hr o ho hrp hop hchain' hscope' hop'

/-- `Record` with a row that mirrors its evidence. -/
theorem DB.WF.record (h : db.WF) {fence : Fence} {evidence : SignedTxEvidence}
    {pending r : PendingRecord} (hm : Mirrors pending evidence)
    (hr : Signer.record fence evidence pending db = .ok (r, db')) : db'.WF := by
  obtain ⟨-, hout, db₁, _, href, hkeys, -, rfl⟩ := record_ok hr
  have hsub : ∀ e ∈ db.signedTx, e ∈ db₁.signedTx := by
    intro _ he
    obtain ⟨hsame, -⟩ | ⟨-, hnew, -⟩ := href.grown
    · rw [hsame]; exact he
    · rw [hnew]; exact mem_append_left _ he
  refine ⟨hkeys, ?_, ?_, Nat.succ_pos _, ?_, ?_, ?_, ?_, ?_⟩
  · refine pairwise_append.mpr ⟨h.rowIds, pairwise_singleton _ _, ?_⟩
    intro a ha _ hb
    rw [mem_singleton.mp hb]
    exact Nat.ne_of_lt (h.rowBound a ha).2
  · intro x hx
    obtain hx | hx := mem_append.mp hx
    · exact ⟨(h.rowBound x hx).1, Nat.lt_succ_of_lt (h.rowBound x hx).2⟩
    · rw [mem_singleton.mp hx]
      exact ⟨h.nextPos, .refl⟩
  · obtain ⟨hsame, -⟩ | ⟨-, hnew, -⟩ := href.grown
    · simpa only [hsame] using h.evidenceIds
    simp only [hnew]
    refine pairwise_append.mpr ⟨h.evidenceIds, pairwise_singleton _ _, ?_⟩
    intro a ha _ hb
    rw [mem_singleton.mp hb]
    exact Nat.ne_of_lt (h.evidenceBound a ha)
  · obtain ⟨hsame, hnext⟩ | ⟨-, hnew, hnext⟩ := href.grown
    · simpa only [hsame, hnext] using h.evidenceBound
    simp only [hnew, hnext]
    intro e he
    obtain he | he := mem_append.mp he
    · exact Nat.lt_succ_of_lt (h.evidenceBound e he)
    · rw [mem_singleton.mp he]
      exact .refl
  · obtain ⟨hsame, -⟩ | ⟨hnone, hnew, -⟩ := href.grown
    · simpa only [hsame] using h.evidenceHash
    simp only [hnew]
    refine pairwise_append.mpr ⟨h.evidenceHash, pairwise_singleton _ _, ?_⟩
    intro a ha _ hb
    rw [mem_singleton.mp hb]
    have := List.find?_eq_none.mp hnone a ha
    simpa using this
  · intro x hx
    obtain hx | hx := mem_append.mp hx
    · obtain ⟨e, he, hxe⟩ := h.ref x hx
      exact ⟨e, hsub e he, hxe⟩
    obtain ⟨e, he, hid, hsame⟩ := href.row
    obtain ⟨hmc, hms, hmo, hmf, hmn, hmt⟩ := hm
    simp only [sameEvidence, Bool.and_eq_true, decide_eq_true_eq] at hsame
    obtain ⟨⟨⟨⟨⟨⟨⟨hc, -⟩, hs⟩, ho⟩, hf⟩, hn⟩, ht⟩, -⟩ := hsame
    refine ⟨e, he, ?_⟩
    rw [mem_singleton.mp hx]
    simp only [StateRow.ref, recordedRow, SignedTxEvidence.ref, hmc, hms, hmo, hmf, hmn, hmt, hc,
      hs, ho, hf, hn, ht, hid]
  · intro x hx o ho hxp hop hchain hscope heq
    obtain ho | ho := mem_append.mp ho
    · obtain hx | hx := mem_append.mp hx
      · exact h.separate x hx o ho hxp hop hchain hscope heq
      -- `Record` found no outcome for the operation
      rw [mem_singleton.mp hx] at hchain hscope heq
      have hmem : o ∈ db.outcomeRows pending.chainID pending.scope pending.operation := by
        simp only [DB.outcomeRows, mem_filter, decide_eq_true_eq]
        exact ⟨ho, hop, hchain.symm, hscope.symm, heq.symm⟩
      rw [hout] at hmem
      simp at hmem
    · rw [mem_singleton.mp ho] at hop
      exact hop rfl

theorem acquireLease_sameRows {chainID owner : String} {ttl : Nat} {r : Nat × Bool}
    (h : acquireLease chainID owner ttl db = .ok (r, db')) : db.SameRows db' := by
  have hens : db.SameRows (db.ensureLease chainID) := by
    unfold DB.ensureLease
    split <;> exact ⟨rfl, rfl, rfl, rfl⟩
  simp only [acquireLease, bind_eq_ok] at h
  obtain ⟨_, -, h⟩ := h
  split at h
  · cases h
    exact hens
  · cases h
    exact { hens with }

theorem insertTerminalAudits_sameRows (db : DB) (fence : Fence) (pending : PendingRecord)
    (terminal : PendingTerminal) : db.SameRows (db.insertTerminalAudits fence pending terminal) := by
  unfold DB.insertTerminalAudits
  cases terminal.kind <;> exact ⟨rfl, rfl, rfl, rfl⟩

/-- A call as the signer and the CLI make it. -/
def StoreCall.AsCalled {β : Type} : StoreCall β → Prop
  | .record _ evidence pending => Mirrors pending evidence
  | _ => True

/-- A committed call that records nothing: rows are updated in place or deleted. -/
inductive RowTurn (db : DB) : DB → Prop where
  | quiet {db' : DB} (same : db.SameRows db') : RowTurn db db'
  | turn {db₁ db' : DB} {target : StateRow → Bool} {f : Option (StateRow → StateRow)} {n : Nat}
      (keeps : ∀ g ∈ f, KeepsRow g) (run : db.turn target f = .ok (n, db₁))
      (same : db₁.SameRows db') : RowTurn db db'

/-- The ways a committed call changes evidence and state rows. -/
inductive RowChange (db : DB) : DB → Prop where
  | turn {db' : DB} (turn : RowTurn db db') : RowChange db db'
  | record {db' : DB} {fence : Fence} {evidence : SignedTxEvidence} {pending r : PendingRecord}
      (mirrors : Mirrors pending evidence)
      (run : Signer.record fence evidence pending db = .ok (r, db')) : RowChange db db'

def StoreCall.isRecord {β : Type} : StoreCall β → Bool
  | .record .. => true
  | _ => false

variable {c : StoreCall β}

theorem StoreCall.run_rowTurn {b : β} (hc : c.isRecord = false) (hrun : c.run db = .ok (b, db')) :
    RowTurn db db' := by
  cases c with
  | acquireLease => exact .quiet (acquireLease_sameRows hrun)
  | record => cases hc
  | markAmbiguous =>
    obtain ⟨-, _, _, hturn, rfl⟩ := markAmbiguous_ok hrun
    exact .turn (by simp [keepsRow_ambiguous]) hturn ⟨rfl, rfl, rfl, rfl⟩
  | resolvePending _ pending terminal =>
    obtain ⟨-, -, _, hturn, rfl⟩ := resolvePending_ok hrun
    refine .turn ?_ hturn (insertTerminalAudits_sameRows ..)
    intro _ hg
    split at hg
    · cases hg
      exact fun _ => ⟨rfl, rfl, fun h => by simp [keepColumns] at h⟩
    · cases hg
  | consumeOutcome =>
    obtain ⟨-, -, _, hturn, rfl⟩ := consumeOutcome_ok hrun
    exact .turn (by simp) hturn ⟨rfl, rfl, rfl, rfl⟩
  | appendAudit =>
    obtain ⟨-, rfl⟩ := appendAudit_ok hrun
    exact .quiet ⟨rfl, rfl, rfl, rfl⟩
  | manualResolvePending | autoResolvePending =>
    obtain ⟨-, -, _, hturn, rfl⟩ := resolvePendingTo_ok hrun
    refine .turn ?_ hturn ⟨rfl, rfl, rfl, rfl⟩
    intro _ hg
    obtain ⟨_, -, rfl⟩ := Option.map_eq_some_iff.mp hg
    exact fun r => ⟨rfl, rfl, fun hp => by simp [outcomeColumns] at hp⟩
  | manualSettleOutcome | autoSettleOutcome =>
    obtain ⟨-, _, -, -, _, hturn, rfl⟩ := settleOutcome_ok hrun
    refine .turn ?_ hturn ⟨rfl, rfl, rfl, rfl⟩
    intro _ hg
    obtain ⟨o, -, rfl⟩ := Option.map_eq_some_iff.mp hg
    exact keepsRow_outcomeColumns o
  | _ =>
    cases hrun
    exact .quiet ⟨rfl, rfl, rfl, rfl⟩

theorem StoreCall.run_rowChange {b : β} (hc : c.AsCalled) (hrun : c.run db = .ok (b, db')) :
    RowChange db db' := by
  cases hrec : c.isRecord with
  | false => exact .turn (run_rowTurn hrec hrun)
  | true =>
    cases c with
    | record => exact .record hc hrun
    | _ => cases hrec

/-- What a call that records nothing leaves of the tables. -/
theorem RowTurn.rows (h : RowTurn db db') :
    db'.signedTx = db.signedTx ∧ db'.nextState = db.nextState ∧
      ∀ x ∈ db'.state, ∃ r ∈ db.state, x.id = r.id ∧ x.ref = r.ref ∧
        (x.state = .pending → r.state = .pending) := by
  cases h with
  | quiet same =>
    exact ⟨same.signedTx, same.nextState, fun x hx => ⟨x, same.state ▸ hx, rfl, rfl, id⟩⟩
  | turn keeps run same =>
    obtain ⟨-, rfl⟩ := DB.turn_ok run
    refine ⟨same.signedTx, same.nextState, fun x hx => ?_⟩
    rw [same.state] at hx
    obtain ⟨r, hr, hid, href, hp, -, -⟩ := DB.turned_source keeps hx
    exact ⟨r, hr, hid, href, hp⟩

theorem RowChange.wf (hc : RowChange db db') (h : db.WF) : db'.WF := by
  cases hc with
  | turn turn =>
    cases turn with
    | quiet same => exact h.of_sameRows same
    | turn keeps run same => exact (h.turn keeps run).of_sameRows same
  | record mirrors run => exact h.record mirrors run

/-- Evidence is only ever added. -/
theorem RowChange.evidence (hc : RowChange db db') : db.signedTx <+: db'.signedTx := by
  cases hc with
  | turn turn => exact turn.rows.1 ▸ prefix_rfl
  | record _ run =>
    obtain ⟨-, -, _, _, href, -, -, rfl⟩ := record_ok run
    obtain ⟨hsame, -⟩ | ⟨-, hnew, -⟩ := href.grown
    · simp [hsame]
    · simp [hnew]

/-! ## Runs -/

variable {r : Except StoreErr β}

/-- How a call can go: it commits and answers, it changes nothing, or it
commits and its reply is lost. -/
theorem StoreCall.exec_cases {fault : Fault} (h : c.exec fault db = some (r, db')) :
    (∃ b, r = .ok b ∧ c.run db = .ok (b, db')) ∨ (∃ e, r = .error e ∧ db' = db) ∨
      (r = .error c.lostReply ∧ ∃ b, c.run db = .ok (b, db')) := by
  unfold exec at h
  split at h
  next b _ hrun =>
    cases h
    exact .inl ⟨b, rfl, hrun⟩
  · cases h
    exact .inr (.inl ⟨_, rfl, rfl⟩)
  · cases h
    exact .inr (.inl ⟨_, rfl, rfl⟩)
  next applied b _ hrun =>
    cases h
    cases applied with
    | true => exact .inr (.inr ⟨rfl, b, hrun⟩)
    | false => exact .inr (.inl ⟨_, rfl, rfl⟩)
  · cases h

/-- A call leaves the tables alone or commits. -/
theorem StoreCall.exec_db {fault : Fault} (h : c.exec fault db = some (r, db')) :
    db' = db ∨ ∃ b, c.run db = .ok (b, db') := by
  obtain ⟨b, -, hrun⟩ | ⟨-, -, hdb⟩ | ⟨-, hrun⟩ := exec_cases h
  · exact .inr ⟨b, hrun⟩
  · exact .inl hdb
  · exact .inr hrun

/-- A step of the store: a call that goes as `fault` says, or time passing. -/
inductive StoreStep : Type 1 where
  | call {β : Type} (c : StoreCall β) (fault : Fault)
  | wait (d : Nat)

def StoreStep.AsCalled : StoreStep → Prop
  | .call c _ => c.AsCalled
  | .wait _ => True

def StoreStep.apply : StoreStep → DB → DB
  | .call c fault, db => ((c.exec fault db).map Prod.snd).getD db
  | .wait d, db => { db with now := db.now + d }

def runStore (db : DB) (steps : List StoreStep) : DB := steps.foldl (fun db s => s.apply db) db

/-- What one step does to the tables. -/
theorem StoreStep.apply_cases (s : StoreStep) (db : DB) :
    (∃ d, s.apply db = { db with now := db.now + d }) ∨
      ∃ (β : Type) (c : StoreCall β) (fault : Fault) (b : β), s = .call c fault ∧
        c.run db = .ok (b, s.apply db) := by
  cases s with
  | wait d => exact .inl ⟨d, rfl⟩
  | call c fault =>
    cases hexec : c.exec fault db with
    | none => exact .inl ⟨0, by simp [StoreStep.apply, hexec]⟩
    | some p =>
      obtain ⟨_, db'⟩ := p
      have happly : (StoreStep.call c fault).apply db = db' := by simp [StoreStep.apply, hexec]
      rw [happly]
      obtain rfl | ⟨b, hrun⟩ := exec_db hexec
      · exact .inl ⟨0, rfl⟩
      · exact .inr ⟨_, c, fault, b, rfl, hrun⟩

theorem StoreStep.apply_rowChange {s : StoreStep} (hs : s.AsCalled) (db : DB) :
    RowChange db (s.apply db) := by
  obtain ⟨_, hd⟩ | ⟨_, _, _, _, rfl, hrun⟩ := s.apply_cases db
  · rw [hd]
    exact .turn (.quiet ⟨rfl, rfl, rfl, rfl⟩)
  · exact run_rowChange hs hrun

variable {steps : List StoreStep}

theorem runStore_wf (h : db.WF) (hs : ∀ s ∈ steps, s.AsCalled) : (runStore db steps).WF := by
  induction steps generalizing db with
  | nil => exact h
  | cons s _ ih =>
    exact ih ((StoreStep.apply_rowChange (hs s (by simp)) db).wf h) fun x hx => hs x (by simp [hx])

theorem runStore_evidence (hs : ∀ s ∈ steps, s.AsCalled) :
    db.signedTx <+: (runStore db steps).signedTx := by
  induction steps generalizing db with
  | nil => exact prefix_rfl
  | cons s _ ih =>
    exact (StoreStep.apply_rowChange (hs s (by simp)) db).evidence.trans
      (ih fun x hx => hs x (by simp [hx]))

namespace DB.WF

variable {db : DB}

theorem pendingRows_le_one (h : db.WF) (chainID : String) (scope : SignType) :
    (db.pendingRows chainID scope).length ≤ 1 := by
  refine filter_length_le_one h.keys ?_
  intro _ _ ha hb
  simp only [decide_eq_true_eq] at ha hb
  obtain ⟨hap, hac, has⟩ := ha
  obtain ⟨hbp, hbc, hbs⟩ := hb
  simp [StateRow.clashes_pending hap hbp (hac.trans hbc.symm) (has.trans hbs.symm)]

theorem outcomeRows_le_one (h : db.WF) (chainID : String) (scope : SignType) (operation : Hash) :
    (db.outcomeRows chainID scope operation).length ≤ 1 := by
  refine filter_length_le_one h.keys ?_
  intro _ _ ha hb
  simp only [decide_eq_true_eq] at ha hb
  obtain ⟨hap, hac, has, hao⟩ := ha
  obtain ⟨hbp, hbc, hbs, hbo⟩ := hb
  simp [StateRow.clashes_outcome hap hbp (hac.trans hbc.symm) (has.trans hbs.symm)
    (hao.trans hbo.symm)]

theorem getSignedTx_of_row (h : db.WF) {r : StateRow} (hr : r ∈ db.state) :
    ∃ e, getSignedTx r.signedTxID db = some e ∧ r.ref = e.ref := by
  obtain ⟨e, he, href⟩ := h.ref r hr
  have hid : e.id = r.signedTxID := by
    simp only [StateRow.ref, SignedTxEvidence.ref, EvidenceRef.mk.injEq] at href
    exact href.1.symm
  cases hfind : getSignedTx r.signedTxID db with
  | none =>
    have := List.find?_eq_none.mp hfind e he
    simp [hid] at this
  | some e' =>
    have hid' : e'.id = r.signedTxID := by simpa using List.find?_some hfind
    have : e' = e := eq_of_key h.evidenceIds (fun _ _ hxy => hxy.symm) (mem_of_find?_eq_some hfind) he
      (not_not.mpr (hid'.trans hid.symm))
    subst this
    exact ⟨e', rfl, href⟩

end DB.WF

/-- Every state the tables can reach from empty, by any calls with any faults:
one pending row per scope, one outcome per operation, never both for one
operation, every row agreeing with the evidence it references, and every
evidence row ever written still there unchanged. -/
theorem store_run_invariant (steps : List StoreStep) (hs : ∀ s ∈ steps, s.AsCalled) :
    (∀ chainID scope, ((runStore {} steps).pendingRows chainID scope).length ≤ 1) ∧
    (∀ chainID scope operation,
      ((runStore {} steps).outcomeRows chainID scope operation).length ≤ 1) ∧
    (∀ chainID scope, ∀ r ∈ (runStore {} steps).pendingRows chainID scope,
      (runStore {} steps).outcomeRows chainID scope r.operation = []) ∧
    (∀ r ∈ (runStore {} steps).state,
      ∃ e, getSignedTx r.signedTxID (runStore {} steps) = some e ∧ r.ref = e.ref) ∧
    ∀ k, (runStore {} (steps.take k)).signedTx <+: (runStore {} steps).signedTx := by
  have hwf : (runStore {} steps).WF := runStore_wf DB.WF.empty hs
  refine ⟨hwf.pendingRows_le_one, hwf.outcomeRows_le_one, ?_, ?_, ?_⟩
  · intro _ _ _ hr
    rw [eq_nil_iff_forall_not_mem]
    intro _ ho
    simp only [DB.pendingRows, DB.outcomeRows, mem_filter, decide_eq_true_eq] at hr ho
    obtain ⟨hr, hrp, hrc, hrs⟩ := hr
    obtain ⟨ho, hop, hoc, hos, hoo⟩ := ho
    exact hwf.separate _ hr _ ho hrp hop (hrc.trans hoc.symm) (hrs.trans hos.symm) hoo.symm
  · intro _ hr
    exact hwf.getSignedTx_of_row hr
  intro k
  have hsplit : runStore {} steps = runStore (runStore {} (steps.take k)) (steps.drop k) := by
    simp only [runStore, ← foldl_append, take_append_drop]
  rw [hsplit]
  exact runStore_evidence fun s hd => hs s (mem_of_mem_drop hd)

/-- A transaction is recorded and kept as succeeded by a commit whose reply is lost. -/
def keptRun : List StoreStep :=
  let fence : Fence := { chainID := "moca_5151-1", owner := "a", epoch := 1 }
  let evidence : SignedTxEvidence :=
    { chainID := "moca_5151-1", evmChainID := 5151, scope := .seal, operation := 7, sender := 3,
      nonce := 0, txHash := 9, raw := [1], recordedBlock := 4 }
  let pending : PendingRecord :=
    { chainID := "moca_5151-1", scope := .seal, sender := 3, nonce := 0, txHash := 9, operation := 7 }
  [.wait 2000000, .call (.acquireLease "moca_5151-1" "a" 30000000) .none,
   .call (.record fence evidence pending) .none,
   .call (.resolvePending fence { pending with id := 1, signedTxID := 1 } { kind := .successKeep })
     (.unknown true)]

theorem store_run_invariant_kept :
    (runStore {} keptRun).state.map (fun r => (r.id, r.state)) = [(1, .outcome .succeeded)] ∧
      ((runStore {} keptRun).outcomeRows "moca_5151-1" .seal 7).length ≤ 1 := by
  refine ⟨by decide, (store_run_invariant keptRun ?_).2.1 _ _ _⟩
  simp [keptRun, StoreStep.AsCalled, StoreCall.AsCalled, Mirrors]

end Signer

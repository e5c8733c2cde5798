-- SUMMARY: The log of a run agrees with the tables.
import MocaSP.Signer.Knowledge

/-!
# The log agrees with the tables

In every run from empty tables an epoch has one owner, every row and every
transaction a signer sent was recorded, and a row id was recorded once. What a
thread knows about rows and fences is in the log, which only grows, so no other
thread can make it false.
-/

namespace Signer
open List StoreCall World OutcomeRecord

open Machine

/-- `Record` committed a row with these columns. -/
def World.Recorded (w : World) (id : Nat) (h : Hash) (scope : SignType) (operation : Hash) : Prop :=
  ∃ p e n, Event.recorded p e n id h scope operation ∈ w.log

/-- The invariant of runs from empty tables. -/
structure Ledger (S : Setup) (w : World) : Prop where
  epoch : ∀ p e, .acquired p e ∈ w.log → 0 < e ∧ e ≤ w.db.epochOf S.chainID
  owner : ∀ p q e, .acquired p e ∈ w.log → .acquired q e ∈ w.log → p = q
  held : ∀ p, (w.procs p).lease.held = true → .acquired p (w.procs p).lease.epoch ∈ w.log
  row : ∀ row ∈ w.db.state, row.chainID = S.chainID ∧
    w.Recorded row.id row.txHash row.scope row.operation
  recorded : ∀ id h s op, w.Recorded id h s op → id < w.db.nextState ∧
    ∃ e ∈ w.db.signedTx, e.chainID = S.chainID ∧ e.txHash = h ∧ e.scope = s ∧ e.operation = op
  once : ∀ id h s op h' s' op', w.Recorded id h s op → w.Recorded id h' s' op' → h = h'
  sent : ∀ f h a b, .sent (some f) h a b ∈ w.log → ∃ id s op, w.Recorded id h s op
  unknown : ∀ p s o, (w.mem p s).consumeUnknown = some o →
    w.Recorded o.id o.txHash o.scope o.operation
  /-- A stashed refusal is of a row this process recorded or read under its epoch. -/
  stash : ∀ p s r, (w.mem p s).terminalRetry = some r → r.terminal.kind.notAdmitted = true →
    w.Recorded r.pending.id r.pending.txHash r.pending.scope r.pending.operation ∧
      .acquired p r.epoch ∈ w.log

/-- A recorded row of a thread's scope, under an epoch that its process acquired. -/
def World.RowOf (w : World) (t : Tid) (scope : Option SignType) (e : Nat) (r : PendingRecord) : Prop :=
  w.Recorded r.id r.txHash r.scope r.operation ∧ scope = some r.scope ∧ .acquired t.proc e ∈ w.log

/-- What a thread's fact says of the log. -/
def Fact.InLog (t : Tid) (scope : Option SignType) (w : World) : Fact → Prop
  | .acquired e => .acquired t.proc e ∈ w.log
  | .row f r => w.RowOf t scope f.epoch r
  | .outcome o => w.Recorded o.id o.txHash o.scope o.operation
  | _ => True

def Hand.InLog (t : Tid) (scope : Option SignType) (w : World) : Hand → Prop
  | .empty => True
  | .unsent e r | .refused e r => w.RowOf t scope e r
  | .unsure e _ => .acquired t.proc e ∈ w.log

/-- What a thread knows of the log. -/
structure Reads (t : Tid) (k : View) (w : World) : Prop where
  fence : ∀ f, k.fence = some f → .acquired t.proc f.epoch ∈ w.log
  facts : ∀ x, k.facts x → x.InLog t k.scope w
  hand : k.hand.InLog t k.scope w

/-! ## What the tables and the log say of a transaction -/

variable {id : Nat} {h op : Hash} {s : SignType}

/-- A transaction is recorded for one scope. -/
theorem Ledger.recorded_unique {S : Setup} {w : World} (hb : Base S w) (hl : Ledger S w) {id' : Nat}
    {op' : Hash} {s' : SignType} (hr : w.Recorded id h s op) (hr' : w.Recorded id' h s' op') :
    s = s' := by
  obtain ⟨-, _, he, hchain, hhash, rfl, rfl⟩ := hl.recorded id h s op hr
  obtain ⟨-, _, he', hchain', hhash', rfl, rfl⟩ := hl.recorded id' h s' op' hr'
  obtain rfl := hb.wf.evidence_unique_hash he he' (hchain.trans hchain'.symm)
    (hhash.trans hhash'.symm)
  rfl

/-! ## One step -/

section
variable {S : Setup} {t : Tid} {k k' : View} {w w' : World}

theorem World.Recorded.mono (hr : w.Recorded id h s op) (hlog : ∀ x ∈ w.log, x ∈ w'.log) :
    w'.Recorded id h s op := by
  obtain ⟨p, e, n, hmem⟩ := hr
  exact ⟨p, e, n, hlog _ hmem⟩

variable {scope : Option SignType}

theorem World.RowOf.mono {e : Nat} {r : PendingRecord} (h : w.RowOf t scope e r)
    (hlog : ∀ x ∈ w.log, x ∈ w'.log) : w'.RowOf t scope e r :=
  ⟨h.1.mono hlog, h.2.1, hlog _ h.2.2⟩

theorem Reads.mono (h : Reads t k w) (hlog : ∀ x ∈ w.log, x ∈ w'.log) : Reads t k w' where
  fence f hf := hlog _ (h.fence f hf)
  facts x hx := by
    have hin := h.facts x hx
    cases x with
    | acquired => exact hlog _ hin
    | row => exact RowOf.mono hin hlog
    | outcome => exact Recorded.mono hin hlog
    | _ => trivial
  hand := by
    have hin := h.hand
    cases hhand : k.hand with rw [hhand] at hin
    | empty => trivial
    | unsent | refused => exact RowOf.mono hin hlog
    | unsure => exact hlog _ hin

/-- Any fact may be forgotten. -/
theorem Reads.of_facts (h : Reads t k w) (hfence : k'.fence = k.fence) (hscope : k'.scope = k.scope)
    (hhand : k'.hand = k.hand) (hfacts : ∀ x, k'.facts x → k.facts x ∨ x.InLog t k.scope w) :
    Reads t k' w where
  fence := hfence ▸ h.fence
  facts x hx := by
    rw [hscope]
    exact (hfacts x hx).elim (h.facts x) id
  hand := by
    rw [hhand, hscope]
    exact h.hand

theorem Reads.add (h : Reads t k w) {fs : List Fact} (hfs : ∀ x ∈ fs, x.InLog t k.scope w) :
    Reads t (k.add fs) w :=
  h.of_facts rfl rfl rfl fun x hx => hx.imp (fun h => h) (hfs x)

theorem Calm.recorded (hc : Calm w w') : w'.Recorded id h s op ↔ w.Recorded id h s op := by
  simp only [World.Recorded, hc.mem_log (x := .recorded _ _ _ _ _ _ _) rfl]

theorem Ledger.calm (hl : Ledger S w) (hc : Calm w w')
    (hheld : ∀ p, (w'.procs p).lease.held = true → .acquired p (w'.procs p).lease.epoch ∈ w.log) :
    Ledger S w' := by
  have hacq : ∀ p e, .acquired p e ∈ w'.log ↔ .acquired p e ∈ w.log := fun p e => hc.mem_log rfl
  constructor
  · intro p e he
    rw [hc.db]
    exact hl.epoch p e ((hacq p e).mp he)
  · exact fun p q e hp hq => hl.owner p q e ((hacq p e).mp hp) ((hacq q e).mp hq)
  · exact fun p hp => (hacq p _).mpr (hheld p hp)
  · intro row hrow
    rw [hc.db] at hrow
    simpa only [hc.recorded] using hl.row row hrow
  · rw [hc.db]
    simpa only [hc.recorded] using hl.recorded
  · simpa only [hc.recorded] using hl.once
  · intro f h a b hs
    simpa only [hc.recorded] using hl.sent f h a b ((hc.mem_log rfl).mp hs)
  · intro p s o ho
    rw [hc.consumeUnknown] at ho
    simpa only [hc.recorded] using hl.unknown p s o ho
  · intro p s r hr hkind
    rw [hc.terminalRetry] at hr
    simpa only [hc.recorded, hacq] using hl.stash p s r hr hkind

/-- The world after a committed call. -/
def World.commit (w : World) (db : DB) (es : List Event) : World :=
  { w with db, log := es ++ w.log }

variable {db : DB} {es : List Event} {β : Type} {p : String}

theorem World.Recorded.commit (hr : w.Recorded id h s op) : (w.commit db es).Recorded id h s op :=
  hr.mono fun _ hx => mem_append_right es hx

section
variable (hl : Ledger S w) (hmono : w.db.epochOf S.chainID ≤ db.epochOf S.chainID)
  (hepoch : ∀ p e, .acquired p e ∈ es → w.db.epochOf S.chainID < e ∧ e ≤ db.epochOf S.chainID)
  (howner : ∀ p q e, .acquired p e ∈ es → .acquired q e ∈ es → p = q) (hsent : ∀ f h a b, .sent f h a b ∉ es)
include hl hmono hepoch howner hsent

/-- What a commit has to show: its acquisitions are new and of one owner, its
rows and records agree. -/
theorem Ledger.commit (hrow : ∀ row ∈ db.state, row.chainID = S.chainID ∧
      (w.commit db es).Recorded row.id row.txHash row.scope row.operation)
    (hrecorded : ∀ id h s op, (w.commit db es).Recorded id h s op → id < db.nextState ∧
      ∃ e ∈ db.signedTx, e.chainID = S.chainID ∧ e.txHash = h ∧ e.scope = s ∧ e.operation = op)
    (honce : ∀ id h s op h' s' op', (w.commit db es).Recorded id h s op →
      (w.commit db es).Recorded id h' s' op' → h = h') : Ledger S (w.commit db es) := by
  refine ⟨?_, ?_, ?_, hrow, hrecorded, honce, ?_, ?_, ?_⟩
  · intro p e he
    obtain he | he := mem_append.mp he
    · exact ⟨Nat.zero_lt_of_lt (hepoch p e he).1, (hepoch p e he).2⟩
    · exact ⟨(hl.epoch p e he).1, Nat.le_trans (hl.epoch p e he).2 hmono⟩
  · intro p q e hp hq
    obtain hp | hp := mem_append.mp hp <;> obtain hq | hq := mem_append.mp hq
    · exact howner p q e hp hq
    · exact absurd (hl.epoch q e hq).2 (Nat.not_le_of_lt (hepoch p e hp).1)
    · exact absurd (hl.epoch p e hp).2 (Nat.not_le_of_lt (hepoch q e hq).1)
    · exact hl.owner p q e hp hq
  · exact fun p hp => mem_append_right es (hl.held p hp)
  · intro f h a b hs
    obtain hs | hs := mem_append.mp hs
    · exact absurd hs (hsent _ h a b)
    · obtain ⟨id, s, op, hr⟩ := hl.sent f h a b hs
      exact ⟨id, s, op, hr.commit⟩
  · exact fun p s o ho => (hl.unknown p s o ho).commit
  · intro p s r hr hkind
    obtain ⟨hrec, hacq⟩ := hl.stash p s r hr hkind
    exact ⟨hrec.commit, mem_append_right es hacq⟩

/-- A commit that records nothing. -/
theorem Ledger.turn (hturn : RowTurn w.db db) (hnone : ∀ p e n id h s op, .recorded p e n id h s op ∉ es) :
    Ledger S (w.commit db es) := by
  obtain ⟨hsigned, hnext, hrows⟩ := hturn.rows
  have hold : ∀ id h s op, (w.commit db es).Recorded id h s op → w.Recorded id h s op := by
    rintro id h s op ⟨p, e, n, hr⟩
    exact ⟨p, e, n, (mem_append.mp hr).resolve_left (hnone p e n id h s op)⟩
  refine hl.commit hmono hepoch howner hsent ?_ ?_ ?_
  · intro row hrow
    obtain ⟨r, hr, hid, href, -⟩ := hrows row hrow
    simp only [StateRow.ref, EvidenceRef.mk.injEq] at href
    obtain ⟨hchain, hrec⟩ := hl.row r hr
    rw [hid, href.2.1, href.2.2.1, href.2.2.2.1, href.2.2.2.2.2.2]
    exact ⟨hchain, hrec.commit⟩
  · intro id h s op hr
    rw [hsigned, hnext]
    exact hl.recorded id h s op (hold id h s op hr)
  · exact fun id h s op h' s' op' hr hr' =>
      hl.once id h s op h' s' op' (hold _ _ _ _ hr) (hold _ _ _ _ hr')

end

/-- `Record` commits. -/
theorem Ledger.record (hl : Ledger S w) (hb : Base S w) {fence : Fence} {evidence : SignedTxEvidence}
    {pending r : PendingRecord} (hchain : pending.chainID = S.chainID) (hm : Mirrors pending evidence)
    (hrun : record fence evidence pending w.db = .ok (r, db)) : Ledger S (w.commit db
      [.recorded fence.owner fence.epoch w.height r.id r.txHash r.scope r.operation]) := by
  have hwf := hb.wf.record hm hrun
  have hholder := run_holderStep (c := .record fence evidence pending) hrun
  have hins := record_inserted hrun
  have hr : r.id = w.db.nextState ∧ r.txHash = pending.txHash ∧ r.scope = pending.scope ∧
      r.operation = pending.operation := by
    rw [hins.row]
    exact ⟨rfl, rfl, rfl, rfl⟩
  -- the recorded row is the one with the next id; every other record is older
  have hcases : ∀ i h s op, (w.commit db
      [.recorded fence.owner fence.epoch w.height r.id r.txHash r.scope r.operation]).Recorded i h s op →
      (i = r.id ∧ h = r.txHash ∧ s = r.scope ∧ op = r.operation) ∨ w.Recorded i h s op := by
    rintro i h s op ⟨p, e, n, hrec⟩
    obtain hrec | hrec := mem_cons.mp hrec
    · cases hrec
      exact .inl ⟨rfl, rfl, rfl, rfl⟩
    · exact .inr ⟨p, e, n, hrec⟩
  have hnew : recordedRow fence pending r.signedTxID w.db.nextState ∈ db.state := by
    simp [hins.state]
  refine hl.commit (hholder.epochOf_le _) (by simp) (by simp) (by simp) ?_ ?_ ?_
  · intro row hrow
    rw [hins.state] at hrow
    obtain hrow | hrow := mem_append.mp hrow
    · exact ⟨(hl.row row hrow).1, (hl.row row hrow).2.commit⟩
    obtain rfl := mem_singleton.mp hrow
    refine ⟨hchain, fence.owner, fence.epoch, w.height, ?_⟩
    rw [hr.1, hr.2.1, hr.2.2.1, hr.2.2.2]
    exact .head _
  · intro i h s op hrec
    rw [hins.nextState]
    obtain ⟨rfl, rfl, rfl, rfl⟩ | hrec := hcases i h s op hrec
    · obtain ⟨e, he, href⟩ := hwf.ref _ hnew
      simp only [StateRow.ref, recordedRow, SignedTxEvidence.ref, EvidenceRef.mk.injEq] at href
      obtain ⟨-, hec, hes, heo, -, -, heh⟩ := href
      rw [hr.1, hr.2.1, hr.2.2.1, hr.2.2.2]
      exact ⟨.refl, e, he, hec.symm.trans hchain, heh.symm, hes.symm, heo.symm⟩
    · obtain ⟨hlt, e, he, hcols⟩ := hl.recorded i h s op hrec
      exact ⟨Nat.lt_succ_of_lt hlt, e, hins.evidence e he, hcols⟩
  · intro i h s op h' s' op' hrec hrec'
    have hold : ∀ i h s op, w.Recorded i h s op → i ≠ r.id := fun i h s op hrec =>
      Nat.ne_of_lt (hr.1 ▸ (hl.recorded i h s op hrec).1)
    obtain ⟨hi, rfl, -, -⟩ | hrec := hcases i h s op hrec <;>
      obtain ⟨hi', rfl, -, -⟩ | hrec' := hcases i h' s' op' hrec'
    · rfl
    · exact absurd hi (hold _ _ _ _ hrec')
    · exact absurd hi' (hold _ _ _ _ hrec)
    · exact hl.once i h s op h' s' op' hrec hrec'

theorem Ledger.store (hl : Ledger S w) (hb : Base S w) {c : StoreCall β} {b : β}
    (ha : allowedStore S t.proc k c) (hrun : c.run w.db = .ok (b, db)) :
    Ledger S (w.commit db (c.event w.height b)) := by
  have hmono := (run_holderStep hrun).epochOf_le S.chainID
  have hturn : c.isRecord = false → RowTurn w.db db := fun hc => run_rowTurn hc hrun
  cases hlogged : c.isLogged with
  | false =>
    have hrec : c.isRecord = false := by
      cases c with
      | record => cases hlogged
      | _ => rfl
    rw [event_nil hlogged]
    exact hl.turn hmono (by simp) (by simp) (by simp) (hturn hrec) (by simp)
  | true =>
    cases c with
    | acquireLease chainID =>
      obtain ⟨rfl, rfl⟩ := ha
      obtain ⟨e, acquired⟩ := b
      obtain ⟨-, hacq⟩ := acquireLease_holderStep hrun
      cases acquired with
      | false => exact hl.turn hmono nofun nofun nofun (hturn rfl) nofun
      | true =>
        obtain ⟨_, hholder⟩ := hacq rfl
        have hnow : db.epochOf S.chainID = e := by simp [DB.epochOf, hholder]
        refine hl.turn hmono (fun p x hx => ?_) (fun p q x hp hq => ?_) (by simp [event]) (hturn rfl)
          (by simp [event])
        · obtain ⟨rfl, rfl⟩ : p = t.proc ∧ x = e := by simpa [event] using hx
          omega
        · simp only [event, if_true, mem_singleton, Event.acquired.injEq] at hp hq
          rw [hp.1, hq.1]
    | record =>
      obtain ⟨-, -, -, hchain, -, -, hm⟩ := ha
      exact hl.record hb hchain hm hrun
    | resolvePending | consumeOutcome =>
      exact hl.turn hmono (by simp [event]) (by simp [event]) (by simp [event]) (hturn rfl)
        (by simp [event])
    | _ => cases hlogged

theorem Reads.setHand (h : Reads t k w) {hand : Hand} (hhand : hand.InLog t k.scope w) :
    Reads t { k with hand } w :=
  { h with hand := hhand }

theorem TerminalRetry.inLog {r : TerminalRetry} : ∀ x ∈ r.facts, x.InLog t scope w := by
  unfold TerminalRetry.facts
  split <;> simp [Fact.InLog]

theorem OutcomeRecord.inLog {o : OutcomeRecord} (hrec : w.Recorded o.id o.txHash o.scope o.operation) :
    ∀ x ∈ o.facts, x.InLog t scope w := by
  unfold facts
  split <;> simp [Fact.InLog, hrec]

/-- What a thread learns from a store call that fails, or whose answer is lost. -/
theorem Reads.learnStore_error (h : Reads t k w) {c : StoreCall β} (ha : allowedStore S t.proc k c)
    (e : StoreErr) : Reads t (learnStore k c (.error e)) w := by
  cases c with
  | record fence =>
    cases e with
    | commitUnknown => exact h.setHand (h.fence fence ha.1.1)
    | _ => exact h
  | resolvePending _ pending terminal =>
    show Reads t (if terminal.kind.notAdmitted then k.forget pending.txHash else k) w
    split
    · exact h.of_facts rfl rfl rfl fun x hx => .inl hx.1
    · exact h
  | hasAudit _ event => cases event <;> exact h
  | _ => exact h

/-- What a thread learns from a store call that answers. -/
theorem Reads.learnStore (hl : Ledger S w) (h : Reads t k w) {c : StoreCall β} {b : β}
    (ha : allowedStore S t.proc k c) (hrun : c.run w.db = .ok (b, db)) :
    Reads t (learnStore k c (.ok b)) (w.commit db (c.event w.height b)) := by
  have hk : Reads t k (w.commit db (c.event w.height b)) := h.mono fun x hx => mem_append_right _ hx
  cases c with
  | acquireLease =>
    obtain ⟨rfl, rfl⟩ := ha
    obtain ⟨_, _ | _⟩ := b
    · exact hk
    · refine hk.add fun x hx => ?_
      obtain rfl := mem_singleton.mp hx
      exact .head _
  | getPending chainID scope =>
    cases hrun
    cases hfound : getPending chainID scope w.db with
    | none => exact hk
    | some =>
      obtain ⟨row, hrow, -, -, rfl, rfl⟩ := getPending_some hfound
      have hrec : w.Recorded row.id row.txHash row.scope row.operation := (hl.row row hrow).2
      have hadd : Reads t (k.add (k.underLock row.scope (.claimable row.txHash ::
          (k.fence.map fun f => Fact.row f row.toPending).toList))) w := by
        refine h.add fun x hx => ?_
        simp only [mem_underLock, mem_cons, Option.mem_toList, Option.map_eq_some_iff] at hx
        obtain ⟨hscope, rfl | ⟨f, hf, rfl⟩⟩ := hx
        · trivial
        · exact ⟨hrec, hscope, h.fence f hf⟩
      refine Reads.mono (hadd.setHand ?_) fun x hx => mem_append_right _ hx
      split
      next hscope =>
        -- the row whose commit was unknown is seen, or the hand is as it was
        have hin := h.hand
        cases hhand : k.hand with rw [hhand] at hin
        | unsure =>
          rw [Hand.see]
          split
          · exact ⟨hrec, hscope, hin⟩
          · exact hin
        | _ => exact hin
      · exact h.hand
  | getOutcome chainID scope operation =>
    cases hrun
    cases hfound : getOutcome chainID scope operation w.db with
    | none => exact hk
    | some o =>
      obtain ⟨row, hrow, -, -, -, -, ho⟩ := getOutcome_some hfound
      have hrec : w.Recorded o.id o.txHash o.scope o.operation := by
        rw [ho]
        exact (hl.row row hrow).2
      refine Reads.mono ?_ fun x hx => mem_append_right _ hx
      exact h.add fun x hx => inLog hrec x (mem_underLock.mp hx).2
  | getSignedTxByHash => cases b <;> exact hk.add (by simp [Fact.InLog])
  | hasAudit _ event =>
    cases b <;> cases event <;> first | exact hk | exact hk.add (by simp [Fact.InLog])
  | record fence evidence pending =>
    obtain ⟨⟨hfence, hscope⟩, -⟩ := ha
    have hins := record_inserted hrun
    have hrow : (w.commit db ((StoreCall.record fence evidence pending).event w.height b)).RowOf t k.scope
        fence.epoch b :=
      ⟨⟨_, _, _, .head _⟩, by rw [hscope, hins.row], hk.fence fence hfence⟩
    exact (hk.add (by simp [Fact.InLog, hrow])).setHand hrow
  | resolvePending =>
    refine Reads.add ?_ ?_
    · split
      · exact hk.of_facts rfl rfl rfl fun x hx => .inl hx.1
      · exact hk
    · split <;> simp [Fact.InLog]
  | consumeOutcome => exact hk.add (by simp [Fact.InLog])
  | _ => exact hk

/-- A write to the memory of a scope. -/
theorem Ledger.setMem (hl : Ledger S w) {scope : SignType} {m : ScopeMem}
    (hunknown : ∀ o, m.consumeUnknown = some o → w.Recorded o.id o.txHash o.scope o.operation)
    (hstash : ∀ r, m.terminalRetry = some r → r.terminal.kind.notAdmitted = true →
      w.Recorded r.pending.id r.pending.txHash r.pending.scope r.pending.operation ∧
        .acquired p r.epoch ∈ w.log) : Ledger S (w.setMem p scope m) where
  __ := hl
  held := fun q hq => by
    rw [setMem_lease] at hq ⊢
    exact hl.held q hq
  unknown := fun q s => by
    rw [setMem_mem]
    split
    · exact hunknown
    · exact hl.unknown q s
  stash := fun q s => by
    rw [setMem_mem]
    split
    next hq =>
      rw [hq.1]
      exact hstash
    · exact hl.stash q s

theorem Ledger.send (hl : Ledger S w) {under : Option Fence} {answer : Option SendErr} {admitted : Bool}
    (hrec : under.isSome → ∃ id s op, w.Recorded id h s op) :
    Ledger S (w.logged [.sent under h answer admitted]) := by
  have hold : ∀ i h' s op, (w.logged [.sent under h answer admitted]).Recorded i h' s op ↔
      w.Recorded i h' s op := by simp [World.Recorded, logged]
  constructor
  · simpa [logged] using hl.epoch
  · simpa [logged] using hl.owner
  · simpa [logged] using hl.held
  · simp only [hold]
    exact hl.row
  · simp only [hold]
    exact hl.recorded
  · simp only [hold]
    exact hl.once
  · intro f h' a b hs
    simp only [hold]
    obtain hs | hs := mem_cons.mp hs
    · cases hs
      exact hrec rfl
    · exact hl.sent f h' a b hs
  · simp only [hold]
    exact hl.unknown
  · intro p s r hr hkind
    obtain ⟨hrec, hacq⟩ := hl.stash p s r hr hkind
    exact ⟨(hold _ _ _ _).mpr hrec, .tail _ hacq⟩

/-- Who holds a lease does not change with a process's locks. -/
theorem Ledger.held_setProc (hl : Ledger S w) {v : Proc}
    (hv : v.lease.held = true → .acquired p v.lease.epoch ∈ w.log) (q : String)
    (hq : ((w.setProc p v).procs q).lease.held = true) :
    .acquired q ((w.setProc p v).procs q).lease.epoch ∈ w.log := by
  rw [setProc_procs] at hq ⊢
  split
  next heq =>
    rw [if_pos heq] at hq
    rw [heq]
    exact hv hq
  next hne =>
    rw [if_neg hne] at hq
    exact hl.held q hq

/-- What a refusal is written from: the thread's own first send, or the stash. -/
theorem View.Justifies.refusal {epoch : Nat} {row : PendingRecord} {kind : TerminalKind}
    (h : k.Justifies epoch row kind) (hkind : kind.notAdmitted = true) :
    k.hand = .refused epoch row ∨ ∃ r u, k.mem = some (some r, u) ∧ r.pending = row ∧
      r.epoch = epoch ∧ r.terminal.kind.notAdmitted := by
  cases kind with
  | successConsume | successKeep | failed => cases hkind
  | _ => exact h

/-- A stashed refusal is the thread's own. -/
theorem View.MayStash.refused {scope : SignType} {r : TerminalRetry} (h : k.MayStash S scope r)
    (hkind : r.terminal.kind.notAdmitted = true) : k.hand = .refused r.epoch r.pending := by
  obtain ⟨hmem, -, -, hjust, -⟩ := h
  obtain hhand | ⟨_, _, hmem', -⟩ := hjust.refusal hkind
  · exact hhand
  · rw [hmem] at hmem'
    cases hmem'

theorem Reads.load (hl : Ledger S w) (h : Reads t k w) : Reads t (k.load (w.mem p s)) w := by
  unfold View.load
  split
  · exact { h with }
  refine { h.add fun x hx => ?_ with }
  obtain hx | hx := mem_append.mp hx
  · cases hr : (w.mem p s).terminalRetry with
    | none => simp [hr] at hx
    | some => exact TerminalRetry.inLog x (by simpa [hr] using hx)
  · cases ho : (w.mem p s).consumeUnknown with
    | none => simp [ho] at hx
    | some o => exact inLog (hl.unknown p s o ho) x (by simpa [ho] using hx)

theorem Reads.learnQuery (h : Reads t k w) {q : Query β} {r : β} :
    Reads t (learnQuery k q r) w := by
  have hgrows : k.Grows (Signer.learnQuery k q r) := learnQuery_grows q r
  refine h.of_facts hgrows.fence hgrows.scope (learnQuery_hand k q r) fun x hx => ?_
  refine (learnQuery_facts k q r hx).imp_right fun hchain => ?_
  cases x <;> trivial

theorem Reads.send (h : Reads t k w) (txHash : Hash) (answer : Option SendErr) :
    Reads t { k with hand := k.hand.send txHash answer } w := by
  refine h.setHand ?_
  have hin := h.hand
  cases hhand : k.hand with (rw [hhand] at hin; rw [Hand.send])
  | empty => trivial
  | unsent =>
    split
    · split
      · exact hin
      · trivial
    · exact hin
  | refused | unsure =>
    split
    · trivial
    · exact hin

theorem ledger_step {e : Cmd β} {r : β} (hb : Base S w) (hl : Ledger S w) (h : Reads t k w)
    (ha : allowed S t.proc k e) (hd : Does S t w e r w') :
    Ledger S w' ∧ Reads t (learn k e r) w' := by
  cases hd with
  | idle quiet learns =>
    rw [learns]
    refine ⟨hl.calm quiet.calm fun p hp => ?_, h.mono fun x hx => quiet.log ▸ hx⟩
    rw [(quiet.procs p).epoch]
    exact hl.held p ((quiet.procs p).held hp)
  | lock | unlock =>
    exact ⟨hl.calm (.setProc rfl) (hl.held_setProc (hl.held t.proc)),
      .mono ⟨h.fence, by rintro x ⟨⟩, trivial⟩ fun _ hx => hx⟩
  | loadMem => exact ⟨hl, h.load hl⟩
  | setTerminalRetry scope x =>
    refine ⟨hl.setMem (hl.unknown t.proc scope) ?_, ?_⟩
    · rintro r rfl hkind
      have hin := h.hand
      rw [(ha.2 r rfl).refused hkind] at hin
      exact ⟨hin.1, hin.2.2⟩
    · exact Reads.mono (h.of_facts rfl rfl rfl fun x hx => .inl hx) fun _ hx => hx
  | setConsumeUnknown scope x =>
    refine ⟨hl.setMem ?_ (hl.stash t.proc scope), ?_⟩
    · rintro o rfl
      refine h.facts (.outcome o) ((ha.2 o rfl).2.2 _ ?_)
      simp [facts, (ha.2 o rfl).2.1]
    · exact Reads.mono (h.of_facts rfl rfl rfl fun x hx => .inl hx) fun _ hx => hx
  | putAwaiting scope =>
    exact ⟨hl.setMem (hl.unknown t.proc scope) (hl.stash t.proc scope),
      Reads.mono (h.of_facts rfl rfl rfl fun x hx => .inl hx.1) fun _ hx => hx⟩
  | takeAwaiting scope operation =>
    refine ⟨hl.setMem (hl.unknown t.proc scope) (hl.stash t.proc scope), ?_⟩
    cases ((w.mem t.proc scope).awaiting.find? (·.1 = operation)).map Prod.snd with
    | none => exact h.mono fun _ hx => hx
    | some => exact Reads.mono (h.add (by simp [Fact.InLog])) fun _ hx => hx
  | setSynced _ epoch =>
    refine ⟨Ledger.calm hl (.setMem (by simp [Event.isSilent]) rfl rfl) fun p hp => ?_, ?_⟩
    · change ((w.setMem _ _ _).procs p).lease.held = true at hp
      show Event.acquired p ((w.setMem _ _ _).procs p).lease.epoch ∈ w.log
      rw [setMem_lease] at hp ⊢
      exact hl.held p hp
    · exact Reads.mono (h.of_facts rfl rfl rfl fun x hx => .inl hx) fun _ hx => .tail _ hx
  | fence _ held =>
    refine ⟨hl, { h with fence := ?_ }⟩
    intro x hx
    obtain ⟨hheld, rfl⟩ := held x hx
    exact hl.held t.proc hheld
  | setAcquired =>
    exact ⟨hl.calm (.setProc rfl) (hl.held_setProc fun _ => h.facts _ ha), h.mono fun _ hx => hx⟩
  | store _ _ hexec =>
    obtain ⟨rfl, hev, x, rfl⟩ | ⟨_, hrun, hev, hr⟩ := exec_commits w.height hexec
    · rw [hev]
      exact ⟨hl, h.learnStore_error ha x⟩
    rw [hev]
    refine ⟨hl.store hb ha hrun, ?_⟩
    obtain rfl | rfl := hr
    · exact h.learnStore hl ha hrun
    · exact Reads.mono (h.learnStore_error ha _) fun _ hx => mem_append_right _ hx
  | ask => exact ⟨hl, h.learnQuery⟩
  | send under txHash answer =>
    refine ⟨hl.send fun hsome => ?_, ?_⟩
    · obtain ⟨f, rfl⟩ := Option.isSome_iff_exists.mp hsome
      obtain ⟨_, row, -, -, hrow, rfl, -⟩ := ha
      exact ⟨_, _, _, (h.facts (.row f row) hrow).1⟩
    · cases under with
      | none => exact h.mono fun _ hx => .tail _ hx
      | some => exact Reads.mono (h.send txHash answer) fun _ hx => .tail _ hx
  | noteCleared =>
    refine ⟨hl.calm (.logged w rfl) hl.held, ?_⟩
    refine Reads.mono (w := w) { h with fence := by rintro f ⟨⟩ } fun _ hx => .tail _ hx
  | hand =>
    exact ⟨hl.calm (.logged w rfl) hl.held, Reads.mono (h.of_facts rfl rfl rfl fun x hx => .inl hx.1)
      fun _ hx => .tail _ hx⟩

end

/-! ## Every run -/

theorem ledger_sound (S : Setup) (may : Tid → Job → Bool) :
    Sound (system S may) (disciplines S) jobView always (fun w => Base S w ∧ Ledger S w)
      fun t k w => Knows S t k w ∧ Reads t k w := by
  refine (base_sound S may).extend ⟨?_, ?_, ?_⟩
  · intro _ _ _ _ _ hl hstart _
    obtain ⟨rfl, -, -, -, hfence⟩ := system_starts hstart
    refine ⟨?_, ⟨fun f hf => (hfence f hf).2.2, by rintro x ⟨⟩, trivial⟩, fun u k _ hu => ?_⟩
    · exact hl.calm ⟨⟨[], rfl, by simp⟩, rfl, .refl, fun _ _ => rfl, fun _ _ => rfl⟩ hl.held
    · exact hu.mono fun _ hx => hx
  · intro _ _ _ _ _ _ _ _ hb hl _ h ha _ hexec _ _
    have hd := exec_does hexec
    obtain ⟨hl', h'⟩ := ledger_step hb hl h ha hd
    exact ⟨hl', h', fun u k' _ _ hu => hu.mono fun _ hx => hd.log_mem hx⟩
  · intro v w _ _ hl henv
    cases henv
    have hq := v.quiet w
    refine ⟨hl.calm hq.calm fun p hp => ?_, fun u k hu => hu.mono fun x hx => hq.log ▸ hx⟩
    rw [(hq.procs p).epoch]
    exact hl.held p ((hq.procs p).held hp)

/-- The invariants hold before anything has happened. -/
theorem ledger_init (S : Setup) : Base S {} ∧ Ledger S {} := by
  refine ⟨⟨DB.WF.empty, by simp, ?_, ?_, ?_⟩, ⟨?_, ?_, ?_, by simp, ?_, ?_, ?_, ?_, ?_⟩⟩
  · rintro _ _ _ ⟨⟩
  · rintro _ _ _ ⟨⟩
  · rintro _ _ _ ⟨⟩
  · rintro _ _ ⟨⟩
  · rintro _ _ _ ⟨⟩
  · rintro _ ⟨⟩
  · rintro _ _ _ _ ⟨_, _, _, ⟨⟩⟩
  · rintro _ _ _ _ _ _ _ ⟨_, _, _, ⟨⟩⟩
  · rintro _ _ _ _ ⟨⟩
  · rintro _ _ _ ⟨⟩
  · rintro _ _ _ ⟨⟩

/-- **Write-ahead.** What is sent under a lease has its evidence stored, for an operation it carries. -/
theorem sent_stored (S : Setup) (may : Tid → Job → Bool) (c : Config Cmd Tid World)
    (hreach : (system S may).Reach always {} c) (f : Fence) (h : Hash) (err : Option SendErr)
    (admitted : Bool) (hsent : .sent (some f) h err admitted ∈ c.state.log) :
    ∃ e ∈ c.state.db.signedTx, e.txHash = h ∧ S.carries h e.operation = true := by
  obtain ⟨⟨hbase, hledger⟩, -⟩ := (ledger_sound S may).reach (ledger_init S) hreach
  obtain ⟨id, s, op, hrecorded⟩ := hledger.sent f h err admitted hsent
  obtain ⟨-, e, he, -, rfl, -⟩ := hledger.recorded id h s op hrecorded
  exact ⟨e, he, rfl, hbase.carries e he⟩

/-- `a` records the transaction 1 and sends it. -/
theorem sent_stored_at_send : ∃ c : Config Cmd Tid World,
    (system (sampleSetup fun _ => none) signersOnly).Reach always {} c ∧
      .sent (some ⟨"moca_5151-1", "a", 1⟩) 1 none true ∈ c.state.log ∧
      ∃ e ∈ c.state.db.signedTx, e.txHash = 1 ∧ (sampleSetup fun _ => none).carries 1 e.operation = true := by
  obtain ⟨c, hreach, hsent⟩ : ∃ c, (system (sampleSetup fun _ => none) signersOnly).Reach always {} c ∧
      .sent (some ⟨"moca_5151-1", "a", 1⟩) 1 none true ∈ c.state.log :=
    Reach.exists_of_run ([.env (.dbTime 2000000)] ++ acquires ⟨"a", 0⟩ ++ clears ⟨"a", 1⟩ 7 ++
      records ⟨"a", 1⟩ 1 ++ steps ⟨"a", 1⟩ [.none, .sent none true]) (by decide +kernel)
  exact ⟨c, hreach, by simpa using hsent, sent_stored _ _ c hreach _ _ _ _ (by simpa using hsent)⟩

/-- Processes that take the lease for theirs do so for different epochs. -/
theorem held_epochs_differ (S : Setup) (may : Tid → Job → Bool) (c : Config Cmd Tid World)
    (hreach : (system S may).Reach always {} c) (p q : String) (hne : p ≠ q)
    (hp : (c.state.procs p).lease.held = true) (hq : (c.state.procs q).lease.held = true) :
    (c.state.procs p).lease.epoch ≠ (c.state.procs q).lease.epoch := by
  intro heq
  obtain ⟨⟨-, hledger⟩, -⟩ := (ledger_sound S may).reach (ledger_init S) hreach
  exact hne (hledger.owner p q _ (hledger.held p hp) (heq ▸ hledger.held q hq))

/-- `b` takes the lease of `a` over when it has expired, and `a` has not looked since. -/
theorem held_epochs_differ_at_takeover : ∃ c : Config Cmd Tid World,
    (system (sampleSetup fun _ => none) signersOnly).Reach always {} c ∧
      (c.state.procs "a").lease.held = true ∧ (c.state.procs "b").lease.held = true ∧
      (c.state.procs "a").lease.epoch ≠ (c.state.procs "b").lease.epoch := by
  obtain ⟨c, hreach, ha, hb⟩ : ∃ c, (system (sampleSetup fun _ => none) signersOnly).Reach always {} c ∧
      (c.state.procs "a").lease.held = true ∧ (c.state.procs "b").lease.held = true :=
    Reach.exists_of_run ([.env (.dbTime 2000000)] ++ acquires ⟨"a", 0⟩ ++ [.env (.dbTime 40000000)] ++
      acquires ⟨"b", 1⟩) (by decide +kernel)
  exact ⟨c, hreach, ha, hb, held_epochs_differ _ _ c hreach "a" "b" (by decide) ha hb⟩

end Signer

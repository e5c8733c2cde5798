-- SUMMARY: Results are handed over at most once.
import Mathlib.Data.List.Nodup
import MocaSP.Signer.Consumption
import MocaSP.Signer.Stash

/-!
# Handing results over

A result leaves the tables when `ResolvePending` consumes it with the row or
`ConsumeOutcome` takes a kept one. The process that committed the write hands the
hash to one request: at once, or through its memory when it does not know whether
the write committed. It finds out by asking for the audit, which does not say who
wrote it.

A *claim* on a result is what a thread or the memory of a scope holds: if this
process consumed the result, nobody has been given it.
-/

namespace Signer
open List World StoreCall Option ScopeMem TerminalRetry

open Machine

/-! ## When it holds -/

def StoreCall.asksConsumed {β : Type} : StoreCall β → Option (Hash × Nat)
  | .hasAudit _ .outcomeConsumed txHash outcomeID => some (txHash, outcomeID)
  | _ => none

/-- The filters of a `HasAudit` for consumptions. -/
def Cmd.asksConsumed {β : Type} : Cmd β → Option (Hash × Nat)
  | .store c => c.asksConsumed
  | _ => none

/-- A process that asks for the audit of a consumption asks for its own, and a consumed
transaction is not recorded again. -/
def OwnConsumptions (β : Type) (t : Tid) (e : Cmd β) (w : World) : Prop :=
  (∀ x ∈ e.asksConsumed, ∀ c ∈ w.consumptions, c.Answers x.1 x.2 → c.proc = t.proc) ∧
    ∀ h ∈ e.records, ∀ c ∈ w.consumptions, c.txHash ≠ h

-- The quantifiers range over an option here, not over all hashes.
instance {β : Type} {t : Tid} {e : Cmd β} {w : World} : Decidable (OwnConsumptions β t e w) :=
  @instDecidableAnd _ _ (decidableForallMem e.asksConsumed)
    (decidableForallMem e.records)

/-! ## Claims -/

/-- The transaction was recorded in the scope. -/
def World.RecordedIn (w : World) (scope : SignType) (h : Hash) : Prop :=
  h ≠ 0 ∧ ∃ id op, w.Recorded id h scope op

/-- If the process consumed the result, nobody has been given it and it is not put aside. -/
structure Claim (p : String) (scope : SignType) (h : Hash) (w : World) : Prop where
  recorded : w.RecordedIn scope h
  free : ∀ c ∈ w.consumptions, c.proc = p → c.txHash = h →
    h ∉ w.results ∧ ∀ op, (op, h) ∉ (w.mem p scope).awaiting

/-- What the memory of a scope was observed from. -/
def ScopeMem.facts (m : ScopeMem) : List Fact :=
  (m.terminalRetry.map TerminalRetry.facts).getD [] ++
    (m.consumeUnknown.map OutcomeRecord.facts).getD []

/-- The memory of a scope holds claims only. -/
def MemClaims (p : String) (scope : SignType) (w : World) : Prop :=
  ∀ h, .claimable h ∈ (w.mem p scope).facts → Claim p scope h w

/-- The tables against the log. A row's result was not consumed, and every audit of a
consumption is of one in the log. -/
structure Taken (w : World) : Prop where
  row : ∀ row ∈ w.db.state, row.txHash ≠ 0 ∧ ∀ c ∈ w.consumptions, c.txHash ≠ row.txHash
  result : ∀ row ∈ w.db.state, row.OwnResult
  audit : ∀ a ∈ w.db.audit, a.event = .outcomeConsumed →
    ∃ c ∈ w.consumptions, c.outcomeID = a.outcomeID ∧ c.txHash = a.txHash
  outcome : ∀ c ∈ w.consumptions, ∀ id, c.outcomeID = some id → ∃ s op, w.Recorded id c.txHash s op
  single : ∀ c ∈ w.consumptions, ∀ c' ∈ w.consumptions, c.txHash = c'.txHash → c.proc = c'.proc

/-- The invariant of runs without commands of the CLI. -/
structure Handover (w : World) : Prop where
  taken : Taken w
  once : w.results.Nodup
  handed : ∀ h ∈ w.results, ∃ c ∈ w.consumptions, c.txHash = h
  /-- What is put aside was consumed and not given to anybody. -/
  awaiting : ∀ p s op h, (op, h) ∈ (w.mem p s).awaiting → w.RecordedIn s h ∧ h ∉ w.results ∧
    ∃ c ∈ w.consumptions, c.proc = p ∧ c.txHash = h
  distinct : ∀ p s, ((w.mem p s).awaiting.map Prod.snd).Nodup
  unknown : ∀ p s o, (w.mem p s).consumeUnknown = some o → 0 < o.id ∧ o.resultTxHash = o.txHash
  /-- A thread that holds the lock accounts for the memory of its scope. -/
  memory : ∀ p s, (w.procs p).locked s = none → MemClaims p s w

/-- What a fact means for a thread of process `p` that holds the lock of a scope. -/
def Fact.Backs (p : String) (scope : Option SignType) (w : World) : Fact → Prop
  | .claimable h => ∀ s, scope = some s → Claim p s h w
  | .consumed h => ∃ c ∈ w.consumptions, c.proc = p ∧ c.txHash = h
  | .audited h id => ∃ c ∈ w.consumptions, c.proc = p ∧ c.Answers h id
  | .outcome o => 0 < o.id ∧ (o.state = .succeeded → o.resultTxHash = o.txHash)
  | _ => True

structure Holds (t : Tid) (k : View) (w : World) : Prop where
  proc : t.proc ≠ cliName
  facts : ∀ x, k.facts x → x.Backs t.proc k.scope w
  memory : ∀ s, k.scope = some s → k.mem = none → MemClaims t.proc s w

/-! ## Steps that hand nothing over -/

/-- Nothing was handed over or put aside, and what was consumed had not been before. -/
structure Flows (w w' : World) : Prop where
  log : ∀ x ∈ w.log, x ∈ w'.log
  results : w'.results = w.results
  consumed : ∃ new, w'.consumptions = new ++ w.consumptions ∧
    ∀ c ∈ new, ∀ c' ∈ w.consumptions, c'.txHash ≠ c.txHash
  awaiting : ∀ p s x, x ∈ (w'.mem p s).awaiting → x ∈ (w.mem p s).awaiting

section
variable {S : Setup} {t u : Tid} {k k' : View} {w w' : World} {p : String} {s : SignType} {h : Hash}

theorem World.RecordedIn.mono (hr : w.RecordedIn s h) (hlog : ∀ x ∈ w.log, x ∈ w'.log) :
    w'.RecordedIn s h := by
  obtain ⟨hne, id, op, hrec⟩ := hr
  exact ⟨hne, id, op, hrec.mono hlog⟩

theorem Flows.consumptions (hf : Flows w w') {c : Consumption} (hc : c ∈ w.consumptions) :
    c ∈ w'.consumptions := by
  obtain ⟨new, hnew, -⟩ := hf.consumed
  rw [hnew]
  exact mem_append_right new hc

theorem Claim.flows (hi : Handover w) (hf : Flows w w') (hc : Claim p s h w) : Claim p s h w' := by
  refine ⟨hc.recorded.mono hf.log, fun c hmem hproc hhash => ?_⟩
  obtain ⟨_, hnew, hfresh⟩ := hf.consumed
  rw [hnew] at hmem
  rw [hf.results]
  obtain hmem | hmem := mem_append.mp hmem
  · -- nobody was given, or put aside, what is consumed only now
    refine ⟨fun hgiven => ?_, fun op haside => ?_⟩
    · obtain ⟨c', hc', heq⟩ := hi.handed h hgiven
      exact hfresh c hmem c' hc' (heq.trans hhash.symm)
    · obtain ⟨-, -, c', hc', -, heq⟩ := hi.awaiting p s op h (hf.awaiting p s _ haside)
      exact hfresh c hmem c' hc' (heq.trans hhash.symm)
  · obtain ⟨hgiven, haside⟩ := hc.free c hmem hproc hhash
    exact ⟨hgiven, fun op hop => haside op (hf.awaiting p s _ hop)⟩

/-- What a fact means is kept when claims are. -/
theorem Fact.Backs.mono {x : Fact} {scope : Option SignType} (hx : x.Backs p scope w)
    (hcons : ∀ c ∈ w.consumptions, c ∈ w'.consumptions)
    (hclaim : ∀ h s, scope = some s → x = .claimable h → Claim p s h w → Claim p s h w') :
    x.Backs p scope w' := by
  cases x with
  | claimable h => exact fun s hs => hclaim h s hs rfl (hx s hs)
  | consumed | audited =>
    obtain ⟨c, hc, hmatch⟩ := hx
    exact ⟨c, hcons c hc, hmatch⟩
  | outcome => exact hx
  | _ => trivial

/-- What other threads rely on. -/
structure Elsewhere (t : Tid) (k : View) (w w' : World) : Prop where
  consumptions : ∀ c ∈ w.consumptions, c ∈ w'.consumptions
  claim : ∀ p s h, ¬ (p = t.proc ∧ k.scope = some s) → Claim p s h w → Claim p s h w'
  facts : ∀ p s, ¬ (p = t.proc ∧ k.scope = some s) → (w'.mem p s).facts = (w.mem p s).facts

theorem Elsewhere.memClaims (he : Elsewhere t k w w') (hne : ¬ (p = t.proc ∧ k.scope = some s))
    (hm : MemClaims p s w) : MemClaims p s w' := by
  intro h hh
  rw [he.facts p s hne] at hh
  exact he.claim p s h hne (hm h hh)

theorem Elsewhere.holds (he : Elsewhere t k w w') (hk : Knows S t k w) (hk' : Knows S u k' w)
    (hne : u ≠ t) (hu : Holds u k' w) : Holds u k' w' := by
  have hother : ∀ s, k'.scope = some s → ¬ (u.proc = t.proc ∧ k.scope = some s) := fun s hs hsame =>
    hk.proc_ne hk' hne hsame.2 hs hsame.1
  refine ⟨hu.proc, fun x hx => ?_, fun s hs hm => he.memClaims (hother s hs) (hu.memory s hs hm)⟩
  exact (hu.facts x hx).mono he.consumptions fun h s hs _ => he.claim _ _ _ (hother s hs)

/-- Scopes that nobody has locked. -/
theorem Elsewhere.unlocked (he : Elsewhere t k w w') (hk : Knows S t k w) (hi : Handover w)
    (hfree : (w.procs p).locked s = none) : MemClaims p s w' := by
  refine he.memClaims ?_ (hi.memory p s hfree)
  rintro ⟨rfl, hs⟩
  rw [hk.lock s hs] at hfree
  cases hfree

/-- The thread itself, when it learns nothing of results. -/
theorem Holds.flows (hh : Holds t k w) (hi : Handover w) (hf : Flows w w')
    (hmem : ∀ s, k.scope = some s → k.mem = none →
      ∀ x ∈ (w'.mem t.proc s).facts, x ∈ (w.mem t.proc s).facts) : Holds t k w' := by
  refine ⟨hh.proc, fun x hx => ?_, fun s hs hm h hh' => ?_⟩
  · exact (hh.facts x hx).mono (fun _ => hf.consumptions) fun h s _ _ => Claim.flows hi hf
  · exact (hh.memory s hs hm h (hmem s hs hm _ hh')).flows hi hf

theorem Flows.elsewhere (hf : Flows w w') (hi : Handover w)
    (hfacts : ∀ p s, ¬ (p = t.proc ∧ k.scope = some s) → (w'.mem p s).facts = (w.mem p s).facts) :
    Elsewhere t k w w' :=
  ⟨fun _ => hf.consumptions, fun _ _ _ _ => Claim.flows hi hf, hfacts⟩

theorem Handover.flows (hi : Handover w) (hf : Flows w w') (htaken : Taken w')
    (hdistinct : ∀ p s, ((w'.mem p s).awaiting.map Prod.snd).Nodup)
    (hunknown : ∀ p s o, (w'.mem p s).consumeUnknown = some o → 0 < o.id ∧ o.resultTxHash = o.txHash)
    (hmemory : ∀ p s, (w'.procs p).locked s = none → MemClaims p s w') : Handover w' := by
  refine ⟨htaken, hf.results ▸ hi.once, ?_, ?_, hdistinct, hunknown, hmemory⟩
  · intro h hh
    obtain ⟨c, hc, hhash⟩ := hi.handed h (hf.results ▸ hh)
    exact ⟨c, hf.consumptions hc, hhash⟩
  · intro p s op h hop
    obtain ⟨hrec, hgiven, c, hc, hproc, hhash⟩ := hi.awaiting p s op h (hf.awaiting p s _ hop)
    exact ⟨hrec.mono hf.log, hf.results ▸ hgiven, c, hf.consumptions hc, hproc, hhash⟩

/-- Nothing of results was logged, and the tables are as they were. -/
structure Hushed (w w' : World) : Prop where
  log : ∃ es, w'.log = es ++ w.log ∧ ∀ x ∈ es, x.consumption = none ∧ x.result = none
  db : w'.db = { w.db with now := w'.db.now }

theorem Hushed.consumptions (hq : Hushed w w') : w'.consumptions = w.consumptions := by
  obtain ⟨es, hlog, hes⟩ := hq.log
  have hnone : es.filterMap Event.consumption = [] :=
    filterMap_eq_nil_iff.mpr fun x hx => (hes x hx).1
  rw [World.consumptions, hlog, filterMap_append, hnone]
  rfl

theorem Hushed.results (hq : Hushed w w') : w'.results = w.results := by
  obtain ⟨es, hlog, hes⟩ := hq.log
  have hnone : es.filterMap Event.result = [] := filterMap_eq_nil_iff.mpr fun x hx => (hes x hx).2
  rw [World.results, hlog, filterMap_append, hnone]
  rfl

theorem Hushed.mem_log (hq : Hushed w w') : ∀ x ∈ w.log, x ∈ w'.log := by
  obtain ⟨es, hlog, -⟩ := hq.log
  intro _ hx
  rw [hlog]
  exact mem_append_right es hx

theorem Hushed.flows (hq : Hushed w w')
    (hawaiting : ∀ p s x, x ∈ (w'.mem p s).awaiting → x ∈ (w.mem p s).awaiting) : Flows w w' :=
  ⟨hq.mem_log, hq.results, ⟨[], hq.consumptions, by simp⟩, hawaiting⟩

theorem Taken.hushed (ht : Taken w) (hq : Hushed w w') : Taken w' := by
  constructor
  · rw [hq.db, hq.consumptions]
    exact ht.row
  · rw [hq.db]
    exact ht.result
  · rw [hq.db, hq.consumptions]
    exact ht.audit
  · rw [hq.consumptions]
    intro c hc id hid
    obtain ⟨s, op, hrec⟩ := ht.outcome c hc id hid
    exact ⟨s, op, hrec.mono hq.mem_log⟩
  · rw [hq.consumptions]
    exact ht.single

theorem Hushed.of_eq (hlog : w'.log = w.log) (hdb : w'.db = w.db) : Hushed w w' :=
  ⟨⟨[], hlog, by simp⟩, by rw [hdb]⟩

/-- And what memory holds of results is as it was. -/
structure Still (w w' : World) : Prop extends Hushed w w' where
  terminalRetry : ∀ p s, (w'.mem p s).terminalRetry = (w.mem p s).terminalRetry
  consumeUnknown : ∀ p s, (w'.mem p s).consumeUnknown = (w.mem p s).consumeUnknown
  awaiting : ∀ p s, (w'.mem p s).awaiting = (w.mem p s).awaiting

theorem Still.of_mem (hq : Hushed w w') (h : ∀ p s, w'.mem p s = w.mem p s) : Still w w' :=
  ⟨hq, fun p s => by rw [h], fun p s => by rw [h], fun p s => by rw [h]⟩

theorem Still.refl (w : World) : Still w w := .of_mem (.of_eq rfl rfl) fun _ _ => rfl

theorem Quiet.still (h : Quiet w w') : Still w w' :=
  ⟨⟨⟨[], h.log, by simp⟩, h.db⟩, h.terminalRetry, h.consumeUnknown, h.awaiting⟩

theorem Still.setProc {v : Proc} (hv : v.mem = (w.procs p).mem) : Still w (w.setProc p v) :=
  .of_mem (.of_eq rfl rfl) fun _ _ => setProc_mem hv

variable {scope s' : SignType} {m : ScopeMem} {q : String} {h' op : Hash}

theorem Still.logged {x : Event} (hc : x.consumption = none) (hr : x.result = none) : Still w (w.logged [x]) :=
  .of_mem ⟨⟨[x], rfl, by simp [hc, hr]⟩, rfl⟩ fun _ _ => rfl

theorem Still.setMem {es : List Event} (hes : ∀ x ∈ es, x.consumption = none ∧ x.result = none)
    (hretry : m.terminalRetry = (w.mem p scope).terminalRetry)
    (hunknown : m.consumeUnknown = (w.mem p scope).consumeUnknown)
    (hawaiting : m.awaiting = (w.mem p scope).awaiting) :
    Still w ((w.setMem p scope m).logged es) := by
  have hmem : ∀ q s, ((w.setMem p scope m).logged es).mem q s =
      if q = p ∧ s = scope then m else w.mem q s := fun q s => w.setMem_mem p q scope s m
  refine ⟨⟨⟨es, rfl, hes⟩, rfl⟩, ?_, ?_, ?_⟩
  all_goals
    intro _ _
    rw [hmem]
    split
    next hat =>
      rw [hat.1, hat.2]
      assumption
    · rfl

theorem Still.facts (hm : Still w w') (p : String) (s : SignType) :
    (w'.mem p s).facts = (w.mem p s).facts := by
  simp only [ScopeMem.facts, hm.terminalRetry, hm.consumeUnknown]

theorem Still.flows (hm : Still w w') : Flows w w' :=
  hm.toHushed.flows fun p s _ hx => hm.awaiting p s ▸ hx

/-- A step that touches neither results nor the memory of them. -/
theorem Handover.same (hi : Handover w) (hm : Still w w')
    (hmemory : ∀ p s, (w'.procs p).locked s = none → MemClaims p s w) : Handover w' := by
  refine hi.flows hm.flows (hi.taken.hushed hm.toHushed) (fun p s => ?_) (fun p s o ho => ?_)
    fun p s hfree h hx => ?_
  · rw [hm.awaiting]
    exact hi.distinct p s
  · exact hi.unknown p s o (hm.consumeUnknown p s ▸ ho)
  · rw [hm.facts] at hx
    exact (hmemory p s hfree h hx).flows hi hm.flows

theorem Still.elsewhere (hm : Still w w') (hi : Handover w) : Elsewhere t k w w' :=
  hm.flows.elsewhere hi fun p s _ => hm.facts p s

theorem Holds.same (hh : Holds t k w) (hi : Handover w) (hm : Still w w') : Holds t k w' :=
  hh.flows hi hm.flows fun s _ _ _ hx => hm.facts t.proc s ▸ hx

/-- A write of a thread to the memory of its scope that puts nothing aside. -/
theorem Handover.write (hi : Handover w) (hk : Knows S t k w) (hh : Holds t k w)
    (hscope : k.scope = some scope) (hawaiting : m.awaiting.Sublist (w.mem t.proc scope).awaiting)
    (hunknown : ∀ o, m.consumeUnknown = some o → 0 < o.id ∧ o.resultTxHash = o.txHash)
    (hfacts : k.mem = none → ∀ x ∈ m.facts, x ∈ (w.mem t.proc scope).facts) :
    Handover (w.setMem t.proc scope m) ∧ Elsewhere t k w (w.setMem t.proc scope m) ∧
      Holds t k (w.setMem t.proc scope m) := by
  have hf : Flows w (w.setMem t.proc scope m) := by
    refine Hushed.flows (.of_eq rfl rfl) fun p s x hx => ?_
    rw [setMem_mem] at hx
    split at hx
    next hat =>
      rw [hat.1, hat.2]
      exact hawaiting.subset hx
    · exact hx
  have he : Elsewhere t k w (w.setMem t.proc scope m) := by
    refine hf.elsewhere hi fun p s hne => ?_
    rw [setMem_mem, if_neg]
    rintro ⟨rfl, rfl⟩
    exact hne ⟨rfl, hscope⟩
  refine ⟨hi.flows hf (hi.taken.hushed (.of_eq rfl rfl)) ?_ ?_ fun p s hfree => ?_, he,
    hh.flows hi hf fun s hs hn x hx => ?_⟩
  · intro p s
    rw [setMem_mem]
    split
    · exact (hi.distinct t.proc scope).sublist (hawaiting.map _)
    · exact hi.distinct p s
  · intro p s o ho
    rw [setMem_mem] at ho
    split at ho
    · exact hunknown o ho
    · exact hi.unknown p s o ho
  · rw [setMem_locked] at hfree
    exact he.unlocked hk hi hfree
  · obtain rfl : scope = s := by simpa [hscope] using hs
    rw [setMem_mem, if_pos ⟨rfl, rfl⟩] at hx
    exact hfacts hn x hx

/-! ## Commits -/

section
variable {β : Type} {c : StoreCall β} {b : β} {db : DB}

theorem consumptions_commit : (w.commit db (c.event w.height b)).consumptions =
    c.consumption.toList ++ w.consumptions := by
  rw [consumptions, commit, filterMap_append, event_consumption]
  rfl

theorem results_commit : (w.commit db (c.event w.height b)).results = w.results := by
  rw [results, commit, filterMap_append, event_result]
  rfl

/-- What a call consumes was not consumed before. -/
theorem Takes.fresh {x : Consumption} (hx : Takes w db x) (ht : Taken w) {c : Consumption}
    (hc : c ∈ w.consumptions) : c.txHash ≠ x.txHash := by
  obtain ⟨row, hrow, hhash⟩ := hx.row
  exact hhash ▸ (ht.row row hrow).2 c hc

theorem Flows.commit (ht : Taken w) (htakes : ∀ x ∈ c.consumption, Takes w db x) :
    Flows w (w.commit db (c.event w.height b)) := by
  refine ⟨fun x hx => mem_append_right _ hx, results_commit,
    ⟨_, consumptions_commit, fun x hx x' hx' => ?_⟩, fun p s x hx => hx⟩
  exact (htakes x (mem_toList.mp hx)).fresh ht hx'

/-- The rows after a commit come from rows before it, or were recorded. -/
theorem Taken.commit_row (ht : Taken w) (ha : allowedStore S t.proc k c)
    (hnew : ∀ h ∈ c.records, ∀ x ∈ w.consumptions, x.txHash ≠ h)
    (hrun : c.run w.db = .ok (b, db)) {row : StateRow} (hrow : row ∈ db.state) :
    row.txHash ≠ 0 ∧ ∀ x ∈ w.consumptions, x.txHash ≠ row.txHash := by
  cases hrec : c.isRecord with
  | false =>
    obtain ⟨r, hr, -, href, -⟩ := (run_rowTurn hrec hrun).rows.2.2 row hrow
    simp only [StateRow.ref, EvidenceRef.mk.injEq] at href
    rw [href.2.2.2.2.2.2]
    exact ht.row r hr
  | true =>
    cases c with
    | record _ _ pending =>
      rw [(record_inserted hrun).state] at hrow
      obtain hrow | hrow := mem_append.mp hrow
      · exact ht.row row hrow
      · obtain rfl := mem_singleton.mp hrow
        exact ⟨ha.2.2.2.2.1, hnew pending.txHash rfl⟩
    | _ => cases hrec

theorem Taken.commit (ht : Taken w) (hb : Base S w) (hp : t.proc ≠ cliName)
    (ha : allowedStore S t.proc k c) (htakes : ∀ x ∈ c.consumption, Takes w db x)
    (hnew : ∀ h ∈ c.records, ∀ x ∈ w.consumptions, x.txHash ≠ h)
    (hrun : c.run w.db = .ok (b, db)) : Taken (w.commit db (c.event w.height b)) := by
  have hcases : ∀ x ∈ (w.commit db (c.event w.height b)).consumptions,
      x ∈ c.consumption ∨ x ∈ w.consumptions := by
    intro _ hx
    rw [consumptions_commit] at hx
    exact (mem_append.mp hx).imp_left mem_toList.mp
  constructor
  · intro row hrow
    obtain ⟨hne, hold⟩ := ht.commit_row ha hnew hrun hrow
    exact ⟨hne, fun x hx => (hcases x hx).elim
      (fun hx h => (htakes x hx).gone row hrow h.symm) (hold x)⟩
  · exact run_ownResult hp hb.wf ha hrun ht.result
  · intro a hmem hevent
    rw [consumptions_commit]
    obtain hold | ⟨x, hx, hmatch⟩ := run_audit ha hp hrun hmem hevent
    · obtain ⟨x, hx, hmatch⟩ := ht.audit a hold hevent
      exact ⟨x, mem_append_right _ hx, hmatch⟩
    · exact ⟨x, mem_append_left _ (mem_toList.mpr hx), hmatch⟩
  · intro x hx id hid
    have hrec : ∃ s op, w.Recorded id x.txHash s op :=
      (hcases x hx).elim (fun hx => (htakes x hx).outcome id hid) fun hx => ht.outcome x hx id hid
    obtain ⟨s, op, hrec⟩ := hrec
    exact ⟨s, op, hrec.commit⟩
  · intro x hx x' hx' heq
    obtain hx | hx := hcases x hx <;> obtain hx' | hx' := hcases x' hx'
    · rw [mem_unique hx hx']
    · exact absurd heq.symm ((htakes x hx).fresh ht hx')
    · exact absurd heq ((htakes x' hx').fresh ht hx)
    · exact ht.single x hx x' hx' heq

/-- The result of a row in the tables is nobody's yet. -/
theorem Claim.of_row (ht : Taken w) (hl : Ledger S w) {row : StateRow} (hrow : row ∈ w.db.state) :
    Claim p row.scope row.txHash w :=
  ⟨⟨(ht.row row hrow).1, row.id, row.operation, (hl.row row hrow).2⟩,
    fun x hx _ hhash => absurd hhash ((ht.row row hrow).2 x hx)⟩

theorem Holds.add (hh : Holds t k w) {fs : List Fact}
    (hfs : ∀ x ∈ fs, x.Backs t.proc k.scope w) : Holds t (k.add fs) w :=
  ⟨hh.proc, fun x hx => hx.elim (hh.facts x) (hfs x), hh.memory⟩

/-- Facts may be forgotten, and what is known of rows may change. -/
theorem Holds.less (hh : Holds t k w) (hscope : k'.scope = k.scope)
    (hmem : k'.mem = none → k.mem = none)
    (hfacts : ∀ x, k'.facts x → k.facts x) : Holds t k' w := by
  refine ⟨hh.proc, fun x hx => ?_, fun s hs hm => ?_⟩
  · rw [hscope]
    exact hh.facts x (hfacts x hx)
  · exact hh.memory s (hscope ▸ hs) (hmem hm)

theorem OutcomeRecord.backs {o : OutcomeRecord} {scope : Option SignType}
    (ho : 0 < o.id ∧ (o.state = .succeeded → o.resultTxHash = o.txHash))
    (hclaim : ∀ s, scope = some s → Claim p s o.txHash w) : ∀ x ∈ o.facts, x.Backs p scope w := by
  unfold OutcomeRecord.facts
  intro _ hx
  split at hx
  next hstate =>
    simp only [mem_cons, not_mem_nil, or_false] at hx
    obtain rfl | rfl := hx
    · exact ho
    · intro s hs
      rw [ho.2 hstate]
      exact hclaim s hs
  · obtain rfl := mem_singleton.mp hx
    exact ho

theorem Holds.learnStore_error (hh : Holds t k w) (c : StoreCall β) (e : StoreErr) :
    Holds t (learnStore k c (.error e)) w := by
  cases c with
  | record => cases e <;> exact hh.less rfl id fun _ hx => hx
  | resolvePending _ pending terminal =>
    show Holds t (if terminal.kind.notAdmitted then k.forget pending.txHash else k) w
    split
    · exact hh.less rfl id fun _ hx => hx.1
    · exact hh
  | hasAudit _ event => cases event <;> exact hh
  | _ => exact hh

/-- What an answer of the store teaches about results. -/
theorem Holds.learnStore (hi : Handover w) (hb : Base S w) (hl : Ledger S w) (hk : Knows S t k w)
    (hh : Holds t k w) (ha : allowedStore S t.proc k c)
    (hown : OwnConsumptions _ t (.store c) w) (hrun : c.run w.db = .ok (b, db))
    (hf : Flows w (w.commit db (c.event w.height b))) :
    Holds t (Signer.learnStore k c (.ok b)) (w.commit db (c.event w.height b)) := by
  have hh' : Holds t k (w.commit db (c.event w.height b)) := hh.flows hi hf fun _ _ _ _ hx => hx
  cases c with
  | acquireLease =>
    obtain ⟨_, _ | _⟩ := b
    · exact hh'
    · exact hh'.add (by simp [Fact.Backs])
  | getPending chainID scope =>
    cases hrun
    cases hfound : Signer.getPending chainID scope w.db with
    | none => exact hh'
    | some =>
      obtain ⟨row, hrow, -, -, rfl, rfl⟩ := getPending_some hfound
      suffices hbacks : ∀ x ∈ k.underLock row.scope (.claimable row.txHash ::
          (k.fence.map fun f => Fact.row f row.toPending).toList), x.Backs t.proc k.scope w from
        Holds.less (hh.add hbacks) rfl id fun _ hx => hx
      intro _ hx
      obtain ⟨hscope, hx⟩ := mem_underLock.mp hx
      obtain rfl | hx := mem_cons.mp hx
      · intro s hs
        obtain rfl : row.scope = s := by simpa [hscope] using hs
        exact .of_row hi.taken hl hrow
      · obtain ⟨_, -, rfl⟩ := map_eq_some_iff.mp (mem_toList.mp hx)
        trivial
  | getOutcome chainID scope operation =>
    cases hrun
    cases hfound : Signer.getOutcome chainID scope operation w.db with
    | none => exact hh'
    | some =>
      obtain ⟨row, hrow, hstate, -, rfl, -, ho⟩ := getOutcome_some hfound
      refine Holds.add hh fun x hx => ?_
      obtain ⟨hscope, hx⟩ := mem_underLock.mp hx
      refine OutcomeRecord.backs ⟨?_, fun hs => ?_⟩ (fun s hs => ?_) x hx
      · rw [ho]
        exact (hb.wf.rowBound row hrow).1
      · rw [hs] at hstate
        rw [ho]
        exact hi.taken.result row hrow hstate
      · obtain rfl : row.scope = s := by simpa [hscope] using hs
        rw [ho]
        exact .of_row hi.taken hl hrow
  | getSignedTxByHash => cases b <;> exact hh'.add (by simp [Fact.Backs])
  | hasAudit chainID event txHash outcomeID =>
    cases hrun
    cases hfound : Signer.hasAudit chainID event txHash outcomeID w.db with
    | false => cases event <;> exact hh'
    | true =>
      cases event with
      | outcomeConsumed =>
        refine Holds.add hh fun x hx => ?_
        obtain rfl := mem_singleton.mp hx
        simp only [hasAudit, List.any_eq_true, decide_eq_true_eq] at hfound
        obtain ⟨a, ha, -, hevent, hhash, hid⟩ := hfound
        obtain ⟨c, hc, hcid, hchash⟩ := hi.taken.audit a ha hevent
        have hanswers : c.Answers txHash outcomeID := by
          rw [← hchash] at hhash
          rw [← hcid] at hid
          exact ⟨hhash, hid⟩
        exact ⟨c, hc, hown.1 _ rfl c hc hanswers, hanswers⟩
      | _ => exact hh'
  | record fence evidence pending =>
    obtain ⟨⟨-, hscope⟩, -, -, -, hne, -⟩ := ha
    have hins := record_inserted hrun
    have hhash : b.txHash = pending.txHash := by rw [hins.row]
    suffices hbacks : (Fact.claimable b.txHash).Backs t.proc k.scope
        (w.commit db ((StoreCall.record fence evidence pending).event w.height b)) by
      refine Holds.less (hh'.add (forall_mem_cons.mpr ⟨?_, forall_mem_singleton.mpr hbacks⟩)) rfl id
        fun _ hx => hx
      trivial
    intro s hs
    obtain rfl : b.scope = s := by
      rw [hins.row]
      simpa [hscope] using hs
    refine ⟨⟨hhash ▸ hne, b.id, b.operation, _, _, _, .head _⟩, fun x hx _ heq => ?_⟩
    exact absurd (heq.trans hhash) (hown.2 pending.txHash rfl x hx)
  | resolvePending fence pending terminal =>
    have hless : Holds t (if terminal.kind.notAdmitted then k.forget pending.txHash else k)
        (w.commit db ((StoreCall.resolvePending fence pending terminal).event w.height b)) := by
      split
      · exact hh'.less rfl id fun _ hx => hx.1
      · exact hh'
    refine hless.add fun x hx => ?_
    split at hx
    next hkind =>
      obtain rfl := mem_singleton.mp hx
      refine ⟨{ proc := fence.owner, outcomeID := none, txHash := pending.txHash }, ?_,
        (hk.fence fence ha.1.1).1, rfl⟩
      rw [consumptions_commit, StoreCall.consumption, if_pos hkind]
      exact .head _
    · cases hx
  | consumeOutcome fence outcome =>
    refine Holds.add hh' fun x hx => ?_
    obtain rfl := mem_singleton.mp hx
    obtain ⟨⟨hfence, -⟩, -, hknown, hstate⟩ := ha
    refine ⟨{ proc := fence.owner, outcomeID := some outcome.id, txHash := outcome.txHash }, ?_,
      (hk.fence fence hfence).1, ?_⟩
    · rw [consumptions_commit]
      exact .head _
    · exact ((hh.facts _ hknown).2 hstate).symm
  | _ => exact hh'

end

/-! ## Memory -/

theorem TerminalRetry.mem_facts {r : TerminalRetry} {x : Fact} (hx : x ∈ r.facts) :
    (∃ h, x = .claimable h) ∨ x.isChain = true := by
  have mem_pair {y h} (hy : x ∈ [y, .claimable h]) (hchain : y.isChain = true := by rfl) :
      (∃ h, x = .claimable h) ∨ x.isChain = true := by
    obtain rfl | hx := mem_cons.mp hy
    · exact .inr hchain
    · exact .inl ⟨h, mem_singleton.mp hx⟩
  unfold facts at hx
  split at hx
  · obtain rfl := mem_singleton.mp hx
    exact .inr rfl
  · exact mem_pair hx
  · exact mem_pair hx
  · cases hx

theorem OutcomeRecord.mem_facts {o : OutcomeRecord} {x : Fact} (hx : x ∈ o.facts) :
    (∃ h, x = .claimable h) ∨ x = .outcome o := by
  unfold OutcomeRecord.facts at hx
  split at hx
  · simp only [mem_cons, not_mem_nil, or_false] at hx
    exact hx.symm.imp_left fun h => ⟨_, h⟩
  · exact .inr (mem_singleton.mp hx)

theorem ScopeMem.mem_facts {x : Fact} : x ∈ m.facts ↔
    (∃ r, m.terminalRetry = some r ∧ x ∈ r.facts) ∨ ∃ o, m.consumeUnknown = some o ∧ x ∈ o.facts := by
  unfold facts
  cases m.terminalRetry <;> cases m.consumeUnknown <;> simp

/-- The thread that read the memory of its scope has the claims in it. -/
theorem Holds.load (hi : Handover w) (hh : Holds t k w) (hscope : k.scope = some scope) :
    Holds t (k.load (w.mem t.proc scope)) w := by
  unfold View.load
  split
  · exact hh.less rfl id fun _ hx => hx
  rename_i hnone
  have hadd : Holds t (k.add (w.mem t.proc scope).facts) w := by
    refine hh.add fun x hx => ?_
    have hclaim : ∀ h, x = .claimable h → x.Backs t.proc k.scope w := by
      rintro h rfl s hs
      obtain rfl : scope = s := by simpa [hscope] using hs
      exact hh.memory scope hscope hnone h hx
    obtain ⟨_, -, hr⟩ | ⟨o, ho, hxo⟩ := mem_facts.mp hx
    · obtain ⟨h, hx⟩ | _ := mem_facts hr
      · exact hclaim h hx
      · cases x <;> trivial
    · obtain ⟨h, hx⟩ | rfl := OutcomeRecord.mem_facts hxo
      · exact hclaim h hx
      · exact ⟨(hi.unknown t.proc scope o ho).1, fun _ => (hi.unknown t.proc scope o ho).2⟩
  exact ⟨hadd.proc, hadd.facts, by rintro s - ⟨⟩⟩

/-- The memory a thread leaves behind when it unlocks its scope. -/
theorem Holds.unlocked (hh : Holds t k w) (hk : Knows S t k w) (hscope : k.scope = some scope)
    (hbacked : k.Backed) :
    MemClaims t.proc scope w := by
  cases hmem : k.mem with
  | none => exact hh.memory scope hscope hmem
  | some m =>
    obtain ⟨stash, unknown⟩ := m
    obtain ⟨hstash, hunknown⟩ := hbacked stash unknown hmem
    obtain ⟨rfl, rfl⟩ : (w.mem t.proc scope).terminalRetry = stash ∧
        (w.mem t.proc scope).consumeUnknown = unknown := by
      simpa using hk.mem scope _ hscope hmem
    intro _ hx
    obtain ⟨r, hr, hx⟩ | ⟨o, ho, hx⟩ := mem_facts.mp hx
    · exact hh.facts _ (hstash r hr _ hx) scope hscope
    · exact hh.facts _ (hunknown o ho _ hx) scope hscope

/-! ## Handing over -/

/-- A result a thread can hand over is one its process consumed. -/
theorem Holds.canHand (hh : Holds t k w) (hi : Handover w) (hl : Ledger S w) (hr : Reads t k w)
    (hs : k.scope = some s) (hcan : k.CanHand h) :
    Claim t.proc s h w ∧ ∃ c ∈ w.consumptions, c.proc = t.proc ∧ c.txHash = h := by
  obtain ⟨hclaimable, hhow⟩ := hcan
  have hclaim : Claim t.proc s h w := hh.facts _ hclaimable s hs
  refine ⟨hclaim, ?_⟩
  obtain hconsumed | haudited | ⟨o, ho, hstate, rfl, haudited⟩ := hhow
  · exact hh.facts _ hconsumed
  · obtain ⟨c, hc, hproc, hanswers⟩ := hh.facts _ haudited
    exact ⟨c, hc, hproc, hanswers.1.resolve_left hclaim.recorded.1⟩
  obtain ⟨c, hc, hproc, hanswers⟩ := hh.facts _ haudited
  obtain ⟨hpos, hresult⟩ := hh.facts _ ho
  have hid := hanswers.2.resolve_left (Nat.ne_of_gt hpos)
  obtain ⟨_, _, hrec⟩ := hi.taken.outcome c hc o.id hid
  refine ⟨c, hc, hproc, ?_⟩
  rw [hresult hstate]
  exact hl.once _ _ _ _ _ _ _ hrec (hr.facts (.outcome o) ho)

/-- A result consumed for another scope, or by another process, is another one. -/
theorem Taken.consumed_ne (ht : Taken w) (hb : Base S w) (hl : Ledger S w) (hr : w.RecordedIn s h)
    (hr' : w.RecordedIn s' h') {x x' : Consumption} (hx : x ∈ w.consumptions) (hxp : x.proc = p) (hxh : x.txHash = h)
    (hx' : x' ∈ w.consumptions) (hxp' : x'.proc = q) (hxh' : x'.txHash = h') (hne : ¬ (q = p ∧ s' = s)) : h' ≠ h := by
  rintro rfl
  obtain ⟨-, _, _, hrec⟩ := hr
  obtain ⟨-, _, _, hrec'⟩ := hr'
  refine hne ⟨?_, hl.recorded_unique hb hrec' hrec⟩
  rw [← hxp, ← hxp']
  exact ht.single x' hx' x hx (hxh'.trans hxh.symm)

/-- A thread that gives up a result has read the memory of its scope. -/
theorem Holds.drop (hh : Holds t k w) (hmem : k.mem.isSome) (hcons : ∀ c ∈ w.consumptions, c ∈ w'.consumptions)
    (hclaim : ∀ h' s', h' ≠ h → Claim t.proc s' h' w → Claim t.proc s' h' w') : Holds t (k.drop h) w' := by
  refine ⟨hh.proc, fun x hx => (hh.facts x hx.1).mono hcons fun h' s' _ hx' => hclaim h' s' ?_,
    fun s' hs' hm => ?_⟩
  · rintro rfl
    exact hx.2 hx'
  · rw [show (k.drop h).mem = k.mem from rfl] at hm
    simp [hm] at hmem

/-- A claim on another result stays when one is handed over. -/
theorem Claim.handed (hc : Claim q s' h' w) (hne : ∀ x ∈ w.consumptions, x.proc = q → x.txHash = h' → h' ≠ h) :
    Claim q s' h' (w.logged [.handed t h]) := by
  refine ⟨hc.recorded.mono fun x hx => .tail _ hx, fun x hx hproc hhash => ?_⟩
  obtain ⟨hgiven, haside⟩ := hc.free x hx hproc hhash
  exact ⟨not_mem_cons_of_ne_of_not_mem (hne x hx hproc hhash) hgiven, haside⟩

theorem Handover.hand (hi : Handover w) (hb : Base S w) (hl : Ledger S w) (hk : Knows S t k w)
    (hh : Holds t k w) (hr : Reads t k w) (hs : k.scope = some s) (hmem : k.mem.isSome)
    (hcan : k.CanHand h) :
    Handover (w.logged [.handed t h]) ∧ Elsewhere t k w (w.logged [.handed t h]) ∧
      Holds t (k.drop h) (w.logged [.handed t h]) := by
  obtain ⟨hclaim, c, hc, hproc, hhash⟩ := hh.canHand hi hl hr hs hcan
  obtain ⟨hgiven, haside⟩ := hclaim.free c hc hproc hhash
  have hlog : ∀ x ∈ w.log, x ∈ (w.logged [.handed t h]).log := fun x hx => .tail _ hx
  have he : Elsewhere t k w (w.logged [.handed t h]) := by
    refine ⟨fun x hx => hx, fun q s' h' hne hc' => hc'.handed fun x hx hp hx' => ?_, fun _ _ _ => rfl⟩
    refine hi.taken.consumed_ne hb hl hclaim.recorded hc'.recorded hc hproc hhash hx hp hx' ?_
    rintro ⟨rfl, rfl⟩
    exact hne ⟨rfl, hs⟩
  refine ⟨⟨?_, ?_, ?_, ?_, hi.distinct, hi.unknown, fun q s' hfree => he.unlocked hk hi hfree⟩, he,
    hh.drop hmem (fun _ hx => hx) fun h' s' hne hc' => hc'.handed fun _ _ _ _ => hne⟩
  · exact ⟨hi.taken.row, hi.taken.result, hi.taken.audit, fun x hx id hid => by
      obtain ⟨s', op, hrec⟩ := hi.taken.outcome x hx id hid
      exact ⟨s', op, hrec.mono hlog⟩, hi.taken.single⟩
  · exact nodup_cons.mpr ⟨hgiven, hi.once⟩
  · intro h' hh'
    obtain rfl | hh' := mem_cons.mp hh'
    · exact ⟨c, hc, hhash⟩
    · exact hi.handed h' hh'
  · intro q s' op h' hop
    obtain ⟨hrec, hnew, x, hx, hp, hx'⟩ := hi.awaiting q s' op h' hop
    refine ⟨hrec.mono hlog, not_mem_cons_of_ne_of_not_mem ?_ hnew, x, hx, hp, hx'⟩
    rintro rfl
    refine hi.taken.consumed_ne hb hl hclaim.recorded hrec hc hproc hhash hx hp hx' ?_ rfl
    rintro ⟨rfl, rfl⟩
    exact haside op hop

theorem Claim.putAside (hc : Claim q s' h' w) (hne : q = t.proc → s' = scope → h' ≠ h) :
    Claim q s' h' (w.setMem t.proc scope { w.mem t.proc scope with
      awaiting := (op, h) :: (w.mem t.proc scope).awaiting.filter (·.1 ≠ op) }) := by
  refine ⟨hc.recorded, fun x hx hproc hhash => ?_⟩
  obtain ⟨hgiven, haside⟩ := hc.free x hx hproc hhash
  refine ⟨hgiven, fun op' hop' => ?_⟩
  rw [setMem_mem] at hop'
  split at hop'
  next hat =>
    obtain heq | hold := mem_cons.mp hop'
    · cases heq
      exact hne hat.1 hat.2 rfl
    · rw [← hat.1, ← hat.2] at hold
      exact haside op' (mem_of_mem_filter hold)
  · exact haside op' hop'

theorem Handover.putAwaiting (hi : Handover w) (hl : Ledger S w) (hk : Knows S t k w) (hh : Holds t k w)
    (hr : Reads t k w) (hs : k.scope = some scope) (hmem : k.mem.isSome) (hcan : k.CanHand h) {w' : World}
    (hw' : w' = w.setMem t.proc scope { w.mem t.proc scope with
      awaiting := (op, h) :: (w.mem t.proc scope).awaiting.filter (·.1 ≠ op) }) :
    Handover w' ∧ Elsewhere t k w w' ∧ Holds t (k.drop h) w' := by
  obtain ⟨hclaim, c, hc, hproc, hhash⟩ := hh.canHand hi hl hr hs hcan
  obtain ⟨hgiven, haside⟩ := hclaim.free c hc hproc hhash
  have hother : ∀ q s', ¬ (q = t.proc ∧ k.scope = some s') → q = t.proc → s' ≠ scope := by
    rintro _ _ hne hq rfl
    exact hne ⟨hq, hs⟩
  have he : Elsewhere t k w w' := by
    refine ⟨fun x hx => hw' ▸ hx, fun q s' h' hne hc' => ?_, fun q s' hne => ?_⟩
    · rw [hw']
      exact hc'.putAside fun hq hs' => absurd hs' (hother q s' hne hq)
    · rw [hw', setMem_mem, if_neg]
      exact fun hat => hother q s' hne hat.1 hat.2
  have haw : ∀ q s' op' h', (op', h') ∈ (w'.mem q s').awaiting →
      (q = t.proc ∧ s' = scope ∧ h' = h) ∨ (op', h') ∈ (w.mem q s').awaiting := by
    intro _ _ _ _ hop
    rw [hw', setMem_mem] at hop
    split at hop
    next hat =>
      rw [hat.1, hat.2]
      obtain heq | hold := mem_cons.mp hop
      · cases heq
        exact .inl ⟨rfl, rfl, rfl⟩
      · exact .inr (mem_of_mem_filter hold)
    · exact .inr hop
  refine ⟨⟨hi.taken.hushed (hw' ▸ .of_eq rfl rfl), hw' ▸ hi.once, hw' ▸ hi.handed, ?_, ?_, ?_, ?_⟩, he,
    hh.drop hmem (fun _ hx => hw' ▸ hx) fun h' s' hne hc' => hw' ▸ hc'.putAside fun _ _ => hne⟩
  · intro q s' op' h' hop
    obtain ⟨rfl, rfl, rfl⟩ | hold := haw q s' op' h' hop
    · rw [hw']
      exact ⟨hclaim.recorded, hgiven, c, hc, hproc, hhash⟩
    · rw [hw']
      exact hi.awaiting q s' op' h' hold
  · intro q s'
    rw [hw', setMem_mem]
    split
    · refine nodup_cons.mpr ⟨fun hin => ?_, (hi.distinct t.proc scope).sublist
        (filter_sublist.map _)⟩
      obtain ⟨⟨op', _⟩, hold, rfl⟩ := mem_map.mp hin
      exact haside op' (mem_of_mem_filter hold)
    · exact hi.distinct q s'
  · intro q s' o ho
    rw [hw', setMem_mem] at ho
    split at ho
    · exact hi.unknown t.proc scope o ho
    · exact hi.unknown q s' o ho
  · intro _ _ hfree
    rw [hw', setMem_locked] at hfree
    exact he.unlocked hk hi hfree

/-- What was put aside for an operation is the thread's that takes it. -/
theorem Handover.takeAwaiting (hi : Handover w) {op' : Hash} {w' : World}
    (hw' : w' = w.setMem t.proc scope { w.mem t.proc scope with
      awaiting := (w.mem t.proc scope).awaiting.filter (·.1 ≠ op) })
    (hfound : (w.mem t.proc scope).awaiting.find? (·.1 = op) = some (op', h)) :
    Claim t.proc scope h w' ∧ ∃ c ∈ w'.consumptions, c.proc = t.proc ∧ c.txHash = h := by
  have hin := mem_of_find?_eq_some hfound
  obtain ⟨hrec, hgiven, hconsumed⟩ := hi.awaiting t.proc scope op' h hin
  refine ⟨⟨hw' ▸ hrec, fun x hx _ _ => ⟨hw' ▸ hgiven, fun op'' hop => ?_⟩⟩, hw' ▸ hconsumed⟩
  rw [hw', setMem_mem, if_pos ⟨rfl, rfl⟩] at hop
  obtain ⟨hold, hkept⟩ := mem_filter.mp hop
  -- the entry that was found is the only one with this result
  have heq : (op'', h) = (op', h) := inj_on_of_nodup_map (hi.distinct t.proc scope) hold hin rfl
  cases heq
  have : op' = op := by simpa using List.find?_some hfound
  simp [this] at hkept

/-! ## One step -/

/-- A thread that starts anew knows nothing of results. -/
theorem Holds.fresh (hp : t.proc ≠ cliName) (k : View) : Holds t { fence := k.fence } w :=
  ⟨hp, by rintro x ⟨⟩, by rintro s ⟨⟩⟩

theorem handover_step {β : Type} {e : Cmd β} {r : β} (hb : Base S w) (hl : Ledger S w)
    (hi : Handover w) (hk : Knows S t k w) (hr : Reads t k w) (hh : Holds t k w)
    (ha : allowed S t.proc k e) (hown : OwnConsumptions β t e w) (hd : Does S t w e r w') :
    Handover w' ∧ Elsewhere t k w w' ∧ Holds t (learn k e r) w' := by
  -- calls that leave results and the memory of them alone, and teach nothing about them
  have hsame : Still w w' → (∀ p s, (w'.procs p).locked s = none → (w.procs p).locked s = none) →
      (learn k e r).scope = k.scope → (learn k e r).mem = k.mem →
      (∀ x, (learn k e r).facts x → k.facts x ∨ x.isChain = true) →
      Handover w' ∧ Elsewhere t k w w' ∧ Holds t (learn k e r) w' := by
    intro hm hlocked hscope hmem hfacts
    have hh' : Holds t k w' := hh.same hi hm
    refine ⟨hi.same hm fun p s hfree => hi.memory p s (hlocked p s hfree), hm.elsewhere hi, hh'.proc,
      fun x hx => ?_, fun s hs hn => hh'.memory s (hscope ▸ hs) (hmem ▸ hn)⟩
    rw [hscope]
    obtain hold | _ := hfacts x hx
    · exact hh'.facts x hold
    · cases x <;> trivial
  cases hd with
  | idle quiet learns =>
    refine hsame quiet.still (fun p s => ?_) (by rw [learns]) (by rw [learns]) (fun x hx => ?_)
    · rw [quiet.locked]
      exact id
    · rw [learns] at hx
      exact .inl hx
  | lock scope free =>
    have hm := Still.setProc (w := w) (v := { w.procs t.proc with
      locked := fun s => if s = scope then some t.num else (w.procs t.proc).locked s }) rfl
    refine ⟨hi.same hm fun p s hfree => hi.memory p s ?_, hm.elsewhere hi, hh.proc, by rintro x ⟨⟩, ?_⟩
    · rw [setProc_procs] at hfree
      split at hfree
      next hp =>
        simp only at hfree
        split at hfree
        · cases hfree
        · exact hp ▸ hfree
      · exact hfree
    · rintro _ ⟨⟩ -
      intro h hx
      rw [hm.facts] at hx
      exact (hi.memory t.proc scope free h hx).flows hi hm.flows
  | unlock scope =>
    obtain ⟨hscope, hbacked⟩ := ha
    have hm := Still.setProc (w := w) (v := { w.procs t.proc with
      locked := fun s => if s = scope then none else (w.procs t.proc).locked s }) rfl
    refine ⟨hi.same hm fun p s hfree => ?_, hm.elsewhere hi, .fresh hh.proc k⟩
    by_cases hat : p = t.proc ∧ s = scope
    · obtain ⟨rfl, rfl⟩ := hat
      exact hh.unlocked hk hscope hbacked
    refine hi.memory p s ?_
    rw [setProc_procs] at hfree
    split at hfree
    next hp =>
      simp only at hfree
      rw [if_neg fun hs => hat ⟨hp, hs⟩] at hfree
      rw [hp]
      exact hfree
    · exact hfree
  | loadMem => exact ⟨hi, (Still.refl w).elsewhere hi, hh.load hi ha⟩
  | setTerminalRetry scope x =>
    obtain ⟨hscope, hstash⟩ := ha
    obtain ⟨hi', he, hh'⟩ := hi.write hk hh (m := { w.mem t.proc scope with terminalRetry := x }) hscope
      (List.Sublist.refl _) (fun o ho => hi.unknown t.proc scope o ho) fun hn y hy => by
        -- nothing is stashed before the memory was read
        obtain ⟨r, hr, -⟩ | hy := mem_facts.mp hy
        · simpa [hn] using (hstash r hr).1
        · exact mem_facts.mpr (.inr hy)
    exact ⟨hi', he, hh'.less rfl map_eq_none_iff.mp fun _ hx => hx⟩
  | setConsumeUnknown scope x =>
    obtain ⟨hscope, hunknown⟩ := ha
    have hknown : ∀ o, x = some o → 0 < o.id ∧ o.resultTxHash = o.txHash := by
      intro o ho
      obtain ⟨-, hstate, hfacts⟩ := hunknown o ho
      have hbacks := hh.facts (.outcome o) (hfacts _ (by simp [OutcomeRecord.facts, hstate]))
      exact ⟨hbacks.1, hbacks.2 hstate⟩
    obtain ⟨hi', he, hh'⟩ := hi.write hk hh (m := { w.mem t.proc scope with consumeUnknown := x }) hscope
      (List.Sublist.refl _) hknown fun hn y hy => by
        obtain hy | ⟨o, ho, -⟩ := mem_facts.mp hy
        · exact mem_facts.mpr (.inl hy)
        · simpa [hn] using (hunknown o ho).1
    exact ⟨hi', he, hh'.less rfl map_eq_none_iff.mp fun _ hx => hx⟩
  | putAwaiting =>
    obtain ⟨hscope, hmem, hcan⟩ := ha
    exact hi.putAwaiting hl hk hh hr hscope hmem hcan rfl
  | takeAwaiting scope operation =>
    obtain ⟨hi', he, hh'⟩ := hi.write hk hh (m := { w.mem t.proc scope with
      awaiting := (w.mem t.proc scope).awaiting.filter (·.1 ≠ operation) }) ha filter_sublist
      (fun o ho => hi.unknown t.proc scope o ho) fun _ _ hy => hy
    refine ⟨hi', he, ?_⟩
    cases hfound : (w.mem t.proc scope).awaiting.find? (·.1 = operation) with
    | none => exact hh'
    | some =>
      obtain ⟨hclaim, hconsumed⟩ := hi.takeAwaiting rfl hfound
      refine hh'.add (forall_mem_cons.mpr ⟨fun s hs => ?_, forall_mem_singleton.mpr hconsumed⟩)
      obtain rfl : scope = s := by simpa [show k.scope = some scope from ha] using hs
      exact hclaim
  | setSynced =>
    refine hsame (.setMem (by simp [Event.consumption, Event.result]) rfl rfl rfl)
      (fun p s hfree => ?_) rfl rfl fun _ hx => .inl hx
    change ((w.setMem _ _ _).procs p).locked s = none at hfree
    rwa [setMem_locked] at hfree
  | fence => exact hsame (.refl w) (fun _ _ h => h) rfl rfl fun _ hx => .inl hx
  | setAcquired =>
    refine hsame (.setProc rfl) (fun p s hfree => ?_) rfl rfl fun _ hx => .inl hx
    rw [setProc_procs] at hfree
    split at hfree
    next hp => exact hp ▸ hfree
    · exact hfree
  | store c _ hexec =>
    obtain ⟨rfl, hev, x, rfl⟩ | ⟨b, hrun, hev, hres⟩ := exec_commits w.height hexec
    · rw [hev]
      exact ⟨hi, (Still.refl w).elsewhere hi, hh.learnStore_error c x⟩
    rw [hev]
    have htakes : ∀ x ∈ c.consumption, Takes w _ x := fun x hx => run_takes hb hl hr ha hrun hx
    have hf := Flows.commit (b := b) hi.taken htakes
    have he : Elsewhere t k w _ := hf.elsewhere hi fun _ _ _ => rfl
    refine ⟨hi.flows hf (hi.taken.commit hb hh.proc ha htakes hown.2 hrun) hi.distinct hi.unknown
      fun p s hfree => he.unlocked hk hi hfree, he, ?_⟩
    obtain rfl | rfl := hres
    · exact hh.learnStore hi hb hl hk ha hown hrun hf
    · exact Holds.learnStore_error (hh.flows hi hf fun _ _ _ _ hx => hx) c _
  | ask q =>
    exact hsame (.refl w) (fun _ _ h => h) (learnQuery_grows q r).scope
      (learnQuery_grows q r).mem fun x hx => learnQuery_facts k q r hx
  | send under =>
    refine hsame (.logged rfl rfl) (fun _ _ h => h) ?_ ?_ ?_
    all_goals cases under
    · rfl
    · rfl
    · rfl
    · rfl
    · exact fun _ hx => .inl hx
    · exact fun _ hx => .inl hx
  | noteCleared => exact hsame (.logged rfl rfl) (fun _ _ h => h) rfl rfl fun _ hx => .inl hx
  | hand =>
    obtain ⟨hsome, hmem, hcan⟩ := ha
    obtain ⟨_, hscope⟩ := isSome_iff_exists.mp hsome
    exact hi.hand hb hl hk hh hr hscope (by simp [hmem]) hcan

end

/-! ## Every run -/

theorem handover_sound (S : Setup) :
    Sound (system S signersOnly) (disciplines S) jobView OwnConsumptions
      (fun w => (Base S w ∧ Ledger S w) ∧ Handover w)
      fun t k w => (Knows S t k w ∧ Reads t k w) ∧ Holds t k w := by
  refine (ledger_sound S signersOnly).extend ⟨?_, ?_, ?_⟩
  · intro t j w _ _ hi hstart _
    have hs := system_starts hstart
    obtain ⟨rfl, -, hmay, hcommand, -⟩ := hs
    have hproc : t.proc ≠ cliName := by
      intro h
      rw [signersOnly, hcommand.mpr h] at hmay
      cases hmay
    have hm : Still w { w with nextThread := w.nextThread + 1 } := .of_mem (.of_eq rfl rfl) fun _ _ => rfl
    exact ⟨hi.same hm hi.memory, .fresh hproc j.view, fun u k _ hu => hu.same hi hm⟩
  · intro _ _ _ _ _ _ _ _ hinv hi hrel hh ha hown hexec _ _
    obtain ⟨hi', he, hh'⟩ := handover_step hinv.1 hinv.2 hi hrel.1 hrel.2 hh ha hown (exec_does hexec)
    exact ⟨hi', hh', fun u k' hne hu => he.holds hrel.1 hu.1 hne⟩
  · intro v w _ _ hi henv
    cases henv
    have hm := (v.quiet w).still
    refine ⟨hi.same hm fun p s hfree => hi.memory p s ?_, fun u k hu => hu.same hi hm⟩
    rwa [(v.quiet w).locked] at hfree

theorem handover_init : Handover {} := by
  refine ⟨⟨?_, ?_, ?_, ?_, ?_⟩, .nil, ?_, ?_, fun _ _ => .nil, ?_, ?_⟩
  · rintro _ ⟨⟩
  · rintro _ ⟨⟩
  · rintro _ ⟨⟩
  · rintro _ ⟨⟩
  · rintro _ ⟨⟩
  · rintro _ ⟨⟩
  · rintro _ _ _ _ ⟨⟩
  · rintro _ _ _ ⟨⟩
  · rintro _ _ - _ ⟨⟩

/-- **At most once.** No result is the answer of two requests. -/
theorem results_handed_once (S : Setup) (c : Config Cmd Tid World)
    (h : (system S signersOnly).Reach OwnConsumptions {} c) : c.state.results.Nodup :=
  ((handover_sound S).reach ⟨ledger_init S, handover_init⟩ h).1.2.once

/-- `a` records and sends the transaction 1 and does not learn whether its write
that it succeeded committed. -/
def losesReply : List Act :=
  [.env (.dbTime 2000000), .env (.height 6)] ++ acquires ⟨"a", 0⟩ ++ clears ⟨"a", 1⟩ 7 ++
    records ⟨"a", 1⟩ 1 ++ steps ⟨"a", 1⟩
      [.none, .sent none true, .flag false, successReceipt, .fault (.unknown true), .fault .none,
       .fault .none, .none, .none, .none, .none]

/-- Another request of `a` for the operation is signed anew. -/
def signsAgain : List Act :=
  (.start ⟨"a", 2⟩ (.request .seal 7) :: steps ⟨"a", 2⟩
      [.none, .none, .none, .none, .none, .fault .none, .fault .none, .none, .none]) ++
    records ⟨"a", 2⟩ 17 ++ steps ⟨"a", 2⟩
      [.none, .sent none true, .flag false, successReceipt, .fault .none, .none, .none, .none, .none]

theorem results_handed_once_sample : ∃ c : Config Cmd Tid World,
    (system succeededSetup signersOnly).Reach OwnConsumptions {} c ∧ c.state.results = [17, 1] ∧
      c.state.results.Nodup := by
  obtain ⟨c, hreach, hresults⟩ : ∃ c, (system succeededSetup signersOnly).Reach OwnConsumptions {} c ∧
      c.state.results = [17, 1] := Reach.exists_of_run (losesReply ++ signsAgain) (by decide +kernel)
  exact ⟨c, hreach, hresults, results_handed_once _ c hreach⟩

/-- `b` takes over, finds the row that `a` stashed with its receipt, and answers the
repeated request with it. -/
def consumesStashed : List Act :=
  [.env (.dbTime 40000000)] ++ loses ⟨"a", 2⟩ ++ acquires ⟨"b", 3⟩ ++
    (.start ⟨"b", 4⟩ (.request .seal 7) :: steps ⟨"b", 4⟩
      [.none, .none, .none, .fault .none, .none, .nat (.ok 0), .none, .none, .none, .none,
       .fault .none, .fault .none, .none, .fault .none, successReceipt, .fault .none, .none, .none, .none])

/-- `a` retries its stash, finds the row gone and the audit of `b`, and answers another
request with the same transaction. -/
def retriesStashed : List Act :=
  .start ⟨"a", 6⟩ (.request .seal 7) :: steps ⟨"a", 6⟩
    [.none, .none, .none, .fault .none, .none, .nat (.ok 0), .none, .none, .none, .fault .none,
     .fault .none, .none, .none, .none, .none]

theorem result_handed_twice : ∃ c : Config Cmd Tid World,
    (system succeededSetup signersOnly).Reach always {} c ∧
      .handed ⟨"b", 4⟩ 1 ∈ c.state.log ∧ .handed ⟨"a", 6⟩ 1 ∈ c.state.log ∧
      c.state.results = [1, 1] :=
  Reach.exists_of_run (stashes ++ consumesStashed ++ reacquires 5 ++ retriesStashed) (by decide +kernel)

end Signer

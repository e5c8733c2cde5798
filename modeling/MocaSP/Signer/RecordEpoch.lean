-- SUMMARY: A transaction is recorded under the epoch that authorised it.
import MocaSP.Base.History
import MocaSP.Signer.Ledger

/-!
# The epoch a transaction is recorded under

`resolvePendingEvmTx` takes the fence, syncs the scope for its epoch and clears
the request. `submitEvmTx` takes the fence again. Nothing compares the two, so a
lease that is lost and acquired again in between is recorded under the new epoch
by a decision of the old one.
-/

namespace Signer

open Machine History Event World

/-! ## What the log says of a record -/

/-- A request of the process was cleared for the scope: its operation and the epoch. -/
def Event.clearance (p : String) (scope : SignType) : Event → Option (Hash × Nat)
  | .cleared t s operation e => if t.proc = p ∧ s = scope then some (operation, e) else none
  | _ => none

/-- The process synced the scope for an epoch. -/
def Event.sync (p : String) (scope : SignType) : Event → Option Nat
  | .synced q s e => if q = p ∧ s = scope then some e else none
  | _ => none

/-- What allowed a recorded operation to be signed, and the sync its nonce comes
from, are of the epoch it is recorded under. -/
def Authorised : Event → List Event → Prop
  | .recorded p e _ _ _ scope operation, before =>
    last (clearance p scope) before = some (operation, e) ∧ last (sync p scope) before = some e
  | _, _ => True

instance (x : Event) (before : List Event) : Decidable (Authorised x before) :=
  match x with
  | .recorded .. => inferInstanceAs (Decidable (_ ∧ _))
  | .acquired .. | .sent .. | .resolved .. | .consumed .. | .handed .. | .synced .. | .cleared .. =>
    .isTrue trivial

/-! ## When it holds -/

/-- The epoch the thread's request was cleared under. -/
def Event.clearedFor (t : Tid) : Event → Option Nat
  | .cleared u _ _ e => if u = t then some e else none
  | _ => none

def Cmd.isFence {β : Type} : Cmd β → Bool
  | .fence => true
  | _ => false

/-- When a cleared request takes the fence again, its process's lease still has
the epoch the request was cleared under. -/
def LeaseKept (β : Type) (t : Tid) (c : Cmd β) (w : World) : Prop :=
  c.isFence = true → ∀ x ∈ w.log, ∀ e ∈ x.clearedFor t, (w.procs t.proc).lease.epoch = e

instance {β : Type} {t : Tid} {c : Cmd β} {w : World} : Decidable (LeaseKept β t c w) :=
  inferInstanceAs (Decidable (_ → _))

/-! ## The invariant -/

structure SyncLogged (w : World) : Prop where
  authorised : Each Authorised w.log
  synced : ∀ p s, (last (sync p s) w.log).getD 0 = (w.mem p s).notes.epoch

/-- What it means that a thread was cleared. -/
structure WasCleared (t : Tid) (k : View) (w : World) : Prop where
  cleared : ∀ operation e, k.cleared = some (operation, e) → ∃ s, k.scope = some s ∧
    .cleared t s operation e ∈ w.log ∧
    last (clearance t.proc s) w.log = some (operation, e) ∧
    (w.mem t.proc s).notes.epoch = e ∧ ∀ f, k.fence = some f → f.epoch = e

/-- The call neither syncs a scope nor clears a request. -/
def Cmd.isUnnoted {β : Type} : Cmd β → Bool
  | .setSynced .. | .noteCleared .. => false
  | _ => true

/-- An entry that is neither a sync nor a clearance. -/
def Event.isUnnoted : Event → Bool
  | .synced .. | .cleared .. => false
  | _ => true

section
variable {S : Setup} {t : Tid} {k k' : View} {w w' : World}

variable {x : Event} {β : Type}

/-- Nothing was synced or cleared between `w` and `w'`. -/
structure Unnoted (w w' : World) : Prop where
  log : ∃ es, w'.log = es ++ w.log ∧ ∀ x ∈ es, x.isUnnoted = true
  epoch : ∀ p s, (w'.mem p s).notes.epoch = (w.mem p s).notes.epoch

theorem StoreCall.event_isUnnoted {c : StoreCall β} {height : Nat} {b : β} (hx : x ∈ c.event height b) :
    x.isUnnoted = true := by
  cases c with
  | acquireLease =>
    obtain ⟨_, _ | _⟩ := b
    · cases hx
    · obtain rfl := List.mem_singleton.mp hx
      rfl
  | record | resolvePending | consumeOutcome =>
    obtain rfl := List.mem_singleton.mp hx
    rfl
  | _ => cases hx

theorem Unnoted.of_mem (l : List Event) (hlog : w'.log = l ++ w.log)
    (hl : ∀ x ∈ l, x.isUnnoted = true) (hmem : ∀ p s, (w'.mem p s).notes = (w.mem p s).notes) :
    Unnoted w w' :=
  ⟨⟨l, hlog, hl⟩, fun p s => by rw [hmem]⟩

theorem Quiet.unnoted (h : Quiet w w') : Unnoted w w' := ⟨⟨[], h.log, by simp⟩, h.synced⟩

theorem Does.unnoted {e : Cmd β} {r : β} (hd : Does S t w e r w') (he : e.isUnnoted = true) :
    Unnoted w w' := by
  cases hd with
  | idle quiet => exact quiet.unnoted
  | lock | unlock | setAcquired => exact .of_mem [] rfl (by simp) fun q s => by simp [setProc_mem]
  | loadMem | fence | ask => exact (Quiet.refl w).unnoted
  | setTerminalRetry | setConsumeUnknown | putAwaiting | takeAwaiting =>
    refine .of_mem [] rfl (by simp) fun q s => ?_
    rw [setMem_mem]
    split
    next hq => rw [hq.1, hq.2]
    · rfl
  | store _ _ hexec =>
    obtain ⟨-, hev, -⟩ | ⟨_, -, hev, -⟩ := StoreCall.exec_commits w.height hexec
    · exact .of_mem _ rfl (by simp [hev]) fun _ _ => rfl
    · exact .of_mem _ rfl (fun x hx => StoreCall.event_isUnnoted (hev ▸ hx)) fun _ _ => rfl
  | send | hand => exact .of_mem [_] rfl (by simp [isUnnoted]) fun _ _ => rfl
  | setSynced | noteCleared => cases he

theorem SyncLogged.unnoted (h : SyncLogged w) (hu : Unnoted w w') (ha : Each Authorised w'.log) :
    SyncLogged w' := by
  refine ⟨ha, fun p s => ?_⟩
  obtain ⟨_, hlog, hes⟩ := hu.log
  rw [hu.epoch, hlog, last_append]
  · exact h.synced p s
  intro x hx
  cases x with
  | synced => cases hes _ hx
  | _ => rfl

namespace WasCleared

theorem unnoted (h : WasCleared t k w) (hu : Unnoted w w') : WasCleared t k w' := by
  refine ⟨fun operation e hc => ?_⟩
  obtain ⟨s, hs, hmem, hlast, hepoch, hf⟩ := h.cleared operation e hc
  obtain ⟨_, hlog, hes⟩ := hu.log
  refine ⟨s, hs, ?_, ?_, (hu.epoch t.proc s).trans hepoch, hf⟩
  · rw [hlog]
    exact List.mem_append_right _ hmem
  · rw [hlog, last_append]
    · exact hlast
    intro x hx
    cases x with
    | cleared => cases hes _ hx
    | _ => rfl

/-- An entry that is no clearance of the thread's scope, and a change that does
not sync it. -/
theorem logged (h : WasCleared t k w) {v : World}
    (hx : ∀ s, k.scope = some s → x.clearance t.proc s = none)
    (hv : ∀ s, k.scope = some s → (v.mem t.proc s).notes.epoch = (w.mem t.proc s).notes.epoch) :
    WasCleared t k { v with log := x :: w.log } := by
  refine ⟨fun operation e hc => ?_⟩
  obtain ⟨s, hs, hmem, hlast, hepoch, hf⟩ := h.cleared operation e hc
  refine ⟨s, hs, .tail _ hmem, ?_, (hv s hs).trans hepoch, hf⟩
  rw [last_cons_none (hx s hs)]
  exact hlast

theorem of_same (h : WasCleared t k w) (hcleared : k'.cleared = k.cleared)
    (hscope : k'.scope = k.scope) (hfence : k'.fence = k.fence) : WasCleared t k' w := by
  refine ⟨?_⟩
  rw [hcleared, hscope, hfence]
  exact h.cleared

theorem of_stays (h : WasCleared t k w) (hs : k.Stays k') : WasCleared t k' w :=
  h.of_same hs.cleared hs.scope hs.fence

/-- A thread that was not cleared. -/
theorem of_none (h : k.cleared = none) : WasCleared t k w :=
  ⟨fun operation e hc => by rw [h] at hc; cases hc⟩

end WasCleared

section
variable (hl : Ledger S w) (hk : Knows S t k w) (hr : Reads t k w) (h : SyncLogged w) (hc : WasCleared t k w)
include hl hk hr h hc

/-- `Record` commits under the fence that was taken since the request was cleared. -/
theorem authorised_record {fence : Fence} {evidence : SignedTxEvidence}
    {pending b : PendingRecord} {db : DB} (ha : allowedStore S t.proc k (.record fence evidence pending))
    (hrun : record fence evidence pending w.db = .ok (b, db)) :
    Authorised (.recorded fence.owner fence.epoch w.height b.id b.txHash b.scope b.operation) w.log := by
  obtain ⟨⟨hfence, hscope⟩, ⟨_, hcleared⟩, -⟩ := ha
  obtain ⟨_, hs, -, hlast, hepoch, hf⟩ := hc.cleared _ _ hcleared
  rw [hscope] at hs
  cases hs
  rw [(record_inserted hrun).row, (hk.fence fence hfence).1, hf fence hfence]
  refine ⟨hlast, ?_⟩
  -- an acquired epoch is not 0, so the scope was synced
  have hpos := (hl.epoch _ _ (hr.fence fence hfence)).1
  have hsync := h.synced t.proc pending.scope
  rw [hepoch, ← hf fence hfence] at hsync
  cases hlast : last (sync t.proc pending.scope) w.log with
  | none =>
    rw [hlast] at hsync
    simp only [Option.getD_none] at hsync
    omega
  | some =>
    rw [hlast] at hsync
    rw [← hf fence hfence, ← hsync]
    rfl

theorem authorised_store {c : StoreCall β} {b : β} {db : DB} (ha : allowedStore S t.proc k c)
    (hrun : c.run w.db = .ok (b, db)) : Each Authorised (c.event w.height b ++ w.log) := by
  cases c with
  | record => exact ⟨authorised_record hl hk hr h hc ha hrun, h.authorised⟩
  | acquireLease =>
    obtain ⟨_, _ | _⟩ := b
    · exact h.authorised
    · exact ⟨trivial, h.authorised⟩
  | resolvePending | consumeOutcome => exact ⟨trivial, h.authorised⟩
  | _ => exact h.authorised

end

theorem syncLogged_step {e : Cmd β} {r : β} (hl : Ledger S w) (hk : Knows S t k w) (hr : Reads t k w)
    (h : SyncLogged w) (hc : WasCleared t k w) (ha : allowed S t.proc k e) (hcond : LeaseKept β t e w)
    (hd : Does S t w e r w') : SyncLogged w' ∧ WasCleared t (learn k e r) w' ∧
      ∀ u k', u ≠ t → Knows S u k' w → WasCleared u k' w → WasCleared u k' w' := by
  have hu : e.isUnnoted = true → Unnoted w w' := hd.unnoted
  have hothers : e.isUnnoted = true →
      ∀ u k', u ≠ t → Knows S u k' w → WasCleared u k' w → WasCleared u k' w' :=
    fun he u k' _ _ hc' => hc'.unnoted (hu he)
  cases hd with
  | idle quiet learns =>
    rw [learns]
    exact ⟨h.unnoted quiet.unnoted (quiet.log ▸ h.authorised), hc.unnoted quiet.unnoted,
      fun u k' _ _ hc' => hc'.unnoted quiet.unnoted⟩
  | lock | unlock => exact ⟨h.unnoted (hu rfl) h.authorised, .of_none rfl, hothers rfl⟩
  | loadMem scope =>
    refine ⟨h, ?_, hothers rfl⟩
    obtain ⟨hcleared, hscope, hfence⟩ := k.load_stays (w.mem t.proc scope)
    exact hc.of_same hcleared hscope hfence
  | setTerminalRetry | setConsumeUnknown | putAwaiting =>
    exact ⟨h.unnoted (hu rfl) h.authorised, WasCleared.unnoted ⟨hc.cleared⟩ (hu rfl), hothers rfl⟩
  | takeAwaiting scope operation =>
    refine ⟨h.unnoted (hu rfl) h.authorised, ?_, hothers rfl⟩
    cases ((w.mem t.proc scope).awaiting.find? (·.1 = operation)).map Prod.snd with
    | none => exact hc.unnoted (hu rfl)
    | some => exact WasCleared.unnoted ⟨hc.cleared⟩ (hu rfl)
  | setSynced scope epoch =>
    refine ⟨⟨⟨trivial, h.authorised⟩, fun p s => ?_⟩, .of_none rfl, fun u k' hne hk' hc' => ?_⟩
    · show (last (sync p s) (.synced t.proc scope epoch :: w.log)).getD 0 =
        ((w.setMem _ _ _).mem p s).notes.epoch
      rw [setMem_mem]
      split
      next hq =>
        rw [last_cons_some (a := epoch) (by simp [sync, hq.1, hq.2])]
        rfl
      next hq =>
        rw [last_cons_none (by simp only [sync]; exact if_neg fun hn => hq ⟨hn.1.symm, hn.2.symm⟩)]
        exact h.synced p s
    · refine hc'.logged (fun _ _ => rfl) fun s hs => ?_
      rw [setMem_mem, if_neg]
      rintro ⟨hproc, rfl⟩
      exact hk.proc_ne hk' hne ha hs hproc
  | fence _ held =>
    refine ⟨h, ⟨fun operation x hx => ?_⟩, hothers rfl⟩
    obtain ⟨s, hs, hmem, hlast, hepoch, -⟩ := hc.cleared operation x hx
    refine ⟨s, hs, hmem, hlast, hepoch, fun y hy => ?_⟩
    obtain ⟨-, rfl⟩ := held y hy
    exact hcond rfl _ hmem x (by simp [clearedFor])
  | setAcquired => exact ⟨h.unnoted (hu rfl) h.authorised, hc.unnoted (hu rfl), hothers rfl⟩
  | store c _ hexec =>
    refine ⟨h.unnoted (hu rfl) ?_, (hc.of_stays (learnStore_stays k c _)).unnoted (hu rfl), hothers rfl⟩
    obtain ⟨-, hev, -⟩ | ⟨_, hrun, hev, -⟩ := StoreCall.exec_commits w.height hexec
    · rw [hev]
      exact h.authorised
    · rw [hev]
      exact authorised_store hl hk hr h hc ha hrun
  | ask q => exact ⟨h, hc.of_stays (learnQuery_grows q _).stays, hothers rfl⟩
  | send under =>
    refine ⟨h.unnoted (hu rfl) ⟨trivial, h.authorised⟩, ?_, hothers rfl⟩
    cases under with
    | none => exact hc.unnoted (hu rfl)
    | some => exact WasCleared.unnoted ⟨hc.cleared⟩ (hu rfl)
  | noteCleared scope _ epoch =>
    obtain ⟨hscope, hsynced⟩ := ha
    refine ⟨⟨⟨trivial, h.authorised⟩, h.synced⟩, ⟨?_⟩, fun u k' hne hk' hc' => ?_⟩
    · rintro _ _ ⟨⟩
      refine ⟨scope, hscope, .head _, last_cons_some (by simp [clearance]),
        hk.synced scope epoch hscope hsynced, ?_⟩
      rintro _ ⟨⟩
    · refine hc'.logged (fun s hs => ?_) fun _ _ => rfl
      refine if_neg ?_
      rintro ⟨hproc, rfl⟩
      exact hk.proc_ne hk' hne hscope hs hproc.symm
  | hand =>
    exact ⟨h.unnoted (hu rfl) ⟨trivial, h.authorised⟩, WasCleared.unnoted ⟨hc.cleared⟩ (hu rfl), hothers rfl⟩

end

/-! ## Every run -/

theorem syncLogged_sound (S : Setup) (may : Tid → Job → Bool) :
    Sound (system S may) (disciplines S) jobView LeaseKept
      (fun w => (Base S w ∧ Ledger S w) ∧ SyncLogged w)
      fun t k w => (Knows S t k w ∧ Reads t k w) ∧ WasCleared t k w := by
  refine (ledger_sound S may).extend ⟨?_, ?_, ?_⟩
  · intro _ _ _ _ _ h hstart _
    obtain ⟨rfl, -⟩ := system_starts hstart
    exact ⟨{ h with }, .of_none rfl, fun u k _ hu => ⟨hu.cleared⟩⟩
  · intro _ _ _ _ _ _ _ _ hbl h hkr hc ha hcond hexec _ _
    obtain ⟨h', hc', hothers⟩ := syncLogged_step hbl.2 hkr.1 hkr.2 h hc ha hcond (exec_does hexec)
    exact ⟨h', hc', fun u k' hne hk' => hothers u k' hne hk'.1⟩
  intro v w _ _ h henv
  cases henv
  have hq := v.quiet w
  exact ⟨h.unnoted hq.unnoted (hq.log ▸ h.authorised), fun u k hu => hu.unnoted hq.unnoted⟩

/-- In every run whose requests keep the lease they were cleared under, every
recorded transaction was cleared, and its scope synced, under the epoch it is
recorded under. -/
theorem recorded_under_authorising_epoch (S : Setup) (may : Tid → Job → Bool)
    (c : Config Cmd Tid World) (h : (system S may).Reach LeaseKept {} c) :
    Each Authorised c.state.log := by
  have hinit : SyncLogged {} := ⟨trivial, fun _ _ => rfl⟩
  obtain ⟨⟨-, hlogged⟩, -⟩ := (syncLogged_sound S may).reach ⟨ledger_init S, hinit⟩ h
  exact hlogged.authorised

/-- A request records its transaction under the lease it was cleared under. -/
def keptLease : List Act :=
  [.env (.dbTime 2000000)] ++ acquires ⟨"a", 0⟩ ++ clears ⟨"a", 1⟩ 7 ++ records ⟨"a", 1⟩ 1

theorem recorded_under_authorising_epoch_kept : ∃ c : Config Cmd Tid World,
    (system (sampleSetup fun _ => none) signersOnly).Reach LeaseKept {} c ∧
      .recorded "a" 1 0 1 1 .seal 7 ∈ c.state.log ∧ Each Authorised c.state.log := by
  obtain ⟨c, hreach, hlog⟩ : ∃ c, (system (sampleSetup fun _ => none) signersOnly).Reach LeaseKept {} c ∧
      .recorded "a" 1 0 1 1 .seal 7 ∈ c.state.log :=
    Reach.exists_of_run keptLease (by decide +kernel)
  exact ⟨c, hreach, by simpa using hlog, recorded_under_authorising_epoch _ _ c hreach⟩

/-- The request of `a` is cleared under epoch 1. Then `a` loses the lease, `b` acquires
it, and `a` acquires it again, as epoch 3, before the request takes the fence. -/
def straddledLease : List Act :=
  [.env (.dbTime 2000000)] ++ acquires ⟨"a", 0⟩ ++ clears ⟨"a", 1⟩ 7 ++
    [.env (.dbTime 40000000)] ++ loses ⟨"a", 2⟩ ++ acquires ⟨"b", 3⟩ ++
    [.env (.dbTime 40000000)] ++ acquires ⟨"a", 4⟩ ++ records ⟨"a", 1⟩ 1

theorem recorded_under_other_epoch : ∃ c : Config Cmd Tid World,
    (system (sampleSetup fun _ => none) signersOnly).Reach always {} c ∧
      .recorded "a" 3 0 1 1 .seal 7 ∈ c.state.log ∧
      last (clearance "a" .seal) c.state.log = some (7, 1) ∧ ¬ Each Authorised c.state.log :=
  Reach.exists_of_run straddledLease (by decide +kernel)

end Signer

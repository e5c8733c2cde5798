-- SUMMARY: The lease as a fence: a superseded epoch never writes again.
import MocaSP.Signer.StoreInvariant

/-!
# Fencing

The lease row of a chain names its holder: an owner and an epoch. Only
`AcquireLease` changes the holder, always to a higher epoch; renewals and
releases move the expiry only.
-/

namespace Signer
open List DB StoreStep StoreCall

open Except

/-- The holder the lease row of a chain names, expired or not. -/
def DB.holder (db : DB) (chainID : String) : Option (String × Nat) :=
  (db.leaseRow chainID).map fun r => (r.owner, r.epoch)

/-- The last epoch acquired for a chain; 0 before the first. -/
def DB.epochOf (db : DB) (chainID : String) : Nat := ((db.holder chainID).map Prod.snd).getD 0

/-- What a committed call does to the holders. -/
inductive HolderStep (db db' : DB) : Prop where
  | keep (h : ∀ c, db'.holder c = db.holder c)
  /-- `INSERT IGNORE` made the row, and the lease was not acquired. -/
  | created (chainID : String) (h : db.holder chainID = none) (h' : db'.holder chainID = some ("", 0))
      (rest : ∀ c, c ≠ chainID → db'.holder c = db.holder c)
  | acquired (chainID owner : String)
      (h' : db'.holder chainID = some (owner, db.epochOf chainID + 1))
      (rest : ∀ c, c ≠ chainID → db'.holder c = db.holder c)

/-! ## The lease row under updates -/

variable {db db' : DB} {chainID : String} {β : Type}

theorem DB.leaseRow_congr (h : db'.lease = db.lease) (c : String) :
    db'.leaseRow c = db.leaseRow c := by
  unfold leaseRow
  rw [h]

variable {f : LeaseRow → LeaseRow}

/-- An update of lease rows that keeps their chain. -/
theorem DB.leaseRow_map (db : DB) (hf : ∀ r, (f r).chainID = r.chainID) (c : String) :
    ({ db with lease := db.lease.map f } : DB).leaseRow c = (db.leaseRow c).map f := by
  have hfilter : (db.lease.map f).filter (fun r => r.chainID = c) =
      (db.lease.filter fun r => r.chainID = c).map f := by
    rw [filter_map]
    congr 2
    funext r
    simp [hf]
  unfold leaseRow
  simp only [hfilter]
  generalize db.lease.filter (fun r => r.chainID = c) = rows
  rcases rows with _ | ⟨_, _ | ⟨_, _⟩⟩ <;> rfl

theorem DB.leaseRow_chainID {c : String} {row : LeaseRow} (h : db.leaseRow c = some row) :
    row.chainID = c := by
  unfold leaseRow at h
  split at h
  next hfilter =>
    cases h
    have hmem : row ∈ db.lease.filter fun r => r.chainID = c := by simp [hfilter]
    simpa using (mem_filter.mp hmem).2
  · cases h

/-- `INSERT IGNORE` leaves an existing row alone, or makes one nobody has held. -/
theorem DB.ensureLease_leaseRow (db : DB) (chainID : String) :
    (db.ensureLease chainID).leaseRow chainID = db.leaseRow chainID ∨
      (db.leaseRow chainID = none ∧ (db.ensureLease chainID).leaseRow chainID =
        some { chainID, owner := "", epoch := 0, expiresAt := leaseReleased }) := by
  unfold ensureLease
  split
  · exact .inl rfl
  rename_i hnone
  refine .inr ?_
  have hfilter : db.lease.filter (fun r => r.chainID = chainID) = [] := by
    rw [filter_eq_nil_iff]
    intro r hr hc
    exact hnone ⟨r, hr, by simpa using hc⟩
  unfold leaseRow
  simp [filter_append, hfilter]

/-! ## One call -/

theorem acquireLease_holderStep {owner : String} {ttl : Nat} {e : Nat} {acquired : Bool}
    (h : acquireLease chainID owner ttl db = .ok ((e, acquired), db')) :
    HolderStep db db' ∧ (acquired = true →
      e = db.epochOf chainID + 1 ∧ db'.holder chainID = some (owner, e)) := by
  simp only [acquireLease, bind_eq_ok, orFail_eq_ok] at h
  obtain ⟨row, hrow, h⟩ := h
  have hrest : ∀ c, c ≠ chainID → (db.ensureLease chainID).leaseRow c = db.leaseRow c := by
    intro _ hc
    unfold ensureLease
    split
    · rfl
    · unfold leaseRow
      simp [filter_append, hc.symm]
  split at h
  · -- refused: at most the row was made
    simp only [pure_eq_ok, Prod.mk.injEq] at h
    obtain ⟨⟨-, rfl⟩, rfl⟩ := h
    refine ⟨?_, by simp⟩
    obtain hsame | ⟨hnone, hnew⟩ := db.ensureLease_leaseRow chainID
    · refine .keep fun c => ?_
      by_cases hc : c = chainID
      · subst hc
        simp [holder, hsame]
      · simp [holder, hrest c hc]
    · refine .created chainID (by simp [holder, hnone]) (by simp [holder, hnew]) ?_
      intro c hc
      simp [holder, hrest c hc]
  · simp only [pure_eq_ok, Prod.mk.injEq] at h
    obtain ⟨⟨rfl, rfl⟩, rfl⟩ := h
    have hepoch : row.epoch = db.epochOf chainID := by
      obtain hsame | ⟨hnone, hnew⟩ := db.ensureLease_leaseRow chainID
      · rw [hsame] at hrow
        simp [epochOf, holder, hrow]
      · rw [hnew] at hrow
        cases hrow
        simp [epochOf, holder, hnone]
    have hmap := (db.ensureLease chainID).leaseRow_map
      (f := grantLease chainID owner (row.epoch + 1) ((db.ensureLease chainID).now + ttl)) fun r => by
        unfold grantLease
        split <;> rfl
    have hself : (insertAudit { db.ensureLease chainID with
        lease := (db.ensureLease chainID).lease.map (grantLease chainID owner (row.epoch + 1)
          ((db.ensureLease chainID).now + ttl)) } chainID (row.epoch + 1)
          { event := .leaseAcquired }).holder chainID = some (owner, row.epoch + 1) := by
      unfold holder
      rw [leaseRow_congr (insertAudit_lease ..), hmap, hrow]
      simp [grantLease, leaseRow_chainID hrow]
    refine ⟨.acquired chainID owner (hepoch ▸ hself) ?_, fun _ => ⟨by rw [hepoch], hself⟩⟩
    intro c hc
    unfold holder
    rw [leaseRow_congr (insertAudit_lease ..), hmap, hrest c hc]
    cases hl : db.leaseRow c with
    | none => rfl
    | some => simp [grantLease, leaseRow_chainID hl, hc]

/-- Every call but those on the lease leaves the lease table and the clock alone. -/
theorem DB.turn_lease {target : StateRow → Bool} {f : Option (StateRow → StateRow)} {n : Nat}
    (h : db.turn target f = .ok (n, db')) : db'.lease = db.lease := by
  obtain ⟨-, rfl⟩ := turn_ok h
  rfl

variable {c : StoreCall β}

theorem StoreCall.run_holderStep {b : β} (hrun : c.run db = .ok (b, db')) : HolderStep db db' := by
  have hsame : db'.lease = db.lease → HolderStep db db' := fun h =>
    .keep fun c => by rw [holder, leaseRow_congr h, ← holder]
  cases c with
  | acquireLease => exact (acquireLease_holderStep hrun).1
  | renewLease | releaseLease =>
    cases hrun
    refine .keep fun c => ?_
    unfold holder
    rw [leaseRow_map db fun r => by split <;> rfl]
    cases db.leaseRow c with
    | none => rfl
    | some =>
      simp only [Option.map_some]
      split <;> rfl
  | record =>
    obtain ⟨-, -, _, _, href, -, -, rfl⟩ := record_ok hrun
    exact hsame (by rw [href.state])
  | markAmbiguous =>
    obtain ⟨-, _, _, hturn, rfl⟩ := markAmbiguous_ok hrun
    exact hsame (turn_lease hturn :)
  | resolvePending =>
    obtain ⟨-, -, _, hturn, rfl⟩ := resolvePending_ok hrun
    refine hsame (.trans ?_ (turn_lease hturn))
    unfold insertTerminalAudits
    cases PendingTerminal.kind _ <;> rfl
  | consumeOutcome =>
    obtain ⟨-, -, _, hturn, rfl⟩ := consumeOutcome_ok hrun
    exact hsame (turn_lease hturn :)
  | appendAudit =>
    obtain ⟨-, rfl⟩ := appendAudit_ok hrun
    exact hsame rfl
  | manualResolvePending | autoResolvePending =>
    obtain ⟨-, -, _, hturn, rfl⟩ := resolvePendingTo_ok hrun
    exact hsame (turn_lease hturn :)
  | manualSettleOutcome | autoSettleOutcome =>
    obtain ⟨-, _, -, -, _, hturn, rfl⟩ := settleOutcome_ok hrun
    exact hsame (turn_lease hturn :)
  | _ =>
    cases hrun
    exact hsame rfl

theorem HolderStep.epochOf_le (h : HolderStep db db') (c : String) :
    db.epochOf c ≤ db'.epochOf c := by
  unfold epochOf
  cases h with
  | keep h => exact (h c) ▸ Nat.le_refl _
  | created chainID h _ rest =>
    by_cases hc : c = chainID
    · subst hc
      simp [h]
    · exact (rest c hc) ▸ Nat.le_refl _
  | acquired chainID _ h' rest =>
    by_cases hc : c = chainID
    · subst hc
      rw [h']
      exact Nat.le_succ _
    · exact (rest c hc) ▸ Nat.le_refl _

/-! ## Runs -/

/-- The call took effect. -/
def Fault.applied : Fault → Bool
  | .none => true
  | .failed => false
  | .unknown applied => applied

/-- The fence a writing call checks. -/
def StoreCall.fence? {β : Type} : StoreCall β → Option Fence
  | .record fence _ _ | .markAmbiguous fence _ | .resolvePending fence _ _
  | .consumeOutcome fence _ | .autoResolvePending fence _ _ _ => some fence
  | .autoSettleOutcome fence _ _ _ _ => some fence
  | .appendAudit fence _ _ => fence
  | _ => none

theorem StoreCall.run_fence {b : β} {fence : Fence} (hf : c.fence? = some fence)
    (hrun : c.run db = .ok (b, db')) : FenceHolds fence db := by
  cases c <;> cases hf
  case record => exact (record_ok hrun).1
  case markAmbiguous => exact (markAmbiguous_ok hrun).1
  case resolvePending => exact (resolvePending_ok hrun).1
  case consumeOutcome => exact (consumeOutcome_ok hrun).1
  case appendAudit => exact (appendAudit_ok hrun).1 _ rfl
  case autoResolvePending => exact (resolvePendingTo_ok hrun).1 _ rfl
  case autoSettleOutcome => exact (settleOutcome_ok hrun).1 _ rfl

section

variable (db₀ : DB) (steps : List StoreStep)

/-- The tables before step `k`. -/
def stateAt (k : Nat) : DB := runStore db₀ (steps.take k)

/-- Step `i` acquires the lease of `chainID` with epoch `e`, whatever its
caller was told. -/
def AcquiresAt (i : Nat) (chainID : String) (e : Nat) : Prop :=
  ∃ owner ttl fault db', steps[i]? = some (.call (.acquireLease chainID owner ttl) fault) ∧
    fault.applied = true ∧
    acquireLease chainID owner ttl (stateAt db₀ steps i) = .ok ((e, true), db')

/-- Step `j` is a write fenced with `f` that commits. -/
def CommitsAt (j : Nat) (f : Fence) : Prop :=
  ∃ (β : Type) (c : StoreCall β) (fault : Fault) (b : β) (db' : DB),
    steps[j]? = some (.call c fault) ∧ c.fence? = some f ∧ fault.applied = true ∧
    c.run (stateAt db₀ steps j) = .ok (b, db')

variable {db₀ steps}

variable {i : Nat}

theorem stateAt_succ {s : StoreStep} (h : steps[i]? = some s) :
    stateAt db₀ steps (i + 1) = s.apply (stateAt db₀ steps i) := by
  have htake : steps.take (i + 1) = steps.take i ++ [s] := by
    rw [take_add_one, h]
    rfl
  rw [stateAt, htake, runStore, foldl_append]
  rfl

theorem StoreStep.apply_of_run {fault : Fault} {b : β} (hf : fault.applied = true)
    (hrun : c.run db = .ok (b, db')) : (call c fault).apply db = db' := by
  cases fault with
  | none => simp [apply, exec, hrun]
  | failed => simp [Fault.applied] at hf
  | unknown applied =>
    simp only [Fault.applied] at hf
    simp [apply, exec, hrun, hf]

theorem StoreStep.epochOf_le (s : StoreStep) (db : DB) (c : String) :
    db.epochOf c ≤ (s.apply db).epochOf c := by
  obtain ⟨_, hd⟩ | ⟨_, _, _, _, rfl, hrun⟩ := s.apply_cases db
  · rw [hd]
    exact .refl
  · exact (run_holderStep hrun).epochOf_le c

theorem epochOf_stateAt_mono {j : Nat} (hij : i ≤ j) (c : String) :
    (stateAt db₀ steps i).epochOf c ≤ (stateAt db₀ steps j).epochOf c := by
  induction hij with
  | refl => exact .refl
  | @step j _ ih =>
    refine Nat.le_trans ih ?_
    cases hs : steps[j]? with
    | none =>
      have hlen : steps.length ≤ j := List.getElem?_eq_none_iff.mp hs
      simp [stateAt, take_of_length_le hlen, take_of_length_le (Nat.le_succ_of_le hlen)]
    | some s =>
      rw [stateAt_succ hs]
      exact s.epochOf_le _ c

/-- After an acquisition the chain's epoch is at least the acquired one. -/
theorem AcquiresAt.epochOf_le {j : Nat} {e : Nat} (h : AcquiresAt db₀ steps i chainID e) (hij : i < j) :
    e ≤ (stateAt db₀ steps j).epochOf chainID := by
  obtain ⟨owner, ttl, _, db', hstep, hf, hacq⟩ := h
  have hnext : stateAt db₀ steps (i + 1) = db' := by
    rw [stateAt_succ hstep]
    exact apply_of_run (c := .acquireLease chainID owner ttl) hf hacq
  have hholder := ((acquireLease_holderStep hacq).2 rfl).2
  have hepoch : (stateAt db₀ steps (i + 1)).epochOf chainID = e := by
    rw [hnext]
    simp [epochOf, hholder]
  rw [← hepoch]
  exact epochOf_stateAt_mono hij chainID

end

/-- **Fencing.** From any tables, over any sequence of calls with any faults:
acquired epochs of a chain strictly increase, at most one (owner, epoch) passes
the fencing check at any time, and after an acquisition of epoch `e` no write
fenced below `e` commits. -/
theorem lease_fencing (db₀ : DB) (steps : List StoreStep) :
    (∀ i j chainID e e', i < j → AcquiresAt db₀ steps i chainID e →
      AcquiresAt db₀ steps j chainID e' → e < e') ∧
    (∀ k (f f' : Fence), f.chainID = f'.chainID →
      fenceCheck f (stateAt db₀ steps k) = .ok () → fenceCheck f' (stateAt db₀ steps k) = .ok () →
      f = f') ∧
    ∀ i j chainID e (f : Fence), i < j → AcquiresAt db₀ steps i chainID e →
      f.chainID = chainID → f.epoch < e → ¬ CommitsAt db₀ steps j f := by
  refine ⟨?_, ?_, ?_⟩
  · intro _ _ _ _ _ hij hi hj
    have hle := hi.epochOf_le hij
    obtain ⟨_, _, _, _, -, -, hacq⟩ := hj
    have he' := ((acquireLease_holderStep hacq).2 rfl).1
    omega
  · intro _ f f' hc hf hf'
    obtain ⟨_, hrow, _, _, -⟩ := fenceCheck_ok.mp hf
    obtain ⟨_, hrow', _, _, -⟩ := fenceCheck_ok.mp hf'
    rw [hc, hrow'] at hrow
    cases hrow
    cases f
    cases f'
    simp_all
  · intro _ _ _ _ _ hij hi hc _ hcommit
    obtain ⟨_, _, _, _, _, -, hfence, -, hrun⟩ := hcommit
    obtain ⟨_, hrow, -, hepoch, -⟩ := run_fence hfence hrun
    have hle := hi.epochOf_le hij
    rw [hc] at hrow
    simp only [epochOf, holder, hrow, Option.map_some, Option.getD_some] at hle
    omega

/-- An owner acquires again before its lease expires, is not told, and writes
under its first epoch. -/
def reacquiredRun : List StoreStep :=
  [.wait 2000000, .call (.acquireLease "moca_5151-1" "a" 30000000) .none,
   .call (.acquireLease "moca_5151-1" "a" 30000000) (.unknown true),
   .call (.appendAudit (some { chainID := "moca_5151-1", owner := "a", epoch := 1 }) "moca_5151-1"
     { event := .loadedOnStart }) .none]

theorem lease_fencing_reacquired : AcquiresAt {} reacquiredRun 2 "moca_5151-1" 2 ∧
      ¬ CommitsAt {} reacquiredRun 3 { chainID := "moca_5151-1", owner := "a", epoch := 1 } := by
  have hacq : AcquiresAt {} reacquiredRun 2 "moca_5151-1" 2 :=
    ⟨"a", 30000000, .unknown true, _, rfl, rfl, rfl⟩
  exact ⟨hacq, (lease_fencing {} reacquiredRun).2.2 2 3 _ 2 _ (by decide) hacq rfl (by decide)⟩

end Signer

-- SUMMARY: What the reports of a bucket migration lead to.
import Mathlib.Algebra.Order.BigOperators.Group.List
import Mathlib.Data.UInt
import MocaSP.Manager.Unfinished

/-!
# Reports of a bucket migration

A report of a failure counts if the unit is still at the object where it was, and a migration is
rejected at migrateGVGTaskMaxRetry of them; no report takes the count back. Each report persists
how many bytes of its unit are migrated. One that comes when the migration was cancelled makes
the manager tell the source SP their sum, so that it gives back the quota for the rest.
-/

namespace Manager.BucketMigrate
open List Function

/-! ## Rejection -/

/-- A report, with the plan that the scheduler has then: it may have been loaded since the last one. -/
structure Report where
  plan : Plan
  answers : Answers
  task : MigrateGVGTask

/-- A failure is reported, and the unit is where its row says. -/
def Stalls (u : ExecuteUnit) (t : MigrateGVGTask) (s : State) : Prop :=
  t.finished = false ∧ t.failed = true ∧
    (s.rows.queryMigrateGVGUnit u.key).map (·.lastMigratedObjectID) = some t.lastMigratedObjectID

instance (u : ExecuteUnit) (t : MigrateGVGTask) (s : State) : Decidable (Stalls u t s) :=
  inferInstanceAs (Decidable (_ ∧ _))

/-- The state, and for each unit the failed reports in a row at one object. -/
structure Watched where
  state : State
  streak : BucketMigrateKey → Nat := fun _ => 0

variable (w : Watched) (r : Report)

def Watched.handle : Watched where
  state := updateMigrateProgress r.plan r.answers r.task w.state
  streak :=
    match r.plan.unit r.task.srcGvg.id with
    | none => w.streak
    | some u => update w.streak u.key (if Stalls u r.task w.state then w.streak u.key + 1 else 0)

def watch : Option Watched := some (w.handle r)

/-- A report that ends a streak finds no failures counted for its unit. -/
def NoneCounted : Prop :=
  ∀ u ∈ r.plan.unit r.task.srcGvg.id, ¬ Stalls u r.task w.state →
    ∀ row ∈ w.state.rows, row.migrateKey = u.key → row.retryTime = 0

instance (w : Watched) (r : Report) : Decidable (NoneCounted w r) :=
  inferInstanceAs (Decidable (∀ u ∈ _, _))

def Counted (streak : BucketMigrateKey → Nat) (rows : Rows) : Prop :=
  ∀ r ∈ rows, r.retryTime ≤ streak r.migrateKey

section
variable {p : Plan} {a : Answers} {u : ExecuteUnit} {t : MigrateGVGTask} {s : State}
  {streak : BucketMigrateKey → Nat} (h : Counted streak s.rows)
include h

/-- A report that does not stall takes the unit further or to its end. -/
theorem moves_spec (hu : p.unit t.srcGvg.id = some u) (hmoves : ¬ Stalls u t s) :
    Counted streak (updateMigrateProgress p a t s).rows ∧
      (updateMigrateProgress p a t s).rejectMigrateBucket = s.rejectMigrateBucket := by
  have hprogress : Counted streak (updateProgress p u t s).rows := Rows.forall_change h fun _ hr => hr
  have hstatus : Counted streak (s.rows.updateMigrateGVGUnitStatus u.key .migrated) :=
    Rows.forall_change h fun _ hr => hr
  simp only [updateMigrateProgress, hu]
  split
  · rw [updateMigrateGVGStatus_eq]
    split
    · unfold sendCompleteMigrateBucketTx
      split <;> exact ⟨hstatus, rfl⟩
    · exact ⟨hstatus, rfl⟩
  next hfinished =>
    split
    next hfailed =>
      split
      · exact ⟨h, rfl⟩
      rename_i hrow
      rw [if_neg]
      · exact ⟨hprogress, rfl⟩
      · intro hlast
        exact hmoves ⟨by simpa using hfinished, hfailed, by rw [hrow, hlast, Option.map_some]⟩
    · exact ⟨hprogress, rfl⟩

theorem stalls_spec (hu : p.unit t.srcGvg.id = some u) (hstalls : Stalls u t s) :
    Counted (update streak u.key (streak u.key + 1)) (updateMigrateProgress p a t s).rows ∧
      (s.rejectMigrateBucket < (updateMigrateProgress p a t s).rejectMigrateBucket →
        migrateGVGTaskMaxRetry ≤ streak u.key + 1) := by
  obtain ⟨hfinished, hfailed, hlast⟩ := hstalls
  obtain ⟨row, hrow, hid⟩ := Option.map_eq_some_iff.mp hlast
  have hle := h row (mem_of_find?_eq_some hrow)
  have hkey := find?_some hrow
  rw [of_decide_eq_true hkey] at hle
  have hmore : Counted (update streak u.key (streak u.key + 1)) s.rows := by
    intro r hr
    have hr := h r hr
    rw [update_apply]
    split
    next heq =>
      rw [heq] at hr
      exact Nat.le_succ_of_le hr
    · exact hr
  simp only [updateMigrateProgress, hu, hfinished, hfailed, hrow, hid, Bool.false_eq_true, if_false, if_true]
  split
  next hretry =>
    refine ⟨?_, fun _ => Nat.le_trans hretry (Nat.succ_le_succ hle)⟩
    unfold rejectBucketMigration
    split <;> exact hmore
  · refine ⟨Table.forall_update (fun r _ hr => ?_) fun r hr _ => hmore r hr,
      fun hlt => absurd hlt (Nat.lt_irrefl _)⟩
    rw [hr, update_self]
    exact Nat.succ_le_succ hle

end

theorem handle_spec {w : Watched} {r : Report} (h : Counted w.streak w.state.rows) (hcond : NoneCounted w r) :
    Counted (w.handle r).streak (w.handle r).state.rows ∧
      (w.state.rejectMigrateBucket < (w.handle r).state.rejectMigrateBucket →
        ∃ u ∈ r.plan.gvgUnitMap, migrateGVGTaskMaxRetry ≤ (w.handle r).streak u.key) := by
  unfold Watched.handle
  cases hu : r.plan.unit r.task.srcGvg.id with
  | none =>
    simp only [updateMigrateProgress, hu]
    exact ⟨h, fun hlt => absurd hlt (Nat.lt_irrefl _)⟩
  | some u =>
    by_cases hstalls : Stalls u r.task w.state
    · obtain ⟨hcounted, hreject⟩ := stalls_spec h hu hstalls
      simp only [if_pos hstalls]
      exact ⟨hcounted, fun hlt => ⟨u, (Plan.mem_of_unit hu).1, by rw [update_self]; exact hreject hlt⟩⟩
    simp only [if_neg hstalls]
    have hnone : Counted (update w.streak u.key 0) w.state.rows := by
      intro row hrow
      rw [update_apply]
      split
      next heq => exact (hcond u hu hstalls row hrow heq).le
      · exact h row hrow
    obtain ⟨hcounted, hsame⟩ := moves_spec hnone hu hstalls
    exact ⟨hcounted, fun hlt => absurd hlt (by rw [hsame]; exact Nat.lt_irrefl _)⟩

/-- A migration is rejected only when it stops making progress, in a run in which no report ends a
streak when failures are counted. -/
theorem rejected_when_stalled {s : State} {w : Watched} {r : Report} (hnew : ∀ row ∈ s.rows, row.retryTime = 0)
    (hrun : Run watch NoneCounted { state := s } w) (hcond : NoneCounted w r)
    (hreject : w.state.rejectMigrateBucket < (w.handle r).state.rejectMigrateBucket) :
    ∃ u ∈ r.plan.gvgUnitMap, migrateGVGTaskMaxRetry ≤ (w.handle r).streak u.key := by
  refine (handle_spec ?_ hcond).2 hreject
  clear hcond hreject
  induction hrun with
  | start => exact fun row hrow => (hnew row hrow).le
  | step _ hcond hstep ih =>
    cases hstep
    exact (handle_spec ih hcond).1

/-- The executor reports where it is with the first unit. -/
def reportAt (lastMigratedObjectID : Nat) (failed : Bool) : Report where
  plan := bothUnits
  answers := bothGVGs
  task := { finishedTask 5 with finished := false, failed, lastMigratedObjectID }

theorem rejected_when_stalled_sample :
    ∃ w, ∃ u ∈ bothUnits.gvgUnitMap, migrateGVGTaskMaxRetry ≤ (Watched.handle w (reportAt 7 true)).streak u.key := by
  obtain ⟨w, hrun, hcond, hreject⟩ : ∃ w, Run watch NoneCounted
      { state := start twoGVGs bothGVGs {} } w ∧ NoneCounted w (reportAt 7 true) ∧
      w.state.rejectMigrateBucket < (w.handle (reportAt 7 true)).state.rejectMigrateBucket :=
    Run.exists_of_exec (reportAt 7 false :: replicate 4 (reportAt 7 true)) (by decide +kernel)
  exact ⟨w, rejected_when_stalled (by decide +kernel) hrun hcond hreject⟩

/-- Four failures, progress, and the next failure: the migration is rejected. -/
theorem rejected_after_progress :
    ∃ w, Run watch (fun _ _ => True) { state := start twoGVGs bothGVGs {} } w ∧
      w.state.rejectMigrateBucket < (w.handle (reportAt 7 true)).state.rejectMigrateBucket ∧
      ∀ u ∈ bothUnits.gvgUnitMap, (w.handle (reportAt 7 true)).streak u.key ≤ 1 :=
  Run.exists_of_exec (replicate 4 (reportAt 0 true) ++ [reportAt 7 false]) (by decide +kernel)

/-! ## A cancelled migration -/

/-- A migration, with the column MigratedBytesSize. -/
structure Reported where
  state : State := {}
  /-- What was last persisted for a unit, also when its row is deleted. -/
  migratedBytesSize : BucketMigrateKey → UInt64 := fun _ => 0

/-- UpdateMigrateGVGMigratedBytesSize. -/
def Reported.persist (m : Reported) (k : BucketMigrateKey) (migrateBytes : UInt64) : Reported :=
  if migrateBytes = 0 ∨ (m.state.rows.queryMigrateGVGUnit k).isNone then m
  else { m with migratedBytesSize := update m.migratedBytesSize k migrateBytes }

/-- HandleMigrateGVGTask, with the bytes of the task and the answer of the list call: the
MigratedBytesSize of the message to the source SP, if there is one. -/
def Reported.handleMigrateGVGTask (c : Context) (a : Answers) (t : MigrateGVGTask) (bytes : UInt64)
    (listFails : Bool) (m : Reported) : Option UInt64 × Reported :=
  let state := BucketMigrate.handleMigrateGVGTask a t m.state
  match m.state.plan with
  | some p =>
    match p.unit t.srcGvg.id with
    | none => (none, { m with state })
    | some u => (none, { m.persist u.key bytes with state })
  | none =>
    -- ListMigrateGVGUnitsByBucketID does not fill in the column
    let units := (m.state.rows.listMigrateGVGUnitsByBucketID c.bucketID).map fun _ => (0 : UInt64)
    (some (if listFails then 0 else units.sum), { m with state })

def Reported.cancelMigrateBucket (c : Context) (m : Reported) : Reported :=
  match m.state.plan with
  | none => m
  | some p =>
    { m with state := { m.state with
        plan := none
        migrateGVGQueue := m.state.migrateGVGQueue.filter fun t => (p.unit t.srcGvg.id).isNone
        rows := m.state.rows.deleteMigrateGVGUnitsByBucketID c.bucketID } }

/-- What was migrated of the bucket. -/
def Reported.migratedBytes (c : Context) (m : Reported) : Nat :=
  (c.primarySPGVGList.map fun g => (m.migratedBytesSize (makeBucketMigrateKey c.bucketID g.id)).toNat).sum

/-- The source SP is told what was migrated if and only if that is nothing. -/
theorem posted_bytes_iff (c : Context) (a : Answers) (t : MigrateGVGTask) (bytes posted : UInt64)
    (listFails : Bool) (m : Reported)
    (h : (m.handleMigrateGVGTask c a t bytes listFails).1 = some posted) :
    posted.toNat = m.migratedBytes c ↔
      ∀ g ∈ c.primarySPGVGList, m.migratedBytesSize (makeBucketMigrateKey c.bucketID g.id) = 0 := by
  have hzero : posted = 0 := by
    unfold Reported.handleMigrateGVGTask at h
    split at h
    · split at h <;> cases h
    cases h
    split
    · rfl
    · induction m.state.rows.listMigrateGVGUnitsByBucketID c.bucketID with
      | nil => rfl
      | cons _ _ ih => rw [map_cons, sum_cons, ih, UInt64.zero_add]
  rw [hzero, UInt64.toNat_zero, eq_comm, Reported.migratedBytes, sum_eq_zero_iff]
  simp [← UInt64.toNat_inj]

/-- The migration is cancelled when one of its two units has been migrated. -/
def halfMigrated (bytes : UInt64) : Reported :=
  (Reported.handleMigrateGVGTask twoGVGs bothGVGs (finishedTask 5) bytes false
    { state := start twoGVGs bothGVGs {} }).2.cancelMigrateBucket twoGVGs

theorem posted_bytes_sample : (0 : UInt64).toNat = (halfMigrated 0).migratedBytes twoGVGs :=
  (posted_bytes_iff twoGVGs bothGVGs (finishedTask 6) 0 0 false _ rfl).mpr (by decide)

/-- 100 bytes were migrated, and the source SP is told none. -/
theorem posted_bytes_lost :
    ((halfMigrated 100).handleMigrateGVGTask twoGVGs bothGVGs (finishedTask 6) 0 false).1 = some 0 ∧
      (halfMigrated 100).migratedBytes twoGVGs = 100 :=
  ⟨rfl, by decide⟩

end Manager.BucketMigrate

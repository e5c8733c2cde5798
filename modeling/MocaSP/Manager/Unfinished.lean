-- SUMMARY: Whether a bucket migration goes on to its end after restarts.
import Mathlib.Data.List.Perm.Subperm
import MocaSP.Manager.Destinations

/-!
# Unfinished units of a bucket migration

The scheduler pushes a task for a unit that is WaitForMigrate, and the message that
completes the migration is sent when the set of finished units in memory has grown to
the whole plan. A restart empties the queue and the set, and reads the status of each unit from
its row: a unit that was Migrating is not pushed again, and one that was Migrated is
not counted again. So the migration goes on if the process is restarted before the
first unit was pushed or after the message was sent.
-/

namespace Manager.BucketMigrate
open List Plan BucketMigrateKey Table BucketMigrate

variable {c : Context} {units : List ExecuteUnit} {s s' : State} {p : Plan} {u : ExecuteUnit}
  {a : Answers} {t : MigrateGVGTask} {id : Nat}

def gvgIDs (units : List ExecuteUnit) : List Nat := units.map (·.srcGVG.id)

def State.Queued (s : State) (gvgID : Nat) : Prop := ∃ t ∈ s.migrateGVGQueue, t.srcGvg.id = gvgID

/-- What a migration with these units is to keep. -/
structure GoesOn (units : List ExecuteUnit) (s : State) : Prop where
  /-- The scheduler comes back to every unit that was not reported finished. -/
  pushed : ∀ id ∈ gvgIDs units, id ∉ s.reportedFinished → (schedulePass s).Queued id
  completed : s.completeMigrateBucket ≠ [] ↔ ∀ id ∈ gvgIDs units, id ∈ s.reportedFinished

/-- The bucket is on chain, and is migrating while its plan is loaded. -/
def CallsSucceed (_ : State) : Act → Prop
  | .start a | .restart _ a => a.migrating = true
  | .schedule _ => True
  | .report a _ => a.bucketExists = true

/-- The process stops before the first unit is pushed or after the message is sent. -/
def StopsOutside (s : State) : Act → Prop
  | .restart cut _ =>
    (∀ r ∈ (s.cut cut).rows, r.migrateStatus = .waitForMigrate) ∨
      (s.completeMigrateBucket ≠ [] ∧ ∀ r ∈ (s.cut cut).rows, r.migrateStatus = .migrated)
  | .start _ | .schedule _ | .report _ _ => True

instance (s : State) : DecidablePred (CallsSucceed s)
  | .start _ | .restart _ _ | .report _ _ => instDecidableEqBool _ _
  | .schedule _ => instDecidableTrue

instance (s : State) : DecidablePred (StopsOutside s)
  | .restart _ _ => instDecidableOr
  | .start _ | .schedule _ | .report _ _ => instDecidableTrue

/-! ## What is tracked -/

/-- A row is Migrated if its unit was reported finished. -/
def Told (s : State) : Prop :=
  ∀ r ∈ s.rows, r.migrateStatus = .migrated ↔ r.migrateKey.gvgID ∈ s.reportedFinished

/-- The plan in memory against what was reported. -/
structure Tracked (units : List ExecuteUnit) (s : State) (p : Plan) : Prop where
  keys : p.gvgUnitMap.map (·.key) = units.map (·.key)
  migrated : ∀ u ∈ p.gvgUnitMap, u.migrateStatus = .migrated ↔ u.srcGVG.id ∈ s.reportedFinished
  queued : ∀ u ∈ p.gvgUnitMap, u.migrateStatus = .migrating → s.Queued u.srcGVG.id
  nodup : p.finishedGvgUnits.Nodup
  finished : ∀ id ∈ p.finishedGvgUnits, id ∈ gvgIDs units ∧ id ∈ s.reportedFinished
  counted : s.completeMigrateBucket = [] →
    ∀ id ∈ gvgIDs units, id ∈ s.reportedFinished → id ∈ p.finishedGvgUnits
  completed : s.completeMigrateBucket ≠ [] ↔ ∀ id ∈ gvgIDs units, id ∈ s.reportedFinished

structure Progressing (c : Context) (units : List ExecuteUnit) (s : State) : Prop where
  first : FirstPlan c units
  rows : InStep c units s.rows
  told : Told s
  plan : ∃ p, s.plan = some p ∧ Tracked units s p

section

theorem gvgIDs_eq_of_keys {units' : List ExecuteUnit} (h : units'.map (·.key) = units.map (·.key)) :
    gvgIDs units' = gvgIDs units := by
  have hmap := congrArg (List.map gvgID) h
  rwa [map_map, map_map] at hmap

theorem mem_gvgIDs (hu : u ∈ units) : u.srcGVG.id ∈ gvgIDs units := mem_map_of_mem hu

theorem FirstPlan.gvgIDs_nodup (h : FirstPlan c units) : (gvgIDs units).Nodup := by
  have hids : gvgIDs units = c.primarySPGVGList.map (·.id) := by
    rw [← h.srcGVGs, map_map]
    rfl
  exact hids ▸ c.ids_nodup

theorem Plan.mem_of_unit (h : p.unit id = some u) : u ∈ p.gvgUnitMap ∧ u.srcGVG.id = id := by
  have hid := List.find?_some h
  exact ⟨mem_of_find?_eq_some h, of_decide_eq_true hid⟩

theorem Plan.unit_isSome (h : id ∈ gvgIDs p.gvgUnitMap) : ∃ u, p.unit id = some u := by
  obtain ⟨v, hv, rfl⟩ := mem_map.mp h
  exact Option.isSome_iff_exists.mp (List.find?_isSome.mpr ⟨v, hv, decide_eq_true rfl⟩)

theorem InStep.mem_gvgIDs {r : MigrateGVGRow} (h : InStep c units s.rows) (hr : r ∈ s.rows) :
    r.migrateKey.gvgID ∈ gvgIDs units := by
  obtain ⟨_, hu, hrow⟩ := h.row r hr
  exact hrow.key ▸ BucketMigrate.mem_gvgIDs hu

/-- Rows of one bucket are told apart by their GVGs. -/
theorem InStep.key_iff {r : MigrateGVGRow} (h : InStep c units s.rows) (hfirst : FirstPlan c units)
    (hr : r ∈ s.rows) (hu : u.key ∈ units.map (·.key)) :
    r.migrateKey = u.key ↔ r.migrateKey.gvgID = u.srcGVG.id := by
  obtain ⟨v, hv, hrow⟩ := h.row r hr
  obtain ⟨w, hw, hkey⟩ := mem_map.mp hu
  have hbucket : r.migrateKey.bucketID = u.key.bucketID := by
    rw [hrow.key, ← hkey]
    exact (hfirst.fresh v hv).bucket.trans (hfirst.fresh w hw).bucket.symm
  constructor
  · exact fun heq => congrArg gvgID heq
  intro heq
  rcases hk : r.migrateKey with ⟨_, _⟩
  rw [hk] at hbucket heq
  exact BucketMigrateKey.mk.injEq .. ▸ ⟨hbucket, heq⟩

end

/-! ## Changing a unit -/

section
variable {f : ExecuteUnit → ExecuteUnit} {g : MigrateGVGRow → MigrateGVGRow}

theorem Plan.keys_changeUnit (hf : ∀ u, (f u).key = u.key) :
    (p.changeUnit id f).gvgUnitMap.map (·.key) = p.gvgUnitMap.map (·.key) :=
  map_update hf

/-- A change of rows that keeps their keys and statuses. -/
theorem Told.change {k : BucketMigrateKey} (h : Told s) (hkey : ∀ r, (g r).migrateKey = r.migrateKey)
    (hstatus : ∀ r, (g r).migrateStatus = r.migrateStatus) : Told { s with rows := s.rows.change k g } :=
  Rows.forall_change h fun r hr => by rw [hkey, hstatus]; exact hr

/-- A status is written to the row of a unit. -/
theorem Told.status {st : MigrateStatus} {reported : List Nat} (h : Told s) (hrows : InStep c units s.rows)
    (hfirst : FirstPlan c units) (hu : u.key ∈ units.map (·.key)) (hst : st ≠ .waitForMigrate)
    (hunit : st = .migrated ↔ u.srcGVG.id ∈ reported)
    (hothers : ∀ id, id ≠ u.srcGVG.id → (id ∈ reported ↔ id ∈ s.reportedFinished)) :
    Told { s with rows := s.rows.updateMigrateGVGUnitStatus u.key st, reportedFinished := reported } := by
  simp only [Told, Rows.updateMigrateGVGUnitStatus, if_neg hst]
  refine forall_update ?_ ?_
  · intro _ _ hkey
    rw [hkey]
    exact hunit
  · intro r hr hkey
    rw [hothers _ fun heq => hkey ((hrows.key_iff hfirst hr hu).mpr heq)]
    exact h r hr

end

/-! ## Scheduling -/

/-- A unit that waits is pushed, unless the queue has a task for it. -/
theorem schedule_cases (id : Nat) (s : State) :
    (schedule id s = s ∧ ∀ p u, s.plan = some p → p.unit id = some u → u.migrateStatus = .waitForMigrate →
        s.Queued id) ∨
      ∃ p u, s.plan = some p ∧ p.unit id = some u ∧ u.migrateStatus = .waitForMigrate ∧
        schedule id s = { s with
          migrateGVGQueue := s.migrateGVGQueue ++ [{ srcGvg := u.srcGVG, destGvg := u.destGVG }]
          rows := s.rows.updateMigrateGVGUnitStatus u.key .migrating
          progress := some .migrateGvgDoing
          plan := some (p.changeUnit u.srcGVG.id fun u => { u with migrateStatus := .migrating }) } := by
  rcases hp : s.plan with _ | p
  · exact .inl ⟨by simp [schedule, hp], by simp⟩
  rcases hu : p.unit id with _ | u
  · refine .inl ⟨by simp [schedule, hp, hu], ?_⟩
    rintro _ _ ⟨⟩ hu'
    rw [hu] at hu'
    cases hu'
  by_cases hst : u.migrateStatus = .waitForMigrate
  · by_cases hqueue : s.migrateGVGQueue.any (·.srcGvg.id = u.srcGVG.id) = true
    · refine .inl ⟨by simp [schedule, hp, hu, scheduleUnit, hst, push, pushTask, hqueue], ?_⟩
      intro _ _ _ _ _
      obtain ⟨t, ht, hid⟩ := any_eq_true.mp hqueue
      exact ⟨t, ht, (of_decide_eq_true hid).trans (mem_of_unit hu).2⟩
    · exact .inr ⟨p, u, rfl, hu, hst, by simp [schedule, hp, hu, scheduleUnit, hst, push, pushTask, hqueue]⟩
  · refine .inl ⟨by simp [schedule, hp, hu, scheduleUnit, hst], ?_⟩
    rintro _ _ ⟨⟩ hu' hst'
    rw [hu] at hu'
    cases hu'
    exact absurd hst' hst

theorem schedule_reported : (schedule id s).reportedFinished = s.reportedFinished := by
  rcases schedule_cases id s with ⟨heq, -⟩ | ⟨p, u, -, -, -, heq⟩ <;> rw [heq]

theorem State.Queued.schedule {id' : Nat} (h : s.Queued id') : (schedule id s).Queued id' := by
  obtain ⟨t, ht, hid⟩ := h
  rcases schedule_cases id s with ⟨heq, -⟩ | ⟨p, u, -, -, -, heq⟩ <;> rw [heq]
  · exact ⟨t, ht, hid⟩
  · exact ⟨t, mem_append_left _ ht, hid⟩

theorem Tracked.key_mem (h : Tracked units s p) (hu : u ∈ p.gvgUnitMap) : u.key ∈ units.map (·.key) :=
  h.keys ▸ mem_map_of_mem hu

section
variable (h : Progressing c units s)
include h

namespace Progressing

theorem schedule (id : Nat) : Progressing c units (schedule id s) := by
  rcases schedule_cases id s with ⟨heq, -⟩ | ⟨_, u, hp, hu, hst, heq⟩ <;> rw [heq]
  · exact h
  obtain ⟨_, hq, htracked⟩ := h.plan
  rw [hp] at hq
  cases hq
  have hmem := (mem_of_unit hu).1
  have hunreported : u.srcGVG.id ∉ s.reportedFinished := by
    intro hin
    have := (htracked.migrated u hmem).mpr hin
    rw [hst] at this
    cases this
  refine ⟨h.first, h.rows.status u.key .migrating, ?_, _, rfl, ?_⟩
  · exact h.told.status h.rows h.first (htracked.key_mem hmem) (by decide) (by simp [hunreported]) fun _ _ => .rfl
  exact
    { htracked with
      keys := by rw [← htracked.keys]; exact keys_changeUnit fun _ => rfl
      migrated := by
        refine forall_update ?_ fun v hv _ => htracked.migrated v hv
        intro _ _ hid
        simpa [hid] using hunreported
      queued := by
        refine forall_update ?_ ?_
        · intro _ _ hid _
          exact ⟨_, mem_append_right _ (.head _), hid.symm⟩
        · intro v hv _ hmigrating
          obtain ⟨t, ht, hid⟩ := htracked.queued v hv hmigrating
          exact ⟨t, mem_append_left _ ht, hid⟩ }

/-- After the scheduler came to a unit that was not reported finished, it has a task. -/
theorem schedule_queued (hid : id ∈ gvgIDs units)
    (hunreported : id ∉ s.reportedFinished) : (BucketMigrate.schedule id s).Queued id := by
  obtain ⟨p, hp, htracked⟩ := h.plan
  rcases schedule_cases id s with ⟨heq, hqueued⟩ | ⟨q, u, hq, hu, hst, heq⟩ <;> rw [heq]
  · obtain ⟨u, hu⟩ := unit_isSome (gvgIDs_eq_of_keys htracked.keys ▸ hid)
    obtain ⟨hmem, rfl⟩ := mem_of_unit hu
    rcases hst : u.migrateStatus with _ | _ | _
    · exact hqueued p u hp hu hst
    · exact htracked.queued u hmem hst
    · exact absurd ((htracked.migrated u hmem).mp hst) hunreported
  · exact ⟨_, mem_append_right _ (.head _), (mem_of_unit hu).2⟩

/-- The loop over units comes to each of them. -/
theorem queued_of_mem {ids : List Nat} (hmem : id ∈ ids) (hid : id ∈ gvgIDs units)
    (hunreported : id ∉ s.reportedFinished) :
    (ids.foldl (fun s id => BucketMigrate.schedule id s) s).Queued id := by
  have hkept : ∀ (ids : List Nat) (s : State), s.Queued id →
      (ids.foldl (fun s id => BucketMigrate.schedule id s) s).Queued id := by
    intro ids
    induction ids with
    | nil => exact fun _ h => h
    | cons _ _ ih => exact fun s h => ih _ h.schedule
  induction ids generalizing s with
  | nil => cases hmem
  | cons id' ids ih =>
    rcases mem_cons.mp hmem with rfl | hmem
    · exact hkept ids _ (h.schedule_queued hid hunreported)
    · exact ih (h.schedule id') hmem (by rw [schedule_reported]; exact hunreported)

theorem goesOn : GoesOn units s := by
  obtain ⟨p, hp, htracked⟩ := h.plan
  refine ⟨?_, htracked.completed⟩
  intro id hid hunreported
  rw [schedulePass, hp]
  have hids : p.gvgUnitMap.map (·.srcGVG.id) = gvgIDs units := gvgIDs_eq_of_keys htracked.keys
  exact h.queued_of_mem (hids ▸ hid) hid hunreported

end Progressing

/-! ## Reports -/

end

/-- A report is taken: the task leaves the queue, or is pushed again if it is not finished. -/
def received (t : MigrateGVGTask) (s : State) : State :=
  { s with
    migrateGVGQueue := if t.finished then popByKey s.migrateGVGQueue t
      else popByKey s.migrateGVGQueue t ++ [t]
    reportedFinished := if t.finished then t.srcGvg.id :: s.reportedFinished else s.reportedFinished }

theorem handleMigrateGVGTask_eq (hp : s.plan = some p) :
    handleMigrateGVGTask a t s = updateMigrateProgress p a t (received t s) := by
  simp [handleMigrateGVGTask, hp, received]

theorem queued_popByKey (hid : id ≠ t.srcGvg.id) (h : s.Queued id) :
    ∃ t' ∈ popByKey s.migrateGVGQueue t, t'.srcGvg.id = id := by
  obtain ⟨t', ht', rfl⟩ := h
  exact ⟨t', mem_filter.mpr ⟨ht', decide_eq_true hid⟩, rfl⟩

/-- A report of an unfinished task changes how far the unit has come, its retries or nothing. -/
theorem unfinished_cases (hu : p.unit t.srcGvg.id = some u) (ht : t.finished = false) :
    updateMigrateProgress p a t s = s ∨
      updateMigrateProgress p a t s = rejectBucketMigration a s ∨
      (∃ n, updateMigrateProgress p a t s = { s with rows := s.rows.updateMigrateGVGRetryCount u.key n }) ∨
      updateMigrateProgress p a t s = updateProgress p u t s := by
  simp only [updateMigrateProgress, hu, ht, Bool.false_eq_true, if_false]
  split
  · split
    · exact .inl rfl
    split
    · split
      · exact .inr (.inl rfl)
      · exact .inr (.inr (.inl ⟨_, rfl⟩))
    · exact .inr (.inr (.inr rfl))
  · exact .inr (.inr (.inr rfl))

theorem received_unfinished (ht : t.finished = false) :
    received t s = { s with migrateGVGQueue := popByKey s.migrateGVGQueue t ++ [t] } := by
  simp [received, ht]

theorem received_finished (ht : t.finished = true) : received t s = { s with
      migrateGVGQueue := popByKey s.migrateGVGQueue t
      reportedFinished := t.srcGvg.id :: s.reportedFinished } := by
  simp [received, ht]

theorem Told.unfinished (h : Told s) (hu : p.unit t.srcGvg.id = some u) (ht : t.finished = false) :
    Told (updateMigrateProgress p a t s) := by
  rcases unfinished_cases hu ht with heq | heq | ⟨_, heq⟩ | heq <;> rw [heq]
  · exact h
  · rw [rejectBucketMigration]
    split <;> exact h
  · exact h.change (fun _ => rfl) fun _ => rfl
  · exact h.change (fun _ => rfl) fun _ => rfl

theorem Tracked.received_unfinished (h : Tracked units s p) (ht : t.finished = false) :
    Tracked units (received t s) p := by
  rw [BucketMigrate.received_unfinished ht]
  refine { h with queued := ?_ }
  intro u hu hmigrating
  by_cases hid : u.srcGVG.id = t.srcGvg.id
  · exact ⟨t, mem_append_right _ (.head _), hid.symm⟩
  · obtain ⟨t', ht', hid'⟩ := queued_popByKey hid (h.queued u hu hmigrating)
    exact ⟨t', mem_append_left _ ht', hid'⟩

theorem Tracked.unfinished (h : Tracked units s p) (hp : s.plan = some p)
    (hu : p.unit t.srcGvg.id = some u) (ht : t.finished = false) :
    ∃ p', (updateMigrateProgress p a t s).plan = some p' ∧
      Tracked units (updateMigrateProgress p a t s) p' := by
  rcases unfinished_cases hu ht with heq | heq | ⟨_, heq⟩ | heq <;> rw [heq]
  · exact ⟨p, hp, h⟩
  · rw [rejectBucketMigration]
    split <;> exact ⟨p, hp, { h with }⟩
  · exact ⟨p, hp, { h with }⟩
  refine ⟨_, rfl, { h with keys := ?_, migrated := ?_, queued := ?_ }⟩
  · rw [← h.keys]
    exact keys_changeUnit fun _ => rfl
  · exact forall_update (fun v hv _ => h.migrated v hv) fun v hv _ => h.migrated v hv
  · exact forall_update (fun v hv _ => h.queued v hv) fun v hv _ => h.queued v hv

/-- The plan with a unit that was reported finished. -/
def finishedUnit (p : Plan) (gvgID : Nat) : Plan :=
  { p.changeUnit gvgID fun u => { u with migrateStatus := .migrated } with
    finishedGvgUnits := p.finishedGvgUnits.insert gvgID }

theorem updateMigrateGVGStatus_eq : updateMigrateGVGStatus p a u .migrated s =
    if (finishedUnit p u.srcGVG.id).finishedGvgUnits.length = p.gvgUnitMap.length then
      sendCompleteMigrateBucketTx (finishedUnit p u.srcGVG.id) a (syncBucketQuotaFromSrcSP { s with
        rows := s.rows.updateMigrateGVGUnitStatus u.key .migrated
        plan := some (finishedUnit p u.srcGVG.id) })
    else { s with
      rows := s.rows.updateMigrateGVGUnitStatus u.key .migrated
      plan := some (finishedUnit p u.srcGVG.id) } := by
  simp [updateMigrateGVGStatus, finishedUnit, changeUnit]

section
variable (h : Tracked units s p) (hu : u ∈ p.gvgUnitMap)
include h hu

theorem Tracked.finished_counted : (finishedUnit p u.srcGVG.id).finishedGvgUnits.Nodup ∧
    ∀ id ∈ (finishedUnit p u.srcGVG.id).finishedGvgUnits,
      id ∈ gvgIDs units ∧ id ∈ u.srcGVG.id :: s.reportedFinished := by
  refine ⟨h.nodup.insert, ?_⟩
  intro id hid
  rcases mem_insert_iff.mp hid with rfl | hid
  · exact ⟨gvgIDs_eq_of_keys h.keys ▸ mem_gvgIDs hu, .head _⟩
  · exact ⟨(h.finished id hid).1, .tail _ (h.finished id hid).2⟩

theorem Tracked.length_finishedUnit (hfirst : FirstPlan c units) :
    (finishedUnit p u.srcGVG.id).finishedGvgUnits.length = p.gvgUnitMap.length ↔
      ∀ id ∈ gvgIDs units, id ∈ (finishedUnit p u.srcGVG.id).finishedGvgUnits := by
  have hlen : p.gvgUnitMap.length = (gvgIDs units).length := by
    rw [← gvgIDs_eq_of_keys h.keys]
    exact (length_map _).symm
  obtain ⟨hnodup, hsub⟩ := h.finished_counted hu
  have hperm := subperm_of_subset hnodup fun id hid => (hsub id hid).1
  rw [hlen]
  constructor
  · intro hlen _ hid
    exact (hperm.perm_of_length_le hlen.ge).mem_iff.mpr hid
  · intro hall
    exact Nat.le_antisymm hperm.length_le (subperm_of_subset hfirst.gvgIDs_nodup hall).length_le

/-- The message is sent with the report that completes the set. -/
theorem Tracked.finishedUnit (hfirst : FirstPlan c units) (hid : t.srcGvg.id = u.srcGVG.id)
    (hqueue : s'.migrateGVGQueue = popByKey s.migrateGVGQueue t)
    (hreported : s'.reportedFinished = u.srcGVG.id :: s.reportedFinished)
    (hsent : s'.completeMigrateBucket ≠ [] ↔ s.completeMigrateBucket ≠ [] ∨
      (finishedUnit p u.srcGVG.id).finishedGvgUnits.length = p.gvgUnitMap.length) :
    Tracked units s' (finishedUnit p u.srcGVG.id) := by
  obtain ⟨hnodup, hsub⟩ := h.finished_counted hu
  have hcounted : s.completeMigrateBucket = [] → ∀ id ∈ gvgIDs units,
      id ∈ u.srcGVG.id :: s.reportedFinished → id ∈ (BucketMigrate.finishedUnit p u.srcGVG.id).finishedGvgUnits := by
    intro hnone id hid hin
    rcases mem_cons.mp hin with rfl | hin
    · exact mem_insert_self
    · exact mem_insert_of_mem (h.counted hnone id hid hin)
  exact
    { keys := by rw [← h.keys]; exact keys_changeUnit fun _ => rfl
      migrated := by
        rw [hreported]
        refine forall_update ?_ ?_
        · intro _ _ hv
          simp [hv]
        · intro v hv hne
          simpa [hne] using h.migrated v hv
      queued := by
        refine forall_update ?_ ?_
        · intro _ _ _ hmigrating
          cases hmigrating
        · intro v hv hne hmigrating
          obtain ⟨t', ht', hid'⟩ := queued_popByKey (hid ▸ hne) (h.queued v hv hmigrating)
          exact ⟨t', hqueue ▸ ht', hid'⟩
      nodup := hnodup
      finished := hreported ▸ hsub
      counted := by
        intro hnone
        rw [hreported]
        exact hcounted (Classical.byContradiction fun hsome => hsent.mpr (.inl hsome) hnone)
      completed := by
        rw [hsent, hreported, h.length_finishedUnit hu hfirst]
        constructor
        · rintro (hsome | hall) id hid
          · exact .tail _ (h.completed.mp hsome id hid)
          · exact (hsub id (hall id hid)).2
        intro hall
        by_cases hnone : s.completeMigrateBucket = []
        · exact .inr fun id hid => hcounted hnone id hid (hall id hid)
        · exact .inl hnone }

end

theorem updateMigrateGVGStatus_fields (hexists : a.bucketExists = true) :
    (updateMigrateGVGStatus p a u .migrated s).plan = some (finishedUnit p u.srcGVG.id) ∧
      (updateMigrateGVGStatus p a u .migrated s).migrateGVGQueue = s.migrateGVGQueue ∧
      ((updateMigrateGVGStatus p a u .migrated s).completeMigrateBucket ≠ [] ↔ s.completeMigrateBucket ≠ [] ∨
        (finishedUnit p u.srcGVG.id).finishedGvgUnits.length = p.gvgUnitMap.length) := by
  rw [updateMigrateGVGStatus_eq]
  split
  next hall => simp [sendCompleteMigrateBucketTx, hexists, syncBucketQuotaFromSrcSP, hall]
  next hsome => simp [hsome]

theorem updateMigrateGVGStatus_told :
    (updateMigrateGVGStatus p a u .migrated s).rows = s.rows.updateMigrateGVGUnitStatus u.key .migrated ∧
      (updateMigrateGVGStatus p a u .migrated s).reportedFinished = s.reportedFinished := by
  rw [updateMigrateGVGStatus_eq]
  split
  · rw [sendCompleteMigrateBucketTx]
    split <;> exact ⟨rfl, rfl⟩
  · exact ⟨rfl, rfl⟩

/-- A task of a GVG that the plan has no unit for is popped, and nothing more. -/
theorem Tracked.received_unknown (h : Tracked units s p) (hu : p.unit t.srcGvg.id = none) :
    t.srcGvg.id ∉ gvgIDs units ∧ Tracked units (received t s) p := by
  have hunknown : t.srcGvg.id ∉ gvgIDs units := by
    intro hin
    obtain ⟨_, hu'⟩ := unit_isSome (gvgIDs_eq_of_keys h.keys ▸ hin)
    rw [hu] at hu'
    cases hu'
  refine ⟨hunknown, ?_⟩
  rcases hfin : t.finished with _ | _
  · exact h.received_unfinished hfin
  have hne : ∀ id ∈ gvgIDs units, id ≠ t.srcGvg.id := fun id hid heq => hunknown (heq ▸ hid)
  have hunit : ∀ v ∈ p.gvgUnitMap, v.srcGVG.id ≠ t.srcGvg.id := fun v hv =>
    hne _ (gvgIDs_eq_of_keys h.keys ▸ mem_gvgIDs hv)
  have hmem : ∀ id ∈ gvgIDs units, id ∈ t.srcGvg.id :: s.reportedFinished ↔ id ∈ s.reportedFinished :=
    fun id hid => by simp [hne id hid]
  rw [received_finished hfin]
  exact
    { h with
      migrated := fun v hv => by simpa [hunit v hv] using h.migrated v hv
      queued := fun v hv hmigrating => queued_popByKey (hunit v hv) (h.queued v hv hmigrating)
      finished := fun id hid => ⟨(h.finished id hid).1, .tail _ (h.finished id hid).2⟩
      counted := fun hnone id hid hin => h.counted hnone id hid ((hmem id hid).mp hin)
      completed := h.completed.trans (forall₂_congr fun id hid => (hmem id hid).symm) }

theorem Told.report (h : Told s) (hrows : InStep c units s.rows) (hfirst : FirstPlan c units)
    (hp : s.plan = some p) (htracked : Tracked units s p) : Told (handleMigrateGVGTask a t s) := by
  rw [handleMigrateGVGTask_eq hp]
  rcases hu : p.unit t.srcGvg.id with _ | u
  · simp only [updateMigrateProgress, hu]
    intro r hr
    have hne : r.migrateKey.gvgID ≠ t.srcGvg.id := fun heq =>
      (htracked.received_unknown hu).1 (heq ▸ hrows.mem_gvgIDs hr)
    rcases hfin : t.finished with _ | _
    · rw [received_unfinished hfin] at hr ⊢
      exact h r hr
    · rw [received_finished hfin] at hr ⊢
      simpa [hne] using h r hr
  · obtain ⟨hmem, hid⟩ := mem_of_unit hu
    rcases hfin : t.finished with _ | _
    · have hreceived : Told (received t s) := by
        rw [received_unfinished hfin]
        exact h
      exact hreceived.unfinished hu hfin
    · simp only [updateMigrateProgress, hu, hfin, if_true]
      obtain ⟨hrows', hreported⟩ := @updateMigrateGVGStatus_told (received t s) p u a
      rw [received_finished hfin, ← hid] at hrows' hreported
      rw [Told, received_finished hfin, ← hid, hrows', hreported]
      refine h.status hrows hfirst (htracked.key_mem hmem) (show MigrateStatus.migrated ≠ _ by decide)
        (show _ ↔ u.srcGVG.id ∈ u.srcGVG.id :: s.reportedFinished by simp) fun id hid => ?_
      simp [hid]

theorem Tracked.report (h : Tracked units s p) (hfirst : FirstPlan c units) (hp : s.plan = some p)
    (hexists : a.bucketExists = true) :
    ∃ p', (handleMigrateGVGTask a t s).plan = some p' ∧ Tracked units (handleMigrateGVGTask a t s) p' := by
  rw [handleMigrateGVGTask_eq hp]
  have hplan : (received t s).plan = some p := hp
  rcases hu : p.unit t.srcGvg.id with _ | u
  · simp only [updateMigrateProgress, hu]
    exact ⟨p, hplan, (h.received_unknown hu).2⟩
  rcases hfin : t.finished with _ | _
  · exact (h.received_unfinished hfin).unfinished hplan hu hfin
  simp only [updateMigrateProgress, hu, hfin, if_true]
  obtain ⟨hmem, hid⟩ := mem_of_unit hu
  obtain ⟨hplan', hqueue, hsent⟩ := @updateMigrateGVGStatus_fields (received t s) p u a hexists
  have hreported := (@updateMigrateGVGStatus_told (received t s) p u a).2
  refine ⟨_, hplan', h.finishedUnit hmem hfirst hid.symm ?_ ?_ hsent⟩
  · rw [hqueue, received_finished hfin]
  · rw [hreported, received_finished hfin, hid]

/-! ## Restarts -/

theorem Progressing.loaded (h : Progressing c units s) : Loaded c units s := by
  obtain ⟨_, hp, -⟩ := h.plan
  exact ⟨h.rows, by rw [hp]; rfl⟩

theorem Progressing.report (h : Progressing c units s) (hexists : a.bucketExists = true) :
    Progressing c units (handleMigrateGVGTask a t s) := by
  obtain ⟨_, hp, htracked⟩ := h.plan
  exact ⟨h.first, (h.loaded.report a t).rows, h.told.report h.rows h.first hp htracked,
    htracked.report h.first hp hexists⟩

theorem Progressing.told_cut (h : Progressing c units s) (cut : Cut) : Told (s.cut cut) := by
  obtain ⟨_, hp, htracked⟩ := h.plan
  cases cut with
  | idle => exact h.told
  | scheduling id =>
    have htold := (h.schedule id).told
    rw [Told, schedule_reported] at htold
    exact htold
  | reporting => exact h.told.report h.rows h.first hp htracked

theorem reported_cut (cut : Cut) (hid : id ∈ s.reportedFinished) : id ∈ (s.cut cut).reportedFinished := by
  cases cut with
  | idle | scheduling => exact hid
  | reporting a t =>
    have hreceived : id ∈ (received t s).reportedFinished := by
      rw [received]
      split
      · exact .tail _ hid
      · exact hid
    rcases hp : s.plan with _ | p
    · simpa [State.cut, handleMigrateGVGTask, hp] using hid
    simp only [State.cut, handleMigrateGVGTask_eq hp]
    rcases hu : p.unit t.srcGvg.id with _ | u
    · simpa [updateMigrateProgress, hu] using hreceived
    rcases hfin : t.finished with _ | _
    · rcases @unfinished_cases (received t s) p u a t hu hfin with heq | heq | ⟨_, heq⟩ | heq <;> rw [heq]
      · exact hreceived
      · rw [rejectBucketMigration]
        split <;> exact hreceived
      · exact hreceived
      · exact hreceived
    · simp only [updateMigrateProgress, hu, hfin, if_true, updateMigrateGVGStatus_told.2]
      exact hreceived

/-- A reloaded plan tracks the units, if none of them was pushed or all of them are done. -/
theorem Told.reloaded {queue : List MigrateGVGTask} (h : Told s) (hrows : InStep c units s.rows)
    (hfirst : FirstPlan c units)
    (hcompleted : s.completeMigrateBucket ≠ [] → ∀ id ∈ gvgIDs units, id ∈ s.reportedFinished)
    (hstatus : (∀ r ∈ s.rows, r.migrateStatus = .waitForMigrate) ∨
      (s.completeMigrateBucket ≠ [] ∧ ∀ r ∈ s.rows, r.migrateStatus = .migrated)) :
    Tracked units { s with
      plan := some (reloaded c s.rows)
      migrateGVGQueue := queue
      rows := s.rows.map fun r => r.updates (rebuilt c r).row } (reloaded c s.rows) := by
  have hkeys : (s.rows.map (rebuilt c)).map (·.key) = units.map (·.key) :=
    (hrows.rebuilt_keys hfirst).trans hrows.keys
  have hunit : ∀ u ∈ s.rows.map (rebuilt c), ∃ r ∈ s.rows, u.migrateStatus = r.migrateStatus ∧
      u.srcGVG.id = r.migrateKey.gvgID := by
    intro _ hu
    obtain ⟨r, hr, rfl⟩ := mem_map.mp hu
    obtain ⟨_, hv, hrow⟩ := hrows.row r hr
    exact ⟨r, hr, rfl, congrArg gvgID (hfirst.rebuilt_key hv hrow)⟩
  exact
    { keys := hkeys
      migrated := by
        intro u hu
        obtain ⟨r, hr, hst, hid⟩ := hunit u hu
        rw [hst, hid]
        exact h r hr
      queued := by
        intro u hu hmigrating
        obtain ⟨r, hr, hst, -⟩ := hunit u hu
        rw [hst] at hmigrating
        rcases hstatus with hall | ⟨-, hall⟩ <;> exact absurd (hmigrating.symm.trans (hall r hr)) (by decide)
      nodup := nodup_nil
      finished := by simp [BucketMigrate.reloaded]
      counted := by
        intro hnone id hid hin
        rcases hstatus with hall | ⟨hsome, -⟩
        · obtain ⟨_, hu, rfl⟩ := mem_map.mp hid
          obtain ⟨r, hr, hrow⟩ := hrows.exists_row hfirst hu
          have hmigrated := (h r hr).mpr (by rw [hrow.key]; exact hin)
          exact absurd ((hall r hr).symm.trans hmigrated) (by decide)
        · exact absurd hnone hsome
      completed := by
        refine ⟨hcompleted, fun hall => ?_⟩
        rcases hstatus with hwait | ⟨hsome, -⟩
        · -- the plan has a unit, and its row would be Migrated
          obtain ⟨_, hu⟩ := exists_mem_of_ne_nil _ hfirst.nonempty
          obtain ⟨r, hr, _⟩ := hrows.exists_row hfirst hu
          have hmigrated := (h r hr).mpr (hall _ (hrows.mem_gvgIDs hr))
          exact absurd ((hwait r hr).symm.trans hmigrated) (by decide)
        · exact hsome }

theorem Progressing.restart {cut : Cut} (h : Progressing c units s)
    (hmigrating : a.migrating = true) (hstops : StopsOutside s (.restart cut a)) :
    Progressing c units (restart c a (s.cut cut)) := by
  obtain ⟨_, -, htracked⟩ := h.plan
  have hrows := (h.loaded.cut cut).rows
  have htold := h.told_cut cut
  have hsame : (s.cut cut).completeMigrateBucket = s.completeMigrateBucket := by cases cut <;> rfl
  rw [restart_eq hrows h.first hmigrating]
  refine ⟨h.first, hrows.restored h.first, ?_, _, rfl, htold.reloaded hrows h.first ?_ (by rw [hsame]; exact hstops)⟩
  · intro _ hr'
    obtain ⟨r, hr, rfl⟩ := mem_map.mp hr'
    have hstatus : (r.updates (rebuilt c r).row).migrateStatus = r.migrateStatus := ite_self _
    rw [hstatus]
    exact htold r hr
  · rw [hsame]
    exact fun hsome id hid => reported_cut cut (htracked.completed.mp hsome id hid)

/-! ## Runs -/

theorem start_eq (hp : (produceBucketMigrateExecutePlan c a false {}).1 = .ok (some p)) :
    start c a {} =
      { rows := storeToDB p.gvgUnitMap []
        progress := some .destSpPreDeductQuotaDone
        plan := some p } ∧
      p.finishedGvgUnits = [] := by
  unfold start produceBucketMigrateExecutePlan at *
  simp only [Bool.false_and, Bool.false_eq_true, if_false] at hp ⊢
  split at hp
  · cases hp
  rename_i hmigrating
  rw [if_neg hmigrating]
  split at hp
  · cases hp
  split at hp
  · cases hp
  simp only [storePlan] at hp ⊢
  split at hp
  · cases hp
  rename_i hne
  cases hp
  rw [if_neg hne]
  exact ⟨rfl, rfl⟩

theorem produced_progressing (hp : (produceBucketMigrateExecutePlan c a false {}).1 = .ok (some p)) :
    Progressing c p.gvgUnitMap (start c a {}) := by
  obtain ⟨hfirst, hloaded⟩ := produced_loaded hp
  obtain ⟨hstart, hfinished⟩ := start_eq hp
  have hwait : ∀ u ∈ p.gvgUnitMap, u.migrateStatus = .waitForMigrate := fun u hu => (hfirst.fresh u hu).status
  refine ⟨hfirst, hloaded.rows, ?_, p, by rw [hstart], ?_⟩
  · rw [hstart, storeToDB_eq_append hfirst.keys_nodup (by simp), nil_append]
    intro _ hr
    obtain ⟨u, hu, rfl⟩ := mem_map.mp hr
    simp [ExecuteUnit.row, hwait u hu]
  · rw [hstart]
    exact
      { keys := rfl
        migrated := fun u hu => by simp [hwait u hu]
        queued := fun u hu hmigrating => absurd ((hwait u hu).symm.trans hmigrating) (by decide)
        nodup := hfinished ▸ nodup_nil
        finished := by simp [hfinished]
        counted := by simp
        completed := by
          obtain ⟨_, hu⟩ := exists_mem_of_ne_nil _ hfirst.nonempty
          refine ⟨fun h => absurd rfl h, fun hall => ?_⟩
          exact absurd (hall _ (mem_gvgIDs hu)) not_mem_nil }

theorem Progressing.step {act : Act} (h : Progressing c units s) (hcalls : CallsSucceed s act)
    (hstops : StopsOutside s act) (hstep : step c s act = some s') :
    Progressing c units s' := by
  cases act with
  | start a =>
    cases hstep
    have hsame : start c a s = s := by
      simp [start, produceBucketMigrateExecutePlan, show a.migrating = true from hcalls,
        h.loaded.plan, keepPlan]
    rw [hsame]
    exact h
  | schedule id =>
    cases hstep
    exact h.schedule id
  | report =>
    cases hstep
    exact h.report hcalls
  | restart =>
    cases hstep
    exact h.restart hcalls hstops

theorem migration_goes_on_after_restarts (c : Context) (a : Answers) (p : Plan) (s : State)
    (hproduced : (produceBucketMigrateExecutePlan c a false {}).1 = .ok (some p))
    (hrun : Run (step c) (fun s act => CallsSucceed s act ∧ StopsOutside s act) (start c a {}) s) :
    GoesOn p.gvgUnitMap s := by
  have hprogressing : Progressing c p.gvgUnitMap s :=
    hrun.invariant (produced_progressing hproduced) fun _ _ _ h hact hstep => h.step hact.1 hact.2 hstep
  exact hprogressing.goesOn

/-- A bucket with two GVGs that migrates from SP 1 to SP 2. -/
def twoGVGs : Context :=
  { oneGVG with
    primarySPGVGList := [⟨5, 1, 1, [3, 4], 0⟩, ⟨6, 1, 1, [4, 3], 0⟩]
    ids_nodup := by decide }

/-- The destination SP has a GVG for each of them. -/
def bothGVGs : Answers where
  planner :=
    { isExiting := fun _ => some false
      otherSPs := fun _ => []
      gvgs := fun _ => [⟨8, 8, 2, [3, 4], 0, 10⟩, ⟨9, 8, 2, [4, 3], 0, 10⟩]
      creates := fun _ => false }

def bothUnits : Plan where
  bucketID := 1
  srcSP := 1
  gvgUnitMap :=
    [⟨1, ⟨5, 1, 1, [3, 4], 0⟩, 1, 2, .waitForMigrate, 8, 0, ⟨8, 8, 2, [3, 4], 10⟩⟩,
      ⟨1, ⟨6, 1, 1, [4, 3], 0⟩, 1, 2, .waitForMigrate, 9, 0, ⟨9, 8, 2, [4, 3], 10⟩⟩]

/-- The report that the unit of a GVG is finished. -/
def finishedTask (gvgID : Nat) : MigrateGVGTask :=
  { srcGvg := ⟨gvgID, 1, 1, [], 0⟩, destGvg := ⟨8, 8, 2, [], 0⟩, finished := true }

/-- A restart before the first unit is pushed, and one after the message is sent. -/
theorem migration_goes_on_after_restarts_sample :
    ∃ s, Run (step twoGVGs) (fun s act => CallsSucceed s act ∧ StopsOutside s act)
        (start twoGVGs bothGVGs {}) s ∧ s.completeMigrateBucket ≠ [] ∧ GoesOn bothUnits.gvgUnitMap s := by
  obtain ⟨s, hrun, hsent⟩ : ∃ s, Run (step twoGVGs)
      (fun s act => CallsSucceed s act ∧ StopsOutside s act) (start twoGVGs bothGVGs {}) s ∧
      s.completeMigrateBucket ≠ [] :=
    Run.exists_of_exec [.restart .idle bothGVGs, .schedule 5, .schedule 6, .report bothGVGs (finishedTask 6),
        .report bothGVGs (finishedTask 5), .restart .idle bothGVGs] (by decide +kernel)
  exact ⟨s, hrun, hsent,
    migration_goes_on_after_restarts twoGVGs bothGVGs bothUnits s (by rfl) hrun⟩

/-- One of two units was reported finished when the process is restarted: the other one, which is
Migrating in its row, gets no task. -/
theorem migrating_unit_not_pushed_after_restart :
    (produceBucketMigrateExecutePlan twoGVGs bothGVGs false {}).1 = .ok (some bothUnits) ∧
      ∃ s, Run (step twoGVGs) CallsSucceed (start twoGVGs bothGVGs {}) s ∧
        ¬ GoesOn bothUnits.gvgUnitMap s := by
  obtain ⟨s, hrun, hlost⟩ : ∃ s, Run (step twoGVGs) CallsSucceed (start twoGVGs bothGVGs {}) s ∧
      6 ∉ s.reportedFinished ∧ (schedulePass s).migrateGVGQueue = [] :=
    Run.exists_of_exec [.schedule 5, .schedule 6, .report bothGVGs (finishedTask 5),
      .restart .idle bothGVGs] (by decide +kernel)
  obtain ⟨hunreported, hqueue⟩ := hlost
  refine ⟨by rfl, s, hrun, ?_⟩
  intro hgoes
  obtain ⟨_, ht, -⟩ := hgoes.pushed 6 (by decide) hunreported
  rw [hqueue] at ht
  cases ht

end Manager.BucketMigrate

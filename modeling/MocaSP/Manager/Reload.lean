-- SUMMARY: What a restart makes of the rows of a bucket migration's units.
import Mathlib.Data.List.Nodup
import MocaSP.Base.Run
import MocaSP.Base.Table
import MocaSP.Manager.BucketMigrate

/-!
# Reloading a bucket migration

The rows of a plan stay in step with its units: storing a new plan writes one row
for each unit, and every other action changes rows in place. So a restart finds one
row for each GVG of the bucket, rebuilds a unit from each, and stores the units over
the rows they came from.
-/

namespace Manager.BucketMigrate
open List Manager.BucketMigrate.ExecuteUnit MigrateGVGRow Table Rows

/-! ## Rows -/

namespace Rows

variable {rows : Rows} {k : BucketMigrateKey} {f : MigrateGVGRow → MigrateGVGRow}

theorem keys_change (hf : ∀ r, (f r).migrateKey = r.migrateKey) :
    (rows.change k f).map (·.migrateKey) = rows.map (·.migrateKey) :=
  map_update hf

/-- What holds of every row and is kept by the change holds of every row after it. -/
theorem forall_change {P : MigrateGVGRow → Prop} (h : ∀ r ∈ rows, P r) (hf : ∀ r, P r → P (f r)) :
    ∀ r ∈ rows.change k f, P r :=
  forall_update (fun r hr _ => hf r (h r hr)) fun r hr _ => h r hr

end Rows

section
variable {units : List ExecuteUnit} {rows : Rows}

/-- A plan that has no rows yet gets one for each unit. -/
theorem storeToDB_eq_append (hnodup : (units.map (·.key)).Nodup)
    (hnew : ∀ u ∈ units, ∀ r ∈ rows, r.migrateKey ≠ u.key) :
    storeToDB units rows = rows ++ units.map (·.row) := by
  induction units generalizing rows with
  | nil => simp [storeToDB]
  | cons u _ ih =>
    rw [map_cons, nodup_cons] at hnodup
    have habsent : ¬ rows.any (·.migrateKey = u.row.migrateKey) = true := by
      intro h
      obtain ⟨r, hr, hkey⟩ := any_eq_true.mp h
      exact hnew u (.head _) r hr (of_decide_eq_true hkey)
    have hinsert : rows.insertMigrateGVGUnit u.row = rows ++ [u.row] := if_neg habsent
    have hrest := @ih (rows ++ [u.row]) hnodup.2 ?_
    · rw [storeToDB, foldl_cons, hinsert]
      rw [storeToDB] at hrest
      rw [hrest]
      simp
    · intro v hv r hr
      rcases mem_append.mp hr with hr | hr
      · exact hnew v (.tail u hv) r hr
      · obtain rfl := mem_singleton.mp hr
        exact fun heq : u.key = v.key => hnodup.1 (heq ▸ mem_map_of_mem hv)

/-- The row that storing the units leaves of a row. -/
def restored (units : List ExecuteUnit) (r : MigrateGVGRow) : MigrateGVGRow :=
  match units.find? (·.key = r.migrateKey) with
  | some u => r.updates u.row
  | none => r

/-- Units that all have a row are stored in place. -/
theorem storeToDB_eq_map (hnodup : (units.map (·.key)).Nodup)
    (hold : ∀ u ∈ units, u.key ∈ rows.map (·.migrateKey)) :
    storeToDB units rows = rows.map (restored units) := by
  induction units generalizing rows with
  | nil =>
    rw [storeToDB, foldl_nil]
    exact (map_id rows).symm
  | cons u units ih =>
    rw [map_cons, nodup_cons] at hnodup
    have hhas : rows.any (·.migrateKey = u.row.migrateKey) = true := by
      obtain ⟨r, hr, hkey⟩ := mem_map.mp (hold u (.head _))
      exact any_eq_true.mpr ⟨r, hr, decide_eq_true hkey⟩
    have hinsert : rows.insertMigrateGVGUnit u.row = rows.change u.key (·.updates u.row) := by
      rw [insertMigrateGVGUnit, if_pos hhas]
      rfl
    have hkeys : (rows.change u.key (·.updates u.row)).map (·.migrateKey) = rows.map (·.migrateKey) :=
      keys_change fun _ => rfl
    have hrest := @ih (rows.change u.key (·.updates u.row)) hnodup.2
      (hkeys ▸ fun v hv => hold v (.tail u hv))
    rw [storeToDB, foldl_cons, hinsert]
    rw [storeToDB] at hrest
    rw [hrest, change, map_map]
    refine map_congr_left fun r _ => ?_
    simp only [Function.comp_apply, restored, List.find?_cons]
    by_cases hkey : r.migrateKey = u.key
    · -- no later unit has the key of the first
      have hnone : units.find? (·.key = (r.updates u.row).migrateKey) = none :=
        find?_eq_none (hkey ▸ hnodup.1)
      simp [hkey, hnone]
    · have hne : ¬ u.key = r.migrateKey := fun h => hkey h.symm
      simp [hkey, hne]

end

/-! ## The first plan -/

/-- A unit as generateMigrateBucketUnitsFromMemory makes it. -/
structure Fresh (c : Context) (u : ExecuteUnit) : Prop where
  bucket : u.bucketID = c.bucketID
  src : u.srcSP = c.srcSP
  dest : u.destSP = c.destSP
  status : u.migrateStatus = .waitForMigrate
  last : u.lastMigratedObjectID = 0
  destGVG : u.destGVG.id = u.destGVGID

section
variable {c : Context} {a : Answers} {units : List ExecuteUnit} {p : Plan} {s : State}

theorem unitsFrom_fresh {P : Planner} {pick family : Nat} {gvgs : List GlobalVirtualGroup}
    (h : unitsFrom P c.bucketID c.srcSP c.destSP pick family gvgs = .ok units) :
    units.map (·.srcGVG) = gvgs ∧ ∀ u ∈ units, Fresh c u := by
  induction gvgs generalizing pick family units with
  | nil =>
    cases h
    simp
  | cons _ _ ih =>
    obtain ⟨_, -, h⟩ := Except.bind_eq_ok.mp h
    obtain ⟨_, -, h⟩ := Except.bind_eq_ok.mp h
    obtain ⟨_, hrest, h⟩ := Except.bind_eq_ok.mp h
    cases h
    obtain ⟨hsrc, hfresh⟩ := ih hrest
    refine ⟨by rw [map_cons, hsrc]; rfl, ?_⟩
    intro u hu
    rcases mem_cons.mp hu with rfl | hu
    · exact ⟨rfl, rfl, rfl, rfl, rfl, rfl⟩
    · exact hfresh u hu

/-- The plan of a migration that has no rows yet, and what is stored with it. -/
theorem produced_fresh (hrows : s.rows = []) (hp : (produceBucketMigrateExecutePlan c a false s).1 =
      .ok (some p)) :
    p.gvgUnitMap.map (·.srcGVG) = c.primarySPGVGList ∧ (∀ u ∈ p.gvgUnitMap, Fresh c u) ∧
      p.gvgUnitMap ≠ [] ∧
      (produceBucketMigrateExecutePlan c a false s).2.rows = storeToDB p.gvgUnitMap [] := by
  unfold produceBucketMigrateExecutePlan at hp ⊢
  simp only [Bool.false_and, Bool.false_eq_true, if_false] at hp ⊢
  split at hp
  · cases hp
  split at hp
  · cases hp
  rename_i hmigrating hplan
  rw [if_neg hmigrating, if_neg hplan]
  split at hp
  · cases hp
  rename_i hunits
  simp only [storePlan] at hp ⊢
  split at hp
  · cases hp
  rename_i hne
  cases hp
  rw [if_neg hne]
  obtain ⟨hsrc, hfresh⟩ := unitsFrom_fresh hunits
  exact ⟨hsrc, hfresh, hne, by simp [hrows]⟩

end

/-! ## Rows of a plan -/

/-- What stays of the row of a unit of the first plan. -/
structure RowFor (c : Context) (u : ExecuteUnit) (r : MigrateGVGRow) : Prop where
  key : r.migrateKey = u.key
  gvg : r.globalVirtualGroupID = u.srcGVG.id
  bucket : r.bucketID = c.bucketID
  src : r.srcSPID = c.srcSP
  dest : r.destSPID = c.destSP
  destGVG : u.destGVG.id = c.destSP → r.destGlobalVirtualGroupID = u.destGVG.id

/-- A first plan: one unit for each GVG of the bucket. -/
structure FirstPlan (c : Context) (units : List ExecuteUnit) : Prop where
  srcGVGs : units.map (·.srcGVG) = c.primarySPGVGList
  fresh : ∀ u ∈ units, Fresh c u
  nonempty : units ≠ []

/-- The rows in step with the units of the first plan. -/
structure InStep (c : Context) (units : List ExecuteUnit) (rows : Rows) : Prop where
  keys : rows.map (·.migrateKey) = units.map (·.key)
  row : ∀ r ∈ rows, ∃ u ∈ units, RowFor c u r

section
variable {c : Context} {units : List ExecuteUnit} {rows : Rows} {r : MigrateGVGRow} {u : ExecuteUnit}

theorem FirstPlan.keys_nodup (h : FirstPlan c units) : (units.map (·.key)).Nodup := by
  have hkeys : units.map (·.key) = (c.primarySPGVGList.map (·.id)).map (makeBucketMigrateKey c.bucketID) := by
    rw [← h.srcGVGs, map_map, map_map]
    refine map_congr_left fun u hu => ?_
    simp [key, (h.fresh u hu).bucket]
  rw [hkeys]
  exact List.Nodup.map (fun i j hij => (BucketMigrateKey.mk.inj hij).2) c.ids_nodup

theorem FirstPlan.inStep (h : FirstPlan c units) : InStep c units (storeToDB units []) := by
  rw [storeToDB_eq_append h.keys_nodup (by simp), nil_append]
  refine ⟨by rw [map_map]; rfl, ?_⟩
  intro _ hr
  obtain ⟨u, hu, rfl⟩ := mem_map.mp hr
  have hfresh := h.fresh u hu
  exact ⟨u, hu, rfl, rfl, hfresh.bucket, hfresh.src, hfresh.dest, fun _ => hfresh.destGVG.symm⟩

section
variable (h : InStep c units rows)
include h

/-- A change of a row that keeps what no report changes. -/
theorem InStep.change {k : BucketMigrateKey} {f : MigrateGVGRow → MigrateGVGRow}
    (hkey : ∀ r, (f r).migrateKey = r.migrateKey) (hf : ∀ u r, RowFor c u r → RowFor c u (f r)) :
    InStep c units (rows.change k f) where
  keys := by rw [keys_change hkey, h.keys]
  row := forall_change h.row fun r ⟨u, hu, hr⟩ => ⟨u, hu, hf u r hr⟩

theorem InStep.nodup (hu : FirstPlan c units) :
    (rows.map (·.migrateKey)).Nodup := h.keys ▸ hu.keys_nodup

theorem InStep.exists_row (hfirst : FirstPlan c units) (hu : u ∈ units) :
    ∃ r ∈ rows, RowFor c u r := by
  have hkey : u.key ∈ rows.map (·.migrateKey) := h.keys ▸ mem_map_of_mem hu
  obtain ⟨r, hr, hrkey⟩ := mem_map.mp hkey
  obtain ⟨v, hv, hrow⟩ := h.row r hr
  have hfind := find?_of_mem hfirst.keys_nodup hv
  rw [show v.key = u.key from hrow.key.symm.trans hrkey, find?_of_mem hfirst.keys_nodup hu] at hfind
  cases hfind
  exact ⟨r, hr, hrow⟩

theorem InStep.status (k : BucketMigrateKey) (st : MigrateStatus) :
    InStep c units (rows.updateMigrateGVGUnitStatus k st) := by
  rw [updateMigrateGVGUnitStatus]
  split
  · exact h
  · exact h.change (fun _ => rfl) fun _ _ hr => { hr with }

end

end

/-! ## A restart -/

/-- The GVG of the bucket that a row names. -/
def Context.srcGVG (c : Context) (r : MigrateGVGRow) : GlobalVirtualGroup :=
  (c.primarySPGVGList.find? (·.id = r.globalVirtualGroupID)).getD ⟨0, 0, 0, [], 0⟩

/-- The unit that is rebuilt from a row. -/
def rebuilt (c : Context) (r : MigrateGVGRow) : ExecuteUnit :=
  newBucketMigrateGVGExecuteUnit c.bucketID (c.srcGVG r) r.srcSPID r.destSPID r.migrateStatus r.destSPID
    r.lastMigratedObjectID (c.queryGlobalVirtualGroup r.destGlobalVirtualGroupID)

section
variable {c : Context} {units : List ExecuteUnit} {rows : Rows} {r : MigrateGVGRow} {u : ExecuteUnit}

theorem FirstPlan.find_srcGVG (h : FirstPlan c units) (hu : u ∈ units) :
    c.primarySPGVGList.find? (·.id = u.srcGVG.id) = some u.srcGVG :=
  find?_of_mem c.ids_nodup (h.srcGVGs ▸ mem_map_of_mem hu)

theorem InStep.list (h : InStep c units rows) : rows.listMigrateGVGUnitsByBucketID c.bucketID = rows := by
  refine filter_eq_self.mpr fun r hr => ?_
  obtain ⟨_, -, hrow⟩ := h.row r hr
  exact decide_eq_true hrow.bucket

theorem InStep.consistent (h : InStep c units rows) (hfirst : FirstPlan c units) :
    checkGVGMetaConsistent c.primarySPGVGList rows = true := by
  have hlength : c.primarySPGVGList.length = rows.length := by
    rw [← hfirst.srcGVGs, length_map, ← length_map (·.key), ← h.keys, length_map]
  simp only [checkGVGMetaConsistent, Bool.and_eq_true, decide_eq_true_eq, all_eq_true, any_eq_true]
  refine ⟨⟨hlength, ?_⟩, ?_⟩
  · intro _ hg
    obtain ⟨_, hu, rfl⟩ := mem_map.mp (hfirst.srcGVGs ▸ hg)
    obtain ⟨r, hr, hrow⟩ := h.exists_row hfirst hu
    exact ⟨r, hr, hrow.gvg⟩
  · intro r hr
    obtain ⟨u, hu, hrow⟩ := h.row r hr
    exact ⟨u.srcGVG, hfirst.srcGVGs ▸ mem_map_of_mem hu, hrow.gvg.symm⟩

theorem FirstPlan.srcGVG_eq (hfirst : FirstPlan c units) (hu : u ∈ units) (h : RowFor c u r) :
    c.srcGVG r = u.srcGVG := by
  rw [Context.srcGVG, h.gvg, hfirst.find_srcGVG hu, Option.getD_some]

theorem FirstPlan.rebuilt_key (hfirst : FirstPlan c units) (hu : u ∈ units) (h : RowFor c u r) :
    (rebuilt c r).key = r.migrateKey := by
  rw [h.key, key, key, (hfirst.fresh u hu).bucket]
  exact congrArg (fun g => makeBucketMigrateKey c.bucketID (GlobalVirtualGroup.id g))
    (hfirst.srcGVG_eq hu h)

section
variable (h : InStep c units rows) (hfirst : FirstPlan c units)
include h hfirst

theorem InStep.generate_eq : generateMigrateBucketUnitsFromDB c rows = rows.map (rebuilt c) := by
  rw [generateMigrateBucketUnitsFromDB, h.list, ← filterMap_eq_map]
  refine filterMap_congr fun r hr => ?_
  obtain ⟨_, hu, hrow⟩ := h.row r hr
  simp [rebuilt, hfirst.srcGVG_eq hu hrow, hrow.gvg, hfirst.find_srcGVG hu]

theorem InStep.rebuilt_keys : (rows.map (rebuilt c)).map (·.key) = rows.map (·.migrateKey) := by
  rw [map_map]
  refine map_congr_left fun r hr => ?_
  obtain ⟨_, hu, hrow⟩ := h.row r hr
  exact hfirst.rebuilt_key hu hrow

/-- A rebuilt plan is stored over the rows that it was rebuilt from. -/
theorem InStep.storeToDB_rebuilt :
    storeToDB (rows.map (rebuilt c)) rows = rows.map fun r => r.updates (rebuilt c r).row := by
  have hkeys := h.rebuilt_keys hfirst
  have hnodup : ((rows.map (rebuilt c)).map (·.key)).Nodup := hkeys ▸ h.nodup hfirst
  rw [storeToDB_eq_map hnodup fun u hu => hkeys ▸ mem_map_of_mem hu]
  refine map_congr_left fun r hr => ?_
  obtain ⟨_, hu, hrow⟩ := h.row r hr
  have hfind := find?_of_mem hnodup (mem_map_of_mem hr)
  rw [hfirst.rebuilt_key hu hrow] at hfind
  rw [restored, hfind]

end

/-- What storing a rebuilt unit makes of its row. -/
theorem FirstPlan.rowFor_updates (hfirst : FirstPlan c units) (hu : u ∈ units) (h : RowFor c u r) :
    RowFor c u (r.updates (rebuilt c r).row) where
  key := h.key
  gvg := by
    have hid : (rebuilt c r).srcGVG.id = u.srcGVG.id := congrArg (·.id) (hfirst.srcGVG_eq hu h)
    simp [updates, row, hid, h.gvg]
  bucket := by simp [updates, row, rebuilt, newBucketMigrateGVGExecuteUnit, h.bucket]
  src := by simp [updates, row, rebuilt, newBucketMigrateGVGExecuteUnit, h.src]
  dest := by simp [updates, row, rebuilt, newBucketMigrateGVGExecuteUnit, h.dest]
  destGVG := fun heq => by
    simp [updates, row, rebuilt, newBucketMigrateGVGExecuteUnit, h.dest, h.destGVG heq, ← heq]

theorem InStep.restored (h : InStep c units rows) (hfirst : FirstPlan c units) :
    InStep c units (rows.map fun r => r.updates (rebuilt c r).row) where
  keys := by
    rw [map_map]
    exact h.keys
  row := by
    intro _ hr'
    obtain ⟨r, hr, rfl⟩ := mem_map.mp hr'
    obtain ⟨u, hu, hrow⟩ := h.row r hr
    exact ⟨u, hu, hfirst.rowFor_updates hu hrow⟩

/-- The plan after a restart. -/
def reloaded (c : Context) (rows : Rows) : Plan :=
  { bucketID := c.bucketID, srcSP := c.srcSP, gvgUnitMap := rows.map (rebuilt c) }

theorem restart_eq {a : Answers} {s : State} (h : InStep c units s.rows) (hfirst : FirstPlan c units)
    (ha : a.migrating = true) : restart c a s = { s with
      plan := some (reloaded c s.rows)
      migrateGVGQueue := []
      rows := s.rows.map fun r => r.updates (rebuilt c r).row } := by
  have hne : s.rows.map (rebuilt c) ≠ [] := by
    intro hnil
    have hkeys : units.map (·.key) = [] := by rw [← h.keys, map_eq_nil_iff.mp hnil, map_nil]
    exact hfirst.nonempty (map_eq_nil_iff.mp hkeys)
  have hproduce : produceBucketMigrateExecutePlan c a true { s with plan := none, migrateGVGQueue := [] } =
      (.ok (some (reloaded c s.rows)), { s with
        plan := none
        migrateGVGQueue := []
        rows := s.rows.map fun r => r.updates (rebuilt c r).row }) := by
    simp [produceBucketMigrateExecutePlan, ha, h.list, h.consistent hfirst, h.generate_eq hfirst,
      storePlan, hne, h.storeToDB_rebuilt hfirst, reloaded]
  rw [restart, hproduce, keepPlan]

end

/-! ## Runs -/

section
variable {c : Context} {units : List ExecuteUnit} {s s' : State}

/-- The bucket is migrating on chain while its plan is loaded. -/
def StillMigrating (_ : State) : Act → Prop
  | .start a | .restart _ a => a.migrating = true
  | .schedule _ | .report _ _ => True

instance (s : State) (act : Act) : Decidable (StillMigrating s act) := by
  cases act <;> dsimp only [StillMigrating] <;> infer_instance

/-- A plan is loaded and its rows are in step. -/
structure Loaded (c : Context) (units : List ExecuteUnit) (s : State) : Prop where
  rows : InStep c units s.rows
  plan : s.plan.isSome = true

section
variable (h : Loaded c units s)
include h

theorem Loaded.schedule (gvgID : Nat) : Loaded c units (schedule gvgID s) := by
  obtain ⟨_, hp⟩ := Option.isSome_iff_exists.mp h.plan
  rw [BucketMigrate.schedule, hp]
  dsimp only
  split
  · exact h
  rename_i u _
  rw [scheduleUnit]
  split
  · exact h
  · split
    · exact h
    · exact ⟨h.rows.status u.key .migrating, rfl⟩

theorem Loaded.updateStatus (p : Plan) (a : Answers) (u : ExecuteUnit)
    (st : MigrateStatus) : Loaded c units (updateMigrateGVGStatus p a u st s) := by
  rw [updateMigrateGVGStatus]
  split
  · rw [sendCompleteMigrateBucketTx]
    split <;> exact ⟨h.rows.status _ _, rfl⟩
  · exact ⟨h.rows.status _ _, rfl⟩

theorem Loaded.updateProgress (p : Plan) (a : Answers) (t : MigrateGVGTask) :
    Loaded c units (updateMigrateProgress p a t s) := by
  rw [updateMigrateProgress]
  split
  · exact h
  rename_i u _
  have hlast : Loaded c units (BucketMigrate.updateProgress p u t s) :=
    ⟨h.rows.change (fun _ => rfl) fun _ _ hr => { hr with }, rfl⟩
  split
  · exact h.updateStatus p a u .migrated
  split
  · split
    · exact h
    split
    · split
      · rw [rejectBucketMigration]
        split <;> exact { h with }
      · exact ⟨h.rows.change (fun _ => rfl) fun _ _ hr => { hr with }, h.plan⟩
    · exact hlast
  · exact hlast

theorem Loaded.report (a : Answers) (t : MigrateGVGTask) :
    Loaded c units (handleMigrateGVGTask a t s) := by
  obtain ⟨p, hp⟩ := Option.isSome_iff_exists.mp h.plan
  rw [handleMigrateGVGTask, hp]
  have hqueue : Loaded c units { s with
      migrateGVGQueue := if t.finished then popByKey s.migrateGVGQueue t
        else popByKey s.migrateGVGQueue t ++ [t]
      reportedFinished := if t.finished then t.srcGvg.id :: s.reportedFinished else s.reportedFinished } :=
    { h with }
  simpa [hp] using hqueue.updateProgress p a t

theorem Loaded.cut (cut : Cut) : Loaded c units (s.cut cut) := by
  cases cut with
  | idle => exact h
  | scheduling gvgID => exact ⟨(h.schedule gvgID).rows, h.plan⟩
  | reporting a t => exact ⟨(h.report a t).rows, h.plan⟩

end

theorem Loaded.step (hfirst : FirstPlan c units) {act : Act} (h : Loaded c units s)
    (hact : StillMigrating s act) (hstep : step c s act = some s') : Loaded c units s' := by
  cases act with
  | start a =>
    cases hstep
    -- the plan that is loaded is kept
    have hsame : BucketMigrate.start c a s = s := by
      simp [BucketMigrate.start, produceBucketMigrateExecutePlan, show a.migrating = true from hact,
        h.plan, keepPlan]
    rw [hsame]
    exact h
  | schedule gvgID =>
    cases hstep
    exact h.schedule gvgID
  | report a t =>
    cases hstep
    exact h.report a t
  | restart cut =>
    cases hstep
    have hrows := (h.cut cut).rows
    rw [restart_eq hrows hfirst hact]
    exact ⟨hrows.restored hfirst, rfl⟩

theorem produced_loaded {a : Answers} {p : Plan}
    (hp : (produceBucketMigrateExecutePlan c a false {}).1 = .ok (some p)) :
    FirstPlan c p.gvgUnitMap ∧ Loaded c p.gvgUnitMap (start c a {}) := by
  obtain ⟨hsrc, hfresh, hne, hrows⟩ := produced_fresh rfl hp
  have hfirst : FirstPlan c p.gvgUnitMap := ⟨hsrc, hfresh, hne⟩
  rcases hproduce : produceBucketMigrateExecutePlan c a false {} with ⟨_, _⟩
  rw [hproduce] at hp hrows
  cases hp
  rw [start, hproduce, keepPlan]
  exact ⟨hfirst, hrows ▸ hfirst.inStep, rfl⟩

end

end Manager.BucketMigrate

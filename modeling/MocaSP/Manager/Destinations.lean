-- SUMMARY: Whether a reloaded bucket migration names the GVGs that were picked.
import MocaSP.Manager.Reload

/-!
# Destinations of a reloaded plan

A unit names its destination twice: by the GVG, which executors migrate the data to,
and by the GVG's id, which goes into the row, into the mappings of
`MsgCompleteMigrateBucket` and into the documents that the secondary SPs sign. The unit
that is rebuilt from a row takes the id of the destination SP for the second.
-/

namespace Manager.BucketMigrate
open List

variable {c : Context} {units : List ExecuteUnit}

/-! ## What a reload is to keep -/

/-- What a reloaded unit `u'` is to keep of the unit `u` that was first planned for its GVG, with
the rows before the restart and after it. -/
structure KeepsDestination (rows rows' : Rows) (p' : Plan) (u u' : ExecuteUnit) : Prop where
  srcGVG : u'.srcGVG = u.srcGVG
  destGVGID : u'.destGVGID = u.destGVG.id
  destGVG : u'.destGVG.id = u.destGVG.id
  persisted : ∃ r, rows.queryMigrateGVGUnit u.key = some r ∧ u'.migrateStatus = r.migrateStatus ∧
    u'.lastMigratedObjectID = r.lastMigratedObjectID
  row : ∃ r, rows'.queryMigrateGVGUnit u.key = some r ∧ r.destGlobalVirtualGroupID = u.destGVG.id
  mapping : (p'.gvgMapping u').dstGlobalVirtualGroupId = u.destGVG.id
  signDoc : (p'.gvgMapping u').signDoc.dstGlobalVirtualGroupId = u.destGVG.id

/-- The plan after a restart has a unit for each unit that was first planned, with its
destination. -/
def ReloadKeeps (units : List ExecuteUnit) (s s' : State) : Prop :=
  ∃ p', s'.plan = some p' ∧ p'.gvgUnitMap.map (·.srcGVG) = units.map (·.srcGVG) ∧
    ∀ u ∈ units, ∃ u' ∈ p'.gvgUnitMap, KeepsDestination s.rows s'.rows p' u u'

theorem InStep.query {rows : Rows} {u : ExecuteUnit} {r : MigrateGVGRow} (h : InStep c units rows)
    (hfirst : FirstPlan c units) (hr : r ∈ rows) (hrow : RowFor c u r) :
    rows.queryMigrateGVGUnit u.key = some r :=
  hrow.key ▸ Table.find?_of_mem (h.nodup hfirst) hr

theorem InStep.rebuilt_srcGVGs {rows : Rows} (h : InStep c units rows) (hfirst : FirstPlan c units) :
    (rows.map (rebuilt c)).map (·.srcGVG) = units.map (·.srcGVG) := by
  -- both lists are read off the keys
  have hsrc : ∀ r ∈ rows, (rebuilt c r).srcGVG =
      (c.primarySPGVGList.find? (·.id = r.migrateKey.gvgID)).getD ⟨0, 0, 0, [], 0⟩ := by
    intro r hr
    obtain ⟨_, _, hrow⟩ := h.row r hr
    rw [hrow.key]
    show c.srcGVG r = _
    rw [Context.srcGVG, hrow.gvg]
    rfl
  have hunit : ∀ u ∈ units, u.srcGVG =
      (c.primarySPGVGList.find? (·.id = u.key.gvgID)).getD ⟨0, 0, 0, [], 0⟩ := by
    intro _ hu
    have hfind := hfirst.find_srcGVG hu
    exact (congrArg (Option.getD · _) hfind).symm
  have hmap := congrArg (List.map fun k : BucketMigrateKey =>
    (c.primarySPGVGList.find? (·.id = k.gvgID)).getD ⟨0, 0, 0, [], 0⟩) h.keys
  rw [map_map, map_map] at hmap
  rw [map_map]
  calc rows.map ((·.srcGVG) ∘ rebuilt c)
      = rows.map _ := map_congr_left hsrc
    _ = units.map _ := hmap
    _ = units.map (·.srcGVG) := (map_congr_left hunit).symm

theorem reloaded_plan_keeps_destinations (c : Context) (a a' : Answers) (p : Plan) (s : State)
    (hproduced : (produceBucketMigrateExecutePlan c a false {}).1 = .ok (some p))
    (hrun : Run (step c) StillMigrating (start c a {}) s) (hmigrating : a'.migrating = true) :
    ReloadKeeps p.gvgUnitMap s (restart c a' s) ↔ ∀ u ∈ p.gvgUnitMap, u.destGVG.id = c.destSP := by
  obtain ⟨hfirst, hstart⟩ := produced_loaded hproduced
  have hloaded : Loaded c p.gvgUnitMap s :=
    hrun.invariant hstart fun _ _ _ h hact hstep => h.step hfirst hact hstep
  have hrows := hloaded.rows
  rw [restart_eq hrows hfirst hmigrating]
  constructor
  · rintro ⟨_, ⟨⟩, -, hkeeps⟩ u hu
    obtain ⟨_, hu', hkeeps⟩ := hkeeps u hu
    obtain ⟨r, hr, rfl⟩ := mem_map.mp hu'
    obtain ⟨_, _, hrow⟩ := hrows.row r hr
    -- the rebuilt unit has the id of the destination SP
    exact hkeeps.destGVGID.symm.trans hrow.dest
  · intro hdest
    refine ⟨reloaded c s.rows, rfl, hrows.rebuilt_srcGVGs hfirst, ?_⟩
    intro u hu
    obtain ⟨r, hr, hrow⟩ := hrows.exists_row hfirst hu
    have hid : (rebuilt c r).destGVGID = u.destGVG.id := hrow.dest.trans (hdest u hu).symm
    have hrestored := hfirst.rowFor_updates hu hrow
    refine ⟨rebuilt c r, mem_map_of_mem hr, ?_⟩
    exact
      { srcGVG := hfirst.srcGVG_eq hu hrow
        destGVGID := hid
        destGVG := (c.query_id _).trans (hrow.destGVG (hdest u hu))
        persisted := ⟨r, hrows.query hfirst hr hrow, rfl, rfl⟩
        row := ⟨_, (hrows.restored hfirst).query hfirst (mem_map_of_mem hr) hrestored,
          hrestored.destGVG (hdest u hu)⟩
        mapping := hid
        signDoc := hid }

/-- A bucket with one GVG that migrates from SP 1 to SP 2. -/
def oneGVG : Context where
  bucketID := 1
  srcSP := 1
  destSP := 2
  primarySPGVGList := [⟨5, 1, 1, [3, 4], 0⟩]
  ids_nodup := by decide
  queryGlobalVirtualGroup := fun id => ⟨id, 8, 2, [3, 4], 0⟩
  query_id := fun _ => rfl

/-- The destination SP has one GVG. -/
def onlyGVG (id : Nat) : Answers where
  planner :=
    { isExiting := fun _ => some false
      otherSPs := fun _ => []
      gvgs := fun _ => [⟨id, 8, 2, [3, 4], 0, 10⟩]
      creates := fun _ => false }

/-- The unit that is planned for a GVG of SP 1 when the destination GVG is `id`. -/
def unitTo (id gvgID : Nat) : ExecuteUnit :=
  ⟨1, ⟨gvgID, 1, 1, [3, 4], 0⟩, 1, 2, .waitForMigrate, id, 0, ⟨id, 8, 2, [3, 4], 10⟩⟩

/-- A bucket with two GVGs of the same secondary SPs. -/
def likeGVGs : Context :=
  { oneGVG with
    primarySPGVGList := [⟨5, 1, 1, [3, 4], 0⟩, ⟨6, 1, 1, [3, 4], 0⟩]
    ids_nodup := by decide }

/-- One of two units is migrating and was reported at object 7 when the process is restarted. -/
theorem reloaded_plan_keeps_destinations_sample :
    ∃ s, Run (step likeGVGs) StillMigrating (start likeGVGs (onlyGVG 2) {}) s ∧
      s.rows.map (fun r => (r.migrateStatus, r.lastMigratedObjectID)) = [(.migrating, 7), (.waitForMigrate, 0)] ∧
      ReloadKeeps [unitTo 2 5, unitTo 2 6] s (restart likeGVGs (onlyGVG 2) s) := by
  obtain ⟨s, hrun, hrows⟩ : ∃ s, Run (step likeGVGs) StillMigrating (start likeGVGs (onlyGVG 2) {}) s ∧
      s.rows.map (fun r => (r.migrateStatus, r.lastMigratedObjectID)) = [(.migrating, 7), (.waitForMigrate, 0)] :=
    Run.exists_of_exec [.schedule 5, .report (onlyGVG 2)
      { srcGvg := (unitTo 2 5).srcGVG, destGvg := (unitTo 2 5).destGVG, lastMigratedObjectID := 7 }] (by decide)
  refine ⟨s, hrun, hrows, ?_⟩
  exact (reloaded_plan_keeps_destinations likeGVGs (onlyGVG 2) (onlyGVG 2)
    ⟨1, 1, [unitTo 2 5, unitTo 2 6], []⟩ s (by rfl) hrun rfl).mpr (by decide)

/-- GVG 9 is picked; after a restart its unit names GVG 2, and so does the row. -/
theorem reloaded_plan_names_destination_sp :
    ∃ p, (produceBucketMigrateExecutePlan oneGVG (onlyGVG 9) false {}).1 = .ok (some p) ∧
      ¬ ReloadKeeps p.gvgUnitMap (start oneGVG (onlyGVG 9) {})
        (restart oneGVG (onlyGVG 9) (start oneGVG (onlyGVG 9) {})) := by
  refine ⟨⟨1, 1, [unitTo 9 5], []⟩, by rfl, ?_⟩
  rintro ⟨_, hp', -, hkeeps⟩
  obtain ⟨u', hu', hkeeps⟩ := hkeeps (unitTo 9 5) (.head _)
  have hids : (restart oneGVG (onlyGVG 9) (start oneGVG (onlyGVG 9) {})).plan.map
      (fun p => p.gvgUnitMap.map (·.destGVGID)) = some [2] := by rfl
  rw [hp', Option.map_some, Option.some.injEq] at hids
  have hid : u'.destGVGID ∈ [2] := hids ▸ mem_map_of_mem hu'
  rw [hkeeps.destGVGID] at hid
  exact absurd hid (by decide)

end Manager.BucketMigrate

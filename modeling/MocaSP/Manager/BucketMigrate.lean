-- SUMMARY: The destination SP's plan for a bucket migration.
import MocaSP.Base.Table
import MocaSP.Manager.BucketPlan
import MocaSP.Manager.Queue
import MocaSP.Quota.Migration

/-!
# Bucket migration at the destination SP

The plan of a migration is kept in memory, with a row in the database for each of
its units. A loop pushes a task for each unit that waits; executors report progress
and, in the end, that a unit is finished. With the report of the last unit
`MsgCompleteMigrateBucket` is sent. At a start of the process the plan is rebuilt from
the rows, and the queue is empty.

The state is that of one bucket: plans, rows and tasks are kept under its id. Calls
to the database, to the chain and to other SPs succeed here, with the answers that
the actions carry. An update of a row writes the fields that are not zero.
-/

namespace Manager.BucketMigrate

open Migration (BucketMigrationState)
open Table (written)

/-! ## Rows -/

structure BucketMigrateKey where
  bucketID : Nat
  gvgID : Nat
  deriving DecidableEq

def makeBucketMigrateKey (bucketID gvgID : Nat) : BucketMigrateKey := ⟨bucketID, gvgID⟩

def ExecuteUnit.key (u : ExecuteUnit) : BucketMigrateKey := makeBucketMigrateKey u.bucketID u.srcGVG.id

structure MigrateGVGRow where
  migrateKey : BucketMigrateKey
  globalVirtualGroupID : Nat
  destGlobalVirtualGroupID : Nat
  virtualGroupFamilyID : Nat
  bucketID : Nat
  srcSPID : Nat
  destSPID : Nat
  lastMigratedObjectID : Nat
  migrateStatus : MigrateStatus
  retryTime : Nat := 0

def MigrateGVGRow.updates (old new : MigrateGVGRow) : MigrateGVGRow where
  migrateKey := old.migrateKey
  globalVirtualGroupID := written 0 old.globalVirtualGroupID new.globalVirtualGroupID
  destGlobalVirtualGroupID := written 0 old.destGlobalVirtualGroupID new.destGlobalVirtualGroupID
  virtualGroupFamilyID := written 0 old.virtualGroupFamilyID new.virtualGroupFamilyID
  bucketID := written 0 old.bucketID new.bucketID
  srcSPID := written 0 old.srcSPID new.srcSPID
  destSPID := written 0 old.destSPID new.destSPID
  lastMigratedObjectID := written 0 old.lastMigratedObjectID new.lastMigratedObjectID
  migrateStatus := written .waitForMigrate old.migrateStatus new.migrateStatus
  retryTime := written 0 old.retryTime new.retryTime

/-- The table of units. -/
abbrev Rows := List MigrateGVGRow

/-- What is fixed for a migration. -/
structure Context where
  bucketID : Nat
  srcSP : Nat
  destSP : Nat
  /-- The GVGs of the bucket at the source SP. -/
  primarySPGVGList : List GlobalVirtualGroup
  ids_nodup : (primarySPGVGList.map (·.id)).Nodup
  /-- The GVG under an id on chain. -/
  queryGlobalVirtualGroup : Nat → GlobalVirtualGroup
  query_id : ∀ id, (queryGlobalVirtualGroup id).id = id

variable (c : Context) (rows : Rows) (k : BucketMigrateKey)

namespace Rows

/-- The rows with those under a key changed. -/
def change (f : MigrateGVGRow → MigrateGVGRow) : Rows :=
  rows.map fun r => if r.migrateKey = k then f r else r

def insertMigrateGVGUnit (row : MigrateGVGRow) : Rows :=
  if rows.any (·.migrateKey = row.migrateKey) then rows.change row.migrateKey (·.updates row)
  else rows ++ [row]

def updateMigrateGVGUnitStatus (st : MigrateStatus) : Rows :=
  if st = .waitForMigrate then rows else rows.change k fun r => { r with migrateStatus := st }

def updateMigrateGVGUnitLastMigrateObjectID (last : Nat) : Rows :=
  rows.change k fun r => { r with lastMigratedObjectID := written 0 r.lastMigratedObjectID last }

def updateMigrateGVGRetryCount (retryTime : Nat) : Rows :=
  rows.change k fun r => { r with retryTime := written 0 r.retryTime retryTime }

def queryMigrateGVGUnit : Option MigrateGVGRow := rows.find? (·.migrateKey = k)

def listMigrateGVGUnitsByBucketID (bucketID : Nat) : Rows := rows.filter (·.bucketID = bucketID)

def deleteMigrateGVGUnitsByBucketID (bucketID : Nat) : Rows := rows.filter (·.bucketID ≠ bucketID)

end Rows

/-- The row that storeToDB writes for a unit. -/
def ExecuteUnit.row (u : ExecuteUnit) : MigrateGVGRow where
  __ := u
  migrateKey := u.key
  globalVirtualGroupID := u.srcGVG.id
  destGlobalVirtualGroupID := u.destGVGID
  virtualGroupFamilyID := u.srcGVG.familyId
  srcSPID := u.srcSP
  destSPID := u.destSP

/-! ## The plan -/

/-- A BucketMigrateExecutePlan. The units are those of gvgUnitMap: the GVGs of a bucket have
different ids. -/
structure Plan where
  bucketID : Nat
  srcSP : Nat
  gvgUnitMap : List ExecuteUnit
  finishedGvgUnits : List Nat := []

def storeToDB (units : List ExecuteUnit) (rows : Rows) : Rows :=
  units.foldl (fun rows u => rows.insertMigrateGVGUnit u.row) rows

variable (p : Plan) (gvgID : Nat)

def Plan.changeUnit (f : ExecuteUnit → ExecuteUnit) : Plan :=
  { p with gvgUnitMap := p.gvgUnitMap.map fun u => if u.srcGVG.id = gvgID then f u else u }

/-- A SecondarySpMigrationBucketSignDoc. -/
structure SignDoc where
  bucketId : Nat
  dstPrimarySpId : Nat
  srcGlobalVirtualGroupId : Nat
  dstGlobalVirtualGroupId : Nat

/-- The signature is given by what is signed and by the SPs that sign it. -/
structure GVGMapping where
  srcGlobalVirtualGroupId : Nat
  dstGlobalVirtualGroupId : Nat
  signDoc : SignDoc
  signers : List Nat

structure MsgCompleteMigrateBucket where
  gvgMappings : List GVGMapping
  globalVirtualGroupFamilyId : Nat

def Plan.signDoc (u : ExecuteUnit) : SignDoc where
  bucketId := p.bucketID
  dstPrimarySpId := u.destSP
  srcGlobalVirtualGroupId := u.srcGVG.id
  dstGlobalVirtualGroupId := u.destGVGID

def Plan.gvgMapping (u : ExecuteUnit) : GVGMapping where
  srcGlobalVirtualGroupId := u.srcGVG.id
  dstGlobalVirtualGroupId := u.destGVGID
  signDoc := p.signDoc u
  signers := u.destGVG.secondarySpIds

/-- The message, for an empty bucket with a family that was picked for it. -/
def Plan.msgCompleteMigrateBucket (vgfID : Nat) : MsgCompleteMigrateBucket where
  gvgMappings := p.gvgUnitMap.map p.gvgMapping
  globalVirtualGroupFamilyId := (p.gvgUnitMap.getLast?.map (·.destGVG.familyId)).getD vgfID

structure MigrateGVGTask where
  srcGvg : GlobalVirtualGroup
  destGvg : GlobalVirtualGroup
  lastMigratedObjectID : Nat := 0
  finished : Bool := false
  /-- The executor failed to get data from the source SP. -/
  failed : Bool := false

structure State where
  rows : Rows := []
  /-- The migration state of the bucket, if it has a row. -/
  progress : Option BucketMigrationState := none
  plan : Option Plan := none
  migrateGVGQueue : List MigrateGVGTask := []
  -- what has been sent and been reported, which no code reads
  completeMigrateBucket : List MsgCompleteMigrateBucket := []
  rejectMigrateBucket : Nat := 0
  reportedFinished : List Nat := []

/-- Answers to the queries of an action. -/
structure Answers where
  /-- The bucket is BUCKET_STATUS_MIGRATING on chain. -/
  migrating : Bool := true
  bucketExists : Bool := true
  planner : Planner
  /-- The family that is picked for an empty bucket. -/
  vgfID : Nat := 0

/-! ## Producing the plan -/

def checkGVGMetaConsistent (chainMetaList : List GlobalVirtualGroup) (dbMetaList : Rows) : Bool :=
  chainMetaList.length = dbMetaList.length &&
    chainMetaList.all (fun g => dbMetaList.any (·.globalVirtualGroupID = g.id)) &&
    dbMetaList.all fun r => chainMetaList.any (·.id = r.globalVirtualGroupID)

def generateMigrateBucketUnitsFromDB : List ExecuteUnit :=
  (rows.listMigrateGVGUnitsByBucketID c.bucketID).filterMap fun migrateGVG =>
    (c.primarySPGVGList.find? (·.id = migrateGVG.globalVirtualGroupID)).map fun srcGvg =>
      newBucketMigrateGVGExecuteUnit c.bucketID srcGvg migrateGVG.srcSPID migrateGVG.destSPID
        migrateGVG.migrateStatus migrateGVG.destSPID migrateGVG.lastMigratedObjectID
        (c.queryGlobalVirtualGroup migrateGVG.destGlobalVirtualGroupID)

variable (a : Answers) (s : State)

def sendCompleteMigrateBucketTx : State :=
  let s := { s with progress := some .migrateGvgDone }
  if a.bucketExists then
    { s with
      completeMigrateBucket := p.msgCompleteMigrateBucket a.vgfID :: s.completeMigrateBucket
      progress := some .sendCompleteTxDone }
  else { s with progress := some .migrationFinished }

def syncBucketQuotaFromSrcSP : State := { s with progress := some .migrateQuotaInfoDone }

inductive ProduceErr where
  | alreadyInMigrating
  | plan (e : PlanErr)

/-- An empty bucket is completed at once and has no plan. -/
def storePlan (buildMetaByDB : Bool) (s : State) (units : List ExecuteUnit) : Option Plan × State :=
  let plan : Plan := { bucketID := c.bucketID, srcSP := c.srcSP, gvgUnitMap := units }
  if units = [] then (none, sendCompleteMigrateBucketTx plan a (syncBucketQuotaFromSrcSP s))
  else
    let s := if buildMetaByDB then s else { s with progress := some .destSpPreDeductQuotaDone }
    (some plan, { s with rows := storeToDB units s.rows })

def produceBucketMigrateExecutePlan (buildMetaByDB : Bool) (s : State) :
    Except ProduceErr (Option Plan) × State :=
  if !a.migrating then (.ok none, s)
  else if s.plan.isSome then (.error .alreadyInMigrating, s)
  else
    let consistent := checkGVGMetaConsistent c.primarySPGVGList
      (s.rows.listMigrateGVGUnitsByBucketID c.bucketID)
    if buildMetaByDB && consistent then
      let (plan, s) := storePlan c a true s (generateMigrateBucketUnitsFromDB c s.rows)
      (.ok plan, s)
    else
      let s := if buildMetaByDB then
          { s with rows := s.rows.deleteMigrateGVGUnitsByBucketID c.bucketID } else s
      match generateMigrateBucketUnitsFromMemory a.planner c.bucketID c.srcSP c.destSP
        c.primarySPGVGList with
      | .error e => (.error (.plan e), s)
      | .ok units =>
        let (plan, s) := storePlan c a buildMetaByDB s units
        (.ok plan, s)

/-! ## Actions -/

/-- A plan that was produced is started and kept. -/
def keepPlan : Except ProduceErr (Option Plan) × State → State
  | (.ok (some plan), s) => { s with plan := some plan }
  | (_, s) => s

/-- EventMigrationBucket is processed. -/
def start : State := keepPlan (produceBucketMigrateExecutePlan c a false s)

/-- The process stops, and loads the plan from the database when it starts again. -/
def restart : State :=
  keepPlan (produceBucketMigrateExecutePlan c a true { s with plan := none, migrateGVGQueue := [] })

/-- The queue has one task for a GVG. How many tasks it may hold, those of other buckets included, is
left out. -/
def push (queue : List MigrateGVGTask) (t : MigrateGVGTask) : Option (List MigrateGVGTask) :=
  pushTask (·.srcGvg.id) queue t

def popByKey (queue : List MigrateGVGTask) (t : MigrateGVGTask) : List MigrateGVGTask :=
  queue.filter (·.srcGvg.id ≠ t.srcGvg.id)

/-- startMigrateSchedule comes to a unit. If the push fails it goes on to the next one. -/
def scheduleUnit (u : ExecuteUnit) (s : State) : State :=
  if u.migrateStatus ≠ .waitForMigrate then s
  else
    match push s.migrateGVGQueue { srcGvg := u.srcGVG, destGvg := u.destGVG } with
    | none => s
    | some queue =>
      { s with
        migrateGVGQueue := queue
        rows := s.rows.updateMigrateGVGUnitStatus u.key .migrating
        progress := some .migrateGvgDoing
        plan := some (p.changeUnit u.srcGVG.id fun u => { u with migrateStatus := .migrating }) }

/-- The unit of the plan for a GVG. -/
def Plan.unit : Option ExecuteUnit := p.gvgUnitMap.find? (·.srcGVG.id = gvgID)

def schedule : State :=
  match s.plan with
  | none => s
  | some p =>
    match p.unit gvgID with
    | none => s
    | some u => scheduleUnit p u s

/-- The loop over the units. -/
def schedulePass : State :=
  match s.plan with
  | none => s
  | some p => (p.gvgUnitMap.map (·.srcGVG.id)).foldl (fun s id => schedule id s) s

def updateMigrateGVGStatus (u : ExecuteUnit) (st : MigrateStatus) (s : State) : State :=
  let p := p.changeUnit u.srcGVG.id fun u => { u with migrateStatus := st }
  let p := { p with finishedGvgUnits := p.finishedGvgUnits.insert u.srcGVG.id }
  let s := { s with rows := s.rows.updateMigrateGVGUnitStatus u.key st, plan := some p }
  if p.finishedGvgUnits.length = p.gvgUnitMap.length then
    sendCompleteMigrateBucketTx p a (syncBucketQuotaFromSrcSP s)
  else s

def rejectBucketMigration : State :=
  if a.bucketExists then
    { s with rejectMigrateBucket := s.rejectMigrateBucket + 1, progress := some .sendRejectTxDone }
  else { s with progress := some .migrationFinished }

def migrateGVGTaskMaxRetry : Nat := 5

/-- What the manager learns from a task that is not finished. -/
def updateProgress (u : ExecuteUnit) (t : MigrateGVGTask) (s : State) : State :=
  { s with
    rows := s.rows.updateMigrateGVGUnitLastMigrateObjectID u.key t.lastMigratedObjectID
    plan := some (p.changeUnit u.srcGVG.id fun u =>
      { u with lastMigratedObjectID := t.lastMigratedObjectID }) }

def updateMigrateProgress (t : MigrateGVGTask) (s : State) : State :=
  match p.unit t.srcGvg.id with
  | none => s
  | some u =>
    if t.finished then updateMigrateGVGStatus p a u .migrated s
    else if t.failed then
      match s.rows.queryMigrateGVGUnit u.key with
      | none => s
      | some row =>
        if t.lastMigratedObjectID = row.lastMigratedObjectID then
          if row.retryTime + 1 ≥ migrateGVGTaskMaxRetry then rejectBucketMigration a s
          else { s with rows := s.rows.updateMigrateGVGRetryCount u.key (row.retryTime + 1) }
        else updateProgress p u t s
    else updateProgress p u t s

/-- A task is pushed again until it is finished, unless the migration was cancelled. -/
def handleMigrateGVGTask (t : MigrateGVGTask) (s : State) : State :=
  let queue := popByKey s.migrateGVGQueue t
  match s.plan with
  | none => { s with migrateGVGQueue := queue }
  | some p =>
    let s := { s with
      migrateGVGQueue := if t.finished then queue else queue ++ [t]
      reportedFinished := if t.finished then t.srcGvg.id :: s.reportedFinished else s.reportedFinished }
    updateMigrateProgress p a t s

/-- What the process is doing when it stops. -/
inductive Cut where
  | idle
  | scheduling (gvgID : Nat)
  | reporting (a : Answers) (t : MigrateGVGTask)

/-- The row of the unit is written, and nothing that comes after it is done. -/
def State.cut : Cut → State
  | .idle => s
  | .scheduling gvgID => { s with rows := (schedule gvgID s).rows }
  | .reporting a t =>
    { s with
      rows := (handleMigrateGVGTask a t s).rows
      reportedFinished := (handleMigrateGVGTask a t s).reportedFinished }

inductive Act where
  | start (a : Answers)
  | schedule (gvgID : Nat)
  | report (a : Answers) (t : MigrateGVGTask)
  | restart (cut : Cut) (a : Answers)

def step : Act → Option State
  | .start a => some (start c a s)
  | .schedule gvgID => some (schedule gvgID s)
  | .report a t => some (handleMigrateGVGTask a t s)
  | .restart cut a => some (restart c a (s.cut cut))

end Manager.BucketMigrate

-- SUMMARY: The source SP's quota calls around a bucket migration.
import MocaSP.Base.Interleave
import MocaSP.Quota.Traffic

/-!
# Quota of a migrating bucket

Before a bucket migrates, its source SP deducts the size of the bucket from its
read quota; if the migration fails, it recoups what was not migrated. Whether a
deduction is due is kept in the bucket's migration state. Checking the state,
changing the quota and updating the state are separate calls to the database and
to other services, so calls for one bucket interleave.

How a call goes is up to the world. A service may be out of reach, a call may be
carried out and its answer lost, and statements may fail.
-/

namespace Migration

open Traffic

inductive BucketMigrationState where
  | initUnspecified
  | srcSpPreDeductQuotaDone
  | destSpPreDeductQuotaDone
  | migrateGvgDoing
  | migrateGvgDone
  | migrateQuotaInfoDone
  | sendCompleteTxDone
  | waitCompleteTxEventDone
  | sendRejectTxDone
  | waitRejectTxEventDone
  | waitCancelTxEventDone
  | srcSpGcDoing
  | destSpGcDoing
  | postSrcSpDone
  | migrationFinished
  deriving DecidableEq

/-! ## The code -/

inductive Call : Type → Type where
  | queryMigrateBucketState : Call (Except Unit BucketMigrationState)
  | getBucketTotalSize : Call (Except Unit UInt64)
  /-- The month of the bucket's newest traffic row, if it has one and it is read. -/
  | getLatestBucketReadQuota : Call (Except Unit (Option Month))
  /-- The current month, and whether the bucket has a traffic row for it. -/
  | getBucketTraffic : Call (Except Unit (Month × Bool))
  | querySPFreeQuota : Call (Except Unit UInt64)
  /-- The charged quota on chain, or zero if the query fails. -/
  | chargedReadQuota : Call UInt64
  | initBucketTraffic (yearMonth : Month) (quota : BucketQuota) : Call (Except Unit Unit)
  | deductQuotaForBucketMigrate (deductQuota : UInt64) : Call (Except Unit Unit)
  | recoupQuota (extraQuota : UInt64) (yearMonth : Option Month) : Call (Except Unit Unit)
  | updateBucketMigrationPreDeductedQuota : Call (Except Unit Unit)
  | updateBucketMigrationRecoupQuota : Call (Except Unit Unit)
  /-- The migrated bytes of the units of the bucket. -/
  | listMigrateGVGUnitsByBucketID : Call (Except Unit (List UInt64))
  /-- Answer the caller. -/
  | respond (ok : Bool) : Call Unit

abbrev Code := Prog Call

/-- Make a call, and return its error. -/
def try_ {β : Type} (e : Call (Except Unit β)) (next : β → Code (Except Unit Unit)) :
    Code (Except Unit Unit) := do
  match ← Prog.do_ e with
  | .error _ => return .error ()
  | .ok b => next b

variable (monthlyFreeQuota : UInt64)

/-- Start the bucket's traffic row of the month. -/
def initTraffic (yearMonth : Month) (next : Code (Except Unit Unit)) : Code (Except Unit Unit) :=
  try_ .querySPFreeQuota fun freeQuotaSize => do
    let chargedQuotaSize ← Prog.do_ .chargedReadQuota
    try_ (.initBucketTraffic yearMonth
      { chargedQuotaSize, freeQuotaSize, monthlyFreeQuotaSize := monthlyFreeQuota }) fun _ => next

/-- The last part of `NotifyPreMigrateBucketAndDeductQuota`. -/
def deductQuota (bucketSize : UInt64) (month : Option Month) : Code (Except Unit Unit) :=
  try_ (.deductQuotaForBucketMigrate bucketSize) fun _ => do
    match ← Prog.do_ .updateBucketMigrationPreDeductedQuota with
    | .ok _ => return .ok ()
    | .error _ =>
      let _ ← Prog.do_ (.recoupQuota bucketSize month)
      return .error ()

def notifyPreMigrateBucketAndDeductQuota : Code (Except Unit Unit) :=
  try_ .queryMigrateBucketState fun state => do
    if state = .srcSpPreDeductQuotaDone then return .error ()
    try_ .getBucketTotalSize fun bucketSize =>
      try_ .getLatestBucketReadQuota fun month =>
        try_ .getBucketTraffic fun (yearMonth, found) =>
          if found then deductQuota bucketSize month
          else initTraffic monthlyFreeQuota yearMonth (deductQuota bucketSize month)

/-- The sum of the bytes, unless it overflows. -/
def sumMigratedBytes (total : UInt64) : List UInt64 → Option UInt64
  | [] => some total
  | unit :: units =>
    if 0xFFFFFFFFFFFFFFFF - total < unit then none else sumMigratedBytes (total + unit) units

/-- `getLocallyReconciledMigratedBytes`, given the units. -/
def getLocallyReconciledMigratedBytes (units : List UInt64) (reported : UInt64) : UInt64 :=
  match sumMigratedBytes 0 units with
  | none => 0xFFFFFFFFFFFFFFFF
  | some total => if units = [] then reported else if reported < total then reported else total

/-- The last part of `NotifyPostMigrateBucketAndRecoupQuota`. -/
def recoupQuota (bucketSize migratedBytes : UInt64) (month : Option Month) : Code (Except Unit Unit) :=
  if migratedBytes ≥ bucketSize then return .ok ()
  else
    try_ (.recoupQuota (bucketSize - migratedBytes) month) fun _ =>
      try_ .updateBucketMigrationRecoupQuota fun _ => return .ok ()

def notifyPostMigrateBucketAndRecoupQuota (finished : Bool) (migratedBytesSize : UInt64) :
    Code (Except Unit Unit) :=
  try_ .queryMigrateBucketState fun state => do
    if state ≠ .srcSpPreDeductQuotaDone then return .error ()
    try_ .getLatestBucketReadQuota fun month =>
      try_ .getBucketTotalSize fun bucketSize =>
        if finished then return .ok ()
        else
          try_ .listMigrateGVGUnitsByBucketID fun units =>
            recoupQuota bucketSize (getLocallyReconciledMigratedBytes units migratedBytesSize) month

/-- A request for the bucket. -/
inductive Job where
  | pre
  | post (finished : Bool) (migratedBytesSize : UInt64)
  deriving DecidableEq

def Job.code : Job → Code (Except Unit Unit)
  | .pre => notifyPreMigrateBucketAndDeductQuota monthlyFreeQuota
  | .post finished migratedBytesSize => notifyPostMigrateBucketAndRecoupQuota finished migratedBytesSize

def Job.body (j : Job) : Code Unit := do
  let result ← j.code monthlyFreeQuota
  Prog.do_ (.respond result.isOk)

/-- The job passes its check of the migration state. -/
def Job.passes (state : BucketMigrationState) : Job → Bool
  | .pre => state ≠ .srcSpPreDeductQuotaDone
  | .post _ _ => state = .srcSpPreDeductQuotaDone

/-! ## The world -/

/-- How calls go at the moment. -/
structure Weather where
  /-- A call is not carried out. -/
  unreachable : Bool := false
  /-- A call is carried out, and its answer is lost. -/
  lost : Bool := false
  faults : Faults := {}

/-- What a call did, for the record. -/
structure CallRecord where
  /-- The deductions that were outstanding when the call passed its check. -/
  found : List UInt64 := []
  /-- The units it was told of. -/
  units : List UInt64 := []
  recouped : Nat := 0

/-- The answer to a request, and the migration state when it was given. -/
structure Response where
  job : Job
  ok : Bool
  record : CallRecord
  state : BucketMigrationState

structure World where
  /-- The migration state of the bucket. -/
  row : Option BucketMigrationState := none
  table : Table
  month : Month
  bucketSize : UInt64
  units : List UInt64 := []
  freeQuota : UInt64 := 0
  chargedQuota : UInt64 := 0
  weather : Weather := {}
  /-- The number of requests so far, which is the name of the next one. -/
  requests : Nat := 0
  jobs : Nat → Job := fun _ => .pre
  /-- The call that passed its check of the migration state and has not responded. -/
  busy : Option Nat := none
  /-- The deductions that were not recouped, the latest first. -/
  outstanding : List UInt64 := []
  deducted : Nat := 0
  recouped : Nat := 0
  records : Nat → CallRecord := fun _ => {}
  responses : List Response := []

variable (w : World)

namespace World

def state : BucketMigrationState := w.row.getD .initUnspecified

/-- An answer as the weather lets it through. -/
def answer {β : Type} (w : World) (b : β) (w' : World) : Except Unit β × World :=
  if w.weather.unreachable then (.error (), w)
  else if w.weather.lost then (.error (), w')
  else (.ok b, w')

def setRecord (t : Nat) (r : CallRecord) : World :=
  { w with records := Function.update w.records t r }

/-- A call that passes its check is noted. -/
def note (t : Nat) : World :=
  if (w.jobs t).passes w.state then
    { w.setRecord t { w.records t with found := w.outstanding } with busy := some t }
  else w

/-- `GfSpDeductQuotaForBucketMigrate` charges the current month. Errors of the
database other than a lack of quota are not reported. -/
def deduct (bucketID deductQuota : UInt64) (w : World) : Except Unit Unit × World :=
  if w.weather.unreachable then (.error (), w)
  else
    match (updateConsumedQuota w.weather.faults bucketID w.month deductQuota w.chargedQuota w.table).eval with
    | (.ok _, table) =>
      w.answer () { w with
        table
        outstanding := deductQuota :: w.outstanding
        deducted := w.deducted + deductQuota.toNat }
    | (.error .quotaNotEnough, _) => (.error (), w)
    | (.error _, _) => w.answer () w

/-- `GfSpReimburseQuota`. A bucket without traffic rows has no month, which is
invalid. -/
def recoup (bucketID extraQuota : UInt64) (yearMonth : Option Month) (t : Nat) (w : World) :
    Except Unit Unit × World :=
  if w.weather.unreachable then (.error (), w)
  else
    match yearMonth with
    | none => (.error (), w)
    | some yearMonth =>
      match (updateExtraQuota w.weather.faults w.month bucketID extraQuota yearMonth w.table).eval with
      | (.ok _, table) =>
        w.answer () { w.setRecord t { w.records t with
              recouped := (w.records t).recouped + extraQuota.toNat } with
          table
          outstanding := w.outstanding.tail
          recouped := w.recouped + extraQuota.toNat }
      | (.error _, _) => (.error (), w)

def exec (bucketID : UInt64) (t : Nat) {β : Type} (e : Call β) (w : World) : β × World :=
  match e with
  | .queryMigrateBucketState =>
      let w' := { w with row := some w.state }
      if w.weather.unreachable then (.error (), w)
      else if w.weather.lost then (.error (), w')
      else (.ok w.state, w'.note t)
  | .getBucketTotalSize => w.answer w.bucketSize w
  | .getLatestBucketReadQuota =>
      -- the service answers any error of the database without a month
      w.answer (if w.weather.faults.select then none else (w.table.newest bucketID).map (·.month)) w
  | .getBucketTraffic => w.answer (w.month, (w.table.find bucketID w.month).isSome) w
  | .querySPFreeQuota => w.answer w.freeQuota w
  | .chargedReadQuota => (if w.weather.unreachable || w.weather.lost then 0 else w.chargedQuota, w)
  | .initBucketTraffic yearMonth quota =>
      match (Traffic.initBucketTraffic w.weather.faults bucketID yearMonth quota w.table).eval with
      | (.ok _, table) => w.answer () { w with table }
      | (.error _, _) => (.error (), w)
  | .deductQuotaForBucketMigrate deductQuota => w.deduct bucketID deductQuota
  | .recoupQuota extraQuota yearMonth => w.recoup bucketID extraQuota yearMonth t
  | .updateBucketMigrationPreDeductedQuota =>
      w.answer () { w with row := some .srcSpPreDeductQuotaDone }
  | .updateBucketMigrationRecoupQuota => w.answer () { w with row := some .migrationFinished }
  | .listMigrateGVGUnitsByBucketID =>
      w.answer w.units (w.setRecord t { w.records t with units := w.units })
  | .respond ok =>
      ((), { w with
        busy := if w.busy = some t then none else w.busy
        responses := w.responses ++ [⟨w.jobs t, ok, w.records t, w.state⟩] })

end World

/-- What changes besides. -/
structure Env where
  table : Table
  month : Month
  bucketSize : UInt64
  units : List UInt64
  freeQuota : UInt64
  chargedQuota : UInt64
  weather : Weather

def Env.act (v : Env) (w : World) : World :=
  { w with table := v.table, month := v.month, bucketSize := v.bucketSize, units := v.units,
           freeQuota := v.freeQuota, chargedQuota := v.chargedQuota, weather := v.weather }

/-- Any number of requests for the bucket, in any interleaving. -/
def system (bucketID monthlyFreeQuota : UInt64) : Machine Call Nat World Unit Job Env where
  exec := fun t e _ w => some (w.exec bucketID t e)
  body := fun _ j => j.body monthlyFreeQuota
  start := fun t j w =>
    if t = w.requests then
      some { w.setRecord t {} with requests := w.requests + 1, jobs := Function.update w.jobs t j }
    else none
  env := fun v w => some (v.act w)

end Migration

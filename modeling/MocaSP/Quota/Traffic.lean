-- SUMMARY: The bucket traffic table.
import Mathlib.Data.List.MinMax
import MocaSP.Base.Word

/-!
# Bucket traffic

One row per bucket and month holds what is left of the SP's free and monthly
quota and what was consumed of each. The name and the modification time of a row
are not modelled; nothing reads them.

A transaction takes the table at the point where it runs. The statements of a
transaction, and its commit, may fail.
-/

namespace Traffic

/-- A month, counted from a fixed one. The source writes it as `YYYY-MM`, which
as text is in the order of months; zero is the empty text. -/
abbrev Month := Nat

/-- `BucketTrafficTable`. -/
structure BucketTraffic where
  bucketID : UInt64
  month : Month
  /-- Consumed charged quota. -/
  readConsumedSize : UInt64 := 0
  freeQuotaConsumedSize : UInt64 := 0
  monthlyFreeQuotaConsumedSize : UInt64 := 0
  /-- Remaining free quota. -/
  freeQuotaSize : UInt64
  chargedQuotaSize : UInt64
  /-- Remaining monthly quota. -/
  monthlyQuotaSize : UInt64
  deriving DecidableEq

inductive TrafficErr where
  | notFound         -- gorm.ErrRecordNotFound
  | quotaNotEnough   -- ErrCheckQuotaEnough
  | affectedRows     -- RowsAffected is not 1
  | invalidMonth
  | missingWhere     -- gorm.ErrMissingWhereClause
  | other
  deriving DecidableEq

/-- How the statements of a transaction go. -/
structure Faults where
  /-- A SELECT fails. -/
  select : Bool := false
  /-- The rows affected by the update of the charged quota, unless it fails. -/
  charged : Option Nat := some 1
  /-- The last UPDATE or INSERT fails. -/
  write : Bool := false
  commit : Bool := false

/-! ## The table -/

/-- The rows of `bucket_traffic`, one per bucket and month. -/
abbrev Table := List BucketTraffic

variable (faults : Faults) (t : Table) (row : BucketTraffic) (bucketID : UInt64)

namespace Table

def find (t : Table) (bucketID : UInt64) (month : Month) : Option BucketTraffic :=
  t.find? fun r => r.bucketID = bucketID ∧ r.month = month

/-- UPDATE of the row with the key of `row`. -/
def write : Table :=
  t.map fun r => if r.bucketID = row.bucketID ∧ r.month = row.month then row else r

/-- The row of the bucket's newest month. -/
def newest : Option BucketTraffic :=
  (t.filter fun r => r.bucketID = bucketID).argmax BucketTraffic.month

/-- INSERT. A duplicate key is not an error to the caller. -/
def create : Table := if (t.find row.bucketID row.month).isSome then t else t ++ [row]

end Table

/-- `db.Transaction`: a body that fails, or whose commit fails, is rolled back. -/
def transaction (body : Calc (Except TrafficErr Table)) :
    Calc (Except TrafficErr Unit × Table) := do
  match ← body with
  | .error e => return (.error e, t)
  | .ok t' => if faults.commit then return (.error .other, t) else return (.ok (), t')

/-! ## Charging -/

/-- What `getUpdatedConsumedQuotaV2` returns. -/
structure UpdatedQuota where
  consumeFreeQuota : UInt64
  consumeChargedQuota : UInt64
  consumeMonthlyFreeQuota : UInt64
  freeQuotaRemain : UInt64
  monthlyFreeQuotaRemain : UInt64

/-- The last tier of `getUpdatedConsumedQuotaV2`. -/
def consumeFree (recordQuotaCost : UInt64) (q : UpdatedQuota) : Calc (Option UpdatedQuota) := do
  if q.freeQuotaRemain ≥ recordQuotaCost then
    let freeQuotaRemain ← .sub q.freeQuotaRemain recordQuotaCost
    let consumeFreeQuota ← .add q.consumeFreeQuota recordQuotaCost
    return some { q with freeQuotaRemain, consumeFreeQuota }
  else return none

/-- The monthly tier of `getUpdatedConsumedQuotaV2`. -/
def consumeMonthly (recordQuotaCost : UInt64) (q : UpdatedQuota) : Calc (Option UpdatedQuota) := do
  if q.monthlyFreeQuotaRemain ≥ recordQuotaCost then
    let consumeMonthlyFreeQuota ← .add q.consumeMonthlyFreeQuota recordQuotaCost
    let monthlyFreeQuotaRemain ← .sub q.monthlyFreeQuotaRemain recordQuotaCost
    return some { q with consumeMonthlyFreeQuota, monthlyFreeQuotaRemain }
  else if q.monthlyFreeQuotaRemain > 0 then
    let consumeMonthlyFreeQuota ← .add q.consumeMonthlyFreeQuota q.monthlyFreeQuotaRemain
    let recordQuotaCost ← .sub recordQuotaCost q.monthlyFreeQuotaRemain
    consumeFree recordQuotaCost { q with consumeMonthlyFreeQuota, monthlyFreeQuotaRemain := 0 }
  else consumeFree recordQuotaCost q

/-- What is left of the charged quota. -/
def chargedRemain (chargedQuota consumeChargedQuota : UInt64) : Calc UInt64 :=
  if chargedQuota > consumeChargedQuota then .sub chargedQuota consumeChargedQuota else pure 0

/-- `getUpdatedConsumedQuotaV2`: charged quota first, then monthly, then free.
No result stands for `ErrCheckQuotaEnough`. -/
def getUpdatedConsumedQuotaV2 (recordQuotaCost freeQuotaRemain consumeFreeQuota consumeChargedQuota
    chargedQuota monthlyFreeQuotaRemain consumeMonthlyFreeQuota : UInt64) :
    Calc (Option UpdatedQuota) := do
  let q : UpdatedQuota :=
    { consumeFreeQuota, consumeChargedQuota, consumeMonthlyFreeQuota, freeQuotaRemain,
      monthlyFreeQuotaRemain }
  let chargedQuotaRemain ← chargedRemain chargedQuota consumeChargedQuota
  if chargedQuotaRemain ≥ recordQuotaCost then
    let consumeChargedQuota ← .add consumeChargedQuota recordQuotaCost
    return some { q with consumeChargedQuota }
  else if chargedQuotaRemain > 0 then
    let consumeChargedQuota ← .add consumeChargedQuota chargedQuotaRemain
    let recordQuotaCost ← .sub recordQuotaCost chargedQuotaRemain
    consumeMonthly recordQuotaCost { q with consumeChargedQuota }
  else consumeMonthly recordQuotaCost q

/-- The part of `updateConsumedQuota` that keeps the charged quota up to date. -/
def setChargedQuota (chargedQuota : UInt64) (row : BucketTraffic) :
    Except TrafficErr BucketTraffic :=
  if row.chargedQuotaSize = chargedQuota then .ok row
  else
    match faults.charged with
    | none => .error .other
    | some affected =>
      if affected ≠ 1 then .error .affectedRows
      -- an update from a struct leaves out the fields that are zero
      else if chargedQuota = 0 then .ok row
      else .ok { row with chargedQuotaSize := chargedQuota }

variable (yearMonth : Month)

def updateConsumedQuota
    (readSize chargedQuota : UInt64) (t : Table) : Calc (Except TrafficErr Unit × Table) :=
  transaction faults t do
    if faults.select then return .error .other
    match t.find bucketID yearMonth with
    | none => return .error .notFound
    | some found =>
      match setChargedQuota faults chargedQuota found with
      | .error e => return .error e
      | .ok row =>
        match ← getUpdatedConsumedQuotaV2 readSize row.freeQuotaSize row.freeQuotaConsumedSize
            row.readConsumedSize chargedQuota row.monthlyQuotaSize
            row.monthlyFreeQuotaConsumedSize with
        | none => return .error .quotaNotEnough
        | some q =>
          if faults.write then return .error .other
          return .ok (t.write { row with
            readConsumedSize := q.consumeChargedQuota
            freeQuotaConsumedSize := q.consumeFreeQuota
            freeQuotaSize := q.freeQuotaRemain
            monthlyFreeQuotaConsumedSize := q.consumeMonthlyFreeQuota
            monthlyQuotaSize := q.monthlyFreeQuotaRemain })

/-! ## Refunding -/

/-- The charged tier of the refund in `UpdateExtraQuota`: the consumed and the
extra quota after it. -/
def recoupCharged (consumed extraQuota : UInt64) : Calc (UInt64 × UInt64) := do
  if consumed ≥ extraQuota then
    let consumed ← .sub consumed extraQuota
    return (consumed, 0)
  else if consumed > 0 then
    let extraQuota ← .sub extraQuota consumed
    return (0, extraQuota)
  else return (consumed, extraQuota)

/-- The monthly tier: the consumed, the remaining and the extra quota after it. -/
def recoupMonthly (consumed remain extraQuota : UInt64) : Calc (UInt64 × UInt64 × UInt64) := do
  if extraQuota > 0 ∧ consumed ≥ extraQuota then
    let consumed ← .sub consumed extraQuota
    let remain ← .add remain extraQuota
    return (consumed, remain, 0)
  else if extraQuota > 0 ∧ consumed > 0 then
    let extraQuota ← .sub extraQuota consumed
    let remain ← .add remain consumed
    return (0, remain, extraQuota)
  else return (consumed, remain, extraQuota)

/-- The free tier, the last one: the consumed and the remaining quota after it. -/
def recoupFree (consumed remain extraQuota : UInt64) : Calc (UInt64 × UInt64) := do
  if extraQuota > 0 ∧ consumed ≥ extraQuota then
    let consumed ← .sub consumed extraQuota
    let remain ← .add remain extraQuota
    return (consumed, remain)
  else if extraQuota > 0 ∧ consumed > 0 then
    let remain ← .add remain consumed
    return (0, remain)
  else return (consumed, remain)

/-- The refund of `UpdateExtraQuota` in the month of the charge. -/
def recoup (extraQuota : UInt64) : Calc BucketTraffic := do
  let (readConsumedSize, extraQuota) ← recoupCharged row.readConsumedSize extraQuota
  let (monthlyFreeQuotaConsumedSize, monthlyQuotaSize, extraQuota) ←
    recoupMonthly row.monthlyFreeQuotaConsumedSize row.monthlyQuotaSize extraQuota
  let (freeQuotaConsumedSize, freeQuotaSize) ←
    recoupFree row.freeQuotaConsumedSize row.freeQuotaSize extraQuota
  return { row with readConsumedSize, monthlyFreeQuotaConsumedSize, monthlyQuotaSize,
                    freeQuotaConsumedSize, freeQuotaSize }

/-- `UpdateExtraQuota`, called in the month `yearMonthOfNow`. -/
def updateExtraQuota (yearMonthOfNow : Month) (bucketID extraQuota : UInt64)
    (yearMonth : Month) (t : Table) : Calc (Except TrafficErr Unit × Table) :=
  transaction faults t do
    if yearMonthOfNow = yearMonth + 1 then
      if faults.select then return .error .other
      match t.find bucketID yearMonthOfNow with
      -- the row of the old month is not loaded, so the update has no condition
      | none => return .error .missingWhere
      | some row =>
        let freeQuotaSize ← .add row.freeQuotaSize extraQuota
        if faults.write then return .error .other
        -- an update from a struct leaves out the fields that are zero
        if freeQuotaSize = 0 then return .ok t
        return .ok (t.write { row with freeQuotaSize })
    else if yearMonthOfNow ≠ yearMonth then return .error .invalidMonth
    else
      if faults.select then return .error .other
      match t.find bucketID yearMonth with
      | none => return .error .notFound
      | some row =>
        let row ← recoup row extraQuota
        if faults.write then return .error .other
        return .ok (t.write row)

/-! ## New months -/

/-- `BucketQuota`. -/
structure BucketQuota where
  chargedQuotaSize : UInt64
  freeQuotaSize : UInt64
  monthlyFreeQuotaSize : UInt64

/-- `InitBucketTraffic`: the first row of a bucket gets the SP's free quota, a
later one what the newest row has left of it. -/
def initBucketTraffic (quota : BucketQuota) (t : Table) : Calc (Except TrafficErr Unit × Table) :=
  transaction faults t do
    if faults.select then return .error .other
    let freeQuotaSize :=
      match t.newest bucketID with
      | none => quota.freeQuotaSize
      | some newestTraffic => newestTraffic.freeQuotaSize
    if faults.write then return .error .other
    return .ok (t.create { bucketID, month := yearMonth, freeQuotaSize,
                           chargedQuotaSize := quota.chargedQuotaSize,
                           monthlyQuotaSize := quota.monthlyFreeQuotaSize })

def metaDeleteLimit : Nat := 100

/-- `DeleteExpiredBucketTraffic` deletes some of the rows older than `yearMonth`:
all of them, or `metaDeleteLimit` that the database `picks`. -/
def deleteExpiredBucketTraffic (picks : BucketTraffic → Bool) (t : Table) : Option Table :=
  let expired := t.filter fun r => r.month < yearMonth
  if (expired.filter picks).length = min expired.length metaDeleteLimit then
    some (t.filter fun r => ¬ (r.month < yearMonth ∧ picks r))
  else none

end Traffic

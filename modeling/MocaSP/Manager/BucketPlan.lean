-- SUMMARY: How the destination SP of a bucket migration picks its GVGs.
import MocaSP.Base.Except
import MocaSP.Manager.SwapOut

/-!
# Units of a bucket migration

A bucket that migrates has its objects in global virtual groups (GVGs) of the source
SP. For each of them the destination SP, which becomes the primary SP, picks a GVG
of its own with the same secondary SPs, except that a secondary that is exiting and
the destination SP itself are replaced. The pair is a unit of the migration.

SPs are given by their ids. What the virtual group manager knows when it picks is
up to the world: the SPs that are in service and healthy, and the GVGs with their
sizes, in the order in which it looks through them.
-/

namespace Manager.BucketMigrate

open Except

structure GlobalVirtualGroup where
  id : Nat
  familyId : Nat
  primarySpId : Nat
  secondarySpIds : List Nat
  storedSize : UInt64

structure GlobalVirtualGroupMeta where
  id : Nat
  familyID : Nat
  primarySPID : Nat
  secondarySPIDs : List Nat
  usedStorageSize : UInt64
  stakingStorageSize : UInt64

/-- A BucketMigrateGVGExecuteUnit. -/
structure ExecuteUnit where
  bucketID : Nat
  srcGVG : GlobalVirtualGroup
  srcSP : Nat
  destSP : Nat
  migrateStatus : MigrateStatus
  destGVGID : Nat
  lastMigratedObjectID : Nat
  destGVG : GlobalVirtualGroup

def newBucketMigrateGVGExecuteUnit (bucketID : Nat) (gvg : GlobalVirtualGroup) (srcSP destSP : Nat)
    (migrateStatus : MigrateStatus) (destGVGID lastMigrateObjectID : Nat) (destGVG : GlobalVirtualGroup) :
    ExecuteUnit where
  bucketID := bucketID
  srcGVG := gvg
  srcSP := srcSP
  destSP := destSP
  migrateStatus := migrateStatus
  destGVGID := destGVGID
  lastMigratedObjectID := lastMigrateObjectID
  destGVG := destGVG

inductive PlanErr where
  | querySP | failedPickDestSP | createGVG | failedPickGVG

/-- What the virtual group manager answers. -/
structure Planner where
  /-- Whether the status of the SP is STATUS_GRACEFUL_EXITING, or none if the query fails. -/
  isExiting : Nat → Option Bool
  /-- The other SPs that are in service and healthy, as the n-th pick finds them. -/
  otherSPs : Nat → List Nat
  /-- The GVGs of the families that may be used, as the n-th pick finds them. -/
  gvgs : Nat → List GlobalVirtualGroupMeta
  /-- The transaction that creates a GVG after the n-th pick succeeds. -/
  creates : Nat → Bool

/-! ## Picks -/

/-- PickSPByFilter with a PickDestSPFilter. -/
def pickSPByFilter (otherSPs excludedSPIDs : List Nat) : Except PlanErr Nat :=
  orFail (otherSPs.find? (· ∉ excludedSPIDs)) .failedPickDestSP

structure PickDestGVGFilter where
  expectedFamilyID : Nat
  expectedSecondarySPIDs : List Nat
  expectedMinFreeSize : UInt64

namespace PickDestGVGFilter

variable (f : PickDestGVGFilter)

def checkFamily (familyID : Nat) : Bool := f.expectedFamilyID = 0 || f.expectedFamilyID = familyID

def checkGVG (gvgMeta : GlobalVirtualGroupMeta) : Bool :=
  f.expectedSecondarySPIDs.length = gvgMeta.secondarySPIDs.length &&
    !(gvgMeta.usedStorageSize + 2 * f.expectedMinFreeSize > gvgMeta.stakingStorageSize) &&
    f.expectedSecondarySPIDs = gvgMeta.secondarySPIDs

def find (gvgs : List GlobalVirtualGroupMeta) : Option GlobalVirtualGroupMeta :=
  gvgs.find? fun m => f.checkFamily m.familyID && f.checkGVG m

/-- What is found has the expected secondary SPs. -/
theorem find_secondarySPIDs {gvgs : List GlobalVirtualGroupMeta} {m : GlobalVirtualGroupMeta}
    (h : f.find gvgs = some m) : m.secondarySPIDs = f.expectedSecondarySPIDs := by
  have hm := List.find?_some h
  simp only [checkGVG, Bool.and_eq_true, decide_eq_true_eq] at hm
  exact hm.2.2.symm

end PickDestGVGFilter

/-- If no GVG is found, one is created and the manager looks again. -/
def pickGlobalVirtualGroupForBucketMigrate (P : Planner) (n : Nat) (f : PickDestGVGFilter) :
    Except PlanErr GlobalVirtualGroupMeta :=
  match f.find (P.gvgs n) with
  | some gvg => pure gvg
  | none => do
    failIf (!P.creates n) .createGVG
    orFail (f.find (P.gvgs (n + 1))) .failedPickGVG

/-! ## SPConflictChecker -/

/-- The loop of replaceExitingSP from an index on. `excluded` shares its array with the SPs
until something is appended to it. -/
def replaceFrom (P : Planner) (pick : Nat) (replaced : List Nat) (excluded : Option (List Nat)) :
    Nat → List Nat → Except PlanErr (List Nat)
  | _, [] => pure replaced
  | idx, spID :: rest => do
    let exiting ← orFail (P.isExiting spID) .querySP
    if exiting then
      let replacedSP ← pickSPByFilter (P.otherSPs (pick + idx)) (excluded.getD replaced)
      let replaced' := replaced.set idx replacedSP
      replaceFrom P pick replaced' (some (excluded.getD replaced' ++ [replacedSP])) (idx + 1) rest
    else replaceFrom P pick replaced excluded (idx + 1) rest

def replaceExitingSP (P : Planner) (pick : Nat) (secondarySPIDs : List Nat) : Except PlanErr (List Nat) :=
  replaceFrom P pick secondarySPIDs none 0 secondarySPIDs

/-- The secondary SPs that the destination GVG is to have. -/
def destSecondarySPIDs (P : Planner) (pick : Nat) (selfSP : Nat) (srcGVG : GlobalVirtualGroup) :
    Except PlanErr (List Nat) := do
  let secondarySPIDs ← replaceExitingSP P pick srcGVG.secondarySpIds
  match srcGVG.secondarySpIds.idxOf? selfSP with
  | none => return secondarySPIDs
  | some conflictedIndex => do
    let replacedSP ← pickSPByFilter (P.otherSPs (pick + srcGVG.secondarySpIds.length)) srcGVG.secondarySpIds
    return secondarySPIDs.set conflictedIndex replacedSP

def GlobalVirtualGroupMeta.gvg (m : GlobalVirtualGroupMeta) : GlobalVirtualGroup where
  id := m.id
  familyId := m.familyID
  primarySpId := m.primarySPID
  secondarySpIds := m.secondarySPIDs
  storedSize := m.stakingStorageSize

/-- The number of picks that one GVG of the bucket may need. -/
def GlobalVirtualGroup.picks (g : GlobalVirtualGroup) : Nat := g.secondarySpIds.length + 2

section
variable (P : Planner) (bucketID srcSP selfSP : Nat)

/-- The loop of generateMigrateBucketUnitsFromMemory. Once a GVG is picked, the next ones are
picked from its family. -/
def unitsFrom (pick destFamilyID : Nat) : List GlobalVirtualGroup → Except PlanErr (List ExecuteUnit)
  | [] => pure []
  | srcGVG :: rest => do
    let secondarySPIDs ← destSecondarySPIDs P pick selfSP srcGVG
    let destGVG ← pickGlobalVirtualGroupForBucketMigrate P (pick + srcGVG.secondarySpIds.length + 1)
      ⟨destFamilyID, secondarySPIDs, srcGVG.storedSize⟩
    let bucketUnit := newBucketMigrateGVGExecuteUnit bucketID srcGVG srcSP selfSP .waitForMigrate
      destGVG.id 0 destGVG.gvg
    let bucketMigrateUnits ← unitsFrom (pick + srcGVG.picks) destGVG.familyID rest
    return bucketUnit :: bucketMigrateUnits

def generateMigrateBucketUnitsFromMemory (primarySPGVGList : List GlobalVirtualGroup) :
    Except PlanErr (List ExecuteUnit) :=
  unitsFrom P bucketID srcSP selfSP 0 0 primarySPGVGList

end

end Manager.BucketMigrate

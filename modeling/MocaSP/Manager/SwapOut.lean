-- SUMMARY: The destination side of an SP exit, and what a restart rebuilds of it.
import MocaSP.Base.Table

/-!
# Swap-outs at the destination SP

An exiting SP hands its global virtual groups (GVGs) to successors. A successor
is told of a swap-out, adds one unit for each GVG that the swap-out covers, and
records the swap-out. Executors report progress and completion of each unit; the
last completion sends `MsgCompleteSwapOut`.

Units and swap-outs are kept in memory, by `DestSPTaskRunner`, and in two tables,
from which `LoadFromDB` rebuilds the memory at a start. A swap-out's message and
its list of completed GVGs are strings in the table; here they are what the strings
encode. Keys are data as well, and the empty string is a key of its own.

After a restart the runner should have one unit for each GVG that is still to be
migrated, as it was before, under the swap-out it belongs to. `LoadFromDB` looks up
the source SP of the first swap-out and returns when it *finds* it, so with every
read answered it rebuilds no unit at all. A restart loses nothing exactly when there
was nothing left to migrate.
-/

namespace Manager
open Table (written)

structure StorageProvider where
  id : Nat

structure GVG where
  id : Nat
  familyId : Nat
  secondarySPIds : List Nat
  deriving DecidableEq

structure MsgSwapOut where
  /-- The operator address of the exiting SP. -/
  storageProvider : Nat
  /-- Zero for a swap-out of listed GVGs. -/
  familyId : Nat
  gvgIds : List Nat
  deriving DecidableEq

inductive SwapOutKey where
  | empty
  | family (id : Nat)
  | gvgList (ids : List Nat)
  deriving DecidableEq

variable (m : MsgSwapOut)

def makeSwapOutKey : SwapOutKey := if m.familyId ≠ 0 then .family m.familyId else .gvgList m.gvgIds

structure MigrateKey where
  gvgId : Nat
  familyId : Nat
  redundancyIndex : Int
  deriving DecidableEq

inductive MigrateStatus where
  | waitForMigrate | migrating | migrated
  deriving DecidableEq

def primarySPRedundancyIndex : Int := -1

/-! ## The state of the destination -/

/-- An SPExitGVGExecuteUnit. -/
structure ExecuteUnit where
  srcGVG : GVG
  srcSP : Option StorageProvider := none
  redundancyIndex : Int
  swapOutKey : SwapOutKey
  migrateStatus : MigrateStatus := .waitForMigrate
  lastMigratedObjectID : Nat := 0

structure SwapOutRow where
  swapOutKey : SwapOutKey
  isDestSP : Bool
  swapOutMsg : MsgSwapOut
  completedGVGs : List Nat
  deriving DecidableEq

structure MigrateRow where
  swapOutKey : SwapOutKey
  redundancyIndex : Int
  srcSPID : Nat
  lastMigratedObjectID : Nat
  migrateStatus : MigrateStatus

structure Db where
  swapOuts : List SwapOutRow := []
  migrateGVG : MigrateKey → Option MigrateRow := fun _ => none

structure SwapOutUnit where
  isFamily : Bool := false
  swapOut : MsgSwapOut
  /-- The keys of completedGVG. -/
  completedGVG : List Nat := []

/-- A DestSPTaskRunner. -/
structure Runner where
  keyIndexMap : MigrateKey → Option Nat := fun _ => none
  gvgUnits : List ExecuteUnit := []
  swapOutUnitMap : SwapOutKey → Option SwapOutUnit := fun _ => none

/-- Queries of the chain. -/
structure Chain where
  querySP : Nat → Option StorageProvider
  listGlobalVirtualGroupsByFamilyID : Nat → Option (List GVG)
  queryGlobalVirtualGroup : Nat → Option GVG
  gvg_id : ∀ i g, queryGlobalVirtualGroup i = some g → g.id = i

/-- The destination SP: memory, tables and the `MsgCompleteSwapOut` sent. -/
structure Dest where
  runner : Runner := {}
  db : Db := {}
  sent : List MsgSwapOut := []

variable (d : Dest) (chain : Chain) (r : Runner) (db : Db) (k : MigrateKey) (g : GVG)
  (u : ExecuteUnit) (row : MigrateRow) (s : SwapOutUnit)

def getSecondarySPIndexFromGVG (spId : Nat) : Option Nat := g.secondarySPIds.idxOf? spId

/-- The index that GetSecondarySPIndexFromGVG returns next to an error it may have. -/
def secondaryIndex (spId : Nat) : Int :=
  match getSecondarySPIndexFromGVG g spId with
  | some i => i
  | none => -1

def makeGVGMigrateKey (gvgId familyId : Nat) (redundancyIndex : Int) : MigrateKey :=
  ⟨gvgId, familyId, redundancyIndex⟩

def ExecuteUnit.key : MigrateKey :=
  makeGVGMigrateKey u.srcGVG.id u.srcGVG.familyId u.redundancyIndex

/-! ## Tables -/

namespace Db

def setMigrate : Db :=
  { db with migrateGVG := fun k' => if k' = k then some row else db.migrateGVG k' }

/-- The table has one row for a key and a side. -/
def insertSwapOutUnit (row : SwapOutRow) : Option Db :=
  if db.swapOuts.any fun r => r.swapOutKey = row.swapOutKey ∧ r.isDestSP = row.isDestSP then none
  else some { db with swapOuts := db.swapOuts ++ [row] }

def updateSwapOutUnitCompletedGVGList (k : SwapOutKey) (ids : List Nat) : Db :=
  { db with swapOuts := db.swapOuts.map fun r =>
      if r.swapOutKey = k ∧ r.isDestSP = true then { r with completedGVGs := ids } else r }

def listDestSPSwapOutUnits : List SwapOutRow := db.swapOuts.filter (·.isDestSP)

/-- Inserts the row, or updates the one there with the fields that are not zero. -/
def insertMigrateGVGUnit : Db :=
  match db.migrateGVG k with
  | none => db.setMigrate k row
  | some old =>
    db.setMigrate k
      { swapOutKey := written .empty old.swapOutKey row.swapOutKey
        redundancyIndex := written 0 old.redundancyIndex row.redundancyIndex
        srcSPID := written 0 old.srcSPID row.srcSPID
        lastMigratedObjectID := written 0 old.lastMigratedObjectID row.lastMigratedObjectID
        migrateStatus := written .waitForMigrate old.migrateStatus row.migrateStatus }

def updateMigrateGVGUnitStatus (st : MigrateStatus) : Db :=
  match db.migrateGVG k with
  | none => db
  | some old => if st = .waitForMigrate then db else db.setMigrate k { old with migrateStatus := st }

def updateMigrateGVGUnitLastMigrateObjectID (last : Nat) : Db :=
  match db.migrateGVG k with
  | none => db
  | some old => if last = 0 then db else db.setMigrate k { old with lastMigratedObjectID := last }

/-- The columns that the query returns: the swap-out key is not among them. -/
def queryMigrateGVGUnit : Option MigrateRow :=
  (db.migrateGVG k).map fun row => { row with swapOutKey := .empty }

end Db

/-! ## The runner -/

/-- The set completedGVG with one more GVG. -/
def SwapOutUnit.completedWith (gvgId : Nat) : List Nat :=
  if gvgId ∈ s.completedGVG then s.completedGVG else s.completedGVG ++ [gvgId]

namespace Runner

def setSwapOut (k : SwapOutKey) (u : SwapOutUnit) : Runner :=
  { r with swapOutUnitMap := fun k' => if k' = k then some u else r.swapOutUnitMap k' }

def appendUnit : Runner :=
  { r with
    gvgUnits := r.gvgUnits ++ [u]
    keyIndexMap := fun k => if k = u.key then some r.gvgUnits.length else r.keyIndexMap k }

/-- The unit of a key. -/
def unitAt : Option ExecuteUnit := (r.keyIndexMap k).bind (r.gvgUnits[·]?)

def modifyUnit (f : ExecuteUnit → ExecuteUnit) : Runner :=
  match r.keyIndexMap k with
  | none => r
  | some i => { r with gvgUnits := r.gvgUnits.modify i f }

end Runner

/-! ## Adding a swap-out -/

/-- The GVGs that a swap-out covers. -/
def coveredGVGs (m : MsgSwapOut) : Option (List GVG) :=
  if m.familyId ≠ 0 then chain.listGlobalVirtualGroupsByFamilyID m.familyId
  else m.gvgIds.mapM chain.queryGlobalVirtualGroup

/-- The unit that AddSwapOutToTaskRunner makes for a GVG. -/
def newUnit (m : MsgSwapOut) (srcSP : StorageProvider) (g : GVG) : ExecuteUnit :=
  { srcGVG := g, srcSP := some srcSP, redundancyIndex := secondaryIndex g srcSP.id
    swapOutKey := makeSwapOutKey m }

/-- The units of a swap-out, if the chain answers. -/
def swapOutUnits (m : MsgSwapOut) : Option (List ExecuteUnit) := do
  let srcSP ← chain.querySP m.storageProvider
  let gvgs ← coveredGVGs chain m
  return gvgs.map (newUnit m srcSP)

namespace Dest

/-- The part of AddNewMigrateGVGUnit under the lock, and the insert. -/
def addNewMigrateGVGUnit (inserts : Bool) : Bool × Dest :=
  if (d.runner.keyIndexMap u.key).isSome then (true, d)
  else
    let d := { d with runner := d.runner.appendUnit u }
    if inserts then
      (true, { d with
        db := d.db.insertMigrateGVGUnit u.key
          { swapOutKey := u.swapOutKey, redundancyIndex := u.redundancyIndex
            srcSPID := (u.srcSP.map (·.id)).getD 0, lastMigratedObjectID := 0
            migrateStatus := u.migrateStatus } })
    else (false, d)

def addNewSwapOut (m : MsgSwapOut) (inserts : Bool) : Bool × Dest :=
  let k := makeSwapOutKey m
  if (d.runner.swapOutUnitMap k).isSome then (true, d)
  else
    let d := { d with runner := d.runner.setSwapOut k { swapOut := m } }
    let row : SwapOutRow := ⟨k, true, m, []⟩
    match if inserts then d.db.insertSwapOutUnit row else none with
    | some db => (true, { d with db })
    | none => (false, d)

/-- A family without GVGs is complete at once. -/
def completeEmptyFamily (m : MsgSwapOut) (units : List ExecuteUnit) : Dest :=
  if m.familyId ≠ 0 ∧ units = [] then { d with sent := d.sent ++ [m] } else d

/-- AddSwapOutToTaskRunner with nothing in between and every call answered. -/
def addSwapOutToTaskRunner (m : MsgSwapOut) : Dest :=
  match swapOutUnits chain m with
  | none => d
  | some units =>
    let d := d.completeEmptyFamily m units
    ((units.foldl (fun d u => (d.addNewMigrateGVGUnit u true).2) d).addNewSwapOut m true).2

/-! ## Reports -/

/-- Which of the calls that a report makes go through. -/
structure Calls where
  updatesList : Bool := true
  sends : Bool := true
  updatesRow : Bool := true

def updateMigrateGVGLastMigratedObjectID (last : Nat) (calls : Calls) : Bool × Dest :=
  if (d.runner.unitAt k).isNone then (false, d)
  else
    let d := { d with runner := d.runner.modifyUnit k ({ · with lastMigratedObjectID := last }) }
    if calls.updatesRow then
      (true, { d with db := d.db.updateMigrateGVGUnitLastMigrateObjectID k last })
    else (false, d)

/-- The GVGs that have to be complete before the swap-out is. -/
def needCompleted : Option (List Nat) :=
  if s.isFamily then (chain.listGlobalVirtualGroupsByFamilyID s.swapOut.familyId).map (·.map (·.id))
  else some s.swapOut.gvgIds

def checkAndSendCompleteSwapOutTx (calls : Calls) : Bool × Dest :=
  let completed := s.completedWith u.srcGVG.id
  let d := { d with runner := d.runner.setSwapOut u.swapOutKey { s with completedGVG := completed } }
  if !calls.updatesList then (false, d)
  else
    let d := { d with db := d.db.updateSwapOutUnitCompletedGVGList u.swapOutKey completed }
    match needCompleted chain s with
    | none => (false, d)
    | some need =>
      if need.all (· ∈ completed) then
        if calls.sends then (true, { d with sent := d.sent ++ [s.swapOut] }) else (false, d)
      else (true, d)

def updateMigrateGVGStatus (st : MigrateStatus) (calls : Calls) : Bool × Dest :=
  match d.runner.unitAt k with
  | none => (false, d)
  | some u =>
    let d := { d with runner := d.runner.modifyUnit k ({ · with migrateStatus := st }) }
    match d.runner.swapOutUnitMap u.swapOutKey with
    | none => (true, d)
    | some s =>
      match d.checkAndSendCompleteSwapOutTx chain u s calls with
      | (false, d) => (false, d)
      | (true, d) =>
        if calls.updatesRow then (true, { d with db := d.db.updateMigrateGVGUnitStatus k st })
        else (false, d)

end Dest

/-! ## A restart -/

inductive LoadErr where
  | list | listFamily | queryGVG | redundancyIndex | queryUnit

/-- The unit rebuilt from a row: it has no source SP. -/
def loadedUnit : ExecuteUnit :=
  { srcGVG := g, redundancyIndex := row.redundancyIndex, swapOutKey := row.swapOutKey
    lastMigratedObjectID := row.lastMigratedObjectID }

section
variable (chain : Chain) (db : Db)

def loadUnit (k : MigrateKey) (g : GVG) (r : Runner) : Except LoadErr Runner :=
  match db.queryMigrateGVGUnit k with
  | none => .error .queryUnit
  | some row => .ok (r.appendUnit (loadedUnit g row))

/-- The units of a family swap-out. An error leaves what was rebuilt before it. -/
def loadFamily (completed : List Nat) : List GVG → Runner → Option LoadErr × Runner
  | [], r => (none, r)
  | g :: gs, r =>
    if g.id ∈ completed then loadFamily completed gs r
    else
      match loadUnit db (makeGVGMigrateKey g.id g.familyId primarySPRedundancyIndex) g r with
      | .error e => (some e, r)
      | .ok r => loadFamily completed gs r

/-- The units of a swap-out of listed GVGs. -/
def loadListed (srcSP : Nat) : List GVG → Runner → Option LoadErr × Runner
  | [], r => (none, r)
  | g :: gs, r =>
    match getSecondarySPIndexFromGVG g srcSP with
    | none => (some .redundancyIndex, r)
    | some i =>
      match loadUnit db (makeGVGMigrateKey g.id g.familyId i) g r with
      | .error e => (some e, r)
      | .ok r => loadListed srcSP gs r

def loadSwapOut (srcSP : Option StorageProvider) (row : SwapOutRow) (r : Runner) :
    Option LoadErr × Runner :=
  let m := row.swapOutMsg
  if m.familyId ≠ 0 then
    match chain.listGlobalVirtualGroupsByFamilyID m.familyId with
    | none => (some .listFamily, r)
    | some gvgs => loadFamily db row.completedGVGs gvgs r
  else
    match (m.gvgIds.filter (· ∉ row.completedGVGs)).mapM chain.queryGlobalVirtualGroup with
    | none => (some .queryGVG, r)
    | some gvgs => loadListed db ((srcSP.map (·.id)).getD 0) gvgs r

def loadSwapOuts : List SwapOutRow → Runner → Option LoadErr × Runner
  | [], r => (none, r)
  | row :: rows, r =>
    let r := r.setSwapOut row.swapOutKey { swapOut := row.swapOutMsg, completedGVG := row.completedGVGs }
    match chain.querySP row.swapOutMsg.storageProvider with
    -- the test is for a provider, so the error returned with one is nil
    | some _ => (none, r)
    | none =>
      match loadSwapOut chain db none row r with
      | (some e, r) => (some e, r)
      | (none, r) => loadSwapOuts rows r

/-- The error returned, if any, and the new runner. -/
def loadFromDB (listed : Bool) : Option LoadErr × Runner :=
  if listed then loadSwapOuts chain db db.listDestSPSwapOutUnits {} else (some .list, {})

end

/-! ## Restarts -/

/-- The chain answers every query. -/
structure Chain.Answers (chain : Chain) : Prop where
  querySP : ∀ a, (chain.querySP a).isSome
  family : ∀ f, (chain.listGlobalVirtualGroupsByFamilyID f).isSome
  gvg : ∀ i, (chain.queryGlobalVirtualGroup i).isSome

/-- The GVGs of a recorded swap-out that are not in its completed list. -/
def SwapOutRow.unfinished (chain : Chain) (row : SwapOutRow) : List GVG :=
  ((coveredGVGs chain row.swapOutMsg).getD []).filter (·.id ∉ row.completedGVGs)

/-- A report on the unit reaches the completion check of the swap-out. -/
def Runner.Reaches (r : Runner) (u : ExecuteUnit) (row : SwapOutRow) : Prop :=
  r.unitAt u.key = some u ∧ u.swapOutKey = row.swapOutKey ∧
    ∃ s, r.swapOutUnitMap u.swapOutKey = some s ∧ s.swapOut = row.swapOutMsg

/-- The destination side is as it was: `before` is the runner at the end of the last
process, `after` the one that LoadFromDB built from `db`. -/
structure Rebuilt (chain : Chain) (db : Db) (before : Runner) (err : Option LoadErr) (after : Runner) :
    Prop where
  returns : err = none
  /-- One unit for each GVG that is not completed, with what its unit had before. -/
  unit : ∀ row ∈ db.listDestSPSwapOutUnits, ∀ g ∈ row.unfinished chain,
    ∃ u, after.gvgUnits.filter (fun u => u.srcGVG = g ∧ u.swapOutKey = row.swapOutKey) = [u] ∧
      after.Reaches u row ∧
      ∀ u₀ ∈ before.gvgUnits, u₀.srcGVG = g → u₀.swapOutKey = row.swapOutKey →
        u.srcSP = u₀.srcSP ∧ u.redundancyIndex = u₀.redundancyIndex ∧
          u.lastMigratedObjectID = u₀.lastMigratedObjectID
  /-- And no other unit. -/
  noOther : ∀ u ∈ after.gvgUnits, ∃ row ∈ db.listDestSPSwapOutUnits,
    u.srcGVG ∈ row.unfinished chain ∧ u.swapOutKey = row.swapOutKey

/-- With every source SP found, the loop ends at the first swap-out. -/
theorem loadFromDB_of_found {chain : Chain} {db : Db} (hfound : ∀ a, (chain.querySP a).isSome) :
    (loadFromDB chain db true).1 = none ∧ (loadFromDB chain db true).2.gvgUnits = [] := by
  simp only [loadFromDB, if_true]
  cases db.listDestSPSwapOutUnits with
  | nil => exact ⟨rfl, rfl⟩
  | cons row =>
    obtain ⟨_, hsp⟩ := Option.isSome_iff_exists.mp (hfound row.swapOutMsg.storageProvider)
    simp only [loadSwapOuts, hsp]
    exact ⟨trivial, rfl⟩

/-- **A restart rebuilds the destination side** exactly when every GVG of every
recorded swap-out is in its completed list. -/
theorem restart_rebuilds_iff {chain : Chain} (hchain : chain.Answers) (d : Dest) :
    Rebuilt chain d.db d.runner (loadFromDB chain d.db true).1 (loadFromDB chain d.db true).2 ↔
      ∀ row ∈ d.db.listDestSPSwapOutUnits, row.unfinished chain = [] := by
  obtain ⟨hret, hunits⟩ := @loadFromDB_of_found chain d.db hchain.querySP
  constructor
  · intro h row hrow
    rw [List.eq_nil_iff_forall_not_mem]
    intro g hg
    obtain ⟨_, hu, -⟩ := h.unit row hrow g hg
    rw [hunits] at hu
    cases hu
  · intro h
    refine ⟨hret, ?_, ?_⟩
    · intro row hrow _ hg
      rw [h row hrow] at hg
      cases hg
    · intro _ hu
      rw [hunits] at hu
      cases hu

/-- Every family has one GVG, and SP 1 is a secondary of every GVG. -/
def plainChain : Chain where
  querySP := fun _ => some ⟨1⟩
  listGlobalVirtualGroupsByFamilyID := fun f => some [⟨10, f, [1]⟩]
  queryGlobalVirtualGroup := fun i => some ⟨i, 2, [4, 1]⟩
  gvg_id := by
    rintro i g ⟨⟩
    rfl

theorem plainChain_answers : plainChain.Answers := ⟨fun _ => rfl, fun _ => rfl, fun _ => rfl⟩

/-- A family swap-out and one of two listed GVGs, with the units of the second finished. -/
def oneOpen : Dest :=
  let d := (Dest.addSwapOutToTaskRunner {} plainChain ⟨7, 3, []⟩).addSwapOutToTaskRunner plainChain
    ⟨7, 0, [20, 21]⟩
  let d := (d.updateMigrateGVGStatus plainChain ⟨20, 2, 1⟩ .migrated {}).2
  (d.updateMigrateGVGStatus plainChain ⟨21, 2, 1⟩ .migrated {}).2

/-- The same after the family's unit is finished as well. -/
def allFinished : Dest := (oneOpen.updateMigrateGVGStatus plainChain ⟨10, 3, 0⟩ .migrated {}).2

theorem restart_rebuilds_all_finished : allFinished.db.listDestSPSwapOutUnits ≠ [] ∧
      Rebuilt plainChain allFinished.db allFinished.runner
        (loadFromDB plainChain allFinished.db true).1 (loadFromDB plainChain allFinished.db true).2 :=
  ⟨by decide +kernel, (restart_rebuilds_iff plainChain_answers allFinished).mpr (by decide +kernel)⟩

/-- The unit of the family swap-out is lost. -/
theorem restart_loses_unit :
    ¬ Rebuilt plainChain oneOpen.db oneOpen.runner (loadFromDB plainChain oneOpen.db true).1
      (loadFromDB plainChain oneOpen.db true).2 := by
  intro h
  have hrow : ⟨.family 3, true, ⟨7, 3, []⟩, []⟩ ∈ oneOpen.db.listDestSPSwapOutUnits := by
    decide +kernel
  obtain ⟨_, hu, -⟩ := h.unit _ hrow ⟨10, 3, [1]⟩ (by decide +kernel)
  rw [(@loadFromDB_of_found plainChain oneOpen.db plainChain_answers.querySP).2] at hu
  cases hu

end Manager

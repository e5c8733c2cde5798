-- SUMMARY: The migration of an object of a bucket to the destination SP.
import MocaSP.Manager.BucketPlan
import MocaSP.Piece.Checksums

/-!
# Migrating the objects of a GVG

The executor of the destination SP migrates the objects of a GVG one by one. It compares the
secondary SPs of the source GVG with those of the destination GVG: if they are different in
one position, the SP itself was the secondary there, and it sends its pieces to the SP that takes
its place. Then it gets the segments from the source SP, stores them and compares
their integrity hash with the one on chain.

Answers of other SPs, of the chain and of the database are given by `Answers`. Requests that
secondary SPs answered are kept in the state.
-/

namespace Executor.Migrate

open Piece Except
open Peer (PieceKey segmentPieceCount)
open Manager.BucketMigrate (GlobalVirtualGroup)

/-! ## Two lists of SPs -/

/-- The loop from an index on: the number of differences, and the index of the last one. -/
def differentFrom (i count : Nat) (index : Int) : List Nat → List Nat → Nat × Int
  | x :: xs, y :: ys =>
    if x ≠ y then differentFrom (i + 1) (count + 1) i xs ys else differentFrom (i + 1) count index xs ys
  | _, _ => (count, index)

def containOnlyOneDifferentElement (slice1 slice2 : List Nat) : Int :=
  if slice1.length ≠ slice2.length then -1
  else
    let (count, index) := differentFrom 0 0 (-1) slice1 slice2
    if count = 1 then index else -1

/-! ## The task -/

inductive MigrateErr where
  | params | spID | invalidSecondarySpID | querySP | getPiece | sign | replicateIdsOutOfBounds
  | replicatePiece | doneReplicatePiece | invalidSpID | migratePiece | pieceStore | gfSpDB
  | invalidPieceChecksumLength | migratedPieceChecksum | setObjectIntegrity

structure ObjectInfo (Digest : Type) where
  id : Nat
  version : Int
  payloadSize : Nat
  /-- Its redundancy type is REDUNDANCY_EC_TYPE. -/
  isEC : Bool
  checksums : List Digest

structure MigrateGVGTask where
  srcGvg : GlobalVirtualGroup
  destGvg : GlobalVirtualGroup
  srcSp : Nat

/-- A request to a secondary SP that was answered. -/
inductive Request where
  | replicatePiece (spID gvgID segmentIdx redundancyIdx : Nat) (data : Data)
  /-- The SP signed for the pieces. -/
  | doneReplicatePiece (spID gvgID redundancyIdx : Nat)

structure State (Digest : Type) where
  held : Holdings Digest
  answered : List Request := []

structure Answers where
  /-- The maximal size of a segment. -/
  storageParams : Option Nat
  spID : Option Nat
  querySPByID : Nat → Bool := fun _ => true
  getPieceFails : Nat → Bool := fun _ => false
  signReceiveTask : Nat → Bool := fun _ => true
  replicatePiece : Nat → Bool := fun _ => true
  signDoneReceiveTask : Bool := true
  doneReplicatePiece : Bool := true
  /-- The segments that the source SP sends. -/
  migratePiece : Nat → Option Data
  put : Nat → Put := fun _ => .ok
  setChecksum : Nat → Write := fun _ => .ok
  getAll : RowsRead := {}
  setIntegrity : Write := .ok
  delete : Nat → Write := fun _ => .ok

/-- A loop over segments that ends with the first error. -/
def forSegments {σ ε : Type} (f : Nat → σ → Except ε Unit × σ) : List Nat → σ → Except ε Unit × σ
  | [], s => (.ok (), s)
  | i :: rest, s =>
    match f i s with
    | (.error e, s) => (.error e, s)
    | (.ok (), s) => forSegments f rest s

section
variable {Digest : Type} [DecidableEq Digest] (H : Hash Digest)

variable (object : ObjectInfo Digest)

def ObjectInfo.pieceKey (segmentIdx redundancyIdx : Nat) : PieceKey :=
  if object.isEC then .ec object.id segmentIdx redundancyIdx object.version
  else .segment object.id segmentIdx object.version

/-- A piece is read and sent by doBucketMigrationReplicatePiece. -/
def replicateSegment (gvgID spID index : Nat) (a : Answers) (segIdx : Nat)
    (s : State Digest) : Except MigrateErr Unit × State Digest :=
  match if a.getPieceFails segIdx then none else s.held.store.pieces (object.pieceKey segIdx index) with
  | none => (.error .getPiece, s)
  | some data =>
    if !a.signReceiveTask segIdx then (.error .sign, s)
    else if index + 1 ≥ object.checksums.length then (.error .replicateIdsOutOfBounds, s)
    else if !a.replicatePiece segIdx then (.error .replicatePiece, s)
    else (.ok (), { s with answered := .replicatePiece spID gvgID segIdx index data :: s.answered })

def doneBucketMigrationReplicatePiece (gvgID spID index : Nat) (a : Answers) (s : State Digest) :
    Except MigrateErr Unit × State Digest :=
  if !a.signDoneReceiveTask then (.error .sign, s)
  else if !a.doneReplicatePiece then (.error .doneReplicatePiece, s)
  else (.ok (), { s with answered := .doneReplicatePiece spID gvgID index :: s.answered })

def checkGVGConflict (srcGvg destGvg : GlobalVirtualGroup) (object : ObjectInfo Digest) (maxSegmentSize : Nat)
    (a : Answers) (s : State Digest) : Except MigrateErr Unit × State Digest :=
  let index := containOnlyOneDifferentElement srcGvg.secondarySpIds destGvg.secondarySpIds
  if index = primarySPRedundancyIndex then (.ok (), s)
  else
    match a.spID with
    | none => (.error .spID, s)
    | some spID =>
      if srcGvg.secondarySpIds[index.toNat]? ≠ some spID then (.error .invalidSecondarySpID, s)
      else
        let destSecondarySPID := destGvg.secondarySpIds.getD index.toNat 0
        if !a.querySPByID destSecondarySPID then (.error .querySP, s)
        else
          let segmentCount := segmentPieceCount object.payloadSize maxSegmentSize
          match forSegments (replicateSegment object destGvg.id destSecondarySPID index.toNat a)
            (List.range segmentCount) s with
          | (.error e, s) => (.error e, s)
          | (.ok (), s) => doneBucketMigrationReplicatePiece destGvg.id destSecondarySPID index.toNat a s

/-- A segment is fetched from the source SP, stored and recorded. -/
def migrateSegment (redundancyIdx : Int) (a : Answers) (i : Nat)
    (s : State Digest) : Except MigrateErr Unit × State Digest :=
  match a.migratePiece i with
  | none => (.error .migratePiece, s)
  | some pieceData =>
    let key : PieceKey := if redundancyIdx = primarySPRedundancyIndex then .segment object.id i object.version
      else .ec object.id i redundancyIdx.toNat object.version
    let s := { s with held := s.held.putPiece (a.put i) key pieceData }
    match a.put i with
    | .fails _ => (.error .pieceStore, s)
    | .ok =>
      let (set, held) := s.held.setReplicatePieceChecksum (a.setChecksum i) object.id i redundancyIdx
        (H.generateChecksum pieceData) object.version
      (set.mapError fun _ => .gfSpDB, { s with held })

/-- The integrity hash of the pieces against the one on chain. -/
def checkMigratedPieces (segmentCount : Nat) (redundancyIdx : Int) (a : Answers)
    (s : Holdings Digest) : Except MigrateErr (List Digest) := do
  let pieceChecksums ← (s.getAllReplicatePieceChecksumOptimized a.getAll object.id redundancyIdx
    segmentCount).mapError fun _ => .gfSpDB
  failIf (pieceChecksums.length ≠ segmentCount) .invalidPieceChecksumLength
  failIf (some (H.generateIntegrityHash pieceChecksums) ≠ checksumFor object.checksums redundancyIdx)
    .migratedPieceChecksum
  return pieceChecksums

/-- The integrity row is written; an error of the deletes after it is ignored. -/
def setMigratePiecesMetadata (segmentCount : Nat) (redundancyIdx : Int)
    (a : Answers) (s : State Digest) : Except MigrateErr Unit × State Digest :=
  match checkMigratedPieces H object segmentCount redundancyIdx a s.held with
  | .error e => (.error e, s)
  | .ok pieceChecksums =>
    let (set, store) := s.held.store.setObjectIntegrity a.setIntegrity object.id redundancyIdx
      { pieceChecksumList := pieceChecksums
        integrityChecksum := some (H.generateIntegrityHash pieceChecksums)
        version := none
        objectSize := 0 }
    let held := { s.held with store }
    match set with
    | .error _ => (.error .setObjectIntegrity, { s with held })
    | .ok () =>
      (.ok (), { s with held := (held.deleteAllReplicatePieceChecksum a.delete object.id redundancyIdx
        segmentCount).2 })

def handleMigratePieceTask (maxSegmentSize : Nat) (redundancyIdx : Int)
    (a : Answers) (s : State Digest) : Except MigrateErr Unit × State Digest :=
  let segmentCount := segmentPieceCount object.payloadSize maxSegmentSize
  match forSegments (migrateSegment H object redundancyIdx a) (List.range segmentCount) s with
  | (.error e, s) => (.error e, s)
  | (.ok (), s) => setMigratePiecesMetadata H object segmentCount redundancyIdx a s

/-- The redundancy index that the source SP has in the GVG of the object. -/
def redundancyIndex (selfSpID : Nat) (gvg : GlobalVirtualGroup) : Option Int :=
  match gvg.secondarySpIds.idxOf? selfSpID with
  | some idx => some idx
  | none => if selfSpID = gvg.primarySpId then some primarySPRedundancyIndex else none

def doObjectMigration (task : MigrateGVGTask) (bucketID : Nat) (object : ObjectInfo Digest)
    (gvg : GlobalVirtualGroup) (a : Answers) (s : State Digest) : Except MigrateErr Unit × State Digest :=
  match a.storageParams with
  | none => (.error .params, s)
  | some maxSegmentSize =>
    let resolved := if bucketID ≠ 0 then
        checkGVGConflict task.srcGvg task.destGvg object maxSegmentSize a s
      else (.ok (), s)
    match resolved with
    | (.error e, s) => (.error e, s)
    | (.ok (), s) =>
      match redundancyIndex task.srcSp gvg with
      | none => (.error .invalidSpID, s)
      | some redundancyIdx => handleMigratePieceTask H object maxSegmentSize redundancyIdx a s

end

end Executor.Migrate

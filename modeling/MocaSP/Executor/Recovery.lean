-- SUMMARY: The task that recovers a piece from other SPs.
import MocaSP.Piece.Checksums

/-!
# Recovering a piece

A recovery task asks the primary SP, or else the secondary SPs, for the data of
one segment, stores the piece and, when it is made for a successor SP, records the
checksum of the piece. The checksum that completes the object is followed by the
comparison with the sealed checksums, and by the integrity row.

Answers of other SPs, of the chain and of the database are given by `Answers`. The
decoder and the encoder of the redundancy are a `Codec`.
-/

namespace Executor

open Piece Except
open Peer (PieceKey StorageParams segmentPieceCount segmentPieceSize ecPieceSize)

inductive RecoveryErr where
  | objectStatus | redundancyType | pieceIndex
  /-- The endpoint, the signature or the download from the primary SP. -/
  | primarySP
  | endpoints | pieceNotEnough | operator | sign | pieceLength | decode | ecPiece
  | pieceChecksum | pieceStore | gfSpDB | consensus | chainChecksum
  deriving DecidableEq

/-- What the recovery tasks of one object and redundancy index have in common. -/
structure RecoveryTarget where
  objectID : Nat
  version : Int
  payloadSize : Nat
  isSealed : Bool
  isEC : Bool
  params : StorageParams
  ecIdx : Int

structure RecoveryPieceTask extends RecoveryTarget where
  segmentIdx : Nat
  bySuccessorSP : Bool

/-- The segments that the object has. -/
def RecoveryTarget.segmentCount (t : RecoveryTarget) : Nat :=
  segmentPieceCount t.payloadSize t.params.maxSegmentSize

/-- The key of a segment's piece: a whole segment for the primary SP. -/
def RecoveryTarget.recoveryKey (t : RecoveryTarget) (segmentIdx : Nat) : PieceKey :=
  if 0 ≤ t.ecIdx then .ec t.objectID segmentIdx t.ecIdx.toNat t.version
  else .segment t.objectID segmentIdx t.version

/-- The redundancy code, and what slicing a decoded segment gives. -/
structure Codec where
  decodeRawSegment : List (Option Data) → Int → Nat → Nat → Option Data
  encodeRawSegment : Data → Nat → Nat → Option (List Data)
  /-- A slice beyond the data shows its buffer, or panics. -/
  slice : Data → Int → Int → Option Data

/-- What the store and the database answer while a piece is stored. -/
structure StoreAnswers (Digest : Type) where
  put : Put := .ok
  setChecksum : Write := .ok
  getAll : RowsRead := {}
  /-- The checksums of the object on chain. -/
  chainChecksums : Option (List Digest) := none
  /-- The deletes after a mismatch. -/
  drop : Nat → Write := fun _ => .ok
  setIntegrity : Write := .ok
  delete : Nat → Write := fun _ => .ok

structure Answers (Digest : Type) where
  /-- The data that the primary SP sends. -/
  fromPrimary : Option Data := none
  primaryStore : StoreAnswers Digest := {}
  secondaryCount : Option Nat := none
  operatorFound : Bool := true
  signs : Bool := true
  /-- The data that each secondary sends. The SP does not ask itself. -/
  fromSecondary : Nat → Option Data := fun _ => none
  secondaryStore : StoreAnswers Digest := {}
  integrityFails : Bool := false

section
variable {Digest : Type} [DecidableEq Digest] (H : Hash Digest) (codec : Codec)

/-! ## Data -/

variable (t : RecoveryPieceTask)

/-- The comparison with the row of an SP that has the object already. -/
def checkRecoveryChecksum (fails : Bool) (recoveryChecksum : Digest)
    (s : Holdings Digest) : Except RecoveryErr Unit := do
  let row ← (s.store.getObjectIntegrity fails t.objectID t.ecIdx).mapError fun _ => .gfSpDB
  let expected ← orFail row.pieceChecksumList[t.segmentIdx]? .pieceChecksum
  failIf (recoveryChecksum ≠ expected) .pieceChecksum

/-- A successor is checked once its piece set is complete. -/
def checkUnlessSuccessor (fails : Bool) (data : Data)
    (s : Holdings Digest) : Except RecoveryErr Unit :=
  if t.bySuccessorSP then .ok ()
  else checkRecoveryChecksum t fails (H.generateChecksum data) s

variable (a : Answers Digest)

def dataByPrimarySP (s : Holdings Digest) : Except RecoveryErr Data := do
  let pieceData ← orFail a.fromPrimary .primarySP
  checkUnlessSuccessor H t a.integrityFails pieceData s
  return pieceData

def checkRecoveryPieceLength (pieceSize dataShards : Nat) (segmentSize : Int) :
    Except RecoveryErr Unit :=
  let ecTotalSize : Int := pieceSize * dataShards
  failIf (ecTotalSize < segmentSize ∨ ecTotalSize > segmentSize + dataShards) .pieceLength

/-- The length of the first piece that is not empty. -/
def downLoadPieceSize (sources : List (Option Data)) : Nat :=
  (((sources.map fun d => (d.getD []).length).find? (· ≠ 0))).getD 0

def getECPieceBySegment (recoverySegData : Data) : Except RecoveryErr Data := do
  let dataShards := t.params.redundantDataChunkNum
  failIf (t.ecIdx < 0 ∨ t.ecIdx > t.params.redundancyNumber) .ecPiece
  if 0 < t.ecIdx ∧ t.ecIdx < dataShards then
    let size ← (ecPieceSize t.payloadSize t.segmentIdx t.params.maxSegmentSize
      dataShards).mapError fun _ => .ecPiece
    orFail (codec.slice recoverySegData (t.ecIdx * size) ((t.ecIdx + 1) * size)) .ecPiece
  else
    let pieces ← orFail (codec.encodeRawSegment recoverySegData dataShards
      t.params.redundantParityChunkNum) .ecPiece
    orFail pieces[t.ecIdx.toNat]? .ecPiece

def dataBySecondarySP (isMyselfSecondary : Bool) (a : Answers Digest)
    (s : Holdings Digest) : Except RecoveryErr Data := do
  let dataShards := t.params.redundantDataChunkNum
  let parityShards := t.params.redundantParityChunkNum
  let secondaryCount ← orFail a.secondaryCount .endpoints
  failIf (secondaryCount ≠ dataShards + parityShards) .pieceNotEnough
  failIf (isMyselfSecondary ∧ !a.operatorFound) .operator
  failIf (!a.signs) .sign
  let sources := (List.range secondaryCount).map a.fromSecondary
  failIf (sources.countP Option.isSome < dataShards) .pieceNotEnough
  let segmentSize := segmentPieceSize t.payloadSize t.segmentIdx t.params.maxSegmentSize
  checkRecoveryPieceLength (downLoadPieceSize sources) dataShards segmentSize
  let recoverySegData ← orFail
    (codec.decodeRawSegment sources segmentSize dataShards parityShards) .decode
  let recovered ← if isMyselfSecondary then getECPieceBySegment codec t recoverySegData
    else pure recoverySegData
  checkUnlessSuccessor H t a.integrityFails recovered s
  return recovered

/-! ## Storing a piece -/

/-- All checksums are there: the sealed checksums decide. -/
def setIntegrityMetadata (a : StoreAnswers Digest)
    (pieceChecksums : List Digest) (s : Holdings Digest) :
    Except RecoveryErr Unit × Holdings Digest :=
  let integrityChecksum := H.generateIntegrityHash pieceChecksums
  match a.chainChecksums with
  | none => (.error .consensus, s)
  | some sealedChecksums =>
    match checksumFor sealedChecksums t.ecIdx with
    | none => (.error .chainChecksum, s)
    | some expected =>
      if integrityChecksum ≠ expected then
        (.error .chainChecksum,
          (s.deleteAllReplicatePieceChecksum a.drop t.objectID t.ecIdx t.segmentCount).2)
      else
        let (set, store) := s.store.setObjectIntegrity a.setIntegrity t.objectID t.ecIdx
          { pieceChecksumList := pieceChecksums, integrityChecksum := some integrityChecksum,
            version := none, objectSize := 0 }
        match set with
        | .error _ => (.error .gfSpDB, { s with store })
        | .ok () =>
          let (deleted, s) := Holdings.deleteAllReplicatePieceChecksum { s with store }
            a.delete t.objectID t.ecIdx t.segmentCount
          (deleted.mapError fun _ => .gfSpDB, s)

def setPieceMetadata (a : StoreAnswers Digest) (pieceData : Data)
    (s : Holdings Digest) : Except RecoveryErr Unit × Holdings Digest :=
  let (set, s) := s.setReplicatePieceChecksum a.setChecksum t.objectID t.segmentIdx t.ecIdx
    (H.generateChecksum pieceData) t.version
  match set with
  | .error _ => (.error .gfSpDB, s)
  | .ok () =>
    match s.getAllReplicatePieceChecksumOptimized a.getAll t.objectID t.ecIdx
        t.segmentCount with
    | .error _ => (.error .gfSpDB, s)
    | .ok pieceChecksums =>
      if pieceChecksums.length = t.segmentCount then setIntegrityMetadata H t a pieceChecksums s
      else (.ok (), s)

/-- The end of both ways to recover a piece. -/
def storeRecovered (a : StoreAnswers Digest) (pieceData : Data)
    (s : Holdings Digest) : Except RecoveryErr Unit × Holdings Digest :=
  let s := s.putPiece a.put (t.recoveryKey t.segmentIdx) pieceData
  match a.put with
  | .fails _ => (.error .pieceStore, s)
  | .ok => if t.bySuccessorSP then setPieceMetadata H t a pieceData s else (.ok (), s)

/-! ## The handler -/

def recoverByPrimarySP (s : Holdings Digest) : Except RecoveryErr Unit × Holdings Digest :=
  match dataByPrimarySP H t a s with
  | .error e => (.error e, s)
  | .ok pieceData => storeRecovered H t a.primaryStore pieceData s

def recoverBySecondarySP (isMyselfSecondary : Bool) (a : Answers Digest)
    (s : Holdings Digest) : Except RecoveryErr Unit × Holdings Digest :=
  match dataBySecondarySP H codec t isMyselfSecondary a s with
  | .error e => (.error e, s)
  | .ok pieceData => storeRecovered H t a.secondaryStore pieceData s

/-- The task after the handler: its error, and whether it was set as recovered. A task
that only the secondaries could recover has both. -/
structure Outcome where
  error : Option RecoveryErr
  recovered : Bool
  deriving DecidableEq

def checkTask : Except RecoveryErr Unit := do
  failIf (!t.isSealed) .objectStatus
  failIf (!t.isEC) .redundancyType
  failIf (t.ecIdx < -1 ∨ t.ecIdx > t.params.redundancyNumber) .pieceIndex

def handleRecoverPieceTask (s : Holdings Digest) : Outcome × Holdings Digest :=
  match checkTask t with
  | .error e => (⟨some e, false⟩, s)
  | .ok () =>
    if 0 ≤ t.ecIdx then
      match recoverByPrimarySP H t a s with
      | (.ok (), s) => (⟨none, true⟩, s)
      | (.error e, s) =>
        match recoverBySecondarySP H codec t true a s with
        | (.error e, s) => (⟨some e, false⟩, s)
        | (.ok (), s) => (⟨some e, true⟩, s)
    else
      match recoverBySecondarySP H codec t false a s with
      | (.error e, s) => (⟨some e, false⟩, s)
      | (.ok (), s) => (⟨none, true⟩, s)

end

end Executor

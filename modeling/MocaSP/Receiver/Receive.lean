-- SUMMARY: How a secondary SP receives and signs the pieces of an object.
import MocaSP.Piece.Checksums

/-!
# Receiving pieces

A secondary SP receives the pieces of an object one by one, each with its
checksum, and is then asked to sign for all of them. `HandleReceivePieceTask`
records the checksum before it stores the piece, and calls for different pieces
run at the same time; so a call is two steps here, up to the record and from then
on. The tasks in the queue between the two steps are the calls that are under
way. `HandleDoneReceivePieceTask` is one step.

All tasks are for one object, of which there may be several versions.
-/

namespace Receiver

open Piece Except
open Peer (PieceKey segmentPieceCount)

inductive ReceiveErr where
  | repeatedTask | push | invalidDataChecksum | gfSpDB | pieceStore
  | unfinishedTask | consensus | sign

/-- The object of the tasks. -/
structure Object where
  id : Nat
  /-- Its redundancy type is REDUNDANCY_EC_TYPE. -/
  isEC : Bool

structure ReceivePieceTask (Digest : Type) where
  -- the object info
  version : Int
  payloadSize : Nat
  isUpdating : Bool := false
  checksums : List Digest := []
  maxSegmentSize : Nat
  segmentIdx : Nat := 0
  redundancyIdx : Int32
  pieceChecksum : Option Digest := none
  globalVirtualGroupId : Nat := 0
  isAgentUploadTask : Bool := false

/-- The object on chain. -/
structure ChainObject (Digest : Type) where
  checksums : List Digest
  isUpdating : Bool
  /-- Its status is OBJECT_STATUS_CREATED. -/
  isCreated : Bool

/-- A call of HandleReceivePieceTask whose checksum is recorded. -/
structure Call (Digest : Type) where
  task : ReceivePieceTask Digest
  data : Data

structure State (Digest : Type) where
  held : Holdings Digest
  /-- The receive queue, with the data of each task. -/
  receiveQueue : List (Call Digest) := []

variable {Digest : Type} [DecidableEq Digest]

namespace ReceivePieceTask

variable (t : ReceivePieceTask Digest)

/-- The number and the index that are different in the keys of an object's tasks. -/
def key : Nat × Int32 := (t.segmentIdx, t.redundancyIdx)

def segmentCount : Nat := segmentPieceCount t.payloadSize t.maxSegmentSize

end ReceivePieceTask

/-- The key of a piece. -/
def Object.pieceKey (object : Object) (version : Int) (segmentIdx : Nat) (redundancyIdx : Int32) :
    PieceKey :=
  if object.isEC then .ec object.id segmentIdx redundancyIdx.toUInt32.toNat version
  else .segment object.id segmentIdx version

def State.has (s : State Digest) (key : Nat × Int32) : Bool := s.receiveQueue.any (·.task.key = key)

section
variable (H : Hash Digest) (object : Object)

/-! ## HandleReceivePieceTask -/

structure ReceiveAnswers where
  pushFails : Bool := false
  setChecksum : Write := .ok

variable (t : ReceivePieceTask Digest)

/-- A call up to the record of the checksum. -/
def recordPiece (data : Data) (a : ReceiveAnswers)
    (s : State Digest) : Except ReceiveErr Unit × State Digest :=
  if s.has t.key then (.error .repeatedTask, s)
  else if a.pushFails then (.error .push, s)
  else if some (H.generateChecksum data) ≠ t.pieceChecksum then (.error .invalidDataChecksum, s)
  else
    let (set, held) := s.held.setReplicatePieceChecksum a.setChecksum object.id t.segmentIdx
      t.redundancyIdx.toInt (H.generateChecksum data) t.version
    match set with
    | .error _ => (.error .gfSpDB, { s with held })
    | .ok () => (.ok (), { s with held, receiveQueue := ⟨t, data⟩ :: s.receiveQueue })

/-- The rest of the call, which ends with the task out of the queue. -/
def storePiece (call : Call Digest) (p : Put) (s : State Digest) :
    Except ReceiveErr Unit × State Digest :=
  let t := call.task
  let held := s.held.putPiece p (object.pieceKey t.version t.segmentIdx t.redundancyIdx) call.data
  let s := { s with held, receiveQueue := s.receiveQueue.filter (·.task.key ≠ t.key) }
  match p with
  | .fails _ => (.error .pieceStore, s)
  | .ok => (.ok (), s)

/-! ## HandleDoneReceivePieceTask -/

structure DoneAnswers (Digest : Type) where
  pushFails : Bool := false
  getAll : RowsRead := {}
  integrityFails : Bool := false
  /-- The answer, or none for an error; the inner none is an object that is not there. -/
  chainObject : Option (Option (ChainObject Digest)) := none
  /-- As above, for the checksums of the shadow object. -/
  shadowChecksums : Option (Option (List Digest)) := none
  signs : Bool := true
  setIntegrity : Write := .ok
  /-- The primary SP of the GVG. -/
  primarySpId : Option Nat := none
  spID : Option Nat := none
  delete : Write := .ok

variable (a : DoneAnswers Digest)

/-- The checksums of the pieces, and whether they come from an integrity row. -/
def pieceChecksums (s : Holdings Digest) : Except ReceiveErr (List Digest × Bool) := do
  let checksums ← (s.getAllReplicatePieceChecksumOptimized a.getAll object.id
    t.redundancyIdx.toInt t.segmentCount).mapError fun _ => .gfSpDB
  if checksums.length ≠ t.segmentCount then
    let row ← (s.store.getObjectIntegrity a.integrityFails object.id
      t.redundancyIdx.toInt).mapError fun _ => .unfinishedTask
    return (row.pieceChecksumList, true)
  return (checksums, false)

def expectedSealChecksums (chainObject : ChainObject Digest) : Except ReceiveErr (List Digest) := do
  let chainChecksums ← if chainObject.isUpdating then do
      let shadow ← orFail a.shadowChecksums .consensus
      orFail shadow .invalidDataChecksum
    else pure chainObject.checksums
  if chainChecksums ≠ [] then return chainChecksums
  failIf (!t.isAgentUploadTask ∨ !(chainObject.isCreated || chainObject.isUpdating))
    .invalidDataChecksum
  return t.checksums

/-- The part that decides whether to sign: the checksums of the pieces, whether they are from
an integrity row, and the checksums that are signed. -/
def verifyPieces (s : State Digest) : Except ReceiveErr ((List Digest × Bool) × List Digest) := do
  failIf (s.has t.key ∨ a.pushFails) .push
  let (checksums, skipInsertIntegrityMeta) ← pieceChecksums object t a s.held
  let found ← orFail a.chainObject .consensus
  let chainObject ← orFail found .invalidDataChecksum
  let expectedChecksums ← expectedSealChecksums t a chainObject
  let expected ← orFail (checksumFor expectedChecksums t.redundancyIdx.toInt) .invalidDataChecksum
  failIf (expected ≠ H.generateIntegrityHash checksums) .invalidDataChecksum
  failIf (!a.signs) .sign
  return ((checksums, skipInsertIntegrityMeta), expectedChecksums)

/-- The row goes to the shadow table while the object is updated. -/
def insertIntegrityMeta (w : Write) (checksums : List Digest)
    (s : Holdings Digest) : Except DbErr Unit × Holdings Digest :=
  let row : IntegrityMeta Digest :=
    { pieceChecksumList := checksums
      integrityChecksum := some (H.generateIntegrityHash checksums)
      version := if t.isUpdating then some t.version else none
      objectSize := t.payloadSize }
  let (set, store) :=
    if t.isUpdating then s.store.setShadowObjectIntegrity w object.id t.redundancyIdx.toInt row
    else s.store.setObjectIntegrity w object.id t.redundancyIdx.toInt row
  (set, { s with store })

/-- A delegated upload at its own primary SP keeps the checksums. -/
def skipDeleteChecksum : Except ReceiveErr Bool := do
  if !t.isAgentUploadTask then return false
  let primarySpId ← orFail a.primarySpId .gfSpDB
  let spID ← orFail a.spID .gfSpDB
  return decide (spID = primarySpId)

/-- The signature is given by the checksums that it is over. -/
def handleDoneReceivePieceTask
    (s : State Digest) : Except ReceiveErr (List Digest) × State Digest :=
  match verifyPieces H object t a s with
  | .error e => (.error e, s)
  | .ok ((checksums, skipInsertIntegrityMeta), signature) =>
    let (set, held) :=
      if skipInsertIntegrityMeta then (.ok (), s.held)
      else insertIntegrityMeta H object t a.setIntegrity checksums s.held
    let s := { s with held }
    match set with
    | .error _ => (.error .gfSpDB, s)
    | .ok () =>
      match skipDeleteChecksum t a with
      | .error e => (.error e, s)
      | .ok true => (.ok signature, s)
      | .ok false =>
        -- an error of the delete is ignored
        (.ok signature, { s with held := (s.held.deleteAllReplicatePieceChecksumOptimized a.delete
          object.id t.redundancyIdx.toInt).2 })

end

end Receiver

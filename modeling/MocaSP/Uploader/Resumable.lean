-- SUMMARY: Resumable uploads: replaying, appending and completing.
import MocaSP.Uploader.Upload

/-!
# Resumable uploads

An object may be uploaded by several requests, each with a stream from some
offset. Progress is the integrity row of the object: its list has one checksum
for each segment put so far, and its size is theirs. A request that begins
before the recorded progress replays segments: they are compared with the list
and skipped. The request that completes the upload checks the size and the hash
of the whole list.

The handler is modelled from the point where it holds the object; how it comes
to hold it is given by the environment here.
-/

namespace Uploader

open Piece

structure ResumableUploadObjectTask (Digest : Type) extends UploadObjectTask Digest where
  resumeOffset : Nat
  completed : Bool

/-- How the calls of a resumable request go. -/
structure ResumableEnv where
  /-- The object is adopted and no abandoned task is left to be dropped. -/
  adopt : Except UploadErr Unit := .ok ()
  queueRefuses : Bool := false
  /-- Reading the progress before the loop fails. -/
  snapshotFails : Bool := false
  put : Nat → Put := fun _ => .ok
  append : Nat → Write := fun _ => .ok
  /-- Reading the progress after the loop fails. -/
  rereadFails : Bool := false
  setHash : Write := .ok
  progress : Write := .ok

section
variable {Digest : Type} (task : ResumableUploadObjectTask Digest) (s : Store Digest)

def getPieceCheckSumListAndPieceSize (fails : Bool) : Except DbErr (List Digest × Nat) :=
  if task.objectInfo.isUpdating then
    (s.getShadowObjectIntegrity fails task.objectInfo.id primarySPRedundancyIndex).map fun row =>
      (row.pieceChecksumList, row.objectSize)
  else
    (s.getObjectIntegrity fails task.objectInfo.id primarySPRedundancyIndex).map fun row =>
      (row.pieceChecksumList, row.objectSize)

def updatePieceCheckSum (H : Hash Digest) (w : Write) (data : Data) (dataLength : Nat) :=
  if task.objectInfo.isUpdating then
    s.updateShadowPieceChecksum w task.objectInfo.id primarySPRedundancyIndex
      (H.generateChecksum data) task.objectInfo.version dataLength
  else
    s.updatePieceChecksum w task.objectInfo.id primarySPRedundancyIndex
      (H.generateChecksum data) dataLength

def updateIntegrityChecksum (w : Write) (integrityHash : Digest) :=
  if task.objectInfo.isUpdating then
    s.updateShadowIntegrityChecksum w task.objectInfo.id primarySPRedundancyIndex integrityHash
  else s.updateIntegrityChecksum w task.objectInfo.id primarySPRedundancyIndex integrityHash

/-- Is the offset one to resume at? `fails`: the row is not read. -/
def validateResumableUploadOffset (fails : Bool) : Except UploadErr Unit :=
  let payloadSize := task.objectInfo.payloadSize
  let offset := task.resumeOffset
  if task.maxSegmentSize = 0 then .error .invalidResumeOffset
  else if offset > payloadSize ∨ (offset = payloadSize ∧ task.completed = false) ∨
      (offset < payloadSize ∧ offset % task.segmentSize ≠ 0) then
    .error .invalidResumeOffset
  else
    match getPieceCheckSumListAndPieceSize task s fails with
    | .error .recordNotFound => if offset ≠ 0 then .error .invalidResumeOffset else .ok ()
    | .error .fails => .error .gfSpDBWithDetail
    | .ok (_, persistedSize) =>
      if offset > persistedSize then .error .invalidResumeOffset else .ok ()

end

/-! ## The handler -/

variable {Digest : Type} [DecidableEq Digest] (H : Hash Digest) (env : ResumableEnv)
  (task : ResumableUploadObjectTask Digest)

/-- The progress a request finds. -/
structure Snapshot (Digest : Type) where
  checksums : List Digest
  size : Nat

/-- What the payload has left after the offset, in 64 bits. -/
def remaining (payloadSize offset : Nat) : Nat :=
  if offset ≤ payloadSize then payloadSize - offset else payloadSize + 2 ^ 64 - offset

/-- Of a piece that was read, what is left to put: nothing of a segment that the
progress has already. `readSize` counts the piece. -/
def checkReplay (snap : Snapshot Digest) (segIdx readSize : Nat) (data : Data) :
    Except UploadErr Data :=
  if task.objectInfo.payloadSize = 0 ∨ data = [] then .ok data
  else if readSize > remaining task.objectInfo.payloadSize task.resumeOffset then .error .payloadSize
  else if segIdx * task.segmentSize < snap.size then
    if snap.checksums[segIdx]? = some (H.generateChecksum data) then .ok []
    else .error .invalidIntegrity
  else .ok data

def completeUpload (s : Store Digest) : Exit × Store Digest :=
  match getPieceCheckSumListAndPieceSize task s env.rereadFails with
  | .error e => (.failed (.db e) (.db e), s)
  | .ok (checksums, size) =>
    if task.objectInfo.payloadSize > 0 ∧ size ≠ task.objectInfo.payloadSize then
      (.failed .payloadSize .payloadSize, s)
    else
      let integrityHash := H.generateIntegrityHash checksums
      if task.isAgentUpload = false ∧ task.objectInfo.checksums.head? ≠ some integrityHash then
        (.failed .invalidIntegrity .invalidIntegrity, s)
      else
        let (set, s) := updateIntegrityChecksum task s env.setHash integrityHash
        match set, env.progress with
        | .error e, _ => (.failed .gfSpDBWithDetail (.db e), s)
        | .ok _, .fails _ => (.failed .gfSpDBWithDetail (.db .fails), s)
        | .ok _, .ok => (⟨.ok (), none⟩, s)

/-- One segment put and recorded, and what follows. -/
def appendSegment (segIdx : Nat) (data : Data) (s : Store Digest)
    (next : Store Digest → Exit × Store Digest) : Exit × Store Digest :=
  let s := s.putPiece (env.put segIdx) (task.objectInfo.segmentPieceKey segIdx) data
  match env.put segIdx with
  | .fails _ => (.failed .pieceStoreWithDetail .putPiece, s)
  | .ok =>
    let (recorded, s) := updatePieceCheckSum task s H (env.append segIdx) data data.length
    match recorded with
    | .error e => (.failed .gfSpDBWithDetail (.db e), s)
    | .ok _ => next s

/-- The end of the stream, after what is left of the last read. -/
def endOfStream (s : Store Digest) : Exit × Store Digest :=
  if task.completed then completeUpload H env task s else (⟨.ok (), none⟩, s)

/-- The loop over the stream. -/
def resumeSegments (snap : Snapshot Digest) {n : Nat} : (segIdx : UInt32) → (readSize : Nat) →
    Store Digest → Reads UInt8 n → Exit × Store Digest
  | segIdx, readSize, s, .full data _ rest =>
    match checkReplay H task snap segIdx.toNat (readSize + data.length) data with
    | .error e => (.failed e e, s)
    | .ok [] => resumeSegments snap (segIdx + 1) (readSize + data.length) s rest
    | .ok (b :: data') =>
      appendSegment H env task segIdx.toNat (b :: data') s fun s =>
        resumeSegments snap (segIdx + 1) (readSize + data.length) s rest
  | _, _, s, .last _ .broken _ => (.failed .closedStream .read, s)
  | segIdx, readSize, s, .last data .eof _ =>
    match checkReplay H task snap segIdx.toNat (readSize + data.length) data with
    | .error e => (.failed e e, s)
    | .ok [] => endOfStream H env task s
    | .ok (b :: data') =>
      -- progress stays on a segment boundary until the last request
      if (b :: data').length < n ∧ task.completed = false then
        (.failed .closedStream .closedStream, s)
      else appendSegment H env task segIdx.toNat (b :: data') s (endOfStream H env task)

/-- The progress before the loop. -/
def takeSnapshot (s : Store Digest) : Except DbErr (Snapshot Digest) :=
  if task.objectInfo.payloadSize = 0 then .ok ⟨[], 0⟩
  else match getPieceCheckSumListAndPieceSize task s env.snapshotFails with
    | .ok (checksums, size) => .ok ⟨checksums, size⟩
    | .error .recordNotFound => .ok ⟨[], 0⟩
    | .error .fails => .error .fails

def handleResumableUploadObjectTask (stream : Reader UInt8) (s : Store Digest) : Handled Digest :=
  match env.adopt with
  | .error e => ⟨.error e, none, s⟩
  | .ok _ =>
    if env.queueRefuses then ⟨.error .queue, none, s⟩
    -- an empty payload has segments of no size, by which the offset is divided
    else if task.segmentSize = 0 then ⟨.error .crash, none, s⟩
    else match takeSnapshot env task s with
      | .error e => ⟨.error (.db e), some (some (.db e)), s⟩
      | .ok snap =>
        let out := resumeSegments H env task snap (.ofNat (task.resumeOffset / task.segmentSize)) 0 s
          (stream.reads task.segmentSize)
        ⟨out.1.returned, some out.1.err, out.2⟩

end Uploader

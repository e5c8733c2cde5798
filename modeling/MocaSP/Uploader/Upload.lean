-- SUMMARY: Uploading an object in one stream.
import MocaSP.Base.Reader
import MocaSP.Piece.Store

/-!
# Uploading an object

The uploader reads the stream segment by segment, puts each segment under its
key and collects the checksums. At the end of the stream it compares their
integrity hash with the one on chain and the size with the payload size, sets
the primary's integrity row and marks the upload as done.

The task is reported to the manager by a deferred function. It does not see what
the call returns, only a local variable `err`; an `Exit` has both.
-/

namespace Uploader

open Peer (PieceKey)
open Piece Reads
open Segments (totalSize)

inductive UploadErr where
  | resumableInFlight | closedStream | invalidIntegrity | payloadSize | invalidResumeOffset
  | pieceStoreWithDetail | gfSpDBWithDetail
  /-- The task queue refuses the task. -/
  | queue
  /-- The manager does not answer a report. -/
  | report
  -- errors of the layers below, as they come
  | read | putPiece
  | db (e : DbErr)
  /-- The handler panics. -/
  | crash
  deriving DecidableEq

structure ObjectInfo (Digest : Type) where
  id : Nat
  version : Int
  payloadSize : Nat
  checksums : List Digest
  isUpdating : Bool

def ObjectInfo.segmentPieceKey {Digest : Type} (o : ObjectInfo Digest) (segIdx : Nat) : PieceKey :=
  .segment o.id segIdx o.version

structure UploadObjectTask (Digest : Type) where
  objectInfo : ObjectInfo Digest
  maxSegmentSize : Nat
  isAgentUpload : Bool
  /-- Only a delegated object is created without checksums. -/
  checksums_ne_nil : isAgentUpload = false → objectInfo.checksums ≠ []
  /-- The segments can be counted in 32 bits. -/
  countable : 0 < maxSegmentSize → objectInfo.payloadSize ≤ (2 ^ 32 - 1) * maxSegmentSize

def maxSegmentPieceSize (payloadSize maxSegmentSize : Nat) : Nat :=
  if payloadSize > maxSegmentSize then maxSegmentSize else payloadSize

namespace UploadObjectTask

variable {Digest : Type} (task : UploadObjectTask Digest)

def segmentSize : Nat := maxSegmentPieceSize task.objectInfo.payloadSize task.maxSegmentSize

variable {task} (hn : 0 < task.segmentSize)
include hn

theorem payloadSize_le : task.objectInfo.payloadSize ≤ (2 ^ 32 - 1) * task.segmentSize := by
  rw [segmentSize, maxSegmentPieceSize] at hn ⊢
  by_cases hlt : task.objectInfo.payloadSize > task.maxSegmentSize
  · rw [if_pos hlt] at hn ⊢
    exact task.countable hn
  · rw [if_neg hlt]
    omega

/-- A segment that begins within the payload has an index of 32 bits. -/
theorem lt_of_mul_le {i : Nat} (h : i * task.segmentSize ≤ task.objectInfo.payloadSize) :
    i < 2 ^ 32 := by
  have := Nat.le_of_mul_le_mul_right (h.trans (payloadSize_le hn)) hn
  omega

end UploadObjectTask

/-- How an upload leaves its loop: what it returns, and the variable `err` that
the deferred function reads. -/
structure Exit where
  returned : Except UploadErr Unit
  err : Option UploadErr

/-- An exit that returns what `err` holds, or an error made of it. -/
def Exit.failed (returned err : UploadErr) : Exit := ⟨.error returned, some err⟩

/-- What a handler returns, the error on the task it reports (absent if it reports
nothing), and the stores it leaves. -/
structure Handled (Digest : Type) where
  returned : Except UploadErr Unit
  reported : Option (Option UploadErr)
  store : Store Digest

/-- How the calls of an upload go. -/
structure UploadEnv where
  queueRefuses : Bool := false
  put : Nat → Put := fun _ => .ok
  setRow : Write := .ok
  progress : Write := .ok

variable {Digest : Type} [DecidableEq Digest] (H : Hash Digest) (env : UploadEnv)
  (task : UploadObjectTask Digest)

/-- The row of an upload with these checksums. -/
def uploadRow (checksums : List Digest) (readSize : Nat) : IntegrityMeta Digest where
  pieceChecksumList := checksums
  integrityChecksum := some (H.generateIntegrityHash checksums)
  version := if task.objectInfo.isUpdating then some task.objectInfo.version else none
  objectSize := readSize

def finishUpload (checksums : List Digest) (readSize : Nat) (s : Store Digest) : Exit × Store Digest :=
  let integrity := H.generateIntegrityHash checksums
  if task.isAgentUpload = false ∧ task.objectInfo.checksums.head? ≠ some integrity then
    (.failed .invalidIntegrity .invalidIntegrity, s)
  else if readSize ≠ task.objectInfo.payloadSize then
    -- returned without being stored in err
    (⟨.error .payloadSize, none⟩, s)
  else
    let row := uploadRow H task checksums readSize
    let (set, s) :=
      if task.objectInfo.isUpdating then
        s.setShadowObjectIntegrity env.setRow task.objectInfo.id primarySPRedundancyIndex row
      else s.setObjectIntegrity env.setRow task.objectInfo.id primarySPRedundancyIndex row
    match set, env.progress with
    | .error e, _ => (.failed .gfSpDBWithDetail (.db e), s)
    | .ok _, .fails _ => (.failed .gfSpDBWithDetail (.db .fails), s)
    | .ok _, .ok => (⟨.ok (), none⟩, s)

/-- One piece put, and what follows. -/
def putSegment (segIdx : Nat) (data : Data) (s : Store Digest)
    (next : Store Digest → Exit × Store Digest) : Exit × Store Digest :=
  let s := s.putPiece (env.put segIdx) (task.objectInfo.segmentPieceKey segIdx) data
  match env.put segIdx with
  | .fails _ => (.failed .pieceStoreWithDetail .putPiece, s)
  | .ok => next s

/-- The loop over the stream. -/
def uploadSegments {n : Nat} : (segIdx : UInt32) → (checksums : List Digest) → (readSize : Nat) →
    Store Digest → Reads UInt8 n → Exit × Store Digest
  | segIdx, checksums, readSize, s, .full data _ rest =>
    putSegment env task segIdx.toNat data s fun s =>
      uploadSegments (segIdx + 1) (checksums ++ [H.generateChecksum data]) (readSize + data.length) s rest
  | _, _, _, s, .last _ .broken _ => (.failed .closedStream .read, s)
  | _, checksums, readSize, s, .last [] .eof _ => finishUpload H env task checksums readSize s
  | segIdx, checksums, readSize, s, .last (b :: data) .eof _ =>
    putSegment env task segIdx.toNat (b :: data) s fun s =>
      finishUpload H env task (checksums ++ [H.generateChecksum (b :: data)])
        (readSize + (b :: data).length) s

def handleUploadObjectTask (stream : Reader UInt8) (s : Store Digest) : Handled Digest :=
  if env.queueRefuses then ⟨.error .queue, none, s⟩
  else
    let out := uploadSegments H env task 0 [] 0 s (stream.reads task.segmentSize)
    ⟨out.1.returned, some out.1.err, out.2⟩

/-! ## What the loop does -/

/-- The stream ends and every piece is put. -/
def Clean {n : Nat} (segIdx : UInt32) (reads : Reads UInt8 n) : Prop :=
  reads.ending = .eof ∧ ∀ i < reads.segments.length, env.put (segIdx + .ofNat i).toNat = .ok

instance {n : Nat} {segIdx : UInt32} {reads : Reads UInt8 n} : Decidable (Clean env segIdx reads) :=
  inferInstanceAs (Decidable (_ ∧ _))

/-- The stores with the segments put from index `segIdx` on. -/
def putSegments : (segIdx : UInt32) → List Data → Store Digest → Store Digest
  | _, [], s => s
  | segIdx, data :: segments, s =>
    putSegments (segIdx + 1) segments
      (s.putPiece .ok (task.objectInfo.segmentPieceKey segIdx.toNat) data)

variable {H env task} {n : Nat} {segIdx : UInt32} {checksums : List Digest} {readSize : Nat} {s : Store Digest}

omit [DecidableEq Digest] in
theorem putSegment_ok {segIdx : Nat} {data : Data} {next : Store Digest → Exit × Store Digest}
    (h : env.put segIdx = .ok) : putSegment env task segIdx data s next
      = next (s.putPiece .ok (task.objectInfo.segmentPieceKey segIdx) data) := by
  simp [putSegment, h]

theorem clean_full_iff {data : Data} {hdata : data.length = n} {rest : Reads UInt8 n} :
    Clean env segIdx (.full data hdata rest) ↔
      env.put segIdx.toNat = .ok ∧ Clean env (segIdx + 1) rest := by
  have hindex : ∀ i, segIdx + .ofNat (i + 1) = segIdx + 1 + .ofNat i := fun i => by
    rw [UInt32.ofNat_add, UInt32.add_comm (.ofNat i), ← UInt32.add_assoc]
    rfl
  simp only [Clean, ending, segments, List.length_cons, Nat.forall_lt_succ_left, hindex, and_left_comm]
  simp

/-- A loop that gets to the end of the stream finishes with what it has put. -/
theorem uploadSegments_clean {reads : Reads UInt8 n} (h : Clean env segIdx reads) :
    uploadSegments H env task segIdx checksums readSize s reads
      = finishUpload H env task (checksums ++ reads.segments.map H.generateChecksum)
          (readSize + totalSize reads.segments) (putSegments task segIdx reads.segments s) := by
  induction reads generalizing segIdx checksums readSize s with
  | last data =>
    obtain ⟨⟨⟩, hput⟩ := h
    cases data with
    | nil => simp [uploadSegments, segments, putSegments]
    | cons =>
      have hb : env.put segIdx.toNat = .ok := by simpa using hput 0 (by simp [segments])
      rw [uploadSegments, putSegment_ok hb]
      simp [segments, putSegments]
  | full _ _ rest ih =>
    obtain ⟨hb, hrest⟩ := clean_full_iff.mp h
    rw [uploadSegments, putSegment_ok hb, ih hrest]
    simp [segments, putSegments, Nat.add_assoc]

/-- Any other loop leaves with an error that it has stored. -/
theorem uploadSegments_broken {reads : Reads UInt8 n} (h : ¬ Clean env segIdx reads) :
    ∃ returned err s', uploadSegments H env task segIdx checksums readSize s reads
      = (.failed returned err, s') := by
  induction reads generalizing segIdx checksums readSize s with
  | last data err =>
    cases err with
    | broken => exact ⟨_, _, _, by rw [uploadSegments]⟩
    | eof =>
      cases data with
      | nil => exact absurd ⟨rfl, by simp [segments]⟩ h
      | cons =>
        rw [uploadSegments, putSegment]
        split
        · exact ⟨_, _, _, rfl⟩
        rename_i hb
        refine absurd ⟨rfl, fun i hi => ?_⟩ h
        obtain rfl : i = 0 := by simpa [segments] using hi
        simpa using hb
  | full _ _ _ ih =>
    rw [uploadSegments, putSegment]
    split
    · exact ⟨_, _, _, rfl⟩
    rename_i hb
    exact ih fun hrest => h (clean_full_iff.mpr ⟨hb, hrest⟩)

end Uploader

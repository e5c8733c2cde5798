-- SUMMARY: What the uploader reports of a failed upload.
import MocaSP.Uploader.Progress

/-!
# Reports of uploads

When an upload is over the uploader reports its task to the manager. A task that
carries an error marks the object's upload as failed. Without one the manager
picks a global virtual group and replicates the object.
-/

namespace Uploader

open Piece Exit Handled
open Segments (totalSize)

/-- What the manager does with a reported upload. -/
inductive Done where
  | repeatedTask
  | markFailed
  /-- One step of a resumable upload, with more to come. -/
  | wait
  | pickGVGAndReplicate

/-- `uploading`: a task with this key is in one of the manager's queues. -/
def handleDoneUploadObjectTask (uploading : Bool) (taskErr : Option UploadErr) : Done :=
  if uploading then .repeatedTask
  else if taskErr.isSome then .markFailed
  else .pickGVGAndReplicate

def handleDoneResumableUploadObjectTask (uploading : Bool) (taskErr : Option UploadErr)
    (completed : Bool) : Done :=
  if uploading then .repeatedTask
  else if taskErr.isSome then .markFailed
  else if completed = false then .wait
  else .pickGVGAndReplicate

/-- When the call failed and its task is reported, the task carries an error, and
the manager, which does `done` with the report, does not replicate. -/
def FailureReported {Digest : Type} (h : Handled Digest) (done : Bool → Option UploadErr → Done) :
    Prop :=
  ∀ e, h.returned = .error e → ∀ taskErr, h.reported = some taskErr →
    taskErr ≠ none ∧ ∀ uploading, done uploading taskErr ≠ .pickGVGAndReplicate

/-- An exit whose error is stored, if it has one. -/
def Exit.Stored (exit : Exit) : Prop := ∀ e, exit.returned = .error e → exit.err ≠ none

theorem Exit.stored_failed {returned err : UploadErr} : (failed returned err).Stored := by
  intro _ _
  exact Option.some_ne_none err

theorem Exit.stored_ok : Exit.Stored ⟨.ok (), none⟩ := by
  intro _ h
  cases h

/-- A failed call does not report its task without an error. -/
def Handled.Honest {Digest : Type} (h : Handled Digest) : Prop :=
  ∀ e, h.returned = .error e → h.reported ≠ some none

variable {Digest : Type}

theorem Handled.honest_of_none {h : Handled Digest} (hreported : h.reported = none) : h.Honest := by
  intro _ _ hsome
  simp [hreported] at hsome

theorem Handled.honest_iff_stored {exit : Exit} {s : Store Digest} :
    Handled.Honest ⟨exit.returned, some exit.err, s⟩ ↔ exit.Stored := by
  constructor
  · intro h e he hnone
    exact h e he (congrArg some hnone)
  · intro h e he hsome
    exact h e he (Option.some.inj hsome)

/-- The manager's part: a task with an error is not replicated. -/
theorem failureReported_iff {h : Handled Digest} {done : Bool → Option UploadErr → Done}
    (hdone : ∀ uploading e, done uploading (some e) ≠ .pickGVGAndReplicate) :
    FailureReported h done ↔ h.Honest := by
  constructor
  · intro hreported e he hnone
    exact (hreported e he none hnone).1 rfl
  intro hh e he taskErr hreported
  cases taskErr with
  | none => exact absurd hreported (hh e he)
  | some err => exact ⟨Option.some_ne_none err, fun uploading => hdone uploading err⟩

/-! ## The resumable handler -/

variable {Digest : Type} [DecidableEq Digest] {H : Hash Digest}

section
variable {env : ResumableEnv} {task : ResumableUploadObjectTask Digest} {s : Store Digest}

theorem completeUpload_stored : (completeUpload H env task s).1.Stored := by
  rw [completeUpload]
  split
  · exact stored_failed
  split
  · exact stored_failed
  dsimp only
  split
  · exact stored_failed
  split
  · exact stored_failed
  · exact stored_failed
  · exact stored_ok

theorem endOfStream_stored : (endOfStream H env task s).1.Stored := by
  rw [endOfStream]
  split
  · exact completeUpload_stored
  · exact stored_ok

omit [DecidableEq Digest] in
theorem appendSegment_stored {segIdx : Nat} {data : Data} {next : Store Digest → Exit × Store Digest}
    (hnext : ∀ s, (next s).1.Stored) : (appendSegment H env task segIdx data s next).1.Stored := by
  rw [appendSegment]
  split
  · exact stored_failed
  dsimp only
  split
  · exact stored_failed
  · exact hnext _

theorem resumeSegments_stored {snap : Snapshot Digest} {n : Nat} {segIdx : UInt32} {readSize : Nat}
    {reads : Reads UInt8 n} : (resumeSegments H env task snap segIdx readSize s reads).1.Stored := by
  induction reads generalizing segIdx readSize s with
  | last _ err =>
    cases err with
    | broken =>
      rw [resumeSegments]
      exact stored_failed
    | eof =>
      rw [resumeSegments]
      split
      · exact stored_failed
      · exact endOfStream_stored
      · split
        · exact stored_failed
        · exact appendSegment_stored fun s => endOfStream_stored
  | full _ _ _ ih =>
    rw [resumeSegments]
    split
    · exact stored_failed
    · exact ih
    · exact appendSegment_stored fun s => ih

theorem resumable_honest {stream : Reader UInt8} :
    (handleResumableUploadObjectTask H env task stream s).Honest := by
  rw [handleResumableUploadObjectTask]
  split
  · exact honest_of_none rfl
  split
  · exact honest_of_none rfl
  split
  · exact honest_of_none rfl
  · split
    · exact honest_iff_stored.mpr stored_failed
    · exact honest_iff_stored.mpr resumeSegments_stored

end

/-! ## The upload in one stream -/

/-- The stream is stored whole and passes the integrity check, but is not as long
as the payload. -/
structure WrongSize (H : Hash Digest) (env : UploadEnv) (task : UploadObjectTask Digest)
    (stream : Reader UInt8) : Prop where
  queued : env.queueRefuses = false
  clean : Clean env 0 (stream.reads task.segmentSize)
  integrity : task.isAgentUpload = true ∨ task.objectInfo.checksums.head? = some
    (H.generateIntegrityHash ((stream.reads task.segmentSize).segments.map H.generateChecksum))
  size : totalSize (stream.reads task.segmentSize).segments ≠ task.objectInfo.payloadSize

variable {env : UploadEnv} {task : UploadObjectTask Digest} {s : Store Digest}

/-- The only exit of the final checks that does not store its error. -/
theorem finishUpload_stored_iff {checksums : List Digest} {readSize : Nat} :
    (finishUpload H env task checksums readSize s).1.Stored ↔
      ¬ ((task.isAgentUpload = true ∨
          task.objectInfo.checksums.head? = some (H.generateIntegrityHash checksums)) ∧
        readSize ≠ task.objectInfo.payloadSize) := by
  rw [finishUpload]
  split
  next hmismatch =>
    refine iff_of_true stored_failed fun h => ?_
    rcases h.1 with hagent | hmatch
    · simp [hmismatch.1] at hagent
    · exact hmismatch.2 hmatch
  next hmatch =>
    split
    next hsize =>
      refine iff_of_false (fun h => h .payloadSize rfl rfl) (not_not.mpr ⟨?_, hsize⟩)
      by_contra hno
      exact hmatch ⟨by simpa using fun h => hno (.inl h), fun h => hno (.inr h)⟩
    next hsize =>
      refine iff_of_true ?_ fun h => hsize h.2
      dsimp only
      split
      · exact stored_failed
      · exact stored_failed
      · exact stored_ok

theorem upload_honest_iff {stream : Reader UInt8} :
    (handleUploadObjectTask H env task stream s).Honest ↔ ¬ WrongSize H env task stream := by
  rw [handleUploadObjectTask]
  split
  next hqueue => exact iff_of_true (honest_of_none rfl) fun h => by simp [h.queued] at hqueue
  rename_i hqueue
  rw [honest_iff_stored]
  by_cases hclean : Clean env 0 (stream.reads task.segmentSize)
  · rw [uploadSegments_clean hclean, finishUpload_stored_iff]
    simp only [List.nil_append, Nat.zero_add]
    exact not_congr ⟨fun h => ⟨by simpa using hqueue, hclean, h.1, h.2⟩, fun h => ⟨h.integrity, h.size⟩⟩
  obtain ⟨_, _, _, hout⟩ := @uploadSegments_broken _ _ H env task _ 0 [] 0 s _ hclean
  rw [hout]
  exact iff_of_true stored_failed fun h => hclean h.clean

/-- **Failed uploads are reported as failed**, except that of a stream of the
wrong size that passes every other check. -/
theorem failed_upload_reported (env : UploadEnv) (task : UploadObjectTask Digest)
    (stream : Reader UInt8) (s : Store Digest) (renv : ResumableEnv)
    (rtask : ResumableUploadObjectTask Digest) (rstream : Reader UInt8) (rs : Store Digest) :
    (FailureReported (handleUploadObjectTask H env task stream s) handleDoneUploadObjectTask ↔
      ¬ WrongSize H env task stream) ∧
    FailureReported (handleResumableUploadObjectTask H renv rtask rstream rs)
      (fun uploading taskErr => handleDoneResumableUploadObjectTask uploading taskErr rtask.completed) :=
  ⟨(failureReported_iff fun uploading _ => by cases uploading <;> nofun).trans upload_honest_iff,
    (failureReported_iff fun uploading _ => by cases uploading <;> nofun).mpr resumable_honest⟩

/-- A delegated object of four bytes. -/
def delegatedTask : UploadObjectTask Data where
  objectInfo := { id := 7, version := 0, payloadSize := 4, checksums := [], isUpdating := false }
  maxSegmentSize := 2
  isAgentUpload := true
  checksums_ne_nil := by simp
  countable := by decide

/-- Three bytes of four arrive: the call fails, and the manager replicates the object. -/
theorem short_upload_reported_done : ¬ FailureReported
      (handleUploadObjectTask plainHash {} delegatedTask [⟨[1, 2, 3], none⟩] emptyStore)
      handleDoneUploadObjectTask := by
  intro h
  exact (h .payloadSize (by decide +kernel) none (by decide +kernel)).1 rfl

end Uploader

-- SUMMARY: The rows of upload progress and what is built from them.
import MocaSP.Base.Table

/-!
# Upload progress

The manager keeps the progress of an upload in one row. `Updates` from a struct skips its zero fields,
so that neither the initial state nor an empty error replaces another value. After a restart and for
a retry, tasks are built from the columns that four readers of the table copy. The columns about the
secondaries, which an update may write besides, are left out.
-/

namespace Manager.Progress
open Table

inductive TaskState
  | initUnspecified | uploadObjectDoing | uploadObjectDone | uploadObjectError | allocSecondaryDoing
  | allocSecondaryDone | allocSecondaryError | replicateObjectDoing | replicateObjectDone
  | replicateObjectError | signObjectDoing | signObjectDone | signObjectError | sealObjectDoing
  | sealObjectDone | sealObjectError | objectDiscontinued
deriving DecidableEq

structure UploadMeta where
  objectID : Nat
  taskState : TaskState := .initUnspecified
  errorDescription : String := ""
  isAgentUpload : Bool := false

/-- A row; the name of a state is written as the state. -/
structure Row extends UploadMeta where
  taskStateDescription : TaskState := .initUnspecified

def updateUploadProgress (row : Row) (m : UploadMeta) : Row :=
  { row with
    taskState := written .initUnspecified row.taskState m.taskState
    taskStateDescription := m.taskState
    errorDescription := written "" row.errorDescription m.errorDescription }

def insertUploadProgress (objectID : Nat) (isAgentUpload : Bool) : Row := { objectID, isAgentUpload }

def getUploadState (row : Row) : TaskState × String := (row.taskState, row.errorDescription)

inductive Call
  | insert (objectID : Nat) (isAgentUpload : Bool)
  | update (m : UploadMeta)

/-- The row of the object after a successful call. -/
def exec : Option Row → Call → Option Row
  | none, .insert objectID isAgentUpload => some (insertUploadProgress objectID isAgentUpload)
  | some row, .update m => some (updateUploadProgress row m)
  | _, _ => none

def run (row : Option Row) (calls : List Call) : Option Row :=
  calls.foldl (fun row c => (exec row c).or row) row

/-! ## What is read back -/

/-- The row is as the call says. -/
def ReadsBack (row : Row) : Call → Prop
  | .insert _ _ => row.taskStateDescription = row.taskState ∧ getUploadState row = (.initUnspecified, "")
  | .update m =>
    row.taskStateDescription = row.taskState ∧ getUploadState row = (m.taskState, m.errorDescription)

/-- Where a call writes a zero value, the row has it already. -/
def Unskipped : Option Row → Call → Prop
  | some row, .update m => (m.taskState = .initUnspecified → row.taskState = .initUnspecified) ∧
      (m.errorDescription = "" → row.errorDescription = "")
  | _, _ => True

/-- After any calls for an object, the next one is read back exactly where no zero value of it was to
replace another value. -/
theorem readsBack_iff (calls : List Call) (c : Call) (row : Row) (h : exec (run none calls) c = some row) :
    ReadsBack row c ↔ Unskipped (run none calls) c := by
  match run none calls, c, h with
  | none, .insert _ _, h =>
    cases h
    exact iff_of_true ⟨rfl, rfl⟩ trivial
  | some old, .update m, h =>
    cases h
    simp only [ReadsBack, getUploadState, updateUploadProgress, Unskipped, Prod.mk.injEq,
      ← written_eq_iff]
    exact ⟨fun h => h.2, fun h => ⟨h.1.symm, h⟩⟩

theorem readsBack_iff_at_update :
    let refused := run none [.insert 1 false, .update ⟨1, .replicateObjectError, "refused", false⟩]
    ∃ row, exec refused (.update ⟨1, .sealObjectError, "lost", false⟩) = some row ∧
      ReadsBack row (.update ⟨1, .sealObjectError, "lost", false⟩) :=
  ⟨_, rfl, (readsBack_iff [.insert 1 false, .update ⟨1, .replicateObjectError, "refused", false⟩]
    (.update ⟨1, .sealObjectError, "lost", false⟩) _ rfl).mpr ⟨nofun, nofun⟩⟩

/-- A retry writes the row of a failed replication without a state and leaves the error. -/
theorem not_readsBack_retry :
    let failed := run none [.insert 1 false, .update ⟨1, .replicateObjectError, "refused", false⟩]
    ∃ row, exec failed (.update ⟨1, .initUnspecified, "", false⟩) = some row ∧
      row.taskStateDescription = .initUnspecified ∧
      getUploadState row = (.replicateObjectError, "refused") :=
  ⟨_, rfl, rfl, rfl⟩

/-! ## What is built from a row -/

/-- The meta of a row in one of the states, with the columns a reader copies. -/
def uploadMetas (states : List TaskState) (copy : Row → UploadMeta) (u : Row) : Option UploadMeta :=
  if u.taskState ∈ states then some (copy u) else none

/-- The columns that most readers copy. -/
def copied (u : Row) : UploadMeta :=
  { u.toUploadMeta with taskState := .initUnspecified, errorDescription := "" }

def getUploadMetasToReplicate :=
  uploadMetas [.uploadObjectDone, .replicateObjectDoing] fun u => { objectID := u.objectID }

def getUploadMetasToSeal := uploadMetas [.replicateObjectDone, .sealObjectDoing] copied

def getUploadMetasToReplicateByStartTS :=
  uploadMetas [.uploadObjectDone, .replicateObjectDoing, .replicateObjectError] copied

def getUploadMetasToSealByStartTS :=
  uploadMetas [.replicateObjectDone, .sealObjectDoing, .sealObjectError] fun u =>
    { copied u with isAgentUpload := false }

inductive Path
  | loadReplicate | loadSeal | retryReplicateTask | retrySealTask

def Path.metas : Path → Row → Option UploadMeta
  | loadReplicate => getUploadMetasToReplicate
  | loadSeal => getUploadMetasToSeal
  | retryReplicateTask => getUploadMetasToReplicateByStartTS
  | retrySealTask => getUploadMetasToSealByStartTS

inductive SealMsg
  | sealObject | sealObjectV2

/-- The message for a meta, or for the task that is made of it. -/
def sealMsg (m : UploadMeta) : SealMsg := if !m.isAgentUpload then .sealObject else .sealObjectV2

theorem run_isAgentUpload (row : Row) (calls : List Call) :
    ∃ row', run (some row) calls = some row' ∧ row'.isAgentUpload = row.isAgentUpload := by
  induction calls generalizing row with
  | nil => exact ⟨row, rfl, rfl⟩
  | cons c _ ih =>
    cases c with
    | insert => exact ih row
    | update m => exact ih (updateUploadProgress row m)

/-- What is built from a row has the flag of the upload exactly where its reader copies the flag, or
where the flag is not set. -/
theorem isAgentUpload_kept_iff (id : Nat) (flag : Bool) (calls : List Call) (row : Row)
    (hrow : run none (.insert id flag :: calls) = some row) (path : Path) (m : UploadMeta)
    (hm : path.metas row = some m) :
    m.isAgentUpload = flag ∧ (sealMsg m = .sealObjectV2 ↔ flag = true) ↔
      path = .loadSeal ∨ path = .retryReplicateTask ∨ flag = false := by
  obtain ⟨row', hrun, hflag⟩ := run_isAgentUpload (insertUploadProgress id flag) calls
  obtain rfl : row' = row := Option.some.inj (hrun.symm.trans hrow)
  cases path <;> obtain ⟨-, ⟨⟩⟩ := Option.ite_none_right_eq_some.mp hm
  case loadReplicate | retrySealTask => cases flag <;> simp [sealMsg]
  case loadSeal | retryReplicateTask =>
    have hcopied : (copied row').isAgentUpload = flag := hflag
    cases flag <;> simp [sealMsg, hcopied]

theorem isAgentUpload_kept_at_load : sealMsg { objectID := 1, isAgentUpload := true } = .sealObjectV2 :=
  ((isAgentUpload_kept_iff 1 true [.update { objectID := 1, taskState := .replicateObjectDone }] _ rfl
    .loadSeal _ rfl).mpr (.inl rfl)).2.mpr rfl

/-- The retry of an agent upload sends the message of another upload. -/
theorem agent_upload_sealed_as_other : ∃ row m,
    run none [.insert 1 true, .update { objectID := 1, taskState := .sealObjectError }] = some row ∧
      Path.retrySealTask.metas row = some m ∧ sealMsg m = .sealObject :=
  ⟨_, _, rfl, rfl, rfl⟩

end Manager.Progress

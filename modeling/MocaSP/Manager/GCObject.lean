-- SUMMARY: GC of deleted objects at the manager.
import MocaSP.Base.Run
import MocaSP.Manager.Queue

/-!
# GC object tasks

A GC object task deletes what is left of the objects deleted on chain in a range of blocks. The manager
makes one task after another, keeps it in `gcObjectQueue` and its progress in a table, and loads the
table when it starts.
-/

namespace Manager.GC
open TQueue List

/-- `GfSpGCObjectTaskKey`. -/
structure TaskKey where
  start : Nat
  stop : Nat
  time : Nat
deriving DecidableEq

structure GCObjectTask where
  startBlockNumber : Nat
  endBlockNumber : Nat
  createTime : Nat
  currentBlockNumber : Nat := 0
  lastDeletedObjectId : Nat := 0

namespace GCObjectTask

def key (t : GCObjectTask) : TaskKey := ⟨t.startBlockNumber, t.endBlockNumber, t.createTime⟩

def progress (t : GCObjectTask) : Nat × Nat := (t.currentBlockNumber, t.lastDeletedObjectId)

/-- The comparison that the handler of reports makes: `old` has come further. -/
def Behind (t old : GCObjectTask) : Prop :=
  old.currentBlockNumber > t.currentBlockNumber ∨
    (old.currentBlockNumber = t.currentBlockNumber ∧ old.lastDeletedObjectId > t.lastDeletedObjectId)

instance (t old : GCObjectTask) : Decidable (t.Behind old) := inferInstanceAs (Decidable (_ ∨ _))

def Completed (t : GCObjectTask) : Prop := t.currentBlockNumber > t.endBlockNumber

instance (t : GCObjectTask) : Decidable t.Completed := inferInstanceAs (Decidable (_ < _))

end GCObjectTask

/-! ## The progress table -/

/-- `GCObjectProgressTable`; the key holds the start and the end of the range. -/
structure Progress where
  taskKey : TaskKey
  currentGCBlockID : Nat := 0
  lastDeletedObjectID : Nat := 0
deriving DecidableEq

def Progress.progress (r : Progress) : Nat × Nat := (r.currentGCBlockID, r.lastDeletedObjectID)

/-- gorm's `Updates` leaves a column alone that the new values have a zero for. -/
def Progress.updates (r : Progress) (current last : Nat) : Progress :=
  { r with
    currentGCBlockID := if current = 0 then r.currentGCBlockID else current
    lastDeletedObjectID := if last = 0 then r.lastDeletedObjectID else last }

abbrev ProgressTable := List Progress

namespace ProgressTable

variable (rows : ProgressTable) (k : TaskKey)

def insertGCObjectProgress : ProgressTable :=
  if rows.any fun r => r.taskKey = k then rows else rows ++ [{ taskKey := k }]

def deleteGCObjectProgress : ProgressTable := rows.filter fun r => r.taskKey ≠ k

def updateGCObjectProgress (current last : Nat) : ProgressTable :=
  rows.map fun r => if r.taskKey = k then r.updates current last else r

end ProgressTable

/-! ## The manager -/

structure Config where
  gcObjectBlockInterval : Nat
  gcSafeBlockDistance : Nat
  loadTaskLimitToGC : Nat
  queueCap : Nat

inductive ManageErr where
  | canceledTask
deriving DecidableEq

structure ManageModular (c : Config) where
  gcBlockHeight : Nat
  gcObjectQueue : TQueue GCObjectTask.key c.queueCap
  /-- What survives a restart. -/
  progress : ProgressTable

variable {c : Config}

/-- A report; `db` says whether the call on the progress table succeeds, which the handler ignores. -/
def handleGCObjectTask (m : ManageModular c) (gcTask : GCObjectTask) (db : Bool) :
    Except ManageErr Unit × ManageModular c :=
  if ¬ m.gcObjectQueue.has gcTask.key then (.error .canceledTask, m)
  else
    let (oldTask, queue) := m.gcObjectQueue.popByKey gcTask.key
    let popped := { m with gcObjectQueue := queue }
    if gcTask.Completed then
      (.ok (), if db then { popped with progress := m.progress.deleteGCObjectProgress gcTask.key } else popped)
    else
      match oldTask with
      | none => (.error .canceledTask, popped)
      | some old =>
        -- the task is popped already, and is not pushed again
        if gcTask.Behind old then (.error .canceledTask, popped)
        else
          let pushed := { popped with gcObjectQueue := (queue.push gcTask).getD queue }
          (.ok (), if db then { pushed with
            progress := m.progress.updateGCObjectProgress gcTask.key gcTask.currentBlockNumber
              gcTask.lastDeletedObjectId } else pushed)

section
variable {m : ManageModular c} {t r : GCObjectTask} (db : Bool)

/-- A report of a queued task that is neither complete nor behind takes the task's place. -/
theorem handle_accepted (ht : t ∈ m.gcObjectQueue.tasks) (hkey : r.key = t.key) (hopen : ¬ r.Completed)
    (hahead : ¬ r.Behind t) :
    ∃ q, (m.gcObjectQueue.drop r.key).push r = some q ∧ handleGCObjectTask m r db =
      (.ok (), { m with
        gcObjectQueue := q
        progress := if db then m.progress.updateGCObjectProgress r.key r.currentBlockNumber r.lastDeletedObjectId
          else m.progress }) := by
  have hhas : m.gcObjectQueue.has r.key = true := has_iff.mpr ⟨t, ht, hkey.symm⟩
  obtain ⟨q, hq⟩ := push_drop ht hkey
  have hfind := find_key ht
  rw [← hkey] at hfind hq
  refine ⟨q, hq, ?_⟩
  simp only [handleGCObjectTask, hhas, popByKey, hfind, hopen, hahead, hq, not_true_eq_false,
    if_false, Option.getD_some]
  cases db <;> rfl

/-- One that is behind removes the task. -/
theorem handle_behind (ht : t ∈ m.gcObjectQueue.tasks) (hkey : r.key = t.key) (hopen : ¬ r.Completed)
    (hbehind : r.Behind t) : handleGCObjectTask m r db =
      (.error .canceledTask, { m with gcObjectQueue := m.gcObjectQueue.drop r.key }) := by
  have hhas : m.gcObjectQueue.has r.key = true := has_iff.mpr ⟨t, ht, hkey.symm⟩
  have hfind := find_key ht
  rw [← hkey] at hfind
  simp only [handleGCObjectTask, hhas, popByKey, hfind, hopen, hbehind, not_true_eq_false, if_false,
    if_true]

end

/-! ## Reports of one task -/

open Progress

theorem taskKeys_update {rows : ProgressTable} {k : TaskKey} {current last : Nat} :
    (rows.updateGCObjectProgress k current last).map taskKey = rows.map taskKey :=
  Table.map_update fun _ => rfl

/-- What comes of a report, with the answer of the table. -/
def report (m : ManageModular c) (r : GCObjectTask × Bool) : ManageModular c := (handleGCObjectTask m r.1 r.2).2

/-- The task stays in the queue, has come no less far, and has its row. -/
def Keeps (k : TaskKey) (m m' : ManageModular c) : Prop :=
  ∃ t ∈ m.gcObjectQueue.tasks, ∃ t' ∈ m'.gcObjectQueue.tasks, t.key = k ∧ t'.key = k ∧ ¬ t'.Behind t ∧
    k ∈ m'.progress.map taskKey

/-- Each of the reports keeps the task. -/
def Survives (k : TaskKey) : List (GCObjectTask × Bool) → ManageModular c → Prop
  | [], _ => True
  | r :: rs, m => Keeps k m (report m r) ∧ Survives k rs (report m r)

section
variable {m : ManageModular c} {t : GCObjectTask} {r : GCObjectTask × Bool}

/-- As long as none of them is complete, the reports of a task keep it just when each has come at least
as far as the one before. -/
theorem survives_iff_in_order (ht : t ∈ m.gcObjectQueue.tasks)
    (hrow : t.key ∈ m.progress.map taskKey) (reports : List (GCObjectTask × Bool))
    (hreports : ∀ r ∈ reports, r.1.key = t.key ∧ ¬ r.1.Completed) :
    Survives t.key reports m ↔ (t :: reports.map Prod.fst).IsChain fun old r => ¬ r.Behind old := by
  -- along the reports the task in the queue is the last one that was reported
  induction reports generalizing m t with
  | nil => simp [Survives]
  | cons r _ ih =>
    obtain ⟨hkey, hopen⟩ := hreports r (.head _)
    rw [Survives, map_cons, isChain_cons_cons]
    by_cases hbehind : r.1.Behind t
    · have hlost : ¬ Keeps t.key m (report m r) := by
        rintro ⟨-, -, _, ht', -, hkey', -⟩
        rw [report, handle_behind r.2 ht hkey hopen hbehind, mem_drop] at ht'
        exact ht'.2 (hkey'.trans hkey.symm)
      simp [hlost, hbehind]
    obtain ⟨_, hq, heq⟩ := handle_accepted r.2 ht hkey hopen hbehind
    have hmem : r.1 ∈ (report m r).gcObjectQueue.tasks := by
      rw [report, heq]
      simp [push_tasks hq]
    have hrow' : r.1.key ∈ (report m r).progress.map taskKey := by
      rw [hkey, report, heq]
      split
      · rw [taskKeys_update]
        exact hrow
      · exact hrow
    have hkeeps : Keeps t.key m (report m r) := ⟨t, ht, r.1, hmem, rfl, hkey, hbehind, hkey ▸ hrow'⟩
    have hrest := ih hmem hrow' fun x hx => by
      rw [hkey]
      exact hreports x (.tail _ hx)
    rw [hkey] at hrest
    simp only [hkeeps, hbehind, not_false_eq_true, true_and, hrest]

end

def sampleConfig : Config := ⟨9, 5, 4, 4⟩

def sampleTask : GCObjectTask := { startBlockNumber := 0, endBlockNumber := 9, createTime := 5 }

/-- A manager with one task, which was recorded. -/
def sampleManager : ManageModular sampleConfig where
  gcBlockHeight := 10
  gcObjectQueue := ⟨[sampleTask], nodup_singleton _, by decide⟩
  progress := [{ taskKey := sampleTask.key }]

/-- The task as an executor reports it after an object that was deleted at a block. -/
def reportAt (block object : Nat) : GCObjectTask :=
  { sampleTask with currentBlockNumber := block, lastDeletedObjectId := object }

theorem survives_two_reports :
    Survives sampleTask.key [(reportAt 2 5, true), (reportAt 3 7, true)] sampleManager := by
  refine (survives_iff_in_order (t := sampleTask) (.head _) (.head _) _ ?_).mpr ?_
  · decide
  · decide

/-- Two executors run the task; the report of the slower one comes last and removes the task. -/
theorem stale_report_drops_task :
    ¬ Survives sampleTask.key [(reportAt 3 7, true), (reportAt 2 5, true)] sampleManager := by
  have hqueue : (report (report sampleManager (reportAt 3 7, true)) (reportAt 2 5, true)).gcObjectQueue.tasks =
      [] := by decide
  rintro ⟨-, ⟨-, -, _, ht', -⟩, -⟩
  rw [hqueue] at ht'
  cases ht'

end Manager.GC

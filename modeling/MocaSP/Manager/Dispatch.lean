-- SUMMARY: Tasks on their way between the manager's queues and the executors.
import MocaSP.Base.Run
import MocaSP.Manager.PickUp
import MocaSP.Manager.Queue

/-!
# Dispatching tasks

`backUpTask` takes a task from each of ten queues, sends one of them to the channel and pushes the
others again. `DispatchTask` receives a task, pushes it again and hands it to an executor. Other
goroutines push tasks between these steps. Which of its tasks a queue gives is left open.
-/

namespace Manager.Dispatch
open List Option
open PickUp (SortSlice Unscheduled pickUpTask pickUpTask_perm taken totalPriority)

/-- The ten queues by the tasks they hold, in the order of `backUpTask`. -/
inductive Kind where
  | replicatePiece | sealObject | gcObject | gcZombiePiece | gcMeta | receivePiece | recoverPiece
  | migrateGVG | gcBucketMigration | gcStaleVersionObject
  deriving DecidableEq

def backupKinds : List Kind :=
  [.replicatePiece, .sealObject, .gcObject, .gcZombiePiece, .gcMeta, .receivePiece, .recoverPiece,
    .migrateGVG, .gcBucketMigration, .gcStaleVersionObject]

/-- A task under its kind and what it is about. -/
abbrev Task := PickUp.Task (Kind × Nat)

structure Config where
  cap : Kind → Nat
  globalBackupTaskParallel : Nat
  sort : SortSlice (Kind × Nat)

/-! ## The manager -/

/-- Where a call of `backUpTask` is; the mutex admits one. -/
inductive Backup where
  | idle
  | popping (rest : List Kind) (tasks : List Task)
  | sending (target : Task) (reserved : List Task)
  | repushing (reserved : List Task)
  deriving DecidableEq

def Backup.tasks : Backup → List Task
  | .idle => []
  | .popping _ tasks => tasks
  | .sending target reserved => target :: reserved
  | .repushing reserved => reserved

structure State where
  /-- The tasks in the queues, each in that of its kind. -/
  queued : List Task := []
  taskCh : List Task := []
  backup : Backup := .idle
  /-- Tasks that calls of `DispatchTask` have received and not placed yet. -/
  held : List Task := []

def State.all (s : State) : List Task := s.queued ++ s.taskCh ++ s.backup.tasks ++ s.held

def queueOf (queued : List Task) (kind : Kind) : List Task := queued.filter (·.key.1 = kind)

variable (c : Config)

/-- There is room for the task in its queue. -/
def Room (queued : List Task) (t : Task) : Prop := (queueOf queued t.key.1).length < c.cap t.key.1

instance (queued : List Task) (t : Task) : Decidable (Room c queued t) := inferInstanceAs (Decidable (_ < _))

/-- `Push`, without a result where it returns an error. A key says which queue it is in. -/
def push (queued : List Task) (t : Task) : Option (List Task) :=
  if Room c queued t then pushTask (·.key) queued t else none

/-- The error of `Push` is only logged. -/
def repushTask (s : State) (t : Task) : State :=
  { s with queued := (push c s.queued t).getD s.queued }

inductive Action where
  | push (t : Task)
  | backUpTask
  | pop (target : Option Task)
  | pickUp (rand : Nat)
  | send
  | repush
  | receive
  /-- The task is beyond the executor's limit and goes back to the channel. -/
  | sendBack (t : Task)
  | dispatch (t : Task)

def step (s : State) : Action → Option State
  | .push t => (push c s.queued t).map fun queued => { s with queued }
  | .backUpTask =>
    if s.backup = .idle then some { s with backup := .popping backupKinds [] } else none
  | .pop target =>
    match s.backup, target with
    | .popping (_ :: rest) tasks, none => some { s with backup := .popping rest tasks }
    | .popping (kind :: rest) tasks, some t =>
      if t ∈ s.queued ∧ t.key.1 = kind then
        some { s with queued := s.queued.erase t, backup := .popping rest (t :: tasks) }
      else none
    | _, _ => none
  | .pickUp rand =>
    match s.backup with
    | .popping [] tasks =>
      match pickUpTask c.sort tasks (rand % totalPriority tasks) with
      | (some target, reserved) => some { s with backup := .sending target reserved }
      | (none, reserved) => some { s with backup := .repushing reserved }
    | _ => none
  | .send =>
    match s.backup with
    | .sending target reserved =>
      if s.taskCh.length < c.globalBackupTaskParallel then
        some { s with taskCh := s.taskCh ++ [target], backup := .repushing reserved }
      else none
    | _ => none
  | .repush =>
    match s.backup with
    | .repushing [] => some { s with backup := .idle }
    | .repushing (t :: reserved) => some (repushTask c { s with backup := .repushing reserved } t)
    | _ => none
  | .receive =>
    match s.taskCh with
    | [] => none
    | t :: taskCh => some { s with taskCh, held := t :: s.held }
  | .sendBack t =>
    if t ∈ s.held ∧ s.taskCh.length < c.globalBackupTaskParallel then
      some { s with taskCh := s.taskCh ++ [t], held := s.held.erase t }
    else none
  | .dispatch t =>
    if t ∈ s.held then some (repushTask c { s with held := s.held.erase t } t) else none

/-- No task of a key that the manager has is pushed by another goroutine, the tasks that were popped
are not several without a priority, and the queue of a task that is pushed again has room. -/
def Meets (s : State) : Action → Prop
  | .push t => ∀ x ∈ s.all, x.key ≠ t.key
  | .pickUp _ => ¬ Unscheduled s.backup.tasks
  | .repush => ∀ t ∈ s.backup.tasks.head?, Room c s.queued t
  | .dispatch t => Room c s.queued t
  | _ => True

instance (c : Config) (s : State) (a : Action) : Decidable (Meets c s a) := by
  cases a <;> unfold Meets <;> infer_instance

variable {c : Config} {s s₀ s' : State} {a : Action} {t : Task}

/-- The keys of all tasks are different. -/
def State.Distinct (s : State) : Prop := (s.all.map (·.key)).Nodup

instance (s : State) : Decidable s.Distinct := inferInstanceAs (Decidable (List.Nodup _))

theorem State.Distinct.key_ne {x : Task} (h : s.Distinct) (hx : x ∈ s.queued)
    (ht : t ∈ s.backup.tasks ∨ t ∈ s.held) : x.key ≠ t.key := by
  unfold Distinct all at h
  rw [append_assoc, append_assoc, map_append, nodup_append] at h
  refine h.2.2 _ (mem_map_of_mem hx) _ (mem_map_of_mem ?_)
  exact mem_append_right _ (mem_append.mpr ht)

theorem push_of_room {queued : List Task} (hroom : Room c queued t)
    (hnew : ∀ x ∈ queued, x.key ≠ t.key) : push c queued t = some (queued ++ [t]) :=
  (if_pos hroom).trans (pushTask_eq_some.mpr ⟨hnew, rfl⟩)

theorem count_erase {tasks : List Task} (h : t ∈ tasks) (x : Task) :
    tasks.count x = (tasks.erase t).count x + [t].count x := by
  rw [(perm_cons_erase h).count_eq x, count_cons, count_singleton]

/-- A step other than a push of another goroutine moves tasks. -/
theorem count_step (hs : s.Distinct) (hmeets : Meets c s a) (h : step c s a = some s')
    (ha : ∀ t, a ≠ .push t) (x : Task) : s'.all.count x = s.all.count x := by
  cases a with
  | push t => exact absurd rfl (ha t)
  | pop =>
    simp only [step] at h
    split at h
    · cases h
      simp only [State.all, Backup.tasks, *]
    · obtain ⟨⟨hmem, -⟩, ⟨⟩⟩ := ite_none_right_eq_some.mp h
      have := count_erase hmem x
      simp only [State.all, Backup.tasks, count_append, count_cons, count_nil, *]
      omega
    · cases h
  | pickUp rand =>
    simp only [step] at h
    split at h
    next tasks hbackup =>
      rw [Meets, hbackup] at hmeets
      have hcount := (pickUpTask_perm c.sort hmeets (rand % totalPriority tasks)).count_eq x
      split at h <;> cases h <;>
        simp only [State.all, Backup.tasks, taken, toList, count_append, count_cons,
          count_nil, nil_append, *] at hcount ⊢ <;>
        omega
    · cases h
  | repush =>
    simp only [step] at h
    split at h
    · cases h
      simp only [State.all, Backup.tasks, *]
    next t _ hbackup =>
      cases h
      rw [Meets, hbackup] at hmeets
      have hmem : t ∈ s.backup.tasks := hbackup ▸ (.head _)
      simp only [repushTask, push_of_room (hmeets t rfl) fun x hx => hs.key_ne hx (.inl hmem),
        State.all, Backup.tasks, Option.getD, count_append, count_cons, count_nil, hbackup]
      omega
    · cases h
  | dispatch =>
    obtain ⟨hmem, ⟨⟩⟩ := ite_none_right_eq_some.mp h
    have := count_erase hmem x
    simp only [repushTask, push_of_room hmeets fun x hx => hs.key_ne hx (.inr hmem), State.all,
      Option.getD, count_append]
    omega
  | sendBack =>
    obtain ⟨⟨hmem, -⟩, ⟨⟩⟩ := Option.ite_none_right_eq_some.mp h
    have := count_erase hmem x
    simp only [State.all, count_append]
    omega
  | backUpTask | send | receive =>
    simp only [step] at h
    repeat' split at h
    all_goals cases h
    all_goals simp only [State.all, Backup.tasks, count_append, count_cons, count_nil, *]
    all_goals omega

/-- A step that meets the condition keeps all tasks and their keys apart. -/
theorem State.Distinct.step (hs : s.Distinct) (hmeets : Meets c s a) (h : step c s a = some s') :
    s'.Distinct ∧ ∀ t ∈ s.all, t ∈ s'.all := by
  by_cases ha : ∃ t, a = .push t
  · obtain ⟨t, rfl⟩ := ha
    obtain ⟨queued, hpush, ⟨⟩⟩ := map_eq_some_iff.mp h
    have hperm : ({ s with queued } : State).all.Perm (t :: s.all) := by
      simp only [State.all, (pushTask_eq_some.mp (ite_none_right_eq_some.mp hpush).2).2, append_assoc]
      exact perm_middle
    refine ⟨(hperm.map _).nodup_iff.mpr ?_, fun x hx => hperm.mem_iff.mpr (.tail t hx)⟩
    refine nodup_cons.mpr ⟨fun hmem => ?_, hs⟩
    obtain ⟨x, hx, hkey⟩ := mem_map.mp hmem
    exact hmeets x hx hkey
  · have hperm := perm_iff_count.mpr (count_step hs hmeets h fun t heq => ha ⟨t, heq⟩)
    exact ⟨(hperm.map _).nodup_iff.mpr hs, fun x hx => hperm.mem_iff.mpr hx⟩

/-- In a run whose steps meet the condition the manager keeps every task it has: when no call is under
way it is in its queue or in the channel, and a task that is handed to an executor is in its queue. -/
theorem dispatch_conserves (c : Config) (s₀ s : State) (hs : s₀.Distinct)
    (hrun : Run (step c) (Meets c) s₀ s) : (∀ t ∈ s₀.all, t ∈ s.all) ∧
      (s.backup = .idle → s.held = [] → ∀ t ∈ s₀.all, t ∈ s.queued ∨ t ∈ s.taskCh) ∧
      ∀ t s', Meets c s (.dispatch t) → step c s (.dispatch t) = some s' → t ∈ s'.queued := by
  obtain ⟨hdistinct, hkept⟩ : s.Distinct ∧ ∀ t ∈ s₀.all, t ∈ s.all := by
    induction hrun with
    | start => exact ⟨hs, fun t ht => ht⟩
    | step _ hmeets hstep ih =>
      obtain ⟨hs', hall⟩ := ih.1.step hmeets hstep
      exact ⟨hs', fun t ht => hall t (ih.2 t ht)⟩
  refine ⟨hkept, fun hidle hheld t ht => ?_, fun t s' hroom hstep => ?_⟩
  · simpa [State.all, hidle, hheld, Backup.tasks] using hkept t ht
  · obtain ⟨hmem, ⟨⟩⟩ := ite_none_right_eq_some.mp hstep
    simp [repushTask, push_of_room hroom fun x hx => hdistinct.key_ne hx (.inr hmem)]

def sampleConfig : Config := ⟨fun _ => 1, 1, PickUp.insertionSort⟩

def replicateTask : Task := ⟨(.replicatePiece, 7), 255⟩

def gcTask : Task := ⟨(.gcObject, 1), 21⟩

/-- `backUpTask` up to the point where the task of the replicate queue is in the channel. -/
def backUpActions : List Action :=
  .backUpTask :: backupKinds.map (fun kind =>
    .pop ([replicateTask, gcTask].find? (·.key.1 = kind))) ++ [.pickUp 100, .send]

theorem dispatch_conserves_sample : ∃ s, Run (step sampleConfig) (Meets sampleConfig)
    { queued := [replicateTask, gcTask] } s ∧ s.queued = [gcTask, replicateTask] ∧
      ∀ t ∈ [replicateTask, gcTask], t ∈ s.all := by
  obtain ⟨s, hrun, hqueued⟩ : ∃ s, Run (step sampleConfig) (Meets sampleConfig)
      { queued := [replicateTask, gcTask] } s ∧
      s.queued = [gcTask, replicateTask] :=
    Run.exists_of_exec (backUpActions ++ [.repush, .repush, .receive, .dispatch replicateTask]) (by decide)
  exact ⟨s, hrun, hqueued, (dispatch_conserves _ _ s (by decide) hrun).1⟩

/-- A task of another key is pushed to the queue that `backUpTask` has emptied, and the task that was
there is lost. -/
theorem repushed_task_lost : ∃ s, Run.exec (step sampleConfig) (fun _ _ => True)
    (backUpActions ++ [.push ⟨(.gcObject, 2), 21⟩, .repush, .repush])
    { queued := [replicateTask, gcTask] } = some s ∧
      s.backup = .idle ∧ s.held = [] ∧ gcTask ∉ s.all := by
  exact ((Option.any_eq_true (fun s : State =>
    decide (s.backup = .idle ∧ s.held = [] ∧ gcTask ∉ s.all)) _).mp (by decide)).imp
      fun s h => ⟨h.1, of_decide_eq_true h.2⟩

end Manager.Dispatch

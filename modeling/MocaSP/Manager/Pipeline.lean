-- SUMMARY: The tasks of one object in the upload pipeline.
import MocaSP.Base.Run
import Mathlib.Data.List.Basic

/-!
# The upload pipeline of an object

Before a handler pushes a task, `TaskUploading` looks for one of the same key in four queues, one
after another; nothing keeps other calls from pushing in between. While `backUpTask` has a task, while
it is in the channel and until `DispatchTask` has pushed it again it is in no queue.
-/

namespace Manager.Pipeline
open List

/-- The queues of the pipeline, in the order of `TaskUploading`. -/
inductive Queue where
  | upload | replicatePiece | sealObject | resumableUpload
  deriving DecidableEq

def queues : List Queue := [.upload, .replicatePiece, .sealObject, .resumableUpload]

/-- The tasks of the object. -/
inductive Task where
  | upload | replicatePiece | sealObject
  | resumableUpload (resumeOffset : Nat)
  deriving DecidableEq

def Task.queue : Task → Queue
  | .upload => .upload
  | .replicatePiece => .replicatePiece
  | .sealObject => .sealObject
  | .resumableUpload _ => .resumableUpload

/-- The key of a task is this text, the object and, for a resumable upload, the offset. -/
def Task.key : Task → String × Option Nat
  | .upload | .replicatePiece | .sealObject => ("Uploading", none)
  | .resumableUpload resumeOffset => ("ResumableUploading", some resumeOffset)

/-- A call of a handler that is in `TaskUploading`, or beyond it if there is no queue left. -/
structure Call where
  /-- The task that the handler was called with, whose key it looks for. -/
  task : Task
  /-- The task it is to push: the same one, or that of the next stage. -/
  target : Task
  rest : List Queue
  deriving DecidableEq

structure State where
  /-- The tasks of the object in the queues. -/
  queued : List Task := []
  /-- Its tasks that are in a backup set, in the channel or with `DispatchTask`. -/
  outside : List Task := []
  calls : List Call := []
  deriving DecidableEq

def State.tasks (s : State) : List Task := s.queued ++ s.outside

inductive Action where
  /-- A handler enters `TaskUploading`; one that ends a stage has popped the task of that stage. -/
  | enter (task target : Task)
  | look (call : Call)
  | push (call : Call)
  /-- A call ends without a push: it fails, or the object is done. -/
  | leave (call : Call)
  | popByKey (task : Task)
  /-- `backUpTask` pops a task. -/
  | take (task : Task)
  /-- A task that was taken is pushed again. -/
  | repush (task : Task)
  /-- It is not: the queue is full. -/
  | drop (task : Task)

def step (s : State) : Action → Option State
  | .enter task target => some { s with calls := ⟨task, target, queues⟩ :: s.calls }
  | .look call =>
    match call.rest with
    | [] => none
    | queue :: rest =>
      if call ∈ s.calls then
        if ∃ t ∈ s.queued, t.queue = queue ∧ t.key = call.task.key then
          some { s with calls := s.calls.erase call }
        else some { s with calls := { call with rest } :: s.calls.erase call }
      else none
  | .push call =>
    if call ∈ s.calls ∧ call.rest = [] then
      some { s with
        calls := s.calls.erase call
        queued := s.queued.insert call.target }
    else none
  | .leave call => some { s with calls := s.calls.erase call }
  | .popByKey task => some { s with queued := s.queued.erase task }
  | .take task =>
    if task ∈ s.queued then
      some { s with queued := s.queued.erase task, outside := task :: s.outside }
    else none
  | .repush task =>
    if task ∈ s.outside then
      some { s with queued := s.queued.insert task, outside := s.outside.erase task }
    else none
  | .drop task => some { s with outside := s.outside.erase task }

/-- The object has at most one task, and a call that is not refused was made where it has none. -/
structure Once (s : State) : Prop where
  one : s.tasks.length ≤ 1
  refused : ∀ call ∈ s.calls, call.rest = [] → s.tasks = []

/-- A handler enters `TaskUploading` while no other call for the object is under way, no task of the
object is outside the queues and none in them has another key; and `backUpTask` takes none while a call
is under way. -/
def Meets (s : State) : Action → Prop
  | .enter task _ => s.calls = [] ∧ s.outside = [] ∧ ∀ t ∈ s.queued, t.key = task.key
  | .take _ => s.calls = []
  | _ => True

instance (s : State) (a : Action) : Decidable (Meets s a) := by
  cases a <;> unfold Meets <;> infer_instance

/-- A call is alone, and the tasks there are will be seen by it. -/
structure Watched (s : State) : Prop where
  one : s.tasks.length ≤ 1
  alone : s.calls.length ≤ 1
  outside : s.calls ≠ [] → s.outside = []
  seen : ∀ call ∈ s.calls, ∀ t ∈ s.queued, t.queue ∈ call.rest ∧ t.key = call.task.key

variable {s s' : State} {a : Action}

theorem Watched.once (h : Watched s) : Once s := by
  refine ⟨h.one, fun call hcall hrest => ?_⟩
  have hqueued : s.queued = [] := by
    refine eq_nil_iff_forall_not_mem.mpr fun t ht => ?_
    have hseen := (h.seen call hcall t ht).1
    rw [hrest] at hseen
    cases hseen
  rw [State.tasks, hqueued, h.outside (ne_nil_of_mem hcall)]
  rfl

theorem Watched.calls_eq {call : Call} (h : Watched s) (hcall : call ∈ s.calls) : s.calls = [call] := by
  obtain ⟨_, hx⟩ := length_eq_one_iff.mp (Nat.le_antisymm h.alone (length_pos_of_mem hcall))
  rw [hx] at hcall ⊢
  rw [mem_singleton.mp hcall]

theorem watched_idle (hone : s.tasks.length ≤ 1) (hcalls : s.calls = []) : Watched s := by
  refine ⟨hone, by simp [hcalls], fun hne => absurd hcalls hne, fun call hcall => ?_⟩
  rw [hcalls] at hcall
  cases hcall

theorem Watched.sublist (h : Watched s) (hcalls : s'.calls.Sublist s.calls)
    (hqueued : s'.queued.Sublist s.queued) (houtside : s'.outside.Sublist s.outside) : Watched s' where
  one := (hqueued.append houtside).length_le.trans h.one
  alone := hcalls.length_le.trans h.alone
  outside hne := sublist_nil.mp (h.outside (fun hnil => hne (sublist_nil.mp (hnil ▸ hcalls))) ▸
    houtside)
  seen call hcall t ht := h.seen call (hcalls.subset hcall) t (hqueued.subset ht)

theorem Watched.step (h : Watched s) (hmeets : Meets s a) (hstep : step s a = some s') : Watched s' := by
  cases a with
  | enter =>
    obtain ⟨hcalls, houtside, hkey⟩ := hmeets
    cases hstep
    refine ⟨h.one, by simp [hcalls], fun _ => houtside, fun call hcall t ht => ?_⟩
    simp only [hcalls, mem_singleton] at hcall
    subst hcall
    exact ⟨by cases t <;> simp [queues, Task.queue], hkey t ht⟩
  | look call =>
    simp only [step] at hstep
    split at hstep
    · cases hstep
    rename_i hrest
    obtain ⟨hcall, hstep⟩ := Option.ite_none_right_eq_some.mp hstep
    have hcalls := h.calls_eq hcall
    split at hstep
    · cases hstep
      exact h.sublist erase_sublist (.refl _) (.refl _)
    rename_i hnot
    cases hstep
    refine ⟨h.one, by simp [hcalls], fun _ => h.outside (ne_nil_of_mem hcall), ?_⟩
    intro _ hcall' t ht
    simp only [hcalls, erase_cons_head, mem_singleton] at hcall'
    subst hcall'
    obtain ⟨hmem, hkey⟩ := h.seen call hcall t ht
    rw [hrest] at hmem
    exact ⟨(mem_cons.mp hmem).resolve_left fun heq => hnot ⟨t, ht, heq, hkey⟩, hkey⟩
  | push call =>
    obtain ⟨⟨hcall, hrest⟩, ⟨⟩⟩ := Option.ite_none_right_eq_some.mp hstep
    have hnone := h.once.refused call hcall hrest
    obtain ⟨hqueued, houtside⟩ := append_eq_nil_iff.mp hnone
    refine watched_idle ?_ ?_
    · simp [State.tasks, hqueued, houtside]
    · simp [h.calls_eq hcall]
  | leave =>
    cases hstep
    exact h.sublist erase_sublist (.refl _) (.refl _)
  | popByKey =>
    cases hstep
    exact h.sublist (.refl _) erase_sublist (.refl _)
  | drop =>
    cases hstep
    exact h.sublist (.refl _) (.refl _) erase_sublist
  | take =>
    obtain ⟨htask, ⟨⟩⟩ := Option.ite_none_right_eq_some.mp hstep
    refine watched_idle ?_ hmeets
    have hone := h.one
    have hlen := length_erase_add_one htask
    simp only [State.tasks, length_append, length_cons] at hone ⊢
    omega
  | repush task =>
    obtain ⟨htask, ⟨⟩⟩ := Option.ite_none_right_eq_some.mp hstep
    refine watched_idle ?_ ?_
    · have hone := h.one
      have hlen := length_erase_add_one htask
      have hinsert : (s.queued.insert task).length ≤ s.queued.length + 1 := by
        rw [length_insert]
        split <;> omega
      simp only [State.tasks, length_append] at hone ⊢
      omega
    · by_contra hne
      rw [h.outside hne] at htask
      cases htask

/-- In a run whose steps meet the condition the object is in the pipeline at most once, and a call is
refused while it is. -/
theorem pipeline_once : ∀ s, Run step Meets {} s → Once s := by
  intro s hrun
  have hwatched : Watched s := hrun.invariant (watched_idle (Nat.zero_le 1) rfl) fun s a s' h => h.step
  exact hwatched.once

/-- A call up to its push. -/
def callActions (task target : Task) : List Action :=
  .enter task target :: queues.tails.dropLast.map (fun rest => .look ⟨task, target, rest⟩) ++
    [.push ⟨task, target, []⟩]

/-- The object is uploaded in two parts, and its task gets to the last stage. -/
theorem pipeline_once_sample : ∃ s, Run step Meets {} s ∧ s.queued = [.sealObject] ∧ Once s := by
  obtain ⟨s, hrun, hqueued⟩ : ∃ s, Run step Meets {} s ∧ s.queued = [.sealObject] :=
    Run.exists_of_exec (callActions (.resumableUpload 0) (.resumableUpload 0) ++
      [.popByKey (.resumableUpload 0)] ++ callActions (.resumableUpload 16) (.resumableUpload 16) ++
      [.popByKey (.resumableUpload 16)] ++ callActions (.resumableUpload 16) .replicatePiece ++
      [.take .replicatePiece, .repush .replicatePiece, .popByKey .replicatePiece] ++
      callActions .replicatePiece .sealObject) (by decide)
  exact ⟨s, hrun, hqueued, pipeline_once s hrun⟩

/-- The object is uploaded in both ways, or in one from two offsets, one call after the other. -/
theorem object_uploaded_twice :
    Run.exec step (fun _ _ => True) (callActions .upload .upload ++
      callActions (.resumableUpload 0) (.resumableUpload 0) ++
      callActions (.resumableUpload 16) (.resumableUpload 16)) {} =
        some { queued := [.resumableUpload 16, .resumableUpload 0, .upload] } ∧
    ¬ Once { queued := [.resumableUpload 16, .resumableUpload 0, .upload] } := by
  refine ⟨by decide, fun h => ?_⟩
  have hone := h.one
  revert hone
  decide

end Manager.Pipeline

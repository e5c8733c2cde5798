-- SUMMARY: The choice among tasks of several queues.
import Mathlib.Data.List.Sort
import MocaSP.Base.Except

/-!
# Picking up a task

`PickUpTask` sorts the candidates by priority, draws a number below their total priority and takes the
first task at which the running total is not below the draw. Compared in this way the first task has
one draw more than its priority.
-/

namespace Manager.PickUp
open List

structure Task (κ : Type) where
  key : κ
  priority : Nat
deriving DecidableEq

variable {κ : Type}

/-- What `sort.Slice` does: the order among equal priorities is left open. -/
structure SortSlice (κ : Type) where
  sort : List (Task κ) → List (Task κ)
  perm : ∀ tasks, (sort tasks).Perm tasks
  sorted : ∀ tasks, (sort tasks).Pairwise (·.priority ≤ ·.priority)

def totalPriority (tasks : List (Task κ)) : Nat := (tasks.map (·.priority)).sum

/-- The second loop, from the running total and the tasks that were passed. -/
def choose (randPriority : Nat) : Nat → List (Task κ) → List (Task κ) → Option (Task κ) × List (Task κ)
  | _, passed, [] => (none, passed)
  | total, passed, t :: tasks =>
    if randPriority ≤ total + t.priority then (some t, passed ++ tasks)
    else choose randPriority (total + t.priority) (passed ++ [t]) tasks

def pickUpTask (s : SortSlice κ) (tasks : List (Task κ)) (randPriority : Nat) :
    Option (Task κ) × List (Task κ) :=
  match tasks with
  | [] => (none, [])
  | [t] => (some t, [])
  | tasks => if totalPriority tasks = 0 then (none, []) else choose randPriority 0 [] (s.sort tasks)

/-- Several tasks, none of which has a priority: neither a task nor the rest is returned. -/
def Unscheduled (tasks : List (Task κ)) : Prop := 1 < tasks.length ∧ totalPriority tasks = 0

instance (tasks : List (Task κ)) : Decidable (Unscheduled tasks) := inferInstanceAs (Decidable (_ ∧ _))

/-- The task that is chosen and the others. -/
def taken (picked : Option (Task κ) × List (Task κ)) : List (Task κ) := picked.1.toList ++ picked.2

theorem choose_perm (randPriority total : Nat) (passed tasks : List (Task κ)) :
    (taken (choose randPriority total passed tasks)).Perm (passed ++ tasks) := by
  induction tasks generalizing total passed with
  | nil => exact .of_eq (append_nil _).symm
  | cons t tasks ih =>
    rw [choose]
    split
    · exact (perm_middle.symm : (t :: (passed ++ tasks)).Perm _)
    · exact (ih _ _).trans (.of_eq (append_cons passed t tasks).symm)

theorem pickUpTask_eq_choose (s : SortSlice κ) {tasks : List (Task κ)} (hseveral : 1 < tasks.length)
    (hpos : totalPriority tasks ≠ 0) (randPriority : Nat) :
    pickUpTask s tasks randPriority = choose randPriority 0 [] (s.sort tasks) := by
  match tasks with
  | _ :: _ :: _ => exact if_neg hpos

theorem pickUpTask_perm (s : SortSlice κ) {tasks : List (Task κ)} (h : ¬ Unscheduled tasks)
    (randPriority : Nat) : (taken (pickUpTask s tasks randPriority)).Perm tasks := by
  match tasks with
  | [] | [_] => exact .refl _
  | _ :: _ :: _ =>
    rw [pickUpTask_eq_choose s (by simp) fun hzero => h ⟨by simp, hzero⟩]
    exact (choose_perm _ _ _ _).trans (s.perm _)

/-- The candidates among which there is a choice; they are different tasks. -/
structure Candidates (κ : Type) where
  tasks : List (Task κ)
  nodup : tasks.Nodup
  several : 2 ≤ tasks.length
  scheduled : 0 < totalPriority tasks

section
variable {s : SortSlice κ} {c : Candidates κ} {t : Task κ} {tasks : List (Task κ)}
  (hsort : s.sort c.tasks = t :: tasks)
include hsort

/-- In ascending order the first task does not have the whole total. -/
theorem priority_lt_total : t.priority < totalPriority c.tasks := by
  have hperm := s.perm c.tasks
  have htotal : totalPriority _ = totalPriority _ := (hperm.map Task.priority).sum_nat
  have hlength := hperm.length_eq ▸ c.several
  have hsorted := s.sorted c.tasks
  rw [← htotal]
  rw [hsort] at htotal hlength hsorted ⊢
  match tasks with
  | u :: _ =>
    have hle := rel_of_pairwise_cons hsorted mem_cons_self
    have hpos := htotal ▸ c.scheduled
    simp only [totalPriority, map_cons, sum_cons] at hpos ⊢
    omega

end

variable [DecidableEq κ]

/-- The number of draws that choose a task. -/
def draws (s : SortSlice κ) (c : Candidates κ) (t : Task κ) : Nat :=
  (range (totalPriority c.tasks)).countP fun r => (pickUpTask s c.tasks r).1 = some t

/-- Each task has as many draws as its priority, and every draw chooses one task and returns the others. -/
structure Proportional (s : SortSlice κ) (c : Candidates κ) : Prop where
  draws : ∀ t ∈ c.tasks, draws s c t = t.priority
  splits : ∀ r < totalPriority c.tasks, ∃ t rest,
    pickUpTask s c.tasks r = (some t, rest) ∧ (t :: rest).Perm c.tasks

theorem priority_lt_draws {s : SortSlice κ} {c : Candidates κ} {t : Task κ} {tasks : List (Task κ)}
    (hsort : s.sort c.tasks = t :: tasks) : t.priority < draws s c t := by
  have hfirst : (range (t.priority + 1)).countP
      (fun r => (pickUpTask s c.tasks r).1 = some t) = t.priority + 1 := by
    rw [countP_eq_length.mpr, length_range]
    intro _ hr
    -- the draws up to its priority choose the first task
    refine decide_eq_true ?_
    rw [pickUpTask_eq_choose s c.several c.scheduled.ne', hsort, choose, if_pos]
    rw [Nat.zero_add]
    exact Nat.le_of_lt_succ (mem_range.mp hr)
  rw [Nat.lt_iff_add_one_le, ← hfirst]
  exact (range_sublist.mpr (priority_lt_total hsort)).countP_le

theorem not_proportional (s : SortSlice κ) (c : Candidates κ) : ¬ Proportional s c := by
  intro h
  have hperm := s.perm c.tasks
  match hsort : s.sort c.tasks with
  | [] => exact absurd c.several (by simp [← hperm.length_eq, hsort])
  | t :: _ => exact absurd (h.draws t (hperm.subset (hsort ▸ mem_cons_self))) (priority_lt_draws hsort).ne'

/-- `sort.Slice` on few tasks. -/
def insertionSort : SortSlice κ where
  sort := List.insertionSort (·.priority ≤ ·.priority)
  perm := perm_insertionSort _
  sorted := pairwise_insertionSort _

/-- Of two tasks of the priorities zero and one the only draw chooses the first. -/
theorem unscheduled_task_chosen :
    ¬ Proportional insertionSort ⟨[⟨1, 0⟩, (⟨2, 1⟩ : Task Nat)], by decide, by decide, by decide⟩ :=
  fun h => absurd (h.draws ⟨1, 0⟩ mem_cons_self) (by decide)

end Manager.PickUp

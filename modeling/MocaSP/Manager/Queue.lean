-- SUMMARY: The task queues of the manager.
import Mathlib.Data.List.Nodup
import MocaSP.Base.Table

/-!
# Task queues

`GfSpTQueueWithLimit` keeps its tasks in a map under their keys. A queue never holds two tasks of one
key nor more tasks than its capacity, whatever is pushed. Tasks that the queue's own strategy would
retire are not modelled: the queues of GC tasks retire none.
-/

namespace Manager
open List

variable {τ κ : Type} [DecidableEq κ] {key : τ → κ} {cap : Nat}

/-- `Push` on the tasks of a queue with room, without a result where there is a task of the key. -/
def pushTask (key : τ → κ) (tasks : List τ) (t : τ) : Option (List τ) :=
  if tasks.any fun x => key x = key t then none else some (tasks ++ [t])

theorem pushTask_eq_some {tasks tasks' : List τ} {t : τ} : pushTask key tasks t = some tasks' ↔
    (∀ x ∈ tasks, key x ≠ key t) ∧ tasks' = tasks ++ [t] := by
  simp only [pushTask, Option.ite_none_left_eq_some, Option.some.injEq, any_eq_true, decide_eq_true_eq,
    not_exists, not_and]
  exact and_congr_right fun _ => eq_comm

structure TQueue (key : τ → κ) (cap : Nat) where
  tasks : List τ
  nodup : (tasks.map key).Nodup
  fits : tasks.length ≤ cap

namespace TQueue

def empty : TQueue key cap := ⟨[], nodup_nil, Nat.zero_le cap⟩

variable (q : TQueue key cap) (k : κ) (t : τ)

def has : Bool := q.tasks.any fun x => key x = k

/-- The queue without the task of the key. -/
def drop : TQueue key cap where
  tasks := q.tasks.filter fun x => key x ≠ k
  nodup := q.nodup.sublist (filter_sublist.map key)
  fits := length_filter_le _ _ |>.trans q.fits

def popByKey : Option τ × TQueue key cap := (q.tasks.find? fun x => key x = k, q.drop k)

theorem has_iff {q : TQueue key cap} {k : κ} : q.has k = true ↔ ∃ x ∈ q.tasks, key x = k := by
  simp [has]

/-- `Push`, without a result where it returns an error: the key is there, or the queue is full. -/
def push : Option (TQueue key cap) :=
  if hroom : q.tasks.length < cap then
    (pushTask key q.tasks t).pmap (fun tasks h => ⟨tasks, by
      rw [h.2, map_append, nodup_append]
      refine ⟨q.nodup, nodup_singleton _, ?_⟩
      rintro _ ha _ hb rfl
      obtain ⟨x, hx, hkey⟩ := mem_map.mp ha
      exact h.1 x hx (hkey.trans (mem_singleton.mp hb)), by
      rw [h.2, length_append]
      exact hroom⟩) fun _ h => pushTask_eq_some.mp h
  else none

variable {q k t}

@[simp] theorem mem_drop {x : τ} : x ∈ (q.drop k).tasks ↔ x ∈ q.tasks ∧ key x ≠ k := by simp [drop]

theorem push_tasks {q' : TQueue key cap} (h : q.push t = some q') : q'.tasks = q.tasks ++ [t] := by
  unfold push at h
  split at h
  · obtain ⟨_, htasks, -, rfl⟩ := Option.pmap_eq_some_iff.mp h
    exact htasks.2
  · cases h

/-- The task that was popped leaves room for another one of its key. -/
theorem push_drop {x : τ} (hx : x ∈ q.tasks) (hkey : key t = key x) :
    ∃ q', (q.drop (key x)).push t = some q' := by
  have hnew : ∀ y ∈ (q.drop (key x)).tasks, key y ≠ key t := fun _ hy => hkey ▸ (mem_drop.mp hy).2
  have hroom : (q.drop (key x)).tasks.length < cap := by
    refine (length_filter_lt_length_iff_exists.mpr ⟨x, hx, ?_⟩).trans_le q.fits
    simp
  rw [push, dif_pos hroom]
  exact ⟨_, Option.pmap_eq_some_iff.mpr ⟨_, ⟨hnew, rfl⟩, pushTask_eq_some.mpr ⟨hnew, rfl⟩, rfl⟩⟩

theorem find_key (hx : t ∈ q.tasks) : (q.tasks.find? fun x => key x = key t) = some t :=
  Table.find?_of_mem q.nodup hx

end TQueue
end Manager

-- SUMMARY: A pass of the retry loops over the upload rows.
import MocaSP.Base.Except

/-!
# Retries with back-off

The loops that retry replications, seals and rejections look at one row a second and keep in a map when
a task may be tried again. Before that time a row is skipped by `continue`, which leaves the iterator
where it is: the next look is at the same row.
-/

namespace Manager.Backoff
open List

structure TaskRetryInfo where
  triedTimes : Nat
  nextExecutionTime : Nat

/-- The back-off map of a loop, by object. -/
abbrev BackOffMap := Nat → Option TaskRetryInfo

def maxRetryBackoffDuration : Nat := 2 ^ 63 - 1

/-- In nanoseconds, from an interval of a second. -/
def retryBackoffDuration (triedTimes : Nat) : Nat :=
  if 62 ≤ triedTimes ∨ maxRetryBackoffDuration / 10 ^ 9 < 2 <<< triedTimes then maxRetryBackoffDuration
  else (2 <<< triedTimes) * 10 ^ 9

/-- An iteration's readings of the clock, for a new entry, the comparison and the next time, and what
the retry returns. -/
structure Look where
  created : Nat
  now : Nat
  failedAt : Nat
  fails : Bool
  later : created ≤ now

variable (m : BackOffMap) (objectID : Nat) (l : Look)

def info : TaskRetryInfo := (m objectID).getD ⟨0, l.created⟩

def Due : Prop := (info m objectID l).nextExecutionTime ≤ l.now

instance : Decidable (Due m objectID l) := inferInstanceAs (Decidable (_ ≤ _))

def retried : BackOffMap := fun id =>
  if id = objectID then
    let tried := (info m objectID l).triedTimes + 1
    if l.fails then some ⟨tried, l.failedAt + retryBackoffDuration tried⟩ else none
  else m id

def skipped : BackOffMap := fun id => if id = objectID then some (info m objectID l) else m id

/-- The rows that are left and those that were tried after some iterations. -/
def pass : List Look → List Nat → BackOffMap → List Nat × List Nat
  | [], rows, _ => (rows, [])
  | _ :: _, [], _ => ([], [])
  | l :: looks, row :: rows, m =>
    if Due m row l then
      let (left, tried) := pass looks rows (retried m row l)
      (left, row :: tried)
    else pass looks (row :: rows) (skipped m row l)

/-- An iteration for each row ends the pass, and the rows that are due have been tried. -/
def Moves (looks : List Look) (rows : List Nat) (m : BackOffMap) : Prop :=
  pass looks rows m = ([], ((rows.zip looks).filter fun p => Due m p.1 p.2).map Prod.fst)

theorem length_le_pass (looks : List Look) (rows : List Nat) (m : BackOffMap) :
    rows.length ≤ (pass looks rows m).1.length + looks.length := by
  induction looks generalizing rows m with
  | nil => exact .refl
  | cons _ _ ih =>
    cases rows with
    | nil => exact Nat.zero_le _
    | cons row rows =>
      unfold pass
      split
      · exact Nat.succ_le_succ (ih rows _)
      · exact (ih (row :: rows) _).trans (Nat.le_succ _)

/-- A pass goes on row by row exactly where every row is due when it is looked at. -/
theorem moves_iff (looks : List Look) (rows : List Nat) (hnodup : rows.Nodup)
    (hlen : looks.length = rows.length) (m : BackOffMap) :
    Moves looks rows m ↔ ∀ p ∈ rows.zip looks, Due m p.1 p.2 := by
  induction looks generalizing rows m with
  | nil =>
    cases rows with
    | nil => simp [Moves, pass]
    | cons => cases hlen
  | cons l looks ih =>
    cases rows with
    | nil => cases hlen
    | cons row rows =>
      obtain ⟨hnew, hnodup⟩ := nodup_cons.mp hnodup
      rw [zip_cons_cons, forall_mem_cons]
      by_cases hdue : Due m row l
      · have hsame : ∀ p ∈ rows.zip looks, Due (retried m row l) p.1 p.2 ↔ Due m p.1 p.2 := by
          intro p hp
          have hne : p.1 ≠ row := fun h => hnew (h ▸ (of_mem_zip hp).1)
          rw [Due, Due, info, info, retried, if_neg hne]
        have hfilter : (rows.zip looks).filter (fun p => Due (retried m row l) p.1 p.2) =
            (rows.zip looks).filter fun p => Due m p.1 p.2 :=
          filter_congr fun p hp => decide_eq_decide.mpr (hsame p hp)
        have hstep : Moves (l :: looks) (row :: rows) m ↔ Moves looks rows (retried m row l) := by
          simp [Moves, pass, hdue, hfilter, Prod.ext_iff]
        rw [hstep, ih rows hnodup (Nat.succ.inj hlen), and_iff_right hdue]
        exact forall₂_congr hsame
      · -- the iteration is lost, and those that are left are too few
        refine iff_of_false (fun h => ?_) fun h => hdue h.1
        have hleft := length_le_pass looks (row :: rows) (skipped m row l)
        rw [Moves, pass, if_neg hdue] at h
        rw [h] at hleft
        simp only [length_cons, length_nil] at hleft hlen
        omega

/-- Two rows were tried before, and their time has come; the third has no entry. -/
theorem moves_when_due :
    Moves [⟨5, 5, 6, true, .refl⟩, ⟨6, 6, 7, false, .refl⟩, ⟨7, 7, 8, false, .refl⟩] [1, 2, 3]
      (fun id => if id = 3 then none else some ⟨3, 4⟩) :=
  (moves_iff _ _ (by decide) rfl _).mpr (by decide)

/-- A row that waits keeps the one behind it from its turn. -/
theorem waiting_row_blocks :
    pass [⟨5, 5, 6, true, .refl⟩, ⟨6, 6, 7, true, .refl⟩] [1, 2]
      (fun id => if id = 1 then some ⟨3, 100⟩ else none) = ([1, 2], []) := by
  decide

end Manager.Backoff

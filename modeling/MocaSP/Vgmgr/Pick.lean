-- SUMMARY: Picking a GVG for a bucket migration, and the manager's lock.
import MocaSP.Base.Run
import Mathlib.Logic.Function.Basic
import Mathlib.Data.Set.Basic

/-!
# Picking a GVG for a bucket migration

`PickGlobalVirtualGroupForBucketMigrate` holds the manager's read lock while `genVgfFilter` takes it
again and asks the chain for the available families. When that query fails the filter is a nil
pointer, which as a value of an interface is not nil.
-/

namespace Vgmgr.Pick

/-! ## The filter -/

structure GVG where
  id : Nat
  usedStorageSize : UInt64
  stakingStorageSize : UInt64

/-- A family, with its GVGs in the order in which the loop meets them. -/
structure Family where
  id : Nat
  gvgs : List GVG

structure GVGPickFilter where
  checkFamily : Nat → Bool
  checkGVG : GVG → Bool

inductive Error where
  | failedPickVGF | failedPickGVG
  /-- The panic of a nil pointer that is read. -/
  | nilDereference

/-- What a pick leaves open: the random choice of `pickIndex`, which is one of the candidates or fails,
and the comparison with 0.95 of the staking storage size in `float64`. -/
structure Picker where
  reachesUsageRatio : (used staking : UInt64) → Bool
  pickIndex : List GVG → Option GVG
  mem : ∀ {gvgs g}, pickIndex gvgs = some g → g ∈ gvgs

/-- The GVGs of the family that pass the filter and are not full. -/
def candidates (picker : Picker) (gvgFilter : GVGPickFilter) (f : Family) : List GVG :=
  f.gvgs.filter fun g =>
    gvgFilter.checkGVG g && !picker.reachesUsageRatio g.usedStorageSize g.stakingStorageSize

/-- The filter by family as an interface: nil, or a pointer to the available ids that may be nil. -/
abbrev VGFPickFilter := Option (Option (List Nat))

def VGFPickFilter.passes (vgfID : Nat) : VGFPickFilter → Except Error Bool
  | none => .ok true
  | some none => .error .nilDereference
  | some (some ids) => .ok (ids.contains vgfID)

variable (picker : Picker) (gvgFilter : GVGPickFilter)

def pickGlobalVirtualGroupForBucketMigrate (vgfFilter : VGFPickFilter) : List Family → Except Error GVG
  | [] => .error .failedPickGVG
  | f :: rest => do
    if (← vgfFilter.passes f.id) && gvgFilter.checkFamily f.id then
      if let some g := picker.pickIndex (candidates picker gvgFilter f) then return g
    pickGlobalVirtualGroupForBucketMigrate vgfFilter rest

variable (families : List Family) (answer : Option (List Nat))

/-- The ids of the available families, or a nil pointer if the query for them failed. -/
def genVgfFilter : Except Error (Option (List Nat)) :=
  if families.isEmpty then .error .failedPickVGF else .ok answer

def pickForBucketMigrate : Except Error GVG := do
  let vgfFilter ← genVgfFilter families answer
  pickGlobalVirtualGroupForBucketMigrate picker gvgFilter (some vgfFilter) families

/-- The filters let the family through; after a failed query every family counts as available. -/
def Eligible (f : Family) : Prop := gvgFilter.checkFamily f.id ∧ ∀ ids ∈ answer, f.id ∈ ids

/-- No panic; a GVG that passes the filters; and an error only after every family was tried. -/
def Tolerates : Except Error GVG → Prop
  | .error .nilDereference => False
  | .error _ => ∀ f ∈ families, Eligible gvgFilter answer f →
      picker.pickIndex (candidates picker gvgFilter f) = none
  | .ok g => gvgFilter.checkGVG g ∧ ∃ f ∈ families, g ∈ f.gvgs ∧ Eligible gvgFilter answer f

variable {picker gvgFilter}

/-- What holds of the rest of the families holds of all if the first one gives no GVG. -/
theorem Tolerates.cons {f : Family} {families : List Family} {answer : Option (List Nat)}
    {r : Except Error GVG} (h : Tolerates picker gvgFilter families answer r)
    (hf : Eligible gvgFilter answer f → picker.pickIndex (candidates picker gvgFilter f) = none) :
    Tolerates picker gvgFilter (f :: families) answer r := by
  match r, h with
  | .error .failedPickVGF, h | .error .failedPickGVG, h => exact List.forall_mem_cons.mpr ⟨hf, h⟩
  | .ok g, ⟨hg, f, hmem, helig⟩ => exact ⟨hg, f, .tail _ hmem, helig⟩

theorem tolerates_available (families : List Family) (ids : List Nat) :
    Tolerates picker gvgFilter families (some ids)
      (pickGlobalVirtualGroupForBucketMigrate picker gvgFilter (some (some ids)) families) := by
  induction families with
  | nil => exact nofun
  | cons f _ ih =>
    rw [pickGlobalVirtualGroupForBucketMigrate]
    by_cases helig : Eligible gvgFilter (some ids) f
    · have hpass : (ids.contains f.id && gvgFilter.checkFamily f.id) = true := by
        simpa [Eligible, and_comm] using helig
      cases hpick : picker.pickIndex (candidates picker gvgFilter f) with
      | none =>
        simp only [VGFPickFilter.passes, bind, Except.bind, hpass]
        exact ih.cons fun _ => hpick
      | some =>
        have hg := List.mem_filter.mp (picker.mem hpick)
        simp only [VGFPickFilter.passes, bind, Except.bind, hpass]
        exact ⟨(Bool.and_eq_true_iff.mp hg.2).1, f, .head _, hg.1, helig⟩
    · have hpass : (ids.contains f.id && gvgFilter.checkFamily f.id) = false := by
        simpa [Eligible, and_comm] using helig
      simp only [VGFPickFilter.passes, bind, Except.bind, hpass]
      exact ih.cons fun h => absurd h helig

theorem pickForBucketMigrate_tolerates_iff (families : List Family) (answer : Option (List Nat)) :
    Tolerates picker gvgFilter families answer
        (pickForBucketMigrate picker gvgFilter families answer) ↔
      answer.isSome ∨ families = [] := by
  match families, answer with
  | [], answer => exact iff_of_true nofun (.inr rfl)
  | f :: rest, some ids => exact iff_of_true (tolerates_available _ ids) (.inl rfl)
  | f :: rest, none => exact iff_of_false id (by simp)

theorem pickForBucketMigrate_panics : ∃ picker gvgFilter, ¬ Tolerates picker gvgFilter [⟨1, [⟨1, 0, 100⟩]⟩] none
    (pickForBucketMigrate picker gvgFilter [⟨1, [⟨1, 0, 100⟩]⟩] none) :=
  ⟨⟨fun _ _ => false, List.head?, List.mem_of_mem_head?⟩, ⟨fun _ => true, fun _ => true⟩, id⟩

/-! ## The lock -/

/-- The operations on the mutex: `Lock` keeps new readers out, then waits for the old ones. -/
inductive Op where
  | rlock | runlock | announce | acquire | unlock
  deriving DecidableEq

/-- The calls, by what decides their use of the manager's mutex. -/
inductive Call where
  | pickForBucketMigrate
  | pickVirtualGroupFamily (noFamily : Bool)
  | pickGlobalVirtualGroup
  | refreshGVGMeta (queryFails : Bool)

open Op in
def Call.ops : Call → List Op
  | pickForBucketMigrate => [rlock, rlock, runlock, runlock]
  | pickVirtualGroupFamily false => [rlock, runlock, rlock, runlock]
  | pickVirtualGroupFamily true | pickGlobalVirtualGroup => [rlock, runlock]
  | refreshGVGMeta false => [announce, acquire, unlock]
  | refreshGVGMeta true => []

/-- The mutex, and what is left to do of each call. -/
structure State where
  todo : Nat → List Op
  /-- The calls with a read lock, as often as they hold one. -/
  readers : List Nat := []
  /-- The call that has announced or holds the write lock. -/
  writer : Option Nat := none

def start (calls : Nat → Call) : State := { todo := fun i => (calls i).ops }

variable (s : State)

/-- The next operation of call `i`, unless it has to wait. -/
def step (i : Nat) : Option State :=
  let todo := Function.update s.todo i (s.todo i).tail
  match (s.todo i).head? with
  | some .rlock => if s.writer = none then some { s with todo, readers := i :: s.readers } else none
  | some .runlock => some { s with todo, readers := s.readers.erase i }
  | some .announce => if s.writer = none then some { s with todo, writer := some i } else none
  | some .acquire => if s.readers = [] then some { s with todo } else none
  | some .unlock => some { s with todo, writer := none }
  | none => none

/-- Call `i` cannot go on before call `j` does. -/
def State.WaitsFor (i j : Nat) : Prop :=
  match (s.todo i).head? with
  | some .rlock | some .announce => s.writer = some j
  | some .acquire => j ∈ s.readers
  | _ => False

/-- Some calls each wait for another of them. -/
def State.Deadlock : Prop :=
  ∃ calls : Set Nat, calls.Nonempty ∧ ∀ i ∈ calls, ∃ j ∈ calls, s.WaitsFor i j

/-- The write lock is requested when no reader is about to take the read lock again. -/
def NoReentry (i : Nat) : Prop :=
  (s.todo i).head? = some .announce → ∀ j ∈ s.readers, (s.todo j).head? ≠ some .rlock

instance (s : State) (i : Nat) : Decidable (NoReentry s i) := inferInstanceAs (Decidable (_ → _))

/-- The read locks that a call holds, which it has still to release. -/
def holds (todo : List Op) : Nat := todo.count .runlock - todo.count .rlock

/-- The call has announced the write lock, or holds it. -/
def Writing (todo : List Op) : Prop := todo.head? = some .acquire ∨ todo.head? = some .unlock

instance (todo : List Op) : Decidable (Writing todo) := inferInstanceAs (Decidable (_ ∨ _))

/-- What is left of a call at any of its operations. -/
def rests : List (List Op) :=
  [Call.pickForBucketMigrate, .pickVirtualGroupFamily false, .refreshGVGMeta false].flatMap (·.ops.tails)

theorem Call.ops_start (c : Call) : c.ops ∈ rests ∧ holds c.ops = 0 ∧ ¬ Writing c.ops := by
  rcases c with _ | (_ | _) | _ | (_ | _) <;> decide

structure Inv (s : State) : Prop where
  rest : ∀ i, s.todo i ∈ rests
  reads : ∀ i, s.readers.count i = holds (s.todo i)
  writes : ∀ i, s.writer = some i ↔ Writing (s.todo i)
  excluded : s.writer ≠ none → ∀ i, holds (s.todo i) ≠ 0 → (s.todo i).head? ≠ some .rlock

/-- What the operation that a rest begins with does to the locks. -/
theorem rests_spec : ∀ l ∈ rests, l.tail ∈ rests ∧
    (l.head? = some .rlock → holds l.tail = holds l + 1 ∧ ¬ Writing l.tail) ∧
    (l.head? = some .runlock → holds l = holds l.tail + 1 ∧ ¬ Writing l.tail ∧
      (holds l.tail ≠ 0 → l.tail.head? ≠ some .rlock)) ∧
    (l.head? = some .announce ∨ Writing l →
      holds l = 0 ∧ holds l.tail = 0 ∧ (Writing l.tail ↔ l.head? ≠ some .unlock)) := by
  decide

theorem Inv.step {s s' : State} {i : Nat} (h : Inv s) (hc : NoReentry s i)
    (hs : step s i = some s') : Inv s' := by
  obtain ⟨hrest, _, _, _⟩ := h
  obtain ⟨htail, hrlock, hrunlock, hwrite⟩ := rests_spec _ (hrest i)
  revert hs
  -- only the call itself has gone on, by the operation that its rest begins with
  fun_cases Pick.step s i <;> intro hs <;> cases hs <;> refine ⟨?_, ?_, ?_, ?_⟩ <;>
    grind [Function.update_apply, Writing, NoReentry, List.count_pos_iff]

theorem not_deadlock_of_run {calls : Nat → Call} {s : State}
    (h : Run step NoReentry (start calls) s) : ¬ s.Deadlock := by
  have hstart : Inv (start calls) :=
    ⟨fun i => (calls i).ops_start.1, fun i => (calls i).ops_start.2.1.symm,
      fun i => iff_of_false nofun (calls i).ops_start.2.2, nofun⟩
  have hinv := h.invariant hstart fun _ _ _ => Inv.step
  rintro ⟨waiting, ⟨i, hi⟩, hwaits⟩
  have hwriter (w : Nat) (hw : s.writer = some w) : w ∉ waiting := by
    intro hmem
    obtain ⟨r, hr, _⟩ := hwaits w hmem
    obtain ⟨_, -, _⟩ := hwaits r hr
    have hwriting := (hinv.writes w).mp hw
    -- the writer waits for a reader, and no reader waits while there is a writer
    have hreader : r ∈ s.readers := by grind [State.WaitsFor, Writing]
    have hholds : holds (s.todo r) ≠ 0 := by grind [hinv.reads r, List.count_pos_iff]
    have hrlock := hinv.excluded (by simp [hw]) r hholds
    have hwrite := mt (fun h => ((rests_spec _ (hinv.rest r)).2.2.2 h).1) hholds
    grind [State.WaitsFor, Writing]
  obtain ⟨j, hj, _⟩ := hwaits i hi
  have hj' := mt (hwriter j) (not_not.mpr hj)
  have hi' := mt (hwriter i) (not_not.mpr hi)
  have hwrites := hinv.writes i
  grind [State.WaitsFor, Writing]

def pickAndRefresh : Nat → Call
  | 0 => .pickForBucketMigrate
  | _ => .refreshGVGMeta false

theorem not_deadlock_of_late_refresh :
    ∃ s, Run step NoReentry (start pickAndRefresh) s ∧ s.writer = some 1 ∧ ¬ s.Deadlock := by
  obtain ⟨s, hrun, hwriter⟩ : ∃ s, Run step NoReentry (start pickAndRefresh) s ∧ s.writer = some 1 :=
    Run.exists_of_exec [0, 0, 1] (by decide)
  exact ⟨s, hrun, hwriter, not_deadlock_of_run hrun⟩

/-- The write lock is announced between the two read locks of a pick. -/
theorem deadlock_of_refresh :
    ∃ s, Run step (fun _ _ => True) (start pickAndRefresh) s ∧ s.Deadlock := by
  have hrun : Run step (fun _ _ => True) (start pickAndRefresh) _ := .step .start trivial
    (rfl : step (start pickAndRefresh) 0 = _)
  refine ⟨_, hrun.step (a := 1) trivial rfl, {0, 1}, ⟨0, .inl rfl⟩, ?_⟩
  rintro _ (rfl | rfl)
  · exact ⟨1, .inr rfl, rfl⟩
  · exact ⟨0, .inl rfl, .head _⟩

end Vgmgr.Pick

-- SUMMARY: The source SP's subscription to completed bucket migrations.
import MocaSP.Base.Run
import MocaSP.Quota.Migration

/-!
# Garbage collection after a bucket migration

The source SP follows the EventCompleteMigrationBucket events of the chain block by block.
For each event it sets the state of the bucket to SRC_SP_GC_DOING and starts a
goroutine, which queues a task to delete the data; then it records the height of
the block. The steps of the loop are separate calls, so the process can stop between
any two of them.

The height that is recorded is not read when the process starts: the loop starts with the first
block again. A failed update of a bucket's state ends the loop.
-/

namespace Manager.SourceGC
open List Function

open Migration (BucketMigrationState)

/-- An EventCompleteMigrationBucket with this SP as the source. -/
structure Event where
  block : Nat
  bucketID : Nat
  deriving DecidableEq

/-- An event that was processed, the highest block recorded before, and whether the bucket had been
finished after an earlier time, or had started a new migration after the event. -/
structure Processed where
  event : Event
  recorded : Nat
  stale : Bool
  deriving DecidableEq

/-- Where the loop of the subscription is. -/
inductive Loop where
  | waiting
  /-- Buckets of the block whose events are still to be processed. -/
  | confirming (buckets : List Nat)
  | ended

/-- What is left of the buckets of the next block. -/
def Loop.left (buckets : List Nat) : Loop → List Nat
  | .waiting => buckets
  | .confirming rest => rest
  | .ended => []

structure State where
  -- the database
  migrateBucketProgress : List (Nat × BucketMigrationState) := []
  gcSubscribeProgress : Option Nat := none
  /-- The latest block of the block syncer. -/
  latestBlock : Nat := 0
  -- memory
  lastSubscribedBlockHeightGC : Nat := 0
  loop : Loop := .waiting
  /-- Goroutines that are to queue a task; for one that was started when the process started the
  block is zero. -/
  generating : List Event := []
  gcBucketMigrationQueue : List Nat := []
  -- the history, which no code reads
  processed : List Processed := []
  generated : List Event := []
  recordedUpTo : Nat := 0
  /-- Events whose bucket was finished after they were processed, or has started a new migration. -/
  spent : List Event := []

def updateBucketMigrationProgress (bucketID : Nat) (st : BucketMigrationState) (s : State) : State :=
  { s with migrateBucketProgress :=
      (bucketID, st) :: s.migrateBucketProgress.filter (·.1 ≠ bucketID) }

/-- The states that loadBucketMigrateGCTaskFromDB lists. -/
def gcDoing (st : BucketMigrationState) : Bool := st = .srcSpGcDoing || st = .destSpGcDoing

variable (s : State)

/-- The process starts. -/
def init : State :=
  { s with
    lastSubscribedBlockHeightGC := 0
    loop := .waiting
    generating := (s.migrateBucketProgress.filter (gcDoing ·.2)).map fun row => ⟨0, row.1⟩
    gcBucketMigrationQueue := [] }

variable (e : Event)

/-- The goroutine comes to its end. It fails if the size of the bucket cannot be queried or the
task cannot be pushed; a bucket that has a task gets no second one. -/
def generateGCBucketMigrationTask (ok : Bool) (s : State) : State :=
  let s := { s with generating := s.generating.erase e }
  if ok then
    { s with
      gcBucketMigrationQueue := s.gcBucketMigrationQueue.insert e.bucketID
      generated := e :: s.generated }
  else s

/-- The state of the bucket of the next event is set, and its goroutine is started. -/
def confirm (bucketID : Nat) (rest : List Nat) (s : State) : State :=
  let e : Event := ⟨s.lastSubscribedBlockHeightGC + 1, bucketID⟩
  { updateBucketMigrationProgress bucketID .srcSpGcDoing s with
    loop := .confirming rest
    generating := e :: s.generating
    processed := ⟨e, s.recordedUpTo, e ∈ s.spent⟩ :: s.processed }

/-- UpdateBucketMigrateGCSubscribeProgress; a failure is logged. -/
def record (ok : Bool) (s : State) : State :=
  let height := s.lastSubscribedBlockHeightGC + 1
  { s with
    gcSubscribeProgress := if ok then some height else s.gcSubscribeProgress
    recordedUpTo := if ok then max s.recordedUpTo height else s.recordedUpTo
    lastSubscribedBlockHeightGC := height
    loop := .waiting }

inductive Act where
  /-- The block syncer comes to the next block. -/
  | block
  /-- The ticker fires, and the events of the next block are listed. -/
  | list (ok : Bool)
  | confirm (ok : Bool)
  | record (ok : Bool)
  | generate (e : Event) (ok : Bool)
  /-- An executor reports on the task of a bucket. -/
  | report (bucketID : Nat) (finished : Bool)
  /-- A new migration of the bucket changes its state. -/
  | migrate (bucketID : Nat) (st : BucketMigrationState)
  | restart

variable (events : Nat → List Nat)

def State.processedOf (bucketID : Nat) : List Event :=
  (s.processed.map (·.event)).filter (·.bucketID = bucketID)

/-- The events of the bucket that the chain has. -/
def State.completionsOf (bucketID : Nat) : List Event :=
  ((range (s.latestBlock + 1)).filter (bucketID ∈ events ·)).map (⟨·, bucketID⟩)

/-- A step, with the buckets of the events of each block. -/
def step (s : State) : Act → Option State
  | .block => some { s with latestBlock := s.latestBlock + 1 }
  | .list ok =>
    match s.loop with
    | .waiting =>
      if ok && s.lastSubscribedBlockHeightGC + 1 ≤ s.latestBlock then
        some { s with loop := .confirming (events (s.lastSubscribedBlockHeightGC + 1)) }
      else some s
    | _ => none
  | .confirm ok =>
    match s.loop with
    | .confirming (bucketID :: rest) =>
      if ok then some (confirm bucketID rest s) else some { s with loop := .ended }
    | _ => none
  | .record ok =>
    match s.loop with
    | .confirming [] => some (record ok s)
    | _ => none
  | .generate e ok => if e ∈ s.generating then some (generateGCBucketMigrationTask e ok s) else none
  | .report bucketID finished =>
    if bucketID ∈ s.gcBucketMigrationQueue then
      some { updateBucketMigrationProgress bucketID
          (if finished then .migrationFinished else .srcSpGcDoing) s with
        gcBucketMigrationQueue := if finished then s.gcBucketMigrationQueue.erase bucketID
          else s.gcBucketMigrationQueue
        spent := if finished then s.processedOf bucketID ++ s.spent else s.spent }
    else none
  | .migrate bucketID st =>
    some { updateBucketMigrationProgress bucketID st s with
      spent := s.completionsOf events bucketID ++ s.spent }
  | .restart => some (init s)

/-- The goroutines come to their ends, with calls that succeed. -/
def settled : State := s.generating.foldl (fun s e => generateGCBucketMigrationTask e true s) s

/-! ## Each completion once -/

/-- The bucket of the event was set to SRC_SP_GC_DOING, and its task was generated. -/
def Handled : Prop := e ∈ s.processed.map (·.event) ∧ e ∈ s.generated

/-- The loop will not come to the event any more. -/
def Past : Prop :=
  e.block ≤ s.lastSubscribedBlockHeightGC ∨ e.block = s.lastSubscribedBlockHeightGC + 1 ∧
    e.bucketID ∉ s.loop.left (events (s.lastSubscribedBlockHeightGC + 1))

instance : Decidable (Past s e events) := inferInstanceAs (Decidable (_ ∨ _))

/-- Calls that come after the events were listed succeed. The process stops only while no
block that was recorded has an event, and no event is spent; a bucket is finished or starts a new
migration only when its events are past. -/
def Spared (s : State) : Act → Prop
  | .confirm ok | .generate _ ok => ok = true
  | .restart => (∀ b ≤ s.recordedUpTo, events b = []) ∧ s.spent = []
  | .report bucketID true => ∀ e ∈ s.processedOf bucketID, Past s e events
  | .migrate bucketID _ => ∀ e ∈ s.completionsOf events bucketID, Past s e events
  | .block | .list _ | .record _ | .report _ false => True

instance (s : State) (act : Act) : Decidable (Spared events s act) := by
  unfold Spared
  split <;> infer_instance

variable {events}

/-- The bucket of the event was set to SRC_SP_GC_DOING, and its task was generated or will be. -/
def Handed : Prop := e ∈ s.processed.map (·.event) ∧ (e ∈ s.generating ∨ e ∈ s.generated)

variable {s s' : State} {e : Event}

theorem Handed.mono (h : Handed s e) (hprocessed : s.processed ⊆ s'.processed)
    (hgenerating : e ∈ s.generating → e ∈ s'.generating ∨ e ∈ s'.generated)
    (hgenerated : ∀ e ∈ s.generated, e ∈ s'.generated) : Handed s' e := by
  obtain ⟨hevent, htask⟩ := h
  refine ⟨map_subset _ hprocessed hevent, ?_⟩
  rcases htask with htask | htask
  · exact hgenerating htask
  · exact .inr (hgenerated e htask)

variable (events) in
/-- The loop against the events of the blocks. -/
structure Follows (s : State) : Prop where
  running : s.loop ≠ .ended
  /-- The rest of the block's events are to be processed. -/
  confirming : ∀ rest, s.loop = .confirming rest → s.lastSubscribedBlockHeightGC + 1 ≤ s.latestBlock ∧
    (∀ k ∈ rest, k ∈ events (s.lastSubscribedBlockHeightGC + 1)) ∧
    ∀ k ∈ events (s.lastSubscribedBlockHeightGC + 1),
      k ∈ rest ∨ Handed s ⟨s.lastSubscribedBlockHeightGC + 1, k⟩
  passed : ∀ b, 0 < b → b ≤ s.lastSubscribedBlockHeightGC → ∀ k ∈ events b, Handed s ⟨b, k⟩
  ahead : ∀ b, s.lastSubscribedBlockHeightGC < b → events b ≠ [] → s.recordedUpTo < b
  once : ∀ p ∈ s.processed, p.recorded < p.event.block
  fresh : ∀ p ∈ s.processed, p.stale = false
  spent : ∀ e ∈ s.spent, Past s e events

section
variable (h : Follows events s)
include h

namespace Follows

/-- A step outside of the loop. -/
theorem frame (hloop : s'.loop = s.loop)
    (hheight : s'.lastSubscribedBlockHeightGC = s.lastSubscribedBlockHeightGC)
    (hlatest : s.latestBlock ≤ s'.latestBlock) (hrecorded : s'.recordedUpTo = s.recordedUpTo)
    (hprocessed : s'.processed = s.processed) (hhanded : ∀ e, Handed s e → Handed s' e)
    (hspent : ∀ e ∈ s'.spent, e ∈ s.spent ∨ Past s e events) : Follows events s' where
  running := by rw [hloop]; exact h.running
  confirming := by
    intro rest hrest
    rw [hloop] at hrest
    obtain ⟨_, hsub, hall⟩ := h.confirming rest hrest
    rw [hheight]
    exact ⟨by omega, hsub, fun k hk => (hall k hk).imp_right (hhanded _)⟩
  passed := by
    rw [hheight]
    exact fun b hpos hle k hk => hhanded _ (h.passed b hpos hle k hk)
  ahead := by
    rw [hheight, hrecorded]
    exact h.ahead
  once := by
    rw [hprocessed]
    exact h.once
  fresh := by
    rw [hprocessed]
    exact h.fresh
  spent := by
    intro e he
    rw [Past, hloop, hheight]
    exact (hspent e he).elim (h.spent e) id

theorem list (hloop : s.loop = .waiting) (hle : s.lastSubscribedBlockHeightGC + 1 ≤ s.latestBlock) :
    Follows events { s with loop := .confirming (events (s.lastSubscribedBlockHeightGC + 1)) } where
  __ := h
  running := by simp
  confirming := by
    rintro _ ⟨⟩
    exact ⟨hle, fun _ hk => hk, fun _ hk => .inl hk⟩
  spent := by
    intro e he
    have hpast := h.spent e he
    rwa [Past, hloop] at hpast

theorem confirm {k : Nat} {rest : List Nat}
    (hloop : s.loop = .confirming (k :: rest)) : Follows events (confirm k rest s) := by
  obtain ⟨hle, hsub, hall⟩ := h.confirming _ hloop
  have hmono : ∀ e, Handed s e → Handed (SourceGC.confirm k rest s) e := fun e he =>
    he.mono (fun _ hp => .tail _ hp) (fun hg => .inl (.tail _ hg)) fun _ hg => hg
  have hspent : ∀ e ∈ s.spent, e.block ≤ s.lastSubscribedBlockHeightGC ∨
      e.block = s.lastSubscribedBlockHeightGC + 1 ∧ e.bucketID ∉ k :: rest := by
    intro e he
    have hpast := h.spent e he
    rwa [Past, hloop] at hpast
  refine ⟨by simp [SourceGC.confirm], ?_, ?_, h.ahead, ?_, ?_, ?_⟩
  · rintro _ ⟨⟩
    refine ⟨hle, fun k' hk' => hsub k' (.tail k hk'), ?_⟩
    intro k' hk'
    rcases hall k' hk' with hin | hhanded
    · rcases mem_cons.mp hin with rfl | hin
      · exact .inr ⟨.head _, .inl (.head _)⟩
      · exact .inl hin
    · exact .inr (hmono _ hhanded)
  · exact fun b hpos hle k hk => hmono _ (h.passed b hpos hle k hk)
  · intro p hp
    rcases mem_cons.mp hp with rfl | hp
    · -- the block has an event, so it was not recorded before
      have hne : events (s.lastSubscribedBlockHeightGC + 1) ≠ [] := ne_nil_of_mem (hsub k (.head _))
      exact h.ahead _ .refl hne
    · exact h.once p hp
  · intro p hp
    rcases mem_cons.mp hp with rfl | hp
    · refine decide_eq_false fun he => ?_
      rcases hspent _ he with hle | ⟨-, hnot⟩
      · exact Nat.not_succ_le_self _ hle
      · exact hnot (.head _)
    · exact h.fresh p hp
  · exact fun e he => (hspent e he).imp_right (And.imp_right fun hnot hin => hnot (.tail _ hin))

theorem record {ok : Bool} (hloop : s.loop = .confirming []) :
    Follows events (record ok s) := by
  obtain ⟨hle, -, hall⟩ := h.confirming _ hloop
  refine ⟨by simp [SourceGC.record], by simp [SourceGC.record], ?_, ?_, h.once, h.fresh,
    fun e he => .inl ((h.spent e he).elim Nat.le_succ_of_le fun hnext => hnext.1.le)⟩
  · intro b hpos hle k hk
    rcases Nat.lt_or_ge s.lastSubscribedBlockHeightGC b with hlt | hge
    · obtain rfl : b = s.lastSubscribedBlockHeightGC + 1 := Nat.le_antisymm hle hlt
      exact (hall k hk).resolve_left not_mem_nil
    · exact h.passed b hpos hge k hk
  · intro b hlt hne
    have hbefore := h.ahead b (Nat.lt_of_succ_lt hlt) hne
    simp only [SourceGC.record] at hlt ⊢
    split
    · exact Nat.max_lt.mpr ⟨hbefore, hlt⟩
    · exact hbefore

theorem generate : Follows events (generateGCBucketMigrationTask e true s) := by
  refine h.frame rfl rfl .refl rfl rfl ?_ fun _ he => .inl he
  intro e' he'
  refine he'.mono (fun _ hp => hp) ?_ fun _ hg => .tail _ hg
  intro hg
  by_cases heq : e' = e
  · exact .inr (heq ▸ (.head _))
  · exact .inl ((mem_erase_of_ne heq).mpr hg)

theorem init (hquiet : ∀ b ≤ s.recordedUpTo, events b = []) (hspent : s.spent = []) : Follows events (init s) where
  running := by simp [SourceGC.init]
  confirming := by simp [SourceGC.init]
  passed := fun b hpos hle => absurd hle (Nat.not_le.mpr hpos)
  ahead := fun b _ hne => Nat.lt_of_not_le fun hle => hne (hquiet b hle)
  once := h.once
  fresh := h.fresh
  spent := fun e he => absurd (hspent ▸ he) not_mem_nil

theorem step {act : Act} (hspared : Spared events s act)
    (hstep : step events s act = some s') : Follows events s' := by
  cases act with
  | block =>
    cases hstep
    exact h.frame rfl rfl (Nat.le_succ _) rfl rfl (fun _ he => he) fun _ he => .inl he
  | list =>
    simp only [SourceGC.step] at hstep
    split at hstep
    next hloop =>
      split at hstep <;> cases hstep
      next hok => exact h.list hloop (of_decide_eq_true (Bool.and_eq_true_iff.mp hok).2)
      · exact h
    · cases hstep
  | confirm =>
    cases hspared
    simp only [SourceGC.step] at hstep
    split at hstep
    next hloop =>
      cases hstep
      exact h.confirm hloop
    · cases hstep
  | record =>
    simp only [SourceGC.step] at hstep
    split at hstep
    next hloop =>
      cases hstep
      exact h.record hloop
    · cases hstep
  | generate =>
    cases hspared
    simp only [SourceGC.step] at hstep
    split at hstep <;> cases hstep
    exact h.generate
  | report k finished =>
    simp only [SourceGC.step] at hstep
    split at hstep <;> cases hstep
    refine h.frame rfl rfl .refl rfl rfl (fun _ he => he) fun e he => ?_
    cases finished with
    | false => exact .inl he
    | true => exact (mem_append.mp he).symm.imp_right (hspared e)
  | migrate =>
    cases hstep
    refine h.frame rfl rfl .refl rfl rfl (fun _ he => he) fun e he => ?_
    exact (mem_append.mp he).symm.imp_right (hspared e)
  | restart =>
    cases hstep
    exact h.init hspared.1 hspared.2

/-! ## The loop goes on -/

end Follows

end

theorem generated_foldl (l : List Event) (s : State) :
    (l.foldl (fun s e => generateGCBucketMigrationTask e true s) s).processed = s.processed ∧
      ∀ e, e ∈ l ∨ e ∈ s.generated →
        e ∈ (l.foldl (fun s e => generateGCBucketMigrationTask e true s) s).generated := by
  induction l generalizing s with
  | nil => exact ⟨rfl, fun e he => he.resolve_left not_mem_nil⟩
  | cons e' _ ih =>
    obtain ⟨hprocessed, hgenerated⟩ := ih (generateGCBucketMigrationTask e' true s)
    refine ⟨hprocessed, fun e he => hgenerated e ?_⟩
    rcases he with hin | hin
    · rcases mem_cons.mp hin with rfl | hin
      · exact .inr (.head _)
      · exact .inl hin
    · exact .inr (.tail _ hin)

theorem Handed.settled (h : Handed s e) : Handled (settled s) e := by
  obtain ⟨hprocessed, hgenerated⟩ := generated_foldl s.generating s
  refine ⟨?_, hgenerated e h.2⟩
  rw [SourceGC.settled, hprocessed]
  exact h.1

end Manager.SourceGC

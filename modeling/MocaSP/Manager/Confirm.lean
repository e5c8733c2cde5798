-- SUMMARY: Completed bucket migrations are handed back to the source SP.
import MocaSP.Manager.Destinations

/-!
# Confirming completed bucket migrations

When `MsgCompleteMigrateBucket` was sent, a loop waits until the bucket has left
the migrating status on chain. It then notifies the source SP, removes the plan and its
rows, and sets the state of the bucket to MIGRATION_FINISHED. The state is set
to WAIT_COMPLETE_TX_EVENT_DONE before this work, and the loop only lists buckets in the
state SEND_COMPLETE_TX_DONE. The answer of the source SP is not looked at.

A bucket is the state of its migration; an empty bucket has no plan. The plan is
stopped by a signal that waits for its scheduler to receive it, so the loop waits for ever if
the scheduler has ended.
-/

namespace Manager.Confirm
open List

structure Bucket where
  bucketID : Nat
  migration : BucketMigrate.State
  /-- The scheduler of the plan is running. -/
  scheduling : Bool
  -- the history, which no code reads
  /-- The source SP accepted PostMigrateBucket with Finished. -/
  accepted : Bool := false
  /-- Whether it had accepted it when the state became MIGRATION_FINISHED for a bucket on chain. -/
  handedBack : Option Bool := none

/-- Answers to the calls that are made for a bucket. -/
structure Answers where
  /-- The bucket on chain, and whether its status is BUCKET_STATUS_CREATED. -/
  getBucketByBucketID : Except Unit (Option Bool)
  waitCompleteTxEventDone : Bool := true
  postMigrateBucket : Bool := true
  deleteMigrateGVGUnits : Bool := true
  migrationFinished : Bool := true

inductive Outcome where
  | done
  | failed
  /-- The loop waits for ever. -/
  | blocked

variable (a : Answers) (b : Bucket)

/-- The end of doneMigrateBucket and of deleteMigrateBucket. -/
def removePlan : Outcome × Bucket :=
  let b := { b with migration.plan := none }
  if !b.scheduling then (.blocked, b)
  else
    let b := { b with scheduling := false }
    if a.deleteMigrateGVGUnits then
      (.done, { b with migration.rows :=
        b.migration.rows.deleteMigrateGVGUnitsByBucketID b.bucketID })
    else (.failed, b)

def deleteMigrateBucket : Outcome × Bucket :=
  if b.migration.plan.isNone then (.failed, b) else removePlan a b

def doneMigrateBucket : Outcome × Bucket :=
  if b.migration.plan.isNone then (.failed, b)
  else removePlan a { b with accepted := a.postMigrateBucket }

/-- The last update of the state, if what comes before it was done, and whether the loop is
blocked. -/
def finish (onChain : Bool) (r : Outcome × Bucket) : Bool × Bucket :=
  match r.1 with
  | .blocked => (true, r.2)
  | .failed => (false, r.2)
  | .done =>
    if a.migrationFinished then
      (false, { r.2 with
        migration.progress := some .migrationFinished
        handedBack := if onChain then some r.2.accepted else r.2.handedBack })
    else (false, r.2)

def confirmCompleteTxEvents : Bool × Bucket :=
  if b.migration.progress ≠ some .sendCompleteTxDone then (false, b)
  else
    match a.getBucketByBucketID with
    | .error _ => (false, b)
    | .ok none => finish a false (deleteMigrateBucket a b)
    | .ok (some created) =>
      if created && a.waitCompleteTxEventDone then
        finish a true (doneMigrateBucket a
          { b with migration.progress := some .waitCompleteTxEventDone })
      else (false, b)

structure State where
  buckets : List Bucket
  blocked : Bool := false

structure Tick where
  /-- The buckets were listed. -/
  listed : Bool := true
  answers : Nat → Answers

/-- The loop over the buckets that were listed. -/
def confirmAll (answers : Nat → Answers) : List Bucket → Bool × List Bucket
  | [] => (false, [])
  | b :: bs =>
    let r := confirmCompleteTxEvents (answers b.bucketID) b
    if r.1 then (true, r.2 :: bs)
    else
      let rest := confirmAll answers bs
      (rest.1, r.2 :: rest.2)

variable (s : State)

def confirmEvents (t : Tick) : State :=
  if s.blocked || !t.listed then s
  else
    let r := confirmAll t.answers s.buckets
    { buckets := r.2, blocked := r.1 }

/-! ## What is to hold -/

def Bucket.Finished : Prop := b.migration.progress = some .migrationFinished

instance (b : Bucket) : Decidable b.Finished := inferInstanceAs (Decidable (_ = _))

/-- The transaction was executed, or the bucket was deleted, and every call succeeds. -/
structure Answers.Succeeds (a : Answers) : Prop where
  executed : a.getBucketByBucketID = .ok none ∨ a.getBucketByBucketID = .ok (some true)
  waits : a.waitCompleteTxEventDone = true
  posts : a.postMigrateBucket = true
  deletes : a.deleteMigrateGVGUnits = true
  finishes : a.migrationFinished = true

structure HandsBack (s : State) : Prop where
  accepted : ∀ b ∈ s.buckets, b.handedBack ≠ some false
  /-- A tick in which every call succeeds finishes all buckets. -/
  pickedUp : ∀ t : Tick, t.listed = true → (∀ id, (t.answers id).Succeeds) →
    ∀ b ∈ (confirmEvents s t).buckets, b.Finished

/-- No call fails after the state was changed. -/
def Answers.Safe : Prop :=
  match a.getBucketByBucketID with
  | .error _ => True
  | .ok none => a.deleteMigrateGVGUnits = true ∧ a.migrationFinished = true
  | .ok (some created) => created = true → a.waitCompleteTxEventDone = true →
    a.postMigrateBucket = true ∧ a.deleteMigrateGVGUnits = true ∧ a.migrationFinished = true

/-- The condition on a tick: no call fails for a bucket after its state was changed. -/
def Meets (t : Tick) : Prop :=
  t.listed = true → ∀ b ∈ s.buckets, ¬ b.Finished → (t.answers b.bucketID).Safe

/-- The bucket waits for its confirmation, and its plan can be stopped. -/
structure Bucket.Ready (b : Bucket) : Prop where
  sent : b.migration.progress = some .sendCompleteTxDone
  plan : b.migration.plan.isSome = true
  scheduling : b.scheduling = true

/-! ## One bucket -/

section
variable {a : Answers} {b : Bucket}

theorem confirm_of_not_sent (h : b.migration.progress ≠ some .sendCompleteTxDone) :
    confirmCompleteTxEvents a b = (false, b) := if_pos h

theorem Bucket.Finished.confirm (h : b.Finished) : confirmCompleteTxEvents a b = (false, b) := by
  refine confirm_of_not_sent ?_
  rw [h]
  decide

/-- A bucket whose transaction is not seen on chain is left as it is. -/
theorem confirm_of_waiting (hwaits : ∀ r, a.getBucketByBucketID = .ok r → ∃ created, r = some created ∧
      (created && a.waitCompleteTxEventDone) = false) :
    confirmCompleteTxEvents a b = (false, b) := by
  rw [confirmCompleteTxEvents]
  split
  · rfl
  split
  · rfl
  next hget => obtain ⟨_, ⟨⟩, -⟩ := hwaits _ hget
  rename_i hget
  obtain ⟨_, ⟨⟩, hstops⟩ := hwaits _ hget
  simp [hstops]

theorem removePlan_eq (h : b.scheduling = true) : removePlan a b =
    (if a.deleteMigrateGVGUnits then .done else .failed,
      { b with
        migration.plan := none
        scheduling := false
        migration.rows := if a.deleteMigrateGVGUnits then
          b.migration.rows.deleteMigrateGVGUnitsByBucketID b.bucketID else b.migration.rows }) := by
  simp only [removePlan, h, Bool.not_true, Bool.false_eq_true, if_false]
  split <;> rfl

/-- What is left of a bucket that can be confirmed and was deleted on chain. -/
theorem Bucket.Ready.confirm_deleted (h : b.Ready) (hget : a.getBucketByBucketID = .ok none) :
    (confirmCompleteTxEvents a b).1 = false ∧
      (confirmCompleteTxEvents a b).2.handedBack = b.handedBack ∧
      (confirmCompleteTxEvents a b).2.migration.plan = none ∧
      (confirmCompleteTxEvents a b).2.migration.progress =
        if a.deleteMigrateGVGUnits && a.migrationFinished then some .migrationFinished
        else some .sendCompleteTxDone := by
  have hplan : b.migration.plan.isNone = false := by simpa using h.plan
  simp only [confirmCompleteTxEvents, h.sent, ne_eq, not_true_eq_false, if_false, hget, deleteMigrateBucket, hplan,
    Bool.false_eq_true, removePlan_eq h.scheduling, finish]
  rcases a.deleteMigrateGVGUnits <;> rcases a.migrationFinished <;> simp

/-- What is left of a bucket that can be confirmed and whose transaction was executed. -/
theorem Bucket.Ready.confirm_created (h : b.Ready) (hget : a.getBucketByBucketID = .ok (some true))
    (hwait : a.waitCompleteTxEventDone = true) : (confirmCompleteTxEvents a b).1 = false ∧
      (confirmCompleteTxEvents a b).2.migration.plan = none ∧
      (confirmCompleteTxEvents a b).2.migration.progress =
        (if a.deleteMigrateGVGUnits && a.migrationFinished then some .migrationFinished
        else some .waitCompleteTxEventDone) ∧
      (confirmCompleteTxEvents a b).2.handedBack =
        if a.deleteMigrateGVGUnits && a.migrationFinished then some a.postMigrateBucket else b.handedBack := by
  have hplan : b.migration.plan.isNone = false := by simpa using h.plan
  have hremove := @removePlan_eq a { b with
    migration.progress := some .waitCompleteTxEventDone, accepted := a.postMigrateBucket } h.scheduling
  simp only [confirmCompleteTxEvents, h.sent, ne_eq, not_true_eq_false, if_false, hget, hwait, Bool.and_self, if_true,
    doneMigrateBucket, hplan, Bool.false_eq_true, hremove, finish]
  rcases a.deleteMigrateGVGUnits <;> rcases a.migrationFinished <;> simp

theorem Bucket.Ready.not_finished (h : b.Ready) : ¬ b.Finished := by
  rw [Bucket.Finished, h.sent]
  decide

/-- The bucket was handed back if it is finished, and can be confirmed if it is not. -/
def Bucket.Good (b : Bucket) : Prop := b.handedBack ≠ some false ∧ (b.Finished ∨ b.Ready)

theorem not_good_of_plan_none (hplan : b.migration.plan = none) (h : ¬ b.Finished) : ¬ b.Good := by
  rintro ⟨-, hfinished | hready⟩
  · exact h hfinished
  · have hsome := hready.plan
    rw [hplan] at hsome
    cases hsome

/-- No bucket that can be confirmed blocks the loop; it stays good just when the calls are safe. -/
theorem Bucket.Ready.confirm (h : b.Ready) (hhanded : b.handedBack ≠ some false) :
    (confirmCompleteTxEvents a b).1 = false ∧ ((confirmCompleteTxEvents a b).2.Good ↔ a.Safe) := by
  have hgood : b.Good := ⟨hhanded, .inr h⟩
  rcases hget : a.getBucketByBucketID with _ | (_ | created)
  · rw [confirm_of_waiting fun r hr => by rw [hget] at hr; cases hr]
    exact ⟨rfl, by simp [hgood, Answers.Safe, hget]⟩
  · obtain ⟨hblocked, hhanded', hplan, hprogress⟩ := h.confirm_deleted hget
    refine ⟨hblocked, ?_⟩
    simp only [Answers.Safe, hget]
    by_cases hall : a.deleteMigrateGVGUnits = true ∧ a.migrationFinished = true
    · simp only [hall, Bool.and_self, if_true] at hprogress
      exact iff_of_true ⟨hhanded'.symm ▸ hhanded, .inl hprogress⟩ ⟨hall.1, hall.2⟩
    rw [if_neg (by simpa using hall)] at hprogress
    refine iff_of_false (not_good_of_plan_none hplan ?_) hall
    rw [Bucket.Finished, hprogress]
    decide
  · by_cases hexecuted : created = true ∧ a.waitCompleteTxEventDone = true
    · obtain ⟨rfl, hwait⟩ := hexecuted
      obtain ⟨hblocked, hplan, hprogress, hhanded'⟩ := h.confirm_created hget hwait
      refine ⟨hblocked, ?_⟩
      simp only [Answers.Safe, hget, hwait, forall_const]
      by_cases hall : a.deleteMigrateGVGUnits = true ∧ a.migrationFinished = true
      · simp only [hall, Bool.and_self, if_true] at hprogress hhanded'
        simp only [Bucket.Good, hhanded', Bucket.Finished, hprogress, hall, true_or, and_true, ne_eq,
          Option.some.injEq, Bool.not_eq_false]
      rw [if_neg (by simpa using hall)] at hprogress
      refine iff_of_false (not_good_of_plan_none hplan ?_) fun hsafe => hall hsafe.2
      rw [Bucket.Finished, hprogress]
      decide
    · rw [confirm_of_waiting fun r hr => ?_]
      · refine ⟨rfl, iff_of_true hgood ?_⟩
        simp only [Answers.Safe, hget]
        exact fun hcreated hwait => absurd ⟨hcreated, hwait⟩ hexecuted
      · rw [hget] at hr
        cases hr
        exact ⟨created, rfl, by simpa using hexecuted⟩

theorem removePlan_done (h : (removePlan a b).1 = .done) : b.scheduling = true := by
  by_cases hscheduling : b.scheduling = true
  · exact hscheduling
  · simp [removePlan, hscheduling] at h

theorem removePlan_progress : (removePlan a b).2.migration.progress = b.migration.progress := by
  rw [removePlan]
  split
  · rfl
  · split <;> rfl

theorem finish_finished {onChain : Bool} {r : Outcome × Bucket} (h : (finish a onChain r).2.Finished)
    (hr : ¬ r.2.Finished) : r.1 = .done := by
  rw [finish] at h
  split at h
  · exact absurd h hr
  · exact absurd h hr
  · assumption

/-- Only a bucket that can be confirmed becomes finished. -/
theorem ready_of_finished (h : (confirmCompleteTxEvents a b).2.Finished) : b.Finished ∨ b.Ready := by
  by_cases hsent : b.migration.progress = some .sendCompleteTxDone
  · rw [confirmCompleteTxEvents, if_neg (not_not_intro hsent)] at h
    split at h
    · exact .inl h
    · rw [deleteMigrateBucket] at h
      by_cases hplan : b.migration.plan.isNone = true
      · rw [if_pos hplan] at h
        exact .inl h
      rw [if_neg hplan] at h
      have hdone := removePlan_done (finish_finished h (by
        rw [Bucket.Finished, removePlan_progress, hsent]
        decide))
      exact .inr ⟨hsent, Option.isSome_iff_ne_none.mpr (by simpa using hplan), hdone⟩
    · split at h
      · rw [doneMigrateBucket] at h
        by_cases hplan : b.migration.plan.isNone = true
        · rw [if_pos hplan] at h
          cases h
        rw [if_neg hplan] at h
        have hdone := removePlan_done (finish_finished h (by
          rw [Bucket.Finished, removePlan_progress]
          simp))
        exact .inr ⟨hsent, Option.isSome_iff_ne_none.mpr (by simpa using hplan), hdone⟩
      · exact .inl h
  · rw [confirm_of_not_sent hsent] at h
    exact .inl h

end

/-! ## All buckets -/

section
variable {answers : Nat → Answers} {bs : List Bucket} {s : State} {t : Tick}

theorem confirmAll_eq (h : ∀ b ∈ bs, b.Good) : confirmAll answers bs =
    (false, bs.map fun b => (confirmCompleteTxEvents (answers b.bucketID) b).2) := by
  induction bs with
  | nil => rfl
  | cons b _ ih =>
    obtain ⟨hhanded, hb⟩ := h b (.head _)
    have hgo : (confirmCompleteTxEvents (answers b.bucketID) b).1 = false := by
      rcases hb with hfinished | hready
      · rw [hfinished.confirm]
      · exact (hready.confirm hhanded).1
    rw [confirmAll, hgo, ih fun b' hb' => h b' (mem_cons_of_mem b hb')]
    rfl

/-- Buckets that are all finished in the end could all be confirmed. -/
theorem ready_of_confirmAll (h : ∀ b ∈ (confirmAll answers bs).2, b.Finished) :
    ∀ b ∈ bs, b.Finished ∨ b.Ready := by
  induction bs with
  | nil => simp
  | cons _ _ ih =>
    rw [confirmAll] at h
    split at h
    · rw [forall_mem_cons] at h ⊢
      exact ⟨ready_of_finished h.1, fun b' hb' => .inl (h.2 b' hb')⟩
    · rw [forall_mem_cons] at h ⊢
      exact ⟨ready_of_finished h.1, ih h.2⟩

theorem handsBack_iff : HandsBack s ↔
    (∀ b ∈ s.buckets, b.Good) ∧ (s.blocked = true → ∀ b ∈ s.buckets, b.Finished) := by
  constructor
  · intro h
    have hsuccess : ({ getBucketByBucketID := .ok (some true) } : Answers).Succeeds :=
      ⟨.inr rfl, rfl, rfl, rfl, rfl⟩
    have hfinished := h.pickedUp ⟨true, fun _ => _⟩ rfl fun _ => hsuccess
    rcases hblocked : s.blocked with _ | _
    · simp only [confirmEvents, hblocked] at hfinished
      exact ⟨fun b hb => ⟨h.accepted b hb, ready_of_confirmAll hfinished b hb⟩, by simp⟩
    · simp only [confirmEvents, hblocked] at hfinished
      exact ⟨fun b hb => ⟨h.accepted b hb, .inl (hfinished b hb)⟩, fun _ => hfinished⟩
  · rintro ⟨hgood, hblocked⟩
    refine ⟨fun b hb => (hgood b hb).1, ?_⟩
    intro _ hlisted hsucceeds
    rcases hs : s.blocked with _ | _
    · simp only [confirmEvents, hs, hlisted, confirmAll_eq hgood]
      intro _ hb'
      obtain ⟨b, hb, rfl⟩ := mem_map.mp hb'
      rcases (hgood b hb).2 with hfinished | hready
      · rw [hfinished.confirm]
        exact hfinished
      rcases (hsucceeds _).executed with hget | hget
      · have hprogress := (hready.confirm_deleted hget).2.2.2
        rwa [(hsucceeds _).deletes, (hsucceeds _).finishes] at hprogress
      · have hprogress := (hready.confirm_created hget (hsucceeds _).waits).2.2.1
        rwa [(hsucceeds _).deletes, (hsucceeds _).finishes] at hprogress
    · simp only [confirmEvents, hs]
      exact hblocked hs

/-- A tick keeps what is to hold just when no call fails after a state was changed. -/
theorem HandsBack.confirmEvents_iff (h : HandsBack s) : HandsBack (confirmEvents s t) ↔ Meets s t := by
  obtain ⟨hgood, hblocked⟩ := handsBack_iff.mp h
  rcases hlisted : t.listed with _ | _
  · simp [confirmEvents, hlisted, Meets, h]
  rcases hs : s.blocked with _ | _
  · have htick : confirmEvents s t =
        ⟨s.buckets.map fun b => (confirmCompleteTxEvents (t.answers b.bucketID) b).2, false⟩ := by
      simp [confirmEvents, hs, hlisted, confirmAll_eq hgood]
    rw [htick, handsBack_iff]
    simp only [forall_mem_map, Bool.false_eq_true, false_implies, and_true, Meets, hlisted, forall_const]
    refine forall₂_congr fun b hb => ?_
    obtain ⟨hhanded, hfinished | hready⟩ := hgood b hb
    · rw [hfinished.confirm]
      exact iff_of_true (hgood b hb) fun hnot => absurd hfinished hnot
    · rw [(hready.confirm hhanded).2]
      exact ⟨fun hsafe _ => hsafe, fun hsafe => hsafe hready.not_finished⟩
  · have htick : confirmEvents s t = s := by simp [confirmEvents, hs]
    rw [htick]
    exact iff_of_true h fun _ b hb hnot => absurd (hblocked hs b hb) hnot

end

/-- Every bucket has a plan whose scheduler is running. -/
def Planned : Prop := ∀ b ∈ s.buckets, b.migration.plan.isSome = true ∧ b.scheduling = true

instance (s : State) : Decidable (Planned s) := inferInstanceAs (Decidable (∀ b ∈ s.buckets, _))

/-- The loop starts with buckets whose transactions were sent. -/
structure Sent (s : State) : Prop where
  progress : ∀ b ∈ s.buckets, b.migration.progress = some .sendCompleteTxDone
  handedBack : ∀ b ∈ s.buckets, b.handedBack = none
  blocked : s.blocked = false

theorem Sent.handsBack_iff {s : State} (h : Sent s) : HandsBack s ↔ Planned s := by
  rw [Confirm.handsBack_iff, h.blocked]
  simp only [Bool.false_eq_true, false_implies, and_true]
  refine forall₂_congr fun b hb => ⟨?_, ?_⟩
  · rintro ⟨-, hfinished | hready⟩
    · rw [Bucket.Finished, h.progress b hb] at hfinished
      cases hfinished
    · exact ⟨hready.plan, hready.scheduling⟩
  · rintro ⟨hplan, hscheduling⟩
    exact ⟨by rw [h.handedBack b hb]; decide, .inr ⟨h.progress b hb, hplan, hscheduling⟩⟩

theorem confirmed_buckets_handed_back (s : State) (ticks : List Tick) (hsent : Sent s) :
    (∀ pre, pre <+: ticks → HandsBack (pre.foldl confirmEvents s)) ↔
      Planned s ∧ ∀ pre t, pre ++ [t] <+: ticks → Meets (pre.foldl confirmEvents s) t := by
  rw [foldl_always_iff fun _ _ h => h.confirmEvents_iff, hsent.handsBack_iff]

open BucketMigrate in
/-- A bucket with one GVG, whose unit was reported finished. -/
def migrated : State where
  buckets :=
    [{ bucketID := 1
       migration := handleMigrateGVGTask (onlyGVG 9)
         { srcGvg := ⟨5, 1, 1, [3, 4], 0⟩, destGvg := ⟨9, 8, 2, [3, 4], 10⟩, finished := true }
         (schedule 5 (start oneGVG (onlyGVG 9) {}))
       scheduling := true }]

open BucketMigrate in
/-- An empty bucket, which is completed when its migration starts. -/
def emptyBucket : State where
  buckets :=
    [{ bucketID := 1
       migration := start { oneGVG with primarySPGVGList := [], ids_nodup := nodup_nil } (onlyGVG 9) {}
       scheduling := false }]

/-- The transaction was executed. -/
def executed (post : Bool) : Tick where
  answers := fun _ => { getBucketByBucketID := .ok (some true), postMigrateBucket := post }

/-- The first tick comes before the transaction is executed, and in the second one the state cannot
be written. -/
theorem confirmed_buckets_handed_back_sample :
    let ticks : List Tick :=
      [⟨true, fun _ => { getBucketByBucketID := .ok (some false) }⟩,
        ⟨true, fun _ => { getBucketByBucketID := .ok (some true), waitCompleteTxEventDone := false }⟩,
        executed true]
    Sent migrated ∧ ∀ pre, pre <+: ticks → HandsBack (pre.foldl confirmEvents migrated) := by
  intro ticks
  have hsent : Sent migrated := ⟨by decide, by decide, rfl⟩
  have hsafe : ∀ t ∈ ticks, ∀ id, (t.answers id).Safe := by
    simp [ticks, executed, Answers.Safe]
  refine ⟨hsent, (confirmed_buckets_handed_back migrated ticks hsent).mpr ⟨by decide, ?_⟩⟩
  intro pre t hpre _ _ _ _
  exact hsafe t (hpre.subset (mem_append_right pre (.head _))) _

/-- The state becomes MIGRATION_FINISHED although the source SP did not accept the notification; and an
empty bucket, for which there is no plan, is left in a state that no later tick lists. -/
theorem finished_without_acceptance :
    (Sent migrated ∧ Planned migrated ∧ ¬ HandsBack (confirmEvents migrated (executed false))) ∧
      Sent emptyBucket ∧ ¬ HandsBack (confirmEvents emptyBucket (executed true)) := by
  refine ⟨⟨⟨by decide, by decide, rfl⟩, by decide, ?_⟩, ⟨by decide, by decide, rfl⟩, ?_⟩
  · intro h
    exact h.accepted _ (.head _) rfl
  intro h
  have hfinished := h.pickedUp (executed true) rfl (fun _ => ⟨.inr rfl, rfl, rfl, rfl, rfl⟩) _
    (.head _)
  exact absurd hfinished (by decide)

end Manager.Confirm

-- SUMMARY: Migration events, what they permit, and the buckets that migrate to an SP.
import MocaSP.Metadata.Permission

/-!
# Migration events

A bucket migrates to another SP from the event that starts its migration until
one that cancels, completes or rejects it. An SP that exits swaps out of its
virtual groups to a successor. The metadata service permits an SP to migrate data
by the latest of these events.

`GfSpGetSPMigratingBucketNumber` and `GfSpListMigrateBucketEvents` compare the block of a bucket's
latest migration to an SP with the blocks of the latest events that ended a migration of the bucket.
An earlier complete event hides a cancel or a reject from the number, but not from the list.
-/

namespace Metadata

inductive MigrationEvent where
  | start (dstPrimarySpId : Nat)
  | cancel
  | complete
  | reject
  deriving DecidableEq

/-- The events of a bucket, the latest first, each with its block. -/
structure BucketHistory where
  events : List (Nat × MigrationEvent)
  ordered : events.Pairwise fun later earlier => earlier.1 ≤ later.1

namespace BucketHistory
variable (h : BucketHistory)

/-- The SP to which the bucket is migrating. -/
def destination : Option Nat :=
  match h.events with
  | (_, .start dst) :: _ => some dst
  | _ => none

/-- The block and the destination of the latest migration. -/
def latestStart : Option (Nat × Nat) :=
  h.events.findSome? fun e =>
    match e.2 with
    | .start dst => some (e.1, dst)
    | _ => none

def latestCancel : Option Nat :=
  h.events.findSome? fun e => if e.2 = .cancel then some e.1 else none

end BucketHistory

/-- An event by which an SP swaps out of a family, or of some groups, or cancels
that. -/
structure SwapOut where
  familyID : Nat
  gvgIDs : List Nat
  createAt : Nat

structure GVGRow where
  id : Nat
  familyID : Nat

def SwapOut.concerns (e : SwapOut) (gvg : GVGRow) : Bool :=
  gvg.id ∈ e.gvgIDs || e.familyID = gvg.familyID

/-- The tables of events, the latest rows first. -/
structure EventTables where
  buckets : Nat → BucketHistory
  /-- With the successor. -/
  swapOuts : List (SwapOut × Nat)
  cancelSwapOuts : List SwapOut
  gvgs : List GVGRow
  /-- Groups are numbered from one. -/
  gvg_pos : ∀ g ∈ gvgs, g.id ≠ 0

inductive EventErr where
  | recordNotFound
  /-- "the bucket is not in migration status" -/
  | bucketNotInMigration
  /-- "the gvg is not in swap out status" -/
  | gvgNotInSwapOut
  deriving DecidableEq

namespace EventTables
variable (T : EventTables)

/-- The destination of the latest migration, unless a later block cancelled one. -/
def getEventMigrationBucketByBucketID (bucketID : Nat) : Except EventErr Nat :=
  match (T.buckets bucketID).latestStart with
  | none => .error .recordNotFound
  | some (createAt, dst) =>
    match (T.buckets bucketID).latestCancel with
    | none => .ok dst
    | some cancelAt => if cancelAt > createAt then .error .bucketNotInMigration else .ok dst

/-- The successor of the latest swap out of the group, if the group exists. -/
def getEventSwapOutByGvgID (gvgID : Nat) : Except EventErr (Option Nat) :=
  match T.gvgs.find? fun g => g.id = gvgID with
  | none => .ok none
  | some gvg =>
    match T.swapOuts.find? fun e => e.1.concerns gvg with
    | none => .error .recordNotFound
    | some (event, successor) =>
      match T.cancelSwapOuts.find? fun e => e.concerns gvg with
      | none => .ok (some successor)
      | some cancelEvent =>
        if cancelEvent.createAt > event.createAt then .error .gvgNotInSwapOut
        else .ok (some successor)

def verifyBucketMigration (bucketID dstSpID : Nat) : Except EventErr Effect := do
  let dst ← T.getEventMigrationBucketByBucketID bucketID
  return if dst = dstSpID then .allow else .deny

def verifySwapOut (gvgID dstSpID : Nat) : Except EventErr Effect := do
  let successor ← T.getEventSwapOutByGvgID gvgID
  return if successor = some dstSpID then .allow else .deny

/-- A bucket is named for a migration, and none for an exit. -/
def gfSpVerifyMigrateGVGPermission (bucketID gvgID dstSpID : Nat) : Except EventErr Effect :=
  if bucketID ≠ 0 then T.verifyBucketMigration bucketID dstSpID
  else T.verifySwapOut gvgID dstSpID

end EventTables

/-! ## Migrating buckets -/

open List

namespace BucketHistory
variable (h : BucketHistory) (spID : Nat)

/-- The block of the latest event of a kind. -/
def latest (kind : MigrationEvent) : Option Nat := (h.events.find? fun e => e.2 = kind).map Prod.fst

/-- The bucket is one of those that `GfSpGetSPMigratingBucketNumber` counts. -/
def counted : Bool :=
  (h.latest (.start spID)).any fun createAt =>
    let completeFlag := (h.latest .complete).any (createAt ≤ ·)
    let cancelFlag := (h.latest .cancel).any (createAt ≤ ·) && (h.latest .complete).isNone
    let rejectFlag := (h.latest .reject).any (createAt ≤ ·) && (h.latest .complete).isNone
    !completeFlag && !cancelFlag && !rejectFlag

/-- `GfSpListMigrateBucketEvents`, asked at the latest block, returns the migration with neither a
cancel nor a reject event. -/
def listed : Bool :=
  (h.latest (.start spID)).any fun createAt =>
    let completeEvent := (h.latest .complete).any (createAt ≤ ·)
    let cancelEvent := (h.latest .cancel).any fun cancelAt =>
      createAt ≤ cancelAt && (h.latest .complete).all (· < cancelAt)
    let rejectEvent := (h.latest .reject).any fun rejectAt =>
      createAt ≤ rejectAt && (h.latest .complete).all (· < rejectAt)
    !completeEvent && !cancelEvent && !rejectEvent

def ends (e : Nat × MigrationEvent) : Prop := e.2 = .complete ∨ e.2 = .cancel ∨ e.2 = .reject

instance : DecidablePred ends := fun _ => inferInstanceAs (Decidable (_ ∨ _))

/-- The events after the latest migration to the SP. -/
def since : List (Nat × MigrationEvent) := h.events.takeWhile fun e => e.2 ≠ .start spID

/-- No event ended the latest migration to the SP. -/
def inProgress : Bool := (h.latest (.start spID)).isSome && !(h.since spID).any (ends ·)

/-- An event in the migration's block ended an earlier migration only if a later one ended this, and
the migration ended by a complete event unless the bucket has none. -/
def Separated : Prop :=
  ∀ createAt, h.latest (.start spID) = some createAt →
    ((∃ e ∈ h.events, ends e ∧ createAt ≤ e.1) → ∃ e ∈ h.since spID, ends e) ∧
    ((∃ e ∈ h.since spID, ends e) → (∃ e ∈ h.events, e.2 = .complete) →
      ∃ e ∈ h.events, e.2 = .complete ∧ createAt ≤ e.1)

variable {h spID}

theorem latest_any {kind : MigrationEvent} {b : Nat} :
    (h.latest kind).any (b ≤ ·) ↔ ∃ e ∈ h.events, e.2 = kind ∧ b ≤ e.1 := by
  obtain ⟨l, hl⟩ := h
  induction l with
  | nil => simp [latest]
  | cons e _ ih =>
    rw [pairwise_cons] at hl
    by_cases he : e.2 = kind
    · simp [latest, he]
      grind
    · simpa [latest, he] using ih hl.2

theorem since_ge {b : Nat} (hb : h.latest (.start spID) = some b) :
    ∀ e ∈ h.since spID, e ∈ h.events ∧ b ≤ e.1 := by
  obtain ⟨l, hl⟩ := h
  induction l with
  | nil => simp [since]
  | cons e l =>
    rw [pairwise_cons] at hl
    by_cases he : e.2 = .start spID
    · simp [since, he]
    have hb' : latest ⟨l, hl.2⟩ (.start spID) = some b := by simpa [latest, he] using hb
    obtain ⟨_, _, _⟩ := latest_any.mp
      (by simp [hb'] : (latest ⟨l, hl.2⟩ (.start spID)).any (b ≤ ·))
    simp [since, he]
    grind [since]

theorem listed_eq {b : Nat} (hb : h.latest (.start spID) = some b) :
    h.listed spID = !((h.latest .complete).any (b ≤ ·) || (h.latest .cancel).any (b ≤ ·) ||
      (h.latest .reject).any (b ≤ ·)) := by
  rw [listed, hb]
  cases h.latest .complete with
  | none => simp
  | some completeAt =>
    -- a later event than the migration's is later than a complete event before it
    rcases lt_or_ge completeAt b with _ | hge
    · have hlater (c : Nat) : (decide (b ≤ c) && decide (completeAt < c)) = decide (b ≤ c) := by
        grind
      simp [hlater]
    · simp [hge]

theorem exact_iff :
    h.counted spID = h.listed spID ∧ h.listed spID = h.inProgress spID ↔ h.Separated spID := by
  cases hb : h.latest (.start spID) with
  | none => simp [counted, listed, inProgress, Separated, hb]
  | some b =>
    have hends : (∃ e ∈ h.events, ends e ∧ b ≤ e.1) ↔ (h.latest .complete).any (b ≤ ·) ∨
        (h.latest .cancel).any (b ≤ ·) ∨ (h.latest .reject).any (b ≤ ·) := by
      simp only [latest_any, ends]
      grind
    have hsince : (∃ e ∈ h.since spID, ends e) → ∃ e ∈ h.events, ends e ∧ b ≤ e.1 :=
      fun ⟨e, he, hend⟩ => ⟨e, (since_ge hb e he).1, hend, (since_ge hb e he).2⟩
    have hany : (h.since spID).any (ends ·) ↔ ∃ e ∈ h.since spID, ends e := by simp
    have hsome : (h.latest .complete).isNone ↔ ¬ ∃ e ∈ h.events, e.2 = .complete := by
      simp only [latest, Option.isNone_map, Option.isNone_iff_eq_none, find?_eq_none,
        decide_eq_true_eq, not_exists, not_and]
    simp only [listed_eq hb, counted, inProgress, Separated, hb, hends, ← hany, ← latest_any,
      Option.some.injEq, forall_eq'] at hsince ⊢
    rw [← not_not (a := ∃ e ∈ h.events, e.2 = .complete), ← hsome]
    grind

end BucketHistory

def gfSpGetSPMigratingBucketNumber (histories : List BucketHistory) (spID : Nat) : Nat :=
  histories.countP (·.counted spID)

/-- The number is that of the buckets in progress, which are those that the list takes for such. -/
def ExactNumber (histories : List BucketHistory) (spID : Nat) : Prop :=
  gfSpGetSPMigratingBucketNumber histories spID = histories.countP (·.inProgress spID) ∧
    ∀ h ∈ histories, h.counted spID = h.listed spID ∧ h.listed spID = h.inProgress spID

theorem exactNumber_iff (histories : List BucketHistory) (spID : Nat) :
    ExactNumber histories spID ↔ ∀ h ∈ histories, h.Separated spID := by
  simp only [ExactNumber, BucketHistory.exact_iff, and_iff_right_iff_imp]
  intro hall
  refine countP_congr fun h hh => ?_
  obtain ⟨hcounted, hlisted⟩ := BucketHistory.exact_iff.mpr (hall h hh)
  rw [hcounted, hlisted]

/-- A bucket that migrated to the SP and away from it, and whose migration back was cancelled. -/
theorem exactNumber_cancelled :
    ¬ ExactNumber [⟨[(6, .cancel), (5, .start 1), (4, .complete), (3, .start 2), (2, .complete), (1, .start 1)],
      by decide⟩] 1 :=
  fun h => absurd h.1 (by decide)

end Metadata

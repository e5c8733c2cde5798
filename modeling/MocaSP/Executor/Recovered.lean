-- SUMMARY: When recovered data matches the recorded checksums.
import MocaSP.Base.Run
import MocaSP.Executor.Recovery

/-!
# Recovered data and recorded checksums

A successor SP recovers the segments of an object by one task each, in any order
and as often as it takes. Its pieces cannot be compared with anything until all
checksums are there. A task for a segment whose checksum is recorded writes the
piece first and the checksum later, or, after the integrity row, never: the data
that is recorded is not always the data that is stored. It is as long as every
attempt to store a piece is `Clean`.
-/

namespace Executor

open Piece Holdings RecoveryTarget Option

variable {Digest : Type}

/-- A task that is made for a successor SP. -/
def RecoveryTarget.successorTask (target : RecoveryTarget) (segmentIdx : Nat) : RecoveryPieceTask :=
  { target with segmentIdx, bySuccessorSP := true }

/-! ## What is recorded -/

section
variable (H : Hash Digest) (target : RecoveryTarget) (s : Holdings Digest)

/-- The pieces that the integrity row lists are stored. -/
def Matches : Prop :=
  ∀ row, s.store.integrity target.objectID target.ecIdx = some row →
    ∀ i < target.segmentCount,
      ∃ c, row.pieceChecksumList[i]? = some c ∧ s.Holds H (target.recoveryKey i) c

/-- The database has this checksum for a segment. -/
inductive Recorded (i : Nat) (c : Digest) : Prop where
  | single (row : PieceHash Digest)
      (hrow : (s.hashes target.objectID target.ecIdx)[i]? = some row) (hc : row.pieceChecksum = c)
  | listed (row : IntegrityMeta Digest)
      (hrow : s.store.integrity target.objectID target.ecIdx = some row)
      (hc : row.pieceChecksumList[i]? = some c)

/-- The piece of a segment is stored with the checksum recorded for it. -/
def StoredAsRecorded (i : Nat) : Prop :=
  (∃ c, Recorded target s i c) ∧ ∀ c, Recorded target s i c → s.Holds H (target.recoveryKey i) c

/-- Nothing of the object is recorded. -/
def Fresh : Prop :=
  s.store.integrity target.objectID target.ecIdx = none ∧ s.hashes target.objectID target.ecIdx = ∅

/-- Every checksum in the database is that of a stored piece. -/
structure Backed : Prop where
  rows : ∀ (i : Nat) (row : PieceHash Digest),
    (s.hashes target.objectID target.ecIdx)[i]? = some row →
      i < target.segmentCount ∧ s.Holds H (target.recoveryKey i) row.pieceChecksum
  listed : Matches H target s

end

variable {H : Hash Digest} {target : RecoveryTarget} {s s' : Holdings Digest} {i j : Nat}
  {data : Data}

theorem RecoveryTarget.recoveryKey_ne (h : i ≠ j) : target.recoveryKey i ≠ target.recoveryKey j := by
  unfold recoveryKey
  split
  · simpa using h
  · simpa using h

theorem backed_of_fresh (h : Fresh target s) : Backed H target s := by
  constructor
  · intro _ _ hrow
    rw [h.2] at hrow
    simp at hrow
  · intro _ hrow
    rw [h.1] at hrow
    cases hrow

theorem Backed.storedAsRecorded (h : Backed H target s) (hi : i < target.segmentCount)
    (hrecorded : ∃ c, Recorded target s i c) : StoredAsRecorded H target s i := by
  refine ⟨hrecorded, fun c hc => ?_⟩
  cases hc with
  | single row hrow hc =>
    rw [← hc]
    exact (h.rows i row hrow).2
  | listed row hrow hc =>
    obtain ⟨_, hc', hholds⟩ := h.listed row hrow i hi
    rw [hc] at hc'
    cases hc'
    exact hholds

theorem Backed.fewer (h : Backed H target s)
    (hfewer : Holdings.Fewer s s' target.objectID target.ecIdx) : Backed H target s' := by
  constructor
  · intro i row hrow
    obtain ⟨hi, _⟩ := h.rows i row (hfewer.rows i row hrow)
    refine ⟨hi, ?_⟩
    rwa [Holdings.Holds, hfewer.store]
  · intro row hrow i hi
    rw [hfewer.store] at hrow
    obtain ⟨c, hc, _⟩ := h.listed row hrow i hi
    refine ⟨c, hc, ?_⟩
    rwa [Holdings.Holds, hfewer.store]

/-! ## One attempt to store a piece -/

/-- There is no integrity row yet, a checksum that is recorded for the segment is
replaced together with the piece, and the checksums are read in the order of the segments. -/
def Clean (target : RecoveryTarget) (segmentIdx : Nat) (a : StoreAnswers Digest)
    (s : Holdings Digest) : Prop :=
  (s.store.integrity target.objectID target.ecIdx).isNone ∧
    ((s.hashes target.objectID target.ecIdx)[segmentIdx]?.isSome →
      a.put = .ok ∧ a.setChecksum ≠ .fails false) ∧
    a.getAll.InKeyOrder

section
variable (h : Backed H target s) (hnone : s.store.integrity target.objectID target.ecIdx = none)
include h hnone

/-- A piece is written whose segment has no recorded checksum. -/
theorem Backed.putPiece {p : Put} (hrow : (s.hashes target.objectID target.ecIdx)[j]? = none) :
    Backed H target (s.putPiece p (target.recoveryKey j) data) := by
  constructor
  · intro i row hi
    obtain ⟨hlt, _⟩ := h.rows i row hi
    refine ⟨hlt, ?_⟩
    have hne : i ≠ j := by
      rintro rfl
      rw [hashes_putPiece, hrow] at hi
      cases hi
    rwa [holds_putPiece_of_ne (recoveryKey_ne hne)]
  · intro _ hintegrity
    rw [show (s.putPiece p (target.recoveryKey j) data).store.integrity target.objectID
      target.ecIdx = none from hnone] at hintegrity
    cases hintegrity

/-- A piece is written together with its checksum. -/
theorem Backed.putRecorded {version : Int} (hj : j < target.segmentCount) :
    Backed H target ((s.putPiece .ok (target.recoveryKey j) data).setHashes target.objectID
      target.ecIdx ((s.hashes target.objectID target.ecIdx).insert j
        ⟨H.generateChecksum data, version⟩)) := by
  constructor
  · intro i row hi
    rw [hashes_setHashes_self, getElem?_upsert] at hi
    split at hi
    next heq =>
      subst heq
      cases hi
      exact ⟨hj, holds_putPiece_self⟩
    next hne =>
      obtain ⟨hlt, _⟩ := h.rows i row hi
      refine ⟨hlt, ?_⟩
      change (s.putPiece .ok _ data).Holds ..
      rwa [holds_putPiece_of_ne (recoveryKey_ne hne)]
  · intro _ hintegrity
    rw [store_setHashes, show (s.putPiece .ok (target.recoveryKey j) data).store.integrity
      target.objectID target.ecIdx = none from hnone] at hintegrity
    cases hintegrity

/-- The integrity row is inserted, of checksums that are all backed. -/
theorem Backed.setObjectIntegrity {w : Write} {row : IntegrityMeta Digest} {r : Except DbErr Unit}
    {store : Store Digest} (hlisted : ∀ i < target.segmentCount,
      ∃ c, row.pieceChecksumList[i]? = some c ∧ s.Holds H (target.recoveryKey i) c)
    (hset : s.store.setObjectIntegrity w target.objectID target.ecIdx row = (r, store)) :
    Backed H target { s with store } ∧
      (r = .ok () → store.integrity target.objectID target.ecIdx = some row) := by
  obtain ⟨hpieces, hrows⟩ := Store.setObjectIntegrity_cases hset
  have hholds : ∀ k c, s.Holds H k c → Holdings.Holds { s with store } H k c := by
    intro _ _ _
    rwa [Holdings.Holds, hpieces]
  refine ⟨⟨fun i row' hi => ?_, fun row' hrow' i hi => ?_⟩, fun hok => ?_⟩
  · obtain ⟨hlt, hk⟩ := h.rows i row' hi
    exact ⟨hlt, hholds _ _ hk⟩
  · rcases hrows with hrows | ⟨hrows, -⟩
    · rw [hrows, Rows.set_self, hnone] at hrow'
      cases hrow'
      obtain ⟨c, hc, hk⟩ := hlisted i hi
      exact ⟨c, hc, hholds _ _ hk⟩
    · rw [hrows, hnone] at hrow'
      cases hrow'
  · rcases hrows with hrows | ⟨-, rfl⟩
    · rw [hrows, Rows.set_self, hnone]
      rfl
    · cases hok

end

variable {checksums : List Digest}

/-- The checksums are complete and each is that of the stored piece. -/
theorem checksums_listed {read : RowsRead} (h : Backed H target s) (hordered : read.InKeyOrder)
    (hget : s.getAllReplicatePieceChecksumOptimized read target.objectID target.ecIdx
      target.segmentCount = .ok checksums)
    (hlength : checksums.length = target.segmentCount) : ∀ i < target.segmentCount,
      ∃ c, checksums[i]? = some c ∧ s.Holds H (target.recoveryKey i) c := by
  intro i hi
  obtain rfl := (getAll_ok hget).2 hordered
  rw [List.length_map] at hlength
  have hbelow : Ordered.Below (s.hashes target.objectID target.ecIdx) target.segmentCount :=
    fun k row hrow => (h.rows k row hrow).1
  have hfirst := Ordered.first_of_full hbelow hlength hi
  obtain ⟨row, hrow⟩ : ∃ row, (Ordered.first (s.hashes target.objectID target.ecIdx)
      target.segmentCount)[i]? = some row :=
    ⟨_, List.getElem?_eq_getElem (by omega)⟩
  refine ⟨row.pieceChecksum, by rw [List.getElem?_map, hrow]; rfl, ?_⟩
  exact (h.rows i row (hfirst ▸ hrow)).2

/-- After an attempt for a segment, the recorded checksums are backed, and the segment of one that
succeeded is recorded. -/
def Leaves (H : Hash Digest) (target : RecoveryTarget) (j : Nat)
    (attempt : Except RecoveryErr Unit × Holdings Digest) : Prop :=
  Backed H target attempt.2 ∧ (attempt.1 = .ok () → ∃ c, Recorded target attempt.2 j c)

section
variable [DecidableEq Digest] {a : StoreAnswers Digest} (h : Backed H target s) (hj : j < target.segmentCount)
include h hj

theorem setIntegrityMetadata_leaves (hnone : s.store.integrity target.objectID target.ecIdx = none)
    (hlisted : ∀ i < target.segmentCount, ∃ c, checksums[i]? = some c ∧ s.Holds H (target.recoveryKey i) c) :
    Leaves H target j (setIntegrityMetadata H (target.successorTask j) a checksums s) := by
  rw [setIntegrityMetadata]
  split
  · exact ⟨h, nofun⟩
  split
  · exact ⟨h, nofun⟩
  split
  · exact ⟨h.fewer deleteAllReplicatePieceChecksum_fewer, nofun⟩
  rcases hset : s.store.setObjectIntegrity a.setIntegrity target.objectID target.ecIdx
    { pieceChecksumList := checksums,
      integrityChecksum := some (H.generateIntegrityHash checksums),
      version := none, objectSize := 0 } with ⟨set, store⟩
  obtain ⟨hbacked, hrow⟩ := h.setObjectIntegrity hnone hlisted hset
  simp only [successorTask, hset]
  cases set with
  | error => exact ⟨hbacked, nofun⟩
  | ok =>
    have hfewer := @Holdings.deleteAllReplicatePieceChecksum_fewer Digest { s with store }
      target.objectID target.ecIdx a.delete target.segmentCount
    refine ⟨hbacked.fewer hfewer, fun _ => ?_⟩
    obtain ⟨c, hc, -⟩ := hlisted j hj
    have hstore : _ = some _ :=
      (congrArg (·.integrity target.objectID target.ecIdx) hfewer.store).trans (hrow rfl)
    exact ⟨c, .listed _ hstore hc⟩

variable (hclean : Clean target j a s)
include hclean

theorem setPieceMetadata_leaves : Leaves H target j (setPieceMetadata H (target.successorTask j) a data
    (s.putPiece .ok (target.recoveryKey j) data)) := by
  obtain ⟨hnone, hrow, hordered⟩ := hclean
  rw [isNone_iff_eq_none] at hnone
  rcases hset : (s.putPiece .ok (target.recoveryKey j) data).setReplicatePieceChecksum
    a.setChecksum target.objectID j target.ecIdx (H.generateChecksum data) target.version
    with ⟨set, s₂⟩
  simp only [setPieceMetadata, successorTask, hset]
  rcases writeHashes_cases hset with hs₂ | ⟨rfl, hfails, rfl⟩
  · have hbacked : Backed H target s₂ := hs₂ ▸ h.putRecorded hnone hj
    have hnone₂ : s₂.store.integrity target.objectID target.ecIdx = none := hs₂ ▸ hnone
    have hrow₂ : (s₂.hashes target.objectID target.ecIdx)[j]? =
        some ⟨H.generateChecksum data, target.version⟩ := by
      rw [hs₂, hashes_setHashes_self, getElem?_upsert, if_pos rfl]
    cases set with
    | error => exact ⟨hbacked, nofun⟩
    | ok =>
      dsimp only
      split
      · exact ⟨hbacked, nofun⟩
      rename_i hget
      split
      next hlength =>
        exact setIntegrityMetadata_leaves hbacked hj hnone₂ (checksums_listed hbacked hordered hget hlength)
      · exact ⟨hbacked, fun _ => ⟨_, .single _ hrow₂ rfl⟩⟩
  · -- the checksum was not written, so none may have been recorded
    refine ⟨h.putPiece hnone ?_, nofun⟩
    by_contra hsome
    exact (hrow (isSome_iff_ne_none.mpr hsome)).2 hfails

theorem storeRecovered_leaves : Leaves H target j (storeRecovered H (target.successorTask j) a data s) := by
  rw [storeRecovered]
  split
  next hput =>
    refine ⟨h.putPiece (isNone_iff_eq_none.mp hclean.1) ?_, nofun⟩
    by_contra hsome
    have hok := (hclean.2.1 (isSome_iff_ne_none.mpr hsome)).1
    rw [hput] at hok
    cases hok
  next hput =>
    rw [hput]
    exact setPieceMetadata_leaves h hj hclean

end

/-! ## Tasks and runs -/

section
variable [DecidableEq Digest] (H : Hash Digest) (codec : Codec) (target : RecoveryTarget)

/-- An attempt that has data to store is clean. -/
def CleanIfData (segmentIdx : Nat) (recovered : Except RecoveryErr Data) (a : StoreAnswers Digest)
    (s : Holdings Digest) : Prop :=
  recovered.isOk → Clean target segmentIdx a s

/-- Each attempt of a task is clean; the second one begins where the first one failed. -/
def Undisturbed (s : Holdings Digest) (task : Nat × Answers Digest) : Prop :=
  let t := target.successorTask task.1
  let a := task.2
  (checkTask t).isOk →
    if 0 ≤ target.ecIdx then
      CleanIfData target task.1 (dataByPrimarySP H t a s) a.primaryStore s ∧
      ((recoverByPrimarySP H t a s).1.isOk = false →
        CleanIfData target task.1 (dataBySecondarySP H codec t true a (recoverByPrimarySP H t a s).2)
          a.secondaryStore (recoverByPrimarySP H t a s).2)
    else CleanIfData target task.1 (dataBySecondarySP H codec t false a s) a.secondaryStore s

/-- One task for a segment of the object. -/
def recoverStep (s : Holdings Digest) (task : Nat × Answers Digest) : Option (Holdings Digest) :=
  if task.1 < target.segmentCount then
    some (handleRecoverPieceTask H codec (target.successorTask task.1) task.2 s).2
  else none

variable {H codec target} {a : Answers Digest}

section
variable (h : Backed H target s) (hj : j < target.segmentCount)
include h hj

theorem recoverByPrimarySP_leaves
    (hclean : CleanIfData target j (dataByPrimarySP H (target.successorTask j) a s) a.primaryStore s) :
    Leaves H target j (recoverByPrimarySP H (target.successorTask j) a s) := by
  rw [recoverByPrimarySP]
  split
  · exact ⟨h, nofun⟩
  next hdata => exact storeRecovered_leaves h hj (hclean (by rw [hdata]; rfl))

theorem recoverBySecondarySP_leaves {isMyselfSecondary : Bool} (hclean : CleanIfData target j
      (dataBySecondarySP H codec (target.successorTask j) isMyselfSecondary a s) a.secondaryStore s) :
    Leaves H target j (recoverBySecondarySP H codec (target.successorTask j) isMyselfSecondary a s) := by
  rw [recoverBySecondarySP]
  split
  · exact ⟨h, nofun⟩
  next hdata => exact storeRecovered_leaves h hj (hclean (by rw [hdata]; rfl))

theorem handleRecoverPieceTask_backed {out : Outcome} (hclean : Undisturbed H codec target s (j, a))
    (hrun : handleRecoverPieceTask H codec (target.successorTask j) a s = (out, s')) :
    Backed H target s' ∧ (out.recovered = true → StoredAsRecorded H target s' j) := by
  suffices Backed H target s' ∧ (out.recovered = true → ∃ c, Recorded target s' j c) from
    ⟨this.1, fun hrecovered => this.1.storedAsRecorded hj (this.2 hrecovered)⟩
  rw [handleRecoverPieceTask] at hrun
  split at hrun
  · cases hrun
    exact ⟨h, nofun⟩
  rename_i hcheck
  have hattempts := hclean (by rw [hcheck]; rfl)
  split at hrun
  next hidx =>
    rw [if_pos (show 0 ≤ target.ecIdx from hidx)] at hattempts
    have hfirst := recoverByPrimarySP_leaves h hj hattempts.1
    split at hrun
    next heq =>
      cases hrun
      rw [heq] at hfirst
      exact ⟨hfirst.1, fun _ => hfirst.2 rfl⟩
    next heq =>
      have hsecond := hattempts.2 (by rw [heq]; rfl)
      rw [heq] at hfirst hsecond
      have hlast := recoverBySecondarySP_leaves hfirst.1 hj hsecond
      split at hrun
      all_goals
        rename_i heq
        cases hrun
        rw [heq] at hlast
      · exact ⟨hlast.1, nofun⟩
      · exact ⟨hlast.1, fun _ => hlast.2 rfl⟩
  next hidx =>
    rw [if_neg (show ¬ 0 ≤ target.ecIdx from hidx)] at hattempts
    have hlast := recoverBySecondarySP_leaves h hj hattempts
    split at hrun
    all_goals
      rename_i heq
      cases hrun
      rw [heq] at hlast
    · exact ⟨hlast.1, nofun⟩
    · exact ⟨hlast.1, fun _ => hlast.2 rfl⟩

end

theorem backed_of_run {s₀ : Holdings Digest} (hfresh : Fresh target s₀)
    (hrun : Run (recoverStep H codec target) (Undisturbed H codec target) s₀ s) :
    Backed H target s := by
  refine hrun.invariant (backed_of_fresh hfresh) fun s task s' h hclean hstep => ?_
  obtain ⟨_, _⟩ := task
  rw [recoverStep] at hstep
  split at hstep
  next hj =>
    cases hstep
    exact (handleRecoverPieceTask_backed h hj hclean rfl).1
  · cases hstep

/-- In every run of undisturbed tasks, the pieces match the integrity row, and a task
that is reported recovered has left its piece stored as it is recorded. -/
theorem recovered_data_matches {s₀ : Holdings Digest} (hfresh : Fresh target s₀)
    (hrun : Run (recoverStep H codec target) (Undisturbed H codec target) s₀ s) :
    Matches H target s ∧
      ∀ j a out s', j < target.segmentCount → Undisturbed H codec target s (j, a) →
        handleRecoverPieceTask H codec (target.successorTask j) a s = (out, s') →
        out.recovered = true → StoredAsRecorded H target s' j := by
  have h := backed_of_run hfresh hrun
  refine ⟨h.listed, fun j a out s' hj hclean hhandled => ?_⟩
  exact (handleRecoverPieceTask_backed h hj hclean hhandled).2

end

section

instance [DecidableEq Digest] (H : Hash Digest) (codec : Codec) (target : RecoveryTarget)
    (s : Holdings Digest) (task : Nat × Answers Digest) :
    Decidable (Undisturbed H codec target s task) := by
  unfold Undisturbed CleanIfData Clean
  infer_instance

/-- A code that is never asked. -/
def noCodec : Codec where
  decodeRawSegment := fun _ _ _ _ => none
  encodeRawSegment := fun _ _ _ => none
  slice := fun _ _ _ => none

/-- An object of two segments of one byte each. -/
def twoSegments : RecoveryTarget where
  objectID := 1
  version := 0
  payloadSize := 2
  isSealed := true
  isEC := true
  params := ⟨4, 2, 1⟩
  ecIdx := 0

/-- The primary SP sends this byte; the sealed checksum is that of the bytes 1 and 2. -/
def sends (b : UInt8) : Answers Data :=
  { fromPrimary := some [b], primaryStore := { chainChecksums := some [[], [1, 2]] } }

theorem fresh_nothingHeld : Fresh twoSegments nothingHeld := ⟨rfl, rfl⟩

theorem recovered_data_matches_sample :
    ∃ s s', Run (recoverStep plainHash noCodec twoSegments) (Undisturbed plainHash noCodec twoSegments)
        nothingHeld s ∧
      handleRecoverPieceTask plainHash noCodec (twoSegments.successorTask 1) (sends 2) s
        = (⟨none, true⟩, s') ∧
      Matches plainHash twoSegments s ∧ StoredAsRecorded plainHash twoSegments s' 1 := by
  obtain ⟨s, hrun, hlast⟩ : ∃ s, Run (recoverStep plainHash noCodec twoSegments)
      (Undisturbed plainHash noCodec twoSegments) nothingHeld s ∧
      Undisturbed plainHash noCodec twoSegments s (1, sends 2) ∧
        (handleRecoverPieceTask plainHash noCodec (twoSegments.successorTask 1) (sends 2) s).1
          = ⟨none, true⟩ := Run.exists_of_exec [(0, sends 3), (0, sends 1)] (by decide +kernel)
  obtain ⟨hclean, hout⟩ := hlast
  rcases hhandled : handleRecoverPieceTask plainHash noCodec (twoSegments.successorTask 1) (sends 2) s
    with ⟨out, s'⟩
  rw [hhandled] at hout
  cases hout
  obtain ⟨hmatches, htasks⟩ := recovered_data_matches fresh_nothingHeld hrun
  exact ⟨s, s', hrun, hhandled, hmatches, htasks 1 (sends 2) _ s' (by decide) hclean hhandled rfl⟩

/-- A task that comes after the integrity row replaces a piece by any data that a peer
sends, and is reported recovered. -/
theorem late_task_replaces_piece :
    ∃ s s', Run (recoverStep plainHash noCodec twoSegments) (fun _ _ => True) nothingHeld s ∧
      handleRecoverPieceTask plainHash noCodec (twoSegments.successorTask 0) (sends 9) s
        = (⟨none, true⟩, s') ∧
      ¬ Matches plainHash twoSegments s' ∧ ¬ StoredAsRecorded plainHash twoSegments s' 0 := by
  have hexec : (Run.exec (recoverStep plainHash noCodec twoSegments) (fun _ _ => True)
      [(0, sends 1), (1, sends 2)] nothingHeld).map (fun s =>
        let (out, s') := handleRecoverPieceTask plainHash noCodec (twoSegments.successorTask 0)
          (sends 9) s
        decide (out = ⟨none, true⟩ ∧
          ((s'.store.integrity 1 0).map (·.pieceChecksumList)) = some [[1], [2]] ∧
          s'.store.pieces (twoSegments.recoveryKey 0) = some [9])) = some true := by
    decide +kernel
  obtain ⟨s, hs, hlast⟩ := map_eq_some_iff.mp hexec
  rcases hhandled : handleRecoverPieceTask plainHash noCodec (twoSegments.successorTask 0) (sends 9) s
    with ⟨out, s'⟩
  rw [hhandled] at hlast
  obtain ⟨rfl, hlisted, hpiece⟩ := of_decide_eq_true hlast
  obtain ⟨row, hrow, hlist⟩ := map_eq_some_iff.mp hlisted
  have hholds : ¬ s'.Holds plainHash (twoSegments.recoveryKey 0) [1] := by
    rw [Holdings.Holds, hpiece]
    decide
  refine ⟨s, s', Run.of_exec .start hs, hhandled, fun hmatches => ?_, fun hstored => ?_⟩
  · obtain ⟨_, hc, hk⟩ := hmatches row hrow 0 (by decide)
    rw [hlist] at hc
    cases hc
    exact hholds hk
  · exact hholds (hstored.2 [1] (.listed row hrow (by rw [hlist]; rfl)))

end

end Executor

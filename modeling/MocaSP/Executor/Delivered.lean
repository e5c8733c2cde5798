-- SUMMARY: When the migration of an object reaches every new secondary SP.
import MocaSP.Executor.Migrate
import MocaSP.Manager.Secondaries

/-!
# New secondary SPs of a migrated object

The planner replaces a secondary SP of the source GVG if it is exiting, and the destination SP
itself if it is one of them. The executor sends pieces in one case only: the two GVGs
are different in one position, which is that of the destination SP. So the data reaches
every new secondary SP unless another SP than the destination SP is exiting.
-/

namespace Executor.Migrate
open List Request Classical

open Piece Except
open Peer (PieceKey segmentPieceCount)
open Manager.BucketMigrate

/-! ## Two lists of SPs -/

section
variable {i c j k : Nat} {index : Int} {xs ys : List Nat}

theorem differentFrom_self : differentFrom i c index xs xs = (c, index) := by
  induction xs generalizing i with
  | nil => rfl
  | cons _ _ ih => simp [differentFrom, ih]

theorem differentFrom_one (hlen : xs.length = ys.length) (hj : xs[j]? ≠ ys[j]?)
    (hothers : ∀ k ≠ j, xs[k]? = ys[k]?) : differentFrom i c index xs ys = (c + 1, ((i + j : Nat) : Int)) := by
  induction xs generalizing i c index j ys with
  | nil =>
    obtain rfl := length_eq_zero_iff.mp hlen.symm
    exact absurd rfl hj
  | cons x xs ih =>
    obtain ⟨y, ys, rfl⟩ := exists_cons_of_length_eq_add_one hlen.symm
    rw [length_cons, length_cons, Nat.add_right_cancel_iff] at hlen
    cases j with
    | zero =>
      have hne : x ≠ y := by simpa using hj
      obtain rfl : xs = ys := ext_getElem? fun k => by simpa using hothers (k + 1) (by omega)
      rw [differentFrom, if_pos hne, differentFrom_self]
      rfl
    | succ =>
      have heq : x = y := by simpa using hothers 0 (by omega)
      rw [differentFrom, if_neg (not_not_intro heq),
        ih hlen (by simpa using hj) fun k hk => by simpa using hothers (k + 1) (by omega)]
      congr 2
      omega

/-- The first result counts the positions that are different. -/
theorem differentFrom_count (hlen : xs.length = ys.length) : (differentFrom i c index xs ys).1 =
    c + ((range xs.length).filter fun j => xs[j]? ≠ ys[j]?).length := by
  induction xs generalizing i c index ys with
  | nil => cases ys <;> rfl
  | cons =>
    obtain ⟨_, _, rfl⟩ := exists_cons_of_length_eq_add_one hlen.symm
    rw [differentFrom, length_cons, range_succ_eq_map, filter_cons, filter_map]
    split
    · simp_all [Function.comp_def]
      omega
    · simp_all [Function.comp_def]

/-- The helper on lists that are different in one position, and in several. -/
theorem containOnlyOne_one (hlen : xs.length = ys.length) (hj : xs[j]? ≠ ys[j]?)
    (hothers : ∀ k ≠ j, xs[k]? = ys[k]?) : containOnlyOneDifferentElement xs ys = j := by
  simp [containOnlyOneDifferentElement, hlen, differentFrom_one hlen hj hothers]

theorem containOnlyOne_two (hlen : xs.length = ys.length) (hjk : j ≠ k) (hj : xs[j]? ≠ ys[j]?)
    (hk : xs[k]? ≠ ys[k]?) : containOnlyOneDifferentElement xs ys = -1 := by
  have hmem : ∀ {i}, xs[i]? ≠ ys[i]? → i ∈ (range xs.length).filter fun j => xs[j]? ≠ ys[j]? := by
    intro _ hi
    refine mem_filter.mpr ⟨mem_range.mpr (Nat.lt_of_not_le fun hle => hi ?_), decide_eq_true hi⟩
    rw [getElem?_eq_none hle, getElem?_eq_none (hlen ▸ hle)]
  have htwo : 2 ≤ _ := (subperm_of_subset (by simpa using hjk) (cons_subset.mpr ⟨hmem hj,
    cons_subset.mpr ⟨hmem hk, nil_subset _⟩⟩)).length_le
  have hcount := @differentFrom_count 0 0 (-1) xs ys hlen
  simp only [containOnlyOneDifferentElement, hlen, ne_eq, not_true_eq_false, if_false]
  exact if_neg (by omega)

end

/-! ## The planner -/

section
variable {P : Planner} {pick selfSP : Nat}

/-- The secondary SPs of the destination GVG of a unit are those that were asked for. -/
theorem unitsFrom_dest {bucketID srcSP family : Nat} {gvgs : List GlobalVirtualGroup} {units : List ExecuteUnit}
    {u : ExecuteUnit} (h : unitsFrom P bucketID srcSP selfSP pick family gvgs = .ok units) (hu : u ∈ units) :
    u.srcSP = srcSP ∧ ∃ pick, destSecondarySPIDs P pick selfSP u.srcGVG = .ok u.destGVG.secondarySpIds := by
  induction gvgs generalizing pick family units with
  | nil =>
    cases h
    cases hu
  | cons _ _ ih =>
    obtain ⟨secondaries, hsecondaries, h⟩ := bind_eq_ok.mp h
    obtain ⟨destGVG, hdest, h⟩ := bind_eq_ok.mp h
    obtain ⟨_, hrest, h⟩ := bind_eq_ok.mp h
    cases h
    rcases mem_cons.mp hu with rfl | hu
    · refine ⟨rfl, pick, ?_⟩
      have hsame : destGVG.secondarySPIDs = secondaries := by
        rw [pickGlobalVirtualGroupForBucketMigrate] at hdest
        split at hdest
        next hfind =>
          cases hdest
          exact PickDestGVGFilter.find_secondarySPIDs _ hfind
        · obtain ⟨-, -, hdest⟩ := bind_eq_ok.mp hdest
          exact PickDestGVGFilter.find_secondarySPIDs _ (orFail_eq_ok.mp hdest)
      exact hsecondaries.trans (congrArg ok hsame.symm)
    · exact ih hrest hu

end

/-! ## Calls that succeed -/

section
variable {Digest : Type} {H : Hash Digest}

/-- Every call succeeds. -/
structure ErrorFree (selfSP : Nat) (a : Answers) : Prop where
  spID : a.spID = some selfSP
  querySPByID : ∀ id, a.querySPByID id = true
  getPiece : ∀ i, a.getPieceFails i = false
  signReceiveTask : ∀ i, a.signReceiveTask i = true
  replicatePiece : ∀ i, a.replicatePiece i = true
  signDoneReceiveTask : a.signDoneReceiveTask = true
  doneReplicatePiece : a.doneReplicatePiece = true
  put : ∀ i, a.put i = .ok
  setChecksum : ∀ i, a.setChecksum i = .ok
  getAll : a.getAll.fails = false
  setIntegrity : a.setIntegrity = .ok

/-- The segments of an object and its pieces. -/
structure Payload where
  maxSegmentSize : Nat
  segment : Nat → Data
  ecPiece : (segmentIdx redundancyIdx : Nat) → Data

def Payload.segmentCount (payload : Payload) (object : ObjectInfo Digest) : Nat :=
  segmentPieceCount object.payloadSize payload.maxSegmentSize

variable (H) in
/-- An EC object in a GVG of the source SP: the source SP has its segments, and the destination SP
has its pieces if it is a secondary SP of the GVG. -/
structure StoredIn (selfSP srcSP : Nat) (gvg : GlobalVirtualGroup) (object : ObjectInfo Digest)
    (payload : Payload) (a : Answers) (s : Holdings Digest) : Prop where
  nodup : gvg.secondarySpIds.Nodup
  primary : gvg.primarySpId = srcSP
  notSecondary : srcSP ∉ gvg.secondarySpIds
  isEC : object.isEC = true
  checksums : object.checksums.length = gvg.secondarySpIds.length + 1
  params : a.storageParams = some payload.maxSegmentSize
  segments : ∀ i < payload.segmentCount object, a.migratePiece i = some (payload.segment i)
  integrity : object.checksums[0]? = some (H.generateIntegrityHash
    ((range (payload.segmentCount object)).map fun i => H.generateChecksum (payload.segment i)))
  pieces : ∀ j, gvg.secondarySpIds[j]? = some selfSP → ∀ i < payload.segmentCount object,
    s.store.pieces (.ec object.id i j object.version) = some (payload.ecPiece i j)

variable {selfSP srcSP : Nat} {gvg destGvg : GlobalVirtualGroup} {object : ObjectInfo Digest}
  {payload : Payload} {a : Answers} {s : State Digest}

/-- The migration succeeded, and every secondary SP that is new in the destination GVG has received the
pieces of its index and signed for them. -/
def Delivered (task : MigrateGVGTask) (object : ObjectInfo Digest) (payload : Payload)
    (result : Except MigrateErr Unit × State Digest) : Prop :=
  result.1 = .ok () ∧
    ∀ j sp, task.destGvg.secondarySpIds[j]? = some sp → task.srcGvg.secondarySpIds[j]? ≠ some sp →
      (∀ i < payload.segmentCount object,
        replicatePiece sp task.destGvg.id i j (payload.ecPiece i j) ∈ result.2.answered) ∧
      doneReplicatePiece sp task.destGvg.id j ∈ result.2.answered

/-- The GVGs are the same in all positions, or different in several: nothing is sent. -/
theorem checkGVGConflict_nothing
    (h : containOnlyOneDifferentElement gvg.secondarySpIds destGvg.secondarySpIds = -1) {n : Nat} :
    checkGVGConflict gvg destGvg object n a s = (.ok (), s) := by
  simp [checkGVGConflict, h, primarySPRedundancyIndex]

section
variable (hfree : ErrorFree selfSP a)
include hfree

/-- The pieces are sent one by one. -/
theorem forSegments_replicate {gvgID spID j : Nat} {is : List Nat}
    (hpieces : ∀ i ∈ is, s.held.store.pieces (object.pieceKey i j) = some (payload.ecPiece i j))
    (hj : j + 1 < object.checksums.length) :
    forSegments (replicateSegment object gvgID spID j a) is s =
      (.ok (), { s with answered :=
        (is.map fun i => replicatePiece spID gvgID i j (payload.ecPiece i j)).reverse ++ s.answered }) := by
  induction is generalizing s with
  | nil => rfl
  | cons i _ ih =>
    have hstep : replicateSegment object gvgID spID j a i s =
        (.ok (), ⟨s.held, .replicatePiece spID gvgID i j (payload.ecPiece i j) :: s.answered⟩) := by
      simp [replicateSegment, hfree.getPiece, hfree.signReceiveTask, hfree.replicatePiece,
        hpieces i (.head _), Nat.not_le.mpr hj]
    have hrest := ih (s := ⟨s.held, .replicatePiece spID gvgID i j (payload.ecPiece i j) :: s.answered⟩)
      fun i' hi' => hpieces i' (.tail i hi')
    rw [forSegments, hstep]
    dsimp only
    rw [hrest]
    simp

/-- The segments are stored and recorded one by one. -/
theorem forSegments_migrate {is : List Nat}
    (hsegments : ∀ i ∈ is, a.migratePiece i = some (payload.segment i)) :
    ∃ held, forSegments (migrateSegment H object primarySPRedundancyIndex a) is s =
        (.ok (), { s with held }) ∧
      ∀ k, (held.hashes object.id primarySPRedundancyIndex)[k]? = if k ∈ is then
          some ⟨H.generateChecksum (payload.segment k), object.version⟩
        else (s.held.hashes object.id primarySPRedundancyIndex)[k]? := by
  induction is generalizing s with
  | nil => exact ⟨s.held, rfl, by simp⟩
  | cons i is ih =>
    obtain ⟨held, hstep, hrows⟩ : ∃ held, migrateSegment H object primarySPRedundancyIndex a i s =
        (.ok (), { s with held }) ∧
        ∀ k, (held.hashes object.id primarySPRedundancyIndex)[k]? = if k = i then
            some ⟨H.generateChecksum (payload.segment i), object.version⟩
          else (s.held.hashes object.id primarySPRedundancyIndex)[k]? := by
      refine ⟨(s.held.putPiece .ok (.segment object.id i object.version) (payload.segment i)).setHashes
        object.id primarySPRedundancyIndex ((s.held.hashes object.id primarySPRedundancyIndex).insert i
          ⟨H.generateChecksum (payload.segment i), object.version⟩), ?_, ?_⟩
      · simp only [migrateSegment, hsegments i (.head _), hfree.put, hfree.setChecksum,
          Holdings.setReplicatePieceChecksum, Holdings.writeHashes, if_true]
        rfl
      · intro _
        rw [Holdings.hashes_setHashes_self]
        exact Holdings.getElem?_upsert
    obtain ⟨held', hloop, hrows'⟩ := ih (s := { s with held })
      fun i' hi' => hsegments i' (.tail i hi')
    refine ⟨held', ?_, ?_⟩
    · rw [forSegments, hstep]
      exact hloop
    intro k
    rw [hrows', hrows]
    by_cases hin : k ∈ is
    · simp [hin]
    · by_cases hki : k = i
      · simp [hki]
      · simp [hin, hki]

/-- The GVGs are different in the position of the SP itself: its pieces are sent. -/
theorem checkGVGConflict_sends {j sp : Nat} (hstored : StoredIn H selfSP srcSP gvg object payload a s.held)
    (h : containOnlyOneDifferentElement gvg.secondarySpIds destGvg.secondarySpIds = j)
    (hj : gvg.secondarySpIds[j]? = some selfSP) (hsp : destGvg.secondarySpIds[j]? = some sp) :
    checkGVGConflict gvg destGvg object payload.maxSegmentSize a s =
      (.ok (), ⟨s.held, .doneReplicatePiece sp destGvg.id j ::
        (((range (payload.segmentCount object)).map fun i =>
          replicatePiece sp destGvg.id i j (payload.ecPiece i j)).reverse ++ s.answered)⟩) := by
  have hne : (j : Int) ≠ primarySPRedundancyIndex := by
    rw [primarySPRedundancyIndex]
    omega
  have hbound : j + 1 < object.checksums.length := by
    have hlt := (List.getElem?_eq_some_iff.mp hj).1
    rw [hstored.checksums]
    omega
  have hloop := @forSegments_replicate Digest selfSP object payload a s hfree destGvg.id sp j
    (range (payload.segmentCount object)) ?_ hbound
  · have hcount : segmentPieceCount object.payloadSize payload.maxSegmentSize = payload.segmentCount object := rfl
    simp [checkGVGConflict, h, hne, hfree.spID, hj, hsp, hfree.querySPByID, hcount, hloop,
      doneBucketMigrationReplicatePiece, hfree.signDoneReceiveTask, hfree.doneReplicatePiece]
  · intro i hi
    rw [ObjectInfo.pieceKey, if_pos hstored.isEC]
    exact hstored.pieces j hj i (mem_range.mp hi)

variable [DecidableEq Digest]

variable (hstored : StoredIn H selfSP srcSP gvg object payload a s.held) (hordered : a.getAll.InKeyOrder)
include hstored hordered

theorem handleMigratePieceTask_ok (s' : State Digest) :
    ∃ held, handleMigratePieceTask H object payload.maxSegmentSize primarySPRedundancyIndex a s' =
      (.ok (), { s' with held }) := by
  obtain ⟨held, hloop, hrows⟩ := @forSegments_migrate Digest H selfSP object payload a s' hfree
    (range (payload.segmentCount object)) fun i hi => hstored.segments i (mem_range.mp hi)
  have hall : held.getAllReplicatePieceChecksumOptimized a.getAll object.id primarySPRedundancyIndex
      (payload.segmentCount object) = .ok ((range (payload.segmentCount object)).map fun i =>
        H.generateChecksum (payload.segment i)) := by
    rw [Holdings.getAllReplicatePieceChecksumOptimized, hfree.getAll, hordered.returned_eq, Ordered.inOrder_keys,
      Ordered.first_of_all (f := fun k => ⟨H.generateChecksum (payload.segment k), object.version⟩)]
    · simp
    · intro k hk
      rw [hrows k, if_pos (mem_range.mpr hk)]
  have hcheck : checkMigratedPieces H object (payload.segmentCount object) primarySPRedundancyIndex a held =
      .ok ((range (payload.segmentCount object)).map fun i => H.generateChecksum (payload.segment i)) := by
    have hexpected : checksumFor object.checksums primarySPRedundancyIndex = object.checksums[0]? := rfl
    have hlength : ¬ ((range (payload.segmentCount object)).map fun i =>
        H.generateChecksum (payload.segment i)).length ≠ payload.segmentCount object := by simp
    exact bind_eq_ok.mpr ⟨_, mapError_eq_ok.mpr hall, bind_eq_ok.mpr ⟨(), failIf_eq_ok.mpr hlength,
      bind_eq_ok.mpr ⟨(), failIf_eq_ok.mpr (by simp [hexpected, hstored.integrity]), rfl⟩⟩⟩
  have hcount : segmentPieceCount object.payloadSize payload.maxSegmentSize = payload.segmentCount object := rfl
  simp only [handleMigratePieceTask, hcount, hloop, setMigratePiecesMetadata, hcheck, hfree.setIntegrity]
  exact ⟨_, rfl⟩

/-- Once the GVGs are compared, the rest of the migration succeeds and sends nothing. -/
theorem doObjectMigration_eq {bucketID : Nat} {s' : State Digest} (hbucket : bucketID ≠ 0)
    (hcheck : checkGVGConflict gvg destGvg object payload.maxSegmentSize a s = (.ok (), s')) :
    ∃ held, doObjectMigration H ⟨gvg, destGvg, srcSP⟩ bucketID object gvg a s = (.ok (), { s' with held }) := by
  have hindex : redundancyIndex srcSP gvg = some primarySPRedundancyIndex := by
    have hnone : gvg.secondarySpIds.idxOf? srcSP = none := by simpa using hstored.notSecondary
    simp [redundancyIndex, hnone, hstored.primary]
  obtain ⟨held, hmigrate⟩ := handleMigratePieceTask_ok hfree hstored hordered s'
  refine ⟨held, ?_⟩
  simp [doObjectMigration, hstored.params, hbucket, hcheck, hindex, hmigrate]

end

section
variable [DecidableEq Digest] {bucketID : Nat} {held : Holdings Digest} (hfree : ErrorFree selfSP a)
  (hstored : StoredIn H selfSP srcSP gvg object payload a held) (hordered : a.getAll.InKeyOrder)
  (hbucket : bucketID ≠ 0) (hlen : gvg.secondarySpIds.length = destGvg.secondarySpIds.length)
include hfree hstored hordered hbucket hlen

/-- Only the position of the SP itself is new. -/
theorem delivered_of_self (hself : ∀ j sp : Nat, gvg.secondarySpIds[j]? = some sp →
      (destGvg.secondarySpIds[j]? ≠ some sp ↔ sp = selfSP)) :
    Delivered ⟨gvg, destGvg, srcSP⟩ object payload
      (doObjectMigration H ⟨gvg, destGvg, srcSP⟩ bucketID object gvg a { held }) := by
  have hsame : ∀ k : Nat, gvg.secondarySpIds[k]? ≠ some selfSP →
      gvg.secondarySpIds[k]? = destGvg.secondarySpIds[k]? := by
    intro k hk
    rcases hget : gvg.secondarySpIds[k]? with _ | sp
    · rw [getElem?_eq_none_iff] at hget
      exact (getElem?_eq_none_iff.mpr (hlen ▸ hget)).symm
    · by_cases hkept : destGvg.secondarySpIds[k]? = some sp
      · exact hkept.symm
      · exact absurd (by rw [hget, (hself k sp hget).mp hkept]) hk
  by_cases hmem : selfSP ∈ gvg.secondarySpIds
  · obtain ⟨j, hj⟩ := mem_iff_getElem?.mp hmem
    have hlt : j < gvg.secondarySpIds.length := (List.getElem?_eq_some_iff.mp hj).1
    have hnew := (hself j selfSP hj).mpr rfl
    have hothers : ∀ k ≠ j, gvg.secondarySpIds[k]? = destGvg.secondarySpIds[k]? := by
      intro k hk
      refine hsame k fun hself' => hk ?_
      exact (List.getElem?_inj (List.getElem?_eq_some_iff.mp hself').1 hstored.nodup).mp (hself'.trans hj.symm)
    have hindex := containOnlyOne_one hlen (by rw [hj]; exact hnew.symm) hothers
    obtain ⟨sp, hsp⟩ : ∃ sp, destGvg.secondarySpIds[j]? = some sp :=
      ⟨_, getElem?_eq_getElem (hlen ▸ hlt)⟩
    obtain ⟨_, hresult⟩ := doObjectMigration_eq hfree hstored hordered hbucket
      (checkGVGConflict_sends (s := { held }) hfree hstored hindex hj hsp)
    rw [hresult]
    refine ⟨rfl, ?_⟩
    intro j' _ hj' hnew'
    obtain rfl : j' = j := byContradiction fun hne => hnew' ((hothers j' hne).trans hj')
    rw [hsp] at hj'
    cases hj'
    refine ⟨fun i hi => .tail _ (mem_append_left _ ?_), .head _⟩
    exact mem_reverse.mpr (mem_map_of_mem (mem_range.mpr hi))
  · have heq : gvg.secondarySpIds = destGvg.secondarySpIds :=
      ext_getElem? fun k => hsame k fun hk => hmem (mem_of_getElem? hk)
    have hindex : containOnlyOneDifferentElement gvg.secondarySpIds destGvg.secondarySpIds = -1 := by
      rw [heq]
      simp [containOnlyOneDifferentElement, differentFrom_self]
    obtain ⟨_, hresult⟩ := doObjectMigration_eq hfree hstored hordered hbucket
      (checkGVGConflict_nothing (s := { held }) hindex)
    rw [hresult]
    exact ⟨rfl, fun j sp hj hnew => absurd hj (heq ▸ hnew)⟩

/-- The position of another SP is new. -/
theorem not_delivered_of_other {j sp : Nat} (hj : gvg.secondarySpIds[j]? = some sp) (hother : sp ≠ selfSP)
    (hnew : destGvg.secondarySpIds[j]? ≠ some sp) : ¬ Delivered ⟨gvg, destGvg, srcSP⟩ object payload
      (doObjectMigration H ⟨gvg, destGvg, srcSP⟩ bucketID object gvg a { held }) := by
  have hdiff : gvg.secondarySpIds[j]? ≠ destGvg.secondarySpIds[j]? := by
    rw [hj]
    exact hnew.symm
  by_cases honly : ∀ k ≠ j, gvg.secondarySpIds[k]? = destGvg.secondarySpIds[k]?
  · have herror : checkGVGConflict gvg destGvg object payload.maxSegmentSize a { held } =
        (.error .invalidSecondarySpID, { held }) := by
      have hne : (j : Int) ≠ primarySPRedundancyIndex := by
        rw [primarySPRedundancyIndex]
        omega
      simp [checkGVGConflict, containOnlyOne_one hlen hdiff honly, hne, hfree.spID, hj, hother]
    intro hdelivered
    have hresult := hdelivered.1
    simp [doObjectMigration, hstored.params, hbucket, herror] at hresult
  · obtain ⟨_, hk⟩ := Classical.not_forall.mp honly
    obtain ⟨hkj, hk⟩ := Classical.not_imp.mp hk
    obtain ⟨_, hresult⟩ := doObjectMigration_eq hfree hstored hordered hbucket
      (checkGVGConflict_nothing (s := { held }) (containOnlyOne_two hlen hkj hk hdiff))
    have hlt : j < gvg.secondarySpIds.length := (List.getElem?_eq_some_iff.mp hj).1
    have hsp := getElem?_eq_getElem (hlen ▸ hlt : j < destGvg.secondarySpIds.length)
    -- nothing was sent, and a secondary SP is new
    intro hdelivered
    have hdone := (hdelivered.2 j _ hsp fun heq => hdiff (heq.trans hsp.symm)).2
    rw [hresult] at hdone
    cases hdone

end

end

theorem migration_delivers_to_new_secondaries {Digest : Type} [DecidableEq Digest] (H : Hash Digest)
    (P : Planner) (bucketID srcSP selfSP : Nat) (gvgs : List GlobalVirtualGroup)
    (units : List ExecuteUnit) (u : ExecuteUnit) (object : ObjectInfo Digest) (payload : Payload)
    (a : Answers) (held : Holdings Digest)
    (hunits : generateMigrateBucketUnitsFromMemory P bucketID srcSP selfSP gvgs = .ok units)
    (hu : u ∈ units) (hbucket : bucketID ≠ 0) (hfree : ErrorFree selfSP a)
    (hstored : StoredIn H selfSP srcSP u.srcGVG object payload a held)
    (hordered : a.getAll.InKeyOrder) :
    Delivered ⟨u.srcGVG, u.destGVG, u.srcSP⟩ object payload
        (doObjectMigration H ⟨u.srcGVG, u.destGVG, u.srcSP⟩ bucketID object u.srcGVG a { held }) ↔
      ∀ sp ∈ u.srcGVG.secondarySpIds, P.isExiting sp = some true → sp = selfSP := by
  obtain ⟨hsrc, _, hdest⟩ := unitsFrom_dest hunits hu
  obtain ⟨hlen, hspec⟩ := destSecondarySPIDs_spec hstored.nodup hdest
  rw [hsrc]
  constructor
  · intro hdelivered sp hsp hexiting
    refine byContradiction fun hother => ?_
    obtain ⟨j, hj⟩ := mem_iff_getElem?.mp hsp
    have hnew := (hspec j sp hj).mpr (.inl hexiting)
    exact not_delivered_of_other hfree hstored hordered hbucket hlen.symm hj hother hnew hdelivered
  · intro hexiting
    refine delivered_of_self hfree hstored hordered hbucket hlen.symm fun j sp hj => ?_
    rw [hspec j sp hj]
    exact ⟨fun h => h.elim (hexiting sp (mem_of_getElem? hj)) id, .inr⟩

-- A GVG of SP 1 with SP 2, to which its bucket migrates, and SP 3 as secondary SPs.
section

def srcGVG : GlobalVirtualGroup := ⟨5, 1, 1, [2, 3], 0⟩

/-- SP 4 takes the place of SP 2, and SP 5 that of SP 3 if it is exiting. -/
def planner (exiting : Bool) : Planner where
  isExiting := fun sp => some (exiting && sp == 3)
  otherSPs := fun n => if n = 2 then [4] else [5]
  gvgs := fun _ => [⟨9, 8, 2, [4, if exiting then 5 else 3], 0, 10⟩]
  creates := fun _ => false

/-- The unit that is planned for the GVG. -/
def plannedUnit (exiting : Bool) : ExecuteUnit :=
  ⟨1, srcGVG, 1, 2, .waitForMigrate, 9, 0, ⟨9, 8, 2, [4, if exiting then 5 else 3], 10⟩⟩

/-- An object of one segment. -/
def sampleObject : ObjectInfo Data := ⟨7, 0, 4, true, [[1, 2, 3, 4], [1, 2], [3, 4]]⟩

def samplePayload : Payload := ⟨16, fun _ => [1, 2, 3, 4], fun _ _ => [1, 2]⟩

def sampleAnswers : Answers := { storageParams := some 16, spID := some 2, migratePiece := fun _ => some [1, 2, 3, 4] }

/-- SP 2 has its piece. -/
def pieceHeld : Holdings Data := nothingHeld.putPiece .ok (.ec 7 0 0 0) [1, 2]

theorem sample_errorFree : ErrorFree 2 sampleAnswers :=
  ⟨rfl, fun _ => rfl, fun _ => rfl, fun _ => rfl, fun _ => rfl, rfl, rfl, fun _ => rfl, fun _ => rfl, rfl, rfl⟩

theorem sample_storedIn : StoredIn plainHash 2 1 srcGVG sampleObject samplePayload sampleAnswers pieceHeld where
  nodup := by decide
  primary := rfl
  notSecondary := by decide
  isEC := rfl
  checksums := rfl
  params := rfl
  segments := fun _ _ => rfl
  integrity := by decide
  pieces := by
    intro j hj i hi
    obtain rfl : j = 0 := by
      rcases j with _ | _ | j
      · rfl
      · cases hj
      · cases hj
    obtain rfl : i = 0 := Nat.lt_one_iff.mp hi
    rfl

theorem migration_delivers_to_new_secondaries_sample :
    Delivered ⟨srcGVG, (plannedUnit false).destGVG, 1⟩ sampleObject samplePayload
      (doObjectMigration plainHash ⟨srcGVG, (plannedUnit false).destGVG, 1⟩ 1 sampleObject srcGVG sampleAnswers
        { held := pieceHeld }) :=
  (migration_delivers_to_new_secondaries plainHash (planner false) 1 1 2 [srcGVG] [plannedUnit false]
    (plannedUnit false) sampleObject samplePayload sampleAnswers pieceHeld (by rfl) (.head _) (by decide)
    sample_errorFree sample_storedIn rfl).mpr (by decide)

/-- SP 3 is exiting as well: the migration succeeds, and neither SP 4 nor SP 5 receives anything. -/
theorem new_secondaries_receive_nothing :
    generateMigrateBucketUnitsFromMemory (planner true) 1 1 2 [srcGVG] = .ok [plannedUnit true] ∧
      ¬ Delivered ⟨srcGVG, (plannedUnit true).destGVG, 1⟩ sampleObject samplePayload
        (doObjectMigration plainHash ⟨srcGVG, (plannedUnit true).destGVG, 1⟩ 1 sampleObject srcGVG sampleAnswers
          { held := pieceHeld }) := by
  refine ⟨by rfl, ?_⟩
  intro hdelivered
  obtain ⟨-, hdone⟩ := hdelivered.2 0 4 rfl (by decide)
  have hanswered : (doObjectMigration plainHash ⟨srcGVG, (plannedUnit true).destGVG, 1⟩ 1 sampleObject srcGVG
      sampleAnswers { held := pieceHeld }).2.answered = [] := by rfl
  rw [hanswered] at hdone
  cases hdone

end

end Executor.Migrate

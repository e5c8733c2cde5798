-- SUMMARY: A completed resumable upload has stored the payload.
import MocaSP.Base.Run
import MocaSP.Uploader.Resumable

/-!
# Progress of a resumable upload

The recorded progress always is that of some segments: they are stored under the
object's keys, the row lists their checksums, and all but the last are full. A
request either replays segments of this list or stands at its end; there all of
them are full, so that a new segment goes where its checksum is recorded.

A replayed segment is known by its checksum, so that this rests on the checksum
telling the pieces that were read apart, if they have different lengths.
-/

namespace Uploader

open List Piece Rows Store
open Segments (totalSize Cut AllFull)

variable {Digest : Type}

/-! ## The row of an upload -/

/-- The row that an upload of the object reads and writes. -/
def primaryRow (o : ObjectInfo Digest) (s : Store Digest) : Option (IntegrityMeta Digest) :=
  s.rows o.isUpdating o.id primarySPRedundancyIndex

/-- The progress in a row. -/
def recorded : Option (IntegrityMeta Digest) → List Digest × Nat
  | none => ([], 0)
  | some row => (row.pieceChecksumList, row.objectSize)

@[simp] theorem recorded_some (row : IntegrityMeta Digest) :
    recorded (some row) = (row.pieceChecksumList, row.objectSize) := rfl

section
variable {H : Hash Digest} {task : ResumableUploadObjectTask Digest} {s : Store Digest} {w : Write}

theorem getPieceCheckSumListAndPieceSize_eq {fails : Bool} :
    getPieceCheckSumListAndPieceSize task s fails =
      if fails then .error .fails
      else match primaryRow task.objectInfo s with
        | none => .error .recordNotFound
        | some row => .ok (recorded (some row)) := by
  rw [getPieceCheckSumListAndPieceSize, getShadowObjectIntegrity, getObjectIntegrity,
    Rows.get, Rows.get, primaryRow]
  cases task.objectInfo.isUpdating with
  | true =>
    cases fails with
    | true => rfl
    | false => cases s.rows true task.objectInfo.id primarySPRedundancyIndex <;> rfl
  | false =>
    cases fails with
    | true => rfl
    | false => cases s.rows false task.objectInfo.id primarySPRedundancyIndex <;> rfl

/-- The progress, if the read succeeds. -/
theorem get_eq_ok {fails : Bool} {progress : List Digest × Nat}
    (h : getPieceCheckSumListAndPieceSize task s fails = .ok progress) :
    ∃ row, primaryRow task.objectInfo s = some row ∧ recorded (some row) = progress := by
  rw [getPieceCheckSumListAndPieceSize_eq] at h
  split at h
  · cases h
  split at h
  · cases h
  next row hrow =>
    cases h
    exact ⟨row, hrow, rfl⟩

theorem takeSnapshot_eq_ok {env : ResumableEnv} {snap : Snapshot Digest}
    (hpayload : 0 < task.objectInfo.payloadSize) (h : takeSnapshot env task s = .ok snap) :
    recorded (primaryRow task.objectInfo s) = (snap.checksums, snap.size) := by
  rw [takeSnapshot, if_neg (by omega), getPieceCheckSumListAndPieceSize_eq] at h
  cases hrow : primaryRow task.objectInfo s with
  | none | some =>
    rw [hrow] at h
    cases hfails : env.snapshotFails with
    | true => simp [hfails] at h
    | false =>
      simp only [hfails, Bool.false_eq_true, if_false, Except.ok.injEq] at h
      cases h
      rfl

/-- The version that a new row of the object gets. -/
def ObjectInfo.rowVersion (o : ObjectInfo Digest) : Option Int :=
  if o.isUpdating then some o.version else none

theorem updatePieceCheckSum_eq {data : Data} {dataLength : Nat} :
    updatePieceCheckSum task s H w data dataLength =
      s.onRows task.objectInfo.isUpdating fun rows =>
        rows.append task.objectInfo.id primarySPRedundancyIndex w task.objectInfo.rowVersion
          (H.generateChecksum data) dataLength := by
  rw [updatePieceCheckSum, ObjectInfo.rowVersion]
  cases task.objectInfo.isUpdating <;> rfl

variable {integrityHash : Digest}

theorem updateIntegrityChecksum_eq : updateIntegrityChecksum task s w integrityHash =
      s.onRows task.objectInfo.isUpdating fun rows =>
        rows.updateHash task.objectInfo.id primarySPRedundancyIndex w integrityHash := by
  rw [updateIntegrityChecksum]
  cases task.objectInfo.isUpdating <;> rfl

theorem recorded_appended {version : Option Int} {checksum : Digest} {dataLength : Nat}
    {row : Option (IntegrityMeta Digest)} :
    recorded (some (appended version checksum dataLength row))
      = ((recorded row).1 ++ [checksum], (recorded row).2 + dataLength) := by
  cases row with
  | none => simp [recorded, appended]
  | some => rfl

/-- A segment is recorded, or nothing is; and it is when this succeeds. -/
theorem updatePieceCheckSum_spec {data : Data} {dataLength : Nat} :
    primaryRow task.objectInfo (updatePieceCheckSum task s H w data dataLength).2 =
        some (appended task.objectInfo.rowVersion (H.generateChecksum data) dataLength
          (primaryRow task.objectInfo s)) ∨
      primaryRow task.objectInfo (updatePieceCheckSum task s H w data dataLength).2
        = primaryRow task.objectInfo s ∧ (updatePieceCheckSum task s H w data dataLength).1 ≠ .ok () := by
  simp only [updatePieceCheckSum_eq, primaryRow, onRows, rows_setRows, Rows.append_eq]
  cases w with
  | ok => exact .inl (by simp [write])
  | fails applied =>
    cases applied with
    | true => exact .inl (by simp [write])
    | false => exact .inr ⟨rfl, by simp [write]⟩

/-- The hash is no part of the progress. -/
theorem recorded_updateIntegrityChecksum :
    recorded (primaryRow task.objectInfo (updateIntegrityChecksum task s w integrityHash).2)
      = recorded (primaryRow task.objectInfo s) := by
  have hmap : ∀ row : Option (IntegrityMeta Digest),
      recorded (row.map ({ · with integrityChecksum := some integrityHash })) = recorded row := by
    intro row
    cases row <;> rfl
  simp only [updateIntegrityChecksum_eq, primaryRow, rows_onRows, updateHash]
  cases w with
  | ok => simpa [write] using hmap _
  | fails applied =>
    cases applied with
    | true => simpa [write] using hmap _
    | false => rfl

end

/-! ## The invariant -/

/-- The recorded progress is that of the pieces, which are stored. -/
structure Progress (H : Hash Digest) (o : ObjectInfo Digest) (n : Nat) (s : Store Digest)
    (pieces : List Data) : Prop where
  recorded : recorded (primaryRow o s) = (pieces.map H.generateChecksum, totalSize pieces)
  stored : ∀ i d, pieces[i]? = some d → s.pieces (o.segmentPieceKey i) = some d
  cut : Cut n pieces

/-- Where a request stands at segment `segIdx`, when it found the pieces `old`: it
replays, or it is at the end of full segments. -/
structure Place (n segIdx : Nat) (old pieces : List Data) : Prop where
  le : segIdx ≤ pieces.length
  grown : old.length ≤ pieces.length
  same : segIdx < pieces.length → pieces = old
  full : segIdx = pieces.length → AllFull n pieces

section
variable {H : Hash Digest} {o : ObjectInfo Digest} {n segIdx : Nat} {s : Store Digest}
  {old pieces : List Data} {data : Data}

/-- A write next to the recorded pieces. -/
theorem Progress.putPiece (h : Progress H o n s pieces) (p : Put) :
    Progress H o n (s.putPiece p (o.segmentPieceKey pieces.length) data) pieces := by
  refine ⟨h.recorded, fun i d hi => ?_, h.cut⟩
  have hne : o.segmentPieceKey i ≠ o.segmentPieceKey pieces.length := by
    obtain ⟨_, -⟩ := List.getElem?_eq_some_iff.mp hi
    intro heq
    simp only [ObjectInfo.segmentPieceKey, Peer.PieceKey.segment.injEq] at heq
    omega
  rw [pieces_putPiece_of_ne hne]
  exact h.stored i d hi

/-- The pieces that the row has been extended by are stored. -/
theorem Progress.append (h : Progress H o n s pieces) (hfull : AllFull n pieces)
    (hpos : 0 < data.length) (hfits : data.length ≤ n) {s' : Store Digest}
    (hpieces : s'.pieces = s.pieces) (hdata : s.pieces (o.segmentPieceKey pieces.length) = some data)
    (hrec : Uploader.recorded (primaryRow o s')
      = (pieces.map H.generateChecksum ++ [H.generateChecksum data], totalSize pieces + data.length)) :
    Progress H o n s' (pieces ++ [data]) := by
  refine ⟨by simp [hrec], fun i d hi => ?_, hfull.cut_append (by omega) hpos hfits⟩
  rw [hpieces]
  rcases Nat.lt_trichotomy i pieces.length with hlt | rfl | _
  · exact h.stored i d (by rwa [getElem?_append_left hlt] at hi)
  · rw [getElem?_concat_length] at hi
    cases hi
    exact hdata
  · rw [getElem?_eq_none (by simp; omega)] at hi
    cases hi

section
variable (h : Place n segIdx old pieces) (hcut : Cut n old)
include h hcut

/-- The segment comes after all that is recorded. -/
theorem Place.atEnd (hnot : ¬ segIdx * n < totalSize old) : segIdx = pieces.length := by
  rcases Nat.lt_or_eq_of_le h.le with hlt | heq
  · obtain rfl := h.same hlt
    exact absurd (hcut.lt_length_iff.mp hlt) hnot
  · exact heq

/-- On to the next segment after a replayed one. -/
theorem Place.replay (hlt : segIdx * n < totalSize old)
    (hdata : old[segIdx]? = some data) (hfills : data.length = n) :
    Place n (segIdx + 1) old pieces := by
  have hpieces : segIdx < pieces.length := Nat.lt_of_lt_of_le (hcut.lt_length_iff.mpr hlt) h.grown
  obtain rfl := h.same hpieces
  exact ⟨hpieces, .refl, fun _ => rfl, fun hend => hcut.allFull_of_last hend hdata hfills⟩

end

/-- On to the next segment after a new one. -/
theorem Place.append (h : Place n segIdx old pieces) (hend : segIdx = pieces.length)
    (hfills : data.length = n) : Place n (segIdx + 1) old (pieces ++ [data]) := by
  refine ⟨by simp [hend], by simpa using Nat.le_succ_of_le h.grown, fun hlt => ?_, fun _ d hd => ?_⟩
  · simp [hend] at hlt
  · rcases mem_append.mp hd with hd | hd
    · exact h.full hend d hd
    · rw [mem_singleton.mp hd, hfills]

end

/-! ## A request keeps it -/

/-- The pieces are the object's payload, stored and described by the row. -/
structure StoredWhole (H : Hash Digest) (task : ResumableUploadObjectTask Digest) (s : Store Digest)
    (row : IntegrityMeta Digest) (pieces : List Data) : Prop where
  found : primaryRow task.objectInfo s = some row
  /-- There is a piece for each segment of the object. -/
  segments : ∀ i, i < pieces.length ↔ i * task.maxSegmentSize < task.objectInfo.payloadSize
  stored : ∀ i d, pieces[i]? = some d → s.pieces (task.objectInfo.segmentPieceKey i) = some d
  checksums : row.pieceChecksumList = pieces.map H.generateChecksum
  total : totalSize pieces = task.objectInfo.payloadSize
  full : ∀ d ∈ pieces.dropLast, d.length = task.segmentSize
  size : row.objectSize = task.objectInfo.payloadSize
  integrity : task.isAgentUpload = false →
    task.objectInfo.checksums.head? = some (H.generateIntegrityHash row.pieceChecksumList)

/-- What a request leaves: progress with pieces that were read, and the whole payload if it
completed. -/
def Good (H : Hash Digest) (read : List Data) (task : ResumableUploadObjectTask Digest)
    (out : Exit × Store Digest) : Prop :=
  ∃ pieces, Progress H task.objectInfo task.segmentSize out.2 pieces ∧ pieces ⊆ read ∧
    (task.completed = true → out.1.returned = .ok () → ∃ row, StoredWhole H task out.2 row pieces)

section
variable {H : Hash Digest} {env : ResumableEnv} {task : ResumableUploadObjectTask Digest}
  {s : Store Digest} {read pieces : List Data} {data : Data} {segIdx : Nat}

section
variable (h : Progress H task.objectInfo task.segmentSize s pieces)
include h

theorem Progress.updateIntegrityChecksum
    {w : Write} {integrityHash : Digest} : Progress H task.objectInfo task.segmentSize
      (updateIntegrityChecksum task s w integrityHash).2 pieces := by
  refine ⟨by rw [recorded_updateIntegrityChecksum, h.recorded], fun i d hi => ?_, h.cut⟩
  rw [updateIntegrityChecksum_eq, pieces_onRows]
  exact h.stored i d hi

variable (hread : pieces ⊆ read)
include hread

theorem Progress.good_failed (returned err : UploadErr) : Good H read task (.failed returned err, s) :=
  ⟨pieces, h, hread, nofun⟩

theorem appendSegment_good {next : Store Digest → Exit × Store Digest}
    (hend : segIdx = pieces.length)
    (hfull : AllFull task.segmentSize pieces) (hpos : 0 < data.length)
    (hfits : data.length ≤ task.segmentSize) (hdata : data ∈ read)
    (hnext : ∀ s', Progress H task.objectInfo task.segmentSize s' (pieces ++ [data]) →
      pieces ++ [data] ⊆ read → Good H read task (next s')) :
    Good H read task (appendSegment H env task segIdx data s next) := by
  subst hend
  have hgrown : pieces ++ [data] ⊆ read :=
    append_subset.mpr ⟨hread, cons_subset.mpr ⟨hdata, nil_subset _⟩⟩
  rw [appendSegment]
  split
  · exact (h.putPiece _).good_failed hread _ _
  rename_i hput
  rw [hput]
  have hstored : Progress H task.objectInfo task.segmentSize
      (s.putPiece .ok (task.objectInfo.segmentPieceKey pieces.length) data) pieces := h.putPiece .ok
  dsimp only
  have hpieces : (updatePieceCheckSum task
      (s.putPiece .ok (task.objectInfo.segmentPieceKey pieces.length) data) H
      (env.append pieces.length) data data.length).2.pieces =
      (s.putPiece .ok (task.objectInfo.segmentPieceKey pieces.length) data).pieces := by
    rw [updatePieceCheckSum_eq, pieces_onRows]
  rcases @updatePieceCheckSum_spec _ H task
    (s.putPiece .ok (task.objectInfo.segmentPieceKey pieces.length) data)
    (env.append pieces.length) data data.length with hrow | ⟨hrow, hfail⟩
  · have happended := hstored.append hfull hpos hfits hpieces pieces_putPiece_self
      (by rw [hrow, recorded_appended, hstored.recorded])
    split
    · exact happended.good_failed hgrown _ _
    · exact hnext _ happended hgrown
  · split
    · refine Progress.good_failed ⟨by rw [hrow, hstored.recorded], fun i d hi => ?_, h.cut⟩ hread _ _
      rw [hpieces]
      exact hstored.stored i d hi
    next hok => exact absurd hok hfail

end

/-- What an accepted offset is. -/
theorem validateResumableUploadOffset_ok {fails : Bool}
    (h : validateResumableUploadOffset task s fails = .ok ()) :
    task.resumeOffset ≤ task.objectInfo.payloadSize ∧
      (task.resumeOffset < task.objectInfo.payloadSize → task.resumeOffset % task.segmentSize = 0) ∧
      task.resumeOffset ≤ (recorded (primaryRow task.objectInfo s)).2 := by
  rw [validateResumableUploadOffset, getPieceCheckSumListAndPieceSize_eq] at h
  split at h
  · cases h
  split at h
  · cases h
  refine ⟨by omega, by omega, ?_⟩
  cases fails with
  | true => simp at h
  | false =>
    cases hrow : primaryRow task.objectInfo s with
    | none | some => simpa [hrow, recorded] using h

variable [DecidableEq Digest]

section
variable (hpayload : 0 < task.objectInfo.payloadSize) (h : Progress H task.objectInfo task.segmentSize s pieces)
  (hread : pieces ⊆ read)
include hpayload h hread

theorem completeUpload_good : Good H read task (completeUpload H env task s) := by
  rw [completeUpload]
  split
  · exact h.good_failed hread _ _
  rename_i checksums _ hget
  obtain ⟨row, hrow, hrec⟩ := get_eq_ok hget
  have hprogress := h.recorded
  rw [hrow, hrec, Prod.mk.injEq] at hprogress
  obtain ⟨hchecksums, hsize⟩ := hprogress
  split
  · exact h.good_failed hread _ _
  rename_i hpayloadSize
  dsimp only
  split
  · exact h.good_failed hread _ _
  rename_i hintegrity
  have hset := @Progress.updateIntegrityChecksum _ H task s pieces h env.setHash
    (H.generateIntegrityHash checksums)
  split
  · exact hset.good_failed hread _ _
  · exact hset.good_failed hread _ _
  refine ⟨pieces, hset, hread, fun _ _ => ?_⟩
  have htotal : totalSize pieces = task.objectInfo.payloadSize := by
    rw [← hsize]
    by_contra hne
    exact hpayloadSize ⟨hpayload, hne⟩
  -- the row is there, with the list that was checked
  have hrecset := hset.recorded
  cases hrowset : primaryRow task.objectInfo
      (updateIntegrityChecksum task s env.setHash (H.generateIntegrityHash checksums)).2 with
  | none =>
    rw [hrowset] at hrecset
    have := congrArg Prod.snd hrecset
    simp only [recorded] at this
    omega
  | some row' =>
    rw [hrowset] at hrecset
    have hlist : row'.pieceChecksumList = pieces.map H.generateChecksum := congrArg Prod.fst hrecset
    have hsize' : row'.objectSize = totalSize pieces := congrArg Prod.snd hrecset
    refine ⟨row', hrowset, fun i => ?_, hset.stored, hlist, htotal, h.cut.full, hsize'.trans htotal,
      fun hagent => ?_⟩
    · rw [h.cut.lt_length_iff, htotal, UploadObjectTask.segmentSize, maxSegmentPieceSize]
      split
      · rfl
      -- one segment
      cases i with
      | zero => simp
      | succ =>
        rw [Nat.succ_mul, Nat.succ_mul]
        exact iff_of_false (by omega) (by omega)
    · rw [hlist, ← hchecksums]
      by_contra hne
      exact hintegrity ⟨hagent, hne⟩

theorem endOfStream_good : Good H read task (endOfStream H env task s) := by
  rw [endOfStream]
  split
  · exact completeUpload_good hpayload h hread
  next hcompleted => exact ⟨pieces, h, hread, fun hc => absurd hc hcompleted⟩

end

/-- What passes the check for replays is a segment of the progress found, or it
goes on to be stored. -/
theorem checkReplay_ok {snap : Snapshot Digest} {readSize : Nat} {left : Data}
    (hoffset : task.resumeOffset ≤ task.objectInfo.payloadSize)
    (hpayload : 0 < task.objectInfo.payloadSize) (hdata : 0 < data.length)
    (h : checkReplay H task snap segIdx readSize data = .ok left) :
    task.resumeOffset + readSize ≤ task.objectInfo.payloadSize ∧
      (segIdx * task.segmentSize < snap.size ∧ left = [] ∧
          snap.checksums[segIdx]? = some (H.generateChecksum data) ∨
        ¬ segIdx * task.segmentSize < snap.size ∧ left = data) := by
  have hne : ¬ (task.objectInfo.payloadSize = 0 ∨ data = []) := by
    rintro (_ | rfl)
    · omega
    · simp at hdata
  rw [checkReplay, if_neg hne] at h
  split at h
  · cases h
  rename_i hsize
  rw [remaining, if_pos hoffset] at hsize
  refine ⟨by omega, ?_⟩
  split at h
  next hlt =>
    split at h
    next hmatch =>
      cases h
      exact .inl ⟨hlt, rfl, hmatch⟩
    · cases h
  next hlt =>
    cases h
    exact .inr ⟨hlt, rfl⟩

omit [DecidableEq Digest] in
/-- The index that the offset gives is not cut off. -/
theorem toNat_start (hn : 0 < task.segmentSize)
    (hoffset : task.resumeOffset ≤ task.objectInfo.payloadSize) :
    (UInt32.ofNat (task.resumeOffset / task.segmentSize)).toNat = task.resumeOffset / task.segmentSize :=
  UInt32.toNat_ofNat_of_lt' (UploadObjectTask.lt_of_mul_le hn ((Nat.div_mul_le_self _ _).trans hoffset))

omit [DecidableEq Digest] in
/-- The index after that of a full segment within the payload does not wrap around. -/
theorem toNat_succ_of_full {segIdx : UInt32} {n : Nat} (hn : 0 < task.segmentSize)
    (hbefore : segIdx.toNat * task.segmentSize ≤ n)
    (hafter : n + task.segmentSize ≤ task.objectInfo.payloadSize) :
    (segIdx + 1).toNat = segIdx.toNat + 1 := by
  have hlt : segIdx.toNat + 1 < 2 ^ 32 :=
    UploadObjectTask.lt_of_mul_le hn (by rw [Nat.succ_mul]; omega)
  simpa [UInt32.toNat_add] using hlt

/-- The loop, by induction on what is left of the stream. -/
theorem resumeSegments_good (hlength : H.TellsLengths read)
    (hoffset : task.resumeOffset ≤ task.objectInfo.payloadSize)
    (hpayload : 0 < task.objectInfo.payloadSize) (hn : 0 < task.segmentSize) {old : List Data}
    (hcut : Cut task.segmentSize old) (hold : old ⊆ read) {segIdx : UInt32} {readSize : Nat}
    {reads : Reads UInt8 task.segmentSize} (hreads : reads.segments ⊆ read)
    (h : Progress H task.objectInfo task.segmentSize s pieces) (hread : pieces ⊆ read)
    (hbefore : segIdx.toNat * task.segmentSize ≤ task.resumeOffset + readSize)
    (hplace : task.resumeOffset < task.objectInfo.payloadSize →
      Place task.segmentSize segIdx.toNat old pieces) :
    Good H read task (resumeSegments H env task ⟨old.map H.generateChecksum, totalSize old⟩
      segIdx readSize s reads) := by
  induction reads generalizing segIdx readSize s pieces with
  | last data err fits =>
    cases err with
    | broken =>
      rw [resumeSegments]
      exact h.good_failed hread _ _
    | eof =>
      rw [resumeSegments]
      split
      · exact h.good_failed hread _ _
      · exact endOfStream_good hpayload h hread
      rename_i b data' hcheck
      have hdata : 0 < data.length := by
        cases data with
        | nil => simp [checkReplay] at hcheck
        | cons => simp
      obtain ⟨_, hreplay | ⟨hnot, hleft⟩⟩ := checkReplay_ok hoffset hpayload hdata hcheck
      · exact absurd hreplay.2.1 (cons_ne_nil b data')
      have hlt : task.resumeOffset < task.objectInfo.payloadSize := by omega
      have hend := (hplace hlt).atEnd hcut hnot
      rw [hleft]
      split
      · exact h.good_failed hread _ _
      · have hmem : data ∈ read := by
          cases data with
          | nil => simp at hdata
          | cons => exact hreads (mem_singleton_self _)
        exact appendSegment_good h hread hend ((hplace hlt).full hend) hdata fits hmem
          fun s' h' => endOfStream_good hpayload h'
  | full data fills _ ih =>
    have hdata : 0 < data.length := by omega
    obtain ⟨hmem, hrest⟩ := cons_subset.mp hreads
    rw [resumeSegments]
    split
    · exact h.good_failed hread _ _
    next hcheck =>
      obtain ⟨hwithin, ⟨hlt, -, hmatch⟩ | ⟨-, hleft⟩⟩ := checkReplay_ok hoffset hpayload hdata hcheck
      · have hsucc := toNat_succ_of_full hn hbefore (by omega)
        refine ih hrest h hread (by rw [hsucc, Nat.succ_mul]; omega) fun hplaced => ?_
        rw [getElem?_map, Option.map_eq_some_iff] at hmatch
        obtain ⟨d, hd, heq⟩ := hmatch
        have hlen := hlength d (hold (mem_of_getElem? hd)) data hmem heq
        rw [hsucc]
        exact (hplace hplaced).replay hcut hlt hd (hlen.trans fills)
      · rw [← hleft] at hdata
        simp at hdata
    next b data' hcheck =>
      obtain ⟨hwithin, hreplay | ⟨hnot, hleft⟩⟩ := checkReplay_ok hoffset hpayload hdata hcheck
      · exact absurd hreplay.2.1 (cons_ne_nil b data')
      have hplaced := hplace (by omega)
      have hend := hplaced.atEnd hcut hnot
      have hsucc := toNat_succ_of_full hn hbefore (by omega)
      rw [hleft]
      refine appendSegment_good h hread hend (hplaced.full hend) hdata (Nat.le_of_eq fills) hmem
        fun s' h' hread' => ih hrest h' hread' (by rw [hsucc, Nat.succ_mul]; omega) fun _ => ?_
      rw [hsucc]
      exact hplaced.append hend fills

/-- What a handler leaves: progress, and the whole payload if it completed. -/
def LeavesProgress (H : Hash Digest) (read : List Data) (task : ResumableUploadObjectTask Digest)
    (h : Handled Digest) : Prop :=
  ∃ pieces, Progress H task.objectInfo task.segmentSize h.store pieces ∧ pieces ⊆ read ∧
    (task.completed = true → h.returned = .ok () → ∃ row, StoredWhole H task h.store row pieces)

theorem handleResumableUploadObjectTask_leaves (hlength : H.TellsLengths read)
    (hpayload : 0 < task.objectInfo.payloadSize) {fails : Bool} {stream : Reader UInt8}
    (hvalid : validateResumableUploadOffset task s fails = .ok ())
    (hreads : (stream.reads task.segmentSize).segments ⊆ read)
    (h : Progress H task.objectInfo task.segmentSize s pieces) (hread : pieces ⊆ read) :
    LeavesProgress H read task (handleResumableUploadObjectTask H env task stream s) := by
  have hfailed : ∀ e reported, LeavesProgress H read task ⟨.error e, reported, s⟩ :=
    fun e reported => ⟨pieces, h, hread, nofun⟩
  obtain ⟨hoffset, halign, hle⟩ := validateResumableUploadOffset_ok hvalid
  rw [handleResumableUploadObjectTask]
  split
  · exact hfailed _ _
  split
  · exact hfailed _ _
  split
  · exact hfailed _ _
  rename_i hn
  split
  · exact hfailed _ _
  rename_i snap hsnap
  obtain ⟨_, _⟩ := snap
  have hrec := takeSnapshot_eq_ok hpayload hsnap
  rw [h.recorded, Prod.mk.injEq] at hrec
  obtain ⟨rfl, rfl⟩ := hrec
  rw [h.recorded] at hle
  have hpos := Nat.pos_of_ne_zero hn
  have hstart := toNat_start hpos hoffset
  refine resumeSegments_good hlength hoffset hpayload hpos h.cut hread hreads h hread ?_ fun hlt => ?_
  · rw [hstart]
    exact Nat.div_mul_le_self _ _
  · rw [hstart]
    have hmul : task.resumeOffset / task.segmentSize * task.segmentSize = task.resumeOffset :=
      Nat.div_mul_cancel (Nat.dvd_of_mod_eq_zero (halign hlt))
    refine ⟨?_, .refl, fun _ => rfl, fun hend => h.cut.allFull_of_le (by rw [← hend, hmul]; exact hle)⟩
    have := h.cut.totalSize_le
    exact Nat.div_le_of_le_mul (by rw [Nat.mul_comm]; omega)

end

/-! ## Requests one after the other -/

structure ResumableRequest (Digest : Type) where
  task : ResumableUploadObjectTask Digest
  stream : Reader UInt8
  env : ResumableEnv := {}
  /-- The row is not read when the offset is checked. -/
  rowUnread : Bool := false

/-- A request for the object, whose segments have this size at most; its stream is read in some of
the pieces. -/
def ResumableRequest.Uploads (r : ResumableRequest Digest) (o : ObjectInfo Digest)
    (maxSegmentSize : Nat) (read : List Data) : Prop :=
  r.task.objectInfo = o ∧ r.task.maxSegmentSize = maxSegmentSize ∧
    (r.stream.reads r.task.segmentSize).segments ⊆ read

variable [DecidableEq Digest] {H : Hash Digest} {read : List Data}

/-- An accepted request is handled. -/
def handleRequest (H : Hash Digest) (s : Store Digest) (r : ResumableRequest Digest) :
    Option (Store Digest) :=
  match validateResumableUploadOffset r.task s r.rowUnread with
  | .error _ => none
  | .ok _ => some (handleResumableUploadObjectTask H r.env r.task r.stream s).store

/-- From an object without a row, progress at all times. -/
theorem run_progress (hlength : H.TellsLengths read) {o : ObjectInfo Digest}
    {maxSegmentSize : Nat} {s₀ s : Store Digest} (hpayload : 0 < o.payloadSize)
    (hfresh : primaryRow o s₀ = none)
    (hrun : Run (handleRequest H) (fun _ r => r.Uploads o maxSegmentSize read) s₀ s) :
    ∃ pieces, Progress H o (maxSegmentPieceSize o.payloadSize maxSegmentSize) s pieces ∧
      pieces ⊆ read := by
  induction hrun with
  | start => exact ⟨[], ⟨by simp [hfresh, recorded], by simp, Segments.cut_nil⟩, nil_subset _⟩
  | step _ hr hstep ih =>
    obtain ⟨_, h, hread⟩ := ih
    obtain ⟨rfl, rfl, hreads⟩ := hr
    rw [handleRequest] at hstep
    split at hstep
    · cases hstep
    rename_i hvalid
    cases hstep
    obtain ⟨pieces', h', hread', -⟩ :=
      handleResumableUploadObjectTask_leaves hlength hpayload hvalid hreads h hread
    exact ⟨pieces', h', hread'⟩

/-- **A completed resumable upload stores exactly the payload**, unless the requests read two pieces
of different lengths that have the same checksum. -/
theorem completed_upload_stored (hlength : H.TellsLengths read) {o : ObjectInfo Digest}
    {maxSegmentSize : Nat} {s₀ s : Store Digest} (hpayload : 0 < o.payloadSize)
    (hfresh : primaryRow o s₀ = none)
    (hrun : Run (handleRequest H) (fun _ r => r.Uploads o maxSegmentSize read) s₀ s)
    {r : ResumableRequest Digest} (hr : r.Uploads o maxSegmentSize read)
    (hvalid : validateResumableUploadOffset r.task s r.rowUnread = .ok ())
    (hcompleted : r.task.completed = true)
    (hok : (handleResumableUploadObjectTask H r.env r.task r.stream s).returned = .ok ()) :
    ∃ row pieces, StoredWhole H r.task
      (handleResumableUploadObjectTask H r.env r.task r.stream s).store row pieces := by
  obtain ⟨_, h, hread⟩ := run_progress hlength hpayload hfresh hrun
  obtain ⟨rfl, rfl, hreads⟩ := hr
  obtain ⟨pieces', -, -, hwhole⟩ :=
    handleResumableUploadObjectTask_leaves hlength hpayload hvalid hreads h hread
  obtain ⟨row, hrow⟩ := hwhole hcompleted hok
  exact ⟨row, pieces', hrow⟩

def emptyStore : Store Data where
  pieces := fun _ => none
  integrity := fun _ _ => none
  shadow := fun _ _ => none

/-- Part of the object 1, 2, 3, in segments of two bytes. -/
def partOf (resumeOffset : Nat) (completed : Bool) (data : Data) : ResumableRequest Data where
  task :=
    { objectInfo := { id := 7, version := 0, payloadSize := 3, checksums := [[1, 2, 3]], isUpdating := false }
      maxSegmentSize := 2
      isAgentUpload := false
      checksums_ne_nil := by simp
      countable := by decide
      resumeOffset
      completed }
  stream := [⟨data, none⟩]

/-- A request puts the first segment, and another one replays it and completes the object. -/
theorem completed_upload_stored_sample :
    ∃ row pieces, StoredWhole plainHash (partOf 0 true [1, 2, 3]).task
      (handleResumableUploadObjectTask plainHash {} (partOf 0 true [1, 2, 3]).task [⟨[1, 2, 3], none⟩]
        (handleResumableUploadObjectTask plainHash {} (partOf 0 false [1, 2]).task [⟨[1, 2], none⟩]
          emptyStore).store).store row pieces := by
  have hfirst : Run (handleRequest plainHash)
      (fun _ r => r.Uploads (partOf 0 true [1, 2, 3]).task.objectInfo 2 [[1, 2], [3]]) emptyStore _ :=
    .step .start (a := partOf 0 false [1, 2]) ⟨rfl, rfl, by decide +kernel⟩ (by rw [handleRequest]; rfl)
  exact completed_upload_stored (r := partOf 0 true [1, 2, 3]) (fun _ _ _ _ => congrArg List.length)
    (by decide) rfl hfirst
    ⟨rfl, rfl, by decide +kernel⟩ (by decide +kernel) rfl (by decide +kernel)

end Uploader

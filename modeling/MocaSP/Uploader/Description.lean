-- SUMMARY: When the primary's integrity row describes the stored pieces.
import MocaSP.Uploader.Report

/-!
# The row of an upload

After an upload the primary's row is to describe the pieces stored under the
version that was uploaded. The row is inserted, and an insert keeps a row that
is there; a resumable upload goes on from the row it finds. So what is left of
an earlier upload decides: the upload in one stream needs that there is no row,
or just the one it would insert; the resumable one needs that the row it finds
is the progress of pieces stored under this version.
-/

namespace Uploader
open List Segments Option

open Piece
open Segments (totalSize Cut AllFull)

variable {Digest : Type}

/-- The row is of the version and describes the pieces of the payload. -/
structure Describes (H : Hash Digest) (task : UploadObjectTask Digest) (s : Store Digest)
    (row : IntegrityMeta Digest) (pieces : List Data) : Prop where
  found : primaryRow task.objectInfo s = some row
  version : row.version = task.objectInfo.rowVersion
  stored : ∀ i d, pieces[i]? = some d → s.pieces (task.objectInfo.segmentPieceKey i) = some d
  cut : Cut task.segmentSize pieces
  total : totalSize pieces = task.objectInfo.payloadSize
  checksums : row.pieceChecksumList = pieces.map H.generateChecksum
  integrity : row.integrityChecksum = some (H.generateIntegrityHash row.pieceChecksumList)
  size : row.objectSize = totalSize pieces

def Described (H : Hash Digest) (task : UploadObjectTask Digest) (s : Store Digest) : Prop :=
  ∃ row pieces, Describes H task s row pieces

/-! ## The upload in one stream -/

section
variable {H : Hash Digest} {env : UploadEnv} {task : UploadObjectTask Digest}
  {stream : Reader UInt8} {s : Store Digest} {segIdx : UInt32} {i : Nat} {segments : List Data}

/-- The stream is the payload and passes the checks, and the writes succeed. -/
structure Succeeds (H : Hash Digest) (env : UploadEnv) (task : UploadObjectTask Digest)
    (stream : Reader UInt8) : Prop where
  queued : env.queueRefuses = false
  clean : Clean env 0 (stream.reads task.segmentSize)
  integrity : task.isAgentUpload = true ∨ task.objectInfo.checksums.head? = some
    (H.generateIntegrityHash ((stream.reads task.segmentSize).segments.map H.generateChecksum))
  size : totalSize (stream.reads task.segmentSize).segments = task.objectInfo.payloadSize
  setRow : env.setRow = .ok
  progress : env.progress = .ok

/-- The row that the stream calls for. -/
def streamRow (H : Hash Digest) (task : UploadObjectTask Digest) (stream : Reader UInt8) :
    IntegrityMeta Digest :=
  uploadRow H task ((stream.reads task.segmentSize).segments.map H.generateChecksum)
    task.objectInfo.payloadSize

/-- The insert at the end of an upload. -/
theorem setRow_eq {row : IntegrityMeta Digest} {w : Write} : (if task.objectInfo.isUpdating then
        s.setShadowObjectIntegrity w task.objectInfo.id primarySPRedundancyIndex row
      else s.setObjectIntegrity w task.objectInfo.id primarySPRedundancyIndex row) =
      s.onRows task.objectInfo.isUpdating fun rows =>
        rows.insert task.objectInfo.id primarySPRedundancyIndex w row := by
  cases task.objectInfo.isUpdating <;> rfl

theorem rows_putSegments {shadow : Bool} :
    (putSegments task segIdx segments s).rows shadow = s.rows shadow := by
  induction segments generalizing segIdx s with
  | nil => rfl
  | cons _ _ ih =>
    rw [putSegments, ih]
    rfl

/-- The index does not wrap around before the last of the segments. -/
theorem toNat_succ_of_cons {data : Data} (hcount : segIdx.toNat + (data :: segments).length < 2 ^ 32) :
    (segIdx + 1).toNat = segIdx.toNat + 1 := by
  simp only [length_cons] at hcount
  simp only [UInt32.toNat_add, UInt32.reduceToNat]
  omega

theorem pieces_putSegments_of_lt (hcount : segIdx.toNat + segments.length < 2 ^ 32)
    (hi : i < segIdx.toNat) :
    (putSegments task segIdx segments s).pieces (task.objectInfo.segmentPieceKey i)
      = s.pieces (task.objectInfo.segmentPieceKey i) := by
  induction segments generalizing segIdx s with
  | nil => rfl
  | cons _ _ ih =>
    have hsucc := toNat_succ_of_cons hcount
    rw [length_cons] at hcount
    rw [putSegments, ih (by omega) (by omega), Store.pieces_putPiece_of_ne]
    simp only [ObjectInfo.segmentPieceKey, ne_eq, Peer.PieceKey.segment.injEq]
    omega

theorem pieces_putSegments {d : Data} (hcount : segIdx.toNat + segments.length < 2 ^ 32)
    (hi : segments[i]? = some d) :
    (putSegments task segIdx segments s).pieces (task.objectInfo.segmentPieceKey (segIdx.toNat + i))
      = some d := by
  induction segments generalizing segIdx i s with
  | nil => simp at hi
  | cons _ rest ih =>
    have hsucc := toNat_succ_of_cons hcount
    rw [length_cons] at hcount
    rw [putSegments]
    cases i with
    | zero =>
      rw [Nat.add_zero, pieces_putSegments_of_lt (by omega) (by omega), Store.pieces_putPiece_self]
      simpa using hi
    | succ i =>
      rw [Nat.add_comm i 1, ← Nat.add_assoc, ← hsucc]
      exact ih (by omega) (by simpa using hi)

variable [DecidableEq Digest]

variable {checksums : List Digest}

/-- When the final checks pass and the writes succeed, the row is inserted. -/
theorem finishUpload_eq {readSize : Nat}
    (hintegrity : task.isAgentUpload = true ∨
      task.objectInfo.checksums.head? = some (H.generateIntegrityHash checksums))
    (hsize : readSize = task.objectInfo.payloadSize) (hset : env.setRow = .ok)
    (hprogress : env.progress = .ok) :
    finishUpload H env task checksums readSize s = (⟨.ok (), none⟩,
      (s.onRows task.objectInfo.isUpdating fun rows =>
        rows.insert task.objectInfo.id primarySPRedundancyIndex .ok
          (uploadRow H task checksums readSize)).2) := by
  have hmatch : ¬ (task.isAgentUpload = false ∧
      task.objectInfo.checksums.head? ≠ some (H.generateIntegrityHash checksums)) := by
    rintro ⟨hagent, hne⟩
    rcases hintegrity with h | h
    · simp [hagent] at h
    · exact hne h
  rw [finishUpload, if_neg hmatch, if_neg (not_not.mpr hsize)]
  simp only [setRow_eq, hset, hprogress]
  rfl

theorem finishUpload_ok {readSize : Nat}
    (h : (finishUpload H env task checksums readSize s).1.returned = .ok ()) :
    (task.isAgentUpload = true ∨
        task.objectInfo.checksums.head? = some (H.generateIntegrityHash checksums)) ∧
      readSize = task.objectInfo.payloadSize ∧ env.setRow = .ok ∧ env.progress = .ok := by
  rw [finishUpload] at h
  split at h
  · cases h
  rename_i hmatch
  split at h
  · cases h
  rename_i hsize
  simp only [setRow_eq] at h
  split at h
  · cases h
  · cases h
  rename_i hset hprogress
  refine ⟨?_, not_not.mp hsize, ?_, hprogress⟩
  · by_contra hno
    exact hmatch ⟨by simpa using fun h => hno (.inl h), fun h => hno (.inr h)⟩
  cases hw : env.setRow with
  | ok => rfl
  | fails applied =>
    rw [hw] at hset
    cases applied <;> simp [Store.onRows, Rows.insert, Rows.write] at hset

/-- What a successful upload leaves. -/
theorem handleUploadObjectTask_ok_iff :
    (handleUploadObjectTask H env task stream s).returned = .ok () ↔ Succeeds H env task stream := by
  rw [handleUploadObjectTask]
  split
  next hqueue => exact iff_of_false (fun h => by cases h) fun h => by simp [h.queued] at hqueue
  rename_i hqueue
  by_cases hclean : Clean env 0 (stream.reads task.segmentSize)
  · dsimp only
    rw [uploadSegments_clean hclean, nil_append, Nat.zero_add]
    constructor
    · intro h
      obtain ⟨hintegrity, hsize, hset, hprogress⟩ := finishUpload_ok h
      exact ⟨by simpa using hqueue, hclean, hintegrity, hsize, hset, hprogress⟩
    · intro h
      rw [finishUpload_eq h.integrity h.size h.setRow h.progress]
  · obtain ⟨returned, _, _, hout⟩ := @uploadSegments_broken _ _ H env task _ 0 [] 0 s _ hclean
    rw [hout]
    exact iff_of_false (fun h => by cases h) fun h => hclean h.clean

theorem Succeeds.store (h : Succeeds H env task stream) :
    (handleUploadObjectTask H env task stream s).store =
      ((putSegments task 0 (stream.reads task.segmentSize).segments s).onRows
        task.objectInfo.isUpdating fun rows =>
          rows.insert task.objectInfo.id primarySPRedundancyIndex .ok (streamRow H task stream)).2 := by
  rw [handleUploadObjectTask, if_neg (by simp [h.queued])]
  rw [uploadSegments_clean h.clean, nil_append, Nat.zero_add,
    finishUpload_eq h.integrity h.size h.setRow h.progress, h.size]
  rfl

section
variable (h : Succeeds H env task stream)
include h

namespace Succeeds

omit [DecidableEq Digest] in
theorem segmentSize_pos : 0 < task.segmentSize := by
  refine Nat.pos_of_ne_zero fun hzero => ?_
  -- a payload of no size cannot be read
  have hbroken : (stream.reads task.segmentSize).ending = .broken := by
    rw [Reader.reads, if_pos hzero]
    rfl
  have heof := h.clean.1
  rw [hbroken] at heof
  cases heof

omit [DecidableEq Digest] in
theorem cut : Cut task.segmentSize (stream.reads task.segmentSize).segments :=
  Reads.segments_cut h.segmentSize_pos _

omit [DecidableEq Digest] in
theorem count : (0 : UInt32).toNat + (stream.reads task.segmentSize).segments.length < 2 ^ 32 := by
  rw [UInt32.toNat_zero, Nat.zero_add]
  by_contra hge
  have hlt := h.cut.lt_length_iff.mp (Nat.lt_of_succ_le (Nat.not_lt.mp hge))
  rw [h.size] at hlt
  exact absurd (UploadObjectTask.payloadSize_le h.segmentSize_pos) (Nat.not_le.mpr hlt)

/-- What a successful upload stores. -/
theorem stored {d : Data} (hi : (stream.reads task.segmentSize).segments[i]? = some d) :
    (handleUploadObjectTask H env task stream s).store.pieces (task.objectInfo.segmentPieceKey i)
      = some d := by
  rw [h.store, Store.pieces_onRows]
  have hstored := @pieces_putSegments _ task s 0 i _ d h.count hi
  rwa [UInt32.toNat_zero, Nat.zero_add] at hstored

/-- The row after a successful upload: the old one, if there is one. -/
theorem row : primaryRow task.objectInfo (handleUploadObjectTask H env task stream s).store
      = some ((primaryRow task.objectInfo s).getD (streamRow H task stream)) := by
  rw [h.store, primaryRow, Store.rows_onRows, rows_putSegments, Rows.insert]
  exact Rows.set_self

/-- No row but the one that the stream calls for describes what is stored. -/
theorem row_eq
    (hdescribed : Described H task (handleUploadObjectTask H env task stream s).store) :
    primaryRow task.objectInfo (handleUploadObjectTask H env task stream s).store
      = some (streamRow H task stream) := by
  obtain ⟨row, pieces, hd⟩ := hdescribed
  have hpieces : pieces = (stream.reads task.segmentSize).segments := by
    have hlen := hd.cut.length_eq h.cut (hd.total.trans h.size.symm)
    refine ext_getElem? fun i => ?_
    cases hi : pieces[i]? with
    | none =>
      rw [getElem?_eq_none_iff] at hi
      rw [getElem?_eq_none (by omega)]
    | some d =>
      have hlt : i < (stream.reads task.segmentSize).segments.length :=
        hlen ▸ (List.getElem?_eq_some_iff.mp hi).1
      have hstored := h.stored (s := s) (getElem?_eq_getElem hlt)
      rw [hd.stored i d hi] at hstored
      rw [getElem?_eq_getElem hlt, hstored]
  rw [hd.found, some.injEq]
  have hversion := hd.version
  have hchecksums := hd.checksums
  have hintegrity := hd.integrity
  have hsize := hd.size.trans hd.total
  rw [hpieces] at hchecksums
  rw [hchecksums] at hintegrity
  cases row
  cases hversion
  cases hchecksums
  cases hintegrity
  cases hsize
  rfl

end Succeeds

end

theorem upload_described_iff : ((handleUploadObjectTask H env task stream s).returned = .ok () →
        Described H task (handleUploadObjectTask H env task stream s).store) ↔
      (Succeeds H env task stream →
        ∀ row, primaryRow task.objectInfo s = some row → row = streamRow H task stream) := by
  rw [handleUploadObjectTask_ok_iff]
  refine forall_congr' fun h => ?_
  constructor
  · intro hdescribed row hrow
    have := h.row_eq hdescribed
    rw [h.row, hrow] at this
    exact some.inj this
  · intro hleft
    refine ⟨streamRow H task stream, (stream.reads task.segmentSize).segments,
      { found := ?_
        version := rfl
        stored := fun _ _ hi => h.stored hi
        cut := h.cut
        total := h.size
        checksums := rfl
        integrity := rfl
        size := h.size.symm }⟩
    rw [h.row]
    cases hrow : primaryRow task.objectInfo s with
    | none => rfl
    | some row => rw [hleft row hrow, getD_some]

end

/-! ## Resumable uploads -/

section
variable {H : Hash Digest} {task : ResumableUploadObjectTask Digest} {s₀ s : Store Digest}
  {first : Nat} {new : List Data}

/-- A row of the uploaded version, if there is one. -/
def VersionOk (o : ObjectInfo Digest) (row : Option (IntegrityMeta Digest)) : Prop :=
  ∀ r, row = some r → r.version = o.rowVersion

/-- What a request has done to the stores `s₀`: it has put `new` from segment
`first` on, and recorded it. -/
structure Trace (H : Hash Digest) (o : ObjectInfo Digest) (s₀ : Store Digest) (first : Nat)
    (new : List Data) (s : Store Digest) : Prop where
  checksums : (recorded (primaryRow o s)).1 = (recorded (primaryRow o s₀)).1 ++ new.map H.generateChecksum
  size : (recorded (primaryRow o s)).2 = (recorded (primaryRow o s₀)).2 + totalSize new
  version : VersionOk o (primaryRow o s) ↔ VersionOk o (primaryRow o s₀)
  pieces : ∀ i, s.pieces (o.segmentPieceKey i) =
    (if first ≤ i then new[i - first]? else none).or (s₀.pieces (o.segmentPieceKey i))

/-- Where new segments go: after what was recorded, and within the payload. -/
structure Fits (task : ResumableUploadObjectTask Digest) (s₀ : Store Digest) (first : Nat)
    (new : List Data) : Prop where
  after : (recorded (primaryRow task.objectInfo s₀)).2 ≤ first * task.segmentSize
  within : first * task.segmentSize + totalSize new ≤ task.objectInfo.payloadSize
  cut : Cut task.segmentSize new

theorem trace_nil : Trace H task.objectInfo s first [] s := by
  refine ⟨by simp, by simp, Iff.rfl, fun i => ?_⟩
  split <;> simp

variable {o : ObjectInfo Digest}

theorem versionOk_some {row : IntegrityMeta Digest} :
    VersionOk o (some row) ↔ row.version = o.rowVersion := by
  simp [VersionOk]

/-- One segment more. -/
theorem Trace.append {data : Data} {s' : Store Digest} (h : Trace H task.objectInfo s₀ first new s)
    (hrow : primaryRow task.objectInfo s' = some (Rows.appended task.objectInfo.rowVersion
      (H.generateChecksum data) data.length (primaryRow task.objectInfo s)))
    (hpieces : s'.pieces =
      (s.putPiece .ok (task.objectInfo.segmentPieceKey (first + new.length)) data).pieces) :
    Trace H task.objectInfo s₀ first (new ++ [data]) s' := by
  refine ⟨?_, ?_, ?_, fun i => ?_⟩
  · rw [hrow, recorded_appended, h.checksums]
    simp
  · rw [hrow, recorded_appended, h.size]
    simp [Nat.add_assoc]
  · -- a new row is of the version, and a row that is there keeps its own
    rw [← h.version, hrow, versionOk_some]
    cases primaryRow task.objectInfo s with
    | none => exact iff_of_true rfl nofun
    | some =>
      rw [versionOk_some]
      rfl
  rw [hpieces]
  by_cases hi : i = first + new.length
  · subst hi
    rw [Store.pieces_putPiece_self, if_pos (Nat.le_add_right _ _), Nat.add_sub_cancel_left,
      getElem?_concat_length]
    rfl
  · rw [Store.pieces_putPiece_of_ne, h.pieces i]
    · split
      next =>
        rcases Nat.lt_or_gt_of_ne hi with _ | _
        · rw [getElem?_append_left (by omega)]
        · rw [getElem?_eq_none (by omega), getElem?_eq_none (by simp; omega)]
      · rfl
    · simp only [ObjectInfo.segmentPieceKey, ne_eq, Peer.PieceKey.segment.injEq]
      omega

/-- Where the loop is. -/
structure Position (task : ResumableUploadObjectTask Digest) (s₀ : Store Digest) (first : Nat)
    (new : List Data) (segIdx readSize : Nat) : Prop where
  read : segIdx * task.segmentSize ≤ task.resumeOffset + readSize
  /-- All that was put is full and lies right before the segment. -/
  put : new = [] ∨ segIdx = first + new.length ∧ AllFull task.segmentSize new ∧
    (recorded (primaryRow task.objectInfo s₀)).2 ≤ first * task.segmentSize ∧
    segIdx * task.segmentSize ≤ task.objectInfo.payloadSize

variable {segIdx readSize : Nat} {data : Data}

/-- A segment that is not replayed is the next one to be put. -/
theorem Position.next (h : Position task s₀ first new segIdx readSize)
    (ht : Trace H task.objectInfo s₀ first new s)
    (hnot : ¬ segIdx * task.segmentSize < (recorded (primaryRow task.objectInfo s₀)).2) :
    ∃ first, Trace H task.objectInfo s₀ first new s ∧ segIdx = first + new.length ∧
      AllFull task.segmentSize new ∧
      (recorded (primaryRow task.objectInfo s₀)).2 ≤ first * task.segmentSize := by
  rcases h.put with rfl | ⟨hidx, hfull, hafter, -⟩
  · refine ⟨segIdx, ⟨ht.checksums, ht.size, ht.version, fun i => ?_⟩, rfl, by simp [AllFull], by omega⟩
    rw [ht.pieces i]
    simp
  · exact ⟨first, ht, hidx, hfull, hafter⟩

/-- The total of the segments before the loop's place. -/
theorem mul_segmentSize_eq {n : Nat} (hidx : segIdx = first + new.length) (hfull : AllFull n new) :
    segIdx * n = first * n + totalSize new := by
  rw [hidx, Nat.add_mul, hfull.totalSize]

theorem Position.fits (h : Position task s₀ first new segIdx readSize) (hn : 0 < task.segmentSize) :
    new = [] ∨ Fits task s₀ first new := by
  refine h.put.imp_right ?_
  rintro ⟨hidx, hfull, hafter, _⟩
  exact ⟨hafter, by rwa [← mul_segmentSize_eq hidx hfull], hfull.cut hn⟩

section
variable [DecidableEq Digest] {env : ResumableEnv}

omit [DecidableEq Digest] in
theorem appendSegment_ok {next : Store Digest → Exit × Store Digest}
    (h : (appendSegment H env task segIdx data s next).1.returned = .ok ()) :
    ∃ s', primaryRow task.objectInfo s' = some (Rows.appended task.objectInfo.rowVersion
        (H.generateChecksum data) data.length (primaryRow task.objectInfo s)) ∧
      s'.pieces = (s.putPiece .ok (task.objectInfo.segmentPieceKey segIdx) data).pieces ∧
      appendSegment H env task segIdx data s next = next s' := by
  cases hput : env.put segIdx with
  | fails => simp [appendSegment, hput, Exit.failed] at h
  | ok =>
    have hspec := @updatePieceCheckSum_spec _ H task
      (s.putPiece .ok (task.objectInfo.segmentPieceKey segIdx) data) (env.append segIdx) data data.length
    have hpieces : (updatePieceCheckSum task
        (s.putPiece .ok (task.objectInfo.segmentPieceKey segIdx) data) H (env.append segIdx) data
        data.length).2.pieces = (s.putPiece .ok (task.objectInfo.segmentPieceKey segIdx) data).pieces := by
      rw [updatePieceCheckSum_eq, Store.pieces_onRows]
    rcases hrec : updatePieceCheckSum task (s.putPiece .ok (task.objectInfo.segmentPieceKey segIdx) data)
      H (env.append segIdx) data data.length with ⟨_ | _, s₁⟩
    · simp [appendSegment, hput, hrec, Exit.failed] at h
    rw [hrec] at hspec hpieces
    obtain hrow | ⟨-, hfail⟩ := hspec
    · exact ⟨s₁, hrow, hpieces, by simp only [appendSegment, hput, hrec]⟩
    · exact absurd rfl hfail

theorem resumeSegments_trace (hoffset : task.resumeOffset ≤ task.objectInfo.payloadSize)
    (hpayload : 0 < task.objectInfo.payloadSize) (hn : 0 < task.segmentSize)
    {snap : Snapshot Digest} (hsnap : snap.size = (recorded (primaryRow task.objectInfo s₀)).2)
    {segIdx : UInt32} {reads : Reads UInt8 task.segmentSize} (ht : Trace H task.objectInfo s₀ first new s)
    (hpos : Position task s₀ first new segIdx.toNat readSize)
    (hok : (resumeSegments H env task snap segIdx readSize s reads).1.returned = .ok ()) :
    ∃ first new s', Trace H task.objectInfo s₀ first new s' ∧ (new = [] ∨ Fits task s₀ first new) ∧
      resumeSegments H env task snap segIdx readSize s reads = endOfStream H env task s' := by
  induction reads generalizing segIdx readSize s first new with
  | last data err fits =>
    cases err with
    | broken =>
      rw [resumeSegments] at hok
      cases hok
    | eof =>
      rw [resumeSegments] at hok ⊢
      split at hok
      · cases hok
      · exact ⟨first, new, s, ht, hpos.fits hn, rfl⟩
      rename_i b data' hcheck
      have hdata : 0 < data.length := by
        cases data with
        | nil => simp [checkReplay] at hcheck
        | cons => simp
      obtain ⟨_, hreplay | ⟨hnot, hleft⟩⟩ := checkReplay_ok hoffset hpayload hdata hcheck
      · exact absurd hreplay.2.1 (cons_ne_nil b data')
      rw [hsnap] at hnot
      split at hok
      · cases hok
      rename_i hpartial
      rw [if_neg hpartial, hleft] at *
      obtain ⟨first, ht, hidx, hfull, hafter⟩ := hpos.next ht hnot
      obtain ⟨s', hrow, hpieces, heq⟩ := appendSegment_ok hok
      rw [hidx] at hpieces
      refine ⟨first, new ++ [data], s', ht.append hrow hpieces, .inr ⟨hafter, ?_, ?_⟩, heq⟩
      · have := hpos.read
        rw [mul_segmentSize_eq hidx hfull] at this
        simp only [totalSize_append, totalSize_cons, totalSize_nil]
        omega
      · exact hfull.cut_append hn hdata fits
  | full data fills _ ih =>
    have hdata : 0 < data.length := by omega
    have hmul : (segIdx.toNat + 1) * task.segmentSize = segIdx.toNat * task.segmentSize + data.length := by
      rw [Nat.succ_mul, fills]
    have hbefore := hpos.read
    rw [resumeSegments] at hok ⊢
    split at hok
    · cases hok
    next hcheck =>
      -- replayed: nothing was put yet
      obtain ⟨hwithin, hleft⟩ := checkReplay_ok hoffset hpayload hdata hcheck
      have hsucc := toNat_succ_of_full hn hbefore (by omega)
      refine ih ht ⟨by rw [hsucc]; omega, .inl ?_⟩ hok
      obtain ⟨_, -, -⟩ | ⟨-, hleft⟩ := hleft
      · rcases hpos.put with hnil | ⟨hidx, -, hafter, -⟩
        · exact hnil
        · have : first * task.segmentSize ≤ segIdx.toNat * task.segmentSize :=
            Nat.mul_le_mul_right _ (by omega)
          omega
      · rw [← hleft] at hdata
        simp at hdata
    next b data' hcheck =>
      obtain ⟨_, hreplay | ⟨hnot, hleft⟩⟩ := checkReplay_ok hoffset hpayload hdata hcheck
      · exact absurd hreplay.2.1 (cons_ne_nil b data')
      rw [hsnap] at hnot
      rw [hleft] at hok ⊢
      obtain ⟨_, ht, hidx, hfull, hafter⟩ := hpos.next ht hnot
      obtain ⟨_, hrow, hpieces, heq⟩ := appendSegment_ok hok
      rw [heq] at hok ⊢
      rw [hidx] at hpieces
      have hsucc := toNat_succ_of_full hn hbefore (by omega)
      have hfull' : AllFull task.segmentSize (new ++ [data]) := by
        intro d hd
        rcases mem_append.mp hd with hd | hd
        · exact hfull d hd
        · rw [mem_singleton.mp hd, fills]
      exact ih (ht.append hrow hpieces)
        ⟨by rw [hsucc]; omega, .inr ⟨by simp [hsucc, hidx, Nat.add_assoc], hfull', hafter,
          by rw [hsucc]; omega⟩⟩ hok

/-- A completed request has found the whole payload recorded, and sets the hash. -/
theorem completeUpload_ok (hpayload : 0 < task.objectInfo.payloadSize)
    (h : (completeUpload H env task s).1.returned = .ok ()) :
    ∃ row, primaryRow task.objectInfo s = some row ∧ row.objectSize = task.objectInfo.payloadSize ∧
      (completeUpload H env task s).2.pieces = s.pieces ∧
      primaryRow task.objectInfo (completeUpload H env task s).2 = some { row with
        integrityChecksum := some (H.generateIntegrityHash row.pieceChecksumList) } := by
  rw [completeUpload] at h ⊢
  split at h
  · cases h
  rename_i hget
  obtain ⟨row, hrow, ⟨⟩⟩ := get_eq_ok hget
  split at h
  · cases h
  rename_i hsize
  rw [if_neg hsize]
  dsimp only at h ⊢
  split at h
  · cases h
  rename_i hmatch
  rw [if_neg hmatch]
  refine ⟨row, hrow, by_contra fun hne => hsize ⟨hpayload, hne⟩, ?_⟩
  rw [primaryRow] at hrow
  split at h
  · cases h
  · cases h
  rename_i hset _
  have hset' : env.setHash = .ok := by
    cases hw : env.setHash with
    | ok => rfl
    | fails applied =>
      rw [hw, updateIntegrityChecksum_eq] at hset
      cases applied <;> simp [Store.onRows, Rows.updateHash, Rows.write] at hset
  refine ⟨by rw [updateIntegrityChecksum_eq, Store.pieces_onRows], ?_⟩
  rw [primaryRow, updateIntegrityChecksum_eq, Store.rows_onRows, Rows.updateHash, hrow, hset']
  exact Rows.set_self

end

/-- The progress that the request finds is that of pieces stored under this version. -/
def FindsProgress (H : Hash Digest) (task : ResumableUploadObjectTask Digest) (s : Store Digest) : Prop :=
  VersionOk task.objectInfo (primaryRow task.objectInfo s) ∧
    ∃ pieces, Progress H task.objectInfo task.segmentSize s pieces

section
variable {s' : Store Digest} {row : IntegrityMeta Digest}

/-- The first new segment comes right after what was recorded. -/
theorem Fits.start (h : Fits task s₀ first new) (ht : Trace H task.objectInfo s₀ first new s)
    (hrow : primaryRow task.objectInfo s = some row)
    (hsize : row.objectSize = task.objectInfo.payloadSize) :
    (recorded (primaryRow task.objectInfo s₀)).2 = first * task.segmentSize := by
  have htotal := ht.size
  rw [hrow, recorded_some] at htotal
  have hafter := h.after
  have hwithin := h.within
  omega

section
variable (hn : 0 < task.segmentSize) (ht : Trace H task.objectInfo s₀ first new s)
  (hfits : new = [] ∨ Fits task s₀ first new) (hrow : primaryRow task.objectInfo s = some row)
  (hsize : row.objectSize = task.objectInfo.payloadSize) (hpieces : s'.pieces = s.pieces)
include hn ht hfits hrow hsize hpieces

theorem described_of_findsProgress (hrow' : primaryRow task.objectInfo s' = some { row with
      integrityChecksum := some (H.generateIntegrityHash row.pieceChecksumList) })
    (hfinds : FindsProgress H task s₀) : Described H task.toUploadObjectTask s' := by
  obtain ⟨hversion, old, hold⟩ := hfinds
  have hrec := ht.checksums
  have htotal := ht.size
  rw [hrow, hold.recorded] at hrec htotal
  have hrowversion : row.version = task.objectInfo.rowVersion := by
    rw [← versionOk_some, ← hrow]
    exact ht.version.mpr hversion
  -- the new segments begin where the old ones, which are full, end
  have hplace : new = [] ∨ first = old.length ∧ AllFull task.segmentSize old ∧
      Cut task.segmentSize new := by
    refine hfits.imp_right fun h => ?_
    have hstart := h.start ht hrow hsize
    rw [hold.recorded] at hstart
    have hlen := hold.cut.length_of_totalSize hn hstart
    exact ⟨hlen.symm, hold.cut.allFull_of_le (by rw [hlen]; exact Nat.le_of_eq hstart.symm), h.cut⟩
  refine ⟨_, old ++ new, hrow', hrowversion, fun i d hi => ?_, ?_, ?_, ?_, rfl, ?_⟩
  · rw [hpieces, ht.pieces i]
    rcases hplace with rfl | ⟨rfl, -, -⟩
    · simpa using hold.stored i d (by simpa using hi)
    by_cases hlt : i < old.length
    · rw [if_neg (by omega), none_or]
      exact hold.stored i d (by rwa [getElem?_append_left hlt] at hi)
    · rw [if_pos (by omega), ← getElem?_append_right (by omega), hi]
      rfl
  · rcases hplace with rfl | ⟨-, hfull, hcut⟩
    · simpa using hold.cut
    · exact hfull.append_cut hn hcut
  · rw [totalSize_append, ← htotal]
    exact hsize
  · rw [map_append]
    exact hrec
  · rw [totalSize_append]
    exact htotal

theorem findsProgress_of_described (hrow' : primaryRow task.objectInfo s' = some { row with
      integrityChecksum := some (H.generateIntegrityHash row.pieceChecksumList) })
    (hdescribed : Described H task.toUploadObjectTask s') : FindsProgress H task s₀ := by
  obtain ⟨_, pieces, hd⟩ := hdescribed
  obtain rfl := some.inj (hrow'.symm.trans hd.found)
  have hrec := ht.checksums
  have htotal := ht.size
  rw [hrow, recorded_some] at hrec htotal
  have hlist : row.pieceChecksumList = pieces.map H.generateChecksum := hd.checksums
  rw [hlist] at hrec
  have hversion : VersionOk task.objectInfo (primaryRow task.objectInfo s₀) := by
    rw [← ht.version, hrow, versionOk_some]
    exact hd.version
  have hstored := hd.stored
  rw [hpieces] at hstored
  by_cases hnew : new = []
  · subst hnew
    refine ⟨hversion, pieces, Prod.ext ?_ ?_, fun i d hi => ?_, hd.cut⟩
    · simpa using hrec.symm
    · rw [← hd.size]
      simpa using htotal.symm
    · have := hstored i d hi
      rw [ht.pieces i] at this
      simpa using this
  · have hfits := hfits.resolve_left hnew
    have hstart := hfits.start ht hrow hsize
    -- there are as many pieces as segments before the new ones, and the new ones
    have hcount : pieces.length = first + new.length := by
      refine hd.cut.length_of_totalSize_add hfits.cut hnew ?_
      rw [← hd.size, ← hstart]
      exact htotal
    have hpos : 0 < new.length := length_pos_of_ne_nil hnew
    have hfull : AllFull task.segmentSize (pieces.take first) := hd.cut.allFull_take (by omega)
    have hlen : (pieces.take first).length = first := by
      rw [length_take]
      omega
    refine ⟨hversion, pieces.take first, Prod.ext ?_ ?_, fun i d hi => ?_, hfull.cut hn⟩
    · have holdlen : (recorded (primaryRow task.objectInfo s₀)).1.length = first := by
        have := congrArg length hrec
        simp only [length_map, length_append] at this
        omega
      have hsplit : pieces.map H.generateChecksum = _ ++ new.map H.generateChecksum := hrec
      rw [map_take, hsplit, ← holdlen, take_left]
    · rw [hstart]
      exact (hfull.totalSize.trans (by rw [hlen])).symm
    · have hlt : i < first := hlen ▸ (List.getElem?_eq_some_iff.mp hi).1
      rw [getElem?_take_of_lt hlt] at hi
      have hs := hstored i d hi
      rwa [ht.pieces i, if_neg (by omega), none_or] at hs

end

end

variable [DecidableEq Digest] {env : ResumableEnv} {stream : Reader UInt8}

theorem handleResumableUploadObjectTask_ok
    (h : (handleResumableUploadObjectTask H env task stream s).returned = .ok ()) :
    task.segmentSize ≠ 0 ∧ ∃ snap, takeSnapshot env task s = .ok snap ∧
      (handleResumableUploadObjectTask H env task stream s).store =
        (resumeSegments H env task snap (.ofNat (task.resumeOffset / task.segmentSize)) 0 s
          (stream.reads task.segmentSize)).2 ∧
      (resumeSegments H env task snap (.ofNat (task.resumeOffset / task.segmentSize)) 0 s
        (stream.reads task.segmentSize)).1.returned = .ok () := by
  rw [handleResumableUploadObjectTask] at h
  split at h
  · cases h
  rename_i hadopt
  split at h
  · cases h
  rename_i hqueue
  split at h
  · cases h
  rename_i hn
  split at h
  · cases h
  next snap hsnap =>
    exact ⟨hn, snap, hsnap, by simp [handleResumableUploadObjectTask, hadopt, hqueue, hn, hsnap], h⟩

/-- A resumable upload that completes leaves a row that describes its pieces, just
when it found such progress. -/
theorem resumable_described_iff (hoffset : task.resumeOffset ≤ task.objectInfo.payloadSize)
    (hcompleted : task.completed = true)
    (hok : (handleResumableUploadObjectTask H env task stream s).returned = .ok ()) :
    Described H task.toUploadObjectTask (handleResumableUploadObjectTask H env task stream s).store ↔
      FindsProgress H task s := by
  obtain ⟨hn, snap, hsnap, hstore, hok⟩ := handleResumableUploadObjectTask_ok hok
  have hpos : 0 < task.segmentSize := Nat.pos_of_ne_zero hn
  have hpayload : 0 < task.objectInfo.payloadSize := by
    rw [UploadObjectTask.segmentSize, maxSegmentPieceSize] at hpos
    split at hpos <;> omega
  have hsize : snap.size = (recorded (primaryRow task.objectInfo s)).2 := by
    rw [takeSnapshot_eq_ok hpayload hsnap]
  have hstart : Position task s 0 [] (UInt32.ofNat (task.resumeOffset / task.segmentSize)).toNat 0 := by
    rw [toNat_start hpos hoffset]
    exact ⟨Nat.div_mul_le_self _ _, .inl rfl⟩
  obtain ⟨_, _, _, ht, hfits, hend⟩ :=
    resumeSegments_trace hoffset hpayload hpos hsize (trace_nil (H := H)) hstart hok
  rw [hend, endOfStream, if_pos hcompleted] at hok hstore
  obtain ⟨_, hrow, hrowsize, hpieces, hrow'⟩ := completeUpload_ok hpayload hok
  rw [hstore]
  exact ⟨findsProgress_of_described hpos ht hfits hrow hrowsize hpieces hrow',
    described_of_findsProgress hpos ht hfits hrow hrowsize hpieces hrow'⟩

end

/-- **The primary's row describes the pieces it stored**, just when nothing of an
earlier upload is in the way. -/
theorem row_describes_pieces [DecidableEq Digest] {H : Hash Digest} (env : UploadEnv)
    (task : UploadObjectTask Digest) (stream : Reader UInt8) (s : Store Digest) (renv : ResumableEnv)
    (rtask : ResumableUploadObjectTask Digest) (rstream : Reader UInt8) (rs : Store Digest)
    (hoffset : rtask.resumeOffset ≤ rtask.objectInfo.payloadSize) (hcompleted : rtask.completed = true) :
    (((handleUploadObjectTask H env task stream s).returned = .ok () →
        Described H task (handleUploadObjectTask H env task stream s).store) ↔
      (Succeeds H env task stream →
        ∀ row, primaryRow task.objectInfo s = some row → row = streamRow H task stream)) ∧
    ((handleResumableUploadObjectTask H renv rtask rstream rs).returned = .ok () →
      (Described H rtask.toUploadObjectTask
          (handleResumableUploadObjectTask H renv rtask rstream rs).store ↔
        FindsProgress H rtask rs)) :=
  ⟨upload_described_iff, resumable_described_iff hoffset hcompleted⟩

/-- The object was uploaded before, in the same stream. -/
def uploadedStore : Store Data :=
  (handleUploadObjectTask plainHash {} delegatedTask [⟨[1, 2, 3, 4], none⟩] emptyStore).store

/-- The first segment was uploaded before. -/
def startedStore : Store Data :=
  (handleResumableUploadObjectTask plainHash {} (partOf 0 false [1, 2]).task [⟨[1, 2], none⟩]
    emptyStore).store

/-- The row that is found is the right one, or the progress of the first segment. -/
theorem row_describes_pieces_sample : Described plainHash delegatedTask
      (handleUploadObjectTask plainHash {} delegatedTask [⟨[1, 2, 3, 4], none⟩] uploadedStore).store ∧
    Described plainHash (partOf 2 true [3]).task.toUploadObjectTask
      (handleResumableUploadObjectTask plainHash {} (partOf 2 true [3]).task [⟨[3], none⟩]
        startedStore).store := by
  have h := row_describes_pieces (H := plainHash) {} delegatedTask [⟨[1, 2, 3, 4], none⟩] uploadedStore {}
    (partOf 2 true [3]).task [⟨[3], none⟩] startedStore (by decide) rfl
  refine ⟨h.1.mpr (fun _ row hrow => ?_) (by decide +kernel), (h.2 (by decide +kernel)).mpr ?_⟩
  · exact (some.inj hrow).symm
  refine ⟨fun row hrow => ?_, [[1, 2]], rfl, fun i d hi => ?_, by decide, by decide⟩
  · cases hrow
    rfl
  · cases i with
    | zero => exact hi
    | succ => simp at hi

/-- An object under its second update: the first one was cancelled, and its row
has not been collected. -/
def updateTask : UploadObjectTask Data where
  objectInfo := { id := 7, version := 1, payloadSize := 2, checksums := [[1, 2]], isUpdating := true }
  maxSegmentSize := 2
  isAgentUpload := false
  checksums_ne_nil := by simp
  countable := by decide

def cancelledUpdateStore : Store Data :=
  { emptyStore with
    shadow := fun _ _ => some
      { pieceChecksumList := [[9, 9]], integrityChecksum := some [9, 9], version := some 1, objectSize := 2 } }

/-- The second update is uploaded, and the row still is that of the first. -/
theorem cancelled_update_row_kept :
    ¬ ((handleUploadObjectTask plainHash {} updateTask [⟨[1, 2], none⟩] cancelledUpdateStore).returned
        = .ok () →
      Described plainHash updateTask
        (handleUploadObjectTask plainHash {} updateTask [⟨[1, 2], none⟩] cancelledUpdateStore).store) := by
  rw [upload_described_iff]
  intro h
  have hsucceeds : Succeeds plainHash {} updateTask [⟨[1, 2], none⟩] :=
    handleUploadObjectTask_ok_iff.mp
      (show (handleUploadObjectTask plainHash {} updateTask [⟨[1, 2], none⟩] emptyStore).returned = .ok ()
        by decide +kernel)
  have hrow := h hsucceeds _ rfl
  revert hrow
  decide +kernel

end Uploader

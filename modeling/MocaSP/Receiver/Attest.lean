-- SUMMARY: When a signature is backed by pieces in the piece store.
import MocaSP.Base.Run
import MocaSP.Receiver.Receive

/-!
# What a signature attests

A secondary SP signs when the checksums it has recorded give the hash that the
chain has for its index. A recorded checksum says that a piece was received, not
that it was stored, and not for which version. The signature is backed when every
step is `Careful`: pieces are stored once they are recorded, and the recorded
checksums are those of the version that is signed.

Two things are kept beside the state, for the statements only: the version for
which an integrity row was inserted, and the indexes of the calls.
-/

namespace Receiver
open List Except

open Piece

variable {Digest : Type}

structure Sys (Digest : Type) where
  state : State Digest
  /-- The version that was signed when the integrity row of an index was inserted. -/
  rowVersion : Int32 → Int := fun _ => 0
  indices : List Int32 := []

inductive Act (Digest : Type) where
  | receive (t : ReceivePieceTask Digest) (data : Data) (a : ReceiveAnswers)
  | put (key : Nat × Int32) (p : Put)
  | done (t : ReceivePieceTask Digest) (a : DoneAnswers Digest)

/-- Nothing is recorded of the object. -/
def Fresh (object : Object) (s : Holdings Digest) : Prop :=
  ∀ idx, s.store.integrity object.id idx = none ∧ s.hashes object.id idx = ∅

section
variable (H : Hash Digest) (object : Object)

variable (s : Sys Digest) (idx : Int32)

def Sys.rows := s.state.held.hashes object.id idx.toInt

def Sys.row := s.state.held.store.integrity object.id idx.toInt

def step [DecidableEq Digest] (s : Sys Digest) : Act Digest → Option (Sys Digest)
  | .receive t data a => some { s with
      state := (recordPiece H object t data a s.state).2
      indices := t.redundancyIdx :: s.indices }
  | .put key p =>
    (s.state.receiveQueue.find? (·.task.key = key)).map fun call =>
      { s with state := (storePiece object call p s.state).2 }
  | .done t a => some { s with
      state := (handleDoneReceivePieceTask H object t a s.state).2
      rowVersion := fun idx =>
        if idx = t.redundancyIdx ∧ (s.row object idx).isNone then t.version else s.rowVersion idx }

/-- No call for the index is under way. -/
def Sys.Quiet : Prop := ∀ call ∈ s.state.receiveQueue, call.task.redundancyIdx ≠ idx

/-- The steps that keep what is recorded and what is stored together. -/
def Careful : Act Digest → Prop
  | .receive t data a =>
    a.setChecksum ≠ .fails true ∧
    (∀ row ∈ s.row object t.redundancyIdx, s.rowVersion t.redundancyIdx = t.version →
      ∀ c ∈ row.pieceChecksumList[t.segmentIdx]?, c = H.generateChecksum data) ∧
    (object.isEC = true ∨ ∀ idx ∈ s.indices, idx = t.redundancyIdx)
  | .put _ p => p = .ok
  | .done t a =>
    if (Ordered.first (s.rows object t.redundancyIdx) t.segmentCount).length = t.segmentCount then
      s.Quiet t.redundancyIdx ∧ a.getAll.InKeyOrder ∧
        ∀ row ∈ (s.rows object t.redundancyIdx).toList,
          row.1 < t.segmentCount ∧ row.2.version = t.version
    else
      ∀ row ∈ s.row object t.redundancyIdx,
        s.Quiet t.redundancyIdx ∧ s.rowVersion t.redundancyIdx = t.version ∧
          row.pieceChecksumList.length = t.segmentCount

/-- What is recorded, and how the piece store backs it. -/
structure Backed (s : Sys Digest) : Prop where
  rows : ∀ (idx : Int32) (i : Nat) (row : PieceHash Digest), (s.rows object idx)[i]? = some row →
    idx ∈ s.indices ∧
      ((∃ call ∈ s.state.receiveQueue, call.task.key = (i, idx)) ∨
        s.state.held.Holds H (object.pieceKey row.version i idx) row.pieceChecksum)
  calls : ∀ call ∈ s.state.receiveQueue,
    (s.rows object call.task.redundancyIdx)[call.task.segmentIdx]? =
      some ⟨H.generateChecksum call.data, call.task.version⟩ ∧
    ∀ row, s.row object call.task.redundancyIdx = some row →
      s.rowVersion call.task.redundancyIdx = call.task.version →
      ∀ c, row.pieceChecksumList[call.task.segmentIdx]? = some c → c = H.generateChecksum call.data
  listed : ∀ (idx : Int32) (row : IntegrityMeta Digest), s.row object idx = some row →
    ∀ i c, row.pieceChecksumList[i]? = some c →
      idx ∈ s.indices ∧ s.state.held.Holds H (object.pieceKey (s.rowVersion idx) i idx) c
  same : object.isEC = false → ∀ i ∈ s.indices, ∀ j ∈ s.indices, i = j

end

variable {H : Hash Digest} {object : Object}

variable {idx : Int32} {checksums : List Digest}

theorem pieceKey_inj {v w : Int} {i j : Nat} {idx' : Int32}
    (h : object.pieceKey v i idx = object.pieceKey w j idx') :
    v = w ∧ i = j ∧ (object.isEC = true → idx = idx') := by
  unfold Object.pieceKey at h
  split at h
  next =>
    injection h with _ hi hidx hv
    refine ⟨hv, hi, fun _ => ?_⟩
    have hidx := UInt32.toNat_inj.mp hidx
    cases idx
    cases idx'
    exact congrArg Int32.ofUInt32 hidx
  next hec =>
    injection h with _ hi hv
    exact ⟨hv, hi, fun h => absurd h hec⟩

variable {s s' : Sys Digest} {t : ReceivePieceTask Digest} {data : Data}

/-- Indexes that were used and have a key in common are the same. -/
theorem Backed.index_eq {v w : Int} {i j : Nat} {idx' : Int32} (h : Backed H object s)
    (hidx : idx ∈ s.indices) (hidx' : idx' ∈ s.indices)
    (hkey : object.pieceKey v i idx = object.pieceKey w j idx') : idx = idx' := by
  obtain ⟨-, -, hec⟩ := pieceKey_inj hkey
  cases hcase : object.isEC with
  | true => exact hec hcase
  | false => exact h.same hcase idx hidx idx' hidx'

/-! ## Receiving -/

/-- A call that is refused only counts as a call. -/
theorem Backed.addIndex (h : Backed H object s) (hsame : object.isEC = true ∨ ∀ i ∈ s.indices, i = idx) :
    Backed H object { s with indices := idx :: s.indices } where
  rows i k row hrow := ⟨.tail _ (h.rows i k row hrow).1, (h.rows i k row hrow).2⟩
  calls := h.calls
  listed idx row hrow i c hc :=
    ⟨.tail _ (h.listed idx row hrow i c hc).1, (h.listed idx row hrow i c hc).2⟩
  same hec i hi j hj := by
    have hall : ∀ k ∈ idx :: s.indices, k = idx := by
      intro k hk
      rcases mem_cons.mp hk with rfl | hk
      · rfl
      rcases hsame with htrue | hsame
      · rw [hec] at htrue
        cases htrue
      · exact hsame k hk
    rw [hall i hi, hall j hj]

open Holdings

/-- The checksum of a piece is recorded, and its call is under way. -/
theorem Backed.record (h : Backed H object s) (hfree : s.state.has t.key = false)
    (hidx : t.redundancyIdx ∈ s.indices) (hlisted : ∀ row, s.row object t.redundancyIdx = some row →
      s.rowVersion t.redundancyIdx = t.version →
      ∀ c, row.pieceChecksumList[t.segmentIdx]? = some c → c = H.generateChecksum data) :
    Backed H object { s with state := ⟨s.state.held.setHashes object.id t.redundancyIdx.toInt
      ((s.rows object t.redundancyIdx).insert t.segmentIdx ⟨H.generateChecksum data, t.version⟩),
      ⟨t, data⟩ :: s.state.receiveQueue⟩ } where
  __ := h
  rows idx i row hrow := by
    by_cases hnew : idx = t.redundancyIdx ∧ i = t.segmentIdx
    · obtain ⟨rfl, rfl⟩ := hnew
      exact ⟨hidx, .inl ⟨⟨t, data⟩, .head _, rfl⟩⟩
    have hold : (s.rows object idx)[i]? = some row := by
      by_cases heq : idx = t.redundancyIdx
      · rw [Sys.rows, heq, hashes_setHashes_self, getElem?_upsert, if_neg fun hi => hnew ⟨heq, hi⟩] at hrow
        exact heq ▸ hrow
      · rwa [Sys.rows, hashes_setHashes_of_ne (mt Int32.toInt_inj.mp heq)] at hrow
    obtain ⟨hmem, hback⟩ := h.rows idx i row hold
    refine ⟨hmem, hback.imp_left ?_⟩
    rintro ⟨call, hcall, hkey⟩
    exact ⟨call, .tail _ hcall, hkey⟩
  calls call hcall := by
    rcases mem_cons.mp hcall with rfl | hcall
    · refine ⟨?_, hlisted⟩
      rw [Sys.rows, hashes_setHashes_self, getElem?_upsert, if_pos rfl]
    obtain ⟨hrow, hrest⟩ := h.calls call hcall
    refine ⟨?_, hrest⟩
    have hkey : call.task.key ≠ t.key := by
      simp only [State.has, any_eq_false, decide_eq_true_eq] at hfree
      exact hfree call hcall
    by_cases heq : call.task.redundancyIdx = t.redundancyIdx
    · have hseg : call.task.segmentIdx ≠ t.segmentIdx := fun hseg => hkey (Prod.ext hseg heq)
      rw [Sys.rows, heq, hashes_setHashes_self, getElem?_upsert, if_neg hseg, ← heq]
      exact hrow
    · rw [Sys.rows, hashes_setHashes_of_ne (mt Int32.toInt_inj.mp heq)]
      exact hrow

section
variable [DecidableEq Digest]

theorem backed_receive {a : ReceiveAnswers} (h : Backed H object s)
    (hcareful : Careful H object s (.receive t data a))
    (hstep : step H object s (.receive t data a) = some s') : Backed H object s' := by
  obtain ⟨hwrite, hlisted, hsame⟩ := hcareful
  have hadded := h.addIndex hsame
  cases hstep
  unfold recordPiece
  split
  · exact hadded
  rename_i hfree
  split
  · exact hadded
  split
  · exact hadded
  cases hset : a.setChecksum with
  | ok => exact hadded.record (by simpa using hfree) (.head _) hlisted
  | fails applied =>
    cases applied with
    | true => exact absurd hset hwrite
    | false => exact hadded

/-- The piece of a call is stored. -/
theorem backed_put {key : Nat × Int32} {p : Put} (h : Backed H object s)
    (hcareful : Careful H object s (.put key p))
    (hstep : step H object s (.put key p) = some s') : Backed H object s' := by
  cases hcareful
  obtain ⟨call, hfind, rfl⟩ := Option.map_eq_some_iff.mp hstep
  have hcall := mem_of_find?_eq_some hfind
  obtain ⟨hrow, hagree⟩ := h.calls call hcall
  have hidx := (h.rows _ _ _ hrow).1
  have hstored : (s.state.held.putPiece .ok (object.pieceKey call.task.version call.task.segmentIdx
      call.task.redundancyIdx) call.data).Holds H (object.pieceKey call.task.version
        call.task.segmentIdx call.task.redundancyIdx) (H.generateChecksum call.data) :=
    holds_putPiece_self
  have hkept : ∀ other ∈ s.state.receiveQueue, other.task.key ≠ call.task.key →
      other ∈ s.state.receiveQueue.filter (·.task.key ≠ call.task.key) := by
    intro _ hother hne
    exact mem_filter.mpr ⟨hother, by simpa using hne⟩
  constructor
  · intro idx i row hi
    obtain ⟨hmem, hback⟩ := h.rows idx i row hi
    refine ⟨hmem, ?_⟩
    by_cases hkey : call.task.key = (i, idx)
    · -- the row of the call itself
      cases hkey
      rw [show (s.rows object call.task.redundancyIdx)[call.task.segmentIdx]? = some row from hi]
        at hrow
      cases hrow
      exact .inr hstored
    · rcases hback with ⟨other, hother, hotherKey⟩ | hholds
      · exact .inl ⟨other, hkept other hother (by rw [hotherKey]; exact Ne.symm hkey), hotherKey⟩
      refine .inr ((holds_putPiece_of_ne fun hsame => hkey ?_).mpr hholds)
      obtain ⟨-, rfl, -⟩ := pieceKey_inj hsame
      rw [h.index_eq hmem hidx hsame]
      rfl
  · intro other hother
    exact h.calls other (mem_filter.mp hother).1
  · intro idx row hrow' i c hc
    obtain ⟨hmem, hholds⟩ := h.listed idx row hrow' i c hc
    refine ⟨hmem, ?_⟩
    by_cases hkey : object.pieceKey (s.rowVersion idx) i idx = object.pieceKey call.task.version
        call.task.segmentIdx call.task.redundancyIdx
    · obtain ⟨hversion, hi, -⟩ := pieceKey_inj hkey
      have hidx' := h.index_eq hmem hidx hkey
      subst hi hidx'
      rw [hagree row hrow' hversion c hc]
      rw [hkey]
      exact hstored
    · exact (holds_putPiece_of_ne hkey).mpr hholds
  · exact h.same

end

/-! ## Signing -/

/-- What a call that signs leaves: it may insert an integrity row for the checksums and
delete rows of its index. -/
structure Signed (object : Object) (idx : Int32) (checksums : List Digest) (s s' : Holdings Digest) :
    Prop where
  pieces : s'.store.pieces = s.store.pieces
  others : ∀ i ≠ idx, s'.hashes object.id i.toInt = s.hashes object.id i.toInt ∧
    s'.store.integrity object.id i.toInt = s.store.integrity object.id i.toInt
  rows : ∀ (i : Nat) (row : PieceHash Digest), (s'.hashes object.id idx.toInt)[i]? = some row →
    (s.hashes object.id idx.toInt)[i]? = some row
  row : s'.store.integrity object.id idx.toInt = s.store.integrity object.id idx.toInt ∨
    s.store.integrity object.id idx.toInt = none ∧
      ∃ row, s'.store.integrity object.id idx.toInt = some row ∧ row.pieceChecksumList = checksums

theorem Signed.refl {s : Holdings Digest} :
    Signed object idx checksums s s := ⟨rfl, fun _ _ => ⟨rfl, rfl⟩, fun _ _ h => h, .inl rfl⟩

theorem insertIntegrityMeta_signed {w : Write} {s : Holdings Digest} :
    Signed object t.redundancyIdx checksums s (insertIntegrityMeta H object t w checksums s).2 := by
  cases hupdating : t.isUpdating with
  | true =>
    simp only [insertIntegrityMeta, hupdating, if_true]
    exact ⟨rfl, fun _ _ => ⟨rfl, rfl⟩, fun _ _ h => h, .inl rfl⟩
  | false =>
    simp only [insertIntegrityMeta, hupdating, Bool.false_eq_true, if_false]
    rcases hset : s.store.setObjectIntegrity w object.id t.redundancyIdx.toInt
      { pieceChecksumList := checksums
        integrityChecksum := some (H.generateIntegrityHash checksums)
        version := none
        objectSize := t.payloadSize } with ⟨r, store⟩
    obtain ⟨hpieces, hrows⟩ := Store.setObjectIntegrity_cases hset
    rcases hrows with hrows | ⟨hrows, -⟩
    · refine ⟨hpieces, fun i hi => ⟨rfl, ?_⟩, fun _ _ h => h, ?_⟩
      · show store.integrity _ _ = _
        rw [hrows, Rows.set, if_neg fun h => hi (Int32.toInt_inj.mp h.2)]
      rw [hrows, Rows.set_self]
      cases hold : s.store.integrity object.id t.redundancyIdx.toInt with
      | none => exact .inr ⟨rfl, _, rfl, rfl⟩
      | some => exact .inl rfl
    · refine ⟨hpieces, fun i hi => ⟨rfl, ?_⟩, fun _ _ h => h, .inl ?_⟩
      · show store.integrity _ _ = _
        rw [hrows]
      · show store.integrity _ _ = _
        rw [hrows]

section
variable [DecidableEq Digest]

variable {a : DoneAnswers Digest} {skip : Bool}

/-- What a call does once it has verified the pieces. -/
theorem handleDoneReceivePieceTask_signed {st st' : State Digest} {r : Except ReceiveErr (List Digest)}
    {signature : List Digest} (hverify : verifyPieces H object t a st = .ok ((checksums, skip), signature))
    (hrun : handleDoneReceivePieceTask H object t a st = (r, st')) :
    st'.receiveQueue = st.receiveQueue ∧
      Signed object t.redundancyIdx checksums st.held st'.held ∧
      ∀ signed, r = .ok signed → signed = signature := by
  rw [handleDoneReceivePieceTask, hverify] at hrun
  dsimp only at hrun
  have hinsert : Signed object t.redundancyIdx checksums st.held
      (if skip then (.ok (), st.held)
        else insertIntegrityMeta H object t a.setIntegrity checksums st.held).2 := by
    split
    · exact .refl
    · exact insertIntegrityMeta_signed
  split at hrun
  · cases hrun
    exact ⟨rfl, hinsert, nofun⟩
  split at hrun
  · cases hrun
    exact ⟨rfl, hinsert, nofun⟩
  · cases hrun
    exact ⟨rfl, hinsert, fun _ h => by cases h; rfl⟩
  · cases hrun
    have hfewer := fun s => @deleteAllReplicatePieceChecksumOptimized_fewer Digest s object.id
      t.redundancyIdx.toInt a.delete
    refine ⟨rfl, ⟨by rw [(hfewer _).store, hinsert.pieces], fun i hi => ?_, fun i row hrow => ?_, ?_⟩,
      fun _ h => by cases h; rfl⟩
    · rw [(hfewer _).store, (hfewer _).others i.toInt (mt Int32.toInt_inj.mp hi)]
      exact hinsert.others i hi
    · exact hinsert.rows i row ((hfewer _).rows i row hrow)
    · rw [(hfewer _).store]
      exact hinsert.row

theorem of_verifyPieces {st : State Digest} {signature : List Digest}
    (hverify : verifyPieces H object t a st = .ok ((checksums, skip), signature)) :
    pieceChecksums object t a st.held = .ok (checksums, skip) ∧
      checksumFor signature t.redundancyIdx.toInt = some (H.generateIntegrityHash checksums) := by
  simp only [verifyPieces, bind_eq_ok, pure_eq_ok, failIf_eq_ok, orFail_eq_ok] at hverify
  obtain ⟨-, -, ⟨_, _⟩, hcollect, -, -, -, -, _, -, _, hat, -, heq, -, -, ⟨⟩⟩ := hverify
  rw [not_not] at heq
  exact ⟨hcollect, heq ▸ hat⟩

omit [DecidableEq Digest] in
/-- The checksums of the pieces are those of stored pieces of the version. -/
theorem Backed.pieceChecksums (h : Backed H object s) (hcareful : Careful H object s (.done t a))
    (hcollect : pieceChecksums object t a s.state.held = .ok (checksums, skip)) :
    s.Quiet t.redundancyIdx ∧ checksums.length = t.segmentCount ∧
      ∀ i c, checksums[i]? = some c → t.redundancyIdx ∈ s.indices ∧
        s.state.held.Holds H (object.pieceKey t.version i t.redundancyIdx) c := by
  simp only [Receiver.pieceChecksums, bind_eq_ok, mapError_eq_ok] at hcollect
  obtain ⟨_, hget, hrest⟩ := hcollect
  obtain ⟨hlength, hkeys⟩ := getAll_ok hget
  rw [← Sys.rows.eq_def] at hlength hkeys
  rw [hlength] at hrest
  by_cases hfull : (Ordered.first (s.rows object t.redundancyIdx) t.segmentCount).length = t.segmentCount
  · rw [Careful, if_pos hfull] at hcareful
    obtain ⟨hquiet, hordered, hrows⟩ := hcareful
    rw [if_neg (not_not.mpr hfull)] at hrest
    cases pure_eq_ok.mp hrest
    refine ⟨hquiet, hlength.trans hfull, fun i c hc => ?_⟩
    rw [hkeys hordered] at hc
    have hbelow : Ordered.Below (s.rows object t.redundancyIdx) t.segmentCount := fun k row hrow =>
      (hrows (k, row) (Std.TreeMap.mem_toList_iff_getElem?_eq_some.mpr hrow)).1
    rw [List.getElem?_map] at hc
    obtain ⟨row, hrow, rfl⟩ := Option.map_eq_some_iff.mp hc
    have hi : i < t.segmentCount := hfull ▸ (List.getElem?_eq_some_iff.mp hrow).1
    have hrow : (s.rows object t.redundancyIdx)[i]? = some row :=
      (Ordered.first_of_full hbelow hfull hi).symm.trans hrow
    obtain ⟨hmem, hback⟩ := h.rows _ i row hrow
    have hversion := (hrows (i, row) (Std.TreeMap.mem_toList_iff_getElem?_eq_some.mpr hrow)).2
    refine ⟨hmem, ?_⟩
    rcases hback with ⟨call, hcall, hkey⟩ | hholds
    · exact absurd (congrArg Prod.snd hkey) (hquiet call hcall)
    · exact hversion ▸ hholds
  · rw [Careful, if_neg hfull] at hcareful
    rw [if_pos hfull] at hrest
    simp only [bind_eq_ok, mapError_eq_ok] at hrest
    obtain ⟨row, hrow, hret⟩ := hrest
    cases pure_eq_ok.mp hret
    have hrow : s.row object t.redundancyIdx = some row := by
      simp only [Store.getObjectIntegrity, Rows.get] at hrow
      split at hrow
      · cases hrow
      split at hrow
      · cases hrow
      next hsome =>
        cases hrow
        exact hsome
    obtain ⟨hquiet, hversion, hlength⟩ := hcareful row hrow
    refine ⟨hquiet, hlength, fun i c hc => ?_⟩
    rw [← hversion]
    exact h.listed _ row hrow i c hc

omit [DecidableEq Digest] in
/-- A call that signs keeps what is recorded backed. -/
theorem Backed.sign {held : Holdings Digest} (h : Backed H object s) (hquiet : s.Quiet t.redundancyIdx)
    (hholds : ∀ i c, checksums[i]? = some c → t.redundancyIdx ∈ s.indices ∧
      s.state.held.Holds H (object.pieceKey t.version i t.redundancyIdx) c)
    (hsigned : Signed object t.redundancyIdx checksums s.state.held held) : Backed H object { s with
      state := { s.state with held }
      rowVersion := fun idx =>
        if idx = t.redundancyIdx ∧ (s.row object idx).isNone then t.version else s.rowVersion idx } := by
  have hpieces : ∀ k c, s.state.held.Holds H k c → held.Holds H k c := by
    intro _ _ _
    rwa [Holdings.Holds, hsigned.pieces]
  constructor
  · intro idx i row hrow
    have hold : (s.rows object idx)[i]? = some row := by
      by_cases heq : idx = t.redundancyIdx
      · subst heq
        exact hsigned.rows i row hrow
      · rwa [Sys.rows, (hsigned.others idx heq).1] at hrow
    obtain ⟨hmem, hback⟩ := h.rows idx i row hold
    exact ⟨hmem, hback.imp_right (hpieces _ _)⟩
  · intro call hcall
    have hne : call.task.redundancyIdx ≠ t.redundancyIdx := hquiet call hcall
    obtain ⟨hrow, hagree⟩ := h.calls call hcall
    simp only [Sys.rows, Sys.row, (hsigned.others _ hne).1, (hsigned.others _ hne).2, hne, false_and,
      if_false]
    exact ⟨hrow, hagree⟩
  · intro idx row hrow i c hc
    by_cases heq : idx = t.redundancyIdx
    · subst heq
      rcases hsigned.row with hsame | ⟨hnone, _, hrow', rfl⟩
      · -- the row was there before
        rw [Sys.row, hsame] at hrow
        have hsome : (s.row object t.redundancyIdx).isNone = false := by
          rw [Sys.row, hrow]
          rfl
        obtain ⟨hmem, hk⟩ := h.listed _ row hrow i c hc
        simp only [hsome, Bool.false_eq_true, and_false, if_false]
        exact ⟨hmem, hpieces _ _ hk⟩
      · rw [Sys.row, hrow'] at hrow
        cases hrow
        have hnone : (s.row object t.redundancyIdx).isNone = true := by
          rw [Sys.row, hnone]
          rfl
        obtain ⟨hmem, hk⟩ := hholds i c hc
        simp only [hnone, and_self, if_true]
        exact ⟨hmem, hpieces _ _ hk⟩
    · rw [Sys.row, (hsigned.others idx heq).2] at hrow
      obtain ⟨hmem, hk⟩ := h.listed idx row hrow i c hc
      simp only [heq, false_and, if_false]
      exact ⟨hmem, hpieces _ _ hk⟩
  · exact h.same

omit [DecidableEq Digest] in
/-- The version of a row that is not there says nothing. -/
theorem Backed.refuse (h : Backed H object s) : Backed H object { s with rowVersion := fun idx =>
      if idx = t.redundancyIdx ∧ (s.row object idx).isNone then t.version else s.rowVersion idx } := by
  have hversion : ∀ idx row, s.row object idx = some row →
      (if idx = t.redundancyIdx ∧ (s.row object idx).isNone then t.version else s.rowVersion idx)
        = s.rowVersion idx := by
    intro _ _ hrow
    simp [hrow]
  refine ⟨h.rows, fun call hcall => ?_, fun idx row hrow => ?_, h.same⟩
  · obtain ⟨hrow, hagree⟩ := h.calls call hcall
    exact ⟨hrow, fun row hsome hv => hagree row hsome ((hversion _ row hsome).symm.trans hv)⟩
  · dsimp only
    rw [hversion idx row hrow]
    exact h.listed idx row hrow

theorem backed_done (h : Backed H object s) (hcareful : Careful H object s (.done t a))
    (hstep : step H object s (.done t a) = some s') : Backed H object s' := by
  cases hstep
  rcases hrun : handleDoneReceivePieceTask H object t a s.state with ⟨_, st'⟩
  rcases hverify : verifyPieces H object t a s.state with _ | ⟨⟨_, _⟩, _⟩
  · rw [handleDoneReceivePieceTask, hverify] at hrun
    cases hrun
    exact h.refuse
  obtain ⟨hcollect, -⟩ := of_verifyPieces hverify
  obtain ⟨hquiet, -, hholds⟩ := h.pieceChecksums hcareful hcollect
  obtain ⟨hqueue, hsigned, -⟩ := handleDoneReceivePieceTask_signed hverify hrun
  obtain ⟨_, _⟩ := st'
  cases hqueue
  exact h.sign hquiet hholds hsigned

theorem backed_of_run {held : Holdings Digest} (hfresh : Fresh object held)
    (hrun : Run (step H object) (Careful H object) { state := { held } } s) : Backed H object s := by
  refine hrun.invariant ?_ fun s act s' h hcareful hstep => ?_
  · constructor
    · intro idx _ _ hrow
      rw [Sys.rows, (hfresh idx.toInt).2] at hrow
      simp at hrow
    · intro _ hcall
      cases hcall
    · intro idx row hrow
      rw [Sys.row, (hfresh idx.toInt).1] at hrow
      cases hrow
    · intro _ _ hi
      cases hi
  · cases act with
    | receive => exact backed_receive h hcareful hstep
    | put => exact backed_put h hcareful hstep
    | done => exact backed_done h hcareful hstep

end

section

instance [DecidableEq Digest] (H : Hash Digest) (object : Object) (s : Sys Digest) :
    (act : Act Digest) → Decidable (Careful H object s act)
  | .receive _ _ _ => inferInstanceAs (Decidable (_ ∧ _ ∧ _))
  | .put _ p => inferInstanceAs (Decidable (p = .ok))
  | .done _ _ => by
    unfold Careful Sys.Quiet
    infer_instance

theorem fresh_nothingHeld : Fresh ⟨1, true⟩ nothingHeld := fun _ => ⟨rfl, rfl⟩

end

end Receiver

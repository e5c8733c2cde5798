-- SUMMARY: Recovery of pieces between SPs: who may ask, and for which piece.
import MocaSP.Gater.PeerAuth

/-!
# Recovery of pieces

An SP that lost a piece asks the other SPs of the object's group for it. The
primary SP answers with a share of a segment, a secondary SP with its own share.
The object is read from chain by the names in the task. Its id, which goes into
the key of the piece, is taken from the task.
-/

namespace Peer
open Except Prog PieceKey List Option

open Metadata (Address)

/-! ## The task and what it is checked against -/

/-- The object as a recovery task describes it. -/
structure RecoverObject extends MsgObject where
  /-- The redundancy type is erasure coding. -/
  redundancyEC : Bool

/-- The fields of a recovery task that its signature covers. -/
structure RecoverSignMsg where
  objectInfo : Option RecoverObject
  updateTime : Int
  segmentIdx : Nat
  ecIdx : Int

structure RecoverPieceTask extends RecoverSignMsg where
  signature : Text
  /-- The sender is about to take the place of an SP of the group. -/
  bySuccessorSp : Bool

structure ObjectInfo where
  id : Nat
  version : Int
  payloadSize : Nat
  sealed : Bool
  localVirtualGroupID : Nat

structure BucketInfo where
  id : Nat
  familyID : Nat

structure GlobalVirtualGroup where
  id : Nat
  familyID : Nat
  primarySpID : Nat
  secondarySpIDs : List Nat

structure SwapInInfo where
  successorSpID : Nat
  targetSpID : Nat

def noSpecifiedFamilyID : Nat := 0

def noSpecifiedGVGID : Nat := 0

/-- What the chain and the metadata service answer. -/
structure RecoverEnv where
  sigs : SigCheck RecoverSignMsg
  /-- The age of an update time, in seconds, as a 32-bit number. -/
  age : Int → Int
  getObjectChainMeta : (objectName bucketName : Text) →
    Except PeerErr (ObjectInfo × BucketInfo × StorageParams)
  operatorAddress : Address
  getSPID : Except PeerErr Nat
  getBucketPrimarySPID : BucketInfo → Except PeerErr Nat
  querySPByID : Nat → Except PeerErr StorageProvider
  querySPByID_id : ∀ {id sp}, querySPByID id = .ok sp → sp.id = id
  getGlobalVirtualGroup : (bucketID lvgID : Nat) → Except PeerErr GlobalVirtualGroup
  /-- The group of an object has the primary SP of the bucket. -/
  gvg_primary : ∀ {objectName bucketName object bucket params gvg spID},
    getObjectChainMeta objectName bucketName = .ok (object, bucket, params) →
    getGlobalVirtualGroup bucket.id object.localVirtualGroupID = .ok gvg →
    getBucketPrimarySPID bucket = .ok spID → gvg.primarySpID = spID
  querySwapInInfo : (familyID gvgID : Nat) → Except PeerErr SwapInInfo
  encodeRawSegment : Data → (dataChunkNum parityChunkNum : Nat) → Except PeerErr (List Data)

def consensusErr {α : Type} (r : Except PeerErr α) : Except PeerErr α := r.mapError fun _ => .consensus

/-- A task whose object was found on chain. -/
structure RecoverRequest where
  task : RecoverPieceTask
  object : RecoverObject
  chainObject : ObjectInfo
  bucket : BucketInfo
  params : StorageParams
  signatureAddr : Option Address
  bucketSPID : Nat
  /-- A secondary SP asks the primary SP for its share of a segment. -/
  toPrimary : Bool

/-- The part of a piece that is read. -/
structure RecoverRead where
  task : PieceTask
  /-- The segment is read as a whole, and a share of it is computed. -/
  encode : Bool

/-- The index of the last element that satisfies `p`. -/
def lastIdx {α : Type} (p : α → Bool) (l : List α) : Option Nat :=
  l.zipIdx.foldl (fun found (a, idx) => if p a then some idx else found) none

/-! ## The handlers -/

namespace RecoverEnv
variable (env : RecoverEnv)

def getRecoverRequest (header : Option RecoverPieceTask) : Except PeerErr RecoverRequest := do
  let task ← orFail header .decodeMsg
  let signatureAddr ← (verifyTaskSignature env.sigs ⟨task.toRecoverSignMsg, task.signature⟩).mapError
    fun _ => .signature
  -- an expired task is logged with the name of its object
  failIf (env.age task.updateTime > 1000)
    (if task.objectInfo.isSome then .taskMsgExpired else .crash)
  let object ← orFail task.objectInfo .invalidHeader
  failIf (object.redundancyEC = false) .recoveryRedundancyType
  let (chainObject, bucket, params) ←
    (env.getObjectChainMeta object.objectName object.bucketName).mapError fun _ => .invalidHeader
  failIf (chainObject.sealed = false) .notSealedState
  failIf (task.ecIdx < -1 ∨ task.ecIdx > params.redundancyNumber) .recoveryPieceIndex
  let spID ← consensusErr env.getSPID
  let bucketSPID ← consensusErr (env.getBucketPrimarySPID bucket)
  return {
    task, object, chainObject, bucket, params, signatureAddr, bucketSPID
    toPrimary := task.ecIdx ≥ 0 ∧ spID = bucketSPID }

/-- The swap-in of a family or a group, with its successor. -/
def swapInSuccessor (swapInInfo : Except PeerErr SwapInInfo) :
    Except PeerErr (SwapInInfo × StorageProvider) := do
  let info ← consensusErr swapInInfo
  let successorSP ← consensusErr (env.querySPByID info.successorSpID)
  return (info, successorSP)

variable (req : RecoverRequest)

/-- Whether the signer is the successor of the primary SP, or else of a secondary
SP. -/
def isSuccessor (primarySp : StorageProvider) (gvg : GlobalVirtualGroup) : Except PeerErr Bool :=
  if req.task.bySuccessorSp then
    match env.querySwapInInfo gvg.familyID noSpecifiedGVGID with
    | .ok info => do
      let (info, successorSP) ← env.swapInSuccessor (.ok info)
      return primarySp.id = info.targetSpID ∧ some successorSP.operatorAddress = req.signatureAddr
    | .error _ => do
      let (info, successorSP) ←
        env.swapInSuccessor (env.querySwapInInfo noSpecifiedFamilyID gvg.id)
      return info.targetSpID ∈ gvg.secondarySpIDs ∧
        some successorSP.operatorAddress = req.signatureAddr
  else .ok false

/-- The piece that a secondary SP reads. -/
def recoverPiece : Except PeerErr RecoverRead := do
  let primarySp ← env.querySPByID req.bucketSPID
  let gvg ← env.getGlobalVirtualGroup req.bucket.id req.chainObject.localVirtualGroupID
  let sps ← gvg.secondarySpIDs.mapM env.querySPByID
  let successor ← env.isSuccessor req primarySp gvg
  let taskECIndex := lastIdx (fun sp => some sp.operatorAddress = req.signatureAddr) sps
  failIf (some primarySp.operatorAddress ≠ req.signatureAddr ∧ successor = false ∧
    taskECIndex.map Int.ofNat ≠ some req.task.ecIdx) .recoverySP
  let ecIndex ← orFail (sps.findIdx? (·.operatorAddress = env.operatorAddress)) .recoverySP
  let size ← ecPieceSize req.chainObject.payloadSize req.task.segmentIdx req.params.maxSegmentSize
    req.params.redundantDataChunkNum
  failIf (req.object.id ≥ 2 ^ 64) .crash
  return {
    task :=
      { key := .ec req.object.id req.task.segmentIdx ecIndex req.chainObject.version
        offset := 0
        length := size }
    encode := false }

/-- The swap-in of a secondary SP, if the sender says that it is a successor. -/
def segmentSwapIn (gvg : GlobalVirtualGroup) :
    Except PeerErr (Option (SwapInInfo × StorageProvider)) :=
  if req.task.bySuccessorSp then
    some <$> env.swapInSuccessor (env.querySwapInInfo noSpecifiedFamilyID gvg.id)
  else .ok none

/-- The part of a segment that the primary SP reads. -/
def recoverSegment : Except PeerErr RecoverRead := do
  let size ← ecPieceSize req.chainObject.payloadSize req.task.segmentIdx req.params.maxSegmentSize
    req.params.redundantDataChunkNum
  let spID ← consensusErr env.getSPID
  failIf (req.bucketSPID ≠ spID) .recoverySP
  let gvg ← (env.getGlobalVirtualGroup req.bucket.id req.chainObject.localVirtualGroupID).mapError
    fun _ => .recoverySP
  let swapIn ← env.segmentSwapIn req gvg
  let sps ← gvg.secondarySpIDs.mapM fun sspID => consensusErr (env.querySPByID sspID)
  let ecIndex := lastIdx (fun ssp => some ssp.operatorAddress = req.signatureAddr ∨
    swapIn.any fun (info, successorSP) =>
      ssp.id = info.targetSpID ∧ some successorSP.operatorAddress = req.signatureAddr) sps
  failIf (ecIndex.map Int.ofNat ≠ some req.task.ecIdx) .recoverySP
  failIf (req.object.id ≥ 2 ^ 64) .crash
  let key := segment req.object.id req.task.segmentIdx req.object.version
  let _ ← env.querySPByID req.bucketSPID
  if req.task.ecIdx < ((req.params.redundantDataChunkNum : Int) - 1).bmod (2 ^ 32) then
    return { task := { key, offset := req.task.ecIdx * size, length := size }, encode := false }
  else
    let length := segmentPieceSize req.chainObject.payloadSize req.task.segmentIdx
      req.params.maxSegmentSize
    return { task := { key, offset := 0, length }, encode := true }

/-- What is returned of the piece that was read. -/
def deliver (read : RecoverRead) (piece : Except PeerErr Data) : Reply Data :=
  if read.encode then do
    let segment ← piece.mapError fun _ => .pieceStore
    let ecData ← env.encodeRawSegment segment req.params.redundantDataChunkNum
      req.params.redundantParityChunkNum
    orFail ecData[req.task.ecIdx.toNat]? .crash
  else
    piece.mapError fun e => if e = .pieceStoreNoSuchKey then .pieceStoreNoSuchKey else .pieceStore

/-- Read what was planned. -/
def fetch (read : RecoverRead) : Code (Reply Data) := do
  let piece ← do_ (.getPiece read.task)
  return env.deliver req read piece

def getRecoverPiece : Code (Reply Data) := after (env.recoverPiece req) (env.fetch req)

def getRecoverSegment : Code (Reply Data) := after (env.recoverSegment req) (env.fetch req)

def getRecoverDataHandler (header : Option RecoverPieceTask) : Code (Reply Data) :=
  after (env.getRecoverRequest header) fun req =>
    if req.toPrimary then env.getRecoverSegment req else env.getRecoverPiece req

end RecoverEnv

/-! ## Who asks -/

theorem lastIdx_eq_some {α : Type} {p : α → Bool} {l : List α} {i : Nat}
    (h : lastIdx p l = some i) : ∃ a, l[i]? = some a ∧ p a = true := by
  -- an index is found before the rest of the list, or in it
  have hfold : ∀ (xs : List (α × Nat)) (found : Option Nat),
      xs.foldl (fun found (a, idx) => if p a then some idx else found) found = some i →
        found = some i ∨ ∃ a, (a, i) ∈ xs ∧ p a = true := by
    intro xs
    induction xs with
    | nil => exact fun found h => .inl h
    | cons x _ ih =>
      intro _ h
      rcases ih _ h with hfound | ⟨a, ha, hp⟩
      · by_cases hx : p x.1 = true
        · simp only [hx, if_true, some.injEq] at hfound
          exact .inr ⟨x.1, by simp [← hfound], hx⟩
        · simp only [hx, Bool.false_eq_true, if_false] at hfound
          exact .inl hfound
      · exact .inr ⟨a, .tail _ ha, hp⟩
  rcases hfold _ _ h with hnone | ⟨a, ha, hp⟩
  · cases hnone
  · exact ⟨a, mem_zipIdx_iff_getElem?.mp ha, hp⟩

/-- The group has an SP with the address, or a slot whose successor has it. -/
inductive MayRecover (env : RecoverEnv) (gvg : GlobalVirtualGroup) (addr : Address) : Prop
  | primary {sp} (query : env.querySPByID gvg.primarySpID = .ok sp)
      (address : sp.operatorAddress = addr)
  | secondary {id sp} (mem : id ∈ gvg.secondarySpIDs) (query : env.querySPByID id = .ok sp)
      (address : sp.operatorAddress = addr)
  | successorPrimary {info sp}
      (swapIn : env.querySwapInInfo gvg.familyID noSpecifiedGVGID = .ok info)
      (target : info.targetSpID = gvg.primarySpID)
      (query : env.querySPByID info.successorSpID = .ok sp) (address : sp.operatorAddress = addr)
  | successorSecondary {info sp}
      (swapIn : env.querySwapInInfo noSpecifiedFamilyID gvg.id = .ok info)
      (target : info.targetSpID ∈ gvg.secondarySpIDs)
      (query : env.querySPByID info.successorSpID = .ok sp) (address : sp.operatorAddress = addr)

section
variable {env : RecoverEnv} {req : RecoverRequest} {gvg : GlobalVirtualGroup} {read : RecoverRead}

theorem consensusErr_eq_ok {α : Type} {r : Except PeerErr α} {a : α} :
    consensusErr r = .ok a ↔ r = .ok a := mapError_eq_ok

variable {sp : StorageProvider}

theorem swapInSuccessor_eq_ok {swapIn : Except PeerErr SwapInInfo} {info : SwapInInfo} :
    env.swapInSuccessor swapIn = .ok (info, sp) ↔
      swapIn = .ok info ∧ env.querySPByID info.successorSpID = .ok sp := by
  simp only [RecoverEnv.swapInSuccessor, bind_eq_ok, consensusErr_eq_ok, pure_eq_ok, Prod.mk.injEq]
  constructor
  · rintro ⟨_, hinfo, _, hsp, rfl, rfl⟩
    exact ⟨hinfo, hsp⟩
  · rintro ⟨hinfo, hsp⟩
    exact ⟨info, hinfo, sp, hsp, rfl, rfl⟩

theorem isSuccessor_mayRecover {primarySp : StorageProvider}
    (hprimary : gvg.primarySpID = primarySp.id) (h : env.isSuccessor req primarySp gvg = .ok true) :
    ∃ addr, req.signatureAddr = some addr ∧ MayRecover env gvg addr := by
  unfold RecoverEnv.isSuccessor at h
  split at h
  · split at h
    next hinfo =>
      obtain ⟨⟨_, _⟩, hsp, h⟩ := bind_eq_ok.mp h
      obtain ⟨⟨⟩, hsp⟩ := swapInSuccessor_eq_ok.mp hsp
      have h := of_decide_eq_true (pure_eq_ok.mp h)
      exact ⟨_, h.2.symm, .successorPrimary hinfo (h.1.symm.trans hprimary.symm) hsp rfl⟩
    · obtain ⟨⟨_, _⟩, hsp, h⟩ := bind_eq_ok.mp h
      obtain ⟨hinfo, hsp⟩ := swapInSuccessor_eq_ok.mp hsp
      have h := of_decide_eq_true (pure_eq_ok.mp h)
      exact ⟨_, h.2.symm, .successorSecondary hinfo h.1 hsp rfl⟩
  · cases h

/-- The `i`-th SP of the group was looked up by the `i`-th id. -/
theorem secondary_of_getElem? {query : Nat → Except PeerErr StorageProvider}
    {sps : List StorageProvider} {i : Nat} (hsps : gvg.secondarySpIDs.mapM query = .ok sps)
    (hsp : sps[i]? = some sp) :
    i < gvg.secondarySpIDs.length ∧ ∃ id ∈ gvg.secondarySpIDs, query id = .ok sp := by
  have hget := congrArg (·[i]?) (mapM_eq_ok_iff.mp hsps)
  simp only [List.getElem?_map, hsp, Option.map_some, Option.map_eq_some_iff] at hget
  obtain ⟨id, hid, hquery⟩ := hget
  exact ⟨(List.getElem?_eq_some_iff.mp hid).1, id, List.mem_of_getElem? hid, hquery⟩

/-- The object and its bucket are on chain under the names of the task, and the
address is the one of the signature. -/
structure Found (env : RecoverEnv) (header : Option RecoverPieceTask) (req : RecoverRequest) :
    Prop where
  task : header = some req.task
  object : req.task.objectInfo = some req.object
  signer : verifyTaskSignature env.sigs ⟨req.task.toRecoverSignMsg, req.task.signature⟩ =
    .ok req.signatureAddr
  onChain : env.getObjectChainMeta req.object.objectName req.object.bucketName =
    .ok (req.chainObject, req.bucket, req.params)
  primary : env.getBucketPrimarySPID req.bucket = .ok req.bucketSPID

theorem found_of_getRecoverRequest {header : Option RecoverPieceTask}
    (h : env.getRecoverRequest header = .ok req) : Found env header req := by
  simp only [RecoverEnv.getRecoverRequest, bind_eq_ok, orFail_eq_ok,
    mapError_eq_ok, consensusErr_eq_ok, pure_eq_ok, Prod.exists] at h
  obtain ⟨_, htask, _, haddr, _, -, _, hobject, _, -, _, _, _, hmeta,
    _, -, _, -, spID, -, bucketSPID, hprimary, rfl⟩ := h
  exact ⟨htask, hobject, haddr, hmeta, hprimary⟩

/-- The signer may recover pieces of the object's group, and the share is one of
that group. -/
def Entitled (env : RecoverEnv) (req : RecoverRequest) (key : PieceKey) : Prop :=
  ∃ gvg addr, env.getGlobalVirtualGroup req.bucket.id req.chainObject.localVirtualGroupID = .ok gvg ∧
    req.signatureAddr = some addr ∧ MayRecover env gvg addr ∧
    ∀ i ∈ key.redundancyIdx, i < gvg.secondarySpIDs.length

theorem recoverPiece_spec {header : Option RecoverPieceTask} (hfound : Found env header req)
    (h : env.recoverPiece req = .ok read) : Entitled env req read.task.key ∧ ∃ ecIndex,
      read.task.key = .ec req.object.id req.task.segmentIdx ecIndex req.chainObject.version := by
  simp only [RecoverEnv.recoverPiece, bind_eq_ok, orFail_eq_ok, failIf_eq_ok, pure_eq_ok] at h
  obtain ⟨primarySp, hprimarySp, gvg, hgvg, _, hsps, successor, hsuccessor, _, hsender, ecIndex,
    hecIndex, size, -, _, -, rfl⟩ := h
  have hprimary : gvg.primarySpID = req.bucketSPID :=
    env.gvg_primary hfound.onChain hgvg hfound.primary
  have hsigner : ∃ addr, req.signatureAddr = some addr ∧ MayRecover env gvg addr := by
    by_cases hown : some primarySp.operatorAddress = req.signatureAddr
    · exact ⟨_, hown.symm, .primary (hprimary ▸ hprimarySp) rfl⟩
    cases successor with
    | true =>
      exact isSuccessor_mayRecover (hprimary.trans (env.querySPByID_id hprimarySp).symm) hsuccessor
    | false =>
      have hidx := not_not.mp fun hidx => hsender ⟨hown, rfl, hidx⟩
      obtain ⟨_, hi, -⟩ := map_eq_some_iff.mp hidx
      obtain ⟨_, hsp, haddr⟩ := lastIdx_eq_some hi
      obtain ⟨-, _, hid, hquery⟩ := secondary_of_getElem? hsps hsp
      exact ⟨_, (of_decide_eq_true haddr).symm, .secondary hid hquery rfl⟩
  obtain ⟨addr, haddr, hmay⟩ := hsigner
  refine ⟨⟨gvg, addr, hgvg, haddr, hmay, ?_⟩, ecIndex, rfl⟩
  intro _ hi
  cases hi
  obtain ⟨hlt, -⟩ := findIdx?_eq_some_iff_getElem.mp hecIndex
  exact (secondary_of_getElem? hsps (getElem?_eq_getElem hlt)).1

theorem recoverSegment_spec (h : env.recoverSegment req = .ok read) :
    Entitled env req read.task.key ∧
      read.task.key = .segment req.object.id req.task.segmentIdx req.object.version := by
  simp only [RecoverEnv.recoverSegment, bind_eq_ok, failIf_eq_ok,
    mapError_eq_ok, consensusErr_eq_ok] at h
  obtain ⟨_, -, _, -, _, -, gvg, hgvg, swapIn, hswapIn, _, hsps, _, hidx, _, -, _, -, h⟩ := h
  obtain ⟨i, hi, -⟩ := map_eq_some_iff.mp (not_not.mp hidx)
  obtain ⟨_, hsp, hsender⟩ := lastIdx_eq_some hi
  obtain ⟨-, id, hid, hquery⟩ := secondary_of_getElem? hsps hsp
  have hquery := consensusErr_eq_ok.mp hquery
  have hsigner : ∃ addr, req.signatureAddr = some addr ∧ MayRecover env gvg addr := by
    rcases of_decide_eq_true hsender with hown | hsuccessor
    · exact ⟨_, hown.symm, .secondary hid hquery rfl⟩
    cases swapIn with
    | none => cases hsuccessor
    | some swapIn =>
      obtain ⟨info, _⟩ := swapIn
      have hsuccessor := of_decide_eq_true hsuccessor
      obtain ⟨hinfo, hsuccessorSP⟩ : env.querySwapInInfo noSpecifiedFamilyID gvg.id = .ok info ∧ _ := by
        unfold RecoverEnv.segmentSwapIn at hswapIn
        split at hswapIn
        · rw [map_eq_pure_bind] at hswapIn
          obtain ⟨_, hfound, hswapIn⟩ := bind_eq_ok.mp hswapIn
          cases pure_eq_ok.mp hswapIn
          exact swapInSuccessor_eq_ok.mp hfound
        · cases hswapIn
      have htarget : info.targetSpID ∈ gvg.secondarySpIDs := by
        rw [← hsuccessor.1, env.querySPByID_id hquery]
        exact hid
      exact ⟨_, hsuccessor.2.symm, .successorSecondary hinfo htarget hsuccessorSP rfl⟩
  obtain ⟨addr, haddr, hmay⟩ := hsigner
  have hkey : read.task.key = .segment req.object.id req.task.segmentIdx req.object.version := by
    split at h
    · cases pure_eq_ok.mp h
      rfl
    · cases pure_eq_ok.mp h
      rfl
  refine ⟨⟨gvg, addr, hgvg, haddr, hmay, ?_⟩, hkey⟩
  intro _ hi
  rw [hkey] at hi
  cases hi

end

/-! ## What is recovered -/

section
variable (answer : {β : Type} → PeerCall β → β) (env : RecoverEnv) (header : Option RecoverPieceTask)

/-- Data is returned only of a piece of the object on chain, to an SP that may
recover it. -/
def RecoveryAuthorised : Prop :=
  ∀ data, eval answer (env.getRecoverDataHandler header) = .ok data →
    ∀ t ∈ observe answer PeerCall.pieces (env.getRecoverDataHandler header),
      ∃ req, Found env header req ∧ Entitled env req t.key ∧
        t.key.objectID = req.chainObject.id ∧ t.key.version = req.chainObject.version ∧
        t.key.segmentIdx < segmentPieceCount req.chainObject.payloadSize req.params.maxSegmentSize

/-- What the SP reads for a request. -/
def RecoverEnv.recoverRead (req : RecoverRequest) : Except PeerErr RecoverRead :=
  if req.toPrimary then env.recoverSegment req else env.recoverPiece req

/-- The task passes every check, and the piece that it asks for is stored. -/
structure AsksToRecover (req : RecoverRequest) (read : RecoverRead) : Prop where
  request : env.getRecoverRequest header = .ok req
  planned : env.recoverRead req = .ok read
  stored : ∃ data, env.deliver req read (answer (.getPiece read.task)) = .ok data

/-- The object of the task is the one on chain. A secondary SP takes the version
from chain anyway. -/
structure SameObject (req : RecoverRequest) : Prop where
  id : req.object.id = req.chainObject.id
  version : req.toPrimary = true → req.object.version = req.chainObject.version
  segmentIdx : req.task.segmentIdx <
    segmentPieceCount req.chainObject.payloadSize req.params.maxSegmentSize

variable {answer env header}

theorem recoverHandler_eq :
    env.getRecoverDataHandler header = after (env.getRecoverRequest header) fun req =>
      after (env.recoverRead req) (env.fetch req) := by
  unfold RecoverEnv.getRecoverDataHandler RecoverEnv.getRecoverSegment RecoverEnv.getRecoverPiece
    RecoverEnv.recoverRead
  congr 1
  funext req
  split
  · rfl
  · rfl

theorem mem_recovered_iff {t : PieceTask} :
    t ∈ observe answer PeerCall.pieces (env.getRecoverDataHandler header) ↔
      ∃ req read, env.getRecoverRequest header = .ok req ∧ env.recoverRead req = .ok read ∧
        read.task = t := by
  simp only [recoverHandler_eq, mem_observe_after, RecoverEnv.fetch, observe_bind,
    observe_do, observe_pure, PeerCall.pieces, append_nil, mem_singleton, exists_and_left, eq_comm]

theorem eval_recover_iff {data : Data} : eval answer (env.getRecoverDataHandler header) = .ok data ↔
      ∃ req read, env.getRecoverRequest header = .ok req ∧ env.recoverRead req = .ok read ∧
        env.deliver req read (answer (.getPiece read.task)) = .ok data := by
  simp only [recoverHandler_eq, eval_after_ok, RecoverEnv.fetch, eval_bind, eval_do,
    eval_pure, exists_and_left]

/-- The sender is entitled to the share, whatever object it names. The key holds
the object and the segment of the task. -/
theorem recoverRead_spec {req : RecoverRequest} {read : RecoverRead}
    (hfound : Found env header req) (h : env.recoverRead req = .ok read) :
    Entitled env req read.task.key ∧ read.task.key.objectID = req.object.id ∧
      read.task.key.segmentIdx = req.task.segmentIdx ∧
      read.task.key.version =
        if req.toPrimary then req.object.version else req.chainObject.version := by
  unfold RecoverEnv.recoverRead at h
  cases hroute : req.toPrimary with
  | true =>
    rw [hroute, if_pos rfl] at h
    obtain ⟨hentitled, hkey⟩ := recoverSegment_spec h
    exact ⟨hentitled, by simp [hkey, objectID, segmentIdx, version]⟩
  | false =>
    rw [hroute, if_neg Bool.false_ne_true] at h
    obtain ⟨hentitled, _, hkey⟩ := recoverPiece_spec hfound h
    exact ⟨hentitled, by simp [hkey, objectID, segmentIdx, version]⟩

end

/-- **Recovery.** Only the object on chain is recovered, and only by its SPs and
their successors, if and only if every task that passes the checks and asks for a
stored piece names the id, version and a segment of that object. -/
theorem recovery_authorised_iff (answer : {β : Type} → PeerCall β → β) (env : RecoverEnv)
    (header : Option RecoverPieceTask) : RecoveryAuthorised answer env header ↔
      ∀ req read, AsksToRecover answer env header req read → SameObject req := by
  constructor
  · rintro h req read ⟨hreq, hread, data, hdata⟩
    have hfound := found_of_getRecoverRequest hreq
    obtain ⟨-, hid, hseg, hversion⟩ := recoverRead_spec hfound hread
    obtain ⟨req', hfound', -, hid', hversion', hseg'⟩ :=
      h data (eval_recover_iff.mpr ⟨req, read, hreq, hread, hdata⟩) read.task
        (mem_recovered_iff.mpr ⟨req, read, hreq, hread, rfl⟩)
    -- the request that was found is the only one
    have htask : req.task = req'.task := some.inj (hfound.task.symm.trans hfound'.task)
    have hobject : req.object = req'.object := some.inj (hfound.object.symm.trans (htask ▸ hfound'.object))
    have hmeta := hfound.onChain.symm.trans (hobject ▸ hfound'.onChain)
    simp only [ok.injEq, Prod.mk.injEq] at hmeta
    rw [← hmeta.1] at hid' hversion' hseg'
    rw [← hmeta.2.2, hseg] at hseg'
    refine ⟨hid.symm.trans hid', fun hroute => ?_, hseg'⟩
    rw [hroute, if_pos rfl] at hversion
    exact hversion.symm.trans hversion'
  · intro h data hdata _ hmem
    obtain ⟨req, read, hreq, hread, rfl⟩ := mem_recovered_iff.mp hmem
    obtain ⟨_, _, hreq', hread', hdata⟩ := eval_recover_iff.mp hdata
    -- the handler reads one piece
    cases hreq.symm.trans hreq'
    cases hread.symm.trans hread'
    have hfound := found_of_getRecoverRequest hreq
    obtain ⟨hentitled, hid, hseg, hversion⟩ := recoverRead_spec hfound hread
    have hsame := h req read ⟨hreq, hread, data, hdata⟩
    refine ⟨req, hfound, hentitled, hid.trans hsame.id, ?_, hseg ▸ hsame.segmentIdx⟩
    rw [hversion]
    split
    next hroute => exact hsame.version hroute
    · rfl

-- SP 1 is the primary SP of a group with SP 2. Object 10 is in that group. SP 2
-- names object 10 and puts the id 77 beside the name.
def recoverEnv : RecoverEnv where
  sigs := ⟨fun _ _ => .ok 102, fun _ _ => true⟩
  age _ := 0
  getObjectChainMeta _ _ := .ok (⟨10, 0, 8, true, 3⟩, ⟨5, 1⟩, ⟨4, 2, 16⟩)
  operatorAddress := 101
  getSPID := .ok 1
  getBucketPrimarySPID _ := .ok 1
  querySPByID id := .ok ⟨id, 100 + id⟩
  querySPByID_id := by
    intro id sp h
    cases h
    rfl
  getGlobalVirtualGroup _ _ := .ok ⟨7, 1, 1, [2]⟩
  gvg_primary := by
    intro _ _ _ _ _ _ _ _ hgvg hprimary
    cases hgvg
    cases hprimary
    rfl
  querySwapInInfo _ _ := .error .consensus
  encodeRawSegment _ _ _ := .error .crash

def recoverHeader : Option RecoverPieceTask :=
  some ⟨⟨some ⟨⟨77, 0, 8, ['o'], ['b']⟩, true⟩, 0, 0, 0⟩, ['s'], false⟩

/-- It gets a share of object 77. -/
theorem foreign_object_recovered :
    eval foreignAnswer (recoverEnv.getRecoverDataHandler recoverHeader) = .ok [1, 2, 3] ∧
      ¬ RecoveryAuthorised foreignAnswer recoverEnv recoverHeader := by
  have hdata : eval foreignAnswer (recoverEnv.getRecoverDataHandler recoverHeader) =
      .ok [1, 2, 3] := by
    decide
  refine ⟨hdata, ?_⟩
  intro h
  obtain ⟨req, hfound, -, hid, -⟩ := h _ hdata ⟨.segment 77 0 0, 0, 2⟩ (by decide)
  have hmeta := hfound.onChain
  cases req
  cases hmeta
  cases hid

end Peer

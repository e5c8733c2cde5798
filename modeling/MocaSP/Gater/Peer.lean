-- SUMMARY: Requests of other SPs: signed tasks and the handlers they reach.
import MocaSP.Base.Prog
import MocaSP.Metadata.Events

/-!
# Requests between SPs

During a migration the destination asks the source SP to deduct or recoup quota
and to hand out pieces. A request carries a task that the peer has signed; the
gateway looks the signer up on chain and asks the metadata service whether it may
migrate.

The reads of a handler are given by a `PeerEnv`. What a handler sets in motion
are calls.
-/

namespace Peer
open Except

open Metadata (Effect EventErr EventTables Address)

inductive PeerErr where
  | decodeMsg | noPermission | recover | consensus
  | rpc (e : EventErr)
  | rpcUnknown | invalidHeader | invalidRedundancyIndex
  /-- The handler panics. -/
  | crash
  | notify
  /-- "the bucket has already notified" -/
  | alreadyNotified
  | pieceStore | pieceStoreNoSuchKey
  | signature | taskMsgExpired | recoveryRedundancyType | notSealedState
  | recoveryPieceIndex | recoverySP
  deriving DecidableEq

/-- A storage provider on chain. -/
structure StorageProvider where
  id : Nat
  operatorAddress : Address

/-! ## Messages -/

/-- A task and its signature. -/
structure Signed (α : Type) where
  task : α
  signature : Text

structure MigrateGVGTask where
  bucketID : Nat
  srcGvgID : Nat
  redundancyIdx : Int
  expireTime : Int

structure BucketMigrationInfo where
  bucketID : Nat
  finished : Bool
  migratedBytesSize : Nat
  expireTime : Int

/-- The object as a message describes it. -/
structure MsgObject where
  id : Nat
  version : Int
  payloadSize : Nat
  objectName : Text
  bucketName : Text

structure StorageParams where
  redundantDataChunkNum : Nat
  redundantParityChunkNum : Nat
  maxSegmentSize : Nat

/-- The greatest redundancy index, as a 32-bit number. -/
def StorageParams.redundancyNumber (p : StorageParams) : Int :=
  ((p.redundantDataChunkNum : Int) + p.redundantParityChunkNum - 1).bmod (2 ^ 32)

structure MigratePieceTask where
  objectInfo : Option MsgObject
  storageParams : StorageParams
  segmentIdx : Nat
  redundancyIdx : Int

/-! ## Pieces -/

inductive PieceKey where
  | segment (objectID segmentIdx : Nat) (version : Int)
  | ec (objectID segmentIdx redundancyIdx : Nat) (version : Int)
  deriving DecidableEq

namespace PieceKey

def objectID : PieceKey → Nat
  | .segment objectID _ _ | .ec objectID _ _ _ => objectID

def segmentIdx : PieceKey → Nat
  | .segment _ segmentIdx _ | .ec _ segmentIdx _ _ => segmentIdx

def version : PieceKey → Int
  | .segment _ _ version | .ec _ _ _ version => version

/-- The redundancy index, if the piece is not a whole segment. -/
def redundancyIdx : PieceKey → Option Nat
  | .segment _ _ _ => none
  | .ec _ _ redundancyIdx _ => some redundancyIdx

end PieceKey

def segmentPieceCount (payloadSize maxSegmentSize : Nat) : Nat :=
  if maxSegmentSize = 0 then 1
  else (payloadSize / maxSegmentSize + if payloadSize % maxSegmentSize > 0 then 1 else 0) % 2 ^ 32

def segmentPieceSize (payloadSize segmentIdx maxSegmentSize : Nat) : Int :=
  let segmentCount := segmentPieceCount payloadSize maxSegmentSize
  if segmentCount = 1 then payloadSize
  else if segmentIdx + 1 = segmentCount then payloadSize - (segmentCount - 1) * maxSegmentSize
  else maxSegmentSize

/-- The share of a segment in each data chunk, rounded up. Without data chunks
the division panics. -/
def ecPieceSize (payloadSize segmentIdx maxSegmentSize dataChunkNum : Nat) : Except PeerErr Int :=
  if dataChunkNum = 0 then .error .crash
  else
    let segmentSize := segmentPieceSize payloadSize segmentIdx maxSegmentSize
    let size := segmentSize.tdiv dataChunkNum
    .ok (if segmentSize > 0 ∧ segmentSize.tmod dataChunkNum ≠ 0 then size + 1 else size)

/-- A download of part of a piece. -/
structure PieceTask where
  key : PieceKey
  offset : Int
  length : Int
  deriving DecidableEq

/-! ## Calls -/

abbrev Data := List UInt8

inductive PeerCall : Type → Type where
  | notifyPreMigrateBucketAndDeductQuota (bucketID : Nat) : PeerCall (Except PeerErr Unit)
  | notifyPostMigrateBucketAndRecoupQuota (info : BucketMigrationInfo) : PeerCall (Except PeerErr Unit)
  | getPiece (task : PieceTask) : PeerCall (Except PeerErr Data)

abbrev Reply (α : Type) := Except PeerErr α

/-- The code of a handler. -/
abbrev Code := Prog PeerCall

/-- Go on with the value of a check, or return its error. -/
def after {α β : Type} (check : Except PeerErr α) (next : α → Code (Reply β)) : Code (Reply β) :=
  match check with
  | .error e => .ret (.error e)
  | .ok a => next a

/-! ## Reads -/

/-- Signatures of tasks: the address recovered from one, and whether it is in
canonical form for that address. -/
structure SigCheck (α : Type) where
  recoverAddr : α → Text → Except PeerErr Address
  verify : α → Text → Bool

/-- A signature that recovers an address and does not verify returns no address
and no error. -/
def verifyTaskSignature {α : Type} (sigs : SigCheck α) (m : Signed α) :
    Except PeerErr (Option Address) := do
  let addr ← sigs.recoverAddr m.task m.signature
  return if sigs.verify m.task m.signature then some addr else none

/-- What the chain and the metadata service answer. -/
structure PeerEnv where
  /-- In seconds. -/
  now : Int
  gvgSigs : SigCheck MigrateGVGTask
  infoSigs : SigCheck BucketMigrationInfo
  querySP : Option Address → Except PeerErr StorageProvider
  /-- No SP has the empty address. -/
  querySP_none : ∀ sp, querySP none ≠ .ok sp
  events : EventTables
  /-- The metadata service and its database can be reached. -/
  metadataUp : Bool
  /-- The queries for an object, its bucket and its parameters all succeed. -/
  hasObjectChainMeta : (objectName bucketName : Text) → Bool
  /-- The bucket and the group of each object. -/
  placeOf : Nat → Option (Nat × Nat)

namespace PeerEnv
variable (env : PeerEnv)

/-- The call to the metadata service. Its errors keep their text. -/
def verifyMigrateGVGPermission (bucketID gvgID dstSpID : Nat) : Except PeerErr Effect :=
  if env.metadataUp then
    (env.events.gfSpVerifyMigrateGVGPermission bucketID gvgID dstSpID).mapError .rpc
  else .error .rpcUnknown

/-- The SP that signed an unexpired task. A header that does not decode is
`none`. -/
def verifySignatureAndSP {α : Type} (sigs : SigCheck α) (expireTime : α → Int)
    (header : Option (Signed α)) : Except PeerErr (α × StorageProvider) := do
  let m ← orFail header .decodeMsg
  failIf (expireTime m.task < env.now) .noPermission
  let destSPAddr ← verifyTaskSignature sigs m
  let sp ← env.querySP destSPAddr
  return (m.task, sp)

end PeerEnv

/-! ## Quota of a migrating bucket -/

/-- What the metadata service's answer means for the quota. That the bucket is
not in migration is let through. -/
def quotaAllowed : Except PeerErr Effect → Except PeerErr Bool
  | .error (.rpc .bucketNotInMigration) => .ok true
  | .error e => .error e
  | .ok effect => .ok (effect = .allow)

variable (env : PeerEnv)

/-- Whether the signer may change the quota of the bucket. -/
def checkMigrateBucketQuotaAuth (header : Option (Signed BucketMigrationInfo)) :
    Except PeerErr (Bool × BucketMigrationInfo) := do
  let (info, sp) ← env.verifySignatureAndSP env.infoSigs (·.expireTime) header
  let allowMigrate ← quotaAllowed (env.verifyMigrateGVGPermission info.bucketID 0 sp.id)
  return (allowMigrate, info)

/-- A handler that notifies the manager of a bucket's migration. -/
def migrateBucketHandler (notify : BucketMigrationInfo → PeerCall (Except PeerErr Unit))
    (env : PeerEnv) (header : Option (Signed BucketMigrationInfo)) : Code (Reply Unit) :=
  after (checkMigrateBucketQuotaAuth env header) fun (allowMigrate, info) =>
    if allowMigrate then Prog.do_ (notify info) else .ret (.error .noPermission)

/-- A bucket that was notified before is no error. -/
def preMigrateBucketHandler (header : Option (Signed BucketMigrationInfo)) : Code (Reply Unit) := do
  let result ← migrateBucketHandler
    (fun info => .notifyPreMigrateBucketAndDeductQuota info.bucketID) env header
  return if result = .error .alreadyNotified then .ok () else result

def postMigrateBucketHandler : PeerEnv → Option (Signed BucketMigrationInfo) → Code (Reply Unit) :=
  migrateBucketHandler .notifyPostMigrateBucketAndRecoupQuota

/-! ## Pieces of a migrating group -/

def checkMigratePieceAuth (header : Option (Signed MigrateGVGTask)) : Except PeerErr Bool := do
  let (task, sp) ← env.verifySignatureAndSP env.gvgSigs (·.expireTime) header
  let effect ← env.verifyMigrateGVGPermission task.bucketID task.srcGvgID sp.id
  return effect = .allow

/-- The piece that a message asks for. Object, version and sizes are those of the
message. -/
def migratePieceTask (object : MsgObject) (m : MigratePieceTask) : Except PeerErr PieceTask := do
  let params := m.storageParams
  failIf (object.id ≥ 2 ^ 64) .crash
  failIf (m.redundancyIdx < -1 ∨ m.redundancyIdx > params.redundancyNumber)
    .invalidRedundancyIndex
  if m.redundancyIdx = -1 then
    return {
      key := .segment object.id m.segmentIdx object.version
      offset := 0
      length := segmentPieceSize object.payloadSize m.segmentIdx params.maxSegmentSize }
  else do
    let size ← ecPieceSize object.payloadSize m.segmentIdx params.maxSegmentSize
      params.redundantDataChunkNum
    return {
      key := .ec object.id m.segmentIdx m.redundancyIdx.toNat object.version
      offset := 0
      length := size }

def migratePieceHandler (pieceHeader : Option MigratePieceTask)
    (gvgHeader : Option (Signed MigrateGVGTask)) : Code (Reply Data) :=
  after (orFail pieceHeader .decodeMsg) fun m =>
  after (checkMigratePieceAuth env gvgHeader) fun allowMigrate =>
  after (failIf (allowMigrate = false) .noPermission) fun _ =>
  after (orFail m.objectInfo .invalidHeader) fun object =>
  after (failIf (env.hasObjectChainMeta object.objectName object.bucketName = false)
    .invalidHeader) fun _ =>
  after (migratePieceTask object m) fun task => Prog.do_ (.getPiece task)

end Peer

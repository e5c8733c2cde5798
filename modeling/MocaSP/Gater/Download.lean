-- SUMMARY: Downloading an object: its pieces, their charges and refunds.
import MocaSP.Gater.Peer
import MocaSP.Quota.Traffic

/-!
# Downloading an object

The gateway splits the range into segment pieces and asks the downloader for one
after the other. The downloader charges the whole range with the first piece.
When the download fails, the gateway refunds what it thinks was charged and not
delivered.

A piece call goes as its environment says: the connection, the queries, the
database and the piece store may fail, each at its place. Contents of pieces are
not modelled; the piece store returns as many bytes as it is asked for.
-/

namespace Download
open List Option
open Peer (segmentPieceCount)

open Traffic

inductive DownloadErr where
  | invalidRange
  | invalidParam
  | replyData
  | rpcUnknown
  | exhaustResource
  | downloadStatus
  | consensus
  | gfSpDB
  | exceedBucketQuota
  | exceedRequest
  | pieceStore
  | noSuchKey
  | other              -- an error without a code of its own
  deriving DecidableEq

def DownloadErr.innerCode : DownloadErr → Nat
  | .invalidRange => 50012
  | .invalidParam => 30005
  | .replyData => 50037
  | .rpcUnknown => 98001
  | .exhaustResource => 990302
  | .downloadStatus => 30009
  | .consensus => 85201
  | .gfSpDB => 85201
  | .exceedBucketQuota => 30004
  | .exceedRequest => 30003
  | .pieceStore => 85101
  | .noSuchKey => 85102
  | .other => 999999

/-! ## The downloader -/

/-- What `PreDownloadPiece` finds when it charges. -/
structure QuotaEnv where
  table : Table
  yearMonth : Month
  trafficFails : Bool := false
  freeQuota : Option UInt64
  monthlyFreeQuota : UInt64
  chargedReadQuota : UInt64
  initFaults : Faults := {}
  chargeFaults : Faults := {}
  /-- The read record is not inserted. -/
  recordFails : Bool := false

/-- The outcome, and whether the quota was charged. -/
def checkQuotaAndAddReadRecord (bucketID readSize : UInt64) (q : QuotaEnv) (t : Table) :
    Except TrafficErr Unit × Bool :=
  match (updateConsumedQuota q.chargeFaults bucketID q.yearMonth readSize q.chargedReadQuota t).eval.1 with
  | .error e => (.error e, false)
  | .ok _ => if q.recordFails then (.error .other, true) else (.ok (), true)

variable (bucketID : UInt64)

/-- The traffic table with a row for the month. -/
def ensureTraffic (q : QuotaEnv) : Except DownloadErr Table :=
  if q.trafficFails then .error .other
  else if (q.table.find bucketID q.yearMonth).isSome then .ok q.table
  else
    match q.freeQuota with
    | none => .error .consensus
    | some freeQuotaSize =>
      match (initBucketTraffic q.initFaults bucketID q.yearMonth
          { chargedQuotaSize := q.chargedReadQuota, freeQuotaSize,
            monthlyFreeQuotaSize := q.monthlyFreeQuota } q.table).eval with
      | (.error _, _) => .error .gfSpDB
      | (.ok _, table) => .ok table

/-- The part of `PreDownloadPiece` that charges. -/
def checkQuota (bucketID totalSize : UInt64) (q : QuotaEnv) : Except DownloadErr Unit × Bool :=
  match ensureTraffic bucketID q with
  | .error e => (.error e, false)
  | .ok table =>
    match checkQuotaAndAddReadRecord bucketID totalSize q table with
    | (.error .quotaNotEnough, charged) => (.error .exceedBucketQuota, charged)
    | (.error _, charged) => (.error .gfSpDB, charged)
    | (.ok _, charged) => (.ok (), charged)

inductive ObjectStatus where
  | created
  | sealed
  | other
  deriving DecidableEq

structure PreEnv where
  status : ObjectStatus := .sealed
  /-- The integrity of a created object is found. -/
  integrity : Bool := true
  /-- The operator of the bucket's primary SP, unless a query fails. -/
  primarySP : Option String
  quota : QuotaEnv

variable (userAddress : String) (enableCheck : Bool) (totalSize : UInt64)

def preDownloadPiece (env : PreEnv) : Except DownloadErr Unit × Bool :=
  if env.status ≠ .sealed ∧ env.status ≠ .created then (.error .downloadStatus, false)
  else if env.status = .created ∧ env.integrity = false then (.error .downloadStatus, false)
  else
    match env.primarySP with
    | none => (.error .other, false)
    | some operatorAddress =>
      if userAddress = operatorAddress then (.ok (), false)
      else if enableCheck then checkQuota bucketID totalSize env.quota
      else (.ok (), false)

inductive StoreResult where
  | found
  | noSuchKey
  | failed

structure HandleEnv where
  /-- As many downloads are running as may be. -/
  exceeded : Bool := false
  cached : Bool := false
  store : StoreResult := .found

def handleDownloadPieceTask (env : HandleEnv) : Except DownloadErr Unit :=
  if env.exceeded then .error .exceedRequest
  else if env.cached then .ok ()
  else
    match env.store with
    | .found => .ok ()
    | .noSuchKey => .error .noSuchKey
    | .failed => .error .pieceStore

/-- The connection to the downloader. -/
inductive Link where
  | up
  | down           -- the call does not arrive
  | exhausted      -- the downloader has no resources for it
  | lost           -- the answer does not arrive

/-- What happens to one piece: to the call that reads it, and to the write of its
data, which fails after some bytes or succeeds. -/
structure PieceEnv where
  link : Link := .up
  pre : PreEnv
  handle : HandleEnv := {}
  writeFails : Option Nat := none

def onDownloadPieceTask (env : PieceEnv) : Except DownloadErr Unit × Bool :=
  match preDownloadPiece bucketID userAddress enableCheck totalSize env.pre with
  | (.error e, charged) => (.error e, charged)
  | (.ok _, charged) => (handleDownloadPieceTask env.handle, charged)

/-- `GetPiece`: whether the piece was read, and whether the quota was charged. -/
def getPiece (env : PieceEnv) : Except DownloadErr Unit × Bool :=
  match env.link with
  | .up => onDownloadPieceTask bucketID userAddress enableCheck totalSize env
  | .down => (.error .rpcUnknown, false)
  | .exhausted => (.error .exhaustResource, false)
  | .lost =>
    (.error .rpcUnknown, (onDownloadPieceTask bucketID userAddress enableCheck totalSize env).2)

/-! ## The gateway -/

/-- What a download reads of the object. Its segments are counted by 32 bits. -/
structure Object where
  payloadSize : Nat
  maxSegmentSize : Nat
  segment_pos : 0 < maxSegmentSize
  count_fits : payloadSize ≤ (2 ^ 32 - 1) * maxSegmentSize

structure SegmentPieceInfo where
  segmentIndex : Nat
  offset : Nat
  length : Nat

/-- The loop of `SplitToSegmentPieceInfos`, with `count` segments to go. -/
def splitFrom (segmentSize low high : Nat) : (index count : Nat) → List SegmentPieceInfo
  | _, 0 => []
  | index, count + 1 =>
    let currentStart := index * segmentSize
    let currentEnd := (index + 1) * segmentSize - 1
    if low > currentEnd then splitFrom segmentSize low high (index + 1) count
    else
      let currentStart := if low > currentStart then low else currentStart
      if high ≤ currentEnd then [⟨index, currentStart - index * segmentSize, high - currentStart + 1⟩]
      else ⟨index, currentStart - index * segmentSize, currentEnd - currentStart + 1⟩ ::
        splitFrom segmentSize low high (index + 1) count

def splitToSegmentPieceInfos (o : Object) (low high : Nat) : Except DownloadErr (List SegmentPieceInfo) :=
  if o.payloadSize = 0 ∨ low ≥ o.payloadSize ∨ high ≥ o.payloadSize ∨ high < low then .error .invalidParam
  else .ok (splitFrom o.maxSegmentSize low high 0 (segmentPieceCount o.payloadSize o.maxSegmentSize))

/-- The variables of `downloadObject`, and what was charged and written. -/
structure Progress where
  err : Option DownloadErr := none
  extraQuota : Nat := 0
  consumedQuota : Nat := 0
  triggerRecoveryErr : Option DownloadErr := none
  charged : Nat := 0
  written : Nat := 0

/-- How a download ends. -/
structure Outcome where
  result : Except DownloadErr Unit
  charged : Nat
  recouped : Nat
  written : Nat
  deriving DecidableEq

variable (s : Progress)

/-- Return, and run the deferred function: it looks at `err`, not at what is returned. -/
def Progress.finish (result : Except DownloadErr Unit) : Outcome where
  __ := s
  result
  recouped := if s.err.isSome ∧ s.extraQuota > 0 then s.extraQuota else 0

/-- A download, and what happens to each of its pieces. -/
structure Request where
  bucketID : UInt64
  account : String
  object : Object
  env : Nat → PieceEnv

variable (r : Request)

/-- The call for a piece of the download. The quota is checked with the first one only. -/
def Request.piece (downloadSize idx : Nat) : Except DownloadErr Unit × Bool :=
  getPiece r.bucketID r.account (idx = 0) (UInt64.ofNat downloadSize) (r.env idx)

namespace Progress

def charge (downloadSize : Nat) (charged : Bool) : Progress :=
  { s with charged := s.charged + if charged then downloadSize else 0 }

/-- The call for a piece failed. For the first piece, the gateway takes it that
only some codes come after the charge. -/
def fail (downloadSize idx : Nat) (e : DownloadErr) : Progress :=
  if idx ≥ 1 ∨ (idx = 0 ∧ (e.innerCode = 85101 ∨ e.innerCode = 85102)) then
    { s with err := some e, extraQuota := downloadSize - s.consumedQuota }
  else { s with err := some e }

/-- The write of a piece broke off. -/
def breakOff (downloadSize written : Nat) : Progress :=
  { s with
    err := some .replyData
    extraQuota := downloadSize - s.consumedQuota
    written := s.written + written }

def deliver (length : Nat) : Progress :=
  { s with err := none, consumedQuota := s.consumedQuota + length, written := s.written + length }

end Progress

/-- The loop over the pieces. -/
def downloadPieces (r : Request) (downloadSize segmentCount : Nat) :
    (idx : Nat) → List SegmentPieceInfo → Progress → Outcome
  | _, [], s =>
    match s.triggerRecoveryErr with
    | some e => s.finish (.error e)
    | none => s.finish (.ok ())
  | idx, pInfo :: rest, s =>
    let s := s.charge downloadSize (r.piece downloadSize idx).2
    match (r.piece downloadSize idx).1 with
    | .error e =>
      let s := s.fail downloadSize idx e
      if e.innerCode = 85101 then
        if pInfo.segmentIndex ≥ segmentCount then s.finish (.error e)
        else downloadPieces r downloadSize segmentCount (idx + 1) rest { s with triggerRecoveryErr := some e }
      else if s.triggerRecoveryErr.isNone then s.finish (.error e)
      else downloadPieces r downloadSize segmentCount (idx + 1) rest s
    | .ok _ =>
      if s.triggerRecoveryErr.isSome then
        downloadPieces r downloadSize segmentCount (idx + 1) rest { s with err := none }
      else
        match (r.env idx).writeFails with
        | some n => (s.breakOff downloadSize (min n pInfo.length)).finish (.error .replyData)
        | none => downloadPieces r downloadSize segmentCount (idx + 1) rest (s.deliver pInfo.length)

/-- `downloadObject` for the offsets of a range, once the chain was queried. -/
def downloadObject (lowOffset highOffset : Nat) : Outcome :=
  match splitToSegmentPieceInfos r.object lowOffset highOffset with
  | .error e => Progress.finish { err := some e } (.error e)
  | .ok pieceInfos =>
    downloadPieces r (highOffset - lowOffset + 1)
      (segmentPieceCount r.object.payloadSize r.object.maxSegmentSize) 0 pieceInfos {}

/-! ## The pieces of a range -/

/-- The bytes of the pieces. -/
def totalLength (pieces : List SegmentPieceInfo) : Nat := (pieces.map (·.length)).sum

variable {β : Type} {high low size : Nat}

/-- The bytes of a piece, in the segments of `payload`. -/
def SegmentPieceInfo.read (size : Nat) (payload : List β) (p : SegmentPieceInfo) : List β :=
  (((payload.drop (p.segmentIndex * size)).take size).drop p.offset).take p.length

/-- A piece lies in its segment, and fills it unless an end of the range is there. -/
def SegmentPieceInfo.Within (size low high : Nat) (p : SegmentPieceInfo) : Prop :=
  0 < p.length ∧ p.segmentIndex * size + p.offset + p.length ≤ high + 1 ∧ p.offset + p.length ≤ size ∧
    (low = 0 → p.length = min size (high + 1 - p.segmentIndex * size))

/-- The pieces of the segments from `index` on are the range from there on. -/
structure Covers (payload : List β) (size low high index : Nat) (pieces : List SegmentPieceInfo) :
    Prop where
  total : totalLength pieces = high - max low (index * size) + 1
  read : pieces.flatMap (SegmentPieceInfo.read size payload) =
    (payload.drop (max low (index * size))).take (high + 1 - max low (index * size))
  indexes : ∃ first, pieces.map (·.segmentIndex) = range' first pieces.length ∧
    first + pieces.length = high / size + 1 ∧ (low < index * size + size → first = index)
  within : ∀ p ∈ pieces, p.Within size low high

theorem splitFrom_covers (hpos : 0 < size) (hle : low ≤ high) (payload : List β) (index count : Nat)
    (hstart : index * size ≤ high) (hend : high < (index + count) * size) :
    Covers payload size low high index (splitFrom size low high index count) := by
  induction count generalizing index with
  | zero =>
    rw [Nat.add_zero] at hend
    omega
  | succ count ih =>
    have hnext := Nat.add_one_mul index size
    rw [show index + (count + 1) = index + 1 + count by omega] at hend
    unfold splitFrom
    dsimp only
    rw [hnext, show (if low > index * size then low else index * size) = max low (index * size) by
      split <;> omega]
    split
    · obtain ⟨htotal, hread, ⟨first, hmap, hlast, -⟩, hmem⟩ := ih (index + 1) (by omega) hend
      rw [hnext, show max low (index * size + size) = max low (index * size) by omega] at htotal hread
      exact ⟨htotal, hread, ⟨first, hmap, hlast, by omega⟩, hmem⟩
    have hs : index * size ≤ max low (index * size) := by omega
    have hs' : max low (index * size) < index * size + size := by omega
    split
    · have hdiv : high / size = index := Nat.div_eq_of_lt_le hstart (by omega)
      refine ⟨by simp [totalLength], ?_, ⟨index, rfl, by simp [hdiv], fun _ => rfl⟩, ?_⟩
      · simp only [flatMap_singleton, SegmentPieceInfo.read, drop_take, drop_drop, take_take]
        congr 2 <;> omega
      · simp only [mem_singleton, forall_eq, SegmentPieceInfo.Within]
        omega
    · obtain ⟨htotal, hread, ⟨first, hmap, hlast, hfirst⟩, hmem⟩ := ih (index + 1) (by omega) hend
      obtain rfl := hfirst (by omega)
      rw [hnext, Nat.max_eq_right (by omega)] at htotal hread
      refine ⟨?_, ?_, ⟨index, ?_, ?_, fun _ => rfl⟩, forall_mem_cons.2 ⟨?_, hmem⟩⟩
      · rw [totalLength] at htotal
        simp only [totalLength, map_cons, sum_cons, htotal]
        omega
      · simp only [flatMap_cons, hread, SegmentPieceInfo.read, drop_take, drop_drop, take_take]
        rw [show high + 1 - max low (index * size) = index * size + size - max low (index * size) +
          (high + 1 - (index * size + size)) by omega, take_add, drop_drop]
        congr 3 <;> omega
      · rw [map_cons, hmap, length_cons, range'_succ]
      · rw [length_cons]
        omega
      · simp only [SegmentPieceInfo.Within]
        omega

namespace Object

variable (o : Object)

theorem lt_count_iff (i : Nat) :
    i < segmentPieceCount o.payloadSize o.maxSegmentSize ↔ i * o.maxSegmentSize < o.payloadSize := by
  have hpos := o.segment_pos
  have hfits := o.count_fits
  rw [segmentPieceCount, if_neg hpos.ne']
  split
  next hrest =>
    -- a rest leaves room for one more segment
    have hne : ∀ j, j * o.maxSegmentSize ≠ o.payloadSize := by
      rintro _ heq
      simp [← heq] at hrest
    have := hne i
    have := (Nat.div_lt_iff_lt_mul hpos).2 (hfits.lt_of_ne (hne _).symm)
    rw [Nat.mod_eq_of_lt (by omega), Nat.lt_succ_iff, Nat.le_div_iff_mul_le hpos]
    omega
  next hrest =>
    have hmod := Nat.div_add_mod' o.payloadSize o.maxSegmentSize
    have := Nat.div_le_of_le_mul (Nat.mul_comm .. ▸ hfits)
    rw [Nat.mod_eq_of_lt (by omega), Nat.add_zero, ← Nat.mul_lt_mul_right hpos]
    omega

theorem segmentPieceSize_eq {i : Nat} (hi : i * o.maxSegmentSize < o.payloadSize) :
    Peer.segmentPieceSize o.payloadSize i o.maxSegmentSize =
      (min o.maxSegmentSize (o.payloadSize - i * o.maxSegmentSize) : Nat) := by
  have hlt := (o.lt_count_iff i).2 hi
  have hnext := o.lt_count_iff (i + 1)
  rw [Nat.add_one_mul] at hnext
  rw [Peer.segmentPieceSize]
  generalize segmentPieceCount o.payloadSize o.maxSegmentSize = c at *
  by_cases hlast : i + 1 = c
  · subst hlast
    rw [if_pos rfl, Int.natCast_succ, Int.add_sub_cancel]
    split_ifs with hone
    · obtain rfl : i = 0 := by omega
      omega
    · omega
  · rw [if_neg (by omega), if_neg hlast]
    omega

theorem split_covers (hle : low ≤ high) (hhigh : high < o.payloadSize) (payload : List β) :
    ∃ pieces, splitToSegmentPieceInfos o low high = .ok pieces ∧
      Covers payload o.maxSegmentSize low high 0 pieces := by
  have hend := (o.lt_count_iff _).not.1 (Nat.lt_irrefl _)
  exact ⟨_, if_neg (by omega), splitFrom_covers o.segment_pos hle payload 0 _ (by omega)
    (by rw [Nat.zero_add]; omega)⟩

end Object

/-- A range is split into exactly its bytes, whatever the payload is. -/
theorem range_exact (o : Object) (hle : low ≤ high) (hhigh : high < o.payloadSize) (payload : List β) :
    ∃ pieces, splitToSegmentPieceInfos o low high = .ok pieces ∧
      (∃ first, pieces.map (·.segmentIndex) = range' first pieces.length) ∧
      (∀ p ∈ pieces, 0 < p.length ∧ (p.offset + p.length : Nat) ≤
        Peer.segmentPieceSize o.payloadSize p.segmentIndex o.maxSegmentSize) ∧
      pieces.flatMap (SegmentPieceInfo.read o.maxSegmentSize payload) =
        (payload.drop low).take (high + 1 - low) ∧
      (low = 0 → high + 1 = o.payloadSize →
        pieces.map (fun p => (p.length : Int)) = (range (segmentPieceCount o.payloadSize
          o.maxSegmentSize)).map (Peer.segmentPieceSize o.payloadSize · o.maxSegmentSize) ∧
        totalLength pieces = o.payloadSize) := by
  have hpos := o.segment_pos
  obtain ⟨pieces, hok, htotal, hread, ⟨first, hmap, hlast, hfirst⟩, hwithin⟩ := o.split_covers hle hhigh payload
  rw [Nat.zero_mul, Nat.max_zero] at hread
  have hsize : ∀ p ∈ pieces, Peer.segmentPieceSize o.payloadSize p.segmentIndex o.maxSegmentSize =
      (min o.maxSegmentSize (o.payloadSize - p.segmentIndex * o.maxSegmentSize) : Nat) := by
    intro p hp
    obtain ⟨_, _, -⟩ := hwithin p hp
    exact o.segmentPieceSize_eq (by omega)
  refine ⟨pieces, hok, ⟨first, hmap⟩, fun p hp => ?_, hread, ?_⟩
  · obtain ⟨hlength, _, _, -⟩ := hwithin p hp
    rw [hsize p hp]
    exact ⟨hlength, by omega⟩
  · rintro rfl hwhole
    obtain rfl := hfirst (by omega)
    have hcount : pieces.length = segmentPieceCount o.payloadSize o.maxSegmentSize := by
      refine eq_of_forall_lt_iff fun i => ?_
      rw [← Nat.zero_add pieces.length, hlast, Nat.lt_succ_iff, Nat.le_div_iff_mul_le hpos, o.lt_count_iff]
      omega
    refine ⟨?_, by omega⟩
    rw [← hcount, range_eq_range', ← hmap, List.map_map]
    refine map_congr_left fun p hp => ?_
    obtain ⟨_, _, _, hfull⟩ := hwithin p hp
    rw [Function.comp_apply, hsize p hp, hfull rfl, hwhole]

theorem range_exact_sample : ∃ pieces,
    splitToSegmentPieceInfos ⟨5, 2, by decide, by decide⟩ 1 3 = .ok pieces :=
  (range_exact _ (by decide) (by decide) [()]).imp fun _ h => h.1

/-! ## What a download costs -/

/-- A failed download costs what was delivered, no refund is for nothing, and a
download that succeeds delivers everything. -/
structure Outcome.Settled (o : Outcome) (downloadSize : Nat) : Prop where
  failed : o.result ≠ .ok () → o.charged = o.recouped + o.written
  covered : o.recouped ≤ o.charged
  complete : o.result = .ok () → o.written = downloadSize

namespace Request

/-- The last of the calls fails; `failed` tells it of the calls before. -/
def lastFails (r : Request) (downloadSize : Nat) :
    (idx : Nat) → List SegmentPieceInfo → (failed : Bool) → Bool
  | _, [], failed => failed
  | idx, _ :: rest, _ => r.lastFails downloadSize (idx + 1) rest (!(r.piece downloadSize idx).1.isOk)

/-- The download is refunded as it should be, given whether it was charged. -/
def FairFrom (r : Request) (downloadSize : Nat) (charged : Bool) : (idx : Nat) → List SegmentPieceInfo → Prop
  | _, [] => True
  | idx, pInfo :: rest =>
    match (r.piece downloadSize idx).1 with
    | .ok _ =>
      match (r.env idx).writeFails with
      -- a write that breaks off has delivered nothing of the piece
      | some n => charged = true ∧ min n pInfo.length = 0
      | none => r.FairFrom downloadSize charged (idx + 1) rest
    | .error e =>
      if e.innerCode = 85101 then
        -- a piece has to be recovered, and the last call decides about the refund
        if charged then r.lastFails downloadSize (idx + 1) rest true = true
        else idx = 0 ∧ r.lastFails downloadSize (idx + 1) rest true = false
      else if idx = 0 then (charged = true ↔ e.innerCode = 85102)
      else charged = true

/-- The download of a range is refunded as it should be. -/
def Fair (lowOffset highOffset : Nat) : Prop :=
  ∀ pieceInfos, splitToSegmentPieceInfos r.object lowOffset highOffset = .ok pieceInfos →
    r.FairFrom (highOffset - lowOffset + 1) (r.piece (highOffset - lowOffset + 1) 0).2 0 pieceInfos

end Request

variable {r : Request} {s : Progress} {downloadSize idx : Nat}

/-- Only the first piece is charged. -/
theorem Request.piece_unchecked (hidx : idx ≠ 0) : (r.piece downloadSize idx).2 = false := by
  have htask : (onDownloadPieceTask r.bucketID r.account false (UInt64.ofNat downloadSize) (r.env idx)).2 =
      false := by
    have hpre : (preDownloadPiece r.bucketID r.account false (UInt64.ofNat downloadSize) (r.env idx).pre).2 =
        false := by
      unfold preDownloadPiece
      split
      · rfl
      split
      · rfl
      split
      · rfl
      split <;> rfl
    unfold onDownloadPieceTask
    split <;>
      next heq =>
        rw [heq] at hpre
        exact hpre
  rw [Request.piece, decide_eq_false hidx]
  unfold getPiece
  split
  · exact htask
  · rfl
  · rfl
  · exact htask

theorem Outcome.settled_error {e : DownloadErr} {charged recouped written : Nat} :
    (⟨.error e, charged, recouped, written⟩ : Outcome).Settled downloadSize ↔
      charged = recouped + written := by
  constructor
  · intro h
    exact h.failed nofun
  · intro h
    exact ⟨fun _ => h, by dsimp only; omega, nofun⟩

namespace Progress

theorem charge_false : s.charge downloadSize false = s := rfl

theorem fail_refunds {e : DownloadErr}
    (h : idx ≠ 0 ∨ e.innerCode = 85101 ∨ e.innerCode = 85102) : s.fail downloadSize idx e =
      { s with err := some e, extraQuota := downloadSize - s.consumedQuota } := by
  refine if_pos ?_
  by_cases hidx : idx = 0
  · exact .inr ⟨hidx, h.resolve_left (not_not_intro hidx)⟩
  · exact .inl (Nat.one_le_iff_ne_zero.mpr hidx)

end Progress

variable {segmentCount : Nat}

/-- Once a piece has to be recovered, nothing more is written, and the last call
decides about the refund. -/
theorem downloadPieces_recovering (pieces : List SegmentPieceInfo) (idx : Nat) (hidx : idx ≠ 0)
    (hindex : ∀ p ∈ pieces, p.segmentIndex < segmentCount) (s : Progress)
    (hrecovery : s.triggerRecoveryErr.isSome)
    (hextra : s.extraQuota = downloadSize - s.consumedQuota) :
    ∃ e, downloadPieces r downloadSize segmentCount idx pieces s =
      ⟨.error e, s.charged,
        if r.lastFails downloadSize idx pieces s.err.isSome then downloadSize - s.consumedQuota else 0,
        s.written⟩ := by
  induction pieces generalizing idx s with
  | nil =>
    obtain ⟨e, he⟩ := isSome_iff_exists.mp hrecovery
    refine ⟨e, ?_⟩
    rw [downloadPieces, he, Request.lastFails]
    simp only [Progress.finish, hextra]
    congr 1
    split <;> split <;> grind
  | cons pInfo rest ih =>
    have hindex' : ∀ p ∈ rest, p.segmentIndex < segmentCount := fun p hp => hindex p (.tail _ hp)
    have hlt := hindex pInfo (mem_cons_self ..)
    rw [downloadPieces, Request.lastFails, Request.piece_unchecked hidx, Progress.charge_false]
    cases (r.piece downloadSize idx).1 with
    | error e =>
      dsimp only
      rw [Progress.fail_refunds (.inl hidx), if_neg (Nat.not_le.mpr hlt)]
      by_cases hcode : e.innerCode = 85101
      · rw [if_pos hcode]
        exact ih (idx + 1) (Nat.succ_ne_zero idx) hindex'
          { s with err := some e, extraQuota := downloadSize - s.consumedQuota,
                   triggerRecoveryErr := some e } rfl rfl
      · rw [if_neg hcode, if_neg (by simpa [isSome_iff_ne_none] using hrecovery)]
        exact ih (idx + 1) (Nat.succ_ne_zero idx) hindex'
          { s with err := some e, extraQuota := downloadSize - s.consumedQuota } hrecovery rfl
    | ok =>
      rw [if_pos hrecovery]
      exact ih (idx + 1) (Nat.succ_ne_zero idx) hindex' { s with err := none } hrecovery hextra

/-- The state of a download that has gone well so far. -/
structure Progress.Good (s : Progress) (downloadSize idx : Nat) (pieces : List SegmentPieceInfo) :
    Prop where
  recovery : s.triggerRecoveryErr = none
  extra : s.extraQuota = 0
  consumed : s.consumedQuota = s.written
  total : s.written + totalLength pieces = downloadSize
  start : s.written = 0 ↔ idx = 0

variable {pInfo : SegmentPieceInfo} {rest : List SegmentPieceInfo}

theorem Progress.Good.lt (h : s.Good downloadSize idx (pInfo :: rest))
    (hpos : 0 < pInfo.length) : s.written < downloadSize := by
  have := h.total
  rw [totalLength, map_cons, sum_cons] at this
  omega

theorem Progress.Good.deliver (h : s.Good downloadSize idx (pInfo :: rest))
    (hpos : 0 < pInfo.length) : (s.deliver pInfo.length).Good downloadSize (idx + 1) rest := by
  refine ⟨h.recovery, h.extra, ?_, ?_, ?_⟩
  · simp only [Progress.deliver, h.consumed]
  · rw [← h.total]
    simp only [Progress.deliver, totalLength, map_cons, sum_cons]
    omega
  · simp only [Progress.deliver]
    omega

section

variable {charged : Bool} {e : DownloadErr} (h : s.Good downloadSize idx (pInfo :: rest)) (hpos : 0 < pInfo.length)
  (hcharged : s.charged = if charged then downloadSize else 0)
include h hpos hcharged

/-- A call fails, and no piece has to be recovered. -/
theorem Progress.Good.fail_settled (hcode : e.innerCode ≠ 85101) :
    ((s.fail downloadSize idx e).finish (.error e)).Settled downloadSize ↔
      if idx = 0 then (charged = true ↔ e.innerCode = 85102) else charged = true := by
  have hlt := h.lt hpos
  by_cases hrefund : idx ≠ 0 ∨ e.innerCode = 85102
  · rw [Progress.fail_refunds (hrefund.imp_right .inr), Progress.finish, Outcome.settled_error]
    have hgt : downloadSize - s.written > 0 := Nat.sub_pos_of_lt hlt
    simp only [isSome_some, h.consumed, hcharged, true_and, if_pos hgt]
    cases charged with
    | true =>
      simp only [if_true, true_iff]
      constructor
      · intro _
        split
        next hidx => exact hrefund.resolve_left (not_not_intro hidx)
        · trivial
      · intro _
        omega
    | false =>
      simp only [Bool.false_eq_true, if_false, false_iff]
      constructor
      · intro _
        omega
      intro hfair
      split at hfair
      next hidx => exact (hfair (hrefund.resolve_left (not_not_intro hidx))).elim
      · exact hfair.elim
  · obtain ⟨hidx, hother⟩ := not_or.mp hrefund
    have hidx := not_not.mp hidx
    rw [Progress.fail, if_neg (by simp [hidx, hcode, hother]), Progress.finish, Outcome.settled_error]
    simp only [h.extra, hcharged, h.start.mpr hidx, hidx, hother, iff_false, if_true]
    cases charged with
    | true => simp; omega
    | false => simp

/-- A write breaks off. -/
theorem Progress.Good.breakOff_settled {n : Nat} :
    ((s.breakOff downloadSize n).finish (.error .replyData)).Settled downloadSize ↔
      charged = true ∧ n = 0 := by
  have hlt := h.lt hpos
  rw [Progress.breakOff, Progress.finish, Outcome.settled_error]
  have hgt : downloadSize - s.written > 0 := Nat.sub_pos_of_lt hlt
  simp only [isSome_some, h.consumed, hcharged, true_and, if_pos hgt]
  cases charged with
  | true =>
    simp only [if_true, true_and]
    omega
  | false =>
    simp only [Bool.false_eq_true, if_false, false_and, iff_false]
    omega

/-- A piece has to be recovered. -/
theorem Progress.Good.recover_settled
    (hcode : e.innerCode = 85101) (hindex : ∀ p ∈ rest, p.segmentIndex < segmentCount) :
    (downloadPieces r downloadSize segmentCount (idx + 1) rest
      { s.fail downloadSize idx e with triggerRecoveryErr := some e }).Settled downloadSize ↔
      if charged then r.lastFails downloadSize (idx + 1) rest true = true
      else idx = 0 ∧ r.lastFails downloadSize (idx + 1) rest true = false := by
  have hlt := h.lt hpos
  rw [Progress.fail_refunds (.inr (.inl hcode))]
  obtain ⟨_, he'⟩ := @downloadPieces_recovering r downloadSize segmentCount rest (idx + 1)
    (Nat.succ_ne_zero idx) hindex
    { s with err := some e, extraQuota := downloadSize - s.consumedQuota, triggerRecoveryErr := some e }
    rfl rfl
  rw [he', Outcome.settled_error]
  simp only [isSome_some, h.consumed, hcharged]
  have hstart := h.start
  cases r.lastFails downloadSize (idx + 1) rest true <;> cases charged <;> simp <;> omega

end

/-- The loop, from a state that has gone well so far. -/
theorem downloadPieces_settled {charged : Bool} (pieces : List SegmentPieceInfo) (idx : Nat)
    (s : Progress) (h : s.Good downloadSize idx pieces)
    (hcharged : (s.charge downloadSize (r.piece downloadSize idx).2).charged = if charged then downloadSize else 0)
    (hpieces : ∀ p ∈ pieces, p.segmentIndex < segmentCount ∧ 0 < p.length) :
    (downloadPieces r downloadSize segmentCount idx pieces s).Settled downloadSize ↔
      r.FairFrom downloadSize charged idx pieces := by
  induction pieces generalizing idx s with
  | nil =>
    rw [downloadPieces, h.recovery, Request.FairFrom, iff_true]
    refine ⟨fun hne => (hne rfl).elim, ?_, fun _ => ?_⟩
    · simp [Progress.finish, h.extra]
    · exact h.total
  | cons pInfo rest ih =>
    obtain ⟨hindex, hpos⟩ := hpieces pInfo (mem_cons_self ..)
    have hrest : ∀ p ∈ rest, p.segmentIndex < segmentCount ∧ 0 < p.length := fun p hp =>
      hpieces p (.tail _ hp)
    have hgood : (s.charge downloadSize (r.piece downloadSize idx).2).Good downloadSize idx
        (pInfo :: rest) := { h with }
    rw [downloadPieces, Request.FairFrom]
    generalize s.charge downloadSize (r.piece downloadSize idx).2 = s₁ at hcharged hgood ⊢
    cases (r.piece downloadSize idx).1 with
    | error e =>
      dsimp only
      by_cases hcode : e.innerCode = 85101
      · rw [if_pos hcode, if_pos hcode, if_neg (Nat.not_le.mpr hindex)]
        exact hgood.recover_settled hpos hcharged hcode fun p hp => (hrest p hp).1
      have hnone : (s₁.fail downloadSize idx e).triggerRecoveryErr = none := by
        rw [Progress.fail]
        split <;> exact hgood.recovery
      rw [if_neg hcode, if_neg hcode, hnone]
      exact hgood.fail_settled hpos hcharged hcode
    | ok =>
      rw [hgood.recovery]
      cases (r.env idx).writeFails with
      | some => exact hgood.breakOff_settled hpos hcharged
      | none =>
        apply ih (idx + 1) _ (hgood.deliver hpos) _ hrest
        rw [Request.piece_unchecked (Nat.succ_ne_zero idx)]
        exact hcharged

/-- **A failed download costs what was delivered** exactly when it is fair: the
error at the first piece tells whether it was charged, a broken write has
delivered nothing of its piece, and, when a piece has to be recovered, the last
call fails too. -/
theorem download_settled_iff (r : Request) {lowOffset highOffset : Nat} (hle : lowOffset ≤ highOffset)
    (hhigh : highOffset < r.object.payloadSize) :
    (downloadObject r lowOffset highOffset).Settled (highOffset - lowOffset + 1) ↔
      r.Fair lowOffset highOffset := by
  obtain ⟨pieces, hsplit, htotal, -, -, hwithin⟩ := r.object.split_covers hle hhigh ([] : List Unit)
  rw [downloadObject, hsplit]
  have hgood : Progress.Good {} (highOffset - lowOffset + 1) 0 pieces :=
    ⟨rfl, rfl, rfl, by rw [htotal, Nat.zero_mul, Nat.max_zero]; exact Nat.zero_add _, by simp⟩
  have hpieces : ∀ p ∈ pieces, p.segmentIndex < segmentPieceCount r.object.payloadSize
      r.object.maxSegmentSize ∧ 0 < p.length := by
    intro p hp
    obtain ⟨hpos, hin, -⟩ := hwithin p hp
    rw [r.object.lt_count_iff]
    exact ⟨by omega, hpos⟩
  rw [downloadPieces_settled pieces 0 {} hgood (Nat.zero_add _) hpieces]
  simp only [Request.Fair, hsplit, Except.ok.injEq, forall_eq']

/-- A user reads an object of two segments, each of one byte. The pieces go as
`handle` says. -/
def sampleRequest (handle : Nat → HandleEnv) : Request where
  bucketID := 1
  account := "user"
  object := ⟨2, 1, by decide, by decide⟩
  env := fun idx =>
    { handle := handle idx
      pre :=
        { primarySP := some "sp"
          quota :=
            { table := [{ bucketID := 1, month := 7, freeQuotaSize := 100, chargedQuotaSize := 0,
                          monthlyQuotaSize := 0 }]
              yearMonth := 7, freeQuota := some 100, monthlyFreeQuota := 0, chargedReadQuota := 0 } } }

/-- The second piece is missing: the user pays for the first. -/
theorem download_settled_sample :
    downloadObject (sampleRequest fun idx => { store := if idx = 0 then .found else .noSuchKey }) 0 1 =
        ⟨.error .noSuchKey, 2, 1, 1⟩ ∧
      (sampleRequest fun idx => { store := if idx = 0 then .found else .noSuchKey }).Fair 0 1 := by
  have hrun : downloadObject
      (sampleRequest fun idx => { store := if idx = 0 then .found else .noSuchKey }) 0 1 =
      ⟨.error .noSuchKey, 2, 1, 1⟩ := by decide +kernel
  refine ⟨hrun, (download_settled_iff _ (by decide) (by decide)).mp ?_⟩
  rw [hrun]
  exact Outcome.settled_error.mpr rfl

/-- The first piece is unreadable and the second is not: the download fails
without a refund. -/
theorem download_unsettled :
    downloadObject (sampleRequest fun idx => { store := if idx = 0 then .failed else .found }) 0 1 =
        ⟨.error .pieceStore, 2, 0, 0⟩ ∧
      ¬ (downloadObject (sampleRequest fun idx => { store := if idx = 0 then .failed else .found })
        0 1).Settled 2 := by
  have hrun : downloadObject
      (sampleRequest fun idx => { store := if idx = 0 then .failed else .found }) 0 1 =
      ⟨.error .pieceStore, 2, 0, 0⟩ := by decide +kernel
  refine ⟨hrun, fun hsettled => ?_⟩
  rw [hrun, Outcome.settled_error] at hsettled
  cases hsettled

end Download

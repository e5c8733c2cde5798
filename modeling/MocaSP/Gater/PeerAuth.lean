-- SUMMARY: When a peer gets only what it was authorised for.
import MocaSP.Gater.Peer

/-!
# What peers are authorised for

Two handlers authorise a peer by a signed task. The handler of quota lets a
bucket through whose latest migration was cancelled, whoever asks, and does not
notice when a migration was completed or rejected. The handler of pieces decides
on one message and hands out what another message names.
-/

namespace Metadata.BucketHistory
open List

variable {h : BucketHistory} {sp : Nat}

/-- The destination of the latest migration. -/
def latestDestination (h : BucketHistory) : Option Nat := h.latestStart.map Prod.snd

/-- A block after the one of the latest migration cancelled a migration. -/
def Cancelled (h : BucketHistory) : Prop :=
  ∃ startAt dst cancelAt, h.latestStart = some (startAt, dst) ∧ h.latestCancel = some cancelAt ∧
    startAt < cancelAt

theorem latestDestination_of_destination (hdst : h.destination = some sp) :
    h.latestDestination = some sp := by
  unfold destination at hdst
  split at hdst
  next hevents =>
    cases hdst
    simp [latestDestination, latestStart, hevents]
  · cases hdst

/-- A migration in progress has not been cancelled. -/
theorem not_cancelled_of_destination (hdst : h.destination = some sp) : ¬ h.Cancelled := by
  rintro ⟨_, _, _, hstart, hcancel, _⟩
  unfold destination at hdst
  split at hdst
  next hevents =>
    have hordered := h.ordered
    rw [hevents, pairwise_cons] at hordered
    simp only [latestStart, hevents, findSome?_cons, Option.some.injEq, Prod.mk.injEq] at hstart
    simp only [latestCancel, hevents, findSome?_cons, reduceCtorEq, if_false] at hcancel
    obtain ⟨e, he, hfound⟩ := exists_of_findSome?_eq_some hcancel
    split at hfound
    · cases hfound
      have := hordered.1 e he
      omega
    · cases hfound
  · cases hdst

end Metadata.BucketHistory

namespace Peer

open Metadata (Effect EventErr EventTables BucketHistory)
open Except Prog

/-! ## The signer -/

/-- The header holds the task, unexpired and signed by the SP. -/
structure Authentic {α : Type} (env : PeerEnv) (sigs : SigCheck α) (expireTime : α → Int)
    (header : Option (Signed α)) (task : α) (sp : StorageProvider) : Prop where
  unexpired : env.now ≤ expireTime task
  signed : ∃ signature addr, header = some ⟨task, signature⟩ ∧
    sigs.recoverAddr task signature = .ok addr ∧ sigs.verify task signature = true ∧
    env.querySP (some addr) = .ok sp

section
variable {α : Type} {env : PeerEnv} {sigs : SigCheck α} {expireTime : α → Int}
  {header : Option (Signed α)} {task : α} {sp : StorageProvider}

theorem verifySignatureAndSP_eq_ok :
    env.verifySignatureAndSP sigs expireTime header = .ok (task, sp) ↔
      Authentic env sigs expireTime header task sp := by
  simp only [PeerEnv.verifySignatureAndSP, verifyTaskSignature, bind_eq_ok,
    orFail_eq_ok, failIf_eq_ok, pure_eq_ok, Prod.mk.injEq]
  constructor
  · rintro ⟨m, hheader, _, hexpire, _, ⟨addr, hrecover, rfl⟩, _, hsp, rfl, rfl⟩
    cases hverify : sigs.verify m.task m.signature with
    | false =>
      rw [hverify] at hsp
      exact absurd hsp (env.querySP_none _)
    | true =>
      rw [hverify] at hsp
      exact ⟨Int.not_lt.mp hexpire, m.signature, addr, hheader, hrecover, hverify, hsp⟩
  · rintro ⟨hexpire, _, addr, hheader, hrecover, hverify, hsp⟩
    refine ⟨_, hheader, (), Int.not_lt.mpr hexpire, some addr, ⟨addr, hrecover, ?_⟩, sp, hsp, rfl, rfl⟩
    simp [hverify]

theorem Authentic.unique {task' : α} {sp' : StorageProvider}
    (h : Authentic env sigs expireTime header task sp)
    (h' : Authentic env sigs expireTime header task' sp') : task = task' ∧ sp = sp' := by
  have heq := (verifySignatureAndSP_eq_ok.mpr h).symm.trans (verifySignatureAndSP_eq_ok.mpr h')
  simpa using heq

end

/-! ## Quota -/

variable (env : PeerEnv)

/-- The events of the bucket. -/
def PeerEnv.history (bucketID : Nat) : BucketHistory := env.events.buckets bucketID

/-- The request of the SP for the bucket is let through. -/
def LetsThrough (bucketID : Nat) (sp : StorageProvider) : Prop :=
  env.metadataUp = true ∧ bucketID ≠ 0 ∧
    ((env.history bucketID).Cancelled ∨ (env.history bucketID).latestDestination = some sp.id)

theorem quotaAllowed_iff {env : PeerEnv} {bucketID : Nat} {sp : StorageProvider} :
    quotaAllowed (env.verifyMigrateGVGPermission bucketID 0 sp.id) = .ok true ↔
      LetsThrough env bucketID sp := by
  cases hup : env.metadataUp with
  | false => simp [PeerEnv.verifyMigrateGVGPermission, hup, quotaAllowed, LetsThrough]
  | true =>
  by_cases hbucket : bucketID = 0
  · -- the group 0 does not exist, so no exit of an SP is about it
    have hgvg : env.events.gvgs.find? (fun g => g.id = 0) = none := by
      simpa using env.events.gvg_pos
    simp [PeerEnv.verifyMigrateGVGPermission, hup, hbucket, LetsThrough, quotaAllowed,
      EventTables.gfSpVerifyMigrateGVGPermission, EventTables.verifySwapOut,
      EventTables.getEventSwapOutByGvgID, hgvg, bind, Except.bind, pure, Except.pure, Except.mapError]
  · have hrpc : env.verifyMigrateGVGPermission bucketID 0 sp.id =
        (env.events.verifyBucketMigration bucketID sp.id).mapError .rpc := by
      simp [PeerEnv.verifyMigrateGVGPermission, hup, EventTables.gfSpVerifyMigrateGVGPermission,
        hbucket]
    have hthrough : LetsThrough env bucketID sp ↔
        (env.history bucketID).Cancelled ∨ (env.history bucketID).latestDestination = some sp.id := by
      simp [LetsThrough, hup, hbucket]
    rw [hrpc, hthrough, EventTables.verifyBucketMigration,
      EventTables.getEventMigrationBucketByBucketID]
    simp only [PeerEnv.history, BucketHistory.latestDestination, BucketHistory.Cancelled]
    cases (env.events.buckets bucketID).latestStart with
    | none => simp [quotaAllowed, bind, Except.bind, Except.mapError]
    | some start =>
      obtain ⟨startAt, dst⟩ := start
      have hresult : quotaAllowed (Except.mapError PeerErr.rpc
          (.ok (if dst = sp.id then .allow else .deny))) = .ok true ↔ dst = sp.id := by
        by_cases hdst : dst = sp.id <;> simp [quotaAllowed, Except.mapError, hdst]
      cases (env.events.buckets bucketID).latestCancel with
      | none => simpa [bind, Except.bind, pure, Except.pure] using hresult
      | some cancelAt =>
        by_cases hlater : cancelAt > startAt
        · simp [hlater, bind, Except.bind, Except.mapError, quotaAllowed]
        · simpa [hlater, bind, Except.bind, pure, Except.pure] using hresult

theorem quotaAuth_iff (header : Option (Signed BucketMigrationInfo))
    (info : BucketMigrationInfo) : checkMigrateBucketQuotaAuth env header = .ok (true, info) ↔
      ∃ sp, Authentic env env.infoSigs (·.expireTime) header info sp ∧
        LetsThrough env info.bucketID sp := by
  simp only [checkMigrateBucketQuotaAuth, bind_eq_ok, pure_eq_ok, Prod.exists,
    verifySignatureAndSP_eq_ok, Prod.mk.injEq]
  constructor
  · rintro ⟨_, sp, hauth, _, hallow, rfl, rfl⟩
    exact ⟨sp, hauth, quotaAllowed_iff.mp hallow⟩
  · rintro ⟨sp, hauth, hthrough⟩
    exact ⟨info, sp, hauth, true, quotaAllowed_iff.mpr hthrough, rfl, rfl⟩

variable {β : Type}

/-- The buckets for which a handler changes quota, with what it says about the
migration. -/
def PeerCall.notified : PeerCall β → List Nat
  | .notifyPreMigrateBucketAndDeductQuota bucketID => [bucketID]
  | .notifyPostMigrateBucketAndRecoupQuota info => [info.bucketID]
  | .getPiece _ => []

section
variable (answer : {β : Type} → PeerCall β → β) (env : PeerEnv)
  (header : Option (Signed BucketMigrationInfo))

/-- Quota is deducted only for the SP to which the bucket is migrating. -/
def PreAuthorised : Prop :=
  ∀ bucketID ∈ observe answer PeerCall.notified (preMigrateBucketHandler env header),
    ∃ info sp, Authentic env env.infoSigs (·.expireTime) header info sp ∧ info.bucketID = bucketID ∧
      (env.history bucketID).destination = some sp.id

/-- Quota is recouped only for the SP to which the bucket is migrating, or was in
its latest migration. -/
def PostAuthorised : Prop :=
  ∀ bucketID ∈ observe answer PeerCall.notified (postMigrateBucketHandler env header),
    ∃ info sp, Authentic env env.infoSigs (·.expireTime) header info sp ∧ info.bucketID = bucketID ∧
      ((env.history bucketID).destination = some sp.id ∨
        (env.history bucketID).latestDestination = some sp.id)

theorem mem_notified_iff (notify : BucketMigrationInfo → PeerCall (Except PeerErr Unit))
    (hnotify : ∀ info, (notify info).notified = [info.bucketID]) (bucketID : Nat) :
    bucketID ∈ observe answer PeerCall.notified (migrateBucketHandler notify env header) ↔
      ∃ info sp, Authentic env env.infoSigs (·.expireTime) header info sp ∧
        info.bucketID = bucketID ∧ LetsThrough env bucketID sp := by
  have hauth := quotaAuth_iff env header
  unfold migrateBucketHandler
  cases hcheck : checkMigrateBucketQuotaAuth env header with
  | error =>
    simp only [hcheck, reduceCtorEq, false_iff, not_exists, not_and] at hauth
    simp only [after, observe, List.not_mem_nil, false_iff]
    rintro ⟨info, sp, hsigned, rfl, hthrough⟩
    exact hauth info sp hsigned hthrough
  | ok result =>
    obtain ⟨allow, info⟩ := result
    cases allow with
    | false =>
      simp only [after, Bool.false_eq_true, if_false, observe, List.not_mem_nil, false_iff]
      rintro ⟨info', sp, hsigned, rfl, hthrough⟩
      cases hcheck.symm.trans ((hauth info').mpr ⟨sp, hsigned, hthrough⟩)
    | true =>
      simp only [after, if_true, observe_do, hnotify, List.mem_singleton]
      constructor
      · rintro rfl
        obtain ⟨sp, hsigned, hthrough⟩ := (hauth info).mp hcheck
        exact ⟨info, sp, hsigned, rfl, hthrough⟩
      · rintro ⟨info', sp, hsigned, rfl, hthrough⟩
        cases hcheck.symm.trans ((hauth info').mpr ⟨sp, hsigned, hthrough⟩)
        rfl

theorem mem_preMigrate_iff {bucketID : Nat} :
    bucketID ∈ observe answer PeerCall.notified (preMigrateBucketHandler env header) ↔
      ∃ info sp, Authentic env env.infoSigs (·.expireTime) header info sp ∧
        info.bucketID = bucketID ∧ LetsThrough env bucketID sp := by
  rw [← mem_notified_iff answer env header
    (fun info => .notifyPreMigrateBucketAndDeductQuota info.bucketID) fun _ => rfl]
  simp [preMigrateBucketHandler]

/-- The bucket of every authentic request has a migration that was not cancelled,
and that has not ended if the signer is its destination. -/
def NoneEnded : Prop :=
  ∀ info sp, Authentic env env.infoSigs (·.expireTime) header info sp → env.metadataUp = true →
    info.bucketID ≠ 0 →
      ¬ (env.history info.bucketID).Cancelled ∧
        ((env.history info.bucketID).latestDestination = some sp.id →
          (env.history info.bucketID).destination ≠ none)

/-- If the bucket of an authentic request has a cancelled migration, the signer
was its destination. -/
def NoneForeign : Prop :=
  ∀ info sp, Authentic env env.infoSigs (·.expireTime) header info sp → env.metadataUp = true →
    info.bucketID ≠ 0 → (env.history info.bucketID).Cancelled →
      (env.history info.bucketID).latestDestination = some sp.id

end

/-- **Quota of a migration.** Only the SP to which the bucket is migrating gets
quota deducted, if and only if no one asks about an ended migration in a way that
is let through; and only the destination of the latest migration gets quota
recouped, if and only if no other SP asks about a cancelled one. -/
theorem migration_quota_authorised_iff (answer : {β : Type} → PeerCall β → β) (env : PeerEnv)
    (header : Option (Signed BucketMigrationInfo)) :
    (PreAuthorised answer env header ↔ NoneEnded env header) ∧
      (PostAuthorised answer env header ↔ NoneForeign env header) := by
  constructor
  · constructor
    · intro h info sp hauth hup hbucket
      have hkey : LetsThrough env info.bucketID sp →
          (env.history info.bucketID).destination = some sp.id := by
        intro hthrough
        obtain ⟨info', sp', hauth', -, hdst⟩ :=
          h _ ((mem_preMigrate_iff answer env header).mpr ⟨info, sp, hauth, rfl, hthrough⟩)
        rw [hdst, (hauth.unique hauth').2]
      refine ⟨fun hcancelled => ?_, fun hlatest => ?_⟩
      · exact BucketHistory.not_cancelled_of_destination
          (hkey ⟨hup, hbucket, .inl hcancelled⟩) hcancelled
      · simp [hkey ⟨hup, hbucket, .inr hlatest⟩]
    · intro h _ hmem
      obtain ⟨info, sp, hauth, rfl, hup, hbucket, hthrough⟩ :=
        (mem_preMigrate_iff answer env header).mp hmem
      obtain ⟨hkept, hongoing⟩ := h info sp hauth hup hbucket
      have hlatest := hthrough.resolve_left hkept
      obtain ⟨_, hdst⟩ := Option.ne_none_iff_exists'.mp (hongoing hlatest)
      have heq := (BucketHistory.latestDestination_of_destination hdst).symm.trans hlatest
      exact ⟨info, sp, hauth, rfl, hdst.trans heq⟩
  · have hmem := mem_notified_iff answer env header .notifyPostMigrateBucketAndRecoupQuota
      fun _ => rfl
    constructor
    · intro h info sp hauth hup hbucket hcancelled
      obtain ⟨info', sp', hauth', -, hdst⟩ :=
        h _ ((hmem _).mpr ⟨info, sp, hauth, rfl, hup, hbucket, .inl hcancelled⟩)
      rw [(hauth.unique hauth').2]
      exact hdst.elim BucketHistory.latestDestination_of_destination id
    · intro h _ hpost
      obtain ⟨info, sp, hauth, rfl, hup, hbucket, hthrough⟩ := (hmem _).mp hpost
      exact ⟨info, sp, hauth, rfl, .inr (hthrough.elim (h info sp hauth hup hbucket) id)⟩

-- The migration of bucket 5 to SP 3 was cancelled. SP 9 signs a notification.
def strayEnv : PeerEnv where
  now := 0
  gvgSigs := ⟨fun _ _ => .ok 7, fun _ _ => true⟩
  infoSigs := ⟨fun _ _ => .ok 7, fun _ _ => true⟩
  querySP
    | none => .error .consensus
    | some addr => .ok ⟨9, addr⟩
  querySP_none := by simp
  events :=
    { buckets := fun _ => ⟨[(20, .cancel), (10, .start 3)], by decide⟩
      swapOuts := []
      cancelSwapOuts := []
      gvgs := []
      gvg_pos := by simp }
  metadataUp := true
  hasObjectChainMeta := fun _ _ => true
  placeOf := fun _ => none

def strayHeader : Option (Signed BucketMigrationInfo) := some ⟨⟨5, false, 0, 100⟩, ['s']⟩

def strayAnswer : PeerCall β → β
  | .notifyPreMigrateBucketAndDeductQuota _ => .ok ()
  | .notifyPostMigrateBucketAndRecoupQuota _ => .ok ()
  | .getPiece _ => .error .pieceStore

/-- SP 9 gets quota deducted and recouped. -/
theorem stray_quota_authorised : ¬ PreAuthorised strayAnswer strayEnv strayHeader ∧
      ¬ PostAuthorised strayAnswer strayEnv strayHeader := by
  have hsp : ∀ {info sp}, Authentic strayEnv strayEnv.infoSigs (·.expireTime) strayHeader info sp →
      sp.id = 9 := by
    rintro _ _ ⟨-, _, _, -, -, -, ⟨⟩⟩
    rfl
  constructor
  · intro h
    obtain ⟨_, _, -, -, ⟨⟩⟩ := h 5 (by decide)
  intro h
  obtain ⟨_, _, hauth, -, hdst⟩ := h 5 (by decide)
  rw [hsp hauth] at hdst
  revert hdst
  decide

/-! ## Pieces -/

section
variable {α β : Type} {answer : {β : Type} → PeerCall β → β} {check : Except PeerErr α}
  {next : α → Code (Reply β)}

theorem eval_after_ok {b : β} : Prog.eval answer (after check next) = .ok b ↔
    ∃ a, check = .ok a ∧ Prog.eval answer (next a) = .ok b := by
  cases check with
  | error => simp [after, Prog.eval]
  | ok => simp [after]

theorem mem_observe_after {ω : Type} {see : {β : Type} → PeerCall β → List ω} {x : ω} :
    x ∈ observe answer see (after check next) ↔
      ∃ a, check = .ok a ∧ x ∈ observe answer see (next a) := by
  cases check with
  | error => simp [after, observe]
  | ok => simp [after]

end

/-- The pieces that are read. -/
def PeerCall.pieces : PeerCall β → List PieceTask
  | .getPiece task => [task]
  | _ => []

theorem migratePieceTask_objectID {object : MsgObject} {m : MigratePieceTask} {t : PieceTask}
    (h : migratePieceTask object m = .ok t) : t.key.objectID = object.id := by
  simp only [migratePieceTask, bind_eq_ok, failIf_eq_ok] at h
  obtain ⟨-, -, -, -, h⟩ := h
  split at h
  · cases pure_eq_ok.mp h
    rfl
  · obtain ⟨_, -, h⟩ := bind_eq_ok.mp h
    cases pure_eq_ok.mp h
    rfl

/-- The object is in the bucket and in the source group of the task. The task of
an exit names no bucket. -/
def Belongs (objectID : Nat) (task : MigrateGVGTask) : Prop :=
  ∃ bucketID gvgID, env.placeOf objectID = some (bucketID, gvgID) ∧
    (task.bucketID ≠ 0 → bucketID = task.bucketID) ∧ gvgID = task.srcGvgID

/-- The signed task is the SP's own, and permits it to migrate. -/
structure Permitted (env : PeerEnv) (gvgHeader : Option (Signed MigrateGVGTask))
    (task : MigrateGVGTask) (sp : StorageProvider) : Prop where
  signed : Authentic env env.gvgSigs (·.expireTime) gvgHeader task sp
  allowed : env.verifyMigrateGVGPermission task.bucketID task.srcGvgID sp.id = .ok .allow

theorem checkMigratePieceAuth_iff (gvgHeader : Option (Signed MigrateGVGTask)) :
    checkMigratePieceAuth env gvgHeader = .ok true ↔ ∃ task sp, Permitted env gvgHeader task sp := by
  simp only [checkMigratePieceAuth, bind_eq_ok, pure_eq_ok, Prod.exists,
    verifySignatureAndSP_eq_ok, decide_eq_true_eq]
  constructor
  · rintro ⟨task, sp, hsigned, _, heffect, rfl⟩
    exact ⟨task, sp, hsigned, heffect⟩
  · rintro ⟨task, sp, hsigned, heffect⟩
    exact ⟨task, sp, hsigned, _, heffect, rfl⟩

section
variable (answer : {β : Type} → PeerCall β → β) (env : PeerEnv)
  (pieceHeader : Option MigratePieceTask) (gvgHeader : Option (Signed MigrateGVGTask))

/-- The message asks for a piece of the object that passes every check and is
stored. -/
def AsksFor (object : MsgObject) (t : PieceTask) : Prop :=
  (∃ m, pieceHeader = some m ∧ m.objectInfo = some object ∧ migratePieceTask object m = .ok t) ∧
    env.hasObjectChainMeta object.objectName object.bucketName = true ∧
    ∃ data, answer (.getPiece t) = .ok data

/-- Pieces are handed out only of objects in the bucket and group that the signer
may migrate. -/
def PiecesAuthorised : Prop :=
  ∀ data, Prog.eval answer (migratePieceHandler env pieceHeader gvgHeader) = .ok data →
    ∀ t ∈ observe answer PeerCall.pieces (migratePieceHandler env pieceHeader gvgHeader),
      ∃ task sp, Permitted env gvgHeader task sp ∧ Belongs env t.key.objectID task

variable {answer env pieceHeader gvgHeader}

theorem mem_pieces_iff {t : PieceTask} :
    t ∈ observe answer PeerCall.pieces (migratePieceHandler env pieceHeader gvgHeader) ↔
      ∃ m object, pieceHeader = some m ∧ m.objectInfo = some object ∧
        migratePieceTask object m = .ok t ∧
        env.hasObjectChainMeta object.objectName object.bucketName = true ∧
        ∃ task sp, Permitted env gvgHeader task sp := by
  simp only [migratePieceHandler, mem_observe_after, orFail_eq_ok, failIf_eq_ok,
    observe_do, PeerCall.pieces, List.mem_singleton, ← checkMigratePieceAuth_iff]
  constructor
  · rintro ⟨m, hm, _, hallow, _, htrue, object, hobject, _, hmeta, _, ht, rfl⟩
    simp only [Bool.not_eq_false] at htrue hmeta
    subst htrue
    exact ⟨m, object, hm, hobject, ht, hmeta, hallow⟩
  · rintro ⟨m, object, hm, hobject, ht, hmeta, hallow⟩
    exact ⟨m, hm, true, hallow, (), by simp, object, hobject, (), by simp [hmeta], t, ht, rfl⟩

theorem eval_migratePieceHandler_iff {data : Data} :
    Prog.eval answer (migratePieceHandler env pieceHeader gvgHeader) = .ok data ↔
      ∃ t ∈ observe answer PeerCall.pieces (migratePieceHandler env pieceHeader gvgHeader),
        answer (.getPiece t) = .ok data := by
  simp only [mem_pieces_iff, ← checkMigratePieceAuth_iff]
  simp only [migratePieceHandler, eval_after_ok, orFail_eq_ok, failIf_eq_ok, Prog.eval_do]
  constructor
  · rintro ⟨m, hm, _, hallow, _, htrue, object, hobject, _, hmeta, t, ht, hdata⟩
    simp only [Bool.not_eq_false] at htrue hmeta
    subst htrue
    exact ⟨t, ⟨m, object, hm, hobject, ht, hmeta, hallow⟩, hdata⟩
  · rintro ⟨t, ⟨m, object, hm, hobject, ht, hmeta, hallow⟩, hdata⟩
    exact ⟨m, hm, true, hallow, (), by simp, object, hobject, (), by simp [hmeta], t, ht, hdata⟩

end

/-- **Pieces of a migration.** They are handed out only as authorised if and only
if the object that the unsigned message names is one of those that the signed
task is about. -/
theorem migrate_pieces_authorised_iff (answer : {β : Type} → PeerCall β → β) (env : PeerEnv)
    (pieceHeader : Option MigratePieceTask) (gvgHeader : Option (Signed MigrateGVGTask)) :
    PiecesAuthorised answer env pieceHeader gvgHeader ↔
      ∀ object t task sp, AsksFor answer env pieceHeader object t →
        Permitted env gvgHeader task sp → Belongs env object.id task := by
  constructor
  · rintro h object t task sp ⟨⟨m, hm, hobject, ht⟩, hmeta, data, hdata⟩ hpermitted
    have hmem : t ∈ observe answer PeerCall.pieces
        (migratePieceHandler env pieceHeader gvgHeader) :=
      mem_pieces_iff.mpr ⟨m, object, hm, hobject, ht, hmeta, task, sp, hpermitted⟩
    obtain ⟨_, _, hpermitted', hbelongs⟩ :=
      h data (eval_migratePieceHandler_iff.mpr ⟨t, hmem, hdata⟩) t hmem
    rw [(hpermitted.signed.unique hpermitted'.signed).1, ← migratePieceTask_objectID ht]
    exact hbelongs
  · intro h data hdata t hmem
    obtain ⟨_, hmem', hdata'⟩ := eval_migratePieceHandler_iff.mp hdata
    obtain ⟨m, object, hm, hobject, ht, hmeta, task, sp, hpermitted⟩ := mem_pieces_iff.mp hmem
    obtain ⟨_, _, hm', hobject', ht', -⟩ := mem_pieces_iff.mp hmem'
    -- the handler reads one piece
    cases hm.symm.trans hm'
    cases hobject.symm.trans hobject'
    cases ht.symm.trans ht'
    refine ⟨task, sp, hpermitted, ?_⟩
    rw [migratePieceTask_objectID ht]
    exact h object t task sp ⟨⟨m, hm, hobject, ht⟩, hmeta, data, hdata'⟩ hpermitted

-- SP 9 may migrate bucket 5, and asks for a piece of object 77 in bucket 6.
def foreignEnv : PeerEnv where
  now := 0
  gvgSigs := ⟨fun _ _ => .ok 7, fun _ _ => true⟩
  infoSigs := ⟨fun _ _ => .ok 7, fun _ _ => true⟩
  querySP
    | none => .error .consensus
    | some addr => .ok ⟨9, addr⟩
  querySP_none := by simp
  events :=
    { buckets := fun _ => ⟨[(10, .start 9)], by decide⟩
      swapOuts := []
      cancelSwapOuts := []
      gvgs := []
      gvg_pos := by simp }
  metadataUp := true
  hasObjectChainMeta := fun _ _ => true
  placeOf := fun objectID => if objectID = 77 then some (6, 2) else none

def foreignPiece : Option MigratePieceTask :=
  some ⟨some ⟨77, 0, 10, ['o'], ['b']⟩, ⟨4, 2, 16⟩, 0, -1⟩

def foreignTask : Option (Signed MigrateGVGTask) := some ⟨⟨5, 1, -1, 100⟩, ['s']⟩

def foreignAnswer : PeerCall β → β
  | .notifyPreMigrateBucketAndDeductQuota _ => .error .notify
  | .notifyPostMigrateBucketAndRecoupQuota _ => .error .notify
  | .getPiece _ => .ok [1, 2, 3]

/-- It gets the piece. -/
theorem foreign_piece_served :
    Prog.eval foreignAnswer (migratePieceHandler foreignEnv foreignPiece foreignTask) =
        .ok [1, 2, 3] ∧
      ¬ PiecesAuthorised foreignAnswer foreignEnv foreignPiece foreignTask := by
  have hdata : Prog.eval foreignAnswer (migratePieceHandler foreignEnv foreignPiece foreignTask) =
      .ok [1, 2, 3] := by
    decide
  refine ⟨hdata, ?_⟩
  intro h
  obtain ⟨_, _, ⟨⟨-, _, _, htask, -⟩, -⟩, _, _, hplace, hbucket, -⟩ :=
    h _ hdata ⟨.segment 77 0 0, 0, 10⟩ (by decide)
  cases htask
  cases hplace
  exact absurd (hbucket (by decide)) (by decide)

end Peer

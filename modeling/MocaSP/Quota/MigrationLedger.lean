-- SUMMARY: When a migration's quota is deducted once and recouped once.
import MocaSP.Quota.Migration

/-!
# One deduction, one refund

Nothing ties the change of the quota to the update of the migration state. The
calls for a bucket keep their books only if they do not overlap, if a call that
changed the quota gets to update the state, and if the refund finds the bucket as
large as it was deducted. `Orderly` says so, call by call.
-/

namespace Migration
open List Function Option Response Job

open Traffic

/-! ## The condition -/

/-- The bytes a failed migration reports. -/
def Job.reported? : Job → Option UInt64
  | .post false migratedBytesSize => some migratedBytesSize
  | _ => none

namespace World

/-- The charge goes through, or is refused for a lack of quota, or is not made. -/
def DeductTold (bucketID deductQuota : UInt64) (w : World) : Prop :=
  w.weather.unreachable = true ∨
  (updateConsumedQuota w.weather.faults bucketID w.month deductQuota w.chargedQuota w.table).eval.1 = .ok () ∨
  (updateConsumedQuota w.weather.faults bucketID w.month deductQuota w.chargedQuota w.table).eval.1 =
    .error .quotaNotEnough

/-- The refund goes through. -/
def Recoups (bucketID extraQuota : UInt64) (yearMonth : Option Month) (w : World) : Prop :=
  w.weather.unreachable = false ∧ ∃ m ∈ yearMonth,
    (updateExtraQuota w.weather.faults w.month bucketID extraQuota m w.table).eval.1 = .ok ()

end World

/-- The calls of a well-ordered run. -/
def Orderly (bucketID : UInt64) (β : Type) (t : Nat) (e : Call β) (w : World) : Prop :=
  match e with
  -- a call passes its check only when no other call is past its own
  | .queryMigrateBucketState =>
      w.weather.unreachable = false → w.weather.lost = false → (w.jobs t).passes w.state = true →
        w.busy = none
  -- a failed migration finds the bucket as large as it was deducted
  | .getBucketTotalSize => ∀ _ ∈ (w.jobs t).reported?, ∀ a ∈ w.outstanding, w.bucketSize = a
  -- and not migrated as a whole
  | .listMigrateGVGUnitsByBucketID => ∀ reported ∈ (w.jobs t).reported?, ∀ a ∈ w.outstanding,
      getLocallyReconciledMigratedBytes w.units reported < a
  -- the answer to a call that changes something says whether it did
  | .deductQuotaForBucketMigrate deductQuota =>
      w.weather.lost = false ∧ w.DeductTold bucketID deductQuota
  | .recoupQuota extraQuota yearMonth =>
      w.weather.lost = false ∧ (w.jobs t = .pre → w.Recoups bucketID extraQuota yearMonth)
  | .updateBucketMigrationPreDeductedQuota => w.weather.lost = false
  -- after a refund, the state is updated
  | .updateBucketMigrationRecoupQuota => w.weather.lost = false ∧ w.weather.unreachable = false
  | _ => True

instance {bucketID deductQuota : UInt64} {w : World} : Decidable (w.DeductTold bucketID deductQuota) :=
  inferInstanceAs (Decidable (_ ∨ _ ∨ _))

instance {bucketID extraQuota : UInt64} {yearMonth : Option Month} {w : World} :
    Decidable (w.Recoups bucketID extraQuota yearMonth) :=
  inferInstanceAs (Decidable (_ ∧ ∃ m ∈ yearMonth, _))

instance {bucketID : UInt64} {β : Type} {t : Nat} {e : Call β} {w : World} :
    Decidable (Orderly bucketID β t e w) := by
  cases e <;> dsimp only [Orderly]
  -- words are finitely many, so the instance for members has to be named
  case getBucketTotalSize | listMigrateGVGUnitsByBucketID =>
    exact @Option.decidableForallMem _ _ (fun _ => @List.decidableBAll _ _ (fun _ => inferInstance) _) _
  all_goals infer_instance

/-! ## What a call knows -/

/-- How far a call has come. -/
inductive Stage where
  | new (j : Job)
  | refused
  /-- A Pre call past its check. -/
  | pre
  | deducted (size : UInt64)
  /-- The deduction is recorded. -/
  | closed
  /-- A Post call past its check. -/
  | post (finished : Bool) (reported : UInt64)
  | sized (finished : Bool) (reported size : UInt64)
  | listed (reported size : UInt64) (units : List UInt64)
  | recouped (reported : UInt64)
  | settled (reported : UInt64)

namespace Stage

inductive Allowed : {β : Type} → Stage → Call β → Prop where
  | query {j} : Allowed (.new j) .queryMigrateBucketState
  | refuse : Allowed .refused (.respond false)
  | preSize : Allowed .pre .getBucketTotalSize
  | preLatest : Allowed .pre .getLatestBucketReadQuota
  | preTraffic : Allowed .pre .getBucketTraffic
  | preFree : Allowed .pre .querySPFreeQuota
  | preCharged : Allowed .pre .chargedReadQuota
  | preInit {m q} : Allowed .pre (.initBucketTraffic m q)
  | preFail : Allowed .pre (.respond false)
  | deduct {size} : Allowed .pre (.deductQuotaForBucketMigrate size)
  | record {size} : Allowed (.deducted size) .updateBucketMigrationPreDeductedQuota
  | undo {size m} : Allowed (.deducted size) (.recoupQuota size m)
  | close : Allowed .closed (.respond true)
  | postLatest {f r} : Allowed (.post f r) .getLatestBucketReadQuota
  | postSize {f r} : Allowed (.post f r) .getBucketTotalSize
  | postFail {f r} : Allowed (.post f r) (.respond false)
  | finish {r size} : Allowed (.sized true r size) (.respond true)
  | list {r size} : Allowed (.sized false r size) .listMigrateGVGUnitsByBucketID
  | listFail {r size} : Allowed (.sized false r size) (.respond false)
  | recoup {r size units m} (h : getLocallyReconciledMigratedBytes units r < size) :
      Allowed (.listed r size units)
        (.recoupQuota (size - getLocallyReconciledMigratedBytes units r) m)
  | recoupFail {r size units} : Allowed (.listed r size units) (.respond false)
  | update {r} : Allowed (.recouped r) .updateBucketMigrationRecoupQuota
  | settle {r} : Allowed (.settled r) (.respond true)

/-- Answers that an orderly run does not give. -/
def answers {β : Type} (k : Stage) (e : Call β) : β → Prop :=
  match k, e with
  | .deducted _, .recoupQuota _ _ => fun r => r = .ok ()
  | .sized false reported size, .listMigrateGVGUnitsByBucketID => fun r =>
      ∀ units, r = .ok units → getLocallyReconciledMigratedBytes units reported < size
  | .recouped _, .updateBucketMigrationRecoupQuota => fun r => r = .ok ()
  | _, _ => fun _ => True

def learn {β : Type} (k : Stage) (e : Call β) : β → Stage :=
  match k, e with
  | _, .respond _ => fun _ => .refused
  | .new j, .queryMigrateBucketState => fun r =>
      match r with
      | .error _ => .refused
      | .ok state =>
        if j.passes state then
          match j with
          | .pre => .pre
          | .post finished reported => .post finished reported
        else .refused
  | .pre, .deductQuotaForBucketMigrate size => fun r =>
      match r with
      | .error _ => .pre
      | .ok _ => .deducted size
  | .deducted size, .updateBucketMigrationPreDeductedQuota => fun r =>
      match r with
      | .error _ => .deducted size
      | .ok _ => .closed
  | .deducted _, .recoupQuota _ _ => fun _ => .pre
  | .post finished reported, .getBucketTotalSize => fun r =>
      match r with
      | .error _ => .post finished reported
      | .ok size => .sized finished reported size
  | .sized false reported size, .listMigrateGVGUnitsByBucketID => fun r =>
      match r with
      | .error _ => .sized false reported size
      | .ok units => .listed reported size units
  | .listed reported size units, .recoupQuota _ _ => fun r =>
      match r with
      | .error _ => .listed reported size units
      | .ok _ => .recouped reported
  | .recouped reported, .updateBucketMigrationRecoupQuota => fun _ => .settled reported
  | k, _ => fun _ => k

end Stage

def discipline : Discipline Call Stage where
  allowed := Stage.Allowed
  answers := Stage.answers
  learn := Stage.learn

/-! ## The code follows the stages -/

/-- A call may end where its answer is allowed. -/
def Ends (result : Except Unit Unit) (k : Stage) : Prop := k.Allowed (.respond result.isOk)

variable {β : Type} {k : Stage} {month : Option Month} {monthlyFreeQuota reported bucketID : UInt64}
  {t u : Nat} {w w' : World} {j : Job}

variable {next : β → Code (Except Unit Unit)}

theorem follows_try {e : Call (Except Unit β)} (hallowed : k.Allowed e)
    (herror : k.answers e (.error ()) → Ends (.error ()) (k.learn e (.error ())))
    (hok : ∀ b, k.answers e (.ok b) → discipline.Follows (next b) (k.learn e (.ok b)) Ends) :
    discipline.Follows (try_ e next) k Ends := by
  refine .do_bind hallowed fun r hr => ?_
  cases r with
  | error => exact herror hr
  | ok b => exact hok b hr

theorem deductQuota_follows {size : UInt64} :
    discipline.Follows (deductQuota size month) .pre Ends := by
  refine follows_try .deduct (fun _ => .preFail) fun _ _ => ?_
  refine .do_bind .record fun r _ => ?_
  cases r with
  | ok => exact Stage.Allowed.close
  | error =>
    refine .do_bind .undo fun _ _ => ?_
    exact Stage.Allowed.preFail

theorem pre_follows :
    discipline.Follows (notifyPreMigrateBucketAndDeductQuota monthlyFreeQuota) (.new .pre) Ends := by
  apply follows_try .query (fun _ => .refuse)
  intro _ _
  dsimp only [Stage.learn, passes]
  split
  next hstate =>
    simp only [hstate, ne_eq, not_true_eq_false, decide_false]
    exact Stage.Allowed.refuse
  rename_i hstate
  simp only [ne_eq, hstate, not_false_eq_true, decide_true, if_true]
  apply follows_try .preSize (fun _ => .preFail)
  intro _ _
  apply follows_try .preLatest (fun _ => .preFail)
  intro _ _
  apply follows_try .preTraffic (fun _ => .preFail)
  intro (_, _) _
  split
  · exact deductQuota_follows
  · apply follows_try .preFree (fun _ => .preFail)
    intro _ _
    refine .do_bind .preCharged fun _ _ => ?_
    exact follows_try .preInit (fun _ => .preFail) fun _ _ => deductQuota_follows

theorem post_follows {finished : Bool} :
    discipline.Follows (notifyPostMigrateBucketAndRecoupQuota finished reported)
      (.new (.post finished reported)) Ends := by
  apply follows_try .query (fun _ => .refuse)
  intro _ _
  dsimp only [Stage.learn, passes]
  split
  next hstate =>
    simp only [hstate, decide_false]
    exact Stage.Allowed.refuse
  rename_i hstate
  simp only [not_not.mp hstate, decide_true, if_true]
  apply follows_try .postLatest (fun _ => .postFail)
  intro _ _
  apply follows_try .postSize (fun _ => .postFail)
  intro _ _
  cases finished with
  | true => exact Stage.Allowed.finish
  | false =>
    apply follows_try .list (fun _ => .listFail)
    intro units hunits
    have hless := hunits units rfl
    rw [recoupQuota, if_neg (UInt64.not_le.mpr hless)]
    refine follows_try (.recoup hless) (fun _ => .recoupFail) fun _ _ => ?_
    apply follows_try .update nofun
    intro _ _
    exact Stage.Allowed.settle

theorem body_follows (j : Job) :
    discipline.Follows (j.body monthlyFreeQuota) (.new j) fun _ _ => True := by
  have hcode : discipline.Follows (j.code monthlyFreeQuota) (.new j) Ends := by
    cases j with
    | pre => exact pre_follows
    | post => exact post_follows
  apply hcode.bind
  intro _ _ hends
  exact .do_ hends fun _ _ => trivial

/-! ## What the stages mean -/

/-- The bytes outstanding. -/
def bytes (deductions : List UInt64) : Nat := (deductions.map UInt64.toNat).sum

/-- A failed migration that was answered well had all but the migrated bytes
recouped, and the bucket may migrate again. -/
def Response.Exact (r : Response) : Prop :=
  ∀ reported ∈ r.job.reported?, r.ok = true →
    r.record.recouped =
      bytes r.record.found - (getLocallyReconciledMigratedBytes r.record.units reported).toNat ∧
    pre.passes r.state = true

namespace World

/-- The migration state tells whether a deduction is outstanding. -/
def Told (w : World) : Prop :=
  (w.state = .srcSpPreDeductQuotaDone ∧ ∃ a, w.outstanding = [a]) ∨
  (w.state ≠ .srcSpPreDeductQuotaDone ∧ w.outstanding = [])

structure Sound (w : World) : Prop where
  named : ∀ t, w.busy = some t → t < w.requests
  once : w.outstanding.length ≤ 1
  covered : w.recouped + bytes w.outstanding ≤ w.deducted
  told : w.busy = none → w.Told
  exact : ∀ r ∈ w.responses, r.Exact

end World

namespace Stage

/-- What a Post call past its check has found. -/
structure Posting (w : World) (t : Nat) (finished : Bool) (reported a : UInt64) : Prop where
  busy : w.busy = some t
  job : w.jobs t = .post finished reported
  state : w.state = .srcSpPreDeductQuotaDone
  outstanding : w.outstanding = [a]
  found : (w.records t).found = [a]
  recouped : (w.records t).recouped = 0

/-- A Post call has recouped what it must. -/
structure Recouped (w : World) (t : Nat) (reported : UInt64) : Prop where
  busy : w.busy = some t
  job : w.jobs t = .post false reported
  outstanding : w.outstanding = []
  recouped : (w.records t).recouped = bytes (w.records t).found -
    (getLocallyReconciledMigratedBytes (w.records t).units reported).toNat

def Holds (t : Nat) (w : World) : Stage → Prop
  | .new j => w.jobs t = j ∧ t < w.requests ∧ w.busy ≠ some t ∧ (w.records t).recouped = 0
  | .refused => w.busy ≠ some t
  | .pre => w.busy = some t ∧ w.jobs t = .pre ∧ w.state ≠ .srcSpPreDeductQuotaDone ∧ w.outstanding = []
  | .deducted size => w.busy = some t ∧ w.jobs t = .pre ∧ w.state ≠ .srcSpPreDeductQuotaDone ∧
      w.outstanding = [size]
  | .closed => w.busy = some t ∧ w.jobs t = .pre ∧ w.Told
  | .post finished reported => ∃ a, Posting w t finished reported a
  | .sized finished reported size => ∃ a, Posting w t finished reported a ∧ (finished = false → a = size)
  | .listed reported size units => Posting w t false reported size ∧ (w.records t).units = units
  | .recouped reported => Recouped w t reported
  | .settled reported => Recouped w t reported ∧ w.state ≠ .srcSpPreDeductQuotaDone

end Stage

/-- What a stage of the call `u` rests on stays. -/
structure Undisturbed (u : Nat) (w w' : World) : Prop where
  job : w'.jobs u = w.jobs u
  requests : w.requests ≤ w'.requests
  record : w'.records u = w.records u
  busy : w'.busy = some u ↔ w.busy = some u
  state : w.busy = some u → w'.state = w.state
  outstanding : w.busy = some u → w'.outstanding = w.outstanding

theorem Stage.Posting.undisturbed {f : Bool} {a : UInt64} (h : Posting w t f reported a)
    (hu : Undisturbed t w w') : Posting w' t f reported a where
  busy := hu.busy.mpr h.busy
  job := hu.job.trans h.job
  state := (hu.state h.busy).trans h.state
  outstanding := (hu.outstanding h.busy).trans h.outstanding
  found := by rw [hu.record, h.found]
  recouped := by rw [hu.record, h.recouped]

theorem Stage.Recouped.undisturbed (h : Recouped w t reported) (hu : Undisturbed t w w') :
    Recouped w' t reported where
  busy := hu.busy.mpr h.busy
  job := hu.job.trans h.job
  outstanding := (hu.outstanding h.busy).trans h.outstanding
  recouped := by rw [hu.record, h.recouped]

theorem Stage.Holds.undisturbed (h : k.Holds t w) (hu : Undisturbed t w w') : k.Holds t w' := by
  cases k with
  | new =>
    exact ⟨hu.job.trans h.1, Nat.lt_of_lt_of_le h.2.1 hu.requests, fun hb => h.2.2.1 (hu.busy.mp hb),
      by rw [hu.record]; exact h.2.2.2⟩
  | refused => exact fun hb => h (hu.busy.mp hb)
  | pre | deducted =>
    obtain ⟨hbusy, hjob, hstate, hout⟩ := h
    exact ⟨hu.busy.mpr hbusy, hu.job.trans hjob, hu.state hbusy ▸ hstate,
      (hu.outstanding hbusy).trans hout⟩
  | closed =>
    obtain ⟨hbusy, hjob, htold⟩ := h
    refine ⟨hu.busy.mpr hbusy, hu.job.trans hjob, ?_⟩
    rw [World.Told, hu.state hbusy, hu.outstanding hbusy]
    exact htold
  | post =>
    obtain ⟨a, ha⟩ := h
    exact ⟨a, ha.undisturbed hu⟩
  | sized =>
    obtain ⟨a, ha, hn⟩ := h
    exact ⟨a, ha.undisturbed hu, hn⟩
  | listed => exact ⟨h.1.undisturbed hu, by rw [hu.record]; exact h.2⟩
  | recouped => exact Recouped.undisturbed h hu
  | settled => exact ⟨h.1.undisturbed hu, hu.state h.1.busy ▸ h.2⟩

/-- Calls without a part in the books. -/
theorem Undisturbed.of_same (h : (w'.jobs, w'.requests, w'.records, w'.busy, w'.state, w'.outstanding) =
    (w.jobs, w.requests, w.records, w.busy, w.state, w.outstanding)) : Undisturbed u w w' := by
  simp only [Prod.mk.injEq] at h
  obtain ⟨hjobs, hrequests, hrecords, hbusy, hstate, hout⟩ := h
  exact ⟨by rw [hjobs], hrequests.ge, by rw [hrecords], by rw [hbusy], fun _ => hstate, fun _ => hout⟩

/-- While a call is past its check, others are not. -/
theorem Undisturbed.of_busy (hbusy : w.busy = some t) (hne : u ≠ t) (hjobs : w'.jobs = w.jobs)
    (hrequests : w'.requests = w.requests) (hrecord : w'.records u = w.records u)
    (hbusy' : w'.busy = some t ∨ w'.busy = none) : Undisturbed u w w' := by
  have hnot : w.busy ≠ some u := by
    rw [hbusy]
    exact fun h => hne (some.inj h).symm
  refine ⟨by rw [hjobs], hrequests.ge, hrecord, ⟨fun h => ?_, fun h => (hnot h).elim⟩,
    fun h => (hnot h).elim, fun h => (hnot h).elim⟩
  rcases hbusy' with hb | hb
  · rw [hb] at h
    exact (hne (some.inj h).symm).elim
  · rw [hb] at h
    cases h

/-- A step of the call `t` that leaves it in the stage `k`. -/
structure Kept (t : Nat) (k : Stage) (w w' : World) : Prop where
  sound : w'.Sound
  holds : k.Holds t w'
  others : ∀ u, u ≠ t → Undisturbed u w w'

namespace World

variable {w : World} {t : Nat} {k : Stage}

/-- While a call is past its check the state need not tell. -/
theorem told_of_busy (hbusy : w.busy = some t) : w.busy = none → w.Told :=
  fun hnone => nomatch hbusy.symm.trans hnone

theorem Sound.table (h : w.Sound) (table : Table) : { w with table }.Sound := { h with }

theorem Sound.kept (h : w.Sound) (hk : k.Holds t w) : Kept t k w w :=
  ⟨h, hk, fun _ _ => .of_same rfl⟩

theorem Sound.keptTable (h : w.Sound) (hk : k.Holds t w) (table : Table) : Kept t k w { w with table } :=
  ⟨h.table table, hk.undisturbed (.of_same rfl), fun _ _ => .of_same rfl⟩

/-- A call that only reads. -/
theorem answer_same {b : β} : (w.answer b w).2 = w := by
  unfold answer
  split
  · rfl
  · split
    · rfl
    · rfl

theorem answer_clear {b : β} (hreach : ¬ w.weather.unreachable = true) (hlost : w.weather.lost = false) :
    w.answer b w' = (.ok b, w') := by
  rw [answer, if_neg hreach, hlost]
  rfl

/-- The check of the migration state. -/
theorem Sound.query (h : w.Sound) (hk : (Stage.new j).Holds t w)
    (hcond : Orderly bucketID _ t .queryMigrateBucketState w) :
    Kept t ((Stage.new j).learn .queryMigrateBucketState (w.exec bucketID t .queryMigrateBucketState).1)
      w (w.exec bucketID t .queryMigrateBucketState).2 := by
  obtain ⟨hjob, hnamed, hbusy, hrecouped⟩ := hk
  have hrow : ({ w with row := some w.state } : World).Sound := { h with }
  have hstate : ({ w with row := some w.state } : World).state = w.state := rfl
  unfold exec
  split
  · exact h.kept hbusy
  split
  · exact ⟨hrow, hbusy, fun _ _ => .of_same rfl⟩
  rename_i hreach hlost
  dsimp only [Stage.learn, note]
  rw [hjob, hstate]
  split
  next hpasses =>
    have hfree : w.busy = none := hcond (by simpa using hreach) (by simpa using hlost) (hjob ▸ hpasses)
    refine ⟨{ h with named := ?_, told := nofun }, ?_, ?_⟩
    · intro _ hu
      cases hu
      exact hnamed
    · cases j with
      | pre =>
        have hnot : w.state ≠ .srcSpPreDeductQuotaDone := by simpa [passes] using hpasses
        rcases h.told hfree with ⟨hdone, _⟩ | ⟨_, hout⟩
        · exact (hnot hdone).elim
        · exact ⟨rfl, hjob, hnot, hout⟩
      | post =>
        have hdone : w.state = .srcSpPreDeductQuotaDone := by simpa [passes] using hpasses
        rcases h.told hfree with ⟨_, a, hout⟩ | ⟨hnot, _⟩
        · exact ⟨a, rfl, hjob, hdone, hout, by simp [setRecord, hout], by simpa [setRecord] using hrecouped⟩
        · exact (hnot hdone).elim
    · intro _ hne
      refine ⟨rfl, .refl, update_of_ne hne _ _, ?_, ?_, ?_⟩
      · rw [hfree]
        exact ⟨fun hu => (hne (some.inj hu).symm).elim, nofun⟩
      · rw [hfree]
        exact nofun
      · rw [hfree]
        exact nofun
  · exact ⟨hrow, hbusy, fun _ _ => .of_same rfl⟩

theorem Sound.deduct (h : w.Sound) (hk : Stage.pre.Holds t w) {size : UInt64}
    (hcond : Orderly bucketID _ t (.deductQuotaForBucketMigrate size) w) :
    Kept t (Stage.pre.learn (.deductQuotaForBucketMigrate size) (w.deduct bucketID size).1)
      w (w.deduct bucketID size).2 := by
  obtain ⟨hlost, htold⟩ := hcond
  obtain ⟨hbusy, hjob, hstate, hout⟩ := id hk
  unfold World.deduct
  split
  · exact h.kept hk
  rename_i hreach
  split
  · -- the charge went through
    rw [answer_clear hreach hlost]
    refine ⟨{ h with once := by simp [hout], covered := ?_, told := told_of_busy hbusy },
      ⟨hbusy, hjob, hstate, by rw [hout]⟩, fun u hne => .of_busy hbusy hne rfl rfl rfl (.inl hbusy)⟩
    have := h.covered
    simp only [hout, bytes, map_cons, map_nil, sum_cons, sum_nil] at this ⊢
    omega
  · exact h.kept hk
  next hne heq =>
    rcases htold with hun | hok | hlack
    · exact (hreach hun).elim
    · rw [heq] at hok
      cases hok
    · rw [heq] at hlack
      cases hlack
      exact (hne rfl).elim

theorem Sound.record (h : w.Sound) {size : UInt64} (hk : (Stage.deducted size).Holds t w)
    (hcond : Orderly bucketID _ t .updateBucketMigrationPreDeductedQuota w) :
    Kept t ((Stage.deducted size).learn .updateBucketMigrationPreDeductedQuota
        (w.exec bucketID t .updateBucketMigrationPreDeductedQuota).1)
      w (w.exec bucketID t .updateBucketMigrationPreDeductedQuota).2 := by
  obtain ⟨hbusy, hjob, _, hout⟩ := id hk
  dsimp only [World.exec]
  unfold answer
  split
  · exact h.kept hk
  · rw [show w.weather.lost = false from hcond]
    exact ⟨{ h with told := told_of_busy hbusy }, ⟨hbusy, hjob, .inl ⟨rfl, size, hout⟩⟩,
      fun u hne => .of_busy hbusy hne rfl rfl rfl (.inl hbusy)⟩

variable {extra : UInt64}

/-- A refund of no more than the one deduction that is outstanding. -/
theorem Sound.recouping (h : w.Sound) (hbusy : w.busy = some t) {a : UInt64} (hout : w.outstanding = [a])
    (hle : extra.toNat ≤ a.toNat) {table : Table} {r : CallRecord} : ({ w.setRecord t r with
        table, outstanding := w.outstanding.tail, recouped := w.recouped + extra.toNat } : World).Sound := by
  refine { h with once := by simp [hout], covered := ?_, told := told_of_busy hbusy }
  have := h.covered
  simp only [hout, bytes, setRecord, map_cons, map_nil, sum_cons, sum_nil, tail_cons] at this ⊢
  omega

/-- What a refund does. -/
theorem recoup_cases (hlost : w.weather.lost = false) :
    w.recoup bucketID extra month t = (.error (), w) ∨
    ∃ table, w.recoup bucketID extra month t = (.ok (),
      { w.setRecord t { w.records t with recouped := (w.records t).recouped + extra.toNat } with
        table, outstanding := w.outstanding.tail, recouped := w.recouped + extra.toNat }) := by
  unfold recoup
  split
  · exact .inl rfl
  rename_i hreach
  split
  · exact .inl rfl
  split
  next table _ => exact .inr ⟨table, answer_clear hreach hlost⟩
  · exact .inl rfl

section
variable (h : w.Sound)
include h

namespace Sound

theorem undo {size : UInt64} (hk : (Stage.deducted size).Holds t w)
    (hcond : Orderly bucketID _ t (.recoupQuota size month) w) :
    (w.recoup bucketID size month t).1 = .ok () ∧
      Kept t .pre w (w.recoup bucketID size month t).2 := by
  obtain ⟨hbusy, hjob, hstate, hout⟩ := id hk
  have hok : (w.recoup bucketID size month t).1 = .ok () := by
    obtain ⟨hreach, _, ⟨⟩, hok⟩ := hcond.2 hjob
    have hreach : ¬ w.weather.unreachable = true := by simp [hreach]
    unfold recoup
    rw [if_neg hreach]
    dsimp only
    split
    · rw [answer_clear hreach hcond.1]
    next heq =>
      rw [heq] at hok
      cases hok
  refine ⟨hok, ?_⟩
  rcases recoup_cases hcond.1 with herror | ⟨_, hdone⟩
  · rw [herror] at hok
    cases hok
  rw [hdone]
  refine ⟨h.recouping hbusy hout .refl, ⟨hbusy, hjob, hstate, by simp [hout]⟩, ?_⟩
  intro _ hne
  exact .of_busy hbusy hne rfl rfl (update_of_ne hne _ _) (.inl hbusy)

theorem size {finished : Bool} (hk : (Stage.post finished reported).Holds t w)
    (hcond : Orderly bucketID _ t .getBucketTotalSize w) :
    Kept t ((Stage.post finished reported).learn .getBucketTotalSize (w.answer w.bucketSize w).1)
      w (w.answer w.bucketSize w).2 := by
  obtain ⟨a, ha⟩ := id hk
  unfold answer
  split
  · exact h.kept hk
  split
  · exact h.kept hk
  refine h.kept ⟨a, ha, ?_⟩
  intro hfailed
  subst hfailed
  have hmem : reported ∈ (w.jobs t).reported? := by
    rw [ha.job]
    rfl
  exact (hcond reported hmem a (by simp [ha.outstanding])).symm

theorem list {size : UInt64} (hk : (Stage.sized false reported size).Holds t w)
    (hcond : Orderly bucketID _ t .listMigrateGVGUnitsByBucketID w) :
    (Stage.sized false reported size).answers .listMigrateGVGUnitsByBucketID
        (w.exec bucketID t .listMigrateGVGUnitsByBucketID).1 ∧
    Kept t ((Stage.sized false reported size).learn .listMigrateGVGUnitsByBucketID
        (w.exec bucketID t .listMigrateGVGUnitsByBucketID).1)
      w (w.exec bucketID t .listMigrateGVGUnitsByBucketID).2 := by
  obtain ⟨a, ha, hsize⟩ := id hk
  obtain rfl := hsize rfl
  have hmem : reported ∈ (w.jobs t).reported? := by
    rw [ha.job]
    rfl
  have hless := hcond reported hmem a (by simp [ha.outstanding])
  -- the record of the call is all that changes
  have hsound : (w.setRecord t { w.records t with units := w.units }).Sound := { h with }
  have hposting : Stage.Posting (w.setRecord t { w.records t with units := w.units }) t false reported a :=
    ⟨ha.busy, ha.job, ha.state, ha.outstanding, by simpa [setRecord] using ha.found,
      by simpa [setRecord] using ha.recouped⟩
  have hothers : ∀ u, u ≠ t →
      Undisturbed u w (w.setRecord t { w.records t with units := w.units }) := fun u hne =>
    .of_busy ha.busy hne rfl rfl (update_of_ne hne _ _) (.inl ha.busy)
  dsimp only [World.exec]
  unfold answer
  split
  · exact ⟨nofun, h.kept hk⟩
  split
  · exact ⟨nofun, hsound, ⟨a, hposting, fun _ => rfl⟩, hothers⟩
  refine ⟨?_, hsound, ⟨hposting, by simp [setRecord]⟩, hothers⟩
  intro _ hunits
  cases hunits
  exact hless

theorem recoup {size : UInt64} {units : List UInt64}
    (hk : (Stage.listed reported size units).Holds t w)
    (hless : getLocallyReconciledMigratedBytes units reported < size) (hlost : w.weather.lost = false)
    (hextra : extra = size - getLocallyReconciledMigratedBytes units reported) :
    Kept t ((Stage.listed reported size units).learn (.recoupQuota extra month)
        (w.recoup bucketID extra month t).1)
      w (w.recoup bucketID extra month t).2 := by
  obtain ⟨hposting, hunits⟩ := id hk
  have hle := UInt64.le_of_lt hless
  have hamount : extra.toNat = size.toNat - (getLocallyReconciledMigratedBytes units reported).toNat := by
    rw [hextra, UInt64.toNat_sub_of_le _ _ hle]
  rcases recoup_cases hlost with herror | ⟨_, hdone⟩
  · rw [herror]
    exact h.kept hk
  rw [hdone]
  refine ⟨h.recouping hposting.busy hposting.outstanding (by omega), ?_, ?_⟩
  · refine ⟨hposting.busy, hposting.job, by simp [hposting.outstanding], ?_⟩
    simp [setRecord, hposting.recouped, hposting.found, hunits, bytes, hamount]
  · intro _ hne
    exact .of_busy hposting.busy hne rfl rfl (update_of_ne hne _ _) (.inl hposting.busy)

theorem update (hk : (Stage.recouped reported).Holds t w)
    (hcond : Orderly bucketID _ t .updateBucketMigrationRecoupQuota w) :
    (w.exec bucketID t .updateBucketMigrationRecoupQuota).1 = .ok () ∧
      Kept t (.settled reported) w (w.exec bucketID t .updateBucketMigrationRecoupQuota).2 := by
  obtain ⟨hlost, hreach⟩ := hcond
  dsimp only [World.exec]
  rw [answer_clear (by simp [hreach]) hlost]
  exact ⟨rfl, { h with told := told_of_busy hk.busy }, ⟨{ hk with }, nofun⟩,
    fun u hne => .of_busy hk.busy hne rfl rfl rfl (.inl hk.busy)⟩

/-- A call past its check responds, and leaves the books in order. -/
theorem respond (hbusy : w.busy = some t) {ok : Bool} (htold : w.Told)
    (hexact : Response.Exact ⟨w.jobs t, ok, w.records t, w.state⟩) :
    Kept t .refused w (w.exec bucketID t (.respond ok)).2 := by
  dsimp only [World.exec]
  rw [if_pos hbusy]
  refine ⟨{ h with named := nofun, told := fun _ => htold, exact := ?_ }, nofun, fun u hne =>
    .of_busy hbusy hne rfl rfl rfl (.inr rfl)⟩
  intro r hr
  rcases mem_append.mp hr with hr | hr
  · exact h.exact r hr
  · rw [mem_singleton.mp hr]
    exact hexact

theorem refuse (hk : Stage.refused.Holds t w) :
    Kept t .refused w (w.exec bucketID t (.respond false)).2 := by
  dsimp only [World.exec]
  rw [if_neg hk]
  refine ⟨{ h with exact := ?_ }, hk, fun _ _ => .of_same rfl⟩
  intro r hr
  rcases mem_append.mp hr with hr | hr
  · exact h.exact r hr
  · rw [mem_singleton.mp hr]
    intro _ _ hok
    cases hok

end Sound

end

end World

variable {state : BucketMigrationState}

theorem Response.exact_of_error {record : CallRecord} :
    Response.Exact ⟨j, false, record, state⟩ := by
  intro _ _ hok
  cases hok

theorem Response.exact_of_job {ok : Bool} {record : CallRecord} (hj : j.reported? = none) :
    Response.Exact ⟨j, ok, record, state⟩ := by
  intro _ hmem
  rw [hj] at hmem
  cases hmem

/-- One call of the code, in any stage. -/
theorem step_kept {e : Call β} (h : w.Sound) (hk : k.Holds t w) (hallowed : k.Allowed e)
    (hcond : Orderly bucketID β t e w) : k.answers e (w.exec bucketID t e).1 ∧
      Kept t (k.learn e (w.exec bucketID t e).1) w (w.exec bucketID t e).2 := by
  cases hallowed with
  | query => exact ⟨trivial, h.query hk hcond⟩
  | refuse => exact ⟨trivial, h.refuse hk⟩
  | preSize | preLatest | preTraffic | preFree | postLatest =>
    refine ⟨trivial, ?_⟩
    dsimp only [World.exec]
    rw [World.answer_same]
    exact h.kept hk
  | preCharged => exact ⟨trivial, h.kept hk⟩
  | preInit =>
    refine ⟨trivial, ?_⟩
    dsimp only [World.exec]
    split
    · unfold World.answer
      split
      · exact h.kept hk
      split
      · exact h.keptTable hk _
      · exact h.keptTable hk _
    · exact h.kept hk
  | preFail =>
    obtain ⟨hbusy, _, hstate, hout⟩ := hk
    exact ⟨trivial, h.respond hbusy (.inr ⟨hstate, hout⟩) exact_of_error⟩
  | deduct => exact ⟨trivial, h.deduct hk hcond⟩
  | record => exact ⟨trivial, h.record hk hcond⟩
  | undo => exact h.undo hk hcond
  | close =>
    obtain ⟨hbusy, hjob, htold⟩ := hk
    exact ⟨trivial, h.respond hbusy htold (exact_of_job (by rw [hjob]; rfl))⟩
  | postSize => exact ⟨trivial, h.size hk hcond⟩
  | postFail =>
    obtain ⟨a, ha⟩ := hk
    exact ⟨trivial, h.respond ha.busy (.inl ⟨ha.state, a, ha.outstanding⟩) exact_of_error⟩
  | finish =>
    obtain ⟨a, ha, _⟩ := hk
    exact ⟨trivial, h.respond ha.busy (.inl ⟨ha.state, a, ha.outstanding⟩)
      (exact_of_job (by rw [ha.job]; rfl))⟩
  | list => exact h.list hk hcond
  | listFail =>
    obtain ⟨a, ha, _⟩ := hk
    exact ⟨trivial, h.respond ha.busy (.inl ⟨ha.state, a, ha.outstanding⟩) exact_of_error⟩
  | recoup hless => exact ⟨trivial, h.recoup hk hless hcond.1 rfl⟩
  | recoupFail =>
    exact ⟨trivial, h.respond hk.1.busy (.inl ⟨hk.1.state, _, hk.1.outstanding⟩) exact_of_error⟩
  | update => exact h.update hk hcond
  | settle =>
    obtain ⟨hdone, hstate⟩ := hk
    refine ⟨trivial, h.respond hdone.busy (.inr ⟨hstate, hdone.outstanding⟩) ?_⟩
    intro _ hmem _
    rw [hdone.job] at hmem
    cases hmem
    exact ⟨hdone.recouped, by simpa [passes] using hstate⟩

theorem Env.act_undisturbed {v : Env} : Undisturbed u w (v.act w) := .of_same rfl

theorem Env.act_sound {v : Env} (h : w.Sound) : (v.act w).Sound := { h with }

/-! ## Runs -/

theorem system_sound (bucketID monthlyFreeQuota : UInt64) :
    (system bucketID monthlyFreeQuota).Sound (fun _ => discipline) (fun _ j => .new j)
      (Orderly bucketID) World.Sound (fun t k w => k.Holds t w) where
  body := fun _ j _ _ _ => body_follows j
  start := by
    intro t _ w _ h hstart
    simp only [system] at hstart
    split at hstart
    next hname =>
      cases hstart
      have hbusy : w.busy ≠ some t := fun hb => Nat.lt_irrefl _ (hname ▸ h.named t hb)
      refine ⟨{ h with named := fun u hu => Nat.lt_succ_of_lt (h.named u hu) }, ?_, ?_⟩
      · exact ⟨update_self _ _ _, hname ▸ Nat.lt_succ_self _, hbusy, by simp [World.setRecord]⟩
      · intro _ _ hne hk
        exact hk.undisturbed ⟨update_of_ne hne _ _, Nat.le_succ _, update_of_ne hne _ _,
          .rfl, fun _ => rfl, fun _ => rfl⟩
    · cases hstart
  step := by
    intro _ t _ e _ w w' r h hk hallowed hcond hexec
    have hexec : w.exec bucketID t e = (r, w') := some.inj hexec
    obtain ⟨hanswers, hkept⟩ := step_kept h hk hallowed hcond
    rw [hexec] at hanswers hkept
    exact ⟨hkept.sound, hanswers, hkept.holds, fun u k' hne hu => hu.undisturbed (hkept.others u hne)⟩
  env := by
    intro _ _ _ h henv
    cases henv
    exact ⟨Env.act_sound h, fun u k hk => hk.undisturbed Env.act_undisturbed⟩

/-- No request has been served, and no deduction is due. -/
def World.Idle (w : World) : Prop :=
  w.busy = none ∧ w.state ≠ .srcSpPreDeductQuotaDone ∧ w.outstanding = [] ∧
    w.recouped ≤ w.deducted ∧ w.responses = []

theorem World.Idle.sound (h : w.Idle) : w.Sound := by
  obtain ⟨hbusy, hstate, hout, htotal, hresponses⟩ := h
  refine ⟨by simp [hbusy], by simp [hout], by simpa [hout, bytes] using htotal,
    fun _ => .inr ⟨hstate, hout⟩, by simp [hresponses]⟩

/-- **Migration quota is deducted once and recouped once**, in every run whose
calls are orderly: no two deductions are outstanding at a time, no more is
recouped than was deducted, and whoever is told that a failed migration ended
well can rely on all but the migrated bytes being recouped and on the bucket being
free to migrate again. -/
theorem migration_quota_once {bucketID monthlyFreeQuota : UInt64} {w : World} (hidle : w.Idle)
    {c : Machine.Config Call Nat World}
    (hreach : (system bucketID monthlyFreeQuota).Reach (Orderly bucketID) w c) :
    c.state.outstanding.length ≤ 1 ∧ c.state.recouped ≤ c.state.deducted ∧
    ∀ r ∈ c.state.responses, ∀ reported, r.job = .post false reported → r.ok = true →
      r.record.recouped =
        bytes r.record.found - (getLocallyReconciledMigratedBytes r.record.units reported).toNat ∧
      pre.passes r.state = true := by
  have h := ((system_sound bucketID monthlyFreeQuota).reach hidle.sound hreach).1
  refine ⟨h.once, Nat.le_trans (Nat.le_add_right _ _) h.covered, ?_⟩
  intro r hr reported hjob hok
  exact h.exact r hr reported (by rw [hjob]; rfl) hok

/-- A bucket of ten bytes with plenty of quota. -/
def sampleWorld : World :=
  { table := [{ bucketID := 1, month := 7, freeQuotaSize := 100, chargedQuotaSize := 0,
                monthlyQuotaSize := 0 }]
    month := 7
    bucketSize := 10 }

/-- A request that starts and makes some calls. -/
def sampleCalls (t : Nat) (j : Job) (n : Nat) : List (Machine.Action Nat Unit Job Env) :=
  .start t j :: List.replicate n (.step t ())

theorem migration_quota_once_sample :
    ∃ c, (system 1 0).Reach (Orderly 1) sampleWorld c ∧ c.state.deducted = 10 ∧
      ∃ r ∈ c.state.responses, r.job = .post false 4 ∧ r.ok = true ∧
        r.record.recouped = bytes r.record.found -
          (getLocallyReconciledMigratedBytes r.record.units 4).toNat ∧
        pre.passes r.state = true := by
  obtain ⟨c, hreach, hvalues⟩ : ∃ c, (system 1 0).Reach (Orderly 1) sampleWorld c ∧
      c.state.deducted = 10 ∧
        ∃ r ∈ c.state.responses, r.job = .post false 4 ∧ r.ok = true :=
    Machine.Reach.exists_of_run (sampleCalls 0 .pre 8 ++ sampleCalls 1 (.post false 4) 8) (by decide +kernel)
  obtain ⟨hdeducted, r, hr, hjob, hok⟩ := hvalues
  have hidle : sampleWorld.Idle := ⟨rfl, by decide, rfl, by decide, rfl⟩
  exact ⟨c, hreach, hdeducted, r, hr, hjob, hok,
    (migration_quota_once hidle hreach).2.2 r hr 4 hjob hok⟩

/-- Two Pre calls pass their check before either updates the migration state. -/
theorem migration_quota_twice :
    ∃ c, (system 1 0).Reach Machine.always sampleWorld c ∧ sampleWorld.Idle ∧
      ¬ c.state.outstanding.length ≤ 1 := by
  obtain ⟨c, hreach, hvalues⟩ : ∃ c, (system 1 0).Reach Machine.always sampleWorld c ∧
      ¬ c.state.outstanding.length ≤ 1 :=
    Machine.Reach.exists_of_run (sampleCalls 0 .pre 4 ++ sampleCalls 1 .pre 5 ++ [.step 0 ()]) (by decide +kernel)
  exact ⟨c, hreach, ⟨rfl, by decide, rfl, by decide, rfl⟩, hvalues⟩

end Migration

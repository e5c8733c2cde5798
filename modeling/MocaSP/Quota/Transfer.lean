-- SUMMARY: The quota of a bucket that migrates.
import MocaSP.Base.Table
import MocaSP.Quota.FreeQuota

/-!
# Quota that goes with a bucket

The source SP checks the quota before it deducts the size of the bucket, an unfinished
migration gets a refund, and a finished one takes its traffic row to the destination SP.
-/

open Table (written written_eq_iff)

namespace Traffic
open Calc Traffic.Table BucketTraffic

/-! ## The check before the deduction -/

/-- A sum that stops at the greatest word. -/
def saturatingAdd (a b : UInt64) : UInt64 := if 0xFFFFFFFFFFFFFFFF - a < b then 0xFFFFFFFFFFFFFFFF else a + b

def hasSufficientMigrationQuota (freeQuota chargedQuota consumedQuota monthlyQuota bucketSize : UInt64) :
    Bool :=
  if bucketSize = 0 then true
  else
    let available := saturatingAdd freeQuota chargedQuota
    let available := if consumedQuota ≥ available then 0 else available - consumedQuota
    saturatingAdd available monthlyQuota > bucketSize

theorem saturatingAdd_le (a b : UInt64) : (saturatingAdd a b).toNat ≤ a.toNat + b.toNat := by
  have ha : a ≤ 0xFFFFFFFFFFFFFFFF := UInt64.le_iff_toNat_le.mpr (Nat.le_of_lt_succ a.toNat_lt)
  have hrest := UInt64.toNat_sub_of_le _ _ ha
  unfold saturatingAdd
  split
  next hlt =>
    have hlt := UInt64.lt_iff_toNat_lt.mp hlt
    omega
  · rw [UInt64.toNat_add]
    exact Nat.mod_le _ _

section
variable {cost free charged consumed monthly : UInt64} {q q' : UpdatedQuota}

/-! What was consumed of the free and the monthly quota does not decide whether a charge succeeds. -/

theorem isSome_consumeFree (hfree : q.freeQuotaRemain = q'.freeQuotaRemain) :
    (consumeFree cost q).eval.isSome = (consumeFree cost q').eval.isSome := by
  unfold consumeFree
  rw [hfree]
  split <;> rfl

theorem isSome_consumeMonthly (hfree : q.freeQuotaRemain = q'.freeQuotaRemain)
    (hmonthly : q.monthlyFreeQuotaRemain = q'.monthlyFreeQuotaRemain) :
    (consumeMonthly cost q).eval.isSome = (consumeMonthly cost q').eval.isSome := by
  unfold consumeMonthly
  rw [hmonthly]
  split
  · rfl
  · split <;> exact isSome_consumeFree hfree

theorem getUpdatedConsumedQuotaV2_succeeds (consumedFree consumedMonthly : UInt64)
    (h : cost.toNat ≤ (charged.toNat - consumed.toNat) + monthly.toNat + free.toNat) :
    (getUpdatedConsumedQuotaV2 cost free consumedFree consumed charged monthly
      consumedMonthly).eval.isSome := by
  have hsame : (getUpdatedConsumedQuotaV2 cost free consumedFree consumed charged monthly
      consumedMonthly).eval.isSome =
      (getUpdatedConsumedQuotaV2 cost free 0 consumed charged monthly 0).eval.isSome := by
    unfold getUpdatedConsumedQuotaV2
    rw [eval_bind, eval_bind]
    split
    · rfl
    · split <;> exact isSome_consumeMonthly rfl rfl
  have hspec := (@getUpdatedConsumedQuotaV2_spec cost free 0 consumed charged monthly 0 free.toNat_lt
    monthly.toNat_lt).value
  rw [hsame]
  cases hr : (getUpdatedConsumedQuotaV2 cost free 0 consumed charged monthly 0).eval with
  | some => rfl
  | none =>
    rw [hr] at hspec
    exact absurd h (Nat.not_le_of_lt hspec)

end

/-- A bucket that passes the check is not refused by the deduction from the same row. -/
theorem sufficient_quota_is_deducted {free charged consumed monthly size : UInt64}
    (consumedFree consumedMonthly : UInt64)
    (h : hasSufficientMigrationQuota free charged consumed monthly size = true) :
    (getUpdatedConsumedQuotaV2 size free consumedFree consumed charged monthly
      consumedMonthly).eval.isSome := by
  apply getUpdatedConsumedQuotaV2_succeeds
  unfold hasSufficientMigrationQuota at h
  split at h
  next hzero =>
    rw [hzero]
    exact Nat.zero_le _
  have hlt := UInt64.lt_iff_toNat_lt.mp (of_decide_eq_true h)
  have hsum := saturatingAdd_le free charged
  generalize saturatingAdd free charged = available at *
  have hleft : (if consumed ≥ available then 0 else available - consumed).toNat ≤
      available.toNat - consumed.toNat := by
    split
    · exact Nat.zero_le _
    next hmore => rw [UInt64.toNat_sub_of_le _ _ (UInt64.le_of_lt (UInt64.not_le.mp hmore))]
  have hmonthly := saturatingAdd_le (if consumed ≥ available then 0 else available - consumed) monthly
  omega

/-- A bucket that fits into the monthly quota alone, with more consumed than the others hold. -/
theorem sufficient_quota_sample : hasSufficientMigrationQuota 5 10 20 100 99 = true ∧
    (getUpdatedConsumedQuotaV2 99 5 0xFFFFFFFFFFFFFFFF 20 10 100 0xFFFFFFFFFFFFFFFF).eval.isSome :=
  ⟨by decide, sufficient_quota_is_deducted _ _ (by decide)⟩

/-! ## A refund over a month boundary -/

/-- What the refund is to do: it goes to the row of its month, which the next month starts from, or to the
free quota of the current month if that has a row. -/
def Refunds (yearMonthOfNow : Month) (bucketID extraQuota : UInt64) (yearMonth : Month) (row : BucketTraffic)
    (t : Table) : Prop :=
  let (r, t') := (updateExtraQuota {} yearMonthOfNow bucketID extraQuota yearMonth t).eval
  r = .ok () ∧ ∃ row',
    (match if yearMonthOfNow = yearMonth then none else t.find bucketID yearMonthOfNow with
      | some current => row' = { current with freeQuotaSize := row'.freeQuotaSize } ∧
          row'.freeQuotaSize.toNat = current.freeQuotaSize.toNat + extraQuota.toNat
      | none => row.Credited extraQuota.toNat row' ∧ (t.IsNewest bucketID row → t'.IsNewest bucketID row')) ∧
    ∀ b m, t'.find b m = if b = row'.bucketID ∧ m = row'.month then some row' else t.find b m

/-- In the month of the refund the row has room for it; in the next one there is a row that has. -/
def HasRoom (yearMonthOfNow : Month) (bucketID extraQuota : UInt64) (yearMonth : Month) (row : BucketTraffic)
    (t : Table) : Prop :=
  if yearMonthOfNow = yearMonth then row.Fits extraQuota.toNat
  else ∃ current, t.find bucketID yearMonthOfNow = some current ∧
    current.freeQuotaSize.toNat + extraQuota.toNat < 2 ^ 64

section
variable {bucketID extraQuota : UInt64} {yearMonth yearMonthOfNow : Month} {row row' : BucketTraffic} {t : Table}

theorem BucketTraffic.Credited.fits {extra : Nat} (h : row.Credited extra row') : row.Fits extra := by
  have hmonthlyTotal := h.keeps.monthlyTotal
  have hfreeTotal := h.keeps.freeTotal
  have hmonthly := h.monthly
  have hfree := h.free
  have := row'.monthlyQuotaSize.toNat_lt
  have := row'.freeQuotaSize.toNat_lt
  simp only [monthlyTotal, freeTotal] at *
  constructor <;> omega

theorem Table.IsNewest.write (h : t.IsNewest bucketID row) (hkeeps : row.Keeps row') :
    (t.write row').IsNewest bucketID row' := by
  refine ⟨List.mem_map.mpr ⟨row, h.mem, if_pos ⟨hkeeps.bucketID.symm, hkeeps.month.symm⟩⟩,
    hkeeps.bucketID.trans h.bucket, fun r hr hbucket => ?_⟩
  rcases mem_write hr with rfl | ⟨hr, -⟩
  · exact .refl
  · exact hkeeps.month ▸ h.last r hr hbucket

theorem refunds_same_month (hfind : t.find bucketID yearMonth = some row) :
    Refunds yearMonth bucketID extraQuota yearMonth row t ↔ row.Fits extraQuota.toNat := by
  have heval : (updateExtraQuota {} yearMonth bucketID extraQuota yearMonth t).eval =
      (.ok (), t.write (recoup row extraQuota).eval) := by
    rw [updateExtraQuota, transaction, if_neg (Nat.succ_ne_self yearMonth).symm, if_neg (not_not_intro rfl)]
    simp only [eval_bind, hfind, Bool.false_eq_true, if_false]
    rfl
  rw [Refunds, heval, if_pos rfl]
  constructor
  · rintro ⟨-, _, ⟨hcredited, -⟩, -⟩
    exact hcredited.fits
  intro hfits
  have hcredited := (recoup_spec hfits).value
  refine ⟨rfl, _, ⟨hcredited, fun h => h.write hcredited.keeps⟩, fun b m => ?_⟩
  have hkey := find_key hfind
  apply find_write_eq
  rw [hcredited.keeps.bucketID, hcredited.keeps.month, hkey.1, hkey.2]
  exact hfind

theorem refunds_next_month : Refunds (yearMonth + 1) bucketID extraQuota yearMonth row t ↔
    ∃ current, t.find bucketID (yearMonth + 1) = some current ∧
      current.freeQuotaSize.toNat + extraQuota.toNat < 2 ^ 64 := by
  rw [Refunds, if_neg (Nat.succ_ne_self yearMonth)]
  cases hfind : t.find bucketID (yearMonth + 1) with
  | none =>
    rw [updateExtraQuota, transaction, if_pos rfl, hfind]
    constructor
    · rintro ⟨⟨⟩, -⟩
    · rintro ⟨_, ⟨⟩, -⟩
  | some current =>
    have heval : (updateExtraQuota {} (yearMonth + 1) bucketID extraQuota yearMonth t).eval =
        (.ok (), if current.freeQuotaSize + extraQuota = 0 then t
          else t.write { current with freeQuotaSize := current.freeQuotaSize + extraQuota }) := by
      rw [updateExtraQuota, transaction, if_pos rfl]
      simp only [eval_bind, hfind, Bool.false_eq_true, if_false]
      simp only [add, Prog.do_, eval, WordOp.value]
      by_cases hzero : current.freeQuotaSize + extraQuota = 0
      · rw [if_pos hzero, if_pos hzero]
        rfl
      · rw [if_neg hzero, if_neg hzero]
        rfl
    rw [heval]
    constructor
    · rintro ⟨-, row', ⟨-, hsize⟩, -⟩
      exact ⟨current, rfl, hsize ▸ row'.freeQuotaSize.toNat_lt⟩
    rintro ⟨_, ⟨⟩, hfits⟩
    have hkey := find_key hfind
    have hrow : t.find current.bucketID current.month = some current := by
      rw [hkey.1, hkey.2, hfind]
    have hsum : (current.freeQuotaSize + extraQuota).toNat = _ := (computes_add hfits).value
    refine ⟨rfl, { current with freeQuotaSize := current.freeQuotaSize + extraQuota }, ⟨rfl, hsum⟩,
      fun b m => ?_⟩
    split
    · -- nothing is written, and nothing is to change
      rename_i hzero
      have hfree : current.freeQuotaSize + extraQuota = current.freeQuotaSize := by
        rw [hzero, UInt64.toNat_zero] at hsum
        rw [hzero, ← UInt64.toNat_inj, UInt64.toNat_zero]
        omega
      rw [hfree]
      split
      next hsame => rw [hsame.1, hsame.2, hrow]
      · rfl
    · exact find_write_eq hrow

/-- A refund is not lost if and only if there is room for it. -/
theorem refund_kept_iff (hfind : t.find bucketID yearMonth = some row)
    (hnow : yearMonthOfNow = yearMonth ∨ yearMonthOfNow = yearMonth + 1) :
    Refunds yearMonthOfNow bucketID extraQuota yearMonth row t ↔
      HasRoom yearMonthOfNow bucketID extraQuota yearMonth row t := by
  unfold HasRoom
  rcases hnow with rfl | rfl
  · rw [if_pos rfl, refunds_same_month hfind]
  · rw [if_neg (Nat.succ_ne_self yearMonth), refunds_next_month]

def marchRow : BucketTraffic :=
  { bucketID := 1, month := 3, readConsumedSize := 10, freeQuotaSize := 5, chargedQuotaSize := 20,
    monthlyQuotaSize := 0 }

theorem refund_kept_sample : Refunds 3 1 4 3 marchRow [marchRow] :=
  (refund_kept_iff (by decide) (.inl rfl)).mpr ⟨by decide, by decide⟩

/-- In the new month the row of the old one is not loaded: the refund fails. -/
theorem refund_lost_before_first_row :
    (updateExtraQuota {} 4 1 4 3 [marchRow]).eval = (.error .missingWhere, [marchRow]) ∧
      ¬ Refunds 4 1 4 3 marchRow [marchRow] := by
  refine ⟨rfl, ?_⟩
  rintro ⟨⟨⟩, -⟩

end

/-! ## The copy to the destination -/

/-- What the source SP answers from: whether the newest row is read, and what the chain has. -/
structure Source where
  unread : Bool := false
  free : Option UInt64 := none
  charged : Option UInt64

/-- GfSpGetLatestBucketReadQuota for the bucket's newest row. GetLatestBucketTraffic leaves out the monthly
sizes; the charged quota is the one of the chain, if it answers. If the row is not read the answer has no
month, and the sizes of the chain. -/
def latestBucketReadQuota (src : Source) (row : BucketTraffic) : BucketTraffic :=
  if src.unread then
    { bucketID := row.bucketID
      month := 0
      freeQuotaSize := src.free.getD 0
      chargedQuotaSize := src.charged.getD 0
      monthlyQuotaSize := 0 }
  else
    { row with
      chargedQuotaSize := src.charged.getD row.chargedQuotaSize
      monthlyQuotaSize := 0
      monthlyFreeQuotaConsumedSize := 0 }

def BucketTraffic.updates (row update : BucketTraffic) : BucketTraffic :=
  { row with
    readConsumedSize := written 0 row.readConsumedSize update.readConsumedSize
    freeQuotaConsumedSize := written 0 row.freeQuotaConsumedSize update.freeQuotaConsumedSize
    freeQuotaSize := written 0 row.freeQuotaSize update.freeQuotaSize
    chargedQuotaSize := written 0 row.chargedQuotaSize update.chargedQuotaSize }

/-- The row of the month is inserted or updated. -/
def Table.upsert (t : Table) (update : BucketTraffic) : Table :=
  match t.find update.bucketID update.month with
  | none => t ++ [update]
  | some row => t.write (row.updates update)

/-- UpdateBucketTraffic, with an update that has no monthly sizes. -/
def updateBucketTraffic (faults : Faults) (update : BucketTraffic) (t : Table) :
    Calc (Except TrafficErr Unit × Table) :=
  transaction faults t <| pure <|
    if faults.select || faults.write then .error .other else .ok (t.upsert update)

def syncBucketQuotaFromSrcSP (faults : Faults) (progressFails : Bool) (src : Source)
    (row : BucketTraffic) (t : Table) : Calc (Except TrafficErr Unit × Table) := do
  let (r, t') ← updateBucketTraffic faults (latestBucketReadQuota src row) t
  return (if progressFails then .error .other else r, t')

/-- What the destination has for the month; no row is as one of zeros. -/
def Table.old (t : Table) (row : BucketTraffic) : BucketTraffic :=
  (t.find row.bucketID row.month).getD
    { bucketID := row.bucketID, month := row.month, freeQuotaSize := 0, chargedQuotaSize := 0, monthlyQuotaSize := 0 }

/-- What the destination has makes up for what it is not sent or does not write. -/
def MakesUp (src : Source) (row : BucketTraffic) (t : Table) : Prop :=
  if src.unread then t.find row.bucketID row.month = some row
  else
  let old := t.old row
  old.monthlyQuotaSize = row.monthlyQuotaSize ∧
    old.monthlyFreeQuotaConsumedSize = row.monthlyFreeQuotaConsumedSize ∧
    (row.readConsumedSize = 0 → old.readConsumedSize = 0) ∧
    (row.freeQuotaConsumedSize = 0 → old.freeQuotaConsumedSize = 0) ∧
    (row.freeQuotaSize = 0 → old.freeQuotaSize = 0) ∧
    if src.charged.getD row.chargedQuotaSize = 0 then old.chargedQuotaSize = row.chargedQuotaSize
    else src.charged.getD row.chargedQuotaSize = row.chargedQuotaSize

theorem Table.find_upsert (t : Table) (update : BucketTraffic) (hsize : update.monthlyQuotaSize = 0)
    (hconsumed : update.monthlyFreeQuotaConsumedSize = 0) :
    (t.upsert update).find update.bucketID update.month = some ((t.old update).updates update) := by
  unfold Table.old Table.upsert
  cases h : t.find update.bucketID update.month with
  | none =>
    have hzero : ∀ x : UInt64, written 0 0 x = x := fun _ => written_eq_iff.mpr fun _ => rfl
    rw [Table.find] at h ⊢
    rw [List.find?_append, h]
    cases update
    simp_all [updates]
  | some =>
    obtain ⟨hbucket, hmonth⟩ := find_key h
    rw [← hbucket, ← hmonth] at h
    exact (find_write_eq (by exact h)).trans (if_pos ⟨hbucket.symm, hmonth.symm⟩)

theorem Table.find_upsert_of_ne (t : Table) (update : BucketTraffic) {bucketID : UInt64} {month : Month}
    (hne : month ≠ update.month) : (t.upsert update).find bucketID month = t.find bucketID month := by
  unfold Table.upsert
  cases h : t.find update.bucketID update.month with
  | none => simp [Table.find, hne.symm]
  | some =>
    obtain ⟨hbucket, hmonth⟩ := find_key h
    rw [← hbucket, ← hmonth] at h
    exact (find_write_eq (by exact h)).trans (if_neg fun heq => hne (heq.2.trans hmonth))

theorem transaction_ok {faults : Faults} {t t' : Table} {body : Calc (Except TrafficErr Table)}
    (h : (transaction faults t body).eval = (.ok (), t')) : body.eval = .ok t' := by
  rw [transaction, eval_bind] at h
  cases hbody : body.eval with
  | error =>
    rw [hbody] at h
    cases h
  | ok =>
    rw [hbody] at h
    dsimp only at h
    split at h <;> cases h
    rfl

/-- A bucket keeps its quota if and only if the destination makes up for what is lost. -/
theorem quota_copied_iff (faults : Faults) (progressFails : Bool) (src : Source) (row : BucketTraffic)
    (hmonth : row.month ≠ 0) (t : Table) {t' : Table}
    (h : (syncBucketQuotaFromSrcSP faults progressFails src row t).eval = (.ok (), t')) :
    t'.find row.bucketID row.month = some row ↔ MakesUp src row t := by
  rw [syncBucketQuotaFromSrcSP, eval_bind] at h
  generalize hupdate : (updateBucketTraffic faults _ t).eval = u at h
  obtain ⟨_, _⟩ := u
  cases progressFails <;> cases h
  have hbody : (if _ then _ else _) = _ := transaction_ok hupdate
  split at hbody <;> cases hbody
  cases hread : src.unread with
  | true =>
    have hanswer : (latestBucketReadQuota src row).month = 0 := by rw [latestBucketReadQuota, if_pos hread]
    rw [MakesUp, if_pos hread, t.find_upsert_of_ne _ (hanswer ▸ hmonth)]
  | false =>
    have hanswer : latestBucketReadQuota src row = _ := if_neg (hread ▸ Bool.false_ne_true)
    have hfind : Table.find _ row.bucketID row.month = some ((t.old row).updates _) :=
      t.find_upsert { row with
        chargedQuotaSize := src.charged.getD row.chargedQuotaSize
        monthlyQuotaSize := 0
        monthlyFreeQuotaConsumedSize := 0 } rfl rfl
    obtain ⟨_, _⟩ : (t.old row).bucketID = row.bucketID ∧ (t.old row).month = row.month := by
      unfold Table.old
      cases h : t.find row.bucketID row.month with
      | none => exact ⟨rfl, rfl⟩
      | some => exact find_key h
    rw [MakesUp, if_neg (hread ▸ Bool.false_ne_true), hanswer, hfind, Option.some_inj]
    generalize t.old row = old at *
    cases row
    simp only [updates, written, mk.injEq] at *
    grind

/-- The destination has an older row of the month. -/
theorem quota_copied_sample :
    ∃ t, (syncBucketQuotaFromSrcSP {} false { charged := some 20 } marchRow
      [{ marchRow with readConsumedSize := 2, freeQuotaSize := 8 }]).eval = (.ok (), t) ∧
    t.find 1 3 = some marchRow :=
  ⟨_, rfl, (quota_copied_iff {} false { charged := some 20 } marchRow (by decide) _ rfl).mpr
    (by unfold MakesUp; decide)⟩

/-- The monthly quota does not come to the destination; nor does it learn that nothing is consumed.
Nothing comes if the source cannot read its row. -/
theorem quota_lost_at_destination :
    (∃ t, (syncBucketQuotaFromSrcSP {} false { charged := some 20 } { marchRow with monthlyQuotaSize := 7 }
        []).eval = (.ok (), t) ∧ t.find 1 3 = some marchRow) ∧
    (∃ t, (syncBucketQuotaFromSrcSP {} false { charged := some 20 } { marchRow with readConsumedSize := 0 }
        [marchRow]).eval = (.ok (), t) ∧ t.find 1 3 = some marchRow) ∧
    ∃ t, (syncBucketQuotaFromSrcSP {} false { unread := true, charged := some 20 } marchRow []).eval =
      (.ok (), t) ∧ t.find 1 3 = none :=
  ⟨⟨_, rfl, rfl⟩, ⟨_, rfl, rfl⟩, _, rfl, rfl⟩

end Traffic

-- SUMMARY: Charging and refunding conserve quota.
import MocaSP.Quota.Traffic

/-!
# The account of a traffic row

Charging and refunding are two waterfalls over the same three tiers. Each tier
moves quota between what remains and what was consumed, so its sum stays; a
charge takes its whole cost or fails, a refund returns what it can.
-/

namespace Traffic
open Calc BucketTraffic
open UInt64 (le_iff_toNat_le lt_iff_toNat_lt toNat_zero)

variable (r : BucketTraffic)

namespace BucketTraffic

def freeTotal : Nat := r.freeQuotaSize.toNat + r.freeQuotaConsumedSize.toNat

def monthlyTotal : Nat := r.monthlyQuotaSize.toNat + r.monthlyFreeQuotaConsumedSize.toNat

/-- What was consumed over all tiers. -/
def consumed : Nat :=
  r.readConsumedSize.toNat + r.monthlyFreeQuotaConsumedSize.toNat + r.freeQuotaConsumedSize.toNat

/-- What a charge may cost. -/
def available (chargedQuota : UInt64) : Nat :=
  (chargedQuota.toNat - r.readConsumedSize.toNat) + r.monthlyQuotaSize.toNat + r.freeQuotaSize.toNat

/-- The quotas of the row are 64-bit numbers. -/
structure Bounded (r : BucketTraffic) : Prop where
  free : r.freeTotal < 2 ^ 64
  monthly : r.monthlyTotal < 2 ^ 64

end BucketTraffic

/-! ## The waterfalls -/

/-- What a row holds after a charge of `cost`: the totals stay, and the cost is consumed. -/
structure UpdatedQuota.Spends (q q' : UpdatedQuota) (cost : Nat) : Prop where
  free : q'.freeQuotaRemain.toNat + q'.consumeFreeQuota.toNat =
    q.freeQuotaRemain.toNat + q.consumeFreeQuota.toNat
  monthly : q'.monthlyFreeQuotaRemain.toNat + q'.consumeMonthlyFreeQuota.toNat =
    q.monthlyFreeQuotaRemain.toNat + q.consumeMonthlyFreeQuota.toNat
  consumed : q'.consumeChargedQuota.toNat + q'.consumeMonthlyFreeQuota.toNat +
      q'.consumeFreeQuota.toNat =
    q.consumeChargedQuota.toNat + q.consumeMonthlyFreeQuota.toNat + q.consumeFreeQuota.toNat + cost

/-- A tier, with those below it, spends `cost` when `available` suffices and fails otherwise. -/
def Waterfall (q : UpdatedQuota) (cost available : Nat) (r : Option UpdatedQuota) : Prop :=
  match r with
  | some q' => cost ≤ available ∧ q.Spends q' cost
  | none => available < cost

theorem consumeFree_spec {cost : UInt64} (q : UpdatedQuota)
    (hfree : q.freeQuotaRemain.toNat + q.consumeFreeQuota.toNat < 2 ^ 64) :
    Calc.Computes (consumeFree cost q) (Waterfall q cost.toNat q.freeQuotaRemain.toNat) := by
  unfold consumeFree
  apply computes_le
  · intro hle
    apply (computes_sub hle).bind
    intro _ _
    apply (computes_add (by omega)).bind
    intro _ _
    refine .pure ?_
    refine ⟨hle, ?_, rfl, ?_⟩
    · dsimp only
      omega
    · dsimp only
      omega
  · exact fun hlt => .pure hlt

theorem consumeMonthly_spec {cost : UInt64} (q : UpdatedQuota)
    (hfree : q.freeQuotaRemain.toNat + q.consumeFreeQuota.toNat < 2 ^ 64)
    (hmonthly : q.monthlyFreeQuotaRemain.toNat + q.consumeMonthlyFreeQuota.toNat < 2 ^ 64) :
    Calc.Computes (consumeMonthly cost q) (Waterfall q cost.toNat
      (q.monthlyFreeQuotaRemain.toNat + q.freeQuotaRemain.toNat)) := by
  unfold consumeMonthly
  apply computes_le
  · intro hle
    apply (computes_add (by omega)).bind
    intro _ _
    apply (computes_sub hle).bind
    intro _ _
    refine .pure ?_
    refine ⟨by omega, rfl, ?_, ?_⟩
    · dsimp only
      omega
    · dsimp only
      omega
  · intro hlt
    apply computes_lt
    · intro _
      apply (computes_add (by omega)).bind
      intro consumed _
      apply (computes_sub (Nat.le_of_lt hlt)).bind
      intro rest _
      -- the monthly quota is used up, and the rest goes to the free tier
      apply (consumeFree_spec { q with consumeMonthlyFreeQuota := consumed, monthlyFreeQuotaRemain := 0 }
        hfree).mono
      intro r hr
      cases r with
      | some =>
        obtain ⟨hcost, hq⟩ := hr
        dsimp only at hcost
        refine ⟨by omega, hq.free, ?_, ?_⟩
        · have := hq.monthly
          simp only [toNat_zero] at this
          omega
        · have := hq.consumed
          simp only at this
          omega
      | none =>
        have hr : q.freeQuotaRemain.toNat < rest.toNat := hr
        show _ < cost.toNat
        omega
    · intro hzero
      rw [Nat.le_zero.mp hzero, Nat.zero_add]
      exact consumeFree_spec q hfree

theorem chargedRemain_spec {charged consumed : UInt64} :
    Calc.Computes (chargedRemain charged consumed) fun c => c.toNat = charged.toNat - consumed.toNat := by
  unfold chargedRemain
  apply computes_lt
  · intro hlt
    apply (computes_sub (Nat.le_of_lt hlt)).mono
    intro _ _
    omega
  · intro _
    refine .pure ?_
    rw [toNat_zero]
    omega

theorem getUpdatedConsumedQuotaV2_spec {cost freeRemain consumedFree consumedCharged charged
    monthlyRemain consumedMonthly : UInt64} (hfree : freeRemain.toNat + consumedFree.toNat < 2 ^ 64)
    (hmonthly : monthlyRemain.toNat + consumedMonthly.toNat < 2 ^ 64) :
    Calc.Computes (getUpdatedConsumedQuotaV2 cost freeRemain consumedFree consumedCharged charged
        monthlyRemain consumedMonthly)
      (Waterfall ⟨consumedFree, consumedCharged, consumedMonthly, freeRemain, monthlyRemain⟩ cost.toNat
        ((charged.toNat - consumedCharged.toNat) + monthlyRemain.toNat + freeRemain.toNat)) := by
  unfold getUpdatedConsumedQuotaV2
  apply chargedRemain_spec.bind
  intro _ _
  have hcharged := charged.toNat_lt
  apply computes_le
  · intro _
    -- a charge of nothing may find more consumed than is charged
    have hconsumed := consumedCharged.toNat_lt
    apply (computes_add (by omega)).bind
    intro _ _
    refine .pure ?_
    refine ⟨by omega, rfl, rfl, ?_⟩
    dsimp only
    omega
  · intro hlt
    apply computes_lt
    · intro hpos
      rw [toNat_zero] at hpos
      apply (computes_add (by omega)).bind
      intro consumed _
      apply (computes_sub (Nat.le_of_lt hlt)).bind
      intro rest _
      apply (consumeMonthly_spec
        ⟨consumedFree, consumed, consumedMonthly, freeRemain, monthlyRemain⟩ hfree hmonthly).mono
      intro r hr
      cases r with
      | some =>
        obtain ⟨hcost, hq⟩ := hr
        simp only at hcost
        refine ⟨by omega, hq.free, hq.monthly, ?_⟩
        have := hq.consumed
        simp only at this ⊢
        omega
      | none =>
        have hr : monthlyRemain.toNat + freeRemain.toNat < rest.toNat := hr
        show _ < cost.toNat
        omega
    · intro hzero
      rw [toNat_zero] at hzero
      have hnone : charged.toNat - consumedCharged.toNat = 0 := by omega
      rw [hnone, Nat.zero_add]
      exact consumeMonthly_spec _ hfree hmonthly

theorem recoupCharged_spec {consumed extra : UInt64} :
    Calc.Computes (recoupCharged consumed extra) fun r =>
      r.1.toNat + min extra.toNat consumed.toNat = consumed.toNat ∧
      r.2.toNat = extra.toNat - consumed.toNat := by
  unfold recoupCharged
  apply computes_le
  · intro hle
    apply (computes_sub hle).bind
    intro _ _
    refine .pure ?_
    simp only [toNat_zero]
    omega
  · intro hlt
    apply computes_lt
    · intro _
      apply (computes_sub (Nat.le_of_lt hlt)).bind
      intro _ _
      refine .pure ?_
      simp only [toNat_zero]
      omega
    · intro hzero
      rw [toNat_zero] at hzero
      refine .pure ?_
      dsimp only
      omega

theorem recoupMonthly_spec {consumed remain extra : UInt64}
    (hfits : remain.toNat + min extra.toNat consumed.toNat < 2 ^ 64) :
    Calc.Computes (recoupMonthly consumed remain extra) fun r =>
      r.1.toNat + min extra.toNat consumed.toNat = consumed.toNat ∧
      r.2.1.toNat = remain.toNat + min extra.toNat consumed.toNat ∧
      r.2.2.toNat = extra.toNat - consumed.toNat := by
  unfold recoupMonthly
  split
  next h =>
    have hle := le_iff_toNat_le.mp h.2
    apply (computes_sub hle).bind
    intro _ _
    apply (computes_add (by omega)).bind
    intro _ _
    refine .pure ?_
    simp only [toNat_zero]
    omega
  next hfirst =>
    rw [gt_iff_lt, ge_iff_le, lt_iff_toNat_lt, le_iff_toNat_le, toNat_zero] at hfirst
    split
    next h =>
      have hpos := lt_iff_toNat_lt.mp h.1
      rw [toNat_zero] at hpos
      apply (computes_sub (by omega)).bind
      intro _ _
      apply (computes_add (by omega)).bind
      intro _ _
      refine .pure ?_
      simp only [toNat_zero]
      omega
    next hsecond =>
      rw [gt_iff_lt, gt_iff_lt, lt_iff_toNat_lt, lt_iff_toNat_lt, toNat_zero] at hsecond
      refine .pure ?_
      dsimp only
      omega

theorem recoupFree_spec {consumed remain extra : UInt64}
    (hfits : remain.toNat + min extra.toNat consumed.toNat < 2 ^ 64) :
    Calc.Computes (recoupFree consumed remain extra) fun r =>
      r.1.toNat + min extra.toNat consumed.toNat = consumed.toNat ∧
      r.2.toNat = remain.toNat + min extra.toNat consumed.toNat := by
  -- the same as in the monthly tier, without the last subtraction
  have h := recoupMonthly_spec hfits
  unfold recoupMonthly at h
  unfold recoupFree
  split
  next hall =>
    rw [if_pos hall] at h
    exact ⟨h.exact, h.value.1, h.value.2.1⟩
  rename_i hall
  rw [if_neg hall] at h
  split
  next hsome =>
    rw [if_pos hsome] at h
    exact ⟨h.exact.2, h.value.1, h.value.2.1⟩
  next hnone =>
    rw [if_neg hnone] at h
    exact ⟨trivial, h.value.1, h.value.2.1⟩

/-! ## Calls on a row -/

/-- What any call may do to a row: its key and the totals of its tiers stay. -/
structure BucketTraffic.Keeps (r r' : BucketTraffic) : Prop where
  bucketID : r'.bucketID = r.bucketID
  month : r'.month = r.month
  freeTotal : r'.freeTotal = r.freeTotal
  monthlyTotal : r'.monthlyTotal = r.monthlyTotal

theorem BucketTraffic.Keeps.bounded {r r' : BucketTraffic} (h : r.Keeps r') (hb : r.Bounded) :
    r'.Bounded :=
  ⟨h.freeTotal ▸ hb.free, h.monthlyTotal ▸ hb.monthly⟩

/-- A refund by its priority: charged quota first, then monthly, then free. -/
structure BucketTraffic.Credited (row : BucketTraffic) (extra : Nat) (row' : BucketTraffic) : Prop where
  keeps : row.Keeps row'
  charged : row'.readConsumedSize.toNat = row.readConsumedSize.toNat - extra
  monthly : row'.monthlyFreeQuotaConsumedSize.toNat =
    row.monthlyFreeQuotaConsumedSize.toNat - (extra - row.readConsumedSize.toNat)
  free : row'.freeQuotaConsumedSize.toNat = row.freeQuotaConsumedSize.toNat -
    (extra - row.readConsumedSize.toNat - row.monthlyFreeQuotaConsumedSize.toNat)

/-- What the refund adds fits into the row. -/
def BucketTraffic.Fits (row : BucketTraffic) (extra : Nat) : Prop :=
  row.monthlyQuotaSize.toNat +
      min (extra - row.readConsumedSize.toNat) row.monthlyFreeQuotaConsumedSize.toNat < 2 ^ 64 ∧
    row.freeQuotaSize.toNat + min (extra - row.readConsumedSize.toNat -
      row.monthlyFreeQuotaConsumedSize.toNat) row.freeQuotaConsumedSize.toNat < 2 ^ 64

theorem BucketTraffic.Bounded.fits {row : BucketTraffic} (hb : row.Bounded) (extra : Nat) : row.Fits extra := by
  have hmonthly := hb.monthly
  have hfree := hb.free
  rw [freeTotal] at hfree
  rw [monthlyTotal] at hmonthly
  constructor <;> omega

theorem recoup_spec {row : BucketTraffic} {extra : UInt64} (hfits : row.Fits extra.toNat) :
    Calc.Computes (recoup row extra) (row.Credited extra.toNat) := by
  unfold recoup
  apply recoupCharged_spec.bind
  intro (_, _) ⟨hcharged, hafterCharged⟩
  apply (recoupMonthly_spec (hafterCharged ▸ hfits.1)).bind
  intro (_, _, _) ⟨hmonthly, hmonthlyRemain, hafterMonthly⟩
  apply (recoupFree_spec (by rw [hafterMonthly, hafterCharged]; exact hfits.2)).bind
  intro (_, _) ⟨hfree, hfreeRemain⟩
  refine .pure ?_
  dsimp only at *
  refine ⟨⟨rfl, rfl, ?_, ?_⟩, ?_, ?_, ?_⟩
  · simp only [freeTotal]
    omega
  · simp only [monthlyTotal]
    omega
  all_goals
    dsimp only
    omega

namespace Table

variable {t : Table} {bucketID : UInt64} {month : Month} {row row' : BucketTraffic}

theorem find_key (h : t.find bucketID month = some row) : row.bucketID = bucketID ∧ row.month = month := by
  simpa using List.find?_some h

/-- The rows after an update, by their keys. -/
theorem find_write_eq (h : t.find row'.bucketID row'.month = some row) :
    (t.write row').find bucketID month =
      if bucketID = row'.bucketID ∧ month = row'.month then some row' else t.find bucketID month := by
  have hupdate : ∀ t : Table, (t.write row').find bucketID month =
      if bucketID = row'.bucketID ∧ month = row'.month then (t.find bucketID month).map fun _ => row'
      else t.find bucketID month := by
    intro t
    unfold find write
    induction t with
    | nil => simp
    | cons _ _ ih =>
      rw [List.map_cons, List.find?_cons, List.find?_cons, ih]
      grind
  rw [hupdate]
  split
  next hkey => rw [hkey.1, hkey.2, h, Option.map_some]
  · rfl

theorem find_write (h : t.find bucketID month = some row) (hkeeps : row.Keeps row') :
    (t.write row').find bucketID month = some row' := by
  obtain ⟨rfl, rfl⟩ := find_key h
  rw [← hkeeps.bucketID, ← hkeeps.month] at *
  rw [find_write_eq h, if_pos ⟨rfl, rfl⟩]

end Table

variable {t : Table} {bucketID : UInt64} {month : Month} {row : BucketTraffic} {faults : Faults}
  {body : Calc (Except TrafficErr Table)}

theorem transaction_spec {Q : Except TrafficErr Table → Prop} {R : Except TrafficErr Unit × Table → Prop}
    (hbody : Calc.Computes body Q) (herror : ∀ e, Q (.error e) → R (.error e, t))
    (hcommit : ∀ t', Q (.ok t') → faults.commit = true → R (.error .other, t))
    (hok : ∀ t', Q (.ok t') → faults.commit = false → R (.ok (), t')) :
    Calc.Computes (transaction faults t body) R := by
  unfold transaction
  apply hbody.bind
  intro r hr
  cases r with
  | error e => exact .pure (herror e hr)
  | ok t' =>
    dsimp only
    split
    next hfault => exact .pure (hcommit t' hr hfault)
    next hfault => exact .pure (hok t' hr (by simpa using hfault))

/-- A transaction that fails changes nothing. -/
theorem transaction_failed (hfail : (transaction faults t body).eval.1 ≠ .ok ()) :
    (transaction faults t body).eval.2 = t := by
  unfold transaction at *
  rw [eval_bind] at *
  split
  · rfl
  rename_i hbody
  rw [hbody] at hfail
  dsimp only at hfail
  split at hfail
  next hcommit =>
    rw [if_pos hcommit]
    rfl
  · exact (hfail rfl).elim

/-- A statement of the charge fails, or the one that sets the charged quota does
not report the one row it must. -/
def Faults.Strike (faults : Faults) (row : BucketTraffic) (chargedQuota : UInt64) : Prop :=
  faults.select = true ∨ faults.write = true ∨ faults.commit = true ∨
    (row.chargedQuotaSize ≠ chargedQuota ∧ faults.charged ≠ some 1)

theorem setChargedQuota_spec {chargedQuota : UInt64} :
    match setChargedQuota faults chargedQuota row with
    | .ok row' => (∃ size, row' = { row with chargedQuotaSize := size }) ∧
        ¬ (row.chargedQuotaSize ≠ chargedQuota ∧ faults.charged ≠ some 1)
    | .error _ => row.chargedQuotaSize ≠ chargedQuota ∧ faults.charged ≠ some 1 := by
  unfold setChargedQuota
  by_cases hsame : row.chargedQuotaSize = chargedQuota
  · rw [if_pos hsame]
    exact ⟨⟨row.chargedQuotaSize, rfl⟩, fun h => h.1 hsame⟩
  rw [if_neg hsame]
  cases hcharged : faults.charged with
  | none => exact ⟨hsame, nofun⟩
  | some affected =>
    by_cases hone : affected = 1
    · subst hone
      simp only [ne_eq, not_true_eq_false, if_false]
      split
      next hr =>
        split at hr
        · cases hr
          exact ⟨⟨row.chargedQuotaSize, rfl⟩, by simp⟩
        · cases hr
          exact ⟨⟨chargedQuota, rfl⟩, by simp⟩
      next he => split at he <;> cases he
    · simp [hone, hsame]

/-- What a charge does: all of it or nothing. -/
def Charge (t : Table) (row : BucketTraffic) (cost : Nat) (allowed : Prop) :
    Except TrafficErr Unit × Table → Prop
  | (.ok _, t') => allowed ∧ ∃ row', t' = t.write row' ∧ row.Keeps row' ∧
      row'.consumed = row.consumed + cost
  | (.error _, t') => ¬ allowed ∧ t' = t

theorem Charge.ok_iff {cost : Nat} {allowed : Prop} {r : Except TrafficErr Unit × Table}
    (h : Charge t row cost allowed r) : r.1 = .ok () ↔ allowed :=
  match r, h with
  | (.ok _, _), h => ⟨fun _ => h.1, fun _ => rfl⟩
  | (.error _, _), h => ⟨nofun, fun hallowed => (h.1 hallowed).elim⟩

theorem updateConsumedQuota_spec (faults : Faults) (readSize chargedQuota : UInt64)
    (hfind : t.find bucketID month = some row) (hb : row.Bounded) :
    Calc.Computes (updateConsumedQuota faults bucketID month readSize chargedQuota t)
      (Charge t row readSize.toNat
        (¬ faults.Strike row chargedQuota ∧ readSize.toNat ≤ row.available chargedQuota)) := by
  -- the body reports every fault but that of the commit
  apply transaction_spec (Q := fun r =>
    match r with
    | .ok t' => (faults.commit = false →
        ¬ faults.Strike row chargedQuota ∧ readSize.toNat ≤ row.available chargedQuota) ∧
        ∃ row', t' = t.write row' ∧ row.Keeps row' ∧ row'.consumed = row.consumed + readSize.toNat
    | .error _ => ¬ (¬ faults.Strike row chargedQuota ∧ readSize.toNat ≤ row.available chargedQuota))
  · split
    next hselect => exact .pure fun h => h.1 (.inl hselect)
    rename_i hselect
    rw [hfind]
    dsimp only
    have hset := @setChargedQuota_spec row faults chargedQuota
    cases hrow : setChargedQuota faults chargedQuota row with
    | error e =>
      rw [hrow] at hset
      exact .pure fun h => h.1 (.inr (.inr (.inr hset)))
    | ok row' =>
      rw [hrow] at hset
      obtain ⟨⟨size, rfl⟩, hcharged⟩ := hset
      apply (getUpdatedConsumedQuotaV2_spec hb.free hb.monthly).bind
      intro q hq
      cases q with
      | none =>
        refine .pure fun h => Nat.not_lt_of_le h.2 ?_
        exact hq
      | some q =>
        obtain ⟨hcost, hq⟩ := hq
        dsimp only
        split
        next hwrite => exact .pure fun h => h.1 (.inr (.inl hwrite))
        rename_i hwrite
        refine .pure ?_
        refine ⟨fun hcommit => ⟨?_, hcost⟩, _, rfl, ⟨rfl, rfl, hq.free, hq.monthly⟩, hq.consumed⟩
        simp [Faults.Strike, hselect, hwrite, hcommit, hcharged]
  · intro e he
    exact ⟨he, rfl⟩
  · intro t' _ hcommit
    exact ⟨fun h => h.1 (.inr (.inr (.inl hcommit))), rfl⟩
  · intro t' ⟨hallowed, hrow⟩ hcommit
    exact ⟨hallowed hcommit, hrow⟩

/-- What a refund does when it takes effect. -/
def Refund (t : Table) (row : BucketTraffic) (amount : Nat) : Except TrafficErr Unit × Table → Prop
  | (.ok _, t') => ∃ row', t' = t.write row' ∧ row.Keeps row' ∧
      row'.consumed + min amount row.consumed = row.consumed
  | (.error _, t') => t' = t

theorem updateExtraQuota_spec (faults : Faults) (extraQuota : UInt64)
    (hfind : t.find bucketID month = some row) (hb : row.Bounded) :
    Calc.Computes (updateExtraQuota faults month bucketID extraQuota month t)
      (Refund t row extraQuota.toNat) := by
  apply transaction_spec (Q := fun r =>
    match r with
    | .ok t' => Refund t row extraQuota.toNat (.ok (), t')
    | .error _ => True)
  · rw [if_neg (Nat.succ_ne_self month).symm, if_neg (not_not_intro rfl)]
    split
    · exact .pure trivial
    rw [hfind]
    apply (recoup_spec (hb.fits _)).bind
    intro row' hrow'
    split
    · exact .pure trivial
    refine .pure ⟨row', rfl, hrow'.keeps, ?_⟩
    -- as far as it goes, the refund gives back what was consumed
    have hcharged := hrow'.charged
    have hmonthly := hrow'.monthly
    have hfree := hrow'.free
    simp only [BucketTraffic.consumed]
    omega
  · intro _ _
    rfl
  · intro _ _ _
    rfl
  · intro _ ht' _
    exact ht'

/-! ## Sequences of calls -/

/-- A charge, or a refund in the month of the row. -/
inductive QuotaCall where
  | charge (faults : Faults) (readSize chargedQuota : UInt64)
  | refund (faults : Faults) (extraQuota : UInt64)

def QuotaCall.exec (bucketID : UInt64) (month : Month) (t : Table) :
    QuotaCall → Calc (Except TrafficErr Unit × Table)
  | .charge faults readSize chargedQuota =>
      updateConsumedQuota faults bucketID month readSize chargedQuota t
  | .refund faults extraQuota => updateExtraQuota faults month bucketID extraQuota month t

/-- The table after some calls, the costs that succeeded and the refunds as far
as they took effect. -/
structure Account where
  table : Table
  charged : Nat := 0
  refunded : Nat := 0

namespace Account

/-- What is consumed of the row at the moment. -/
def consumed (a : Account) (bucketID : UInt64) (month : Month) : Nat :=
  (a.table.find bucketID month).elim 0 BucketTraffic.consumed

def step (bucketID : UInt64) (month : Month) (a : Account) (c : QuotaCall) : Account :=
  match c, (c.exec bucketID month a.table).eval with
  | _, (.error _, table) => { a with table }
  | .charge _ readSize _, (.ok _, table) => { a with table, charged := a.charged + readSize.toNat }
  | .refund _ extraQuota, (.ok _, table) =>
      { a with table, refunded := a.refunded + min extraQuota.toNat (a.consumed bucketID month) }

/-- The books of the row balance. -/
structure Balanced (bucketID : UInt64) (month : Month) (row₀ row : BucketTraffic) (a : Account) :
    Prop where
  found : a.table.find bucketID month = some row
  keeps : row₀.Keeps row
  consumed : row.consumed + a.refunded = row₀.consumed + a.charged

end Account

theorem BucketTraffic.Keeps.refl : r.Keeps r := ⟨rfl, rfl, rfl, rfl⟩

theorem BucketTraffic.Keeps.trans {r r' r'' : BucketTraffic} (h : r.Keeps r') (h' : r'.Keeps r'') :
    r.Keeps r'' where
  bucketID := h'.bucketID.trans h.bucketID
  month := h'.month.trans h.month
  freeTotal := h'.freeTotal.trans h.freeTotal
  monthlyTotal := h'.monthlyTotal.trans h.monthlyTotal

/-- One call keeps the books. -/
theorem Account.Balanced.step {row₀ : BucketTraffic} {a : Account}
    (h : a.Balanced bucketID month row₀ row) (hb : row₀.Bounded) (c : QuotaCall) :
    ∃ row', (a.step bucketID month c).Balanced bucketID month row₀ row' := by
  have hb := h.keeps.bounded hb
  unfold Account.step
  cases c with
  | charge faults readSize chargedQuota =>
    have hspec := (updateConsumedQuota_spec faults readSize chargedQuota h.found hb).value
    dsimp only [QuotaCall.exec]
    revert hspec
    generalize (updateConsumedQuota _ _ _ _ _ _).eval = r
    intro hspec
    match r, hspec with
    | (.error _, _), ⟨_, hsame⟩ =>
      subst hsame
      exact ⟨row, h⟩
    | (.ok _, _), ⟨_, row', hwrite, hkeeps, hconsumed⟩ =>
      subst hwrite
      refine ⟨row', Table.find_write h.found hkeeps, h.keeps.trans hkeeps, ?_⟩
      have := h.consumed
      dsimp only
      omega
  | refund faults extraQuota =>
    have hspec := (updateExtraQuota_spec faults extraQuota h.found hb).value
    dsimp only [QuotaCall.exec]
    revert hspec
    generalize (updateExtraQuota _ _ _ _ _ _).eval = r
    intro hspec
    match r, hspec with
    | (.error _, _), hsame =>
      subst hsame
      exact ⟨row, h⟩
    | (.ok _, _), ⟨row', hwrite, hkeeps, hconsumed⟩ =>
      subst hwrite
      refine ⟨row', Table.find_write h.found hkeeps, h.keeps.trans hkeeps, ?_⟩
      have := h.consumed
      have hnow : a.consumed bucketID month = row.consumed := by
        rw [Account.consumed, h.found]
        rfl
      dsimp only
      omega

theorem Account.Balanced.run {row₀ : BucketTraffic} (hb : row₀.Bounded) (calls : List QuotaCall)
    {a : Account} (h : a.Balanced bucketID month row₀ row) :
    ∃ row', (calls.foldl (Account.step bucketID month) a).Balanced bucketID month row₀ row' := by
  induction calls generalizing a row with
  | nil => exact ⟨row, h⟩
  | cons c _ ih =>
    obtain ⟨_, h'⟩ := h.step hb c
    exact ih h'

/-- **Quota is conserved.** After any charges and refunds on a row, whichever of
them failed, its tiers add up as before and its consumption is accounted for; and
whatever call comes next is calculated without wrap-around, leaves the table as
it was if it fails, and, if it is a charge, succeeds exactly when the database
does its part and the quota suffices. -/
theorem quota_conserved {t : Table} {bucketID : UInt64} {month : Month} {row : BucketTraffic}
    (hrow : t.find bucketID month = some row) (hb : row.Bounded) (calls : List QuotaCall) :
    let a := calls.foldl (Account.step bucketID month) { table := t }
    ∃ now, a.table.find bucketID month = some now ∧
      now.freeTotal = row.freeTotal ∧ now.monthlyTotal = row.monthlyTotal ∧
      now.consumed + a.refunded = row.consumed + a.charged ∧
      (∀ c : QuotaCall, (c.exec bucketID month a.table).Exact ∧
        ((c.exec bucketID month a.table).eval.1 ≠ .ok () →
          (c.exec bucketID month a.table).eval.2 = a.table)) ∧
      ∀ faults readSize chargedQuota,
        ((QuotaCall.charge faults readSize chargedQuota).exec bucketID month a.table).eval.1 = .ok () ↔
          ¬ faults.Strike now chargedQuota ∧ readSize.toNat ≤ now.available chargedQuota := by
  intro _
  have hstart : Account.Balanced bucketID month row row { table := t } := ⟨hrow, .refl row, rfl⟩
  obtain ⟨now, h⟩ := hstart.run hb calls
  have hbnow := h.keeps.bounded hb
  refine ⟨now, h.found, h.keeps.freeTotal, h.keeps.monthlyTotal, h.consumed, ?_, ?_⟩
  · intro c
    cases c with
    | charge faults readSize chargedQuota =>
      exact ⟨(updateConsumedQuota_spec faults readSize chargedQuota h.found hbnow).exact,
        transaction_failed⟩
    | refund faults extraQuota =>
      exact ⟨(updateExtraQuota_spec faults extraQuota h.found hbnow).exact, transaction_failed⟩
  · intro faults readSize chargedQuota
    exact (updateConsumedQuota_spec faults readSize chargedQuota h.found hbnow).value.ok_iff

/-- A row with some quota in every tier. -/
def sampleRow : BucketTraffic :=
  { bucketID := 1, month := 7, freeQuotaSize := 20, chargedQuotaSize := 5, monthlyQuotaSize := 10 }

/-- A charge over all tiers, a refund, a charge that is too large after the
charged quota was lowered, a charge whose commit fails, and a refund of more than
is consumed. -/
def sampleCalls : List QuotaCall :=
  [.charge {} 25 5, .refund {} 7, .charge {} 18 0, .charge { commit := true } 1 0, .refund {} 100]

theorem quota_conserved_sample :
    let a := sampleCalls.foldl (Account.step 1 7) { table := [sampleRow] }
    a.charged = 25 ∧ a.refunded = 25 ∧
      ∃ now, a.table.find 1 7 = some now ∧ now.freeTotal = 20 ∧ now.monthlyTotal = 10 ∧
        now.consumed + a.refunded = a.charged := by
  obtain ⟨now, hfound, hfree, hmonthly, hconsumed, _⟩ :=
    @quota_conserved [sampleRow] 1 7 sampleRow (by decide) ⟨by decide, by decide⟩ sampleCalls
  refine ⟨by decide +kernel, by decide +kernel, now, hfound, hfree, hmonthly, ?_⟩
  rw [hconsumed]
  exact Nat.zero_add _

end Traffic

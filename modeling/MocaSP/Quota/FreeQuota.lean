-- SUMMARY: The one-time free quota over months.
import MocaSP.Base.Run
import MocaSP.Quota.Account

/-!
# The one-time free quota

A bucket gets the SP's free quota once. `InitBucketTraffic` carries what is left
of it from the bucket's newest row to the row of a new month, while
`gcMetaBucketTraffic` deletes rows by age alone.

A run is a sequence of transactions. A download takes two of them, of which
the second charges the month read before the first, so nothing here orders the
months of charges.
-/

namespace Traffic
open List Traffic.Table Calc BucketTraffic

/-! ## Runs over months -/

/-- What may happen to the table, seen from one bucket. -/
inductive TrafficStep where
  | init (faults : Faults) (yearMonth : Month) (chargedQuota monthlyQuota : UInt64)
  | charge (faults : Faults) (yearMonth : Month) (readSize chargedQuota : UInt64)
  | refund (faults : Faults) (yearMonthOfNow yearMonth : Month) (extraQuota : UInt64)
  | gc (yearMonth : Month) (picks : BucketTraffic → Bool)
  /-- The rows of other buckets change. -/
  | elsewhere (table : Table)

/-- The table, and what was ever consumed from the bucket's free tier and
refunded to it. -/
structure Books where
  table : Table
  /-- The month of the last `InitBucketTraffic` call. -/
  month : Month := 0
  consumed : Nat := 0
  refunded : Nat := 0

variable (t : Table) (bucketID : UInt64)

namespace Books

/-- What the row of a month has consumed from the free tier. -/
def freeConsumed (month : Month) : Nat :=
  (t.find bucketID month).elim 0 fun r => r.freeQuotaConsumedSize.toNat

/-- The table changed by a charge or a refund on a row: a rise of its free
consumption was consumed, a fall refunded. -/
def note (s : Books) (bucketID : UInt64) (month : Month) (table : Table) : Books :=
  { s with
    table
    consumed := s.consumed + (freeConsumed table bucketID month - freeConsumed s.table bucketID month)
    refunded := s.refunded + (freeConsumed s.table bucketID month - freeConsumed table bucketID month) }

/-- The steps of a run. The SP's free quota is constant, and `InitBucketTraffic`
is called in the order of months. -/
def step (freeQuota bucketID : UInt64) (s : Books) : TrafficStep → Option Books
  | .init faults yearMonth chargedQuotaSize monthlyFreeQuotaSize =>
      if s.month ≤ yearMonth then
        some { s with
          table := (initBucketTraffic faults bucketID yearMonth
            { chargedQuotaSize, freeQuotaSize := freeQuota, monthlyFreeQuotaSize } s.table).eval.2
          month := yearMonth }
      else none
  | .charge faults yearMonth readSize chargedQuota =>
      some (s.note bucketID yearMonth
        (updateConsumedQuota faults bucketID yearMonth readSize chargedQuota s.table).eval.2)
  | .refund faults yearMonthOfNow yearMonth extraQuota =>
      let (result, table) :=
        (updateExtraQuota faults yearMonthOfNow bucketID extraQuota yearMonth s.table).eval
      -- in the next month, the refund is credited to the free quota
      if result = .ok () ∧ yearMonthOfNow = yearMonth + 1 then
        some { s with table, refunded := s.refunded + extraQuota.toNat }
      else some (s.note bucketID yearMonth table)
  | .gc yearMonth picks =>
      (deleteExpiredBucketTraffic yearMonth picks s.table).map fun table => { s with table }
  | .elsewhere table =>
      if table.filter (·.bucketID = bucketID) = s.table.filter (·.bucketID = bucketID) then
        some { s with table }
      else none

end Books

/-- No row of the bucket is of a later month. -/
def Table.NoLater (month : Month) : Prop := ∀ r ∈ t, r.bucketID = bucketID → r.month ≤ month

instance {t : Table} {bucketID : UInt64} {month : Month} : Decidable (t.NoLater bucketID month) :=
  inferInstanceAs (Decidable (∀ r ∈ t, r.bucketID = bucketID → r.month ≤ month))

/-- A charge or a refund comes before the row of a later month is there, a credit
to the next month fits the word, and the collector leaves the newest row. -/
def TrafficStep.Timely (s : Books) : TrafficStep → Prop
  | .init _ _ _ _ => True
  | .charge _ yearMonth _ _ => s.table.NoLater bucketID yearMonth
  | .refund _ yearMonthOfNow yearMonth extraQuota =>
      s.table.NoLater bucketID yearMonthOfNow ∧
      (yearMonthOfNow = yearMonth + 1 → ∀ row ∈ s.table.find bucketID yearMonthOfNow,
        row.freeTotal + extraQuota.toNat < 2 ^ 64)
  | .gc yearMonth picks => ∀ row ∈ s.table.newest bucketID, ¬ (row.month < yearMonth ∧ picks row)
  | .elsewhere _ => True

instance {bucketID : UInt64} {s : Books} {a : TrafficStep} : Decidable (a.Timely bucketID s) := by
  cases a <;> dsimp only [TrafficStep.Timely] <;> infer_instance

/-! ## The newest row -/

namespace Table

variable {t : Table} {bucketID : UInt64} {month : Month} {row row' : BucketTraffic}

/-- The bucket has at most one row a month. -/
def OnePerMonth (t : Table) (bucketID : UInt64) : Prop :=
  ∀ r ∈ t, ∀ r' ∈ t, r.bucketID = bucketID → r'.bucketID = bucketID → r.month = r'.month → r = r'

structure IsNewest (t : Table) (bucketID : UInt64) (row : BucketTraffic) : Prop where
  mem : row ∈ t
  bucket : row.bucketID = bucketID
  last : t.NoLater bucketID row.month

theorem mem_of_find (h : t.find bucketID month = some row) : row ∈ t := mem_of_find?_eq_some h

theorem isNewest_of_find (h : t.find bucketID month = some row) (hlast : t.NoLater bucketID month) :
    t.IsNewest bucketID row := by
  obtain ⟨hbucket, rfl⟩ := find_key h
  exact ⟨mem_of_find h, hbucket, hlast⟩

theorem isNewest_of_newest (h : t.newest bucketID = some row) : t.IsNewest bucketID row := by
  obtain ⟨hmem, hmax, _⟩ := argmax_eq_some_iff.mp h
  have hrow := mem_filter.mp hmem
  refine ⟨hrow.1, by simpa using hrow.2, ?_⟩
  intro r hr hbucket
  exact hmax r (mem_filter.mpr ⟨hr, by simpa using hbucket⟩)

theorem newest_eq_none : t.newest bucketID = none ↔ ∀ r ∈ t, r.bucketID ≠ bucketID := by
  simp [newest, argmax_eq_none, filter_eq_nil_iff]

theorem mem_write {r : BucketTraffic} (h : r ∈ t.write row') :
    r = row' ∨ (r ∈ t ∧ ¬ (r.bucketID = row'.bucketID ∧ r.month = row'.month)) := by
  obtain ⟨_, hr₀, heq⟩ := mem_map.mp h
  split at heq
  · exact .inl heq.symm
  next hkey =>
    subst heq
    exact .inr ⟨hr₀, hkey⟩

theorem OnePerMonth.write (h : t.OnePerMonth bucketID) : (t.write row').OnePerMonth bucketID := by
  intro r hr r' hr' hbucket hbucket' hmonth
  rcases mem_write hr with rfl | ⟨hr, hkey⟩ <;> rcases mem_write hr' with rfl | ⟨hr', hkey'⟩
  · rfl
  · exact (hkey' ⟨hbucket'.trans hbucket.symm, hmonth.symm⟩).elim
  · exact (hkey ⟨hbucket.trans hbucket'.symm, hmonth⟩).elim
  · exact h r hr r' hr' hbucket hbucket' hmonth

end Table

/-! ## The transactions -/

/-- What charges and refunds do to the table. -/
def Change (row : BucketTraffic) (t' : Table) : Prop :=
  t' = t ∨ ∃ row', t' = t.write row' ∧ row.Keeps row'

variable {t : Table} {row : BucketTraffic} {faults : Faults} {bucketID extraQuota : UInt64} {month : Month}

theorem Charge.change {cost : Nat} {allowed : Prop} {r : Except TrafficErr Unit × Table}
    (h : Charge t row cost allowed r) : Change t row r.2 :=
  match r, h with
  | (.ok _, _), ⟨_, row', hwrite, hkeeps, _⟩ => .inr ⟨row', hwrite, hkeeps⟩
  | (.error _, _), h => .inl h.2

theorem Refund.change {amount : Nat} {r : Except TrafficErr Unit × Table} (h : Refund t row amount r) :
    Change t row r.2 :=
  match r, h with
  | (.ok _, _), ⟨row', hwrite, hkeeps, _⟩ => .inr ⟨row', hwrite, hkeeps⟩
  | (.error _, _), h => .inl h

/-- A transaction whose body fails. -/
theorem transaction_fails {body : Calc (Except TrafficErr Table)}
    (hbody : Calc.Computes body fun r => r.isOk = false) :
    Calc.Computes (transaction faults t body) fun r => r.1.isOk = false ∧ r.2 = t := by
  apply transaction_spec hbody
  · intro _ _
    exact ⟨rfl, rfl⟩
  · intro _ ht'
    cases ht'
  · intro _ ht'
    cases ht'

theorem updateConsumedQuota_missing {readSize chargedQuota : UInt64} (hfind : t.find bucketID month = none) :
    (updateConsumedQuota faults bucketID month readSize chargedQuota t).eval.2 = t := by
  refine (transaction_fails ?_).value.2
  rw [hfind]
  split <;> exact .pure rfl

theorem updateExtraQuota_missing (hfind : t.find bucketID month = none) :
    (updateExtraQuota faults month bucketID extraQuota month t).eval.2 = t := by
  refine (transaction_fails ?_).value.2
  rw [if_neg (Nat.succ_ne_self month).symm, if_neg (not_not_intro rfl), hfind]
  split <;> exact .pure rfl

theorem updateExtraQuota_invalid {now : Month} (hnext : now ≠ month + 1) (hsame : now ≠ month) :
    (updateExtraQuota faults now bucketID extraQuota month t).eval.2 = t := by
  refine (transaction_fails ?_).value.2
  rw [if_neg hnext, if_pos hsame]
  exact .pure rfl

/-- What a refund in the next month does. -/
def Credit (t : Table) (row : BucketTraffic) (amount : Nat) : Except TrafficErr Unit × Table → Prop
  | (.ok _, t') => (t' = t ∧ amount = 0) ∨ ∃ size : UInt64, t' = t.write { row with freeQuotaSize := size } ∧
      size.toNat = row.freeQuotaSize.toNat + amount
  | (.error _, t') => t' = t

theorem updateExtraQuota_next (faults : Faults) (hfind : t.find bucketID (month + 1) = some row)
    (hfits : row.freeTotal + extraQuota.toNat < 2 ^ 64) :
    Calc.Computes (updateExtraQuota faults (month + 1) bucketID extraQuota month t)
      (Credit t row extraQuota.toNat) := by
  apply transaction_spec (Q := fun r =>
    match r with
    | .ok t' => Credit t row extraQuota.toNat (.ok (), t')
    | .error _ => True)
  · rw [if_pos rfl, hfind]
    split
    · exact .pure trivial
    rw [freeTotal] at hfits
    apply (computes_add (by omega)).bind
    intro size hsize
    split
    · exact .pure trivial
    split
    next hzero =>
      rw [hzero, UInt64.toNat_zero] at hsize
      exact .pure (.inl ⟨rfl, by omega⟩)
    · exact .pure (.inr ⟨size, rfl, hsize⟩)
  · intro _ _
    rfl
  · intro _ _ _
    rfl
  · intro _ ht' _
    exact ht'

/-- The row a new month starts with. -/
def newRow (bucketID : UInt64) (yearMonth : Month) (quota : BucketQuota) (t : Table) : BucketTraffic :=
  { bucketID, month := yearMonth, chargedQuotaSize := quota.chargedQuotaSize,
    monthlyQuotaSize := quota.monthlyFreeQuotaSize,
    freeQuotaSize := (t.newest bucketID).elim quota.freeQuotaSize freeQuotaSize }

theorem initBucketTraffic_spec {yearMonth : Month} {quota : BucketQuota} :
    Calc.Computes (initBucketTraffic faults bucketID yearMonth quota t) fun r =>
      r.2 = t ∨ (t.find bucketID yearMonth = none ∧ r.2 = t ++ [newRow bucketID yearMonth quota t]) := by
  apply transaction_spec (Q := fun r =>
    match r with
    | .ok t' => t' = t.create (newRow bucketID yearMonth quota t)
    | .error _ => True)
  · split
    · exact .pure trivial
    cases hnewest : t.newest bucketID <;> dsimp only <;> split
    · exact .pure trivial
    · exact .pure (by simp [newRow, hnewest])
    · exact .pure trivial
    · exact .pure (by simp [newRow, hnewest])
  · intro e _
    exact .inl rfl
  · intro t' _ _
    exact .inl rfl
  · intro t' ht' _
    subst ht'
    unfold create
    split
    · exact .inl rfl
    next hmissing => exact .inr ⟨by simpa [newRow] using hmissing, rfl⟩

/-! ## The invariant -/

namespace Books

variable {freeQuota bucketID : UInt64} {s : Books}

/-- The newest row has what is left of the free quota. -/
structure Carries (freeQuota : UInt64) (s : Books) (row : BucketTraffic) : Prop where
  bounded : row.Bounded
  left : row.freeQuotaSize.toNat + s.consumed = freeQuota.toNat + s.refunded

structure Sound (freeQuota bucketID : UInt64) (s : Books) : Prop where
  onePerMonth : s.table.OnePerMonth bucketID
  inOrder : s.table.NoLater bucketID s.month
  /-- Before its first row, the bucket has consumed nothing. -/
  fresh : (∀ r ∈ s.table, r.bucketID ≠ bucketID) → s.consumed = s.refunded
  newest : ∀ row, s.table.IsNewest bucketID row → Carries freeQuota s row

/-- Writing the newest row. -/
theorem Sound.write (h : s.Sound freeQuota bucketID) {row' : BucketTraffic} {consumed refunded : Nat}
    (hnewest : s.table.IsNewest bucketID row) (hbucket : row'.bucketID = row.bucketID)
    (hmonth : row'.month = row.month) (hcarries : Carries freeQuota { s with consumed, refunded } row') :
    Sound freeQuota bucketID { s with table := s.table.write row', consumed, refunded } where
  onePerMonth := h.onePerMonth.write
  inOrder := by
    intro r hr hb
    rcases mem_write hr with rfl | ⟨hr, _⟩
    · rw [hmonth]
      exact h.inOrder row hnewest.mem hnewest.bucket
    · exact h.inOrder r hr hb
  fresh := by
    intro hnone
    have hmem : row' ∈ s.table.write row' :=
      mem_map.mpr ⟨row, hnewest.mem, if_pos ⟨hbucket.symm, hmonth.symm⟩⟩
    exact (hnone row' hmem (hbucket.trans hnewest.bucket)).elim
  newest := by
    intro r hr
    rcases mem_write hr.mem with rfl | ⟨hmem, hkey⟩
    · exact { hcarries with }
    -- another row is of an earlier month
    have hle := hnewest.last r hmem hr.bucket
    have hmem' : row' ∈ s.table.write row' :=
      mem_map.mpr ⟨row, hnewest.mem, if_pos ⟨hbucket.symm, hmonth.symm⟩⟩
    have hge := hr.last row' hmem' (hbucket.trans hnewest.bucket)
    refine (hkey ⟨hr.bucket.trans (hbucket.trans hnewest.bucket).symm, ?_⟩).elim
    rw [hmonth] at hge ⊢
    exact Nat.le_antisymm hle hge

/-- A charge or a refund on the newest row. -/
theorem Sound.note (h : s.Sound freeQuota bucketID) {row' : BucketTraffic}
    (hfind : s.table.find bucketID month = some row) (hlast : s.table.NoLater bucketID month)
    (hkeeps : row.Keeps row') :
    (s.note bucketID month (s.table.write row')).Sound freeQuota bucketID := by
  have hnewest := isNewest_of_find hfind hlast
  have hrow := h.newest row hnewest
  apply h.write hnewest hkeeps.bucketID hkeeps.month
  refine ⟨hkeeps.bounded hrow.bounded, ?_⟩
  simp only [freeConsumed, hfind, find_write hfind hkeeps, Option.elim_some]
  have hleft := hrow.left
  have htotal := hkeeps.freeTotal
  simp only [freeTotal] at htotal
  omega

theorem note_same : s.note bucketID month s.table = s := by simp [Books.note]

section
variable (h : s.Sound freeQuota bucketID)
include h

namespace Sound

theorem change (hlast : s.table.NoLater bucketID month)
    (hmissing : s.table.find bucketID month = none → t = s.table)
    (hchange : ∀ {row}, s.table.find bucketID month = some row → row.Bounded → Change s.table row t) :
    (s.note bucketID month t).Sound freeQuota bucketID := by
  cases hfind : s.table.find bucketID month with
  | none =>
    rw [hmissing hfind, note_same]
    exact h
  | some row =>
    have hb := (h.newest row (isNewest_of_find hfind hlast)).bounded
    rcases hchange hfind hb with rfl | ⟨_, rfl, hkeeps⟩
    · rw [note_same]
      exact h
    · exact h.note hfind hlast hkeeps

/-- A refund in the next month goes to the free quota of that month's row. -/
theorem credit (hlast : s.table.NoLater bucketID (month + 1))
    (hfits : ∀ row ∈ s.table.find bucketID (month + 1), row.freeTotal + extraQuota.toNat < 2 ^ 64)
    (hresult : (updateExtraQuota faults (month + 1) bucketID extraQuota month s.table).eval = (.ok (), t)) :
    Sound freeQuota bucketID { s with table := t, refunded := s.refunded + extraQuota.toNat } := by
  cases hfind : s.table.find bucketID (month + 1) with
  | none =>
    -- there is no row to credit
    have hfail : (updateExtraQuota faults (month + 1) bucketID extraQuota month s.table).eval.1.isOk = false := by
      refine (transaction_fails ?_).value.1
      rw [if_pos rfl, hfind]
      split <;> exact .pure rfl
    rw [hresult] at hfail
    cases hfail
  | some row =>
    have hfits := hfits row hfind
    have hspec := (updateExtraQuota_next faults hfind hfits).value
    rw [hresult] at hspec
    have hnewest := isNewest_of_find hfind hlast
    have hrow := h.newest row hnewest
    rcases hspec with ⟨rfl, hzero⟩ | ⟨_, rfl, _⟩
    · rw [hzero, Nat.add_zero]
      exact h
    have hleft := hrow.left
    rw [freeTotal] at hfits
    refine h.write hnewest rfl rfl ⟨⟨?_, hrow.bounded.monthly⟩, ?_⟩
    · simp only [freeTotal]
      omega
    · dsimp only
      omega

/-- What is left for the row of a new month. -/
theorem newRow_left {quota : BucketQuota} (hquota : quota.freeQuotaSize = freeQuota) :
    (newRow bucketID month quota s.table).freeQuotaSize.toNat + s.consumed =
      freeQuota.toNat + s.refunded := by
  rw [newRow]
  cases hnewest : s.table.newest bucketID with
  | none => rw [Option.elim_none, hquota, h.fresh (newest_eq_none.mp hnewest)]
  | some row => exact (h.newest row (isNewest_of_newest hnewest)).left

/-- A row for a month that has none, and none later. -/
theorem append (hbucket : row.bucketID = bucketID)
    (hlast : s.table.NoLater bucketID row.month) (hmissing : s.table.find bucketID row.month = none)
    (hcarries : Carries freeQuota s row) :
    Sound freeQuota bucketID { s with table := s.table ++ [row], month := row.month } := by
  simp only [find, find?_eq_none, decide_eq_true_eq, not_and] at hmissing
  refine ⟨?_, ?_, ?_, ?_⟩
  · intro r hr r' hr' hb hb' hmonth
    rcases mem_append.mp hr with hr | hr <;> rcases mem_append.mp hr' with hr' | hr'
    · exact h.onePerMonth r hr r' hr' hb hb' hmonth
    · rw [mem_singleton.mp hr'] at hmonth
      exact (hmissing r hr hb hmonth).elim
    · rw [mem_singleton.mp hr] at hmonth
      exact (hmissing r' hr' hb' hmonth.symm).elim
    · rw [mem_singleton.mp hr, mem_singleton.mp hr']
  · intro r hr hb
    rcases mem_append.mp hr with hr | hr
    · exact hlast r hr hb
    · rw [mem_singleton.mp hr]
  · intro hnone
    exact (hnone row (mem_append_right _ (mem_singleton.mpr rfl)) hbucket).elim
  · intro r hr
    rcases mem_append.mp hr.mem with hmem | hmem
    · have hge := hr.last row (mem_append_right _ (mem_singleton.mpr rfl)) hbucket
      have hle := hlast r hmem hr.bucket
      exact (hmissing r hmem hr.bucket (Nat.le_antisymm hle hge)).elim
    · rw [mem_singleton.mp hmem]
      exact { hcarries with }

/-- A new month. -/
theorem init (hmonth : s.month ≤ month) (faults : Faults)
    (chargedQuotaSize monthlyFreeQuotaSize : UInt64) : Sound freeQuota bucketID { s with
      table := (initBucketTraffic faults bucketID month
        { chargedQuotaSize, freeQuotaSize := freeQuota, monthlyFreeQuotaSize } s.table).eval.2
      month } := by
  have hlater : s.table.NoLater bucketID month := fun r hr hb => (h.inOrder r hr hb).trans hmonth
  rcases initBucketTraffic_spec.value with hsame | ⟨hmissing, hnew⟩
  · rw [hsame]
    exact ⟨h.onePerMonth, hlater, h.fresh, fun row hrow =>
      ⟨(h.newest row hrow).bounded, (h.newest row hrow).left⟩⟩
  rw [hnew]
  refine h.append rfl hlater hmissing ⟨⟨?_, ?_⟩, h.newRow_left rfl⟩
  · exact UInt64.toNat_lt _
  · exact UInt64.toNat_lt _

theorem gc {yearMonth : Month} {picks : BucketTraffic → Bool}
    (hleaves : ∀ row ∈ s.table.newest bucketID, ¬ (row.month < yearMonth ∧ picks row)) :
    Sound freeQuota bucketID
      { s with table := s.table.filter fun r => ¬ (r.month < yearMonth ∧ picks r) } := by
  have hsub : ∀ r ∈ s.table.filter fun r => ¬ (r.month < yearMonth ∧ picks r), r ∈ s.table :=
    fun r hr => (mem_filter.mp hr).1
  -- the newest row is still there
  have hkept : ∀ row ∈ s.table.newest bucketID,
      row ∈ s.table.filter fun r => ¬ (r.month < yearMonth ∧ picks r) :=
    fun row hrow => mem_filter.mpr
      ⟨(isNewest_of_newest hrow).mem, decide_eq_true (hleaves row hrow)⟩
  refine ⟨?_, fun r hr hb => h.inOrder r (hsub r hr) hb, ?_, ?_⟩
  · intro r hr r' hr'
    exact h.onePerMonth r (hsub r hr) r' (hsub r' hr')
  · intro hnone
    apply h.fresh
    rw [← newest_eq_none]
    cases hnewest : s.table.newest bucketID with
    | none => rfl
    | some row => exact (hnone row (hkept row hnewest) (isNewest_of_newest hnewest).bucket).elim
  · intro r hr
    cases hnewest : s.table.newest bucketID with
    | none => exact (newest_eq_none.mp hnewest r (hsub r hr.mem) hr.bucket).elim
    | some row =>
      have hrow := isNewest_of_newest hnewest
      have hsame : r = row := by
        apply h.onePerMonth r (hsub r hr.mem) row hrow.mem hr.bucket hrow.bucket
        exact Nat.le_antisymm (hrow.last r (hsub r hr.mem) hr.bucket)
          (hr.last row (hkept row hnewest) hrow.bucket)
      rw [hsame]
      exact ⟨(h.newest row hrow).bounded, (h.newest row hrow).left⟩

theorem elsewhere
    (hsame : t.filter (·.bucketID = bucketID) = s.table.filter (·.bucketID = bucketID)) :
    Sound freeQuota bucketID { s with table := t } := by
  have hmem : ∀ r, r.bucketID = bucketID → (r ∈ t ↔ r ∈ s.table) := by
    intro r hb
    have := congrArg (r ∈ ·) hsame
    simpa [mem_filter, hb] using this
  refine ⟨?_, fun r hr hb => h.inOrder r ((hmem r hb).mp hr) hb, ?_, ?_⟩
  · intro r hr r' hr' hb hb'
    exact h.onePerMonth r ((hmem r hb).mp hr) r' ((hmem r' hb').mp hr') hb hb'
  · intro hnone
    exact h.fresh fun r hr hb => hnone r ((hmem r hb).mpr hr) hb
  intro r hr
  have hrow := h.newest r ⟨(hmem r hr.bucket).mp hr.mem, hr.bucket,
    fun r' hr' hb => hr.last r' ((hmem r' hb).mpr hr') hb⟩
  exact { hrow with }

/-- One step keeps the invariant. -/
theorem step {a : TrafficStep} {s' : Books}
    (htimely : a.Timely bucketID s) (hstep : s.step freeQuota bucketID a = some s') :
    s'.Sound freeQuota bucketID := by
  cases a with
  | init faults _ chargedQuota monthlyQuota =>
    simp only [Books.step] at hstep
    split at hstep
    next hmonth =>
      cases hstep
      exact h.init hmonth faults chargedQuota monthlyQuota
    · cases hstep
  | charge faults _ readSize chargedQuota =>
    cases hstep
    exact h.change htimely updateConsumedQuota_missing fun hfind hb =>
      (updateConsumedQuota_spec faults readSize chargedQuota hfind hb).value.change
  | refund faults now month extraQuota =>
    simp only [Books.step] at hstep
    split at hstep
    next hcredit =>
      obtain ⟨hok, rfl⟩ := hcredit
      cases hstep
      exact h.credit htimely.1 (htimely.2 rfl) (Prod.ext hok rfl)
    next hcredit =>
      cases hstep
      by_cases hnext : now = month + 1
      · have hfail := transaction_failed fun hok => hcredit ⟨hok, hnext⟩
        rw [updateExtraQuota, hfail, note_same]
        exact h
      by_cases hsame : now = month
      · subst hsame
        exact h.change htimely.1 updateExtraQuota_missing fun hfind hb =>
          (updateExtraQuota_spec faults extraQuota hfind hb).value.change
      · rw [updateExtraQuota_invalid hnext hsame, note_same]
        exact h
  | gc =>
    simp only [Books.step, Option.map_eq_some_iff] at hstep
    obtain ⟨_, hdelete, rfl⟩ := hstep
    unfold deleteExpiredBucketTraffic at hdelete
    dsimp only at hdelete
    split at hdelete
    · cases hdelete
      exact h.gc htimely
    · cases hdelete
  | elsewhere =>
    simp only [Books.step] at hstep
    split at hstep
    next hsame =>
      cases hstep
      exact h.elsewhere hsame
    · cases hstep

end Sound

end

end Books

/-- **The free quota is granted once**, in every run whose charges and refunds
come before the row of a later month is there and whose collections leave the
bucket its newest row. What was consumed from the free tier beyond what was
refunded to it is within the quota, and the row of a new month gets what is left. -/
theorem free_quota_granted_once {freeQuota bucketID : UInt64} {t : Table}
    (hnone : ∀ r ∈ t, r.bucketID ≠ bucketID) {s : Books}
    (hrun : Run (Books.step freeQuota bucketID) (fun s a => a.Timely bucketID s) { table := t } s) :
    s.consumed ≤ freeQuota.toNat + s.refunded ∧
    ∀ faults yearMonth chargedQuota monthlyQuota s' row,
      s.step freeQuota bucketID (.init faults yearMonth chargedQuota monthlyQuota) = some s' →
      s.table.find bucketID yearMonth = none → s'.table.find bucketID yearMonth = some row →
      row.freeQuotaSize.toNat + s.consumed = freeQuota.toNat + s.refunded := by
  have h : s.Sound freeQuota bucketID := by
    apply hrun.invariant
    · exact ⟨fun r hr _ _ hb => (hnone r hr hb).elim, fun r hr hb => (hnone r hr hb).elim,
        fun _ => rfl, fun row hrow => (hnone row hrow.mem hrow.bucket).elim⟩
    · intro _ _ _ h hmeets hstep
      exact h.step hmeets hstep
  constructor
  · cases hnewest : s.table.newest bucketID with
    | none =>
      rw [h.fresh (newest_eq_none.mp hnewest)]
      exact Nat.le_add_left _ _
    | some row =>
      rw [← (h.newest row (isNewest_of_newest hnewest)).left]
      exact Nat.le_add_left _ _
  · intro _ _ _ _ _ _ hstep hmissing hrow
    simp only [Books.step] at hstep
    split at hstep
    · cases hstep
      rcases initBucketTraffic_spec.value with hsame | ⟨_, hnew⟩
      · rw [hsame, hmissing] at hrow
        cases hrow
      · unfold find at hmissing hrow
        rw [hnew, List.find?_append, hmissing, Option.none_or, List.find?_singleton, if_pos (by simp [newRow])] at hrow
        cases hrow
        exact h.newRow_left rfl
    · cases hstep

/-- Two months, with a collection in between that leaves the newest row: the
second month gets what the first left. -/
def sampleMonths : List TrafficStep :=
  [.init {} 1 0 0, .charge {} 1 6 0, .gc 1 fun _ => true, .init {} 4 0 0, .charge {} 4 3 0,
   .refund {} 4 4 2]

theorem free_quota_granted_once_sample :
    ∃ s, Run (Books.step 10 1) (fun s a => a.Timely 1 s) { table := [] } s ∧
      s.consumed = 9 ∧ s.refunded = 2 ∧ s.consumed ≤ (10 : UInt64).toNat + s.refunded := by
  obtain ⟨s, hrun, hconsumed, hrefunded⟩ : ∃ s, Run (Books.step 10 1) (fun s a => a.Timely 1 s)
      { table := [] } s ∧ s.consumed = 9 ∧ s.refunded = 2 :=
    Run.exists_of_exec sampleMonths (by decide +kernel)
  exact ⟨s, hrun, hconsumed, hrefunded, (free_quota_granted_once (by simp) hrun).1⟩

/-- The bucket consumes its free quota and is not read for longer than rows are
kept. Its row is deleted, and the next read starts over. -/
theorem free_quota_granted_again : ∃ s, Run (Books.step 10 1) (fun _ _ => True) { table := [] } s ∧
      ¬ s.consumed ≤ (10 : UInt64).toNat + s.refunded := by
  exact Run.exists_of_exec [.init {} 1 0 0, .charge {} 1 10 0, .gc 4 fun _ => true, .init {} 5 0 0,
    .charge {} 5 10 0] (by decide +kernel)

end Traffic

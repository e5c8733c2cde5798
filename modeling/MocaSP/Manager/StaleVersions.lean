-- SUMMARY: The shadow rows that stale version collection sees.
import MocaSP.Base.Except

/-!
# Collection of stale versions

A run of `gcObjectStaleVersionPiece` gives tasks to the five shadow rows of the largest object ids. The
rows of updates under way stay in the table and, five of them, keep the rows behind them from a task.
-/

namespace Manager.StaleVersions
open List

structure ShadowRow where
  objectID : Nat
  redundancyIndex : Int
  version : Int
deriving DecidableEq

structure ObjectInfo where
  version : Int
  isUpdating : Bool

/-- The shadow table in the order of its query. -/
structure ShadowTable where
  rows : List ShadowRow
  nodup : rows.Nodup
  ordered : rows.Pairwise (·.objectID ≥ ·.objectID)

/-- `ListShadowIntegrityMetaDefaultSize` -/
def limit : Nat := 5

def listShadowIntegrityMeta (rows : List ShadowRow) : List ShadowRow := rows.take limit

variable (chain : Nat → Option ObjectInfo)

/-- The task for a row leaves it: the update is not sealed yet. -/
def Stays (row : ShadowRow) : Prop :=
  ∃ o, chain row.objectID = some o ∧ o.version < row.version ∧ o.isUpdating = true

instance (row : ShadowRow) : Decidable (Stays chain row) :=
  match h : chain row.objectID with
  | none => isFalse (by simp [Stays, h])
  | some o => decidable_of_iff (o.version < row.version ∧ o.isUpdating = true) (by simp [Stays, h])

/-- The rows after the tasks of a run have been executed. -/
def afterRun (rows : List ShadowRow) : List ShadowRow :=
  (listShadowIntegrityMeta rows).filter (Stays chain ·) ++ rows.drop limit

/-- The rows that are given a task in some runs. -/
def given : Nat → List ShadowRow → List ShadowRow
  | 0, _ => []
  | runs + 1, rows => listShadowIntegrityMeta rows ++ given runs (afterRun chain rows)

variable {chain} {front : List ShadowRow} {row last : ShadowRow} {runs : Nat}

theorem mem_front_of_afterRun (h : row ∈ afterRun chain front) : row ∈ front := by
  rcases mem_append.mp h with h | h
  · exact mem_of_mem_take (mem_of_mem_filter h)
  · exact mem_of_mem_drop h

theorem countP_afterRun :
    (afterRun chain front).countP (Stays chain ·) = front.countP (Stays chain ·) := by
  simp only [afterRun, countP_append, countP_filter, Bool.and_self]
  rw [← countP_append, listShadowIntegrityMeta, take_append_drop]

theorem afterRun_concat (h : limit ≤ front.length) :
    afterRun chain (front ++ [last]) = afterRun chain front ++ [last] := by
  simp [afterRun, listShadowIntegrityMeta, take_append_of_le_length h, drop_append_of_le_length h]

theorem not_mem_given (hlast : last ∉ front) (h : limit ≤ front.countP (Stays chain ·)) :
    last ∉ given chain runs (front ++ [last]) := by
  induction runs generalizing front with
  | zero => exact not_mem_nil
  | succ runs ih =>
    have hlen : limit ≤ front.length := h.trans countP_le_length
    rw [given, listShadowIntegrityMeta, take_append_of_le_length hlen, afterRun_concat hlen, mem_append]
    rintro (hseen | hlater)
    · exact hlast (mem_of_mem_take hseen)
    · exact ih (mt mem_front_of_afterRun hlast) (countP_afterRun.symm ▸ h) hlater

theorem mem_given (hruns : front.length < runs) (h : front.countP (Stays chain ·) < limit)
    (hrow : row ∈ front ++ [last]) : row ∈ given chain runs (front ++ [last]) := by
  induction runs generalizing front with
  | zero => exact absurd hruns (Nat.not_lt_zero _)
  | succ runs ih =>
    rw [given, mem_append]
    by_cases hlen : limit ≤ front.length
    · rw [afterRun_concat hlen]
      rw [← take_append_drop limit (front ++ [last]), mem_append] at hrow
      refine hrow.imp id fun hrow => ih ?_ (countP_afterRun.symm ▸ h) ?_
      · -- the run takes a row from the table
        have hseen : (listShadowIntegrityMeta front).countP (Stays chain ·) < limit :=
          ((take_sublist _ _).countP_le).trans_lt h
        rw [afterRun, length_append, ← countP_eq_length_filter, length_drop]
        omega
      · rw [← afterRun_concat hlen]
        exact mem_append_right _ hrow
    · refine .inl ?_
      rwa [listShadowIntegrityMeta, take_of_length_le (by simpa [Nat.succ_le_iff] using hlen)]

/-- As many runs as there are rows give every row a task exactly where fewer than five of the rows before
the last one stay. -/
theorem every_row_given_iff (chain : Nat → Option ObjectInfo) (t : ShadowTable) :
    (∀ row ∈ t.rows, row ∈ given chain t.rows.length t.rows) ↔
      t.rows.dropLast.countP (Stays chain ·) < 5 := by
  obtain ⟨rows, hnodup, -⟩ := t
  rcases eq_nil_or_concat' rows with rfl | ⟨front, last, rfl⟩
  · simp
  simp only [dropLast_concat]
  constructor
  · intro h
    by_contra hmany
    have hlast : last ∉ front := fun hmem =>
      (nodup_append.mp hnodup).2.2 last hmem last mem_cons_self rfl
    exact not_mem_given hlast (Nat.le_of_not_lt hmany) (h last (by simp))
  · intro h row hrow
    exact mem_given (by simp) h hrow

/-- A sealed update behind five that are under way. -/
def crowded : ShadowTable := ⟨[⟨6, -1, 2⟩, ⟨5, -1, 2⟩, ⟨4, -1, 2⟩, ⟨3, -1, 2⟩, ⟨2, -1, 2⟩, ⟨1, -1, 2⟩],
  by decide, by decide⟩

theorem sealed_row_starves : ⟨1, -1, 2⟩ ∈ crowded.rows ∧ ⟨1, -1, 2⟩ ∉
    given (fun id => some ⟨if id = 1 then 2 else 1, id ≠ 1⟩) crowded.rows.length crowded.rows := by
  decide +kernel

end Manager.StaleVersions

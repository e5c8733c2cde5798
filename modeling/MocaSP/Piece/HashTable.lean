-- SUMMARY: The two reads of an object's piece checksums.
import Mathlib.Data.List.Perm.Subperm
import MocaSP.Base.Except

/-!
# Two reads of the piece checksums

`GetAllReplicatePieceChecksum` asks for one row after another by its key. The optimised read asks
for all rows of an object and index in one query with a limit, and the database may return them in any order.
-/

namespace Piece.HashTable
open List

/-- A row of `PieceHashTable`; the checksum is a hex text. -/
structure Row (Text : Type) where
  objectID : Nat
  segmentIndex : Nat
  redundancyIndex : Int
  pieceChecksum : Text
  version : Int

def Row.key {Text : Type} (r : Row Text) : Nat × Nat × Int := (r.objectID, r.segmentIndex, r.redundancyIndex)

structure Table (Text : Type) where
  rows : List (Row Text)
  primaryKey : (rows.map Row.key).Nodup

variable {Text Digest : Type} (decodeString : Text → Option Digest) (T : Table Text) (objectID : Nat)
  (redundancyIdx : Int) (pieceCount : Nat)

def Table.getReplicatePieceChecksum (segmentIdx : Nat) : Option Digest := do
  let row ← T.rows.find? fun r =>
    r.objectID = objectID ∧ r.segmentIndex = segmentIdx ∧ r.redundancyIndex = redundancyIdx
  decodeString row.pieceChecksum

def Table.getAllReplicatePieceChecksum : Option (List Digest) :=
  (range pieceCount).mapM (T.getReplicatePieceChecksum decodeString objectID redundancyIdx)

/-- The rows that the query of the optimised read is for. -/
def Table.matching : List (Row Text) :=
  T.rows.filter fun r => r.objectID = objectID ∧ r.redundancyIndex = redundancyIdx

/-- The rows are read in the order in which the database returns them. -/
def getAllReplicatePieceChecksumOptimized (returned : List (Row Text)) : Option (List Digest) :=
  (returned.take pieceCount).mapM fun r => decodeString r.pieceChecksum

variable {decodeString T objectID redundancyIdx pieceCount}

/-- The optimised read returns the checksums by segment, whatever the order of the rows, exactly if no checksum is
asked for or all rows have the same one. -/
theorem optimized_read_eq_iff {checksums : List Digest}
    (h : T.getAllReplicatePieceChecksum decodeString objectID redundancyIdx pieceCount = some checksums) :
    (∀ returned, returned.Perm (T.matching objectID redundancyIdx) →
      getAllReplicatePieceChecksumOptimized decodeString pieceCount returned = some checksums) ↔
      pieceCount = 0 ∨ ∀ r ∈ T.matching objectID redundancyIdx, ∀ r' ∈ T.matching objectID redundancyIdx,
        decodeString r.pieceChecksum = decodeString r'.pieceChecksum := by
  have hplain := mapM_eq_some_iff.mp h
  simp only [getAllReplicatePieceChecksumOptimized, mapM_eq_some_iff, ← hplain]
  constructor
  · intro hreads
    cases pieceCount with
    | zero => exact .inl rfl
    | succ =>
      -- any of the rows may come first
      have hfirst : ∀ r ∈ T.matching objectID redundancyIdx, decodeString r.pieceChecksum =
          T.getReplicatePieceChecksum decodeString objectID redundancyIdx 0 := by
        intro r hr
        obtain ⟨s, t, hst⟩ := append_of_mem hr
        have hread := hreads (r :: (s ++ t)) (hst ▸ perm_middle.symm)
        rw [range_succ_eq_map] at hread
        simpa using (cons.inj hread).1
      exact .inr fun r hr r' hr' => (hfirst r hr).trans (hfirst r' hr').symm
  · rintro (rfl | hsame) returned hperm
    · rfl
    have hrow : ∀ i ∈ range pieceCount, ∃ r ∈ T.matching objectID redundancyIdx, r.segmentIndex = i ∧
        decodeString r.pieceChecksum = T.getReplicatePieceChecksum decodeString objectID redundancyIdx i := by
      intro _ hi
      have hmem := mem_map_of_mem (f := T.getReplicatePieceChecksum decodeString objectID redundancyIdx) hi
      rw [hplain] at hmem
      obtain ⟨_, -, hd⟩ := mem_map.mp hmem
      obtain ⟨r, hfind, hdec⟩ := Option.bind_eq_some_iff.mp hd.symm
      have hkey := List.find?_some hfind
      simp only [decide_eq_true_eq] at hkey
      exact ⟨r, mem_filter.mpr ⟨mem_of_find?_eq_some hfind, by simp [hkey]⟩, hkey.2.1, hdec.trans hd⟩
    have hlen : pieceCount ≤ returned.length := by
      have hsub : range pieceCount ⊆ (T.matching objectID redundancyIdx).map Row.segmentIndex := by
        intro i hi
        obtain ⟨r, hr, hseg, -⟩ := hrow i hi
        exact mem_map.mpr ⟨r, hr, hseg⟩
      simpa [hperm.length_eq] using (subperm_of_subset nodup_range hsub).length_le
    refine ext_getElem (by simpa using hlen) fun i hi hi' => ?_
    simp only [length_map, length_range] at hi'
    obtain ⟨r, hr, -, hdec⟩ := hrow i (mem_range.mpr hi')
    simp only [getElem_map, getElem_take, getElem_range, ← hdec]
    exact hsame _ (hperm.mem_iff.mp (getElem_mem _)) r hr

/-- Two segments with one checksum; the second is returned first. -/
theorem optimized_read_sample :
    getAllReplicatePieceChecksumOptimized some 2 [⟨1, 1, 0, 7, 0⟩, ⟨1, 0, 0, 7, 0⟩] = some [7, 7] :=
  (@optimized_read_eq_iff Nat Nat some ⟨[⟨1, 0, 0, 7, 0⟩, ⟨1, 1, 0, 7, 0⟩], by decide⟩ 1 0 2 [7, 7]
    rfl).mpr (.inr (by decide)) _ (.swap ..)

/-- Two segments with different checksums. -/
def twoSegments : Table Nat := ⟨[⟨1, 0, 0, 7, 0⟩, ⟨1, 1, 0, 8, 0⟩], by decide⟩


theorem optimized_read_swapped : twoSegments.getAllReplicatePieceChecksum some 1 0 2 = some [7, 8] ∧
    ∃ returned, returned.Perm (twoSegments.matching 1 0) ∧
      getAllReplicatePieceChecksumOptimized some 2 returned = some [8, 7] :=
  ⟨rfl, [⟨1, 1, 0, 8, 0⟩, ⟨1, 0, 0, 7, 0⟩], .swap .., rfl⟩

end Piece.HashTable

-- SUMMARY: The table of the checksums of single pieces.
import MocaSP.Base.Ordered
import MocaSP.Piece.Store

/-!
# Checksums of single pieces

Until all pieces of an object are there, the checksum of each is a row of
`PieceHashTable`. Its primary key is the object, the segment and the redundancy
index; a row also has the version of its piece, which no query asks for. The
query for all rows of an object and index has a limit and no order of its own.
-/

namespace Piece

open Std (TreeMap)
open Peer (PieceKey)

structure PieceHash (Digest : Type) where
  pieceChecksum : Digest
  version : Int

/-- The rows by object id and redundancy index, and then by segment index. -/
abbrev PieceHashes (Digest : Type) := Nat → Int → TreeMap Nat (PieceHash Digest)

/-- How the query for all rows goes. -/
structure RowsRead where
  fails : Bool := false
  /-- The order in which the database returns the rows of these segments; none is that of the primary key. -/
  order : Option { f : List Nat → List Nat // ∀ segments, (f segments).Perm segments } := none

namespace RowsRead

variable (read : RowsRead) (segments : List Nat)

def returned : List Nat :=
  match read.order with
  | none => segments
  | some order => order.1 segments

def InKeyOrder : Prop := read.order.isNone

instance : Decidable read.InKeyOrder := inferInstanceAs (Decidable (_ = true))

variable {read segments}

theorem returned_perm : (read.returned segments).Perm segments := by
  unfold returned
  split
  · exact .refl _
  next order _ => exact order.2 segments

theorem InKeyOrder.returned_eq (h : read.InKeyOrder) : read.returned segments = segments := by
  rw [returned, Option.isNone_iff_eq_none.mp h]

end RowsRead

/-- The checksum that an object's list has for a redundancy index; the first is the
primary SP's. -/
def checksumFor {Digest : Type} (checksums : List Digest) (redundancyIdx : Int) : Option Digest :=
  if redundancyIdx + 1 < 0 then none else checksums[(redundancyIdx + 1).toNat]?

/-- What an SP holds of objects. -/
structure Holdings (Digest : Type) where
  store : Store Digest
  hashes : PieceHashes Digest

namespace Holdings

variable {Digest : Type} (s : Holdings Digest)

/-- A piece with this checksum is stored under the key. -/
def Holds (H : Hash Digest) (key : PieceKey) (checksum : Digest) : Prop :=
  (s.store.pieces key).map H.generateChecksum = some checksum

def putPiece (p : Put) (key : PieceKey) (data : Data) : Holdings Digest :=
  { s with store := s.store.putPiece p key data }

def setHashes (objectID : Nat) (redundancyIdx : Int) (rows : TreeMap Nat (PieceHash Digest)) :
    Holdings Digest :=
  { s with hashes := fun id idx =>
      if id = objectID ∧ idx = redundancyIdx then rows else s.hashes id idx }

/-- What a write that turns the rows of an object and index into `rows` leaves. -/
def writeHashes (w : Write) (objectID : Nat) (redundancyIdx : Int)
    (rows : TreeMap Nat (PieceHash Digest)) : Except DbErr Unit × Holdings Digest :=
  match w with
  | .ok => (.ok (), s.setHashes objectID redundancyIdx rows)
  | .fails true => (.error .fails, s.setHashes objectID redundancyIdx rows)
  | .fails false => (.error .fails, s)

/-- An upsert. -/
def setReplicatePieceChecksum (w : Write) (objectID segmentIdx : Nat) (redundancyIdx : Int)
    (checksum : Digest) (version : Int) : Except DbErr Unit × Holdings Digest :=
  s.writeHashes w objectID redundancyIdx
    ((s.hashes objectID redundancyIdx).insert segmentIdx ⟨checksum, version⟩)

def getAllReplicatePieceChecksumOptimized (read : RowsRead) (objectID : Nat) (redundancyIdx : Int)
    (pieceCount : Nat) : Except DbErr (List Digest) :=
  let rows := s.hashes objectID redundancyIdx
  if read.fails then .error .fails
  else .ok ((Ordered.inOrder rows (read.returned rows.keys) pieceCount).map (·.pieceChecksum))

def deleteReplicatePieceChecksum (w : Write) (objectID segmentIdx : Nat) (redundancyIdx : Int) :
    Except DbErr Unit × Holdings Digest :=
  s.writeHashes w objectID redundancyIdx ((s.hashes objectID redundancyIdx).erase segmentIdx)

/-- One delete after the other, until one fails. -/
def deleteAllReplicatePieceChecksum (w : Nat → Write) (objectID : Nat) (redundancyIdx : Int)
    (pieceCount : Nat) : Except DbErr Unit × Holdings Digest :=
  (List.range pieceCount).foldl (fun (done, s) segmentIdx =>
    match done with
    | .error e => (.error e, s)
    | .ok () => s.deleteReplicatePieceChecksum (w segmentIdx) objectID segmentIdx redundancyIdx)
    (.ok (), s)

def deleteAllReplicatePieceChecksumOptimized (w : Write) (objectID : Nat) (redundancyIdx : Int) :
    Except DbErr Unit × Holdings Digest :=
  s.writeHashes w objectID redundancyIdx ∅

/-! ## Rows and pieces -/

variable {s} {s' : Holdings Digest} {objectID i segmentIdx : Nat} {redundancyIdx : Int} {w : Write}
  {rows : TreeMap Nat (PieceHash Digest)} {row : PieceHash Digest} {H : Hash Digest}
  {key k : PieceKey} {p : Put} {data : Data} {checksum : Digest} {r : Except DbErr Unit}

@[simp] theorem store_setHashes : (s.setHashes objectID redundancyIdx rows).store = s.store := rfl

@[simp] theorem hashes_setHashes_self :
    (s.setHashes objectID redundancyIdx rows).hashes objectID redundancyIdx = rows := by
  simp [setHashes]

theorem hashes_setHashes_of_ne {idx : Int} (h : idx ≠ redundancyIdx) :
    (s.setHashes objectID redundancyIdx rows).hashes objectID idx = s.hashes objectID idx := by
  simp [setHashes, h]

@[simp] theorem hashes_putPiece : (s.putPiece p key data).hashes = s.hashes := rfl

@[simp] theorem store_putPiece : (s.putPiece p key data).store = s.store.putPiece p key data := rfl

theorem holds_putPiece_self : (s.putPiece .ok key data).Holds H key (H.generateChecksum data) := by
  simp [Holds]

theorem holds_putPiece_of_ne (h : k ≠ key) :
    (s.putPiece p key data).Holds H k checksum ↔ s.Holds H k checksum := by
  rw [Holds, Holds, store_putPiece, Store.pieces_putPiece_of_ne h]

theorem getAll_ok {read : RowsRead} {n : Nat} {checksums : List Digest}
    (h : s.getAllReplicatePieceChecksumOptimized read objectID redundancyIdx n = .ok checksums) :
    checksums.length = (Ordered.first (s.hashes objectID redundancyIdx) n).length ∧
      (read.InKeyOrder →
        checksums = (Ordered.first (s.hashes objectID redundancyIdx) n).map (·.pieceChecksum)) := by
  rw [getAllReplicatePieceChecksumOptimized] at h
  split at h
  · cases h
  cases h
  refine ⟨by rw [List.length_map, Ordered.length_inOrder read.returned_perm], fun hordered => ?_⟩
  rw [hordered.returned_eq, Ordered.inOrder_keys]

/-- Whatever comes of a write, the rows are the new ones or the old ones. -/
theorem writeHashes_cases (h : s.writeHashes w objectID redundancyIdx rows = (r, s')) :
    s' = s.setHashes objectID redundancyIdx rows ∨ s' = s ∧ w = .fails false ∧ r = .error .fails := by
  cases w with
  | ok =>
    cases h
    exact .inl rfl
  | fails applied =>
    cases applied with
    | true =>
      cases h
      exact .inl rfl
    | false =>
      cases h
      exact .inr ⟨rfl, rfl, rfl⟩

/-- What deletes leave: the same pieces and tables, and some of the rows. -/
structure Fewer (s s' : Holdings Digest) (objectID : Nat) (redundancyIdx : Int) : Prop where
  store : s'.store = s.store
  rows : ∀ (i : Nat) (row : PieceHash Digest), (s'.hashes objectID redundancyIdx)[i]? = some row →
    (s.hashes objectID redundancyIdx)[i]? = some row
  others : ∀ idx ≠ redundancyIdx, s'.hashes objectID idx = s.hashes objectID idx

theorem Fewer.refl : Fewer s s objectID redundancyIdx := ⟨rfl, fun _ _ h => h, fun _ _ => rfl⟩

theorem Fewer.trans {s₁ s₂ s₃ : Holdings Digest} (h : Fewer s₁ s₂ objectID redundancyIdx)
    (h' : Fewer s₂ s₃ objectID redundancyIdx) : Fewer s₁ s₃ objectID redundancyIdx :=
  ⟨h'.store.trans h.store, fun i row hrow => h.rows i row (h'.rows i row hrow),
    fun idx hidx => (h'.others idx hidx).trans (h.others idx hidx)⟩

theorem fewer_of_writeHashes (h : s.writeHashes w objectID redundancyIdx rows = (r, s'))
    (hrows : ∀ (i : Nat) (row : PieceHash Digest), rows[i]? = some row →
      (s.hashes objectID redundancyIdx)[i]? = some row) :
    Fewer s s' objectID redundancyIdx := by
  rcases writeHashes_cases h with rfl | ⟨rfl, -, -⟩
  · exact ⟨rfl, by simpa using hrows, fun idx hidx => hashes_setHashes_of_ne hidx⟩
  · exact .refl

theorem deleteReplicatePieceChecksum_fewer :
    Fewer s (s.deleteReplicatePieceChecksum w objectID segmentIdx redundancyIdx).2
      objectID redundancyIdx := by
  refine fewer_of_writeHashes rfl fun i row hrow => ?_
  rw [TreeMap.getElem?_erase] at hrow
  split at hrow
  · cases hrow
  · exact hrow

theorem deleteAllReplicatePieceChecksum_fewer {w : Nat → Write} {pieceCount : Nat} :
    Fewer s (s.deleteAllReplicatePieceChecksum w objectID redundancyIdx pieceCount).2
      objectID redundancyIdx := by
  rw [deleteAllReplicatePieceChecksum]
  refine List.foldlRecOn (List.range pieceCount) _
    (motive := fun (acc : Except DbErr Unit × Holdings Digest) => Fewer s acc.2 objectID redundancyIdx)
    .refl fun acc ih segmentIdx _ => ?_
  obtain ⟨done, _⟩ := acc
  cases done with
  | error => exact ih
  | ok => exact ih.trans deleteReplicatePieceChecksum_fewer

theorem deleteAllReplicatePieceChecksumOptimized_fewer :
    Fewer s (s.deleteAllReplicatePieceChecksumOptimized w objectID redundancyIdx).2
      objectID redundancyIdx :=
  fewer_of_writeHashes rfl fun i row hrow => by simp at hrow

/-- The rows after an upsert that took effect. -/
theorem getElem?_upsert :
    (rows.insert segmentIdx row)[i]? = if i = segmentIdx then some row else rows[i]? := by
  rw [TreeMap.getElem?_insert]
  simp only [Nat.compare_eq_eq, @eq_comm _ segmentIdx i]

end Holdings

/-- For samples. -/
def nothingHeld : Holdings Data := ⟨⟨fun _ => none, fun _ _ => none, fun _ _ => none⟩, fun _ _ => ∅⟩

end Piece

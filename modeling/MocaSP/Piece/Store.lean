-- SUMMARY: The piece store and the integrity tables of an SP.
import MocaSP.Gater.Peer

/-!
# Pieces and integrity rows

An SP keeps the data of a piece in the piece store and the checksums of an
object's pieces in the database, in one row for each object and redundancy
index. The row of an object under update is in a shadow table until the update
is sealed. The two tables have the same functions; `Rows` has each of them once.

A write to the database may fail with its effect or without it. A failed write
to the piece store may leave anything under its key.
-/

namespace Piece

open Peer (PieceKey)

abbrev Data := List UInt8

/-- The hash of a piece, and the hash over the checksums of a piece list. -/
structure Hash (Digest : Type) where
  generateChecksum : Data → Digest
  generateIntegrityHash : List Digest → Digest

/-- No two of the pieces have different lengths and the same checksum. This is assumed
where a piece is recognised by its checksum. -/
def Hash.TellsLengths {Digest : Type} (H : Hash Digest) (pieces : List Data) : Prop :=
  ∀ a ∈ pieces, ∀ b ∈ pieces, H.generateChecksum a = H.generateChecksum b → a.length = b.length

/-- A hash for samples, which keeps the data. -/
def plainHash : Hash Data where
  generateChecksum := id
  generateIntegrityHash := List.flatten

/-- The redundancy index under which the primary SP keeps its row. -/
def primarySPRedundancyIndex : Int := -1

inductive DbErr where
  | recordNotFound
  | fails
  deriving DecidableEq

/-- How a write to the database goes. -/
inductive Write where
  | ok
  | fails (applied : Bool)
  deriving DecidableEq

/-- How a write to the piece store goes. -/
inductive Put where
  | ok
  | fails (left : Option Data)
  deriving DecidableEq

/-- A row of `IntegrityMetaTable` or of `ShadowIntegrityMetaTable`. -/
structure IntegrityMeta (Digest : Type) where
  pieceChecksumList : List Digest
  /-- Absent while the column is empty. -/
  integrityChecksum : Option Digest
  /-- Absent in the table that has no such column. -/
  version : Option Int
  objectSize : Nat
  deriving DecidableEq

/-! ## One table -/

/-- The rows by object id and redundancy index. -/
abbrev Rows (Digest : Type) := Nat → Int → Option (IntegrityMeta Digest)

namespace Rows

variable {Digest : Type} (rows : Rows Digest) (objectID : Nat) (redundancyIndex : Int)

def set (row : Option (IntegrityMeta Digest)) : Rows Digest :=
  fun id idx => if id = objectID ∧ idx = redundancyIndex then row else rows id idx

def get (fails : Bool) : Except DbErr (IntegrityMeta Digest) :=
  if fails then .error .fails
  else match rows objectID redundancyIndex with
    | none => .error .recordNotFound
    | some row => .ok row

/-- What a write that turns the row into `row` leaves. -/
def write (w : Write) (row : Option (IntegrityMeta Digest)) : Except DbErr Unit × Rows Digest :=
  match w with
  | .ok => (.ok (), rows.set objectID redundancyIndex row)
  | .fails true => (.error .fails, rows.set objectID redundancyIndex row)
  | .fails false => (.error .fails, rows)

/-- An insert. A row that is there stays as it is, and the insert reports success. -/
def insert (w : Write) (row : IntegrityMeta Digest) : Except DbErr Unit × Rows Digest :=
  rows.write objectID redundancyIndex w (some ((rows objectID redundancyIndex).getD row))

/-- One checksum more: a first row, or the row's list and size extended. -/
def append (w : Write) (version : Option Int) (checksum : Digest) (dataLength : Nat) :
    Except DbErr Unit × Rows Digest :=
  match rows objectID redundancyIndex with
  | none => rows.insert objectID redundancyIndex w
      { pieceChecksumList := [checksum], integrityChecksum := none, version, objectSize := dataLength }
  | some row => rows.write objectID redundancyIndex w (some
      { row with
        pieceChecksumList := row.pieceChecksumList ++ [checksum]
        objectSize := row.objectSize + dataLength })

/-- An update of the hash, which does nothing when there is no row. -/
def updateHash (w : Write) (integrityChecksum : Digest) : Except DbErr Unit × Rows Digest :=
  rows.write objectID redundancyIndex w
    ((rows objectID redundancyIndex).map ({ · with integrityChecksum := some integrityChecksum }))

variable {rows objectID redundancyIndex} {w : Write} {row : Option (IntegrityMeta Digest)}

@[simp] theorem set_self : rows.set objectID redundancyIndex row objectID redundancyIndex = row := by
  simp [set]

/-- The row with one checksum more. -/
def appended (version : Option Int) (checksum : Digest) (dataLength : Nat) :
    Option (IntegrityMeta Digest) → IntegrityMeta Digest
  | none =>
    { pieceChecksumList := [checksum], integrityChecksum := none, version, objectSize := dataLength }
  | some row =>
    { row with
      pieceChecksumList := row.pieceChecksumList ++ [checksum]
      objectSize := row.objectSize + dataLength }

theorem append_eq {version : Option Int} {checksum : Digest} {dataLength : Nat} :
    rows.append objectID redundancyIndex w version checksum dataLength =
      rows.write objectID redundancyIndex w
        (some (appended version checksum dataLength (rows objectID redundancyIndex))) := by
  rw [append]
  split
  next hnone =>
    rw [insert, hnone]
    rfl
  next hsome =>
    rw [hsome]
    rfl

end Rows

/-! ## The stores of an SP -/

structure Store (Digest : Type) where
  pieces : PieceKey → Option Data
  integrity : Rows Digest
  shadow : Rows Digest

namespace Store

variable {Digest : Type} (s : Store Digest)

variable (shadow : Bool)

/-- The rows of the shadow table or of the integrity table. -/
def rows : Rows Digest := if shadow then s.shadow else s.integrity

def setRows (rows : Rows Digest) : Store Digest :=
  if shadow then { s with shadow := rows } else { s with integrity := rows }

def putPiece (p : Put) (key : PieceKey) (data : Data) : Store Digest :=
  let left := match p with
    | .ok => some data
    | .fails left => left
  { s with pieces := fun k => if k = key then left else s.pieces k }

/-- A function of one of the two tables. -/
def onRows (f : Rows Digest → Except DbErr Unit × Rows Digest) : Except DbErr Unit × Store Digest :=
  ((f (s.rows shadow)).1, s.setRows shadow (f (s.rows shadow)).2)

def getObjectIntegrity (fails : Bool) (objectID : Nat) (redundancyIndex : Int) :=
  (s.rows false).get objectID redundancyIndex fails

def getShadowObjectIntegrity (fails : Bool) (objectID : Nat) (redundancyIndex : Int) :=
  (s.rows true).get objectID redundancyIndex fails

variable (w : Write)

def setObjectIntegrity (objectID : Nat) (redundancyIndex : Int) (row : IntegrityMeta Digest) :=
  s.onRows false fun rows => rows.insert objectID redundancyIndex w row

def setShadowObjectIntegrity (objectID : Nat) (redundancyIndex : Int)
    (row : IntegrityMeta Digest) :=
  s.onRows true fun rows => rows.insert objectID redundancyIndex w row

def updatePieceChecksum (objectID : Nat) (redundancyIndex : Int) (checksum : Digest)
    (dataLength : Nat) :=
  s.onRows false fun rows => rows.append objectID redundancyIndex w none checksum dataLength

def updateShadowPieceChecksum (objectID : Nat) (redundancyIndex : Int)
    (checksum : Digest) (version : Int) (dataLength : Nat) :=
  s.onRows true fun rows => rows.append objectID redundancyIndex w (some version) checksum dataLength

def updateIntegrityChecksum (objectID : Nat) (redundancyIndex : Int) (integrityChecksum : Digest) :=
  s.onRows false fun rows => rows.updateHash objectID redundancyIndex w integrityChecksum

def updateShadowIntegrityChecksum (objectID : Nat) (redundancyIndex : Int)
    (integrityChecksum : Digest) :=
  s.onRows true fun rows => rows.updateHash objectID redundancyIndex w integrityChecksum

variable {s} {shadow : Bool} {rows : Rows Digest} {p : Put} {key k : PieceKey} {data : Data}

@[simp] theorem rows_setRows : (s.setRows shadow rows).rows shadow = rows := by cases shadow <;> rfl

@[simp] theorem pieces_setRows : (s.setRows shadow rows).pieces = s.pieces := by
  cases shadow <;> rfl

variable {f : Rows Digest → Except DbErr Unit × Rows Digest}

@[simp] theorem rows_onRows :
    (s.onRows shadow f).2.rows shadow = (f (s.rows shadow)).2 := rows_setRows

@[simp] theorem pieces_onRows : (s.onRows shadow f).2.pieces = s.pieces := pieces_setRows

@[simp] theorem pieces_putPiece_self : (s.putPiece .ok key data).pieces key = some data := by
  simp [putPiece]

theorem pieces_putPiece_of_ne (h : k ≠ key) : (s.putPiece p key data).pieces k = s.pieces k := by
  simp [putPiece, h]

variable {w : Write}

/-- Whatever comes of the insert of a row, the pieces stay, and a row that was there stays. -/
theorem setObjectIntegrity_cases {s' : Store Digest} {objectID : Nat} {redundancyIndex : Int}
    {row : IntegrityMeta Digest} {r : Except DbErr Unit}
    (h : s.setObjectIntegrity w objectID redundancyIndex row = (r, s')) : s'.pieces = s.pieces ∧
      (s'.integrity = s.integrity.set objectID redundancyIndex
          (some ((s.integrity objectID redundancyIndex).getD row)) ∨
        s'.integrity = s.integrity ∧ r = .error .fails) := by
  cases w with
  | ok =>
    cases h
    exact ⟨rfl, .inl rfl⟩
  | fails applied =>
    cases applied with
    | true =>
      cases h
      exact ⟨rfl, .inl rfl⟩
    | false =>
      cases h
      exact ⟨rfl, .inr ⟨rfl, rfl⟩⟩

end Store

end Piece

-- SUMMARY: The object and bucket rows of the block syncer, and its event handlers.
import MocaSP.Base.Table
import Mathlib.Data.List.Perm.Basic

/-!
# Rows of objects and buckets

For each event of a block the handlers make SQL statements, from the event and, for a
copied object, from the rows of the last committed block. The statements of the block are
then executed in the order of the events, in one transaction. Those of one event are the
entries of a Go map and are executed in any order.

`Updates` with a struct writes only the fields that are not zero. Names of buckets
are numbers here. Object rows are sharded by bucket, but an object id names an object in all
shards. A row also has an auto-increment id in its shard, which a copy takes over from its
source: the row of the copy is written over the one that has this id in the shard.
-/

namespace Blocksyncer
open Option Table

inductive ObjectStatus where
  | created | sealed | discontinued
  deriving DecidableEq

inductive BucketStatus where
  | created | discontinued | migrating
  deriving DecidableEq

inductive Visibility where
  | unspecified | publicRead | ownerOnly | inherited
  deriving DecidableEq

/-- The text of an enumerated value; the empty text is its zero value. -/
abbrev Text (α : Type) := Option α

structure ObjectColumns where
  payloadSize : Nat := 0
  version : Nat := 0
  checkSums : List Nat := []
  isUpdating : Bool := false
  visibility : Text Visibility := none
  status : Text ObjectStatus := none
  deriving DecidableEq

structure ObjectRow where
  objectID : Nat
  columns : ObjectColumns
  removed : Bool := false

structure BucketColumns where
  chargedReadQuota : Nat := 0
  paymentAddress : Nat := 0
  visibility : Text Visibility := none
  status : Text BucketStatus := none

structure BucketRow where
  bucketID : Nat
  bucketName : Nat
  columns : BucketColumns
  removed : Bool := false
  /-- NULL is none. -/
  storageSize : Option Int := some 0
  chargeSize : Option Int := some 0

/-- The rows under the ids of objects and buckets. -/
structure DB where
  objects : Nat → Option ObjectRow := fun _ => none
  buckets : Nat → Option BucketRow := fun _ => none
  /-- The shard for the objects of a bucket, by its name. -/
  shard : Nat → Nat
  /-- Where the row of an object was put: the shard and the auto-increment id. -/
  place : Nat → Option (Nat × Nat) := fun _ => none
  nextID : Nat → Nat := fun _ => 1

/-! ## Statements -/

def ObjectColumns.updates (old new : ObjectColumns) : ObjectColumns where
  payloadSize := written 0 old.payloadSize new.payloadSize
  version := written 0 old.version new.version
  checkSums := written [] old.checkSums new.checkSums
  isUpdating := written false old.isUpdating new.isUpdating
  visibility := written none old.visibility new.visibility
  status := written none old.status new.status

def BucketColumns.updates (old new : BucketColumns) : BucketColumns where
  chargedReadQuota := written 0 old.chargedReadQuota new.chargedReadQuota
  paymentAddress := written 0 old.paymentAddress new.paymentAddress
  visibility := written none old.visibility new.visibility
  status := written none old.status new.status

inductive SizeOp where
  | plus | minus

inductive Stmt where
  /-- Inserts the row, or replaces the one with its object id or its id; zero is a new id. -/
  | saveObject (bucketName id : Nat) (row : ObjectRow)
  | updateObject (row : ObjectRow)
  | updateStorageSize (objectID bucketName : Nat) (op : SizeOp)
  | updateChargeSize (objectID bucketName : Nat) (op : SizeOp)
  | saveBucket (row : BucketRow)
  | updateBucket (bucketID : Nat) (columns : BucketColumns) (removed : Bool)

variable (op : SizeOp)

/-- NULL makes the result NULL. -/
def SizeOp.apply (size amount : Option Int) : Option Int :=
  match size, amount, op with
  | some s, some a, .plus => some (s + a)
  | some s, some a, .minus => some (s - a)
  | _, _, _ => none

def chargeOf (payloadSize : Nat) : Nat := if payloadSize < 128000 then 128000 else payloadSize

def BucketRow.changeStorage (amount : Option Int) (b : BucketRow) : BucketRow :=
  { b with storageSize := op.apply b.storageSize amount }

def BucketRow.changeCharge (amount : Option Int) (b : BucketRow) : BucketRow :=
  { b with chargeSize := op.apply b.chargeSize amount }

variable (db : DB) (objectID : Nat)

namespace DB

/-- The payload size that a statement selects, of a removed row as well. -/
def payload : Option Nat := (db.objects objectID).map (·.columns.payloadSize)

def setObject (row : Option ObjectRow) : DB :=
  { db with objects := fun id => if id = objectID then row else db.objects id }

def saveObject (bucketName id : Nat) (row : ObjectRow) : DB :=
  let shard := db.shard bucketName
  let place := (shard, if id = 0 then db.nextID shard else id)
  { db with
    objects := fun objectID =>
      if objectID = row.objectID then some row
      else if id ≠ 0 ∧ db.place objectID = some place then none
      else db.objects objectID
    place := fun objectID => if objectID = row.objectID then some place else db.place objectID
    nextID := fun s => if s = shard then max (db.nextID s) (place.2 + 1) else db.nextID s }

def setBucket (bucketID : Nat) (row : Option BucketRow) : DB :=
  { db with buckets := fun id => if id = bucketID then row else db.buckets id }

/-- An update of each row with the name of the bucket, a removed one as well. -/
def updateNamed (name : Nat) (f : BucketRow → BucketRow) : DB :=
  { db with
    buckets := fun id => (db.buckets id).map fun b => if b.bucketName = name then f b else b }

def exec : Stmt → DB
  | .saveObject bucketName id row => db.saveObject bucketName id row
  | .updateObject row =>
    db.setObject row.objectID ((db.objects row.objectID).map fun old =>
      ⟨old.objectID, old.columns.updates row.columns, written false old.removed row.removed⟩)
  | .updateStorageSize id name op =>
    db.updateNamed name (·.changeStorage op ((db.payload id).map Int.ofNat))
  | .updateChargeSize id name op =>
    db.updateNamed name (·.changeCharge op ((db.payload id).map (Int.ofNat ∘ chargeOf)))
  | .saveBucket row => db.setBucket row.bucketID (some row)
  | .updateBucket id columns removed =>
    db.setBucket id ((db.buckets id).map fun b =>
      { b with columns := b.columns.updates columns, removed := written false b.removed removed })

def execAll (stmts : List Stmt) : DB := stmts.foldl exec db

/-- The columns of an object that is not removed. -/
def objectView : Option ObjectColumns :=
  ((db.objects objectID).filter (!·.removed)).map (·.columns)

/-- GetObject, with the id of the row: an error for an object that was never saved, and the zero
object for one without a row that is not removed. -/
def getObject : Option (ObjectColumns × Nat) :=
  (db.place objectID).map fun place => (db.objectView objectID).elim ({}, 0) (·, place.2)

end DB

/-! ## Handlers -/

/-- The entries of the map that a handler returns: the statements of each key. -/
abbrev Entries := List (List Stmt)

def handleCreateObject (id bucketName payloadSize : Nat) (visibility : Visibility)
    (status : ObjectStatus) (checksums : List Nat) : Entries :=
  [[.saveObject bucketName 0
    { objectID := id
      columns := {
        payloadSize
        visibility := some visibility
        status := some status
        checkSums := checksums } }]]

def handleSealObject (id bucketName : Nat) (status : ObjectStatus) (checksums : List Nat) :
    Entries :=
  [[.updateStorageSize id bucketName .plus],
   [.updateChargeSize id bucketName .plus],
   [.updateObject ⟨id, { status := some status, checkSums := checksums }, false⟩]]

variable (id : Nat)

def handleCancelCreateObject : Entries := [[.updateObject ⟨id, {}, true⟩]]

def newStatus (payloadSize : Nat) : ObjectStatus := if payloadSize = 0 then .sealed else .created

/-- The entries for the copy of an object with the columns and the id of its row. -/
def copyEntries (dst dstBucketName : Nat) (source : ObjectColumns × Nat) : Entries :=
  [.saveObject dstBucketName source.2
    ⟨dst, { source.1 with status := some (newStatus source.1.payloadSize) }, false⟩] ::
    (if source.1.payloadSize = 0 then [[.updateChargeSize dst dstBucketName .plus]] else [])

/-- An error if the source object is not found. -/
def handleCopyObject (src dst dstBucketName : Nat) : Option Entries :=
  (db.getObject src).map (copyEntries dst dstBucketName)

def handleDeleteObject (id bucketName : Nat) : Entries :=
  [[.updateStorageSize id bucketName .minus],
   [.updateChargeSize id bucketName .minus],
   [.updateObject ⟨id, {}, true⟩]]

def handleRejectSealObject (forUpdate : Bool) : Entries :=
  if forUpdate then [[.updateObject ⟨id, { isUpdating := false }, false⟩]]
  else [[.updateObject ⟨id, {}, true⟩]]

def handleEventDiscontinueObject : Entries :=
  [[.updateObject ⟨id, { status := some .discontinued }, false⟩]]

def handleUpdateObjectInfo (visibility : Visibility) : Entries :=
  [[.updateObject ⟨id, { visibility := some visibility }, false⟩]]

def handleUpdateObjectContent : Entries := [[.updateObject ⟨id, { isUpdating := true }, false⟩]]

/-- The three statements are joined under one key. -/
def handleUpdateObjectContentSuccess (id bucketName newPayloadSize : Nat) (newChecksums : List Nat)
    (version : Nat) : Entries :=
  [[.updateStorageSize id bucketName .minus,
    .updateChargeSize id bucketName .minus,
    .updateObject
      { objectID := id
        columns := {
          isUpdating := false
          payloadSize := newPayloadSize
          checkSums := newChecksums
          version } }]]

def handleCancelUpdateObjectContent : Entries :=
  [[.updateObject ⟨id, { isUpdating := false }, false⟩]]

def handleCreateBucket (id name chargedReadQuota paymentAddress : Nat) (visibility : Visibility)
    (status : BucketStatus) : Entries :=
  [[.saveBucket
    { bucketID := id
      bucketName := name
      columns := {
        chargedReadQuota
        paymentAddress
        visibility := some visibility
        status := some status } }]]

def handleDeleteBucket : Entries := [[.updateBucket id {} true]]

def handleUpdateBucketInfo (id chargedReadQuota paymentAddress : Nat) (visibility : Visibility) :
    Entries :=
  [[.updateBucket id { chargedReadQuota, paymentAddress, visibility := some visibility } false]]

variable (status : BucketStatus)

def handleBucketStatus : Entries := [[.updateBucket id { status := some status } false]]

def handleDiscontinueBucket : Entries := handleBucketStatus id .discontinued

def handleEventMigrationBucket : Entries := handleBucketStatus id status

def handleEventCancelMigrationBucket : Entries := handleBucketStatus id status

def handleEventRejectMigrateBucket : Entries := handleBucketStatus id status

def handleCompleteMigrationBucket : Entries := handleBucketStatus id status

inductive Event where
  | createObject (id bucketName payloadSize : Nat) (visibility : Visibility)
      (status : ObjectStatus) (checksums : List Nat)
  | cancelCreateObject (id : Nat)
  | sealObject (id bucketName : Nat) (status : ObjectStatus) (checksums : List Nat)
  | copyObject (src dst dstBucketName : Nat)
  | deleteObject (id bucketName : Nat)
  | rejectSealObject (id : Nat) (forUpdate : Bool)
  | discontinueObject (id : Nat)
  | updateObjectInfo (id : Nat) (visibility : Visibility)
  | updateObjectContent (id : Nat)
  | updateObjectContentSuccess (id bucketName newPayloadSize : Nat) (newChecksums : List Nat)
      (version : Nat)
  | cancelUpdateObjectContent (id : Nat)
  | createBucket (id name chargedReadQuota paymentAddress : Nat) (visibility : Visibility)
      (status : BucketStatus)
  | deleteBucket (id : Nat)
  | updateBucketInfo (id chargedReadQuota paymentAddress : Nat) (visibility : Visibility)
  | discontinueBucket (id : Nat)
  | migrationBucket (id : Nat) (status : BucketStatus)
  | cancelMigrationBucket (id : Nat) (status : BucketStatus)
  | rejectMigrateBucket (id : Nat) (status : BucketStatus)
  | completeMigrationBucket (id : Nat) (status : BucketStatus)

/-- ExtractEventStatements, with the rows that are committed. -/
def extractEventStatements : Event → Option Entries
  | .createObject id name payload visibility status checksums =>
    some (handleCreateObject id name payload visibility status checksums)
  | .cancelCreateObject id => some (handleCancelCreateObject id)
  | .sealObject id name status checksums => some (handleSealObject id name status checksums)
  | .copyObject src dst name => handleCopyObject db src dst name
  | .deleteObject id name => some (handleDeleteObject id name)
  | .rejectSealObject id forUpdate => some (handleRejectSealObject id forUpdate)
  | .discontinueObject id => some (handleEventDiscontinueObject id)
  | .updateObjectInfo id visibility => some (handleUpdateObjectInfo id visibility)
  | .updateObjectContent id => some (handleUpdateObjectContent id)
  | .updateObjectContentSuccess id name payload checksums version =>
    some (handleUpdateObjectContentSuccess id name payload checksums version)
  | .cancelUpdateObjectContent id => some (handleCancelUpdateObjectContent id)
  | .createBucket id name quota payment visibility status =>
    some (handleCreateBucket id name quota payment visibility status)
  | .deleteBucket id => some (handleDeleteBucket id)
  | .updateBucketInfo id quota payment visibility =>
    some (handleUpdateBucketInfo id quota payment visibility)
  | .discontinueBucket id => some (handleDiscontinueBucket id)
  | .migrationBucket id status => some (handleEventMigrationBucket id status)
  | .cancelMigrationBucket id status => some (handleEventCancelMigrationBucket id status)
  | .rejectMigrateBucket id status => some (handleEventRejectMigrateBucket id status)
  | .completeMigrationBucket id status => some (handleCompleteMigrationBucket id status)

/-- The statements of the events, made from the committed rows, take the second database to the
third one. -/
inductive Applies (committed : DB) : List Event → DB → DB → Prop where
  | nil {db : DB} : Applies committed [] db db
  | cons {e : Event} {es : List Event} {entries order : Entries} {db db' : DB}
      (extracted : extractEventStatements committed e = some entries) (perm : order.Perm entries)
      (rest : Applies committed es (db.execAll order.flatten) db') :
      Applies committed (e :: es) db db'

/-- The events with the statements of each one in the order of its handler. -/
def DB.process (committed : DB) : List Event → DB → Option DB
  | [], db => some db
  | e :: es, db => (extractEventStatements committed e).bind fun entries =>
      committed.process es (db.execAll entries.flatten)

variable {committed db' : DB} {es : List Event} {row : ObjectRow} {e : Event}

theorem Applies.of_process {db : DB} (h : committed.process es db = some db') :
    Applies committed es db db' := by
  induction es generalizing db with
  | nil =>
    cases h
    exact .nil
  | cons _ _ ih =>
    obtain ⟨_, hextract, h⟩ := bind_eq_some_iff.mp h
    exact .cons hextract (.refl _) (ih h)

/-! ## The columns of live rows -/

namespace DB

/-- No object that is not removed has its row under the id in the shard of the bucket. -/
def Free (bucketName rowID : Nat) : Prop :=
  rowID = 0 ∨ ∀ id, (db.objectView id).isSome → db.place id ≠ some (db.shard bucketName, rowID)

def bucketView : Option BucketColumns := ((db.buckets id).filter (!·.removed)).map (·.columns)

variable (db : DB) (id : Nat)

theorem objectView_saveObject (name rowID : Nat) (row : ObjectRow) :
    (db.exec (.saveObject name rowID row)).objectView id =
      if id = row.objectID then (if row.removed then none else some row.columns)
      else if rowID ≠ 0 ∧ db.place id = some (db.shard name, rowID) then none
      else db.objectView id := by
  by_cases h : id = row.objectID
  · cases hr : row.removed <;> simp [objectView, exec, saveObject, h, hr, Option.filter]
  · by_cases hid : rowID = 0
    · simp [objectView, exec, saveObject, h, hid]
    · by_cases hplace : db.place id = some (db.shard name, rowID)
      all_goals simp [objectView, exec, saveObject, h, hid, hplace]

variable {db id} in
/-- An object is saved where it takes the row of no other. -/
theorem Free.objectView_saveObject {name rowID : Nat} (hfree : db.Free name rowID) (row : ObjectRow) :
    (db.exec (.saveObject name rowID row)).objectView id =
      if id = row.objectID then (if row.removed then none else some row.columns)
      else db.objectView id := by
  rw [DB.objectView_saveObject]
  refine congrArg (ite _ _) ?_
  split
  next htaken =>
    cases hview : db.objectView id with
    | none => rfl
    | some => exact absurd htaken.2 (hfree.resolve_left htaken.1 id (by rw [hview]; rfl))
  · rfl

@[simp] theorem objectView_updateObject (row : ObjectRow) :
    (db.exec (.updateObject row)).objectView id =
      if id = row.objectID then
        (if row.removed then none else (db.objectView id).map (·.updates row.columns))
      else db.objectView id := by
  by_cases h : id = row.objectID
  · subst h
    cases hold : db.objects row.objectID with
    | none => simp [objectView, exec, setObject, hold]
    | some old =>
      cases hr : row.removed <;> cases ho : old.removed <;>
        simp [objectView, exec, setObject, hold, hr, ho, written, Option.filter]
  · simp [objectView, exec, setObject, h]

@[simp] theorem objectView_updateSizes (objectID name : Nat) (op : SizeOp) :
    (db.exec (.updateStorageSize objectID name op)).objectView id = db.objectView id ∧
      (db.exec (.updateChargeSize objectID name op)).objectView id = db.objectView id :=
  ⟨rfl, rfl⟩

/-- An update that keeps the columns of buckets and their removal does not show. -/
theorem bucketView_updateNamed (name : Nat) {f : BucketRow → BucketRow}
    (hcolumns : ∀ b, (f b).columns = b.columns) (hremoved : ∀ b, (f b).removed = b.removed) :
    (db.updateNamed name f).bucketView id = db.bucketView id := by
  cases hb : db.buckets id with
  | none => simp [bucketView, updateNamed, hb]
  | some b =>
    by_cases hname : b.bucketName = name
    · cases hr : b.removed <;>
        simp [bucketView, updateNamed, hb, hname, hr, hcolumns, hremoved, Option.filter]
    · simp [bucketView, updateNamed, hb, hname]

@[simp] theorem bucketView_updateSizes (objectID name : Nat) (op : SizeOp) :
    (db.exec (.updateStorageSize objectID name op)).bucketView id = db.bucketView id ∧
      (db.exec (.updateChargeSize objectID name op)).bucketView id = db.bucketView id := by
  constructor <;> exact bucketView_updateNamed db id name (fun _ => rfl) (fun _ => rfl)

@[simp] theorem bucketView_object (name rowID : Nat) (row : ObjectRow) :
    (db.exec (.saveObject name rowID row)).bucketView id = db.bucketView id ∧
      (db.exec (.updateObject row)).bucketView id = db.bucketView id :=
  ⟨rfl, rfl⟩

@[simp] theorem bucketView_saveBucket (row : BucketRow) :
    (db.exec (.saveBucket row)).bucketView id =
      if id = row.bucketID then (if row.removed then none else some row.columns)
      else db.bucketView id := by
  by_cases h : id = row.bucketID
  · cases hr : row.removed <;> simp [bucketView, exec, setBucket, h, hr, Option.filter]
  · simp [bucketView, exec, setBucket, h]

@[simp] theorem bucketView_updateBucket (bucketID : Nat) (columns : BucketColumns) (removed : Bool) :
    (db.exec (.updateBucket bucketID columns removed)).bucketView id =
      if id = bucketID then
        (if removed then none else (db.bucketView id).map (·.updates columns))
      else db.bucketView id := by
  by_cases h : id = bucketID
  · subst h
    cases hold : db.buckets id with
    | none => simp [bucketView, exec, setBucket, hold]
    | some old =>
      cases removed <;> cases ho : old.removed <;>
        simp [bucketView, exec, setBucket, hold, ho, written, Option.filter]
  · simp [bucketView, exec, setBucket, h]

end DB

/-! ## The order of an event's statements -/

namespace DB

variable (db : DB)

theorem exec_storage_charge (id name : Nat) (op : SizeOp) :
    (db.exec (.updateStorageSize id name op)).exec (.updateChargeSize id name op) =
      (db.exec (.updateChargeSize id name op)).exec (.updateStorageSize id name op) := by
  simp only [exec, updateNamed, payload, map_map]
  congr 1
  funext bucketID
  congr 1
  funext b
  by_cases hname : b.bucketName = name
  · simp [hname, BucketRow.changeStorage, BucketRow.changeCharge]
  · simp [hname]

variable (hrow : row.columns.payloadSize = 0)
include hrow

/-- An update without a payload size keeps the one that is selected. -/
theorem payload_updateObject (id : Nat) :
    (db.exec (.updateObject row)).payload id = db.payload id := by
  by_cases h : id = row.objectID
  · simp [payload, exec, setObject, h, Function.comp_def, ObjectColumns.updates, written, hrow]
  · simp [payload, exec, setObject, h]

theorem exec_storage_update (id name : Nat) (op : SizeOp) :
    (db.exec (.updateStorageSize id name op)).exec (.updateObject row) =
      (db.exec (.updateObject row)).exec (.updateStorageSize id name op) :=
  congrArg (fun p : Option Nat => (db.exec (.updateObject row)).updateNamed name
    (·.changeStorage op (p.map Int.ofNat))) (payload_updateObject db hrow id).symm

theorem exec_charge_update (id name : Nat) (op : SizeOp) :
    (db.exec (.updateChargeSize id name op)).exec (.updateObject row) =
      (db.exec (.updateObject row)).exec (.updateChargeSize id name op) :=
  congrArg (fun p : Option Nat => (db.exec (.updateObject row)).updateNamed name
    (·.changeCharge op (p.map (Int.ofNat ∘ chargeOf)))) (payload_updateObject db hrow id).symm

/-- The two size statements and an update without a payload size can be executed in any order. -/
theorem execAll_sized {id name : Nat} {op : SizeOp} {order : Entries}
    (h : order.Perm [[.updateStorageSize id name op], [.updateChargeSize id name op],
      [.updateObject row]]) :
    db.execAll order.flatten =
      db.execAll [.updateStorageSize id name op, .updateChargeSize id name op, .updateObject row] := by
  refine h.flatten.foldl_eq' (fun s hs t ht z => ?_) db
  have hs : s ∈ [.updateStorageSize id name op, .updateChargeSize id name op, .updateObject row] :=
    h.flatten.mem_iff.mp hs
  have ht : t ∈ [.updateStorageSize id name op, .updateChargeSize id name op, .updateObject row] :=
    h.flatten.mem_iff.mp ht
  simp only [List.mem_cons, List.not_mem_nil, or_false] at hs ht
  rcases hs with rfl | rfl | rfl <;> rcases ht with rfl | rfl | rfl
  · rfl
  · exact exec_storage_charge z id name op
  · exact exec_storage_update z hrow id name op
  · exact (exec_storage_charge z id name op).symm
  · rfl
  · exact exec_charge_update z hrow id name op
  · exact (exec_storage_update z hrow id name op).symm
  · exact (exec_charge_update z hrow id name op).symm
  · rfl

end DB

namespace Applies

theorem append {db : DB} {fs : List Event} (h : Applies committed (es ++ fs) db db') :
    ∃ mid, Applies committed es db mid ∧ Applies committed fs mid db' := by
  induction es generalizing db with
  | nil => exact ⟨db, .nil, h⟩
  | cons _ _ ih =>
    cases h with
    | cons extracted perm rest =>
      obtain ⟨mid, hes, hfs⟩ := ih rest
      exact ⟨mid, .cons extracted perm hes, hfs⟩

theorem uncons {db : DB} (h : Applies committed (e :: es) db db') :
    ∃ mid, Applies committed [e] db mid ∧ Applies committed es mid db' := by
  cases h with
  | cons extracted perm rest => exact ⟨_, .cons extracted perm .nil, rest⟩

theorem one {db : DB} (h : Applies committed [e] db db') :
    ∃ entries order : Entries, extractEventStatements committed e = some entries ∧
      order.Perm entries ∧ db' = db.execAll order.flatten := by
  cases h with
  | cons extracted perm rest =>
    cases rest
    exact ⟨_, _, extracted, perm, rfl⟩

/-- An event with one entry. -/
theorem entry {db : DB} {stmts : List Stmt} (h : Applies committed [e] db db')
    (he : extractEventStatements committed e = some [stmts]) : db' = db.execAll stmts := by
  obtain ⟨_, _, hextract, hperm, rfl⟩ := h.one
  rw [he] at hextract
  cases hextract
  rw [List.perm_singleton.mp hperm]
  simp

/-- An event with the two size statements and an update. -/
theorem sized {db : DB} {id name : Nat} {op : SizeOp} (h : Applies committed [e] db db')
    (he : extractEventStatements committed e = some [[.updateStorageSize id name op],
      [.updateChargeSize id name op], [.updateObject row]]) (hrow : row.columns.payloadSize = 0) :
    db' = db.execAll
      [.updateStorageSize id name op, .updateChargeSize id name op, .updateObject row] := by
  obtain ⟨_, _, hextract, hperm, rfl⟩ := h.one
  rw [he] at hextract
  cases hextract
  exact db.execAll_sized hrow hperm

end Applies

end Blocksyncer

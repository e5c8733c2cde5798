-- SUMMARY: What the chain does to objects and buckets.
import MocaSP.Blocksyncer.Rows

/-!
# Objects and buckets on chain

The chain's own rules for the messages whose events the block syncer handles. An
object is created or copied into a bucket, sealed, updated, discontinued and
deleted; an empty object is sealed when it is created. When an update is sealed,
`EventUpdateObjectContentSuccess` is emitted before `EventSealObject`. Ids are not
used again.
-/

namespace Blocksyncer
open List Option Table

structure ChainObject where
  id : Nat
  bucketID : Nat
  bucketName : Nat
  columns : ObjectColumns
  /-- The object is sealed, or was before it was discontinued. -/
  stored : Bool
  deriving DecidableEq

def ChainObject.seal (o : ChainObject) : ChainObject :=
  { o with columns := { o.columns with status := some .sealed }, stored := true }

/-- A created object is not stored, and a sealed one is. -/
def ChainObject.StatusOk (o : ChainObject) : Prop :=
  (o.columns.status = some .created → o.stored = false) ∧
  (o.columns.status = some .sealed → o.stored = true)

structure ChainBucket where
  id : Nat
  name : Nat
  columns : BucketColumns

structure Chain where
  objects : List ChainObject := []
  buckets : List ChainBucket := []
  nextObjectID : Nat := 1
  nextBucketID : Nat := 1
  /-- The names of buckets that were deleted, which no message reads. -/
  formerNames : List Nat := []

inductive Act where
  | createObject (bucketID payloadSize : Nat) (visibility : Visibility) (checksums : List Nat)
  | copyObject (src bucketID : Nat) (visibility : Visibility)
  | sealObject (id : Nat)
  | cancelCreateObject (id : Nat)
  | rejectSealObject (id : Nat)
  | updateObjectInfo (id : Nat) (visibility : Visibility)
  | updateObjectContent (id : Nat)
  | sealUpdate (id payloadSize : Nat) (checksums : List Nat)
  | cancelUpdateObjectContent (id : Nat)
  | rejectUpdate (id : Nat)
  | deleteObject (id : Nat)
  | discontinueObject (id : Nat)
  | createBucket (name chargedReadQuota paymentAddress : Nat) (visibility : Visibility)
  | updateBucketInfo (id chargedReadQuota paymentAddress : Nat) (visibility : Visibility)
  | deleteBucket (id : Nat)
  | discontinueBucket (id : Nat)
  | migrateBucket (id : Nat)
  | cancelMigrateBucket (id : Nat)
  | rejectMigrateBucket (id : Nat)
  | completeMigrateBucket (id : Nat)

variable {a : Act}

variable (c : Chain) (id : Nat)

namespace Chain

def object? : Option ChainObject := c.objects.find? (·.id = id)

def bucket? : Option ChainBucket := c.buckets.find? (·.id = id)

def addObject (b : ChainBucket) (columns : ObjectColumns) (stored : Bool) : Chain :=
  { c with
    objects := c.objects ++ [⟨c.nextObjectID, b.id, b.name, columns, stored⟩]
    nextObjectID := c.nextObjectID + 1 }

def setObject (f : ChainObject → ChainObject) : Chain :=
  { c with objects := c.objects.map fun o => if o.id = id then f o else o }

def removeObject : Chain := { c with objects := c.objects.filter (·.id ≠ id) }

def addBucket (name : Nat) (columns : BucketColumns) : Chain :=
  { c with
    buckets := c.buckets ++ [⟨c.nextBucketID, name, columns⟩]
    nextBucketID := c.nextBucketID + 1 }

def removeBucket : Chain :=
  { c with
    buckets := c.buckets.filter (·.id ≠ id)
    formerNames := (c.buckets.filter (·.id = id)).map (·.name) ++ c.formerNames }

def setBucket (f : BucketColumns → BucketColumns) : Chain :=
  { c with buckets := c.buckets.map fun b => if b.id = id then { b with columns := f b.columns } else b }

def setColumns (f : ObjectColumns → ObjectColumns) : Chain :=
  c.setObject id fun o => { o with columns := f o.columns }

/-- An object that is there and meets the condition. -/
def objectIf (q : ChainObject → Bool) : Option ChainObject := (c.object? id).filter q

/-- The new state and the events, if the message is accepted. -/
def step : Act → Option (Chain × List Event)
  | .createObject bucketID payloadSize visibility checksums =>
    (c.bucket? bucketID).map fun b =>
      let status := newStatus payloadSize
      (c.addObject b
        { payloadSize, checkSums := checksums, visibility := some visibility, status := some status }
        (payloadSize = 0),
        [.createObject c.nextObjectID b.name payloadSize visibility status checksums])
  | .copyObject src bucketID visibility =>
    (c.bucket? bucketID).bind fun b => (c.object? src).map fun o =>
      (c.addObject b
        { payloadSize := o.columns.payloadSize
          checkSums := o.columns.checkSums
          visibility := some visibility
          status := some (newStatus o.columns.payloadSize) }
        (o.columns.payloadSize = 0),
        [.copyObject src c.nextObjectID b.name])
  | .sealObject id =>
    (c.objectIf id (·.columns.status = some .created)).map fun o =>
      (c.setObject id ChainObject.seal, [.sealObject id o.bucketName .sealed o.columns.checkSums])
  | .cancelCreateObject id =>
    (c.objectIf id (·.columns.status = some .created)).map fun _ =>
      (c.removeObject id, [.cancelCreateObject id])
  | .rejectSealObject id =>
    (c.objectIf id (·.columns.status = some .created)).map fun _ =>
      (c.removeObject id, [.rejectSealObject id false])
  | .updateObjectInfo id visibility =>
    (c.object? id).map fun _ =>
      (c.setColumns id fun o => { o with visibility := some visibility },
        [.updateObjectInfo id visibility])
  | .updateObjectContent id =>
    (c.objectIf id fun o => o.columns.status = some .sealed && !o.columns.isUpdating).map fun _ =>
      (c.setColumns id fun o => { o with isUpdating := true }, [.updateObjectContent id])
  | .sealUpdate id payloadSize checksums =>
    (c.objectIf id fun o => o.columns.status = some .sealed && o.columns.isUpdating).map fun o =>
      (c.setColumns id fun o =>
          { o with
            isUpdating := false, payloadSize, checkSums := checksums, version := o.version + 1 },
        [.updateObjectContentSuccess id o.bucketName payloadSize checksums (o.columns.version + 1),
         .sealObject id o.bucketName .sealed checksums])
  | .cancelUpdateObjectContent id =>
    (c.objectIf id (·.columns.isUpdating)).map fun _ =>
      (c.setColumns id fun o => { o with isUpdating := false }, [.cancelUpdateObjectContent id])
  | .rejectUpdate id =>
    (c.objectIf id (·.columns.isUpdating)).map fun _ =>
      (c.setColumns id fun o => { o with isUpdating := false }, [.rejectSealObject id true])
  | .deleteObject id =>
    (c.objectIf id (·.columns.status ≠ some .created)).map fun o =>
      (c.removeObject id, [.deleteObject id o.bucketName])
  | .discontinueObject id =>
    (c.objectIf id (·.columns.status ≠ some .discontinued)).map fun _ =>
      (c.setColumns id fun o => { o with status := some .discontinued }, [.discontinueObject id])
  | .createBucket name chargedReadQuota paymentAddress visibility =>
    if name ∈ c.buckets.map (·.name) then none
    else some
      (c.addBucket name
          { chargedReadQuota
            paymentAddress
            visibility := some visibility
            status := some .created },
        [.createBucket c.nextBucketID name chargedReadQuota paymentAddress visibility .created])
  | .updateBucketInfo id chargedReadQuota paymentAddress visibility =>
    (c.bucket? id).map fun _ =>
      (c.setBucket id fun b =>
          { b with chargedReadQuota, paymentAddress, visibility := some visibility },
        [.updateBucketInfo id chargedReadQuota paymentAddress visibility])
  | .deleteBucket id =>
    if id ∈ c.objects.map (·.bucketID) then none
    else (c.bucket? id).map fun _ => (c.removeBucket id, [.deleteBucket id])
  | .discontinueBucket id =>
    (c.bucket? id).map fun _ =>
      (c.setBucket id fun b => { b with status := some .discontinued }, [.discontinueBucket id])
  | .migrateBucket id =>
    (c.bucket? id).map fun _ =>
      (c.setBucket id fun b => { b with status := some .migrating },
        [.migrationBucket id .migrating])
  | .cancelMigrateBucket id =>
    (c.bucket? id).map fun _ =>
      (c.setBucket id fun b => { b with status := some .created },
        [.cancelMigrationBucket id .created])
  | .rejectMigrateBucket id =>
    (c.bucket? id).map fun _ =>
      (c.setBucket id fun b => { b with status := some .created },
        [.rejectMigrateBucket id .created])
  | .completeMigrateBucket id =>
    (c.bucket? id).map fun _ =>
      (c.setBucket id fun b => { b with status := some .created },
        [.completeMigrationBucket id .created])

/-- New ids are not in use. -/
structure WellFormed (c : Chain) : Prop where
  objects : ∀ o ∈ c.objects, o.id < c.nextObjectID
  buckets : ∀ b ∈ c.buckets, b.id < c.nextBucketID

/-! ## Columns -/

def objectView : Option ObjectColumns := (c.object? id).map (·.columns)

def bucketView : Option BucketColumns := (c.bucket? id).map (·.columns)

section

variable {c : Chain} {id id' : Nat}

theorem object?_id {o : ChainObject} (h : c.object? id = some o) : o.id = id := by
  have hid := List.find?_some h
  exact of_decide_eq_true hid

variable {f : ChainObject → ChainObject}

variable {columns : ObjectColumns}

theorem objectView_setObject {g : ObjectColumns → ObjectColumns} (hid : ∀ o, (f o).id = o.id)
    (hcolumns : ∀ o, (f o).columns = g o.columns) : (c.setObject id f).objectView id' =
      if id' = id then (c.objectView id').map g else c.objectView id' := by
  rw [objectView, object?, setObject, find?_update hid]
  split <;> simp [objectView, object?, Function.comp_def, hcolumns]

theorem objectView_seal : (c.setObject id ChainObject.seal).objectView id' =
      if id' = id then (c.objectView id').map fun o => { o with status := some .sealed }
      else c.objectView id' :=
  objectView_setObject (fun _ => rfl) (fun _ => rfl)

theorem objectView_setColumns {f : ObjectColumns → ObjectColumns} :
    (c.setColumns id f).objectView id' =
      if id' = id then (c.objectView id').map f else c.objectView id' :=
  objectView_setObject (fun _ => rfl) (fun _ => rfl)

theorem objectView_removeObject :
    (c.removeObject id).objectView id' = if id' = id then none else c.objectView id' := by
  rw [objectView, show (c.removeObject id).object? id' = _ from find?_erase]
  split <;> rfl

theorem objectView_addObject (hwf : c.WellFormed) {b : ChainBucket} {stored : Bool} :
    (c.addObject b columns stored).objectView id =
      if id = c.nextObjectID then some columns else c.objectView id := by
  have hfind : (c.addObject b columns stored).object? id = _ := find?_append_new fun hmem => by
    obtain ⟨o, ho, heq⟩ := mem_map.mp hmem
    exact (hwf.objects o ho).ne heq
  rw [objectView, hfind]
  split <;> rfl

theorem objectView_next (hwf : c.WellFormed) : c.objectView c.nextObjectID = none := by
  refine map_eq_none_iff.mpr (List.find?_eq_none.mpr fun o ho heq => ?_)
  exact (hwf.objects o ho).ne (of_decide_eq_true heq)

theorem bucketView_setBucket {f : BucketColumns → BucketColumns} :
    (c.setBucket id f).bucketView id' =
      if id' = id then (c.bucketView id').map f else c.bucketView id' := by
  have hfind : (c.setBucket id f).bucket? id' =
      if id' = id then (c.bucket? id').map fun b => { b with columns := f b.columns }
      else c.bucket? id' :=
    find?_update fun _ => rfl
  rw [bucketView, hfind]
  split <;> simp [bucketView, Function.comp_def]

theorem bucketView_removeBucket :
    (c.removeBucket id).bucketView id' = if id' = id then none else c.bucketView id' := by
  have hfind : (c.removeBucket id).bucket? id' = if id' = id then none else c.bucket? id' :=
    find?_erase
  rw [bucketView, hfind]
  split <;> rfl

theorem bucketView_addBucket (hwf : c.WellFormed) {name : Nat} {columns : BucketColumns} :
    (c.addBucket name columns).bucketView id =
      if id = c.nextBucketID then some columns else c.bucketView id := by
  have hfind : (c.addBucket name columns).bucket? id =
      if id = c.nextBucketID then some ⟨c.nextBucketID, name, columns⟩ else c.bucket? id := by
    refine find?_append_new fun hmem => ?_
    obtain ⟨b, hb, heq⟩ := mem_map.mp hmem
    exact (hwf.buckets b hb).ne heq
  rw [bucketView, hfind]
  split <;> rfl

theorem newStatus_ok {o : ChainObject} {payloadSize : Nat}
    (hstatus : o.columns.status = some (newStatus payloadSize))
    (hstored : o.stored = decide (payloadSize = 0)) : o.StatusOk := by
  by_cases h : payloadSize = 0
  all_goals simp [ChainObject.StatusOk, hstatus, hstored, newStatus, h]

/-- What an act does to the objects and buckets. -/
theorem step_cases {c' : Chain} {events : List Event} (h : c.step a = some (c', events)) :
    (∃ id f, c' = c.setObject id f ∧ ∀ o, (f o).id = o.id ∧ (f o).bucketID = o.bucketID ∧
      (f o).bucketName = o.bucketName ∧ (o.StatusOk → (f o).StatusOk)) ∨
    (∃ id, c' = c.removeObject id) ∨
    (∃ b ∈ c.buckets, ∃ columns stored, c' = c.addObject b columns stored ∧
      ChainObject.StatusOk ⟨c.nextObjectID, b.id, b.name, columns, stored⟩) ∨
    (∃ id f, c' = c.setBucket id f) ∨
    (∃ name columns, name ∉ c.buckets.map (·.name) ∧ c' = c.addBucket name columns) ∨
    (∃ id, id ∉ c.objects.map (·.bucketID) ∧ c' = c.removeBucket id) := by
  cases a with
  | createObject =>
    obtain ⟨b, hb, ⟨⟩⟩ := map_eq_some_iff.mp h
    exact .inr (.inr (.inl ⟨b, mem_of_find?_eq_some hb, _, _, rfl, newStatus_ok rfl rfl⟩))
  | copyObject =>
    obtain ⟨b, hb, h⟩ := bind_eq_some_iff.mp h
    obtain ⟨_, -, ⟨⟩⟩ := map_eq_some_iff.mp h
    exact .inr (.inr (.inl ⟨b, mem_of_find?_eq_some hb, _, _, rfl, newStatus_ok rfl rfl⟩))
  | sealObject id | discontinueObject id =>
    obtain ⟨o, -, ⟨⟩⟩ := map_eq_some_iff.mp h
    exact .inl ⟨id, _, rfl, fun o => ⟨rfl, rfl, rfl, fun _ => by
      simp [ChainObject.StatusOk, ChainObject.seal]⟩⟩
  | updateObjectInfo id | updateObjectContent id | sealUpdate id
  | cancelUpdateObjectContent id | rejectUpdate id =>
    obtain ⟨o, -, ⟨⟩⟩ := map_eq_some_iff.mp h
    exact .inl ⟨id, _, rfl, fun o => ⟨rfl, rfl, rfl, fun hok => hok⟩⟩
  | cancelCreateObject id | rejectSealObject id | deleteObject id =>
    obtain ⟨_, -, ⟨⟩⟩ := map_eq_some_iff.mp h
    exact .inr (.inl ⟨id, rfl⟩)
  | createBucket name =>
    obtain ⟨hname, ⟨⟩⟩ := ite_none_left_eq_some.mp h
    exact .inr (.inr (.inr (.inr (.inl ⟨name, _, hname, rfl⟩))))
  | deleteBucket id =>
    obtain ⟨hid, h⟩ := ite_none_left_eq_some.mp h
    obtain ⟨_, -, ⟨⟩⟩ := map_eq_some_iff.mp h
    exact .inr (.inr (.inr (.inr (.inr ⟨id, hid, rfl⟩))))
  | updateBucketInfo id | discontinueBucket id | migrateBucket id | cancelMigrateBucket id
  | rejectMigrateBucket id | completeMigrateBucket id =>
    obtain ⟨_, -, ⟨⟩⟩ := map_eq_some_iff.mp h
    exact .inr (.inr (.inr (.inl ⟨id, _, rfl⟩)))

theorem WellFormed.step (hwf : c.WellFormed) {c' : Chain} {events : List Event}
    (h : c.step a = some (c', events)) : c'.WellFormed := by
  obtain ⟨hobjects, hbuckets⟩ := hwf
  rcases step_cases h with ⟨id, f, rfl, hf⟩ | ⟨id, rfl⟩ | ⟨b, -, columns, _, rfl, -⟩ |
    ⟨id, f, rfl⟩ | ⟨name, columns, -, rfl⟩ | ⟨id, -, rfl⟩
  · refine ⟨forall_update (fun o ho _ => ?_) fun o ho _ => hobjects o ho, hbuckets⟩
    rw [(hf o).1]
    exact hobjects o ho
  · exact ⟨fun o ho => hobjects o (mem_of_mem_filter ho), hbuckets⟩
  · refine ⟨fun o ho => ?_, hbuckets⟩
    rcases mem_append.mp ho with ho | ho
    · exact (hobjects o ho).trans .refl
    · rw [mem_singleton.mp ho]
      exact .refl
  · exact ⟨hobjects, forall_update (fun b hb _ => hbuckets b hb) fun b hb _ => hbuckets b hb⟩
  · refine ⟨hobjects, fun b hb => ?_⟩
    rcases mem_append.mp hb with hb | hb
    · exact (hbuckets b hb).trans .refl
    · rw [mem_singleton.mp hb]
      exact .refl
  · exact ⟨hobjects, fun b hb => hbuckets b (mem_of_mem_filter hb)⟩

end

end Chain

/-! ## Blocks -/

structure World where
  chain : Chain
  db : DB

/-- The acts of a block, each of which meets the condition. The events of an act are executed on the
rows, with statements that are made from the rows before the block. -/
inductive Acts (Meets : World → World → Act → Prop) (before : World) :
    List Act → World → World → Prop where
  | nil {w : World} : Acts Meets before [] w w
  | cons {a : Act} {as : List Act} {c c' : Chain} {db db' : DB} {events : List Event} {w : World}
      (meets : Meets before ⟨c, db⟩ a) (step : c.step a = some (c', events))
      (applies : Applies before.db events db db') (rest : Acts Meets before as ⟨c', db'⟩ w) :
      Acts Meets before (a :: as) ⟨c, db⟩ w

/-- The block is committed. -/
def Block (acts : List Act) (w w' : World) : Prop := Acts (fun _ _ _ => True) w acts w w'

/-- The acts with the statements of each event in the order of its handler. -/
def World.acts (before : World) : List Act → World → Option World
  | [], w => some w
  | a :: as, w => (w.chain.step a).bind fun r =>
      (before.db.process r.2 w.db).bind fun db => before.acts as ⟨r.1, db⟩

def World.block (w : World) (acts : List Act) : Option World := w.acts acts w

variable {before w w' : World} {Meets : World → World → Act → Prop} {acts : List Act}

theorem Acts.of_acts (h : before.acts acts w = some w') :
    Acts (fun _ _ _ => True) before acts w w' := by
  induction acts generalizing w with
  | nil =>
    cases h
    exact .nil
  | cons _ _ ih =>
    obtain ⟨_, hstep, h⟩ := bind_eq_some_iff.mp h
    obtain ⟨_, hprocess, h⟩ := bind_eq_some_iff.mp h
    exact .cons trivial hstep (.of_process hprocess) (ih h)

theorem Block.of_block (h : w.block acts = some w') : Block acts w w' := Acts.of_acts h

/-- Neither the chain nor the tables have an entry. -/
def emptyWorld (shard : Nat → Nat) : World := ⟨{}, { shard }⟩

/-- Two buckets are created, and in the first of them an object that gets sealed. -/
def sealedActs : List Act :=
  [.createBucket 7 100 5 .publicRead, .createBucket 8 100 5 .publicRead,
    .createObject 1 200 .publicRead [9], .sealObject 1]

/-- The blocks lead from one world to the other, and their acts meet the condition. -/
def Reaches (Meets : World → World → Act → Prop) : World → World → Prop :=
  Relation.ReflTransGen fun w w' => ∃ acts, Acts Meets w acts w w'

/-- The copy of an object takes the row of no other. -/
def CopyFits (before w : World) (src bucketID : Nat) : Prop :=
  ∀ b place, w.chain.bucket? bucketID = some b → before.db.place src = some place →
    w.db.Free b.name place.2

theorem Block.one (h : Block [a] w w') : ∃ events, w.chain.step a = some (w'.chain, events) ∧
    Applies w.db events w.db w'.db := by
  cases h with
  | cons _ hstep happlies hrest =>
    cases hrest
    exact ⟨_, hstep, happlies⟩

/-- What each act keeps that meets the condition, the acts of a block keep. -/
theorem Acts.invariant {Inv : DB → Chain → Prop} (h : Acts Meets before acts w w')
    (hinv : Inv w.db w.chain) (hstep : ∀ db c a c' events db', Inv db c → Meets before ⟨c, db⟩ a →
      c.step a = some (c', events) → Applies before.db events db db' → Inv db' c') :
    Inv w'.db w'.chain := by
  induction h with
  | nil => exact hinv
  | cons hmeets hact happlies _ ih => exact ih (hstep _ _ _ _ _ _ hinv hmeets hact happlies)

theorem Reaches.invariant (Inv : DB → Chain → Prop) (h : Reaches Meets w w')
    (hinv : Inv w.db w.chain) (hstep : ∀ before db c a c' events db', Inv before.db before.chain →
      Inv db c → Meets before ⟨c, db⟩ a → c.step a = some (c', events) →
      Applies before.db events db db' → Inv db' c') : Inv w'.db w'.chain := by
  induction h with
  | refl => exact hinv
  | tail _ hblock ih =>
    obtain ⟨_, hacts⟩ := hblock
    exact hacts.invariant ih fun db c a c' events db' => hstep _ db c a c' events db' ih

end Blocksyncer

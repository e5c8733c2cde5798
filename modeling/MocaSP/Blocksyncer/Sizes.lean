-- SUMMARY: The sizes of bucket rows against the objects on chain.
import MocaSP.Blocksyncer.Chain
import Mathlib.Data.List.Nodup

/-!
# Sizes of buckets

The storage size of a bucket row is to be the sum of the payload sizes of its stored
objects, and the charge size the sum of what is charged for them, at least 128000 each.
The sizes are kept by increments: sealing an object adds what its row says, deleting it
subtracts that, and the end of an update subtracts the old size before the new one is
sealed.
-/

namespace Blocksyncer
open List Option Chain BucketRow Table Function SizeOp

/-- What the objects stored in a bucket come to, each counted by its payload size. -/
def Chain.total (c : Chain) (bucketID : Nat) (size : Nat → Nat) : Int :=
  (c.objects.map fun o =>
    if o.bucketID = bucketID ∧ o.stored then (size o.columns.payloadSize : Int) else 0).sum

/-- The charge for an object. -/
def charged (payloadSize : Nat) : Nat := max payloadSize 128000

/-- The rows of buckets have the given sizes. -/
def DB.SizesAre (db : DB) (total : Nat → (Nat → Nat) → Int) : Prop :=
  ∀ id b, db.buckets id = some b →
    b.storageSize = some (total id fun p => p) ∧ b.chargeSize = some (total id charged)

def SizesMatch (db : DB) (c : Chain) : Prop := db.SizesAre c.total

/-- No empty object is created or copied, no object is updated to an empty one, a source that is
copied is as before the block and its copy takes the row of no other object, only stored objects are
deleted, and no bucket has the name of an earlier one. -/
def KeepsSizes (before w : World) : Act → Prop
  | .createObject _ payloadSize _ _ => payloadSize ≠ 0
  | .copyObject src bucketID _ =>
    (∃ columns columns', before.chain.objectView src = some columns ∧
      w.chain.objectView src = some columns' ∧ columns.payloadSize = columns'.payloadSize ∧
      columns.payloadSize ≠ 0) ∧
    CopyFits before w src bucketID
  | .sealUpdate id payloadSize _ =>
    payloadSize = 0 → ∀ columns, w.chain.objectView id = some columns → columns.payloadSize = 0
  | .deleteObject id => ∀ o, w.chain.object? id = some o → o.stored
  | .createBucket name _ _ _ => name ∉ w.chain.formerNames
  | _ => True

theorem chargeOf_eq (payloadSize : Nat) : chargeOf payloadSize = charged payloadSize := by
  unfold chargeOf charged
  split <;> omega

def SizeOp.signed (op : SizeOp) (amount : Int) : Int :=
  match op with
  | .plus => amount
  | .minus => -amount

theorem SizeOp.apply_some (op : SizeOp) (size amount : Int) :
    op.apply (some size) (some amount) = some (size + op.signed amount) := by
  cases op with
  | plus => rfl
  | minus => simp [apply, signed, Int.sub_eq_add_neg]

/-! ## What the chain stores -/

/-- The state of a chain: ids are unique, objects are in buckets, and their status says whether they
are stored. -/
structure Chain.Settled (c : Chain) : Prop extends c.WellFormed where
  distinct : (c.objects.map (·.id)).Nodup
  homes : ∀ o ∈ c.objects, ∃ b ∈ c.buckets, b.id = o.bucketID ∧ b.name = o.bucketName
  status : ∀ o ∈ c.objects, o.StatusOk

variable {f : ObjectColumns → ObjectColumns} {columns : ObjectColumns} {objectID payloadSize name id : Nat}
  {op : SizeOp}

namespace Chain

variable {c c' : Chain} {a : Act} {events : List Event}

theorem Settled.step (hs : c.Settled) (h : c.step a = some (c', events)) : c'.Settled := by
  have hwf := hs.toWellFormed.step h
  obtain ⟨⟨hids, -⟩, hdistinct, hhomes, hstatus⟩ := hs
  rcases step_cases h with ⟨id, f, rfl, hf⟩ | ⟨id, rfl⟩ | ⟨b, hb, columns, stored, rfl, hok⟩ |
    ⟨id, f, rfl⟩ | ⟨name, columns, -, rfl⟩ | ⟨id, hempty, rfl⟩
  · refine ⟨hwf, ?_, forall_update (fun o ho _ => ?_) fun o ho _ => hhomes o ho,
      forall_update (fun o ho _ => (hf o).2.2.2 (hstatus o ho)) fun o ho _ => hstatus o ho⟩
    · rw [setObject, map_update fun o => (hf o).1]
      exact hdistinct
    · rw [(hf o).2.1, (hf o).2.2.1]
      exact hhomes o ho
  · exact ⟨hwf, hdistinct.sublist (filter_sublist.map _),
      fun o ho => hhomes o (mem_of_mem_filter ho), fun o ho => hstatus o (mem_of_mem_filter ho)⟩
  · have hmem : ∀ o ∈ (c.addObject b columns stored).objects, o ∈ c.objects ∨
        o = ⟨c.nextObjectID, b.id, b.name, columns, stored⟩ := fun o ho =>
      (mem_append.mp ho).imp_right mem_singleton.mp
    refine ⟨hwf, ?_, fun o ho => ?_, fun o ho => ?_⟩
    · rw [addObject, map_append, nodup_append]
      refine ⟨hdistinct, nodup_singleton _, fun k hk k' hk' => ?_⟩
      obtain ⟨o, ho, rfl⟩ := mem_map.mp hk
      rw [mem_singleton.mp hk']
      exact (hids o ho).ne
    · rcases hmem o ho with ho | rfl
      · exact hhomes o ho
      · exact ⟨b, hb, rfl, rfl⟩
    · rcases hmem o ho with ho | rfl
      · exact hstatus o ho
      · exact hok
  · refine ⟨hwf, hdistinct, fun o ho => ?_, hstatus⟩
    obtain ⟨b, hb, hhome⟩ := hhomes o ho
    by_cases hid : b.id = id
    · exact ⟨_, mem_map.mpr ⟨b, hb, if_pos hid⟩, hhome⟩
    · exact ⟨_, mem_map.mpr ⟨b, hb, if_neg hid⟩, hhome⟩
  · refine ⟨hwf, hdistinct, fun o ho => ?_, hstatus⟩
    obtain ⟨b, hb, hhome⟩ := hhomes o ho
    exact ⟨b, mem_append_left _ hb, hhome⟩
  · refine ⟨hwf, hdistinct, fun o ho => ?_, hstatus⟩
    obtain ⟨b, hb, hhome⟩ := hhomes o ho
    refine ⟨b, mem_filter.mpr ⟨hb, decide_eq_true fun hid => hempty ?_⟩, hhome⟩
    rw [← hid, hhome.1]
    exact mem_map_of_mem ho

/-- What an object counts for in a bucket. -/
def weight (bucketID : Nat) (size : Nat → Nat) (o : ChainObject) : Int :=
  if o.bucketID = bucketID ∧ o.stored then (size o.columns.payloadSize : Int) else 0

variable {id bucketID : Nat} {size : Nat → Nat} {o : ChainObject}

theorem total_setObject (hs : c.Settled) (ho : c.object? id = some o)
    {f : ChainObject → ChainObject} : (c.setObject id f).total bucketID size =
      c.total bucketID size - weight bucketID size o + weight bucketID size (f o) := by
  have hsum := sum_update (w := weight bucketID size) (f := f) hs.distinct
    (mem_of_find?_eq_some ho)
  rwa [object?_id ho] at hsum

theorem total_removeObject (hs : c.Settled) (ho : c.object? id = some o) :
    (c.removeObject id).total bucketID size = c.total bucketID size - weight bucketID size o := by
  have hsum := sum_others (w := weight bucketID size) hs.distinct (mem_of_find?_eq_some ho)
  rw [object?_id ho] at hsum
  exact eq_sub_of_add_eq' hsum.symm

theorem weight_of_not_stored (h : o.stored = false) : weight bucketID size o = 0 := by
  simp [weight, h]

theorem weight_of_stored (h : o.stored = true) :
    weight bucketID size o = if bucketID = o.bucketID then (size o.columns.payloadSize : Int) else 0 := by
  simp [weight, h, eq_comm]

theorem total_setColumns (hs : c.Settled) (ho : c.object? id = some o)
    (hf : (f o.columns).payloadSize = o.columns.payloadSize) :
    (c.setColumns id f).total bucketID size = c.total bucketID size := by
  have hweight : weight bucketID size { o with columns := f o.columns } = weight bucketID size o := by
    simp only [weight, hf]
  rw [setColumns, total_setObject hs ho, hweight]
  omega

end Chain

/-! ## What the rows say -/

namespace DB

variable {db : DB}

def nameOf (db : DB) (id : Nat) : Option Nat := (db.buckets id).map (·.bucketName)

@[simp] theorem nameOf_updateNamed (name id : Nat) {f : BucketRow → BucketRow}
    (hf : ∀ b, (f b).bucketName = b.bucketName) : (db.updateNamed name f).nameOf id = db.nameOf id := by
  cases hb : db.buckets id with
  | none => simp [nameOf, updateNamed, hb]
  | some b =>
    by_cases hname : b.bucketName = name
    · simp [nameOf, updateNamed, hb, hname, hf]
    · simp [nameOf, updateNamed, hb, hname]

/-- After the two size statements for an object. -/
abbrev resized (db : DB) (objectID name : Nat) (op : SizeOp) : DB :=
  (db.exec (.updateStorageSize objectID name op)).exec (.updateChargeSize objectID name op)

theorem buckets_sized (h : db.payload objectID = some payloadSize) (name : Nat) (op : SizeOp) (id : Nat) :
    (db.resized objectID name op).buckets id =
    (db.buckets id).map fun b =>
      if b.bucketName = name then
        (b.changeStorage op (some (payloadSize : Int))).changeCharge op (some (charged payloadSize : Int))
      else b := by
  have h' : (db.exec (.updateStorageSize objectID name op)).payload objectID = some payloadSize := h
  rw [resized, exec.eq_def _ (.updateChargeSize ..)]
  dsimp only
  rw [h']
  simp only [exec, h, map_some, comp_apply, chargeOf_eq, Int.ofNat_eq_natCast, updateNamed, Option.map_map]
  refine congrArg (Option.map · _) (funext fun b => ?_)
  by_cases hname : b.bucketName = name
  · simp [hname, changeStorage]
  · simp [hname]

/-- The two size statements for an object change the sizes of its bucket alone, if no other bucket
has its name. -/
theorem SizesAre.change {total total' : Nat → (Nat → Nat) → Int} (hs : db.SizesAre total) {bucketID : Nat}
    (hpayload : db.payload objectID = some payloadSize)
    (hnames : ∀ id name', db.nameOf id = some name' → (name' = name ↔ id = bucketID))
    (htotal : ∀ id size, total' id size =
      total id size + if id = bucketID then op.signed (size payloadSize : Int) else 0) :
    (db.resized objectID name op).SizesAre total' := by
  intro id _ hb'
  rw [buckets_sized hpayload] at hb'
  obtain ⟨b, hb, rfl⟩ := map_eq_some_iff.mp hb'
  obtain ⟨hstorage, hcharge⟩ := hs id b hb
  have hname := hnames id b.bucketName (by rw [nameOf, hb]; rfl)
  by_cases hid : id = bucketID
  · rw [if_pos (hname.mpr hid), htotal, htotal, if_pos hid, if_pos hid]
    simp [changeStorage, changeCharge, hstorage, hcharge, apply_some]
  · rw [if_neg (mt hname.mp hid), htotal, htotal, if_neg hid, if_neg hid]
    simp [hstorage, hcharge]

/-- The payload size of an object that is not removed. -/
def payloadView (db : DB) (id : Nat) : Option Nat := (db.objectView id).map (·.payloadSize)

theorem payload_of_view (h : db.payloadView id = some payloadSize) :
    db.payload id = some payloadSize := by
  obtain ⟨_, hcolumns, rfl⟩ := map_eq_some_iff.mp h
  obtain ⟨_, hrow, rfl⟩ := map_eq_some_iff.mp hcolumns
  rw [payload, (filter_eq_some_iff.mp hrow).1]
  rfl

theorem payloadView_updateObject (h : columns.payloadSize = 0) (id' : Nat) :
    (db.exec (.updateObject ⟨id, columns, false⟩)).payloadView id' = db.payloadView id' := by
  have hkeep : ∀ old : ObjectColumns, (old.updates columns).payloadSize = old.payloadSize := by
    intro _
    simp [ObjectColumns.updates, written, h]
  rw [payloadView, objectView_updateObject]
  by_cases hid : id' = id
  · simp [hid, payloadView, comp_def, hkeep]
  · simp [hid, payloadView]

end DB

/-! ## Acts -/

def Chain.payloadView (c : Chain) (id : Nat) : Option Nat := (c.objectView id).map (·.payloadSize)

/-- The rows account for the objects, and no two buckets have one name. -/
structure Accounted (db : DB) (c : Chain) : Prop where
  sizes : SizesMatch db c
  payloads : ∀ id, db.payloadView id = c.payloadView id
  names : ∀ id name, db.nameOf id = some name →
    (∀ b ∈ c.buckets, b.name = name ↔ b.id = id) ∧
    (name ∈ c.buckets.map (·.name) ∨ name ∈ c.formerNames)
  settled : c.Settled

namespace Accounted

variable {db db' : DB} {before : World} {c c' : Chain} {a : Act} {events : List Event} {id : Nat}
  {o : ChainObject}

/-- The statements for an object reach the row of its bucket alone. -/
theorem home (h : Accounted db c) (ho : c.object? id = some o) :
    ∀ id' name, db.nameOf id' = some name → (name = o.bucketName ↔ id' = o.bucketID) := by
  intro id' name hname
  obtain ⟨b, hb, hid, hbname⟩ := h.settled.homes o (mem_of_find?_eq_some ho)
  have hiff := (h.names id' name hname).1 b hb
  rw [hid, hbname] at hiff
  exact ⟨fun heq => (hiff.mp heq.symm).symm, fun heq => (hiff.mpr heq.symm).symm⟩

/-- The parts that an act on objects can change. -/
theorem of_objects (h : Accounted db c) (hsettled : c'.Settled) (hbuckets : c'.buckets = c.buckets)
    (hformer : c'.formerNames = c.formerNames) (hnames : ∀ id, db'.nameOf id = db.nameOf id)
    (hsizes : SizesMatch db' c') (hpayloads : ∀ id, db'.payloadView id = c'.payloadView id) :
    Accounted db' c' := by
  refine ⟨hsizes, hpayloads, fun id name hname => ?_, hsettled⟩
  rw [hnames] at hname
  rw [hbuckets, hformer]
  exact h.names id name hname

theorem object?_of_objectIf {q : ChainObject → Bool} (h : c.objectIf id q = some o) :
    c.object? id = some o ∧ q o = true :=
  filter_eq_some_iff.mp h

section
variable (h : Accounted db c)
include h

/-- An act that changes neither the payload size of an object nor whether it is stored. -/
theorem setColumns (hsettled : (c.setColumns id f).Settled) (ho : c.object? id = some o)
    (hf : ∀ o, (f o).payloadSize = o.payloadSize) (hcolumns : columns.payloadSize = 0) :
    Accounted (db.exec (.updateObject ⟨id, columns, false⟩)) (c.setColumns id f) := by
  refine h.of_objects hsettled rfl rfl (fun _ => rfl) (fun id' b hb => ?_) fun id' => ?_
  · rw [total_setColumns h.settled ho (hf _), total_setColumns h.settled ho (hf _)]
    exact h.sizes id' b hb
  · rw [DB.payloadView_updateObject hcolumns, h.payloads, payloadView, payloadView, objectView_setColumns]
    split
    · rw [Option.map_map]
      exact Option.map_congr fun o _ => (hf o).symm
    · rfl

theorem removed_payloads (id' : Nat) :
    (db.exec (.updateObject ⟨id, {}, true⟩)).payloadView id' = (c.removeObject id).payloadView id' := by
  rw [DB.payloadView, DB.objectView_updateObject, payloadView, objectView_removeObject]
  split
  · rfl
  · exact h.payloads id'

/-- An object that is not stored is removed. -/
theorem removeObject (hsettled : (c.removeObject id).Settled)
    (ho : c.object? id = some o) (hstored : o.stored = false) :
    Accounted (db.exec (.updateObject ⟨id, {}, true⟩)) (c.removeObject id) := by
  refine h.of_objects hsettled rfl rfl (fun _ => rfl) (fun id' b hb => ?_) h.removed_payloads
  have htotal : ∀ size, (c.removeObject id).total id' size = c.total id' size := by
    intro _
    rw [total_removeObject h.settled ho, weight_of_not_stored hstored]
    omega
  rw [htotal, htotal]
  exact h.sizes id' b hb

/-- An object that is not stored yet is added. -/
theorem addObject {b : ChainBucket} {columns' : ObjectColumns} {rowID : Nat}
    (hsettled : (c.addObject b columns' false).Settled) (hcolumns : columns.payloadSize = columns'.payloadSize)
    (hfree : db.Free name rowID) :
    Accounted (db.exec (.saveObject name rowID ⟨c.nextObjectID, columns, false⟩))
      (c.addObject b columns' false) := by
  refine h.of_objects hsettled rfl rfl (fun _ => rfl) (fun id' b' hb' => ?_) fun id' => ?_
  · simpa [total, Chain.addObject] using h.sizes id' b' hb'
  rw [DB.payloadView, hfree.objectView_saveObject, payloadView,
    objectView_addObject h.settled.toWellFormed]
  by_cases hid : id' = c.nextObjectID
  · simp [hid, hcolumns]
  · rw [if_neg hid, if_neg hid]
    exact h.payloads id'

/-- The size statements for an object with the change of its bucket's totals. -/
theorem sizes_change (ho : c.object? id = some o) {total' : Nat → (Nat → Nat) → Int}
    (htotal : ∀ id' size, total' id' size = c.total id' size +
      if id' = o.bucketID then op.signed (size o.columns.payloadSize : Int) else 0) :
    (db.resized id o.bucketName op).SizesAre total' :=
  h.sizes.change (DB.payload_of_view (by rw [h.payloads, payloadView, objectView, ho]; rfl)) (h.home ho) htotal

end

theorem nameOf_sized (id' : Nat) : (db.resized objectID name op).nameOf id' = db.nameOf id' := by
  simp [DB.exec, changeStorage, changeCharge]

theorem sealObject (h : Accounted db c) (hsettled : (c.setObject id ChainObject.seal).Settled)
    (ho : c.object? id = some o) (hstored : o.stored = false) (hcolumns : columns.payloadSize = 0) :
    Accounted ((db.resized id o.bucketName .plus).exec (.updateObject ⟨id, columns, false⟩))
      (c.setObject id ChainObject.seal) := by
  refine h.of_objects hsettled rfl rfl nameOf_sized (h.sizes_change ho fun id' size => ?_) fun id' => ?_
  · rw [total_setObject h.settled ho, weight_of_not_stored hstored, weight_of_stored rfl]
    simp only [ChainObject.seal, signed]
    omega
  · have hchain : (c.setObject id ChainObject.seal).payloadView id' = c.payloadView id' := by
      rw [payloadView, objectView_seal]
      by_cases hid : id' = id
      · simp [hid, payloadView, comp_def]
      · simp [hid, payloadView]
    rw [hchain, ← h.payloads]
    exact DB.payloadView_updateObject hcolumns id'

/-- A stored object is removed. -/
theorem deleteObject (h : Accounted db c) (hsettled : (c.removeObject id).Settled)
    (ho : c.object? id = some o) (hstored : o.stored = true) :
    Accounted ((db.resized id o.bucketName .minus).exec (.updateObject ⟨id, {}, true⟩))
      (c.removeObject id) := by
  refine h.of_objects hsettled rfl rfl nameOf_sized (h.sizes_change ho fun id' size => ?_)
    h.removed_payloads
  rw [total_removeObject h.settled ho, weight_of_stored hstored]
  simp only [signed]
  split <;> omega

/-- The old size of a stored object is subtracted, its row is updated, and what the row says then is
added. -/
theorem sealUpdate (h : Accounted db c) {columns' : ObjectColumns} (hsettled : (c.setColumns id f).Settled)
    (ho : c.object? id = some o) (hstored : o.stored = true) (hf : ∀ o, (f o).payloadSize = payloadSize)
    (hcolumns : columns.payloadSize = payloadSize) (hcolumns' : columns'.payloadSize = 0)
    (hzero : payloadSize = 0 → o.columns.payloadSize = 0) :
    Accounted ((((db.resized id o.bucketName .minus).exec (.updateObject ⟨id, columns, false⟩)).resized
      id o.bucketName .plus).exec (.updateObject ⟨id, columns', false⟩)) (c.setColumns id f) := by
  have hwritten : written 0 o.columns.payloadSize columns.payloadSize = payloadSize := by
    unfold written
    split
    next hnew => rw [hzero (hcolumns ▸ hnew), ← hcolumns, hnew]
    · exact hcolumns
  generalize hmid : (db.resized id o.bucketName .minus).exec (.updateObject ⟨id, columns, false⟩) = mid
  have hview : ∀ id', mid.payloadView id' =
      if id' = id then some payloadSize else db.payloadView id' := by
    intro id'
    have hrow : mid.objectView id' =
        if id' = id then (db.objectView id').map (·.updates columns) else db.objectView id' := by
      simp [← hmid]
    rw [DB.payloadView, hrow]
    by_cases hid : id' = id
    · have hold := h.payloads id
      rw [payloadView, objectView, ho] at hold
      obtain ⟨_, hobject, hpayload⟩ := map_eq_some_iff.mp hold
      rw [if_pos hid, if_pos hid, hid, hobject]
      simp [ObjectColumns.updates, hpayload, hwritten]
    · rw [if_neg hid, if_neg hid]
      rfl
  have hnames : ∀ id', mid.nameOf id' = db.nameOf id' := fun id' => by
    rw [← hmid]
    exact nameOf_sized id'
  have hsizes : mid.SizesAre fun id' size => c.total id' size +
      if id' = o.bucketID then minus.signed (size o.columns.payloadSize : Int) else 0 := by
    rw [← hmid]
    exact h.sizes_change ho fun _ _ => rfl
  refine h.of_objects hsettled rfl rfl (fun id' => (nameOf_sized id').trans (hnames id')) ?_ fun id' => ?_
  · refine hsizes.change (DB.payload_of_view ((hview id).trans (if_pos rfl)))
      (fun id' name hname => h.home ho id' name ((hnames id').symm.trans hname)) fun id' size => ?_
    have hnew : weight id' size { o with columns := f o.columns } =
        if id' = o.bucketID then (size payloadSize : Int) else 0 := by
      refine (weight_of_stored (o := { o with columns := f o.columns }) hstored).trans ?_
      rw [hf]
    rw [Chain.setColumns, Chain.total_setObject h.settled ho, Chain.weight_of_stored hstored, hnew]
    simp only [signed]
    split <;> omega
  · rw [DB.payloadView_updateObject hcolumns']
    change mid.payloadView id' = _
    rw [hview, payloadView, objectView_setColumns, h.payloads]
    by_cases hid : id' = id
    · simp [hid, objectView, ho, hf]
    · rw [if_neg hid, if_neg hid]
      rfl

/-- An update of a bucket's columns keeps its sizes. -/
theorem sizes_updateBucket {total : Nat → (Nat → Nat) → Int} (hs : db.SizesAre total)
    {columns : BucketColumns} {removed : Bool} :
    (db.exec (.updateBucket id columns removed)).SizesAre total := by
  intro id' b' hb'
  by_cases hid : id' = id
  · simp only [DB.exec, DB.setBucket, hid, if_true] at hb'
    obtain ⟨b, hb, rfl⟩ := map_eq_some_iff.mp hb'
    rw [hid]
    exact hs id b hb
  · simp only [DB.exec, DB.setBucket, hid, if_false] at hb'
    exact hs id' b' hb'

theorem nameOf_updateBucket {columns : BucketColumns} {removed : Bool} (id' : Nat) :
    (db.exec (.updateBucket id columns removed)).nameOf id' = db.nameOf id' := by
  by_cases hid : id' = id
  · simp [DB.nameOf, DB.exec, DB.setBucket, hid, comp_def]
  · simp [DB.nameOf, DB.exec, DB.setBucket, hid]

theorem setBucket (h : Accounted db c) {f : BucketColumns → BucketColumns} {columns : BucketColumns}
    (hsettled : (c.setBucket id f).Settled) :
    Accounted (db.exec (.updateBucket id columns false)) (c.setBucket id f) := by
  refine ⟨sizes_updateBucket h.sizes, h.payloads, fun id' name hname => ?_, hsettled⟩
  rw [nameOf_updateBucket] at hname
  obtain ⟨hiff, hmem⟩ := h.names id' name hname
  have hsame : (c.setBucket id f).buckets.map (·.name) = c.buckets.map (·.name) :=
    map_update fun _ => rfl
  refine ⟨forall_update (fun b hb _ => hiff b hb) fun b hb _ => hiff b hb, ?_⟩
  rw [hsame]
  exact hmem

theorem removeBucket (h : Accounted db c) (hsettled : (c.removeBucket id).Settled) :
    Accounted (db.exec (.updateBucket id {} true)) (c.removeBucket id) := by
  refine ⟨sizes_updateBucket h.sizes, h.payloads, fun id' name hname => ?_, hsettled⟩
  rw [nameOf_updateBucket] at hname
  obtain ⟨hiff, hmem⟩ := h.names id' name hname
  refine ⟨fun b hb => hiff b (mem_of_mem_filter hb), ?_⟩
  rcases hmem with hmem | hmem
  · obtain ⟨b, hb, rfl⟩ := mem_map.mp hmem
    by_cases hid : b.id = id
    · refine .inr (mem_append_left _ (mem_map_of_mem (mem_filter.mpr ⟨hb, ?_⟩)))
      exact decide_eq_true hid
    · exact .inl (mem_map_of_mem (mem_filter.mpr ⟨hb, decide_eq_true hid⟩))
  · exact .inr (mem_append_right _ hmem)

/-- A bucket whose name no row has. -/
theorem addBucket (h : Accounted db c) {columns : BucketColumns}
    (hsettled : (c.addBucket name columns).Settled) (hname : name ∉ c.buckets.map (·.name))
    (hformer : name ∉ c.formerNames) :
    Accounted (db.exec (.saveBucket { bucketID := c.nextBucketID, bucketName := name, columns }))
      (c.addBucket name columns) := by
  have hempty : ∀ size, (c.addBucket name columns).total c.nextBucketID size = 0 := by
    intro _
    refine (congrArg List.sum (map_congr_left fun o ho => if_neg fun hhere => ?_)).trans
      (b := (c.objects.map fun _ => (0 : Int)).sum) (by simp)
    obtain ⟨b, hb, hid, -⟩ := h.settled.homes o ho
    exact (h.settled.buckets b hb).ne (hid.trans hhere.1)
  have hbuckets : ∀ b ∈ (c.addBucket name columns).buckets, b ∈ c.buckets ∨
      b = ⟨c.nextBucketID, name, columns⟩ := fun b hb =>
    (mem_append.mp hb).imp_right mem_singleton.mp
  refine ⟨fun id' b' hb' => ?_, h.payloads, fun id' name' hname' => ?_, hsettled⟩
  · by_cases hid : id' = c.nextBucketID
    · simp only [DB.exec, DB.setBucket, hid, if_true, some.injEq] at hb'
      subst hb'
      rw [hid]
      exact ⟨congrArg some (hempty _).symm, congrArg some (hempty _).symm⟩
    · simp only [DB.exec, DB.setBucket, hid, if_false] at hb'
      exact h.sizes id' b' hb'
  · by_cases hid : id' = c.nextBucketID
    · simp only [DB.nameOf, DB.exec, DB.setBucket, hid, if_true, map_some, some.injEq]
        at hname'
      subst hname' hid
      refine ⟨fun b hb => ?_, .inl (mem_map_of_mem (mem_append_right _ (mem_singleton_self _)))⟩
      rcases hbuckets b hb with hb | rfl
      · exact iff_of_false (fun heq => hname (heq ▸ mem_map_of_mem hb)) (h.settled.buckets b hb).ne
      · exact iff_of_true rfl rfl
    · simp only [DB.nameOf, DB.exec, DB.setBucket, hid, if_false] at hname'
      obtain ⟨hiff, hmem⟩ := h.names id' name' hname'
      refine ⟨fun b hb => ?_, ?_⟩
      · rcases hbuckets b hb with hb | rfl
        · exact hiff b hb
        refine iff_of_false (fun heq => ?_) (Ne.symm hid)
        have heq : name = name' := heq
        rcases hmem with hmem | hmem
        · exact hname (heq ▸ hmem)
        · exact hformer (heq ▸ hmem)
      · refine hmem.imp_left fun hmem => ?_
        rw [Chain.addBucket, map_append]
        exact mem_append_left _ hmem

theorem act (hbefore : Accounted before.db before.chain) (h : Accounted db c)
    (hmeets : KeepsSizes before ⟨c, db⟩ a) (hstep : c.step a = some (c', events))
    (happ : Applies before.db events db db') : Accounted db' c' := by
  have hsettled := h.settled.step hstep
  have hstatus : ∀ {id : Nat} {o : ChainObject}, c.object? id = some o → o.StatusOk :=
    fun ho => h.settled.status _ (mem_of_find?_eq_some ho)
  cases a with
  | createObject _ payloadSize =>
    obtain ⟨_, -, ⟨⟩⟩ := map_eq_some_iff.mp hstep
    rw [happ.entry rfl]
    have hnot : decide (payloadSize = 0) = false := decide_eq_false hmeets
    rw [hnot] at hsettled ⊢
    exact h.addObject hsettled rfl (.inl rfl)
  | copyObject src =>
    obtain ⟨b, hb, hstep⟩ := bind_eq_some_iff.mp hstep
    obtain ⟨o, ho, ⟨⟩⟩ := map_eq_some_iff.mp hstep
    obtain ⟨⟨columns, _, hsrc, hnow, hsame, hpayload⟩, hfits⟩ := hmeets
    have hview := hbefore.payloads src
    rw [payloadView, hsrc] at hview
    obtain ⟨source, hsource, hsize⟩ := map_eq_some_iff.mp hview
    rw [objectView, ho] at hnow
    cases hnow
    obtain ⟨_, _, hextract, -, -⟩ := happ.one
    obtain ⟨_, hget, -⟩ := map_eq_some_iff.mp hextract
    obtain ⟨place, hplace, rfl⟩ := map_eq_some_iff.mp hget
    have hentries : extractEventStatements before.db (.copyObject src c.nextObjectID b.name) =
        some [[.saveObject b.name place.2 ⟨c.nextObjectID,
          { source with status := some (newStatus source.payloadSize) }, false⟩]] := by
      rw [extractEventStatements, handleCopyObject, hget, map_some, hsource, elim_some, copyEntries,
        if_neg (hsize ▸ hpayload)]
    rw [happ.entry hentries]
    have hnot : decide (o.columns.payloadSize = 0) = false := decide_eq_false (hsame ▸ hpayload)
    rw [hnot] at hsettled ⊢
    exact h.addObject hsettled (hsize.trans hsame) (hfits b place hb hplace)
  | sealObject =>
    obtain ⟨_, ho, ⟨⟩⟩ := map_eq_some_iff.mp hstep
    obtain ⟨ho, hcreated⟩ := object?_of_objectIf ho
    rw [happ.sized rfl rfl]
    exact h.sealObject hsettled ho ((hstatus ho).1 (of_decide_eq_true hcreated)) rfl
  | cancelCreateObject | rejectSealObject =>
    obtain ⟨_, ho, ⟨⟩⟩ := map_eq_some_iff.mp hstep
    obtain ⟨ho, hcreated⟩ := object?_of_objectIf ho
    rw [happ.entry rfl]
    exact h.removeObject hsettled ho ((hstatus ho).1 (of_decide_eq_true hcreated))
  | updateObjectInfo =>
    obtain ⟨_, ho, ⟨⟩⟩ := map_eq_some_iff.mp hstep
    rw [happ.entry rfl]
    exact h.setColumns hsettled ho (fun _ => rfl) rfl
  | updateObjectContent | cancelUpdateObjectContent | rejectUpdate | discontinueObject =>
    obtain ⟨_, ho, ⟨⟩⟩ := map_eq_some_iff.mp hstep
    rw [happ.entry rfl]
    exact h.setColumns hsettled (object?_of_objectIf ho).1 (fun _ => rfl) rfl
  | sealUpdate =>
    obtain ⟨o, ho, ⟨⟩⟩ := map_eq_some_iff.mp hstep
    obtain ⟨ho, hallowed⟩ := object?_of_objectIf ho
    have hsealed := of_decide_eq_true (Bool.and_eq_true_iff.mp hallowed).1
    obtain ⟨_, hsuccess, hseal⟩ := happ.uncons
    rw [hseal.sized rfl rfl, hsuccess.entry rfl]
    refine h.sealUpdate hsettled ho ((hstatus ho).2 hsealed) (fun _ => rfl) rfl rfl fun hzero => ?_
    exact hmeets hzero o.columns (by rw [objectView, ho]; rfl)
  | deleteObject =>
    obtain ⟨o, ho, ⟨⟩⟩ := map_eq_some_iff.mp hstep
    have ho := (object?_of_objectIf ho).1
    rw [happ.sized rfl rfl]
    exact h.deleteObject hsettled ho (hmeets o ho)
  | createBucket =>
    obtain ⟨hname, ⟨⟩⟩ := ite_none_left_eq_some.mp hstep
    rw [happ.entry rfl]
    exact h.addBucket hsettled hname hmeets
  | deleteBucket =>
    obtain ⟨-, hstep⟩ := ite_none_left_eq_some.mp hstep
    obtain ⟨_, -, ⟨⟩⟩ := map_eq_some_iff.mp hstep
    rw [happ.entry rfl]
    exact h.removeBucket hsettled
  | updateBucketInfo | discontinueBucket | migrateBucket | cancelMigrateBucket
  | rejectMigrateBucket | completeMigrateBucket =>
    obtain ⟨_, -, ⟨⟩⟩ := map_eq_some_iff.mp hstep
    rw [happ.entry rfl]
    exact h.setBucket hsettled

end Accounted

theorem Accounted.emptyWorld (shard : Nat → Nat) :
    Accounted (emptyWorld shard).db (emptyWorld shard).chain := by
  refine ⟨fun id b hb => ?_, fun _ => rfl, fun id name hname => ?_, ⟨forall_mem_nil _, forall_mem_nil _⟩, nodup_nil,
    forall_mem_nil _, fun o ho => ?_⟩
  · cases hb
  · cases hname
  · cases ho

/-- In a run whose acts keep the sizes, the rows of buckets have the sizes of their stored objects
after every block. -/
theorem bucket_sizes_match (shard : Nat → Nat) :
    ∀ w, Reaches KeepsSizes (emptyWorld shard) w → SizesMatch w.db w.chain := by
  intro _ hreach
  refine (hreach.invariant Accounted (.emptyWorld shard) ?_).sizes
  intro _ _ _ _ _ _ _ hbefore hnow hmeets hstep happ
  exact hbefore.act hnow hmeets hstep happ

/-- A sealed object is copied into a bucket of another shard, where the copy is sealed; the object is
updated, and the copy is deleted. -/
theorem bucket_sizes_match_sample : ∃ w, Reaches KeepsSizes (emptyWorld (· % 64)) w ∧
      (w.db.buckets 1).map (fun b => (b.storageSize, b.chargeSize)) =
        some (some 300000, some 300000) ∧
      (w.db.buckets 2).map (fun b => (b.storageSize, b.chargeSize)) = some (some 0, some 0) ∧
      SizesMatch w.db w.chain := by
  have hsealed : Acts KeepsSizes (emptyWorld (· % 64)) sealedActs (emptyWorld (· % 64)) _ :=
    .cons not_mem_nil rfl (.of_process rfl) <| .cons not_mem_nil rfl (.of_process rfl) <|
      .cons (Nat.succ_ne_zero _) rfl (.of_process rfl) <| .cons trivial rfl (.of_process rfl) .nil
  have hreach : ∃ w, Reaches KeepsSizes (emptyWorld (· % 64)) w ∧
      (w.db.buckets 1).map (fun b => (b.storageSize, b.chargeSize)) =
        some (some 300000, some 300000) ∧
      (w.db.buckets 2).map (fun b => (b.storageSize, b.chargeSize)) = some (some 0, some 0) := by
    refine ⟨_, .tail (.single ⟨_, hsealed⟩) ⟨[.copyObject 1 2 .publicRead, .sealObject 2,
      .updateObjectContent 1, .sealUpdate 1 300000 [9], .deleteObject 2],
      .cons ⟨⟨_, _, rfl, rfl, rfl, Nat.succ_ne_zero _⟩, ?_⟩ rfl (.of_process rfl) <|
        .cons trivial rfl (.of_process rfl) <| .cons trivial rfl (.of_process rfl) <|
        .cons (fun h => absurd h (Nat.succ_ne_zero _)) rfl (.of_process rfl) <|
        .cons (fun _ ho => by cases ho; rfl) rfl (.of_process rfl) .nil⟩, by decide, by decide⟩
    intro b place hb hplace
    cases hb
    cases hplace
    refine .inr fun id _ => ?_
    change (if id = 1 then some (7, 1) else none) ≠ some (8, 1)
    split <;> simp
  obtain ⟨w, hreach, hfirst, hsecond⟩ := hreach
  exact ⟨w, hreach, hfirst, hsecond, bucket_sizes_match (· % 64) w hreach⟩

/-- An object that was never sealed is discontinued and deleted: the sizes of its bucket get
negative. -/
theorem unsealed_object_subtracted :
    ∃ w₁ w₂, Block [.createBucket 7 100 5 .publicRead, .createObject 1 200 .publicRead [9]]
        (emptyWorld (· % 64)) w₁ ∧
      Block [.discontinueObject 1, .deleteObject 1] w₁ w₂ ∧ w₂.chain.objects = [] ∧
      (w₂.db.buckets 1).map (fun b => (b.storageSize, b.chargeSize)) =
        some (some (-200), some (-128000)) ∧ ¬ SizesMatch w₂.db w₂.chain := by
  have hexec : (((emptyWorld (· % 64)).block [.createBucket 7 100 5 .publicRead,
      .createObject 1 200 .publicRead [9]]).bind fun w₁ =>
        w₁.block [.discontinueObject 1, .deleteObject 1]).map (fun w₂ => (w₂.chain.objects,
          (w₂.db.buckets 1).map fun b => (b.storageSize, b.chargeSize))) =
            some ([], some (some (-200), some (-128000))) := by decide
  obtain ⟨w₂, hw, hend⟩ := map_eq_some_iff.mp hexec
  obtain ⟨w₁, hw₁, hw₂⟩ := bind_eq_some_iff.mp hw
  obtain ⟨hobjects, hsizes⟩ := Prod.mk.inj hend
  refine ⟨w₁, w₂, .of_block hw₁, .of_block hw₂, hobjects, hsizes, fun hmatch => ?_⟩
  obtain ⟨b, hb, hb'⟩ := map_eq_some_iff.mp hsizes
  have hsize := (hmatch 1 b hb).1
  rw [(Prod.mk.inj hb').1, total, hobjects] at hsize
  cases hsize

end Blocksyncer

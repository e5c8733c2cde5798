-- SUMMARY: The rows of objects and buckets against the chain.
import MocaSP.Blocksyncer.Chain
import Mathlib.Data.List.Permutation

/-!
# Rows that mirror the chain

The rows of a committed block are to have the columns that objects and buckets
have on chain. An event that sets a column to its zero value does not reach
the row, since `Updates` skips zero fields; a copied object takes over columns
of its source that the chain gives a new object anew, and its row is written over
one that has the id of the source's row in the shard.
-/

namespace Blocksyncer
open Option ObjectColumns Chain Table

structure Mirrors (db : DB) (c : Chain) : Prop where
  objects : ∀ id, db.objectView id = c.objectView id
  buckets : ∀ id, db.bucketView id = c.bucketView id

/-- No update of an object is ended, no bucket loses its quota or its payment address, and a source
that is copied is as before the block, not updated yet, and as visible as its copy, which takes the
row of no other object. -/
def WritesNoZero (before w : World) : Act → Prop
  | .copyObject src bucketID visibility =>
    (∃ columns, before.chain.objectView src = some columns ∧ w.chain.objectView src = some columns ∧
      columns.isUpdating = false ∧ columns.version = 0 ∧ columns.visibility = some visibility) ∧
    CopyFits before w src bucketID
  | .sealUpdate _ _ _ | .cancelUpdateObjectContent _ | .rejectUpdate _ => False
  | .updateBucketInfo id chargedReadQuota paymentAddress _ =>
    ∀ columns, w.chain.bucketView id = some columns →
      (chargedReadQuota = 0 → columns.chargedReadQuota = 0) ∧
      (paymentAddress = 0 → columns.paymentAddress = 0)
  | _ => True

variable {columns : ObjectColumns} {f : ObjectColumns → ObjectColumns} {name : Nat}

section

variable {db : DB} {c c' : Chain} {id : Nat}

theorem Mirrors.map_updates_iff {old? : Option ObjectColumns} :
    old?.map (·.updates columns) = old?.map f ↔ ∀ old, old? = some old → old.updates columns = f old := by
  cases old? <;> simp

section
variable (hm : Mirrors db c)
include hm

namespace Mirrors

/-- An update of one row mirrors a change of the object if it gives each column its value. -/
theorem updateObject_iff (hobjects : ∀ id', c'.objectView id' =
      if id' = id then (c.objectView id').map f else c.objectView id')
    (hbuckets : ∀ id', c'.bucketView id' = c.bucketView id') :
    Mirrors (db.exec (.updateObject ⟨id, columns, false⟩)) c' ↔
      ∀ old, c.objectView id = some old → old.updates columns = f old := by
  rw [← Mirrors.map_updates_iff]
  constructor
  · intro hm'
    have hview := hm'.objects id
    rwa [DB.objectView_updateObject, hobjects, hm.objects, if_pos rfl, if_pos rfl,
      if_neg Bool.false_ne_true] at hview
  · intro hview
    refine ⟨fun id' => ?_, fun id' => ?_⟩
    · rw [DB.objectView_updateObject, hobjects, hm.objects]
      by_cases h : id' = id
      · subst h
        rw [if_pos rfl, if_pos rfl, if_neg Bool.false_ne_true]
        exact hview
      · rw [if_neg h, if_neg h]
    · rw [hbuckets]
      exact hm.buckets id'

theorem removeObject :
    Mirrors (db.exec (.updateObject ⟨id, {}, true⟩)) (c.removeObject id) := by
  refine ⟨fun id' => ?_, hm.buckets⟩
  rw [DB.objectView_updateObject, objectView_removeObject, hm.objects]
  simp

theorem saveObject_iff (hwf : c.WellFormed) {b : ChainBucket} {rowID : Nat}
    {columns' : ObjectColumns} {stored : Bool} :
    Mirrors (db.exec (.saveObject name rowID ⟨c.nextObjectID, columns, false⟩))
      (c.addObject b columns' stored) ↔ columns = columns' ∧ db.Free name rowID := by
  constructor
  · intro hm'
    have hview (id) := hm'.objects id
    simp only [DB.objectView_saveObject, objectView_addObject hwf] at hview
    refine ⟨by simpa using hview c.nextObjectID, or_iff_not_imp_left.mpr fun hid id hlive hplace => ?_⟩
    rw [hm.objects] at hlive
    have hne : id ≠ c.nextObjectID := by
      rintro rfl
      rw [objectView_next hwf] at hlive
      cases hlive
    have hview := hview id
    rw [if_neg hne, if_neg hne, if_pos ⟨hid, hplace⟩] at hview
    rw [← hview] at hlive
    cases hlive
  · rintro ⟨rfl, hfree⟩
    refine ⟨fun id' => ?_, hm.buckets⟩
    rw [hfree.objectView_saveObject, objectView_addObject hwf, hm.objects]
    simp

theorem updateBucket_iff {columns : BucketColumns} {f : BucketColumns → BucketColumns} :
    Mirrors (db.exec (.updateBucket id columns false)) (c.setBucket id f) ↔
      ∀ old, c.bucketView id = some old → old.updates columns = f old := by
  have hmap : (c.bucketView id).map (·.updates columns) = (c.bucketView id).map f ↔
      ∀ old, c.bucketView id = some old → old.updates columns = f old := by
    cases c.bucketView id <;> simp
  rw [← hmap]
  constructor
  · intro hm'
    have hview := hm'.buckets id
    simpa [bucketView_setBucket, hm.buckets] using hview
  intro hview
  refine ⟨hm.objects, fun id' => ?_⟩
  rw [DB.bucketView_updateBucket, bucketView_setBucket, hm.buckets]
  by_cases h : id' = id
  · subst h
    simpa using hview
  · simp [h]

theorem removeBucket :
    Mirrors (db.exec (.updateBucket id {} true)) (c.removeBucket id) := by
  refine ⟨hm.objects, fun id' => ?_⟩
  rw [DB.bucketView_updateBucket, bucketView_removeBucket, hm.buckets]
  simp

/-- The sizes of buckets are not among the columns. -/
theorem sizes {objectID : Nat} {op : SizeOp} :
    Mirrors ((db.exec (.updateStorageSize objectID name op)).exec (.updateChargeSize objectID name op))
      c :=
  ⟨hm.objects, fun id' => by simpa using hm.buckets id'⟩

end Mirrors

end

end

section

variable {db db' : DB} {before : World} {c c' : Chain} {a : Act} {events : List Event}

variable {id : Nat} {q : ChainObject → Bool} {o : ChainObject}

theorem objectView_of_objectIf (h : c.objectIf id q = some o) :
    c.objectView id = some o.columns ∧ q o = true := by
  obtain ⟨ho, hq⟩ := filter_eq_some_iff.mp h
  exact ⟨by rw [objectView, ho]; rfl, hq⟩

/-- A change of one object that its event writes in full. -/
theorem Mirrors.setColumns_iff (hm : Mirrors db c) :
    Mirrors (db.exec (.updateObject ⟨id, columns, false⟩)) (c.setColumns id f) ↔
      ∀ old, c.objectView id = some old → old.updates columns = f old :=
  hm.updateObject_iff (fun _ => objectView_setColumns) fun _ => rfl

theorem updates_not_updating {old : ObjectColumns} (h : old.isUpdating = true) (new : ObjectColumns) :
    (old.updates new).isUpdating = true := by
  cases hnew : new.isUpdating <;> simp [updates, written, h, hnew]

section
variable (hm : Mirrors db c) (ho : c.objectIf id q = some o) (hup : o.columns.isUpdating = true)
include hm ho hup

theorem Mirrors.not_sealed_update {payloadSize version : Nat} {checksums : List Nat}
    (happ : Applies before.db
      [.updateObjectContentSuccess id name payloadSize checksums version,
       .sealObject id name .sealed checksums] db db') (hf : ∀ old, (f old).isUpdating = false) :
    ¬ Mirrors db' (c.setColumns id f) := by
  intro hm'
  obtain ⟨_, hsuccess, hseal⟩ := happ.uncons
  have hview := hm'.objects id
  rw [hseal.sized rfl rfl, hsuccess.entry rfl] at hview
  simp only [DB.execAll, List.foldl_cons, List.foldl_nil, DB.objectView_updateObject,
    DB.objectView_updateSizes, objectView_setColumns, hm.objects, (objectView_of_objectIf ho).1,
    if_true, map_some, some.injEq, Bool.false_eq_true, if_false] at hview
  have heq := congrArg isUpdating hview
  rw [updates_not_updating (updates_not_updating hup _), hf] at heq
  cases heq

end

/-- An act other than a copy mirrors exactly if it sets no column to zero. -/
theorem Mirrors.act_iff (hm : Mirrors db c) (hwf : c.WellFormed)
    (hstep : c.step a = some (c', events)) (happ : Applies before.db events db db')
    (hcopy : ∀ src bucketID visibility, a ≠ .copyObject src bucketID visibility) :
    Mirrors db' c' ↔ WritesNoZero before ⟨c, db⟩ a := by
  cases a with
  | createObject =>
    obtain ⟨_, -, ⟨⟩⟩ := map_eq_some_iff.mp hstep
    rw [happ.entry rfl]
    exact (hm.saveObject_iff hwf).trans (iff_of_true ⟨rfl, .inl rfl⟩ trivial)
  | copyObject src bucketID visibility => exact absurd rfl (hcopy src bucketID visibility)
  | sealObject =>
    obtain ⟨_, ho, ⟨⟩⟩ := map_eq_some_iff.mp hstep
    rw [happ.sized rfl rfl]
    refine (hm.sizes.updateObject_iff (fun _ => objectView_seal) fun _ => rfl).trans
      (iff_of_true (fun old hold => ?_) trivial)
    rw [(objectView_of_objectIf ho).1] at hold
    cases hold
    simp [updates, written]
  | cancelCreateObject | rejectSealObject =>
    obtain ⟨_, -, ⟨⟩⟩ := map_eq_some_iff.mp hstep
    rw [happ.entry rfl]
    exact iff_of_true hm.removeObject trivial
  | updateObjectInfo | updateObjectContent | discontinueObject =>
    obtain ⟨_, -, ⟨⟩⟩ := map_eq_some_iff.mp hstep
    rw [happ.entry rfl]
    exact hm.setColumns_iff.trans (iff_of_true (fun old _ => rfl) trivial)
  | sealUpdate =>
    obtain ⟨_, ho, ⟨⟩⟩ := map_eq_some_iff.mp hstep
    have hup := (Bool.and_eq_true_iff.mp (objectView_of_objectIf ho).2).2
    exact iff_of_false (hm.not_sealed_update ho hup happ fun _ => rfl) not_false
  | cancelUpdateObjectContent | rejectUpdate =>
    obtain ⟨_, ho, ⟨⟩⟩ := map_eq_some_iff.mp hstep
    rw [happ.entry rfl]
    obtain ⟨hview, hup⟩ := objectView_of_objectIf ho
    -- the end of the update does not reach the row
    refine iff_of_false (fun hm' => ?_) not_false
    have heq := congrArg isUpdating (hm.setColumns_iff.mp hm' _ hview)
    rw [updates_not_updating hup] at heq
    cases heq
  | deleteObject =>
    obtain ⟨_, -, ⟨⟩⟩ := map_eq_some_iff.mp hstep
    rw [happ.sized rfl rfl]
    exact iff_of_true hm.sizes.removeObject trivial
  | createBucket =>
    obtain ⟨-, ⟨⟩⟩ := ite_none_left_eq_some.mp hstep
    rw [happ.entry rfl]
    refine iff_of_true ⟨hm.objects, fun id' => ?_⟩ trivial
    change (db.exec (.saveBucket _)).bucketView id' = _
    rw [DB.bucketView_saveBucket, bucketView_addBucket hwf, hm.buckets]
    simp
  | updateBucketInfo =>
    obtain ⟨_, -, ⟨⟩⟩ := map_eq_some_iff.mp hstep
    rw [happ.entry rfl]
    refine hm.updateBucket_iff.trans (forall_congr' fun old => imp_congr_right fun _ => ?_)
    simp [BucketColumns.updates, written_eq_iff]
  | deleteBucket =>
    obtain ⟨-, hstep⟩ := ite_none_left_eq_some.mp hstep
    obtain ⟨_, -, ⟨⟩⟩ := map_eq_some_iff.mp hstep
    rw [happ.entry rfl]
    exact iff_of_true hm.removeBucket trivial
  | discontinueBucket | migrateBucket | cancelMigrateBucket | rejectMigrateBucket
  | completeMigrateBucket =>
    obtain ⟨_, -, ⟨⟩⟩ := map_eq_some_iff.mp hstep
    rw [happ.entry rfl]
    exact hm.updateBucket_iff.trans (iff_of_true (fun old _ => rfl) trivial)

/-- The row of a copy, whether or not the bucket is charged for it first. -/
theorem copy_mirrors_iff {src dst : Nat} (hsrc : before.db.objectView src = some columns)
    (happ : Applies before.db [.copyObject src dst name] db db') :
    ∃ place, before.db.place src = some place ∧
      (Mirrors db' c' ↔ Mirrors (db.exec (.saveObject name place.2
        ⟨dst, { columns with status := some (newStatus columns.payloadSize) }, false⟩)) c') := by
  obtain ⟨_, _, hextract, hperm, rfl⟩ := happ.one
  rw [extractEventStatements, handleCopyObject, DB.getObject, hsrc, map_map] at hextract
  obtain ⟨place, hplace, rfl⟩ := map_eq_some_iff.mp hextract
  refine ⟨place, hplace, ?_⟩
  rw [Function.comp_apply, elim_some, copyEntries] at hperm
  generalize { columns with status := some (newStatus columns.payloadSize) } = copied at hperm ⊢
  by_cases hempty : columns.payloadSize = 0
  · rw [if_pos hempty] at hperm
    have hsame : ∀ {db₁ db₂ : DB}, (∀ id, db₁.objectView id = db₂.objectView id) →
        (∀ id, db₁.bucketView id = db₂.bucketView id) → (Mirrors db₁ c' ↔ Mirrors db₂ c') := by
      intro _ _ hobjects hbuckets
      refine ⟨fun h => ⟨fun id => ?_, fun id => ?_⟩, fun h => ⟨fun id => ?_, fun id => ?_⟩⟩
      · exact (hobjects id).symm.trans (h.objects id)
      · exact (hbuckets id).symm.trans (h.buckets id)
      · exact (hobjects id).trans (h.objects id)
      · exact (hbuckets id).trans (h.buckets id)
    rcases List.perm_pair.mp hperm with rfl | rfl
    · exact hsame (fun _ => rfl) (by simp [DB.execAll])
    · exact hsame (fun _ => rfl) (by simp [DB.execAll])
  · rw [if_neg hempty] at hperm
    rw [List.perm_singleton.mp hperm]
    exact .rfl

/-- A copy has the columns that the chain gives it exactly if they are those of its source. -/
theorem Mirrors.copy_iff (hm : Mirrors db c) (hwf : c.WellFormed) {src bucketID : Nat}
    {visibility : Visibility} (hstep : c.step (.copyObject src bucketID visibility) = some (c', events))
    (happ : Applies before.db events db db') (hbefore : before.db.objectView src = some columns)
    (hsrc : c.objectView src = some columns) :
    Mirrors db' c' ↔ (columns.isUpdating = false ∧ columns.version = 0 ∧
      columns.visibility = some visibility) ∧ CopyFits before ⟨c, db⟩ src bucketID := by
  obtain ⟨b, hb, hstep⟩ := bind_eq_some_iff.mp hstep
  obtain ⟨o, ho, ⟨⟩⟩ := map_eq_some_iff.mp hstep
  obtain rfl : o.columns = columns := by simpa [objectView, ho] using hsrc
  obtain ⟨place, hplace, hiff⟩ := copy_mirrors_iff hbefore happ
  rw [hiff, hm.saveObject_iff hwf]
  refine and_congr ⟨fun heq => ?_, ?_⟩ (by simp [CopyFits, hb, hplace])
  · exact ⟨congrArg isUpdating heq, congrArg version heq, congrArg ObjectColumns.visibility heq⟩
  · rintro ⟨hup, hversion, hvisibility⟩
    rw [← hvisibility, ← hup, ← hversion]

theorem Mirrors.act (hbefore : Mirrors before.db before.chain) (hm : Mirrors db c)
    (hwf : c.WellFormed) (hmeets : WritesNoZero before ⟨c, db⟩ a) (hstep : c.step a = some (c', events))
    (happ : Applies before.db events db db') : Mirrors db' c' := by
  by_cases hcopy : ∃ src bucketID visibility, a = .copyObject src bucketID visibility
  · obtain ⟨src, _, _, rfl⟩ := hcopy
    obtain ⟨⟨_, hold, hsrc, hcolumns⟩, hfits⟩ := hmeets
    exact (hm.copy_iff hwf hstep happ ((hbefore.objects src).trans hold) hsrc).mpr ⟨hcolumns, hfits⟩
  · refine (hm.act_iff hwf hstep happ fun src bucketID visibility h => ?_).mpr hmeets
    exact hcopy ⟨src, bucketID, visibility, h⟩

end

/-- From rows that mirror the chain, the rows mirror it after every block of a run in which no act
sets a column to zero, and a block of one act keeps them exactly if the act does not. -/
theorem rows_mirror_chain {w : World} (hwf : w.chain.WellFormed) (hm : Mirrors w.db w.chain) :
    (∀ w', Reaches WritesNoZero w w' → Mirrors w'.db w'.chain) ∧
    ∀ a w', Block [a] w w' → (Mirrors w'.db w'.chain ↔ WritesNoZero w w a) := by
  constructor
  · intro _ hreach
    refine (hreach.invariant (fun db c => Mirrors db c ∧ c.WellFormed) ⟨hm, hwf⟩ ?_).1
    rintro _ _ _ _ _ _ _ ⟨hbefore, -⟩ ⟨hm, hwf⟩ hmeets hstep happ
    exact ⟨hbefore.act hm hwf hmeets hstep happ, hwf.step hstep⟩
  · intro a _ hblock
    obtain ⟨_, hstep, hcommit⟩ := hblock.one
    by_cases hcopy : ∃ src bucketID visibility, a = .copyObject src bucketID visibility
    · obtain ⟨src, _, _, rfl⟩ := hcopy
      obtain ⟨columns, hsrc⟩ : ∃ columns, w.chain.objectView src = some columns := by
        obtain ⟨_, -, hstep⟩ := bind_eq_some_iff.mp hstep
        obtain ⟨o, ho, -⟩ := map_eq_some_iff.mp hstep
        exact ⟨o.columns, by rw [objectView, ho]; rfl⟩
      rw [hm.copy_iff hwf hstep hcommit ((hm.objects src).trans hsrc) hsrc]
      refine and_congr_left fun _ => ⟨fun hcolumns => ⟨columns, hsrc, hsrc, hcolumns⟩, ?_⟩
      rintro ⟨columns', hsrc', -, hcolumns⟩
      obtain rfl : columns = columns' := some.inj (hsrc.symm.trans hsrc')
      exact hcolumns
    · refine hm.act_iff hwf hstep hcommit fun src bucketID visibility h => ?_
      exact hcopy ⟨src, bucketID, visibility, h⟩

/-- A sealed object is copied into a bucket of another shard, and then deleted. -/
theorem rows_mirror_chain_sample :
    ∃ w, Reaches WritesNoZero (emptyWorld (· % 64)) w ∧ w.chain.objectView 2 ≠ none ∧
      Mirrors w.db w.chain := by
  have hwf : (emptyWorld (· % 64)).chain.WellFormed := ⟨by decide, by decide⟩
  have hsealed : Acts WritesNoZero (emptyWorld (· % 64)) sealedActs (emptyWorld (· % 64)) _ :=
    .cons trivial rfl (.of_process rfl) <| .cons trivial rfl (.of_process rfl) <|
      .cons trivial rfl (.of_process rfl) <| .cons trivial rfl (.of_process rfl) .nil
  have hreach : ∃ w, Reaches WritesNoZero (emptyWorld (· % 64)) w ∧ w.chain.objectView 2 ≠ none := by
    refine ⟨_, .tail (.single ⟨_, hsealed⟩) ⟨[.copyObject 1 2 .publicRead, .deleteObject 1],
      .cons ⟨⟨_, rfl, rfl, rfl, rfl, rfl⟩, ?_⟩ rfl (.of_process rfl) <|
        .cons trivial rfl (.of_process rfl) .nil⟩, by decide⟩
    intro b place hb hplace
    cases hb
    cases hplace
    refine .inr fun id _ => ?_
    change (if id = 1 then some (7, 1) else none) ≠ some (8, 1)
    split <;> simp
  obtain ⟨w, hreach, hobject⟩ := hreach
  exact ⟨w, hreach, hobject, (rows_mirror_chain hwf ⟨fun _ => rfl, fun _ => rfl⟩).1 w hreach⟩

/-- A sealed object is updated, and the update is sealed: its row still says that it is being
updated. -/
theorem finished_update_not_written :
    ∃ w₁ w₂ w₃, Block sealedActs (emptyWorld (· % 64)) w₁ ∧ Block [.updateObjectContent 1] w₁ w₂ ∧
      Block [.sealUpdate 1 300 [9]] w₂ w₃ ∧
      (w₃.chain.objectView 1).map (·.isUpdating) = some false ∧
      (w₃.db.objectView 1).map (·.isUpdating) = some true ∧ ¬ Mirrors w₃.db w₃.chain := by
  have hexec : ((((emptyWorld (· % 64)).block sealedActs).bind fun w₁ =>
      (w₁.block [.updateObjectContent 1]).bind fun w₂ => (w₂.block [.sealUpdate 1 300 [9]])).map
      fun w₃ => ((w₃.chain.objectView 1).map (·.isUpdating),
        (w₃.db.objectView 1).map (·.isUpdating))) = some (some false, some true) := by decide
  obtain ⟨w₃, hw, hviews⟩ := map_eq_some_iff.mp hexec
  obtain ⟨w₁, hw₁, hw⟩ := bind_eq_some_iff.mp hw
  obtain ⟨w₂, hw₂, hw₃⟩ := bind_eq_some_iff.mp hw
  obtain ⟨hchain, hrow⟩ := Prod.mk.inj hviews
  refine ⟨w₁, w₂, w₃, .of_block hw₁, .of_block hw₂, .of_block hw₃, hchain, hrow, fun hm => ?_⟩
  rw [hm.objects, hchain] at hrow
  cases hrow

end Blocksyncer

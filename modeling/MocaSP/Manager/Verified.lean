-- SUMMARY: When a completed GVG was verified object by object.
import MocaSP.Base.Run
import MocaSP.Manager.VerifyGVG

/-!
# A completed GVG was verified

The verifier goes on to the next batch even when it has left one early, and takes
an object that is missing from the table of failed objects as a recovered one, also
when it never got into the table. It keeps the objects that passed by their ids,
whatever their versions. A run is `Steady` when a batch is never left early and the
objects keep their versions; then a GVG is completed only when every object of the
pass has passed, or is not on chain.
-/

namespace Manager.VerifyGVG
open List Verifier

open Piece
open Std (TreeMap)

variable {Digest : Type}

/-! ## Steady runs -/

section
variable (s : State Digest)

/-- The object passed, in the version in which it is listed, or the chain does not
have it. -/
def Passed (o : ObjectInfo Digest) : Prop := (o.id, o.version) ∈ s.verified ∨ o.id ∈ s.gone

/-- Every object of a pass that completed the GVG has passed. -/
def AllPassed : Prop := ∀ pass ∈ s.completed, ∀ o ∈ pass, Passed s o

/-- The object has the version in which it passed, and in which it is listed. -/
def SameVersion (o : ObjectInfo Digest) : Prop :=
  (∀ v ∈ s.verified, v.1 = o.id → v.2 = o.version) ∧
    ∀ l ∈ s.listed, l.id = o.id → l.version = o.version

/-- No read fails while a batch is checked, what does not pass is recorded, and the
objects keep their versions. -/
def Steady : Act Digest → Prop
  | .tick _ objects => ∀ list ∈ objects, ∀ o ∈ list, SameVersion s o ∧
      ∀ l ∈ list, l.id = o.id → l.version = o.version
  | .check read => read ≠ .error .fails
  | .insert w => w = .ok
  | .ask _ metadata _ | .retry metadata _ _ _ _ => ∀ o ∈ metadata, SameVersion s o
  | _ => True

/-! ## What is kept -/

/-- An object that passed in some version, or that the chain does not have. -/
def Settled (id : Nat) : Prop := id ∈ s.gone ∨ ∃ v, (id, v) ∈ s.verified

/-- The objects that are still to be checked. -/
def Verifier.unchecked : Verifier Digest → List (ObjectInfo Digest)
  | .checking objects | .inserting _ objects => objects
  | _ => []

/-- The failed objects that the verifier goes through, and how it counts them. -/
def StageOk : Verifier Digest → Prop
  | .finishing ids count _ => count = s.verifyFailedObjects.length ∧ ids.Nodup ∧
      ∀ id ∈ ids, id ∈ s.verifyFailedObjects
  | .asking id _ ids count _ => count = s.verifyFailedObjects.length ∧ (id :: ids).Nodup ∧
      ∀ j ∈ id :: ids, j ∈ s.verifyFailedObjects
  | .deleting id ids count _ => (count = s.verifyFailedObjects.length ∧ (id :: ids).Nodup ∧
      ∀ j ∈ id :: ids, j ∈ s.verifyFailedObjects) ∧ Settled s id
  | _ => True

variable {s} in
/-- The loop comes to one of the failed objects. -/
theorem StageOk.take {id : Nat} {ids : List Nat} {count discontinue : Nat}
    (h : StageOk s (.finishing ids count discontinue)) (hid : id ∈ ids) :
    count = s.verifyFailedObjects.length ∧ (id :: ids.erase id).Nodup ∧
      ∀ j ∈ id :: ids.erase id, j ∈ s.verifyFailedObjects := by
  have hperm := perm_cons_erase hid
  exact ⟨h.1, hperm.nodup_iff.mp h.2.1, fun j hj => h.2.2 j (hperm.mem_iff.mpr hj)⟩

structure Kept : Prop where
  nodup : s.verifyFailedObjects.Nodup
  /-- A failed object is in the table until it is settled. -/
  recorded : ∀ id ∈ s.verifyFailedObjects,
    id ∈ s.failed ∨ (∃ rest, s.verifier = .inserting id rest) ∨ Settled s id
  success : ∀ id ∈ s.verifySuccessObjects, Settled s id
  covered : ∀ o ∈ s.listed, o ∈ s.verifier.unchecked ∨ o.id ∈ s.verifyFailedObjects ∨ Settled s o.id
  checks : ∀ o ∈ s.verifier.unchecked, o ∈ s.listed
  versions : ∀ o ∈ s.listed, SameVersion s o
  stage : StageOk s s.verifier
  retrier : ∀ id rest, s.retrier = .deleting id rest → Settled s id
  completed : AllPassed s

end

variable {s s' : State Digest}

/-- A step records only more of what passed, and of what is gone. -/
structure Grows (s s' : State Digest) : Prop where
  verified : ∀ v ∈ s.verified, v ∈ s'.verified
  gone : ∀ id ∈ s.gone, id ∈ s'.gone

variable {id : Nat}

theorem Grows.settled (h : Grows s s') (hsettled : Settled s id) : Settled s' id := by
  rcases hsettled with hgone | ⟨v, hv⟩
  · exact .inl (h.gone id hgone)
  · exact .inr ⟨v, h.verified _ hv⟩

variable {o : ObjectInfo Digest}

theorem Grows.passed (h : Grows s s') (hpassed : Passed s o) : Passed s' o :=
  hpassed.imp (h.verified _) (h.gone _)

variable {v : Verifier Digest}

/-! ## Parts of steps -/

/-- More has passed, in versions that are those of the listed objects. -/
theorem Kept.grow {verified : List (Nat × Int)} {gone : List Nat} (h : Kept s)
    (hgrows : Grows s { s with verified, gone })
    (hversions : ∀ v ∈ verified, v ∉ s.verified → ∀ l ∈ s.listed, l.id = v.1 → l.version = v.2) :
    Kept { s with verified, gone } where
  __ := h
  recorded id hid := (h.recorded id hid).imp_right (.imp_right hgrows.settled)
  success id hid := hgrows.settled (h.success id hid)
  covered o ho := (h.covered o ho).imp_right (.imp_right hgrows.settled)
  versions o ho := by
    refine ⟨fun v hv heq => ?_, (h.versions o ho).2⟩
    by_cases hold : v ∈ s.verified
    · exact (h.versions o ho).1 v hold heq
    · exact (hversions v hv hold o ho heq.symm).symm
  stage := by
    have hstage := h.stage
    cases hv : s.verifier with rw [hv] at hstage
    | deleting => exact ⟨hstage.1, hgrows.settled hstage.2⟩
    | _ => exact hstage
  retrier id rest hid := hgrows.settled (h.retrier id rest hid)
  completed pass hpass o ho := hgrows.passed (h.completed pass hpass o ho)

/-- An object passes in its version. -/
theorem Kept.pass (h : Kept s) (ho : SameVersion s o) :
    Kept { s with verified := (o.id, o.version) :: s.verified } := by
  refine h.grow ⟨fun _ hv => .tail _ hv, fun _ hid => hid⟩ fun v hv hnew l hl heq => ?_
  rcases mem_cons.mp hv with rfl | hold
  · exact ho.2 l hl heq
  · exact absurd hold hnew

theorem Kept.lose (h : Kept s) : Kept { s with gone := id :: s.gone } :=
  h.grow ⟨fun _ hv => hv, fun _ hid => .tail _ hid⟩ fun _ hv hnew => absurd hv hnew

/-- The table changes, without a row of an object that is not settled. -/
theorem Kept.setFailed {failed : TreeMap Nat RecoverFailedObject} (h : Kept s)
    (hrows : ∀ id ∈ s.failed, id ∈ failed ∨ Settled s id) : Kept { s with failed } where
  __ := h
  recorded id hid := by
    rcases h.recorded id hid with hrow | hrest
    · exact (hrows id hrow).imp_right .inr
    · exact .inr hrest

/-- The verifier goes on, and leaves no object behind. -/
theorem Kept.setVerifier (h : Kept s)
    (hinsert : ∀ id rest, s.verifier = .inserting id rest → id ∈ s.failed)
    (hleft : ∀ o ∈ s.verifier.unchecked, o ∈ v.unchecked ∨ o.id ∈ s.verifyFailedObjects ∨ Settled s o.id)
    (hchecks : ∀ o ∈ v.unchecked, o ∈ s.listed) (hstage : StageOk s v) :
    Kept { s with verifier := v } where
  __ := h
  recorded id hid := by
    rcases h.recorded id hid with hrow | ⟨rest, hrest⟩ | hsettled
    · exact .inl hrow
    · exact .inl (hinsert id rest hrest)
    · exact .inr (.inr hsettled)
  covered o ho := by
    rcases h.covered o ho with hunchecked | hrest
    · exact hleft o hunchecked
    · exact .inr hrest
  checks := hchecks
  stage := hstage

theorem Kept.setRetrier {r : Retrier} (h : Kept s)
    (hr : ∀ id rest, r = .deleting id rest → Settled s id) : Kept { s with retrier := r } where
  __ := h
  retrier := hr

variable {count discontinue : Nat} {ids : List Nat}

theorem Kept.recorded_or_settled (h : Kept s) (hinsert : ∀ rest, s.verifier ≠ .inserting id rest)
    (hid : id ∈ s.verifyFailedObjects) : id ∈ s.failed ∨ Settled s id := by
  rcases h.recorded id hid with hrow | ⟨rest, hrest⟩ | hsettled
  · exact .inl hrow
  · exact absurd hrest (hinsert rest)
  · exact .inr hsettled

/-- A settled object does not count any more. -/
theorem Kept.drop (h : Kept s) (hunchecked : s.verifier.unchecked = [])
    (hinsert : ∀ id rest, s.verifier ≠ .inserting id rest)
    (hcount : count = s.verifyFailedObjects.length) (hnodup : (id :: ids).Nodup)
    (hmem : ∀ j ∈ id :: ids, j ∈ s.verifyFailedObjects) (hsettled : Settled s id) : Kept { s with
      verifyFailedObjects := s.dropFailed id
      verifier := .finishing ids (count - 1) discontinue } where
  __ := h
  nodup := h.nodup.erase id
  recorded j hj := (h.recorded_or_settled (hinsert j) (mem_of_mem_erase hj)).imp_right .inr
  covered o ho := by
    rcases h.covered o ho with hrest | hfailed | hsettled'
    · rw [hunchecked] at hrest
      cases hrest
    · by_cases heq : o.id = id
      · exact .inr (.inr (heq ▸ hsettled))
      · exact .inr (.inl ((mem_erase_of_ne heq).mpr hfailed))
    · exact .inr (.inr hsettled')
  checks o ho := by cases ho
  stage := by
    obtain ⟨hnotin, hrest⟩ := nodup_cons.mp hnodup
    refine ⟨?_, hrest, fun j hj => ?_⟩
    · rw [hcount]
      exact (length_erase_of_mem (hmem id (.head _))).symm
    · have hne : j ≠ id := fun heq => hnotin (heq ▸ hj)
      exact (mem_erase_of_ne hne).mpr (hmem j (.tail _ hj))

theorem Kept.move {curStartAfter : Nat} {status : GVGStatus} (h : Kept s) :
    Kept { s with curStartAfter, status } :=
  { h with }

variable {objects : List (ObjectInfo Digest)}

/-- A batch is listed. -/
theorem Kept.list (h : Kept s) (hidle : s.verifier = .idle)
    (hversions : ∀ o ∈ objects, SameVersion s o ∧ ∀ l ∈ objects, l.id = o.id → l.version = o.version) :
    Kept { s with listed := s.listed ++ objects, verifier := .checking objects } where
  __ := h
  recorded id hid := (h.recorded_or_settled (by simp [hidle]) hid).imp_right .inr
  covered o ho := by
    rcases mem_append.mp ho with hold | hnew
    · exact .inr ((h.covered o hold).resolve_left (by simp [hidle, unchecked]))
    · exact .inl hnew
  checks o ho := mem_append_right _ ho
  versions o ho := by
    rcases mem_append.mp ho with hold | hnew
    · refine ⟨(h.versions o hold).1, fun l hl heq => ?_⟩
      rcases mem_append.mp hl with hl | hl
      · exact (h.versions o hold).2 l hl heq
      · exact ((hversions l hl).1.2 o hold heq.symm).symm
    · obtain ⟨⟨hverified, hlisted⟩, hbatch⟩ := hversions o hnew
      refine ⟨hverified, fun l hl heq => ?_⟩
      rcases mem_append.mp hl with hl | hl
      · exact hlisted l hl heq
      · exact hbatch l hl heq
  stage := trivial

variable {rest : List (ObjectInfo Digest)}

/-- An object does not pass. -/
theorem Kept.fail (h : Kept s) (hchecking : s.verifier = .checking (o :: rest)) : Kept { s with
      verifyFailedObjects := s.verifyFailedObjects.insert o.id
      verifier := .inserting o.id rest } where
  __ := h
  nodup := h.nodup.insert
  recorded id hid := by
    rcases mem_insert_iff.mp hid with rfl | hid
    · exact .inr (.inl ⟨rest, rfl⟩)
    · exact (h.recorded_or_settled (by simp [hchecking]) hid).imp_right .inr
  covered l hl := by
    rcases h.covered l hl with hunchecked | hfailed | hsettled
    · rw [hchecking] at hunchecked
      rcases mem_cons.mp hunchecked with rfl | hrest
      · exact .inr (.inl mem_insert_self)
      · exact .inl hrest
    · exact .inr (.inl (mem_insert_of_mem hfailed))
    · exact .inr (.inr hsettled)
  checks l hl := h.checks l (by rw [hchecking]; exact .tail _ hl)
  stage := trivial

/-- An object that passed is not checked again. -/
theorem Kept.succeed (h : Kept s) (hsettled : Settled s id) :
    Kept { s with verifySuccessObjects := id :: s.verifySuccessObjects } where
  __ := h
  success j hj := by
    rcases mem_cons.mp hj with rfl | hj
    · exact hsettled
    · exact h.success j hj

/-! ## The verifier -/

theorem unchecked_afterCheck : (afterCheck objects).unchecked = objects := by
  unfold afterCheck
  split
  next hnil => exact hnil.symm
  · rfl

theorem stageOk_afterCheck : StageOk s (afterCheck objects) := by
  unfold afterCheck
  split
  · trivial
  · trivial

theorem kept_tick {statsFails : Bool} {objects : Option (List (ObjectInfo Digest))} (h : Kept s)
    (hsteady : Steady s (.tick statsFails objects)) (hidle : s.verifier = .idle) :
    Kept (stepTick s statsFails objects) := by
  have hnone : ∀ id rest, s.verifier = .inserting id rest → id ∈ s.failed := by simp [hidle]
  have hunchecked : ∀ o ∈ s.verifier.unchecked, False := by simp [hidle, unchecked]
  unfold stepTick
  split
  · exact h
  split
  · exact h.setVerifier hnone (fun o ho => (hunchecked o ho).elim) (fun o ho => by cases ho) trivial
  · exact h
  · exact h
  rename_i list _
  split
  · have hfinishing := h.setVerifier
      (v := .finishing s.verifyFailedObjects s.verifyFailedObjects.length 0) hnone
      (fun o ho => (hunchecked o ho).elim) (fun o ho => by cases ho)
      ⟨rfl, h.nodup, fun id hid => hid⟩
    exact hfinishing.move
  · exact (h.list hidle (hsteady list rfl)).move

section
variable [DecidableEq Digest] {H : Hash Digest} {redundancyIndex : Int}

variable {read : IntegrityRead Digest}

theorem kept_check (h : Kept s) (hsteady : Steady s (.check read))
    (hchecking : s.verifier = .checking (o :: rest)) :
    Kept (stepCheck H redundancyIndex s o rest read) := by
  have hlisted : ∀ l ∈ o :: rest, l ∈ s.listed := by
    intro l hl
    exact h.checks l (by rw [hchecking]; exact hl)
  have hgoOn : ∀ {s' : State Digest}, Kept s' → s'.verifier = s.verifier → s'.listed = s.listed →
      Settled s' o.id → Kept { s' with verifier := afterCheck rest } := by
    intro _ h' hverifier hlist hsettled
    refine h'.setVerifier (by simp [hverifier, hchecking]) ?_ ?_ stageOk_afterCheck
    · intro _ hl
      rw [hverifier, hchecking] at hl
      rw [unchecked_afterCheck]
      rcases mem_cons.mp hl with rfl | hl
      · exact .inr (.inr hsettled)
      · exact .inl hl
    · intro l hl
      rw [unchecked_afterCheck] at hl
      rw [hlist]
      exact hlisted l (.tail _ hl)
  unfold stepCheck
  split
  next hsuccess => exact hgoOn h rfl rfl (h.success o.id hsuccess)
  split
  next herror =>
    unfold verifyIntegrity at herror
    split at herror
    · cases herror
    · exact absurd rfl hsteady
    · cases herror
  · exact h.fail hchecking
  have hpassed := h.pass (h.versions o (hlisted o (.head _)))
  have hsettled : Settled { s with verified := (o.id, o.version) :: s.verified } o.id :=
    .inr ⟨o.version, .head _⟩
  exact hgoOn (hpassed.succeed hsettled) rfl rfl hsettled

/-- A failed object that is in the table is asked about. -/
theorem kept_ask {row : RecoverFailedObject} {chain : ChainAnswer}
    {metadata : Option (ObjectInfo Digest)} (h : Kept s)
    (hsteady : Steady s (.ask chain metadata read))
    (hasking : s.verifier = .asking id row ids count discontinue)
    (hid : ∀ o ∈ metadata, o.id = id) :
    Kept (stepAsk H redundancyIndex s id row ids count discontinue chain metadata read) := by
  have hstage := h.stage
  rw [hasking] at hstage
  obtain ⟨hcount, hnodup, hmem⟩ := hstage
  have hgoOn : ∀ {s' : State Digest} {v : Verifier Digest}, Kept s' → s'.verifier = s.verifier →
      v.unchecked = [] → StageOk s' v → Kept { s' with verifier := v } := by
    intro _ _ h' hverifier hunchecked hv
    refine h'.setVerifier ?_ ?_ ?_ hv
    · simp [hverifier, hasking]
    · simp [hverifier, hasking, unchecked]
    · simp [hunchecked]
  have hskip : ∀ d, StageOk s (.finishing ids count d) := fun _ =>
    ⟨hcount, (nodup_cons.mp hnodup).2, fun j hj => hmem j (.tail _ hj)⟩
  unfold stepAsk
  split
  · exact hgoOn h rfl rfl (hskip _)
  · exact hgoOn h.lose rfl rfl ⟨⟨hcount, hnodup, hmem⟩, .inl (.head _)⟩
  split
  · exact hgoOn h rfl rfl (hskip _)
  split
  · exact hgoOn h rfl rfl (hskip _)
  rename_i o
  split
  · exact hgoOn h rfl rfl (hskip _)
  · exact hgoOn h rfl rfl (hskip _)
  · refine hgoOn (h.pass (hsteady o rfl)) rfl rfl ⟨⟨hcount, hnodup, hmem⟩, .inr ⟨o.version, ?_⟩⟩
    rw [← hid o rfl]
    exact .head _

end

variable {row : RecoverFailedObject} {objectID : Nat}

theorem mem_insertRecoverFailedObject {w : Write} (h : id ∈ s.failed) :
    id ∈ s.insertRecoverFailedObject w objectID row := by
  unfold State.insertRecoverFailedObject
  split
  · exact h
  · exact TreeMap.mem_insertIfNew.mpr (.inr h)

/-- The row of a settled object is removed. -/
theorem Kept.deleteRow {w : Write} (h : Kept s) (hsettled : Settled s id) :
    Kept { s with failed := s.deleteRecoverFailedObject w id } := by
  refine h.setFailed fun j hj => ?_
  by_cases heq : j = id
  · exact .inr (heq ▸ hsettled)
  unfold State.deleteRecoverFailedObject
  split
  · exact .inl hj
  · exact .inl (TreeMap.mem_erase.mpr ⟨by simpa [Nat.compare_eq_eq] using Ne.symm heq, hj⟩)

theorem kept_insert (h : Kept s) (hinserting : s.verifier = .inserting id rest) : Kept { s with
      failed := s.insertRecoverFailedObject .ok id row
      verifier := afterCheck rest } := by
  have hrow : id ∈ s.insertRecoverFailedObject .ok id row := by
    simp [State.insertRecoverFailedObject]
  have hfailed : Kept { s with failed := s.insertRecoverFailedObject .ok id row } :=
    h.setFailed fun j hj => .inl (mem_insertRecoverFailedObject hj)
  refine hfailed.setVerifier (fun j rest' hj => ?_) (fun o ho => ?_) (fun o ho => ?_)
    stageOk_afterCheck
  · rw [show s.verifier = .inserting j rest' from hj] at hinserting
    cases hinserting
    exact hrow
  · rw [unchecked_afterCheck]
    rw [show ({ s with failed := s.insertRecoverFailedObject .ok id row } : State Digest).verifier
      = .inserting id rest from hinserting] at ho
    exact .inl ho
  · rw [unchecked_afterCheck] at ho
    exact h.checks o (by rw [hinserting]; exact ho)

theorem Kept.complete {status : GVGStatus} (h : Kept s) (hall : ∀ o ∈ s.listed, Passed s o) :
    Kept { s with status, completed := s.listed :: s.completed } where
  __ := h
  completed pass hpass := by
    rcases mem_cons.mp hpass with rfl | hpass
    · exact hall
    · exact h.completed pass hpass

theorem kept_conclude {w : Write} (h : Kept s)
    (hfinishing : s.verifier = .finishing [] count discontinue) :
    Kept (stepConclude s count discontinue w) := by
  have hstage := h.stage
  rw [hfinishing] at hstage
  have hend : ∀ {s' : State Digest} {b : Bool}, Kept s' → s'.verifier = s.verifier →
      Kept { s' with listed := [], verifier := if b then .returned else .idle } := by
    intro s' b h' hverifier
    have hinsert : ∀ id rest, s'.verifier ≠ .inserting id rest := by simp [hverifier, hfinishing]
    cases b <;> exact { h' with
      recorded := fun id hid => (h'.recorded_or_settled (hinsert id) hid).imp_right .inr
      covered := nofun
      checks := nofun
      versions := nofun
      stage := trivial }
  unfold stepConclude
  split
  next hzero =>
    have hall : ∀ o ∈ s.listed, Passed s o := by
      intro o ho
      have hempty : s.verifyFailedObjects = [] := eq_nil_of_length_eq_zero (hstage.1.symm.trans hzero)
      rcases h.covered o ho with hunchecked | hfailed | hgone | ⟨v, hv⟩
      · rw [hfinishing] at hunchecked
        cases hunchecked
      · rw [hempty] at hfailed
        cases hfailed
      · exact .inr hgone
      · exact .inl ((h.versions o ho).1 (o.id, v) hv rfl ▸ hv)
    cases w with
    | ok => exact @hend _ true (h.complete hall) rfl
    | fails applied =>
      cases applied with
      | true => exact @hend _ false (h.complete hall) rfl
      | false => exact @hend _ false h rfl
  · by_cases hall : count = discontinue
    · rw [if_pos hall]
      exact @hend _ true h rfl
    · rw [if_neg hall]
      exact @hend _ false h rfl

theorem retrier_afterRetry {rows : List (Nat × RecoverFailedObject)} :
    ∀ id rest, afterRetry rows = .deleting id rest → Settled s id := by
  intro _ _ h
  unfold afterRetry at h
  split at h
  · cases h
  · cases h

section
variable [DecidableEq Digest] {H : Hash Digest} {redundancyIndex : Int}

theorem kept_retry {rest : List (Nat × RecoverFailedObject)} {metadata : Option (ObjectInfo Digest)}
    {countOk : Bool} {read : IntegrityRead Digest} {queued : Bool} {update : Write} (h : Kept s)
    (hsteady : Steady s (.retry metadata countOk read queued update))
    (hid : ∀ o ∈ metadata, o.id = id) :
    Kept (stepRetry H s id row rest metadata countOk read queued update) := by
  unfold stepRetry
  split
  · exact h.setRetrier retrier_afterRetry
  rename_i o
  split
  · exact h.setRetrier retrier_afterRetry
  split
  · exact h.setRetrier retrier_afterRetry
  · refine (h.pass (hsteady o rfl)).setRetrier fun j rest' hj => ?_
    cases hj
    rw [← hid o rfl]
    exact .inr ⟨o.version, .head _⟩
  · split
    · exact h.setRetrier nofun
    have hupdated : ∀ j ∈ s.failed, j ∈ s.updateRecoverFailedObject update id (row.retryTime + 1) := by
      intro _ hj
      unfold State.updateRecoverFailedObject
      split
      · exact hj
      · split
        · exact hj
        · exact TreeMap.mem_insert.mpr (.inr hj)
    refine (h.setFailed fun j hj => .inl (hupdated j hj)).setRetrier fun j rest' hj => ?_
    split at hj
    · exact retrier_afterRetry j rest' hj
    · cases hj

theorem kept_step {act : Act Digest} (h : Kept s) (hsteady : Steady s act)
    (hstep : step H redundancyIndex s act = some s') : Kept s' := by
  -- a step of a thread that is elsewhere is refused
  cases act with (simp only [step] at hstep; try (split at hstep <;> try cases hstep))
  | tick =>
    rename_i hidle
    exact kept_tick h hsteady hidle
  | check =>
    rename_i hchecking
    exact kept_check h hsteady hchecking
  | insert =>
    rename_i hinserting
    cases hsteady
    exact kept_insert h hinserting
  | getFailed =>
    rename_i hfinishing
    have hstage := h.stage
    rw [hfinishing] at hstage
    have hgoOn : ∀ {v : Verifier Digest}, v.unchecked = [] → StageOk s v →
        Kept { s with verifier := v } := by
      intro _ hunchecked hv
      refine h.setVerifier (by rw [hfinishing]; nofun) (by rw [hfinishing]; nofun) ?_ hv
      rw [hunchecked]
      nofun
    split at hstep
    · cases hstep
    rename_i hid
    have hid := not_not.mp hid
    obtain ⟨hcount, hnodup, hmem⟩ := hstage.take hid
    split at hstep
    · cases hstep
      exact hgoOn rfl ⟨hcount, (nodup_cons.mp hnodup).2, fun j hj => hmem j (.tail _ hj)⟩
    split at hstep
    next hrow =>
      cases hstep
      have hinsert : ∀ id rest, s.verifier ≠ .inserting id rest := by
        rw [hfinishing]
        nofun
      refine h.drop (by rw [hfinishing]; rfl) hinsert hcount hnodup hmem ?_
      -- a failed object that is not in the table is settled
      rcases h.recorded_or_settled (hinsert _) (hmem _ (.head _)) with hin | hsettled
      · rw [TreeMap.mem_iff_isSome_getElem?, hrow] at hin
        cases hin
      · exact hsettled
    · cases hstep
      exact hgoOn rfl ⟨hcount, hnodup, hmem⟩
  | ask =>
    rename_i hasking
    split at hstep
    next hid =>
      cases hstep
      exact kept_ask h hsteady hasking hid
    · cases hstep
  | delete =>
    rename_i hdeleting
    have hstage := h.stage
    rw [hdeleting] at hstage
    obtain ⟨⟨hcount, hnodup, hmem⟩, hsettled⟩ := hstage
    refine (h.deleteRow hsettled).drop ?_ ?_ hcount hnodup hmem hsettled
    · rw [show unchecked _ = unchecked _ from congrArg _ hdeleting]
      rfl
    · intro j rest' hj
      rw [show s.verifier = .inserting j rest' from hj] at hdeleting
      cases hdeleting
  | conclude =>
    rename_i hfinishing
    exact kept_conclude h hfinishing
  | scan => exact h.setRetrier retrier_afterRetry
  | retry =>
    split at hstep
    next hid =>
      cases hstep
      exact kept_retry h hsteady hid
    · cases hstep
  | retryDelete =>
    rename_i id rest hdeleting
    exact (h.deleteRow (h.retrier id rest hdeleting)).setRetrier retrier_afterRetry
  | record =>
    cases hstep
    exact h.setFailed fun j hj => .inl (mem_insertRecoverFailedObject hj)
  | process =>
    cases hstep
    exact h.move

/-- In every steady run, a GVG is completed only when the objects of its pass have passed. -/
theorem completed_gvg_was_verified {failed : TreeMap Nat RecoverFailedObject}
    (hrun : Run (step H redundancyIndex) Steady { failed } s) : AllPassed s := by
  suffices Kept s from this.completed
  refine hrun.invariant ?_ fun s act s' h hsteady hstep => kept_step h hsteady hstep
  exact ⟨.nil, nofun, nofun, nofun, nofun, nofun, trivial, nofun, nofun⟩

end

section

instance [DecidableEq Digest] (s : State Digest) (act : Act Digest) : Decidable (Steady s act) := by
  cases act <;> dsimp only [Steady, SameVersion] <;> infer_instance

/-- An object of one byte. -/
def byteObject (id : Nat) (b : UInt8) : ObjectInfo Data := ⟨id, 1, [[], [b]]⟩

/-- Object 2 does not pass at first. It is recovered between the passes, and the second
pass completes the GVG. -/
def twoPasses : List (Act Data) :=
  let both := [byteObject 1 5, byteObject 2 6]
  [.process, .tick false (some both), .check (.ok [[5]]), .check (.error .recordNotFound),
    .insert .ok, .tick false (some []), .getFailed 2 false, .ask .found none (.error .recordNotFound),
    .conclude .ok, .scan, .retry (some (byteObject 2 6)) true (.ok [[6]]) true .ok, .retryDelete .ok,
    .tick false (some both), .check (.error .recordNotFound), .check (.ok [[6]]),
    .tick false (some []), .getFailed 2 false, .conclude .ok]

theorem completed_gvg_was_verified_sample : ∃ s, Run (step plainHash 0) Steady {} s ∧
      s.completed = [[byteObject 1 5, byteObject 2 6]] ∧ AllPassed s := by
  obtain ⟨s, hrun, hcompleted⟩ : ∃ s, Run (step plainHash 0) Steady {} s ∧
      s.completed = [[byteObject 1 5, byteObject 2 6]] :=
    Run.exists_of_exec twoPasses (by decide +kernel)
  exact ⟨s, hrun, hcompleted, completed_gvg_was_verified hrun⟩

/-- The read for the only object fails, and the GVG is completed without a look at it. -/
theorem completed_gvg_not_verified :
    ∃ s, Run (step plainHash 0) (fun _ _ => True) {} s ∧ s.completed = [[byteObject 1 5]] ∧
      ¬ AllPassed s := by
  obtain ⟨s, hrun, hend⟩ : ∃ s, Run (step plainHash 0) (fun _ _ => True) {} s ∧
      s.completed = [[byteObject 1 5]] ∧ s.verified = [] ∧ s.gone = [] :=
    Run.exists_of_exec [.process,
      .tick false (some [byteObject 1 5]), .check (.error .fails), .tick false (some []),
      .conclude .ok] (by decide +kernel)
  obtain ⟨hcompleted, hverified, hgone⟩ := hend
  refine ⟨s, hrun, hcompleted, fun hall => ?_⟩
  have hpassed := hall [byteObject 1 5] (by rw [hcompleted]; simp) (byteObject 1 5) (by simp)
  rw [Passed, hverified, hgone] at hpassed
  simp at hpassed

end

end Manager.VerifyGVG

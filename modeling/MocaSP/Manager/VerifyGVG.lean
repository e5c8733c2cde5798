-- SUMMARY: The schedulers that verify the recovered objects of a GVG.
import MocaSP.Piece.Checksums

/-!
# Verifying a recovered GVG

After the objects of a GVG were recovered, `VerifyGVGScheduler` lists them in
batches and compares the integrity row of each with the checksums of the object.
An object that does not pass is recorded in the table of failed objects.
`RecoverFailedObjectScheduler` retries the objects of that table and removes those
that pass. When a pass over the GVG has come to its end, the verifier looks at its
failed objects again: one that is no longer in the table counts as recovered. If
none is left, the GVG is completed.

There is a step for each call of the two schedulers that reads or writes the
tables they share, and one for the other writers of the table. The integrity rows are
given by the reads, since recovery tasks write them all the time.

The state also keeps what happened: the versions that passed, the objects that the
chain does not have, the objects of the pass and the passes that ended with the GVG
completed.
-/

namespace Manager.VerifyGVG

open Piece
open Std (TreeMap)

structure ObjectInfo (Digest : Type) where
  id : Nat
  version : Int
  checksums : List Digest
  deriving DecidableEq

/-- A row of `RecoverFailedObjectTable`, by object id. -/
structure RecoverFailedObject where
  redundancyIndex : Int
  retryTime : Nat

inductive GVGStatus where
  | processing | processed | completed

def maxRecoveryRetry : Nat := 5

def recoverBatchSize : Nat := 50

section
variable {Digest : Type} [DecidableEq Digest]

/-- A read of the integrity row, for the checksums of the pieces. -/
abbrev IntegrityRead (Digest : Type) := Except DbErr (List Digest)

def verifyIntegrity (H : Hash Digest) (object : ObjectInfo Digest) (redundancyIndex : Int)
    (read : IntegrityRead Digest) : Except DbErr Bool :=
  match read with
  | .error .recordNotFound => .ok false
  | .error .fails => .error .fails
  | .ok pieceChecksumList =>
    .ok (checksumFor object.checksums redundancyIndex = some (H.generateIntegrityHash pieceChecksumList))

end

/-- The verifier, with the locals of its loops. -/
inductive Verifier (Digest : Type) where
  /-- Between two ticks. -/
  | idle
  | checking (objects : List (ObjectInfo Digest))
  /-- An object that did not pass is to be recorded. -/
  | inserting (objectID : Nat) (objects : List (ObjectInfo Digest))
  /-- The end of a pass, with the failed objects still to be looked at. -/
  | finishing (objectIDs : List Nat) (recoverFailedObjectsCount needDiscontinueCount : Nat)
  | asking (objectID : Nat) (row : RecoverFailedObject) (objectIDs : List Nat)
      (recoverFailedObjectsCount needDiscontinueCount : Nat)
  | deleting (objectID : Nat) (objectIDs : List Nat)
      (recoverFailedObjectsCount needDiscontinueCount : Nat)
  | returned

/-- The other scheduler, with the rows that it has read. -/
inductive Retrier where
  | idle
  | retrying (rows : List (Nat × RecoverFailedObject))
  | deleting (objectID : Nat) (rows : List (Nat × RecoverFailedObject))

structure State (Digest : Type) where
  -- the tables
  status : GVGStatus := .processing
  failed : TreeMap Nat RecoverFailedObject := ∅
  -- VerifyGVGScheduler
  verifier : Verifier Digest := .idle
  curStartAfter : Nat := 0
  verifyFailedObjects : List Nat := []
  verifySuccessObjects : List Nat := []
  -- RecoverFailedObjectScheduler
  retrier : Retrier := .idle
  -- what happened
  verified : List (Nat × Int) := []
  gone : List Nat := []
  listed : List (ObjectInfo Digest) := []
  completed : List (List (ObjectInfo Digest)) := []

inductive ChainAnswer where
  | found | noSuchObject | fails

inductive Act (Digest : Type) where
  /-- A tick; a list that cannot be had is none. -/
  | tick (statsFails : Bool) (objects : Option (List (ObjectInfo Digest)))
  | check (read : IntegrityRead Digest)
  | insert (w : Write)
  /-- The loop over `verifyFailedObjects` comes to the object; the order of a map is open. -/
  | getFailed (objectID : Nat) (fails : Bool)
  | ask (chain : ChainAnswer) (metadata : Option (ObjectInfo Digest)) (read : IntegrityRead Digest)
  | delete (w : Write)
  | conclude (w : Write)
  -- RecoverFailedObjectScheduler
  | scan
  | retry (metadata : Option (ObjectInfo Digest)) (countOk : Bool) (read : IntegrityRead Digest)
      (queued : Bool) (update : Write)
  | retryDelete (w : Write)
  /-- Another writer records a failed object. -/
  | record (objectID : Nat) (row : RecoverFailedObject)
  /-- RecoverGVGScheduler has processed all objects. -/
  | process

section
variable {Digest : Type} [DecidableEq Digest] (H : Hash Digest) (redundancyIndex : Int)

variable (s : State Digest) (objectID : Nat)

namespace State

variable (s : State Digest)

/-- An insert leaves a row that is there. -/
def insertRecoverFailedObject (w : Write) (objectID : Nat) (row : RecoverFailedObject) :
    TreeMap Nat RecoverFailedObject :=
  if w = .fails false then s.failed else s.failed.insertIfNew objectID row

def deleteRecoverFailedObject (w : Write) (objectID : Nat) : TreeMap Nat RecoverFailedObject :=
  if w = .fails false then s.failed else s.failed.erase objectID

/-- An update changes nothing when the row is gone. -/
def updateRecoverFailedObject (w : Write) (objectID retryTime : Nat) :
    TreeMap Nat RecoverFailedObject :=
  match s.failed[objectID]? with
  | none => s.failed
  | some row =>
    if w = .fails false then s.failed else s.failed.insert objectID { row with retryTime }

/-- The object does not count any more. -/
def dropFailed (objectID : Nat) : List Nat := s.verifyFailedObjects.erase objectID

end State

/-- The rest of a batch, after which the tick is over. -/
def afterCheck (objects : List (ObjectInfo Digest)) : Verifier Digest :=
  if objects = [] then .idle else .checking objects

def afterRetry (rows : List (Nat × RecoverFailedObject)) : Retrier :=
  if rows = [] then .idle else .retrying rows

def stepTick (statsFails : Bool) (objects : Option (List (ObjectInfo Digest))) : State Digest :=
  if statsFails then s
  else match s.status, objects with
    | .completed, _ => { s with verifier := .returned }
    | .processing, _ => s
    | .processed, none => s
    | .processed, some objects =>
      match objects.getLast? with
      | none => { s with
          curStartAfter := 0
          verifier := .finishing s.verifyFailedObjects s.verifyFailedObjects.length 0 }
      | some last => { s with
          -- the cursor moves before the batch is checked
          curStartAfter := last.id
          listed := s.listed ++ objects
          verifier := .checking objects }

def stepCheck (o : ObjectInfo Digest) (rest : List (ObjectInfo Digest))
    (read : IntegrityRead Digest) : State Digest :=
  if o.id ∈ s.verifySuccessObjects then { s with verifier := afterCheck rest }
  else match verifyIntegrity H o redundancyIndex read with
    | .error _ => { s with verifier := .idle }
    | .ok false => { s with
        verifyFailedObjects := s.verifyFailedObjects.insert o.id
        verifier := .inserting o.id rest }
    | .ok true => { s with
        verifySuccessObjects := o.id :: s.verifySuccessObjects
        verified := (o.id, o.version) :: s.verified
        verifier := afterCheck rest }

/-- A failed object that is in the table, at the end of a pass. -/
def stepAsk (row : RecoverFailedObject) (objectIDs : List Nat)
    (count discontinue : Nat) (chain : ChainAnswer) (metadata : Option (ObjectInfo Digest))
    (read : IntegrityRead Digest) : State Digest :=
  let skip := { s with verifier := .finishing objectIDs count discontinue }
  match chain with
  | .fails => skip
  | .noSuchObject => { s with
      gone := objectID :: s.gone
      verifier := .deleting objectID objectIDs count discontinue }
  | .found =>
    if row.retryTime < maxRecoveryRetry then skip
    else match metadata with
      | none => skip
      | some o =>
        match verifyIntegrity H o redundancyIndex read with
        | .error _ => skip
        | .ok false => { s with verifier := .finishing objectIDs count (discontinue + 1) }
        | .ok true => { s with
            verified := (o.id, o.version) :: s.verified
            verifier := .deleting objectID objectIDs count discontinue }

/-- The end of the pass. -/
def stepConclude (count discontinue : Nat) (w : Write) : State Digest :=
  if count = 0 then
    let s := if w = .fails false then s
      else { s with status := .completed, completed := s.listed :: s.completed }
    { s with listed := [], verifier := if w = .ok then .returned else .idle }
  else { s with listed := [], verifier := if count = discontinue then .returned else .idle }

/-- A row that is retried. -/
def stepRetry (row : RecoverFailedObject)
    (rest : List (Nat × RecoverFailedObject)) (metadata : Option (ObjectInfo Digest)) (countOk : Bool)
    (read : IntegrityRead Digest) (queued : Bool) (update : Write) : State Digest :=
  let skip := { s with retrier := afterRetry rest }
  match metadata with
  | none => skip
  | some o =>
    if !countOk then skip
    else match verifyIntegrity H o row.redundancyIndex read with
      | .error _ => skip
      | .ok true => { s with
          verified := (o.id, o.version) :: s.verified
          retrier := .deleting objectID rest }
      | .ok false =>
        if !queued then { s with retrier := .idle }
        else { s with
          failed := s.updateRecoverFailedObject update objectID (row.retryTime + 1)
          retrier := if update = .ok then afterRetry rest else .idle }

def step : Act Digest → Option (State Digest)
  | .tick statsFails objects =>
    match s.verifier with
    | .idle => some (stepTick s statsFails objects)
    | _ => none
  | .check read =>
    match s.verifier with
    | .checking (o :: rest) => some (stepCheck H redundancyIndex s o rest read)
    | _ => none
  | .insert w =>
    match s.verifier with
    | .inserting objectID rest => some { s with
        failed := s.insertRecoverFailedObject w objectID ⟨redundancyIndex, 0⟩
        verifier := if w = .ok then afterCheck rest else .idle }
    | _ => none
  | .getFailed objectID fails =>
    match s.verifier with
    | .finishing objectIDs count discontinue =>
      let rest := objectIDs.erase objectID
      if objectID ∉ objectIDs then none
      else if fails then some { s with verifier := .finishing rest count discontinue }
      else match s.failed[objectID]? with
        | none => some { s with
            verifyFailedObjects := s.dropFailed objectID
            verifier := .finishing rest (count - 1) discontinue }
        | some row => some { s with verifier := .asking objectID row rest count discontinue }
    | _ => none
  | .ask chain metadata read =>
    match s.verifier with
    | .asking objectID row rest count discontinue =>
      -- the metadata is asked by the object's id
      if ∀ o ∈ metadata, o.id = objectID then
        some (stepAsk H redundancyIndex s objectID row rest count discontinue chain metadata read)
      else none
    | _ => none
  | .delete w =>
    match s.verifier with
    | .deleting objectID rest count discontinue => some { s with
        failed := s.deleteRecoverFailedObject w objectID
        verifyFailedObjects := s.dropFailed objectID
        verifier := .finishing rest (count - 1) discontinue }
    | _ => none
  | .conclude w =>
    match s.verifier with
    | .finishing [] count discontinue => some (stepConclude s count discontinue w)
    | _ => none
  | .scan =>
    match s.retrier with
    -- `GetRecoverFailedObjects` orders the rows by object id
    | .idle => some { s with retrier := afterRetry ((s.failed.toList.filter fun row =>
        row.2.retryTime ≤ maxRecoveryRetry).take recoverBatchSize) }
    | _ => none
  | .retry metadata countOk read queued update =>
    match s.retrier with
    | .retrying ((objectID, row) :: rest) =>
      if ∀ o ∈ metadata, o.id = objectID then
        some (stepRetry H s objectID row rest metadata countOk read queued update)
      else none
    | _ => none
  | .retryDelete w =>
    match s.retrier with
    | .deleting objectID rest => some { s with
        failed := s.deleteRecoverFailedObject w objectID
        retrier := afterRetry rest }
    | _ => none
  | .record objectID row => some { s with failed := s.insertRecoverFailedObject .ok objectID row }
  | .process => some { s with status := .processed }

end

end Manager.VerifyGVG

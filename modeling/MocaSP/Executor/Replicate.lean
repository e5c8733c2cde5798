-- SUMMARY: The goroutines that replicate an object to its secondary SPs.
import Mathlib.Tactic.Basic

/-!
# Replicating an object

`handleReplicatePiece` starts a goroutine that goes through the segments. For each
it starts one goroutine per secondary SP and waits for them; at the end it collects
the signatures of the secondaries. The function itself receives errors from one
channel until it is told on another one to return.

The named result `err` is one variable of all these goroutines, which assign it and
read it back. So the model has a step for each assignment and each read of `err`,
for each operation on a channel and for each call. Both channels are unbuffered: a
send takes place when the function waits at its `select`.

An encoder that fails has no pieces to index, which is a panic in Go; here the
goroutines are started all the same.
-/

namespace Executor.Replicate

inductive ReplicateErr where
  | consensus | gvgNotExist | replicateIdsOutOfBounds
  | getPiece | encode | replicatePiece
  | makeCheckSums | doneReplicatePiece | verify | invalidSecondaryBlsSignature
  deriving DecidableEq

structure ReplicatePieceTask where
  segmentPieceCount : Nat
  /-- The number of its secondary endpoints. -/
  secondaryEndpoints : Nat
  /-- The data and parity chunks of the storage parameters. -/
  replicateCount : Nat
  isEC : Bool
  isAgentUpload : Bool

/-- handleReplicatePiece itself. -/
inductive Main where
  | starting
  /-- At the select. -/
  | waiting
  /-- It has got an error, which is still to be assigned. -/
  | received (e : Option ReplicateErr)
  /-- The error is assigned to `err`, which is still to be read. -/
  | assigned (e : Option ReplicateErr)
  | quit
  | returned (e : Option ReplicateErr)
  deriving DecidableEq

/-- The goroutine of one piece, with the result of its own doReplicatePiece. -/
inductive Worker where
  | idle
  | sending
  /-- doReplicatePiece is through, and with it its part of the wait group. -/
  | answered (result : Option ReplicateErr)
  | assigned (result : Option ReplicateErr)
  /-- It has read an error. -/
  | failing (result : Option ReplicateErr)
  /-- It sends an error. -/
  | blocked (result : Option ReplicateErr) (e : Option ReplicateErr)
  | finished (result : Option ReplicateErr)
  deriving DecidableEq

/-- The goroutine that goes through the segments. -/
inductive Loop (Sig : Type) where
  | notStarted
  | reading (segIdx : Nat)
  | readError (segIdx : Nat) (e : ReplicateErr)
  | encoding (segIdx : Nat)
  | encodeError (segIdx : Nat) (e : ReplicateErr)
  | spawning (segIdx redundancyIdx : Nat)
  /-- At the wait group. -/
  | waiting (segIdx : Nat)
  -- doneReplicate
  | makeCheckSums
  | collecting (rIdx : Nat)
  /-- The outcome of the verification is in `err`. -/
  | verified (rIdx : Nat) (signature : Sig)
  | returning (e : Option ReplicateErr)
  /-- The outcome of doneReplicate is in `err`. -/
  | finishing (e : Option ReplicateErr)
  | quitting (e : Option ReplicateErr)
  | ended (e : Option ReplicateErr)

structure State (Sig : Type) where
  err : Option ReplicateErr := none
  replicateErr : Option ReplicateErr := none
  main : Main := .starting
  loop : Loop Sig := .notStarted
  worker : Nat → Nat → Worker := fun _ _ => .idle
  /-- The segments that were read. -/
  read : Nat → Bool := fun _ => false
  secondarySignatures : Nat → Option Sig := fun _ => none
  /-- The signatures that were set in the task. -/
  taskSignatures : Option (Nat → Option Sig) := none

/-- What a call answers. -/
structure Answer (Sig : Type) where
  failure : Option ReplicateErr := none
  /-- The number of secondary SPs of the GVG. -/
  gvg : Option Nat := none
  signature : Option Sig := none

inductive Thread where
  | main
  | loop
  | worker (segIdx redundancyIdx : Nat)

namespace State

variable {Sig : Type} (s : State Sig)

def setWorker (segIdx redundancyIdx : Nat) (w : Worker) : State Sig :=
  { s with worker := fun i j => if i = segIdx ∧ j = redundancyIdx then w else s.worker i j }

/-- A send to the function, which must be at its select. -/
def deliver (m : Main) : Option (State Sig) :=
  if s.main = .waiting then some { s with main := m } else none

end State

def validateReplicateCardinality (endpoints secondarySPIDs signatures : Nat) :
    Option ReplicateErr :=
  if endpoints ≠ secondarySPIDs ∨ endpoints ≠ signatures then some .replicateIdsOutOfBounds
  else none

section
variable {Sig : Type} (task : ReplicatePieceTask)
  -- veritySecondarySpBlsSignature for the secondary of an index and the object's checksums
  (verity : Nat → Sig → Bool)

def stepMain (a : Answer Sig) (s : State Sig) : Option (State Sig) :=
  match s.main with
  | .starting => some <|
    match a.failure, a.gvg with
    | some _, _ => { s with main := .returned (some .consensus) }
    | none, none => { s with main := .returned (some .gvgNotExist) }
    | none, some gvg =>
      match validateReplicateCardinality task.secondaryEndpoints gvg task.replicateCount with
      | some e => { s with main := .returned (some e) }
      | none => { s with main := .waiting, loop := .reading 0 }
  | .waiting => none
  | .received e => some { s with err := e, main := .assigned e }
  | .assigned _ =>
    -- the first error is kept, as it is read back from `err`
    some { s with replicateErr := s.replicateErr.or s.err, main := .waiting }
  | .quit => some { s with main := .returned (s.replicateErr.or s.err) }
  | .returned _ => none

def stepWorker (segIdx redundancyIdx : Nat) (a : Answer Sig) (s : State Sig) : Option (State Sig) :=
  let set := s.setWorker segIdx redundancyIdx
  match s.worker segIdx redundancyIdx with
  | .idle => none
  | .sending => some (set (.answered a.failure))
  | .answered r => some { set (.assigned r) with err := r }
  | .assigned r => some (set (if s.err = none then .finished r else .failing r))
  | .failing r => some (set (.blocked r s.err))
  | .blocked r e => (set (.finished r)).deliver (.received e)
  | .finished _ => none

/-- The pieces of a segment are sent after its encoding, if there is one. -/
def afterRead (segIdx : Nat) : Loop Sig :=
  if task.isEC then .encoding segIdx else .spawning segIdx 0

def stepLoop (a : Answer Sig) (s : State Sig) : Option (State Sig) :=
  match s.loop with
  | .notStarted => none
  | .reading segIdx =>
    if segIdx < task.segmentPieceCount then
      match a.failure with
      | some e => some { s with loop := .readError segIdx e }
      | none => some { s with
          loop := afterRead task segIdx
          read := fun i => if i = segIdx then true else s.read i }
    else some { s with loop := .makeCheckSums }
  | .readError segIdx e =>
    ({ s with loop := afterRead task segIdx } : State Sig).deliver (.received (some e))
  | .encoding segIdx =>
    match a.failure with
    | some e => some { s with loop := .encodeError segIdx e }
    | none => some { s with loop := .spawning segIdx 0 }
  | .encodeError segIdx e =>
    ({ s with loop := .spawning segIdx 0 } : State Sig).deliver (.received (some e))
  | .spawning segIdx redundancyIdx =>
    if redundancyIdx < task.secondaryEndpoints then
      some { s.setWorker segIdx redundancyIdx .sending with
        loop := .spawning segIdx (redundancyIdx + 1) }
    else some { s with loop := .waiting segIdx }
  | .waiting segIdx =>
    -- the goroutines of earlier segments are not counted any more
    if ∀ i < task.secondaryEndpoints, s.worker segIdx i ≠ .sending then
      some { s with loop := .reading (segIdx + 1) }
    else none
  | .makeCheckSums =>
    match task.isAgentUpload, a.failure with
    | true, some e => some { s with loop := .returning (some e) }
    | _, _ => some { s with loop := .collecting 0 }
  | .collecting rIdx =>
    if rIdx < task.secondaryEndpoints then
      match a.failure, a.signature with
      | some e, _ => some { s with loop := .returning (some e) }
      | none, none => none
      | none, some signature => some { s with
          err := if verity rIdx signature then none else some .verify
          loop := .verified rIdx signature }
    else some { s with loop := .returning none }
  | .verified rIdx signature =>
    if s.err = none then
      some { s with
        secondarySignatures := fun i => if i = rIdx then some signature else s.secondarySignatures i
        loop := .collecting (rIdx + 1) }
    else some { s with loop := .returning (some .invalidSecondaryBlsSignature) }
  | .returning e => some { s with err := e, loop := .finishing e }
  | .finishing e => some { s with
      taskSignatures := if s.err = none then some s.secondarySignatures else s.taskSignatures
      loop := .quitting e }
  | .quitting e => ({ s with loop := .ended e } : State Sig).deliver .quit
  | .ended _ => none

/-- One step of a goroutine; a call in it is answered by `a`. -/
def step (s : State Sig) (act : Thread × Answer Sig) : Option (State Sig) :=
  match act.1 with
  | .main => stepMain task act.2 s
  | .loop => stepLoop task verity act.2 s
  | .worker segIdx redundancyIdx => stepWorker segIdx redundancyIdx act.2 s

end

end Executor.Replicate

-- SUMMARY: How resumable requests reserve and release an object.
import MocaSP.Base.Interleave

/-!
# Reserving an object for a resumable upload

A resumable request makes two calls. `PreResumableUploadObject` reserves the
object, registers the request's task with the manager and leaves a pending
reservation; `HandleResumableUploadObjectTask` adopts it, uploads and releases
the object. Requests for one object meet in one entry of the map
`resumableInflight` and in the manager's queue, so the model has that entry, the
manager, and one thread per request. A thread is named by a number, and so is its
task: tasks are compared by pointer.

The manager is a parameter here: anything that answers the calls made to it. The
checks before the reservation, the upload itself and the clock are answered by an
oracle.
-/

namespace Uploader.Inflight

/-! ## Reservations -/

inductive ResumableState where
  | registering | pending | adopted
  deriving DecidableEq

structure Reservation where
  task : Nat
  state : ResumableState
  /-- Nanoseconds at which the pending state began. -/
  since : Int
  deriving DecidableEq

/-- The field resumableReserveTTL, in nanoseconds. -/
def resumableReserveTTL : Int := 30 * 1000000000

def Reservation.stale (r : Reservation) (now : Int) : Bool :=
  r.state = .pending && decide (now - r.since > resumableReserveTTL)

/-- The answer to a registration, and whether the call's context was over. -/
structure Created where
  ok : Bool
  cutShort : Bool

/-- What the manager does by itself. -/
inductive ManagerStep where
  /-- The queue retires the task at an offset, which has expired. -/
  | retire (offset : Nat)
  /-- A call arrives whose caller no longer waits for it. -/
  | deliver (i : Nat)

/-! ## Programs -/

inductive Cmd : Type → Type where
  /-- The checks of the pre-check before the reservation. -/
  | checks : Cmd Bool
  | now : Cmd Int
  -- the entry of the map; a load has no answer when it stored
  | loadOrStore (mine : Reservation) : Cmd (Option Reservation)
  | compareAndSwap (old new : Reservation) : Cmd Bool
  | store (r : Reservation) : Cmd Unit
  | compareAndDelete (held : Reservation) : Cmd Unit
  | keepForRetire (held kept : Reservation) : Cmd Unit
  -- calls to the manager; a report is one attempt
  | create : Cmd Created
  | report (task : Nat) : Cmd Bool
  | manager (step : ManagerStep) : Cmd Unit
  /-- The uploader's own queue takes the task. -/
  | push : Cmd Bool
  | upload : Cmd Unit
  /-- The deferred function that starts the final report. -/
  | finish : Cmd Unit
  | preReturn (ok : Bool) : Cmd Unit
  | handlerReturn : Cmd Unit
  | stuck : Cmd Empty

open Prog (do_)

/-- The loop of reserveResumableObject. It ends when a swap meets no other writer,
so a run takes it some number of times, `tries`. -/
def reserveLoop (mine : Reservation) (now : Int) : Nat → Prog Cmd (Option (Option Nat))
  | 0 => do_ .stuck >>= fun e => nomatch e
  | tries + 1 => do
    match ← do_ (.loadOrStore mine) with
    | none => pure (some none)
    | some cur =>
      if mine.state = .adopted ∧ cur.task = mine.task ∧ cur.state = .pending then
        if ← do_ (.compareAndSwap cur mine) then pure (some none) else reserveLoop mine now tries
      else if cur.stale now then
        if ← do_ (.compareAndSwap cur mine) then pure (some (some cur.task))
        else reserveLoop mine now tries
      else pure none

variable (tries task : Nat)

/-- The reservation made and the abandoned task, or none. -/
def reserveResumableObject (state : ResumableState) :
    Prog Cmd (Option (Reservation × Option Nat)) := do
  let now ← do_ .now
  let mine : Reservation := ⟨task, state, now⟩
  return (← reserveLoop mine now tries).map (mine, ·)

/-- The attempts made to report a task, as rtyAttNum. -/
def reportAttempts : Nat := 3

/-- Reports until an attempt is answered without an error. -/
def reportLoop (task : Nat) : Nat → Prog Cmd Bool
  | 0 => pure false
  | attempts + 1 => do
    if ← do_ (.report task) then pure true else reportLoop task attempts

def reportResumableTask (task : Nat) : Prog Cmd Bool := reportLoop task reportAttempts

/-- A drop reports a copy of the task, unfinished and without an error. -/
def dropResumableTask (task : Nat) : Prog Cmd Bool := reportResumableTask task

/-- The reservation that keepForRetire leaves for a task. -/
def retirable (task : Nat) : Reservation := ⟨task, .pending, 0⟩

/-- The part after the abandoned registration is retired. -/
def registerTask (task : Nat) (reservation : Reservation) : Prog Cmd Bool := do
  let created ← do_ .create
  if created.ok then
    let now ← do_ .now
    do_ (.store ⟨task, .pending, now⟩)
    return true
  -- the manager may have registered the task before the call was cut short
  if created.cutShort then
    if !(← dropResumableTask task) then
      do_ (.keepForRetire reservation (retirable task))
      return false
  do_ (.compareAndDelete reservation)
  return false

def preResumableUploadObject : Prog Cmd Bool := do
  if !(← do_ .checks) then return false
  match ← reserveResumableObject tries task .registering with
  | none => return false
  | some (reservation, none) => registerTask task reservation
  | some (reservation, some abandoned) =>
    if ← dropResumableTask abandoned then registerTask task reservation
    else
      do_ (.keepForRetire reservation (retirable abandoned))
      return false

/-- The handler after the abandoned registration is retired, to its deferred release. -/
def uploadTask (task : Nat) (reservation : Reservation) : Prog Cmd Unit := do
  if ← do_ .push then
    do_ .upload
    do_ .finish
    do_ (.compareAndDelete reservation)
  else
    if !(← dropResumableTask task) then do_ (.keepForRetire reservation (retirable task))
    do_ (.compareAndDelete reservation)

def handleResumableUploadObjectTask : Prog Cmd Unit := do
  match ← reserveResumableObject tries task .adopted with
  | none => pure ()
  | some (reservation, none) => uploadTask task reservation
  | some (reservation, some abandoned) =>
    if ← dropResumableTask abandoned then uploadTask task reservation
    else
      do_ (.keepForRetire reservation (retirable abandoned))
      do_ (.compareAndDelete reservation)

/-- A request: the pre-check and, once it has passed, the handler. -/
def resumableRequest : Prog Cmd Unit := do
  let ok ← preResumableUploadObject tries task
  do_ (.preReturn ok)
  if ok then
    handleResumableUploadObjectTask tries task
    do_ .handlerReturn

/-! ## The system -/

/-- Where a request is: it waits once its pre-check has passed; from its adoption its
handler works until it has nothing left but to report and release, and it returns
after it let go. -/
inductive Stage where
  | outside | waiting | working | ending | released | returned
  deriving DecidableEq

/-- Between its adoption and the moment it gives the object up. -/
def Stage.holding : Stage → Bool
  | .working | .ending => true
  | _ => false

/-- Between its adoption and its return. -/
def Stage.inCall : Stage → Bool
  | .working | .ending | .released => true
  | _ => false

/-- The final report of a request, which its handler starts as it ends. -/
inductive FinalReport where
  | none | due | started (reporter : Nat)
  deriving DecidableEq

structure State (μ : Type) where
  /-- The object's entry of resumableInflight. -/
  inflight : Option Reservation := none
  /-- The request that wrote the entry. -/
  maker : Option Nat := none
  started : Nat → Bool := fun _ => false
  stage : Nat → Stage := fun _ => .outside
  final : Nat → FinalReport := fun _ => .none
  manager : μ

/-- A manager: what it answers to each call, and what it does by itself. -/
structure Manager (μ V : Type) where
  create : Nat → μ → Option (Created × μ)
  report : Nat → μ → Option (Bool × μ)
  own : ManagerStep → μ → Option μ
  env : V → μ → Option μ

variable (t : Nat)

namespace State

variable {μ : Type}

def setStage (s : State μ) (t : Nat) (g : Stage) : State μ :=
  { s with stage := fun u => if u = t then g else s.stage u }

def setFinal (s : State μ) (t : Nat) (f : FinalReport) : State μ :=
  { s with final := fun u => if u = t then f else s.final u }

/-- Request `t` writes the entry; an adopted reservation starts its handler. -/
def put (s : State μ) (t : Nat) (r : Reservation) : State μ :=
  let s := { s with inflight := some r, maker := some t }
  if r.state = .adopted then s.setStage t .working else s

/-- A handler that holds the object gives it up. -/
def giveUp (s : State μ) (t : Nat) : State μ :=
  if (s.stage t).holding then s.setStage t .released else s

end State

structure Oracle where
  flag : Bool := true
  now : Int := 0

inductive Job where
  | request (tries : Nat)
  | finalReport (task : Nat)
  | manager (step : ManagerStep)

section
variable {μ V : Type} (mgr : Manager μ V)

def execCmd (t : Nat) : {β : Type} → Cmd β → Oracle → State μ → Option (β × State μ)
  | _, .checks, o, s => some (o.flag, s)
  | _, .now, o, s => some (o.now, s)
  | _, .loadOrStore mine, _, s =>
    match s.inflight with
    | some cur => some (some cur, s)
    | none => some (none, s.put t mine)
  | _, .compareAndSwap old new, _, s =>
    if s.inflight = some old then some (true, s.put t new) else some (false, s)
  | _, .store r, _, s => some ((), (s.put t r).setStage t .waiting)
  | _, .compareAndDelete held, _, s =>
    if s.inflight = some held then some ((), { s with inflight := none }.giveUp t)
    else some ((), s.giveUp t)
  | _, .keepForRetire held kept, _, s =>
    if s.inflight = some held then some ((), (s.put t kept).giveUp t) else some ((), s)
  | _, .create, _, s => (mgr.create t s.manager).map fun (r, m) => (r, { s with manager := m })
  | _, .report b, _, s => (mgr.report b s.manager).map fun (r, m) => (r, { s with manager := m })
  | _, .manager step, _, s => (mgr.own step s.manager).map fun m => ((), { s with manager := m })
  | _, .push, o, s => some (o.flag, if o.flag then s else s.setStage t .ending)
  | _, .upload, _, s => some ((), s)
  | _, .finish, _, s => some ((), (s.setFinal t .due).setStage t .ending)
  | _, .preReturn _, _, s => some ((), s)
  | _, .handlerReturn, _, s => some ((), s.setStage t .returned)
  | _, .stuck, _, _ => none

/-- A thread starts once; a final report starts when its handler asked for it. -/
def startJob (t : Nat) (j : Job) (s : State μ) : Option (State μ) :=
  let s' := { s with started := fun u => if u = t then true else s.started u }
  if s.started t then none
  else match j with
    | .request _ => some s'
    | .manager _ => some s'
    | .finalReport b => if s.final b = .due then some (s'.setFinal b (.started t)) else none

def jobBody : Job → Prog Cmd Unit
  | .request tries => resumableRequest tries t
  | .finalReport b => do let _ ← reportResumableTask b
  | .manager step => do_ (.manager step)

/-- Resumable requests for one object with a manager. -/
def resumable : Machine Cmd Nat (State μ) Oracle Job V where
  exec := fun {_} t e o s => execCmd mgr t e o s
  body := jobBody
  start := startJob
  env := fun v s => (mgr.env v s.manager).map fun m => { s with manager := m }

end

end Uploader.Inflight

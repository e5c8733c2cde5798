-- SUMMARY: Signer processes and CLI commands that share one store.
import MocaSP.Signer.Dispose
import MocaSP.Signer.Submit

/-!
# The system

Threads run jobs: the requests a signer serves, its background work, its lease
loop, and commands of the CLI. The recovery a new lease epoch spawns, and the
work that recovery spawns, are jobs of their own; they may start at any later
time, under any epoch the process acquired.

A crash kills threads. A scope lock that a killed thread held is never released,
and a restarted signer is another process.
-/

namespace Signer

/-- The name commands run under, outside every signer process. -/
def cliName : String := "signer-evm"

inductive Job where
  | request (scope : SignType) (operation : Hash)
  | backgroundResolve (scope : SignType)
  | backgroundSettle (fence : Fence)
  | recover (fence : Fence)
  | tick
  | stop
  | resolve (req : DisposeRequest)
  | resolveOutcome (req : DisposeRequest)
  | settleByDecision (release : Bool) (req : DisposeRequest)

variable (S : Setup) (t : Tid)

namespace Job

/-- The job is a command of the CLI. -/
def isCommand : Job → Bool
  | .resolve _ | .resolveOutcome _ | .settleByDecision .. => true
  | _ => false

/-- The fence the job is given. -/
def fence? : Job → Option Fence
  | .backgroundSettle f | .recover f => some f
  | _ => none

def body : Job → Code Unit
  | .request scope operation => Client.request S t.proc scope operation
  | .backgroundResolve scope => Client.backgroundResolveEvm S t.proc scope
  | .backgroundSettle fence => Client.backgroundSettleOutcomes S fence
  | .recover fence => Client.recoverEvmState S t.proc fence
  | .tick => Client.tick S t.proc
  | .stop => Client.stop S t.proc
  | .resolve req => do
    let _ ← Disposer.resolve S req
  | .resolveOutcome req => do
    let _ ← Disposer.resolveOutcome S req
  | .settleByDecision release req => do
    let _ ← Disposer.settleByDecision S req release

/-- Commands run under their own name, a request is for a key with a lock, and a
fence is one the process acquired. -/
def ready (j : Job) (w : World) : Bool :=
  (j.isCommand = decide (t.proc = cliName)) &&
  (match j with
    | .request scope _ => Client.hasScopeLock scope
    | _ => true) &&
  j.fence?.all fun f =>
    f.owner = t.proc && f.chainID = S.chainID && Event.acquired t.proc f.epoch ∈ w.log

end Job

/-- What happens outside the threads: time passes. -/
inductive Env where
  | height (n : Nat)
  | clock (proc : String) (n : Nat)
  | dbTime (n : Nat)

def Env.act : Env → World → World
  | .height n, w => { w with height := w.height + n }
  | .clock p n, w => w.setProc p { w.procs p with clock := (w.procs p).clock + n }
  | .dbTime n, w => { w with db := { w.db with now := w.db.now + n } }

/-- The system with the jobs that `may` start. -/
def system (may : Tid → Job → Bool) : Machine Cmd Tid World Oracle Job Env where
  exec := fun t e o w => exec S t e o w
  body := fun t j => j.body S t
  start := fun t j w =>
    if t.num = w.nextThread ∧ may t j ∧ j.ready S t w then
      some { w with nextThread := w.nextThread + 1 }
    else none
  env := fun v w => some (v.act w)

/-- Any number of signers, no command of the CLI. -/
def signersOnly : Tid → Job → Bool := fun _ j => !j.isCommand

/-- One signer, and any number of commands. -/
def oneSigner (p : String) : Tid → Job → Bool := fun t j => j.isCommand || t.proc = p

/-- A small configuration to run the system in, on a chain with the given
receipts. A hash is `16 * nonce + 8 * i + variant`, for the operation `7 + i`, and
is the one byte that encodes the transaction. -/
def sampleSetup (receipt : Hash → Option (Receipt × Nat)) : Setup where
  eth :=
    { tx := fun h => { chainID := some 5151, sender := some 3, nonce := h.toNat / 16,
                       recipient := some 70000, value := 0,
                       data := [BitVec.ofNat 8 (7 + h.toNat % 16 / 8)] }
      decode := fun raw => some ((raw.headD 0).setWidth 256)
      keccak := fun raw => (raw.headD 0).setWidth 256 }
  chain := { receipt, view := fun _ => none }
  chainID := "moca_5151-1"
  evmChainID := 5151
  ttl := 30000000
  key := fun _ _ => some 3
  hasClient := fun _ => true
  autoEvm := false
  autoCosmos := false
  callOf := fun operation => (70000, 0, [operation.setWidth 8])
  operationOf := fun _ call => (call.2.2.headD 0).setWidth 256

/-! ## Parts of runs in that configuration -/

/-- What a run of the system consists of. -/
abbrev Act := Machine.Action Tid Oracle Job Env

def steps (answers : List Oracle) : List Act := answers.map (.step t)

/-- A tick that acquires the lease. -/
def acquires : List Act := .start t .tick :: steps t [.none, .fault .none, .none, .none]

/-- A tick that finds the lease lost. -/
def loses : List Act := .start t .tick :: steps t [.none, .fault .none, .none, .fault .none, .none]

/-- A request of a process that has not synced the scope, with no row in the way,
until it is cleared. -/
def clears (operation : Hash) : List Act :=
  .start t (.request .seal operation) :: steps t
    [.none, .none, .none, .fault .none, .none, .nat (.ok 0), .none, .none, .none, .none,
     .fault .none, .fault .none, .none, .none]

/-- The cleared request signs and records the transaction `h`. -/
def records (h : Hash) : List Act :=
  steps t [.none, .signed (some (h, [h.setWidth 8])), .flag false, .none, .nat (.ok 4), .fault .none]

end Signer

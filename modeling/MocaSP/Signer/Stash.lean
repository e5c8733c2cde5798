-- SUMMARY: When one retry clears a stashed terminal.
import MocaSP.Signer.Ledger

/-!
# Retrying a stashed terminal

A terminal whose write failed is stashed and retried before anything else in its
scope. While the stash is kept for a lost lease, another signer may resolve the
row and record a new one. The retry then finds a row that is not its own, which
the store reports as a conflict, and keeps the stash: nothing else in the scope is
resolved any more.
-/

namespace Signer

open Machine Prog Client

/-- No store call fails on its way, and a read of the account's nonce is answered. -/
def smoothly (S : Setup) (t : Tid) (nonce : Nat) {β : Type} (e : Cmd β) (w : World) :
    Option (β × World) :=
  exec S t e (match e with
    | .store _ => .fault .none
    | .ask _ => .nat (.ok nonce)
    | _ => .none) w

/-! ## The parts of a retry -/

section
variable {S : Setup} {t : Tid} {nonce : Nat} {w : World} {row : StateRow}

/-- A store call that is refused changes nothing. -/
theorem smoothly_error {β : Type} {c : StoreCall β} {e : StoreErr} (h : c.run w.db = .error e) :
    smoothly S t nonce (.store c) w = some (.error e, w) := by
  simp [smoothly, exec, StoreCall.exec, StoreCall.events, h]

/-- The scope has no stash. -/
def Cleared (p : String) (scope : SignType) (w : World) : Prop :=
  (w.mem p scope).terminalRetry = none

variable {scope : SignType}

theorem cleared_setMem {p : String} {m : ScopeMem} (h : m.terminalRetry = none) :
    Cleared p scope (w.setMem p scope m) := by
  unfold Cleared
  rw [World.setMem_mem, if_pos ⟨rfl, rfl⟩]
  exact h

theorem afterRetried_cleared (h : Cleared t.proc scope w) (pending : PendingRecord)
    (kind : TerminalKind) : wp (smoothly S t nonce) (afterRetried scope pending kind) w
      fun _ w' => Cleared t.proc scope w' := by
  cases kind with
  | notAdmittedNonceLow | notAdmittedNonceHigh =>
    show wp _ (refreshNonceFromChain scope >>= _) _ _
    unfold refreshNonceFromChain
    split
    · exact .pure h
    · exact .do_bind rfl (.do_bind rfl (.pure (cleared_setMem h)))
  | _ => exact .pure h

/-- The audit is read; nothing changes. -/
theorem firstLanded_reads (pending : PendingRecord) (kinds : List TerminalKind) :
    wp (smoothly S t nonce) (firstLanded S pending kinds) w
      fun r w' => w' = w ∧ ∃ landed, r = .ok landed := by
  induction kinds with
  | nil => exact .pure ⟨rfl, none, rfl⟩
  | cons kind _ ih =>
    refine .do_bind (r := .ok (hasAudit S.chainID kind.doneEvent pending.txHash 0 w.db)) rfl ?_
    cases hasAudit S.chainID kind.doneEvent pending.txHash 0 w.db with
    | true => exact .pure ⟨rfl, some kind, rfl⟩
    | false => exact ih

variable {fence : Fence} {scope : SignType} {operation : Hash} {retry : TerminalRetry}

/-- The refusal is of an earlier lease. -/
def TerminalRetry.isOld (retry : TerminalRetry) (fence : Fence) : Prop :=
  retry.terminal.kind.notAdmitted = true ∧ retry.epoch ≠ fence.epoch

/-- The scope has no pending row: the audit tells what became of the stashed one. -/
theorem retryTerminal_rowGone (hfence : fenceCheck fence w.db = .ok ())
    (hnone : w.db.pendingRows retry.pending.chainID retry.pending.scope = []) :
    wp (smoothly S t nonce) (retryTerminal S fence scope operation retry) w
      fun _ w' => Cleared t.proc scope w' := by
  unfold retryTerminal applyTerminal writeTerminal
  have hgone : resolvePending fence retry.pending (retriedTerminal retry operation) w.db = .error .rowGone := by
    simp [resolvePending, lockPending, hfence, hnone, bind, Except.bind, Except.orFail]
  refine .do_bind (smoothly_error hgone) ?_
  refine (firstLanded_reads retry.pending _).bind ?_
  rintro _ w' ⟨rfl, landed, rfl⟩
  have hclear : Cleared t.proc scope
      (w'.setMem t.proc scope { w'.mem t.proc scope with terminalRetry := none }) := cleared_setMem rfl
  rcases landed with _ | kind
  · exact .do_bind rfl (.pure hclear)
  · cases kind with
    | successConsume => exact .do_bind rfl (.do_bind rfl (.pure (cleared_setMem rfl)))
    | _ => exact .do_bind rfl (afterRetried_cleared hclear _ _)

theorem dropOldRefusal_kept (hold : ¬ retry.isOld fence) :
    dropOldRefusal fence scope (some retry) = pure (some retry) := if_neg hold

theorem retryStash_cleared (hfence : fenceCheck fence w.db = .ok ())
    (h : w.db.pendingRows retry.pending.chainID retry.pending.scope = [] ∨ retry.isOld fence) :
    wp (smoothly S t nonce) (retryStash S fence scope operation (some retry)) w
      fun _ w' => Cleared t.proc scope w' := by
  unfold retryStash
  by_cases hold : retry.isOld fence
  · rw [show dropOldRefusal fence scope (some retry) = _ from if_pos hold]
    exact .do_bind rfl (.pure (cleared_setMem rfl))
  · rw [dropOldRefusal_kept hold]
    exact retryTerminal_rowGone hfence (h.resolve_right hold)

/-- With another pending row in the scope, the retry keeps the stash. -/
theorem retryEvmMemory_kept (hretry : (w.mem t.proc scope).terminalRetry = some retry)
    (hold : ¬ retry.isOld fence) (hfence : fenceCheck fence w.db = .ok ())
    (hhead : (w.db.pendingRows retry.pending.chainID retry.pending.scope).head? = some row)
    (hother : row.id ≠ retry.pending.id) :
    wp (smoothly S t nonce) (retryEvmMemory S fence scope operation) w
      fun answer w' => answer.isSome = true ∧ w' = w := by
  refine .do_bind rfl ?_
  show wp _ (retryStash S fence scope operation (w.mem t.proc scope).terminalRetry >>= _) _ _
  rw [hretry]
  unfold retryStash
  rw [dropOldRefusal_kept hold]
  have hconflict : resolvePending fence retry.pending (retriedTerminal retry operation) w.db =
      .error .conflict := by
    simp [resolvePending, lockPending, hfence, hhead, hother, bind, Except.bind, Except.orFail,
      Except.failIf]
  unfold retryTerminal applyTerminal writeTerminal
  exact .do_bind (smoothly_error hconflict) (.pure ⟨rfl, rfl⟩)

end

/-! ## One retry -/

/-- **Stashed terminals.** In every reachable state in which the stashed row is no
longer pending, one retry under the current lease, with no call failing, clears the
stash if and only if the scope has no other pending row or the stash is a refusal
of an earlier lease. -/
theorem stash_cleared_iff (S : Setup) (may : Tid → Job → Bool) (c : Config Cmd Tid World)
    (h : (system S may).Reach always {} c) (t : Tid) (fence : Fence) (scope : SignType)
    (operation : Hash) (nonce : Nat) (retry : TerminalRetry)
    (hretry : (c.state.mem t.proc scope).terminalRetry = some retry)
    (hlease : fenceCheck fence c.state.db = .ok ())
    (hgone : ∀ row ∈ c.state.db.state, row.state = .pending → row.id ≠ retry.pending.id) :
    wp (smoothly S t nonce) (retryEvmMemory S fence scope operation) c.state fun _ w' =>
      ((w'.mem t.proc scope).terminalRetry = none ↔
        c.state.db.pendingRows S.chainID scope = [] ∨ retry.isOld fence) := by
  obtain ⟨hbase, -⟩ := (base_sound S may).reach (ledger_init S).1 h
  obtain ⟨hscope, hchain, hunknown⟩ := hbase.stash t.proc scope retry hretry
  by_cases hcond : c.state.db.pendingRows S.chainID scope = [] ∨ retry.isOld fence
  · refine .do_bind rfl ?_
    show wp _ (retryStash S fence scope operation (c.state.mem t.proc scope).terminalRetry >>= _)
      _ _
    rw [hretry]
    have hcond' := hcond
    rw [← hchain, ← hscope] at hcond'
    refine (retryStash_cleared hlease hcond').bind fun decision w' hclear => ?_
    cases decision with
    | some => exact .pure (iff_of_true hclear hcond)
    | none =>
      -- with a stash there is no unknown consume to look at
      show wp _ (retryUnknown S scope (c.state.mem t.proc scope).consumeUnknown >>= _) _ _
      rw [hunknown]
      show wp _ (takeAwaiting scope operation) _ _
      unfold takeAwaiting
      split
      · exact .pure (iff_of_true hclear hcond)
      refine .do_bind rfl ?_
      split <;> exact .pure (iff_of_true (cleared_setMem hclear) hcond)
  · obtain ⟨hrows, hold⟩ := not_or.mp hcond
    obtain ⟨row, _, hrow⟩ := List.exists_cons_of_ne_nil hrows
    have hmem : row ∈ c.state.db.pendingRows S.chainID scope := by simp [hrow]
    simp only [DB.pendingRows, List.mem_filter, decide_eq_true_eq] at hmem
    have hhead : (c.state.db.pendingRows retry.pending.chainID retry.pending.scope).head? =
        some row := by
      rw [hchain, hscope, hrow]
      rfl
    refine (retryEvmMemory_kept hretry hold hlease hhead (hgone row hmem.1 hmem.2.1)).mono ?_
    rintro _ _ ⟨-, rfl⟩
    exact iff_of_false (by simp [hretry]) hcond

/-- The chain of two recorded transactions that succeeded in block 5. -/
def succeededSetup : Setup :=
  sampleSetup fun h => if h = 1 ∨ h = 17 then some ({ status := 1, blockNumber := some 5 }, 5) else none

def successReceipt : Oracle := .receipt (.ok (some { status := 1, blockNumber := some 5 }))

/-- `a` records and sends the transaction 1, sees its receipt, cannot write that
it succeeded, and stashes it. -/
def stashes : List Act :=
  [.env (.dbTime 2000000), .env (.height 6)] ++ acquires ⟨"a", 0⟩ ++ clears ⟨"a", 1⟩ 7 ++
    records ⟨"a", 1⟩ 1 ++ steps ⟨"a", 1⟩
      [.none, .sent none true, .flag false, successReceipt, .fault .failed, .none, .none, .none, .none,
       .none]

/-- A request of `b` for operation 8 finds the row with its receipt and keeps it
as an outcome. -/
def keepsStashed : List Act :=
  [.env (.dbTime 40000000)] ++ loses ⟨"a", 2⟩ ++ acquires ⟨"b", 3⟩ ++
    (.start ⟨"b", 4⟩ (.request .seal 8) :: steps ⟨"b", 4⟩
      [.none, .none, .none, .fault .none, .none, .nat (.ok 0), .none, .none, .none, .none,
       .fault .none, .fault .none, .none, .fault .none, successReceipt, .fault .none, .none, .none])

/-- `a` has the lease again, as epoch 3. -/
def reacquires (n : Nat) : List Act := [.env (.dbTime 40000000)] ++ acquires ⟨"a", n⟩

def fenceOfA : Fence := { chainID := "moca_5151-1", owner := "a", epoch := 3 }

/-- What both runs below end in: `a` has the stash of row 1, which is not pending,
and the lease. -/
def Wedgeable (w : World) : Prop :=
  ((w.mem "a" .seal).terminalRetry.any fun r => r.pending.id = 1 ∧ r.terminal.kind = .successConsume ∧
    r.pending.chainID = "moca_5151-1" ∧ r.pending.scope = .seal) = true ∧
  fenceCheck fenceOfA w.db = .ok () ∧
  ∀ row ∈ w.db.state, row.state = .pending → row.id ≠ 1

instance (w : World) : Decidable (Wedgeable w) := inferInstanceAs (Decidable (_ ∧ _ ∧ _))

theorem Wedgeable.stash {w : World} (h : Wedgeable w) : ∃ r,
    (w.mem "a" .seal).terminalRetry = some r ∧ r.pending.id = 1 ∧
      r.terminal.kind = .successConsume ∧ r.pending.chainID = "moca_5151-1" ∧
      r.pending.scope = .seal := by
  obtain ⟨hany, -⟩ := h
  cases hr : (w.mem "a" .seal).terminalRetry with
  | none =>
    rw [hr] at hany
    cases hany
  | some r =>
    rw [hr] at hany
    exact ⟨r, rfl, of_decide_eq_true hany⟩

theorem stash_cleared_sample : ∃ c : Config Cmd Tid World,
    (system succeededSetup signersOnly).Reach always {} c ∧ Wedgeable c.state ∧
      wp (smoothly succeededSetup ⟨"a", 6⟩ 0)
        (retryEvmMemory succeededSetup fenceOfA .seal 7) c.state
        fun _ w' => (w'.mem "a" .seal).terminalRetry = none := by
  obtain ⟨c, hreach, hstate⟩ : ∃ c, (system succeededSetup signersOnly).Reach always {} c ∧
      Wedgeable c.state ∧
        c.state.db.pendingRows "moca_5151-1" .seal = [] :=
    Reach.exists_of_run (stashes ++ keepsStashed ++ reacquires 5) (by decide +kernel)
  obtain ⟨hw, hrows⟩ := hstate
  obtain ⟨r, hr, hid, -⟩ := hw.stash
  refine ⟨c, hreach, hw, (stash_cleared_iff _ _ c hreach ⟨"a", 6⟩ fenceOfA .seal 7 0 r hr hw.2.1
    (hid ▸ hw.2.2)).mono fun _ w' hiff => hiff.mpr (.inl hrows)⟩

/-- When `b` records a row of its own, `a` keeps its stash for good. -/
theorem stash_wedged : ∃ c : Config Cmd Tid World,
    (system succeededSetup signersOnly).Reach always {} c ∧ Wedgeable c.state ∧
      wp (smoothly succeededSetup ⟨"a", 6⟩ 0)
        (retryEvmMemory succeededSetup fenceOfA .seal 7) c.state
        fun _ w' => (w'.mem "a" .seal).terminalRetry ≠ none := by
  obtain ⟨c, hreach, hstate⟩ : ∃ c, (system succeededSetup signersOnly).Reach always {} c ∧
      Wedgeable c.state ∧
        (c.state.db.pendingRows "moca_5151-1" .seal).head?.map StateRow.id = some 2 :=
    Reach.exists_of_run (stashes ++ keepsStashed ++ records ⟨"b", 4⟩ 25 ++ reacquires 5) (by decide +kernel)
  obtain ⟨hw, hrows⟩ := hstate
  obtain ⟨_, hhead, hrow⟩ := Option.map_eq_some_iff.mp hrows
  obtain ⟨r, hr, hid, hkind, hchain, hscope⟩ := hw.stash
  have hold : ¬ r.isOld fenceOfA := by
    rintro ⟨hkind', -⟩
    rw [hkind] at hkind'
    cases hkind'
  refine ⟨c, hreach, hw, ?_⟩
  refine (retryEvmMemory_kept (t := ⟨"a", 6⟩) hr hold hw.2.1 (by rw [hchain, hscope]; exact hhead)
    (by rw [hrow, hid]; decide)).mono ?_
  rintro _ _ ⟨-, rfl⟩
  simp [hr]

end Signer

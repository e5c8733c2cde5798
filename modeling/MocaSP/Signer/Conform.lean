-- SUMMARY: The code of the state manager follows the discipline.
import MocaSP.Signer.Discipline

/-!
# The state manager follows the discipline

One lemma per function of `Manager`: from which knowledge it may run, and what is
known when it returns.
-/

namespace Signer

open Client View TerminalRetry OutcomeRecord

/-! ## Knowledge that only grows -/

/-- `k'` knows what `k` knows, and nothing the thread relies on was lost. -/
structure View.Grows (k k' : View) : Prop where
  scope : k'.scope = k.scope
  mem : k'.mem = k.mem
  synced : k'.synced = k.synced
  cleared : k'.cleared = k.cleared
  fence : k'.fence = k.fence
  refused : ∀ e r, k.hand = .refused e r → k'.hand = .refused e r
  facts : ∀ x, k.facts x → k'.facts x

variable {txHash h : Hash} {scope : SignType} {kind : TerminalKind} {k : View} {x : Fact}
  {pending : PendingRecord}

namespace View.Grows

variable {k k₁ k₂ : View}

theorem refl : k.Grows k := ⟨rfl, rfl, rfl, rfl, rfl, fun _ _ h => h, fun _ h => h⟩

theorem trans (h₁ : k.Grows k₁) (h₂ : k₁.Grows k₂) : k.Grows k₂ :=
  ⟨h₂.scope.trans h₁.scope, h₂.mem.trans h₁.mem, h₂.synced.trans h₁.synced,
    h₂.cleared.trans h₁.cleared, h₂.fence.trans h₁.fence,
    fun e r h => h₂.refused e r (h₁.refused e r h), fun x h => h₂.facts x (h₁.facts x h)⟩

theorem add (fs : List Fact) : k.Grows (k.add fs) :=
  ⟨rfl, rfl, rfl, rfl, rfl, fun _ _ h => h, fun _ h => .inl h⟩

theorem forget : (k.forget txHash).Grows k :=
  ⟨rfl, rfl, rfl, rfl, rfl, fun _ _ h => h, fun _ h => h.1⟩

theorem works (h : k.Grows k₁) {fence : Fence} (hw : k.Works fence scope) : k₁.Works fence scope :=
  ⟨h.fence.trans hw.1, h.scope.trans hw.2⟩

theorem backed (h : k.Grows k₁) (hb : k.Backed) : k₁.Backed := by
  intro s u hmem
  obtain ⟨hs, hu⟩ := hb s u (h.mem ▸ hmem)
  exact ⟨fun r hr x hx => h.facts x (hs r hr x hx), fun o ho x hx => h.facts x (hu o ho x hx)⟩

theorem justifies (h : k.Grows k₁) {epoch : Nat} {row : PendingRecord} (hj : k.Justifies epoch row kind) :
    k₁.Justifies epoch row kind := by
  cases kind with
  | failed | successConsume | successKeep => exact h.facts _ hj
  | notAdmittedNonceLow | notAdmittedNonceHigh | notAdmittedRejected =>
    exact hj.imp (h.refused _ _) fun ⟨r, u, hmem, hr⟩ => ⟨r, u, h.mem.trans hmem, hr⟩

end View.Grows

theorem View.add_facts {fs : List Fact} (h : x ∈ fs) : (k.add fs).facts x := .inr h

/-- The call may end what is known of a row. -/
def StoreCall.endsRow {β : Type} : StoreCall β → Bool
  | .record .. => true
  | .resolvePending .. => true
  | _ => false

/-- Every other store call keeps what is known. -/
theorem learnStore_grows {β : Type} {c : StoreCall β} (hc : c.endsRow = false) (r : Except StoreErr β) :
    k.Grows (learnStore k c r) := by
  cases c with
  | record | resolvePending => cases hc
  | acquireLease =>
    rcases r with _ | ⟨e, _ | _⟩
    · exact .refl
    · exact .refl
    · exact .add _
  | getPending =>
    rcases r with _ | _ | _
    · exact .refl
    · exact .refl
    · refine ⟨rfl, rfl, rfl, rfl, rfl, ?_, fun _ h => .inl h⟩
      intro _ _ hr
      simp only [learnStore, hr, Hand.see, ite_self]
  | getOutcome =>
    rcases r with _ | _ | o
    · exact .refl
    · exact .refl
    · exact .add _
  | getSignedTxByHash | consumeOutcome =>
    rcases r with _ | o
    · exact .refl
    · exact .add _
  | hasAudit _ event =>
    rcases r with _ | _ | _
    · cases event <;> exact .refl
    · cases event <;> exact .refl
    · cases event <;> first | exact .refl | exact .add _
  | _ => exact .refl

/-- Ending a row keeps what is known, but for the row. -/
theorem learnStore_resolvePending_grows (k : View) (fence : Fence) (pending : PendingRecord)
    (terminal : PendingTerminal) (r : Except StoreErr (Option OutcomeRecord)) :
    (k.forget pending.txHash).Grows (learnStore k (.resolvePending fence pending terminal) r) := by
  have hforget : (k.forget pending.txHash).Grows
      (if terminal.kind.notAdmitted then k.forget pending.txHash else k) := by
    split
    · exact .refl
    · exact .forget
  rcases r with _ | _
  · exact hforget
  · exact hforget.trans (.add _)

theorem learnQuery_grows {β : Type} (q : Query β) (r : β) : k.Grows (learnQuery k q r) := by
  cases q with
  | receipt | searchEthereumTx | cosmosTx =>
    rcases r with _ | _ | x
    · exact .refl
    · exact .refl
    · exact .add _
  | waitReceipt | searchAccSeq =>
    rcases r with _ | x
    · exact .refl
    · exact .add _
  | _ => exact .refl

/-! ## Single calls -/

/-- Code of process `p` that follows the discipline from `k` and ends in `Q`. -/
abbrev Conforms {α : Type} (S : Setup) (p : String) (code : Code α) (k : View) (Q : α → View → Prop) : Prop :=
  (discipline S p).Follows code k Q

section
variable {S : Setup} {p : String} {k : View} {α β : Type} {Q : α → View → Prop}

variable {f : Except StoreErr β → Code α}

namespace Conforms

protected theorem store {c : StoreCall β} (hallowed : allowedStore S p k c)
    (hnext : ∀ r, answersStore S c r → Conforms S p (f r) (learnStore k c r) Q) :
    Conforms S p (store c >>= f) k Q :=
  .do_bind hallowed hnext

/-- A store call that ends no row. -/
protected theorem read {c : StoreCall β} (hallowed : allowedStore S p k c) (hc : c.endsRow = false)
    (hnext : ∀ r, answersStore S c r → k.Grows (learnStore k c r) →
      Conforms S p (f r) (learnStore k c r) Q) : Conforms S p (store c >>= f) k Q :=
  .store hallowed fun r hr => hnext r hr (learnStore_grows hc r)

/-- The code treats an error of the store apart. -/
protected theorem store_ok {c : StoreCall β} (hallowed : allowedStore S p k c)
    (herror : ∀ e, Conforms S p (f (.error e)) (learnStore k c (.error e)) Q)
    (hok : ∀ a, answersStore S c (.ok a) → Conforms S p (f (.ok a)) (learnStore k c (.ok a)) Q) :
    Conforms S p (store c >>= f) k Q := by
  refine .store hallowed fun r hr => ?_
  cases r with
  | error e => exact herror e
  | ok a => exact hok a hr

protected theorem ask {q : Query β} {f : β → Code α}
    (hnext : ∀ r, answers S p k (.ask q) r → k.Grows (learnQuery k q r) →
      Conforms S p (f r) (learnQuery k q r) Q) : Conforms S p (ask q >>= f) k Q :=
  .do_bind trivial fun r hr => hnext r hr (learnQuery_grows q r)

/-- The code treats a failed query apart. -/
protected theorem ask_ok {ε : Type} {q : Query (Except ε β)} {f : Except ε β → Code α}
    (herror : ∀ e, Conforms S p (f (.error e)) (learnQuery k q (.error e)) Q)
    (hok : ∀ a, k.Grows (learnQuery k q (.ok a)) →
      Conforms S p (f (.ok a)) (learnQuery k q (.ok a)) Q) : Conforms S p (ask q >>= f) k Q := by
  refine .ask fun r _ hgrows => ?_
  cases r with
  | error e => exact herror e
  | ok a => exact hok a hgrows

protected theorem setNotes {g : ScopeNotes → ScopeNotes} {f : Unit → Code α} (hscope : k.scope = some scope)
    (hnext : Conforms S p (f ()) k Q) : Conforms S p (.do_ (.setNotes scope g) >>= f) k Q :=
  .do_bind hscope fun _ _ => hnext

end Conforms

end

/-! ## Functions of the manager -/

section
variable {S : Setup} {p : String} {k : View}

/-- The evidence check passed: `h` is a transaction of this sender at this nonce. -/
def Setup.Signed (S : Setup) (h : Hash) (sender : Address) (nonce : Nat) : Prop :=
  (S.eth.tx h).sender = some sender ∧ (S.eth.tx h).nonce = nonce

theorem Setup.signed_of_verify {evidence : Option SignedTxEvidence} {ref : EvidenceRef}
    (hv : verify S.eth S.evmChainID evidence ref = .ok h) :
    h = ref.txHash ∧ S.Signed ref.txHash ref.sender ref.nonce := by
  obtain ⟨_, -, rfl, rfl, -, hsender, hnonce⟩ := verify_ok hv
  exact ⟨rfl, hsender, hnonce⟩

theorem auditInvalid_follows {fence : Option Fence} {kind : RowKind} {rowID : Nat}
    {event : AuditEvent} :
    Conforms S p (auditInvalid S fence kind rowID event) k fun _ => (· = k) := by
  refine .do_bind trivial fun seen _ => ?_
  cases seen with
  | true => exact .pure rfl
  | false =>
    refine Conforms.store_ok (by simp [allowedStore]) (fun _ => .pure rfl) fun _ _ => ?_
    exact .do_ trivial fun _ _ => rfl

theorem loadEvidence_follows {fence : Option Fence} {kind : RowKind} {rowID : Nat}
    {ref : EvidenceRef} {event : AuditEvent} :
    Conforms S p (loadEvidence S fence kind rowID ref event) k fun r k' =>
      k' = k ∧ ∀ h, r = .ok h → h = ref.txHash ∧ S.Signed ref.txHash ref.sender ref.nonce := by
  refine .store_ok trivial (fun _ => .pure ⟨rfl, by simp⟩) fun evidence _ => ?_
  dsimp only
  split
  next hv =>
    refine .pure ⟨rfl, ?_⟩
    rintro _ ⟨⟩
    exact S.signed_of_verify hv
  · refine auditInvalid_follows.bind fun _ k' hk => ?_
    exact .pure ⟨hk, by simp⟩

theorem refreshNonceFromChain_follows (hscope : k.scope = some scope) :
    Conforms S p (refreshNonceFromChain scope) k fun _ => (· = k) := by
  unfold refreshNonceFromChain
  split
  · exact .pure rfl
  · exact .ask_ok (fun _ => .pure rfl) fun _ _ => .setNotes hscope (.pure rfl)

variable {terminal : PendingTerminal}

theorem readBackResolved_follows : Conforms S p (readBackResolved S pending terminal) k fun r k' =>
      k.Grows k' ∧ (r = .ok true → terminal.kind = .successConsume →
        k'.facts (.audited pending.txHash 0)) := by
  refine .read trivial rfl fun r _ hgrows => ?_
  cases r with
  | error => exact .pure ⟨hgrows, by simp⟩
  | ok =>
    dsimp only
    split
    · exact .pure ⟨hgrows, by simp⟩
    refine .do_ trivial fun r _ => ⟨hgrows.trans (learnStore_grows rfl r), ?_⟩
    rintro rfl hkind
    rw [hkind]
    exact add_facts (by simp)

/-- The process consumed the transaction's result, or an audit shows that it was
consumed. -/
def View.Took (k : View) (h : Hash) : Prop := k.facts (.consumed h) ∨ k.facts (.audited h 0)

theorem View.Took.canHand (ht : k.Took h) (hc : k.facts (.claimable h)) : k.CanHand h :=
  ⟨hc, ht.imp id .inl⟩

theorem writeTerminal_follows {fence : Fence}
    (hallowed : allowedStore S p k (.resolvePending fence pending terminal)) :
    Conforms S p (writeTerminal S fence pending terminal) k fun r k' =>
      (k.forget pending.txHash).Grows k' ∧
        (r = none → terminal.kind = .successConsume → k'.Took pending.txHash) := by
  refine .store hallowed fun r _ => ?_
  have hgrows := learnStore_resolvePending_grows k fence pending terminal r
  split
  · refine .pure ⟨hgrows, fun _ hkind => .inl ?_⟩
    simp only [learnStore, hkind, if_true]
    exact add_facts (by simp)
  · refine readBackResolved_follows.bind fun r k' h => ?_
    split
    · exact .pure ⟨hgrows.trans h.1, fun _ hkind => .inr (h.2 rfl hkind)⟩
    · exact .pure ⟨hgrows.trans h.1, by simp⟩
  · exact .pure ⟨hgrows, by simp⟩

theorem applyTerminal_follows {fence : Fence}
    (hallowed : allowedStore S p k (.resolvePending fence pending terminal)) :
    Conforms S p (applyTerminal S fence pending terminal) k fun r k' =>
      (k.forget pending.txHash).Grows k' ∧
        (r = none → terminal.kind = .successConsume → k'.Took pending.txHash) := by
  refine (writeTerminal_follows hallowed).bind fun r k' h => ?_
  cases r with
  | some => exact .pure ⟨h.1, by simp⟩
  | none => exact Conforms.setNotes (h.1.scope.trans hallowed.1.2) (.pure h)

theorem firstLanded_follows (kinds : List TerminalKind) :
    Conforms S p (firstLanded S pending kinds) k fun r k' =>
      k.Grows k' ∧ (r = .ok (some .successConsume) →
        .successConsume ∈ kinds ∧ k'.facts (.audited pending.txHash 0)) := by
  induction kinds generalizing k with
  | nil => exact .pure ⟨.refl, by simp⟩
  | cons kind _ ih =>
    refine .read trivial rfl fun r _ hgrows => ?_
    split
    · exact .pure ⟨hgrows, by simp⟩
    · refine .pure ⟨hgrows, ?_⟩
      intro hkind
      obtain rfl : kind = .successConsume := by simpa using hkind
      exact ⟨by simp, add_facts (by simp)⟩
    · exact ih.mono fun r k' h => ⟨hgrows.trans h.1, fun hr => ⟨.tail _ (h.2 hr).1, (h.2 hr).2⟩⟩

theorem landedTerminal_follows : Conforms S p (landedTerminal S pending kind) k fun r k' =>
      k.Grows k' ∧ (r = .ok (some .successConsume) →
        (kind = .successConsume ∨ kind = .successKeep) ∧ k'.facts (.audited pending.txHash 0)) := by
  refine (firstLanded_follows _).mono fun r k' h => ⟨h.1, fun hr => ⟨?_, (h.2 hr).2⟩⟩
  have hmem := (h.2 hr).1
  split at hmem
  · assumption
  · exact .inl (List.mem_singleton.mp hmem).symm

end

/-! ## Sessions: work under a scope's lock -/

/-- The thread works under the fence and the lock, and what it knows to be in
memory is backed. -/
structure View.In (k : View) (fence : Fence) (scope : SignType) : Prop where
  works : k.Works fence scope
  backed : k.Backed

/-- What backs a memory is not about rows. -/
theorem TerminalRetry.ne_row_of_mem {t : TerminalRetry} (hx : x ∈ t.facts) :
    ∀ f r, x = .row f r → r.txHash ≠ h := by
  rintro _ _ rfl
  unfold facts at hx
  split at hx <;> simp at hx

theorem OutcomeRecord.ne_row_of_mem {o : OutcomeRecord} (hx : x ∈ o.facts) :
    ∀ f r, x = .row f r → r.txHash ≠ h := by
  rintro _ _ rfl
  unfold facts at hx
  split at hx <;> simp at hx

/-- What stays the same within a session. -/
structure View.Keeps (k k' : View) : Prop where
  scope : k'.scope = k.scope
  fence : k'.fence = k.fence
  cleared : k'.cleared = k.cleared
  synced : ∀ e, k.synced = some e → k'.synced = some e

namespace View

variable {k k₁ k₂ : View} {fence : Fence} {scope : SignType}

theorem Keeps.refl : k.Keeps k := ⟨rfl, rfl, rfl, fun _ h => h⟩

theorem Keeps.trans (h₁ : k.Keeps k₁) (h₂ : k₁.Keeps k₂) : k.Keeps k₂ :=
  ⟨h₂.scope.trans h₁.scope, h₂.fence.trans h₁.fence, h₂.cleared.trans h₁.cleared,
    fun e h => h₂.synced e (h₁.synced e h)⟩

theorem Grows.keeps (h : k.Grows k₁) : k.Keeps k₁ :=
  ⟨h.scope, h.fence, h.cleared, fun _ he => h.synced.trans he⟩

theorem Backed.forget (h : k.Backed) : (k.forget txHash).Backed := by
  intro s u hmem
  obtain ⟨hs, hu⟩ := h s u hmem
  refine ⟨fun r hr x hx => ⟨hs r hr x hx, ne_row_of_mem hx⟩, fun o ho x hx =>
    ⟨hu o ho x hx, ne_row_of_mem hx⟩⟩

theorem In.forget (h : k.In fence scope) : (k.forget txHash).In fence scope :=
  ⟨h.works, h.backed.forget⟩

theorem Justifies.forget {epoch : Nat} {row : PendingRecord} (h : k.Justifies epoch row kind) :
    (k.forget txHash).Justifies epoch row kind := by
  cases kind with
  | failed | successConsume | successKeep => exact ⟨h, by simp⟩
  | notAdmittedNonceLow | notAdmittedNonceHigh | notAdmittedRejected => exact h

theorem Keeps.of_forget (h : (k.forget txHash).Keeps k₁) : k.Keeps k₁ := { h with }

theorem Grows.in (h : k.Grows k₁) (hin : k.In fence scope) : k₁.In fence scope :=
  ⟨h.works hin.works, h.backed hin.backed⟩

/-- The memory of the locked scope is known to be clear. -/
def Clear (k : View) : Prop := k.mem = some (none, none)

theorem Clear.backed (h : k.Clear) : k.Backed := by
  intro s u hmem
  obtain ⟨rfl, rfl⟩ : none = s ∧ none = u := by simpa [Clear, hmem, eq_comm] using h
  exact ⟨by simp, by simp⟩

/-- What is known when a function answers a request or clears it for signing: an
answer without an error is the process's to give. -/
structure Decides (k : View) (fence : Fence) (scope : SignType) (d : Decision) : Prop where
  inside : k.In fence scope
  clear : d = none → k.Clear
  hand : ∀ h, d = some { hash := some h } → k.Clear ∧ k.CanHand h

/-- How a function that decides ends. -/
abbrev Ends (k : View) (fence : Fence) (scope : SignType) (d : Decision) (k' : View) : Prop :=
  k.Keeps k' ∧ k'.Decides fence scope d

theorem Decides.error (h : k.In fence scope) {hash : Option Hash} {e : Err} :
    k.Decides fence scope (some { hash, err := some e }) :=
  ⟨h, by simp, by simp⟩

theorem Decides.none (h : k.In fence scope) (hc : k.Clear) : k.Decides fence scope none :=
  ⟨h, fun _ => hc, by simp⟩

end View

/-- What reading the scope's memory teaches. -/
structure View.Loads (k : View) (S : Setup) (scope : SignType) (m : ScopeMem) (k' : View) : Prop where
  keeps : k.Keeps k'
  backed : k.Backed → k'.Backed
  mem : k'.mem = some (m.terminalRetry, m.consumeUnknown)
  known : ∀ x, k.mem = some x → k'.mem = some x
  synced : k'.synced = some m.notes.epoch
  refused : k'.hand = k.hand
  facts : ∀ x, k.facts x → k'.facts x
  stash : ∀ r ∈ m.terminalRetry, r.pending.scope = scope ∧ r.pending.chainID = S.chainID ∧
    m.consumeUnknown = none
  unknown : ∀ o ∈ m.consumeUnknown, o.state = .succeeded

section
variable {S : Setup} {p : String} {k : View} {α : Type} {fence : Fence} {scope : SignType}

theorem View.Loads.in {k₁ : View} {m : ScopeMem} (h : k.Loads S scope m k₁) (hin : k.In fence scope) :
    k₁.In fence scope :=
  ⟨⟨h.keeps.fence.trans hin.works.1, h.keeps.scope.trans hin.works.2⟩, h.backed hin.backed⟩

protected theorem Conforms.loadMem {f : ScopeMem → Code α} {Q : α → View → Prop} (hscope : k.scope = some scope)
    (hnext : ∀ m k', k.Loads S scope m k' → Conforms S p (f m) k' Q) :
    Conforms S p (.do_ (.loadMem scope) >>= f) k Q := by
  refine .do_bind hscope fun m hm => hnext m (k.load m) ?_
  obtain ⟨hmem, hsynced, hstash, hunknown⟩ := hm
  have hkeep : ∀ e, k.synced = some e → some m.notes.epoch = some e :=
    fun e he => congrArg some (hsynced e he)
  unfold load
  split
  next x hk =>
    obtain ⟨s, u⟩ := x
    obtain ⟨rfl, rfl⟩ := hmem s u hk
    exact ⟨⟨rfl, rfl, rfl, hkeep⟩, id, hk, fun _ h => h, rfl, rfl, fun _ h => h, hstash, hunknown⟩
  next hk =>
    refine ⟨⟨rfl, rfl, rfl, hkeep⟩, fun _ => ?_, rfl, by simp [hk], rfl, rfl, fun _ h => .inl h,
      hstash, hunknown⟩
    rintro _ _ ⟨⟩
    refine ⟨fun r hr x hx => .inr ?_, fun o ho x hx => .inr ?_⟩
    · rw [Option.mem_def.mp hr]
      exact List.mem_append_left _ hx
    · rw [Option.mem_def.mp ho]
      exact List.mem_append_right _ hx

variable {u : Option OutcomeRecord}

theorem dropOldRefusal_follows {stash : Option TerminalRetry} (hin : k.In fence scope)
    (hmem : k.mem = some (stash, u)) : Conforms S p (dropOldRefusal fence scope stash) k fun r k' =>
      k.Keeps k' ∧ k'.In fence scope ∧ k'.mem = some (r, u) ∧
        ∀ x, r = some x → stash = some x ∧ (x.terminal.kind.notAdmitted → x.epoch = fence.epoch) := by
  unfold dropOldRefusal
  split
  next =>
    split
    · refine .do_bind ⟨hin.works.2, by simp⟩ fun _ _ => .pure ?_
      have hmem' : (k.setRetry none).mem = some (none, u) := by simp [setRetry, hmem]
      refine ⟨⟨rfl, rfl, rfl, fun _ h => h⟩, ⟨hin.works, ?_⟩, hmem', by simp⟩
      intro s u' h
      obtain ⟨rfl, rfl⟩ : none = s ∧ u = u' := by simpa using hmem'.symm.trans h
      exact ⟨by simp, (hin.backed _ _ hmem).2⟩
    next hold =>
      refine .pure ⟨.refl, hin, hmem, ?_⟩
      rintro _ ⟨⟩
      refine ⟨rfl, fun hna => ?_⟩
      simpa [hna] using hold
  · exact .pure ⟨.refl, hin, hmem, by simp⟩

theorem afterRetried_follows (hin : k.In fence scope) (hclear : k.Clear)
    (hhand : kind = .successConsume → k.CanHand pending.txHash) :
    Conforms S p (afterRetried scope pending kind) k (k.Ends fence scope) := by
  unfold afterRetried
  split
  case h_1 =>
    refine .pure ⟨.refl, hin, by simp, ?_⟩
    rintro _ ⟨⟩
    exact ⟨hclear, hhand rfl⟩
  case h_4 => exact .pure ⟨.refl, .none hin hclear⟩
  -- both other outcomes refresh the nonce
  all_goals
    refine (refreshNonceFromChain_follows hin.works.2).bind fun r k' hk => ?_
    subst hk
    cases r with
    | some => exact .pure ⟨.refl, .error hin⟩
    | none => exact .pure ⟨.refl, .none hin hclear⟩

variable {retry : TerminalRetry} {operation : Hash}

/-- A stashed terminal justifies its retry. -/
theorem View.justifies_retried (hmem : k.mem = some (some retry, u))
    (hfacts : ∀ x ∈ retry.facts, k.facts x)
    (hepoch : retry.terminal.kind.notAdmitted → retry.epoch = fence.epoch) :
    k.Justifies fence.epoch retry.pending (retriedTerminal retry operation).kind := by
  unfold retriedTerminal
  split
  next hkeep => exact hfacts _ (by simp [TerminalRetry.facts, hkeep.1])
  have hstash : retry.terminal.kind.notAdmitted → ∃ r u, k.mem = some (some r, u) ∧
      r.pending = retry.pending ∧ r.epoch = fence.epoch ∧ r.terminal.kind.notAdmitted :=
    fun hna => ⟨retry, u, hmem, rfl, hepoch hna, hna⟩
  cases hkind : retry.terminal.kind with
  | failed | successConsume | successKeep => exact hfacts _ (by simp [TerminalRetry.facts, hkind])
  | notAdmittedNonceLow | notAdmittedNonceHigh | notAdmittedRejected =>
    exact .inr (hstash (by rw [hkind]; rfl))

theorem View.retried_claimable (hfacts : ∀ x ∈ retry.facts, k.facts x)
    (hkind : retry.terminal.kind = .successConsume ∨ retry.terminal.kind = .successKeep) :
    k.facts (.claimable retry.pending.txHash) := by
  refine hfacts _ ?_
  obtain hkind | hkind := hkind <;> simp [TerminalRetry.facts, hkind]

theorem View.keeps_setRetry {r : Option TerminalRetry} : k.Keeps (k.setRetry r) :=
  ⟨rfl, rfl, rfl, fun _ h => h⟩

/-- Clearing the stash of a scope without an unknown consume clears its memory. -/
theorem View.clear_setRetry {s : Option TerminalRetry} (h : k.mem = some (s, none)) :
    (k.setRetry none).Clear := by
  simp [View.Clear, setRetry, h]

section
variable (hin : k.In fence scope)
include hin

theorem retryTerminal_follows (hmem : k.mem = some (some retry, none))
    (hscope : retry.pending.scope = scope) (hchain : retry.pending.chainID = S.chainID)
    (hepoch : retry.terminal.kind.notAdmitted → retry.epoch = fence.epoch) :
    Conforms S p (retryTerminal S fence scope operation retry) k (k.Ends fence scope) := by
  subst hscope
  have hfacts := (hin.backed _ _ hmem).1 retry rfl
  have hallowed : allowedStore S p k
      (.resolvePending fence retry.pending (retriedTerminal retry operation)) :=
    ⟨hin.works, hchain, justifies_retried hmem hfacts hepoch⟩
  refine (applyTerminal_follows hallowed).bind fun r k₁ h₁ => ?_
  obtain ⟨hgrows, htook⟩ := h₁
  have hmem₁ := hgrows.mem.trans hmem
  split
  · -- recorded
    refine .do_bind ⟨(hgrows.in hin.forget).works.2, by simp⟩ fun _ _ => ?_
    have hclear := clear_setRetry hmem₁
    have hin₁ : (k₁.setRetry none).In fence retry.pending.scope :=
      ⟨(hgrows.in hin.forget).works, hclear.backed⟩
    refine (afterRetried_follows hin₁ hclear ?_).mono
      fun d k' h => ⟨(hgrows.keeps.of_forget.trans keeps_setRetry).trans h.1, h.2⟩
    intro hkind
    refine (htook rfl hkind).canHand <| hgrows.facts _ ⟨retried_claimable hfacts (.inl ?_), by simp⟩
    unfold retriedTerminal at hkind
    split at hkind
    · cases hkind
    · exact hkind
  · -- the row is gone: only the audit tells what happened to it
    refine landedTerminal_follows.bind fun r k₂ h₂ => ?_
    obtain ⟨hgrows₂, hlanded⟩ := h₂
    have hall := hgrows.trans hgrows₂
    have hin₂ := hall.in hin.forget
    have hclear := clear_setRetry (hall.mem.trans hmem)
    have hin₃ : (k₂.setRetry none).In fence retry.pending.scope := ⟨hin₂.works, hclear.backed⟩
    split
    · exact .pure ⟨hall.keeps.of_forget, .error hin₂⟩
    · refine .do_bind ⟨hin₂.works.2, by simp⟩ fun _ _ => .pure ?_
      exact ⟨hall.keeps.of_forget.trans keeps_setRetry, .none hin₃ hclear⟩
    · obtain ⟨hkind, haudited⟩ := hlanded rfl
      have hcan : k₂.CanHand retry.pending.txHash :=
        ⟨hall.facts _ ⟨retried_claimable hfacts hkind, by simp⟩, .inr (.inl haudited)⟩
      refine .do_bind ⟨hin₂.works.2, by simp [hall.mem.trans hmem], hcan⟩ fun _ _ => ?_
      refine .do_bind ⟨hin₂.works.2, by simp⟩ fun _ _ => .pure ?_
      have hclear' : ((k₂.drop retry.pending.txHash).setRetry none).Clear := hclear
      exact ⟨hall.keeps.of_forget.trans ⟨rfl, rfl, rfl, fun _ h => h⟩,
        .none ⟨hin₂.works, hclear'.backed⟩ hclear'⟩
    next hne =>
      refine .do_bind ⟨hin₂.works.2, by simp⟩ fun _ _ => ?_
      refine (afterRetried_follows hin₃ hclear ?_).mono
        fun d k' h => ⟨(hall.keeps.of_forget.trans keeps_setRetry).trans h.1, h.2⟩
      rintro rfl
      exact (hne rfl).elim
  · exact .pure ⟨hgrows.keeps.of_forget, .error (hgrows.in hin.forget)⟩

theorem retryConsume_follows {consume : OutcomeRecord}
    (hmem : k.mem = some (none, some consume)) (hstate : consume.state = .succeeded) :
    Conforms S p (retryConsume S scope consume) k (k.Ends fence scope) := by
  have hfacts := (hin.backed _ _ hmem).2 consume rfl
  -- the unknown consume is dropped from a scope without a stash
  have hdone : ∀ k₁ : View, k.Keeps k₁ → k₁.mem = some (none, some consume) →
      Conforms S p (do .do_ (.setConsumeUnknown scope none); return none) k₁
        (k.Ends fence scope) := by
    intro k₁ hkeeps hmem₁
    refine .do_bind ⟨hkeeps.scope.trans hin.works.2, by simp⟩ fun _ _ => .pure ?_
    have hclear : (k₁.setUnknown none).Clear := by simp [View.Clear, setUnknown, hmem₁]
    have hin₁ : (k₁.setUnknown none).In fence scope :=
      ⟨⟨hkeeps.fence.trans hin.works.1, hkeeps.scope.trans hin.works.2⟩, hclear.backed⟩
    exact ⟨hkeeps.trans ⟨rfl, rfl, rfl, fun _ h => h⟩, .none hin₁ hclear⟩
  refine .read trivial rfl fun r _ hgrows => ?_
  cases r with
  | error => exact .pure ⟨hgrows.keeps, .error (hgrows.in hin)⟩
  | ok =>
    dsimp only
    split
    · exact hdone _ hgrows.keeps (hgrows.mem.trans hmem)
    refine .read trivial rfl fun r _ hgrows₁ => ?_
    have hall := hgrows.trans hgrows₁
    split
    · exact .pure ⟨hall.keeps, .error (hall.in hin)⟩
    · have hknown := hall.mem.trans hmem
      refine .do_bind ⟨hall.scope.trans hin.works.2, Option.isSome_iff_exists.mpr ⟨_, hknown⟩,
        ?_, ?_⟩ fun _ _ => hdone _ (hall.keeps.trans ⟨rfl, rfl, rfl, fun _ h => h⟩) (hall.mem.trans hmem)
      · exact hall.facts _ (hfacts _ (by simp [OutcomeRecord.facts, hstate]))
      · refine .inr (.inr ⟨consume, hall.facts _ (hfacts _ ?_), hstate, rfl, add_facts ?_⟩)
        · simp [OutcomeRecord.facts, hstate]
        · simp
    · exact hdone _ hall.keeps (hall.mem.trans hmem)

theorem takeAwaiting_follows (hclear : k.Clear) :
    Conforms S p (takeAwaiting scope operation) k (k.Ends fence scope) := by
  unfold takeAwaiting
  split
  · exact .pure ⟨.refl, .none hin hclear⟩
  refine .do_bind hin.works.2 fun r _ => ?_
  cases r with
  | none => exact .pure ⟨.refl, .none hin hclear⟩
  | some h =>
    have hgrows : k.Grows (k.add [.claimable h, .consumed h]) := .add _
    refine .pure ⟨hgrows.keeps, hgrows.in hin, by simp, ?_⟩
    rintro _ ⟨⟩
    exact ⟨hclear, add_facts (by simp), .inl (add_facts (by simp))⟩

theorem retryEvmMemory_follows : Conforms S p (retryEvmMemory S fence scope operation) k (k.Ends fence scope) := by
  refine .loadMem hin.works.2 fun m k₁ hload => ?_
  have hin₁ := hload.in hin
  have hstash : Conforms S p (retryStash S fence scope operation m.terminalRetry) k₁
      fun d k' => k₁.Keeps k' ∧ k'.In fence scope ∧
        (d = none → k'.mem = some (none, m.consumeUnknown)) ∧ (d ≠ none → k'.Decides fence scope d) := by
    refine (dropOldRefusal_follows hin₁ hload.mem).bind fun r k₂ h => ?_
    obtain ⟨hkeeps, hin₂, hmem₂, hr⟩ := h
    cases r with
    | none => exact .pure ⟨hkeeps, hin₂, fun _ => hmem₂, by simp⟩
    | some retry =>
      obtain ⟨hstash, hepoch⟩ := hr retry rfl
      obtain ⟨hscope, hchain, hnone⟩ := hload.stash retry hstash
      rw [hnone] at hmem₂
      refine (retryTerminal_follows hin₂ hmem₂ hscope hchain hepoch).mono fun d k' h => ?_
      refine ⟨hkeeps.trans h.1, h.2.inside, fun hd => ?_, fun _ => h.2⟩
      rw [hnone]
      exact h.2.clear hd
  refine hstash.bind fun d k₂ h => ?_
  obtain ⟨hkeeps, hin₂, hmem₂, hd⟩ := h
  have hkeeps' := hload.keeps.trans hkeeps
  cases d with
  | some => exact .pure ⟨hkeeps', hd (by simp)⟩
  | none =>
    have hunknown : Conforms S p (retryUnknown S scope m.consumeUnknown) k₂
        (k₂.Ends fence scope) := by
      have hmem₃ := hmem₂ rfl
      cases hu : m.consumeUnknown with
      | none =>
        rw [hu] at hmem₃
        exact .pure ⟨.refl, .none hin₂ hmem₃⟩
      | some o =>
        rw [hu] at hmem₃
        exact retryConsume_follows hin₂ hmem₃ (hload.unknown o hu)
    refine hunknown.bind fun d k₃ h => ?_
    cases d with
    | some => exact .pure ⟨hkeeps'.trans h.1, h.2⟩
    | none =>
      exact (takeAwaiting_follows h.2.inside (h.2.clear rfl)).mono
        fun d k' h' => ⟨(hkeeps'.trans h.1).trans h'.1, h'.2⟩

theorem syncEvmScopeEpoch_follows {known : Option PendingRecord} :
    Conforms S p (syncEvmScopeEpoch S p fence scope known) k fun r k' =>
      k'.In fence scope ∧ (r = none → k'.synced = some fence.epoch) := by
  refine .loadMem hin.works.2 fun m k₁ hload => ?_
  have hin₁ := hload.in hin
  have hknown : Conforms S p (knownPending S scope known) k₁ fun _ k' => k₁.Grows k' := by
    cases known with
    | some => exact .pure .refl
    | none => exact .do_ trivial fun r _ => learnStore_grows rfl r
  split
  next hepoch => exact .pure ⟨hin₁, fun _ => hepoch ▸ hload.synced⟩
  refine hknown.bind fun r k₂ hgrows => ?_
  have hin₂ := hgrows.in hin₁
  have hsynced : Conforms S p
      (do .do_ (.setSynced scope fence.epoch); return (none : Option Err)) k₂ fun r k' =>
        k'.In fence scope ∧ (r = none → k'.synced = some fence.epoch) :=
    .do_bind hin₂.works.2 fun _ _ => .pure ⟨⟨hin₂.works, hin₂.backed⟩, fun _ => rfl⟩
  cases r with
  | error => exact .pure ⟨hin₂, by simp⟩
  | ok =>
    refine Conforms.setNotes hin₂.works.2 ?_
    split
    · exact .ask_ok (fun _ => .pure ⟨hin₂, by simp⟩) fun _ _ => .setNotes hin₂.works.2 hsynced
    · exact hsynced

end

end

end Signer

-- SUMMARY: Automatic dispositions and resolution follow the discipline.
import MocaSP.Signer.Conform

/-!
# Resolving a scope follows the discipline
-/

namespace Signer

open Discipline Client View Follows

/-- What a function that leaves the scope's memory alone may change. -/
structure View.Extends (k k' : View) : Prop where
  keeps : k.Keeps k'
  clear : k.Clear → k'.Clear
  facts : ∀ x, k.facts x → k'.facts x

namespace View

variable {k k₁ k₂ : View} {fence : Fence} {scope : SignType}

theorem Extends.refl : k.Extends k := ⟨.refl, id, fun _ h => h⟩

theorem Extends.trans (h₁ : k.Extends k₁) (h₂ : k₁.Extends k₂) : k.Extends k₂ :=
  ⟨h₁.keeps.trans h₂.keeps, h₂.clear ∘ h₁.clear, fun x h => h₂.facts x (h₁.facts x h)⟩

theorem Grows.extends (h : k.Grows k₁) : k.Extends k₁ :=
  ⟨h.keeps, fun hc => h.mem.trans hc, h.facts⟩

theorem Loads.extends {S : Setup} {m : ScopeMem} (h : k.Loads S scope m k₁) : k.Extends k₁ :=
  ⟨h.keeps, h.known _, h.facts⟩

theorem extends_hand {hand : Hand} : k.Extends { k with hand } :=
  ⟨⟨rfl, rfl, rfl, fun _ h => h⟩, id, fun _ h => h⟩

theorem Extends.works (h : k.Extends k₁) (hw : k.Works fence scope) : k₁.Works fence scope :=
  ⟨h.keeps.fence.trans hw.1, h.keeps.scope.trans hw.2⟩

theorem Extends.in (h : k.Extends k₁) (hw : k.Works fence scope) (hc : k.Clear) :
    k₁.In fence scope :=
  ⟨h.works hw, (h.clear hc).backed⟩

/-- A backed terminal in a clear memory. -/
theorem in_setRetry {r : TerminalRetry} (hw : k.Works fence scope) (hclear : k.Clear)
    (hfacts : ∀ x ∈ r.facts, k.facts x) : (k.setRetry (some r)).In fence scope := by
  refine ⟨hw, fun s u h => ?_⟩
  obtain ⟨rfl, rfl⟩ : some r = s ∧ none = u := by
    simpa [setRetry, show k.mem = some (none, none) from hclear] using h
  refine ⟨?_, by simp⟩
  rintro _ ⟨⟩
  exact hfacts

end View

variable {pending : PendingRecord} {k₁ : View} {outcome : OutcomeRecord}

section
variable {S : Setup} {p : String} {k : View} {fence : Fence} {scope : SignType}

theorem checkEvm_follows : Conforms S p (checkEvm S) k fun _ => (· = k) := by
  refine .ask fun r _ _ => ?_
  split <;> exact .pure rfl

theorem checkCosmos_follows : Conforms S p (checkCosmos S) k fun _ => (· = k) := by
  refine .ask fun r _ _ => ?_
  split <;> exact .pure rfl

variable {height : Nat} {base : AuditEvent}

theorem observe_follows {h : Hash} {reason : BlockReason} (hscope : k.scope = some scope) :
    Conforms S p (observe scope h reason height) k fun _ => k.Extends := by
  refine .loadMem hscope fun m k₁ hload => ?_
  have hscope₁ := hload.keeps.scope.trans hscope
  split
  · split
    · exact .pure hload.extends
    · exact .setNotes hscope₁ (.pure hload.extends)
  · exact .setNotes hscope₁ (.pure hload.extends)

theorem readBackAutoPending_follows {event : AuditName} :
    Conforms S p (readBackAutoPending S scope pending event) k
      fun _ => k.Grows := by
  refine .read trivial rfl fun r _ hgrows => ?_
  cases r with
  | error => exact .pure hgrows
  | ok =>
    dsimp only
    split
    · exact .pure hgrows
    · refine .read trivial rfl fun r _ hgrows₁ => ?_
      cases r <;> exact .pure (hgrows.trans hgrows₁)

theorem applyAutoPending_follows {result : Option OutcomeRecord} {event : AuditEvent} {nextNonce : Nat}
    (hw : k.Works fence pending.scope) (hchain : pending.chainID = S.chainID)
    (hevent : event.event ≠ .outcomeConsumed) (hnone : result = none → k.facts (.failed pending.txHash))
    (hsome : ∀ o ∈ result, o.state = .blockedUnknown) :
    Conforms S p (applyAutoPending S p fence pending.scope pending result event nextNonce) k
      fun _ => k.Extends := by
  unfold applyAutoPending
  refine bind (Q := fun _ => k.Grows) ?_ fun r k₁ hgrows => ?_
  · refine Conforms.store ⟨hw, hchain, by split <;> exact hevent, hnone, hsome⟩ fun r _ => ?_
    split
    · exact .pure .refl
    · refine readBackAutoPending_follows.bind fun done k₁ hgrows => ?_
      cases done <;> exact .pure hgrows
    · exact .pure .refl
  have hscope := hgrows.scope.trans hw.2
  split
  · exact .pure hgrows.extends
  · exact .pure hgrows.extends
  refine Conforms.setNotes hscope (.setNotes hscope ?_)
  refine bind (Q := fun _ k' => k' = k₁) ?_ fun _ k' hk => .pure (hk ▸ hgrows.extends)
  unfold takeChainNonce
  split
  · exact .do_ hscope fun _ _ => rfl
  · exact .pure rfl

theorem forgetObservation_follows (hscope : k.scope = some scope) :
    Conforms S p (forgetObservation scope) k fun _ => (· = k) :=
  .do_ hscope fun _ _ => rfl

/-- What the automatic disposition of a pending row needs to know. -/
structure View.Holds (k : View) (S : Setup) (fence : Fence) (scope : SignType)
    (pending : PendingRecord) : Prop where
  works : k.Works fence scope
  clear : k.Clear
  scope : pending.scope = scope
  chain : pending.chainID = S.chainID
  row : k.facts (.row fence pending)

section
variable (h : k.Holds S fence scope pending)
include h

theorem View.Holds.extends (he : k.Extends k₁) : k₁.Holds S fence scope pending :=
  ⟨he.works h.works, he.clear h.clear, h.scope, h.chain, he.facts _ h.row⟩

theorem autoDisposeUsed_follows {chainNonce : Nat} :
    Conforms S p (autoDisposeUsed S p fence scope pending height chainNonce base) k
      fun _ => k.Extends := by
  obtain rfl := h.scope
  unfold autoDisposeUsed
  split
  · exact .pure .refl
  refine checkCosmos_follows.bind fun ok k₁ hk => ?_
  subst hk
  split
  · exact .pure .refl
  refine Conforms.ask fun r _ hgrows => ?_
  have hext := hgrows.extends
  split
  · exact .pure hext
  next =>
    split
    next hcode =>
      refine (applyAutoPending_follows (hgrows.works h.works) h.chain (by simp) ?_ (by simp)).mono
        fun _ _ => hext.trans
      exact fun _ => add_facts (by simp [hcode])
    · exact (forgetObservation_follows (hgrows.scope.trans h.works.2)).bind
        fun _ k' hk => .pure (hk ▸ hext)
  · refine (observe_follows (hgrows.scope.trans h.works.2)).bind fun again k₂ h₂ => ?_
    have hext₂ := hext.trans h₂
    split
    · exact .pure hext₂
    · exact (applyAutoPending_follows (hext₂.works h.works) h.chain (by simp) (by simp)
        (by simp [autoBlocked])).mono fun _ _ => hext₂.trans

theorem autoDisposeOpen_follows {chainNonce : Nat} : Conforms S p
      (autoDisposeOpen S p fence scope pending pending.txHash height chainNonce base) k
      fun _ => k.Extends := by
  obtain rfl := h.scope
  refine .ask_ok (fun _ => .pure .refl) fun pendingNonce _ => ?_
  dsimp only
  split
  · exact (forgetObservation_follows h.works.2).bind fun _ k' hk => .pure (hk ▸ .refl)
  refine .do_bind ⟨_, pending, h.works, rfl, h.row, rfl, h.clear⟩ fun sendErr _ => ?_
  have hext : k.Extends { k with hand := k.hand.send pending.txHash sendErr } := extends_hand
  have hworks := hext.works h.works
  refine .do_bind trivial fun done _ => ?_
  -- the two conclusions that block the operation name events of their own
  have hconclude : ∀ reason event, event ≠ AuditName.outcomeConsumed →
      Conforms S p (do
        if !(← observe pending.scope pending.txHash reason height) then return (false, true)
        let moved ← applyAutoPending S p fence pending.scope pending (some (autoBlocked reason))
          { base with event } chainNonce
        return (moved, true)) { k with hand := k.hand.send pending.txHash sendErr }
        fun _ => k.Extends := by
    intro _ _ hevent
    refine (observe_follows hworks.2).bind fun again k₂ h₂ => ?_
    have hext₂ := hext.trans h₂
    split
    · exact .pure hext₂
    · exact (applyAutoPending_follows (hext₂.works h.works) h.chain hevent (by simp)
        (by simp [autoBlocked])).bind fun _ k' h' => .pure (hext₂.trans h')
  split
  · exact (forgetObservation_follows hworks.2).bind fun _ k' hk => .pure (hk ▸ hext)
  rename_i reason event hsome
  refine hconclude reason event ?_
  rintro rfl
  split at hsome
  · simp at hsome
  · split at hsome <;> simp at hsome

theorem autoDisposePending_follows :
    Conforms S p (autoDisposePending S p fence scope pending pending.txHash) k
      fun _ => k.Extends := by
  unfold autoDisposePending
  split
  · exact .pure .refl
  refine checkEvm_follows.bind fun ok k₁ hk => ?_
  subst hk
  split
  · exact .pure .refl
  refine Conforms.ask_ok (fun _ => .pure .refl) fun height _ => ?_
  refine .ask_ok (fun _ => .pure .refl) fun chainNonce _ => ?_
  dsimp only
  split
  · exact (autoDisposeUsed_follows h).bind fun _ k' h' => .pure h'
  · exact autoDisposeOpen_follows h

/-! ## Blocked outcomes -/

end

theorem applyAutoOutcome_follows {to_ : Option OutcomeRecord} {event : AuditEvent} (hw : k.Works fence outcome.scope)
    (hchain : outcome.chainID = S.chainID) (hevent : event.event ≠ .outcomeConsumed)
    (hnone : to_ = none → k.facts (.failed outcome.txHash) ∨ k.Superseded S outcome.txHash)
    (hsome : ∀ o ∈ to_, o.state = .succeeded ∧ o.resultTxHash = outcome.txHash ∧ k.facts (.succeeded outcome.txHash)) :
    Conforms S p (applyAutoOutcome S fence outcome to_ event) k
      fun _ => k.Grows := by
  unfold applyAutoOutcome
  refine bind (Q := fun _ => k.Grows) ?_ fun r k₁ hgrows => ?_
  · refine Conforms.store ⟨hw, hchain, by split <;> exact hevent, rfl, hnone, hsome⟩ fun r _ => ?_
    split
    · exact .pure .refl
    · refine .read trivial rfl fun r _ hgrows => ?_
      split <;> exact .pure hgrows
    · exact .pure .refl
  split
  · exact .pure hgrows
  · exact .pure hgrows
  · exact .pure hgrows
  · exact .do_bind trivial fun _ _ => .pure hgrows

theorem receiptAtOrBelow_follows {h : Hash} : Conforms S p (receiptAtOrBelow h height) k fun r k' =>
      k.Grows k' ∧ ∀ receipt, r = some receipt →
        k'.facts (if receipt.status = receiptStatusSuccessful then .succeeded h else .failed h) := by
  refine .ask fun r _ hgrows => ?_
  split
  next receipt _ =>
    have hfact : (learnQuery k (.receipt h) (.ok (some receipt))).facts
        (if receipt.status = receiptStatusSuccessful then .succeeded h else .failed h) :=
      add_facts (by simp)
    split
    · refine .pure ⟨hgrows, ?_⟩
      intro _ hr
      split at hr <;> cases hr
      exact hfact
    · exact .pure ⟨hgrows, by simp⟩
  · exact .pure ⟨hgrows, by simp⟩

/-- What settling a blocked outcome needs to know. -/
structure View.Settles (k : View) (S : Setup) (fence : Fence) (outcome : OutcomeRecord) : Prop where
  works : k.Works fence outcome.scope
  chain : outcome.chainID = S.chainID
  signed : S.Signed outcome.txHash outcome.sender outcome.nonce

section
variable (h : k.Settles S fence outcome)
include h

theorem View.Settles.grows (hg : k.Grows k₁) : k₁.Settles S fence outcome :=
  ⟨hg.works h.works, h.chain, h.signed⟩

theorem settleByReceipts_follows (rows : List SignedTxEvidence)
    (hrows : ∀ row ∈ rows, row.sender = outcome.sender ∧ row.nonce = outcome.nonce) :
    Conforms S p (settleByReceipts S fence outcome height base rows) k fun r k' =>
      k.Grows k' ∧ ∀ others, r = .inr others →
        ∀ row ∈ others, S.Rival outcome.txHash row.txHash := by
  induction rows generalizing k with
  | nil =>
    refine .pure ⟨.refl, ?_⟩
    rintro _ ⟨⟩
    simp
  | cons row _ ih =>
    have hrest := fun row hr => hrows row (.tail _ hr)
    unfold settleByReceipts
    split
    · exact ih h hrest
    rename_i hne
    split
    · exact ih h hrest
    rename_i hv
    -- the row passed V(e), so its transaction has the outcome's sender and nonce
    obtain ⟨hsender, hnonce⟩ := hrows row (List.mem_cons_self ..)
    obtain ⟨-, hsigned⟩ := S.signed_of_verify hv
    have hrival : S.Rival outcome.txHash row.txHash :=
      ⟨hne, hsigned.1.trans (by rw [h.signed.1]; exact congrArg some hsender),
        hsigned.2.trans (hnonce.trans h.signed.2.symm)⟩
    refine receiptAtOrBelow_follows.bind fun r k₁ h₁ => ?_
    obtain ⟨hgrows, hfact⟩ := h₁
    split
    next receipt =>
      have hused : k₁.Superseded S outcome.txHash := by
        refine ⟨row.txHash, hrival, ?_⟩
        have := hfact receipt rfl
        split at this
        · exact .inl this
        · exact .inr (.inl this)
      refine (applyAutoOutcome_follows (h.grows hgrows).works h.chain (by simp [supersededBy])
        (fun _ => .inr hused) (by simp)).bind fun settled k₂ hg => ?_
      exact .pure ⟨hgrows.trans hg, by simp⟩
    · refine (ih (h.grows hgrows) hrest).bind fun r k₂ h₂ => ?_
      obtain ⟨hg, hothers⟩ := h₂
      split
      · exact .pure ⟨hgrows.trans hg, by simp⟩
      rename_i others
      refine .pure ⟨hgrows.trans hg, ?_⟩
      rintro _ ⟨⟩ row' hr
      obtain rfl | hr := List.mem_cons.mp hr
      · exact hrival
      · exact hothers others rfl row' hr

theorem settleByIndex_follows (rows : List SignedTxEvidence)
    (hrows : ∀ row ∈ rows, S.Rival outcome.txHash row.txHash) :
    Conforms S p (settleByIndex S fence outcome height base rows) k
      fun _ => k.Grows := by
  induction rows generalizing k with
  | nil => exact .pure .refl
  | cons row _ ih =>
    refine .ask fun r _ hgrows => ?_
    split
    · exact .pure hgrows
    · refine (applyAutoOutcome_follows (h.grows hgrows).works h.chain (by simp [supersededBy])
        (fun _ => .inr ⟨row.txHash, hrows row (List.mem_cons_self ..), .inr (.inr ?_)⟩) (by simp)).mono
        fun _ _ => hgrows.trans
      exact add_facts (by simp)
    · exact (ih (h.grows hgrows) fun row hr => hrows row (.tail _ hr)).mono
        fun _ _ => hgrows.trans

theorem settleFromCosmos_follows {others : List SignedTxEvidence}
    (hothers : ∀ row ∈ others, S.Rival outcome.txHash row.txHash) :
    Conforms S p (settleFromCosmos S fence outcome height base others) k
      fun _ => k.Grows := by
  unfold settleFromCosmos
  split
  · exact .pure .refl
  refine checkCosmos_follows.bind fun ok k₁ hk => ?_
  subst hk
  split
  · exact .pure .refl
  refine Conforms.ask fun r _ hgrows => ?_
  have hindex : Conforms S p (settleByIndex S fence outcome height base others)
      (learnQuery k₁ (.searchEthereumTx outcome.txHash height) r) fun _ => k₁.Grows :=
    (settleByIndex_follows (h.grows hgrows) others hothers).mono fun _ _ => hgrows.trans
  split
  · exact .pure hgrows
  next =>
    split
    next hcode =>
      refine (applyAutoOutcome_follows (h.grows hgrows).works h.chain (by simp) (fun _ => .inl ?_)
        (by simp)).mono fun _ _ => hgrows.trans
      exact add_facts (by simp [hcode])
    · exact hindex
  · exact hindex

theorem settleFromOthers_follows : Conforms S p (settleFromOthers S fence outcome height base) k
      fun _ => k.Grows := by
  refine .store_ok trivial (fun _ => .pure .refl) fun rows hr => ?_
  refine (settleByReceipts_follows h rows hr).bind fun r k₁ h₁ => ?_
  obtain ⟨hgrows, hothers⟩ := h₁
  split
  · exact .pure hgrows
  · exact (settleFromCosmos_follows (h.grows hgrows) (hothers _ rfl)).mono fun _ _ => hgrows.trans

theorem autoSettleOutcome_follows :
    Conforms S p (autoSettleOutcome S fence outcome) k fun _ => k.Grows := by
  unfold autoSettleOutcome
  split
  · exact .pure .refl
  refine .do_bind trivial fun due _ => ?_
  split
  · exact .pure .refl
  refine checkEvm_follows.bind fun ok k₁ hk => ?_
  subst hk
  split
  · exact .pure .refl
  refine Conforms.ask_ok (fun _ => .pure .refl) fun height _ => ?_
  refine receiptAtOrBelow_follows.bind fun r k₂ h₂ => ?_
  obtain ⟨hgrows, hfact⟩ := h₂
  have hset := h.grows hgrows
  split
  next receipt =>
    have hended := hfact receipt rfl
    split
    next hstatus =>
      rw [if_neg hstatus] at hended
      exact (applyAutoOutcome_follows hset.works h.chain (by simp) (fun _ => .inl hended)
        (by simp)).mono fun _ _ => hgrows.trans
    next hstatus =>
      rw [if_pos (not_not.mp hstatus)] at hended
      exact (applyAutoOutcome_follows hset.works h.chain (by simp) (by simp) (by simp [hended])).mono
        fun _ _ => hgrows.trans
  · exact (settleFromOthers_follows hset).mono fun _ _ => hgrows.trans

end

end

/-! ## Resolving -/

section
variable {S : Setup} {p : String} {k : View} {fence : Fence} {scope : SignType} {operation : Hash}

theorem readBackConsumed_follows : Conforms S p (readBackConsumed S outcome) k fun r k' =>
      k.Grows k' ∧ (r = .ok true → k'.facts (.audited 0 outcome.id)) := by
  refine .read trivial rfl fun r _ hgrows => ?_
  cases r with
  | error => exact .pure ⟨hgrows, by simp⟩
  | ok =>
    dsimp only
    split
    · exact .pure ⟨hgrows, by simp⟩
    · refine .do_ trivial fun r _ => ⟨hgrows.trans (learnStore_grows rfl r), ?_⟩
      rintro rfl
      exact add_facts (by simp)

/-- A program that resolves the scope from any knowledge of a session. -/
def Resolves (S : Setup) (p : String) (fence : Fence) (scope : SignType) (prog : Code Decision) :
    Prop :=
  ∀ k : View, k.In fence scope → Conforms S p prog k (k.Ends fence scope)

theorem Resolves.follows {prog : Code Decision} (h : Resolves S p fence scope prog) (hkeeps : k.Keeps k₁)
    (hin : k₁.In fence scope) :
    Conforms S p prog k₁ (k.Ends fence scope) :=
  (h k₁ hin).mono fun _ _ h' => ⟨hkeeps.trans h'.1, h'.2⟩

variable {again : Code Decision} {receipt : Receipt}

section
variable (hagain : Resolves S p fence outcome.scope again) (hw : k.Works fence outcome.scope)
  (hclear : k.Clear) (hchain : outcome.chainID = S.chainID)
include hagain hw hclear hchain

theorem consumeOutcome_follows (hstate : outcome.state = .succeeded)
    (hfacts : ∀ x ∈ outcome.facts, k.facts x) :
    Conforms S p (Client.consumeOutcome S again fence outcome.scope outcome) k
      (k.Ends fence outcome.scope) := by
  have hin : k.In fence outcome.scope := ⟨hw, hclear.backed⟩
  have hout : k.facts (.outcome outcome) := hfacts _ (by simp [OutcomeRecord.facts, hstate])
  have hclaim : k.facts (.claimable outcome.resultTxHash) :=
    hfacts _ (by simp [OutcomeRecord.facts, hstate])
  refine .read ⟨hw, hchain, hout, hstate⟩ rfl fun r _ hgrows => ?_
  split
  · refine .pure ⟨hgrows.keeps, hgrows.in hin, by simp, ?_⟩
    rintro _ ⟨⟩
    exact ⟨hgrows.mem.trans hclear, hgrows.facts _ hclaim, .inl (add_facts (by simp))⟩
  · exact hagain.follows hgrows.keeps (hgrows.in hin)
  · refine readBackConsumed_follows.bind fun r k₁ h₁ => ?_
    obtain ⟨hg, haudited⟩ := h₁
    split
    · refine .pure ⟨hg.keeps, hg.in hin, by simp, ?_⟩
      rintro _ ⟨⟩
      exact ⟨hg.mem.trans hclear, hg.facts _ hclaim,
        .inr (.inr ⟨outcome, hg.facts _ hout, hstate, rfl, haudited rfl⟩)⟩
    · -- the unknown consume is remembered
      have hfacts₁ : ∀ x ∈ outcome.facts, k₁.facts x := fun x hx => hg.facts x (hfacts x hx)
      have hclear₁ : k₁.Clear := hg.mem.trans hclear
      refine .do_bind ⟨hg.scope.trans hw.2, ?_⟩ fun _ _ => .pure ?_
      · rintro _ ⟨⟩
        exact ⟨hclear₁, hstate, hfacts₁⟩
      · refine ⟨hg.keeps.trans ⟨rfl, rfl, rfl, fun _ h => h⟩,
          .error (show (k₁.setUnknown (some outcome)).In _ _ from ⟨hg.works hw, fun s u h => ?_⟩)⟩
        obtain ⟨rfl, rfl⟩ : none = s ∧ some outcome = u := by
          simpa [setUnknown, show k₁.mem = some (none, none) from hclear₁] using h
        refine ⟨by simp, ?_⟩
        rintro _ ⟨⟩
        exact hfacts₁
  · exact .pure ⟨hgrows.keeps, .error (hgrows.in hin)⟩

theorem resolveOutcome_follows (hfacts : ∀ x ∈ outcome.facts, k.facts x) : Conforms S p
      (Client.resolveOutcome S again fence outcome.scope operation outcome) k
      (k.Ends fence outcome.scope) := by
  have hin : k.In fence outcome.scope := ⟨hw, hclear.backed⟩
  refine loadEvidence_follows.bind fun r k₁ h₁ => ?_
  obtain ⟨rfl, hsigned⟩ := h₁
  cases r with
  | error => exact .pure ⟨.refl, .error hin⟩
  | ok h =>
    dsimp only
    split
    next hstate => exact consumeOutcome_follows hagain hw hclear hchain hstate hfacts
    · exact .pure ⟨.refl, .error hin⟩
    refine (autoSettleOutcome_follows ⟨hw, hchain, (hsigned h rfl).2⟩).bind fun settled k₂ hg => ?_
    split
    · exact hagain.follows hg.keeps (hg.in hin)
    · exact .pure ⟨hg.keeps, .error (hg.in hin)⟩

end

theorem resolveEmpty_follows (hw : k.Works fence scope) (hclear : k.Clear) :
    Conforms S p (resolveEmpty S fence scope) k
      (k.Ends fence scope) := by
  refine .loadMem hw.2 fun m k₁ hload => ?_
  have hext := hload.extends
  have hin := hext.in hw hclear
  have hclear₁ := hext.clear hclear
  dsimp only
  split
  · exact .pure ⟨hext.keeps, .none hin hclear₁⟩
  refine .store_ok (by simp [allowedStore])
    (fun _ => .pure ⟨hext.keeps, .error hin⟩) fun _ _ => ?_
  refine (refreshNonceFromChain_follows hin.works.2).bind fun r k₂ hk => ?_
  subst hk
  cases r with
  | some => exact .pure ⟨hext.keeps, .error hin⟩
  | none => exact Conforms.setNotes hin.works.2 (.pure ⟨hext.keeps, .none hin hclear₁⟩)

theorem resolveUnconfirmed_follows (hagain : Resolves S p fence scope again)
    (h : k.Holds S fence scope pending) :
    Conforms S p
      (resolveUnconfirmed S p again fence scope pending pending.txHash) k
      (k.Ends fence scope) := by
  refine (autoDisposePending_follows h).bind fun r k₁ hext => ?_
  obtain ⟨_, _⟩ := r
  have hin := hext.in h.works h.clear
  have h₁ := h.extends hext
  dsimp only
  split
  · exact hagain.follows hext.keeps hin
  refine bind (Q := fun _ => k₁.Extends) ?_ fun _ k' hext' => .pure
    ⟨hext.keeps.trans hext'.keeps, .error (hext'.in h₁.works h₁.clear)⟩
  unfold rebroadcastPendingEvmTx
  split
  · exact .pure .refl
  refine .do_bind trivial fun done _ => ?_
  split
  · exact .pure .refl
  exact .do_bind ⟨scope, pending, h₁.works, h₁.scope, h₁.row, rfl, h₁.clear⟩ fun _ _ =>
    .pure extends_hand

section
variable (hfact : k.facts (if receipt.status = receiptStatusSuccessful then .succeeded pending.txHash
  else .failed pending.txHash))
include hfact

/-- What a receipt of a pending row teaches justifies the terminal it gives. -/
theorem View.justifies_receipt {epoch : Nat} :
    k.Justifies epoch pending (receiptTerminal operation pending receipt).kind := by
  unfold receiptTerminal
  split at hfact
  next hstatus =>
    simp only [hstatus, if_true]
    split <;> exact hfact
  next hstatus =>
    simp only [hstatus, if_false]
    exact hfact

/-- A terminal from a receipt may be stashed. -/
theorem View.mayStash_receipt {epoch : Nat} (hclear : k.Clear) (hchain : pending.chainID = S.chainID)
    (hclaim : k.facts (.claimable pending.txHash)) :
    k.MayStash S pending.scope ⟨pending, receiptTerminal operation pending receipt, epoch⟩ := by
  refine ⟨hclear, rfl, hchain, justifies_receipt hfact, ?_⟩
  intro x hx
  unfold TerminalRetry.facts receiptTerminal at hx
  split at hfact
  next hstatus =>
    simp only [hstatus, if_true] at hx
    split at hx
    next hkind => split at hkind <;> cases hkind
    · obtain rfl | rfl : x = _ ∨ x = _ := by simpa using hx
      · exact hfact
      · exact hclaim
    · obtain rfl | rfl : x = _ ∨ x = _ := by simpa using hx
      · exact hfact
      · exact hclaim
    · cases hx
  next hstatus =>
    simp only [hstatus, if_false] at hx
    obtain rfl : x = _ := by simpa using hx
    exact hfact

theorem resolveReceipt_follows (hagain : Resolves S p fence scope again) (h : k.Holds S fence scope pending)
    (hclaim : k.facts (.claimable pending.txHash)) :
    Conforms S p (resolveReceipt S again fence scope operation pending receipt) k
      (k.Ends fence scope) := by
  obtain rfl := h.scope
  have hin : k.In fence pending.scope := ⟨h.works, h.clear.backed⟩
  have hallowed : allowedStore S p k
      (.resolvePending fence pending (receiptTerminal operation pending receipt)) :=
    ⟨h.works, h.chain, justifies_receipt hfact⟩
  refine (applyTerminal_follows hallowed).bind fun r k₁ h₁ => ?_
  obtain ⟨hgrows, htook⟩ := h₁
  have hclear₁ : k₁.Clear := hgrows.mem.trans h.clear
  split
  · split
    next hkind =>
      refine .pure ⟨hgrows.keeps.of_forget, hgrows.in hin.forget, by simp, ?_⟩
      rintro _ ⟨⟩
      exact ⟨hclear₁, (htook rfl hkind).canHand (hgrows.facts _ ⟨hclaim, by simp⟩)⟩
    · exact .pure ⟨hgrows.keeps.of_forget, .none (hgrows.in hin.forget) hclear₁⟩
  · exact hagain.follows hgrows.keeps.of_forget (hgrows.in hin.forget)
  · have hstash : k₁.MayStash S pending.scope
        ⟨pending, receiptTerminal operation pending receipt, fence.epoch⟩ :=
      mayStash_receipt (hgrows.facts _ ⟨hfact, by split <;> simp⟩) hclear₁ h.chain (hgrows.facts _ ⟨hclaim, by simp⟩)
    refine .do_bind ⟨hgrows.scope.trans h.works.2, ?_⟩ fun _ _ => .pure ?_
    · rintro _ ⟨⟩
      exact hstash
    · exact ⟨hgrows.keeps.of_forget.trans keeps_setRetry,
        .error (in_setRetry (hgrows.works h.works) hclear₁ hstash.2.2.2.2)⟩

end

/-- What reading the scope's pending row teaches within a session. -/
theorem learnt_getPending (chainID : String) (r : PendingRecord) (hw : k.Works fence scope) :
    ∀ x ∈ [Fact.claimable r.txHash, .row fence r],
      (learnStore k (.getPending chainID scope) (.ok (some r))).facts x := by
  intro _ hx
  refine .inr ?_
  simpa [underLock, hw.1, hw.2] using hx

theorem resolvePending_follows (hagain : Resolves S p fence scope again) (hw : k.Works fence scope)
    (hclear : k.Clear) :
    Conforms S p (Client.resolvePending S p again fence scope operation) k
      (k.Ends fence scope) := by
  have hin : k.In fence scope := ⟨hw, hclear.backed⟩
  refine .read trivial rfl fun r hr hgrows => ?_
  split
  · exact .pure ⟨hgrows.keeps, .error (hgrows.in hin)⟩
  · exact (resolveEmpty_follows hw hclear)
  rename_i pending
  obtain ⟨hchain, hscope⟩ := hr
  have hlearnt := learnt_getPending S.chainID pending hw
  have hholds : (learnStore k (.getPending S.chainID scope) (.ok (some pending))).Holds S fence
      scope pending :=
    ⟨hgrows.works hw, hgrows.mem.trans hclear, hscope, hchain, hlearnt _ (by simp)⟩
  refine .setNotes hholds.works.2 ?_
  refine loadEvidence_follows.bind fun r k₁ h₁ => ?_
  obtain ⟨rfl, hsigned⟩ := h₁
  cases r with
  | error => exact .pure ⟨hgrows.keeps, .error (hgrows.in hin)⟩
  | ok signedTx =>
    obtain ⟨rfl, -⟩ := hsigned signedTx rfl
    refine Conforms.ask fun r _ hg => ?_
    have hkeeps := hgrows.keeps.trans hg.keeps
    split
    · refine (resolveReceipt_follows (add_facts (by simp)) hagain (hholds.extends hg.extends)
        (hg.facts _ (hlearnt _ (by simp)))).mono fun d k' h' => ⟨hkeeps.trans h'.1, h'.2⟩
    · exact (resolveUnconfirmed_follows hagain (hholds.extends hg.extends)).mono
        fun d k' h' => ⟨hkeeps.trans h'.1, h'.2⟩

theorem resolveEvmState_follows (left : Nat) :
    Resolves S p fence scope (resolveEvmState S p fence scope operation left) := by
  induction left with
  | zero => exact fun k hin => .pure ⟨.refl, .error hin⟩
  | succ left ih =>
    intro k hin
    refine (retryEvmMemory_follows hin).bind fun d k₁ h₁ => ?_
    obtain ⟨hkeeps, hdec⟩ := h₁
    cases d with
    | some => exact .pure ⟨hkeeps, hdec⟩
    | none =>
      have hclear := hdec.clear rfl
      have hw := hdec.inside.works
      have hpending : ∀ k₂ : View, k₁.Extends k₂ → Conforms S p
          (Client.resolvePending S p (resolveEvmState S p fence scope operation left) fence scope
            operation) k₂ (k.Ends fence scope) := fun k₂ hext =>
        (resolvePending_follows ih (hext.works hw) (hext.clear hclear)).mono
          fun d k' h' => ⟨(hkeeps.trans hext.keeps).trans h'.1, h'.2⟩
      simp only [Option.isSome_none, Bool.false_eq_true, if_false]
      split
      · exact hpending k₁ .refl
      refine Conforms.read trivial rfl fun r hr hgrows => ?_
      split
      · exact .pure ⟨hkeeps.trans hgrows.keeps, .error (hgrows.in hdec.inside)⟩
      next =>
        obtain ⟨hchain, rfl, -⟩ := hr
        refine (resolveOutcome_follows ih (hgrows.works hw) (hgrows.mem.trans hclear) hchain ?_).mono
          fun d k' h' => ⟨(hkeeps.trans hgrows.keeps).trans h'.1, h'.2⟩
        intro _ hx
        refine .inr ?_
        simpa [underLock, hw.2] using hx
      · exact hpending _ hgrows.extends

/-- The operation was cleared for signing. -/
def View.ClearedFor (k : View) (operation : Hash) : Prop := ∃ e, k.cleared = some (operation, e)

theorem View.ClearedFor.keeps (h : k.ClearedFor operation) (hk : k.Keeps k₁) :
    k₁.ClearedFor operation :=
  h.imp fun _ he => hk.cleared.trans he

/-- What is known when `resolvePendingEvmTx` returns. -/
structure View.Resolved (k : View) (scope : SignType) (operation : Hash) (d : Decision) : Prop where
  scope : k.scope = some scope
  backed : k.Backed
  clear : d = none → k.Clear ∧ k.ClearedFor operation
  hand : ∀ h, d = some { hash := some h } → k.Clear ∧ k.CanHand h

theorem View.Resolved.error {hash : Option Hash} {e : Err} (hscope : k.scope = some scope)
    (hb : k.Backed) : k.Resolved scope operation (some { hash, err := some e }) :=
  ⟨hscope, hb, by simp, by simp⟩

theorem resolvePendingEvmTx_follows (hscope : k.scope = some scope) (hb : k.Backed) :
    Conforms S p (resolvePendingEvmTx S p scope operation) k
      fun d k' => k'.Resolved scope operation d := by
  refine .do_bind trivial fun f hf => ?_
  cases f with
  | none => exact .pure (.error hscope hb)
  | some fence =>
    have hin : ({ k with fence := some fence } : View).In fence scope := ⟨⟨rfl, hscope⟩, hb⟩
    refine (syncEvmScopeEpoch_follows hin).bind fun syncErr k₁ h₁ => ?_
    obtain ⟨hin₁, hsynced⟩ := h₁
    split
    · refine (resolveEvmState_follows _ k₁ hin₁).bind fun d k₂ h₂ => ?_
      obtain ⟨hkeeps, hdec⟩ := h₂
      cases d with
      | some => exact .pure ⟨hdec.inside.works.2, hdec.inside.backed, by simp, hdec.hand⟩
      | none =>
        refine .do_bind ⟨hdec.inside.works.2, hkeeps.synced _ (hsynced rfl)⟩ fun _ _ => .pure ?_
        exact ⟨hdec.inside.works.2, hdec.inside.backed, fun _ => ⟨hdec.clear rfl, _, rfl⟩, by simp⟩
    · refine (resolveEvmState_follows _ k₁ hin₁).bind fun d k₂ h₂ => ?_
      obtain ⟨-, hdec⟩ := h₂
      cases d with
      | some => exact .pure ⟨hdec.inside.works.2, hdec.inside.backed, by simp, hdec.hand⟩
      | none => exact .pure (.error hdec.inside.works.2 hdec.inside.backed)
    · exact .pure (.error hin₁.works.2 hin₁.backed)

end

end Signer

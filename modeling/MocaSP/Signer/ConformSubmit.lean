-- SUMMARY: Signing, background work and the lease loop follow the discipline.
import MocaSP.Signer.ConformResolve

/-!
# Signing follows the discipline
-/

namespace Signer

open Discipline Client TerminalRetry
open View hiding facts

section
variable {S : Setup} {p : String} {k : View} {fence : Fence} {scope : SignType} {operation : Hash}

/-- What is known once the transaction `h` is recorded as `pending`. -/
structure View.Recorded (k : View) (S : Setup) (fence : Fence) (scope : SignType)
    (operation h : Hash) (pending : PendingRecord) : Prop extends k.Holds S fence scope pending where
  txHash : pending.txHash = h
  claim : k.facts (.claimable pending.txHash)
  cleared : k.ClearedFor operation

variable {h : Hash} {pending : PendingRecord}

theorem View.Recorded.extends {k₁ : View} (hr : k.Recorded S fence scope operation h pending)
    (he : k.Extends k₁) : k₁.Recorded S fence scope operation h pending :=
  ⟨hr.toHolds.extends he, hr.txHash, he.facts _ hr.claim, hr.cleared.keeps he.keeps⟩

theorem recordPendingEvmTx_follows {raw : Bytes} (hw : k.Works fence scope) (hclear : k.Clear)
    (hcleared : k.ClearedFor operation) (hsigned : h ≠ 0 ∧ S.carries h operation) :
    Conforms S p (recordPendingEvmTx S fence scope operation h raw) k fun r k' =>
      k'.Works fence scope ∧ k'.Clear ∧ k'.ClearedFor operation ∧ ∀ pending, r = .ok pending →
        k'.Recorded S fence scope operation h pending ∧ k'.hand = .unsent fence.epoch pending := by
  have herr : ∀ {k' : View} {e : Err}, k.Extends k' →
      Conforms S p (pure (.error e) : Code (Except Err PendingRecord)) k' fun r k' =>
        k'.Works fence scope ∧ k'.Clear ∧ k'.ClearedFor operation ∧ ∀ pending, r = .ok pending →
          k'.Recorded S fence scope operation h pending ∧ k'.hand = .unsent fence.epoch pending :=
    fun hext => .pure ⟨hext.works hw, hext.clear hclear, hcleared.keeps hext.keeps, by simp⟩
  unfold recordPendingEvmTx
  dsimp only
  split
  · exact herr .refl
  · exact herr .refl
  split
  · exact herr .refl
  refine .ask_ok (fun _ => herr .refl) fun block _ => ?_
  refine .store ⟨hw, hcleared, hclear, rfl, hsigned.1, hsigned.2, rfl, rfl, rfl,
    rfl, rfl, rfl⟩ fun r hr => ?_
  split
  next =>
    obtain ⟨hhash, hscope, hchain⟩ := hr
    dsimp only at hhash hscope hchain
    refine .setNotes hw.2 (.pure ⟨hw, hclear, hcleared, ?_⟩)
    rintro _ ⟨⟩
    exact ⟨⟨⟨hw, hclear, hscope, hchain, add_facts (by simp)⟩, hhash,
      add_facts (by simp), hcleared⟩, rfl⟩
  · -- the commit is unknown: the scope's row tells
    refine .read trivial rfl fun r hr hgrows => ?_
    have hext := extends_hand.trans hgrows.extends
    split
    next current =>
      split
      next hsame =>
        obtain ⟨hchain, hscope⟩ := hr
        refine .setNotes hw.2 (.pure ⟨hw, hclear, hcleared, ?_⟩)
        rintro _ ⟨⟩
        have hw₁ : ({ k with hand := .unsure fence.epoch h } : View).Works fence scope := hw
        have hlearnt := learnt_getPending S.chainID current hw₁
        exact ⟨⟨⟨hw, hclear, hscope, hchain, hlearnt _ (by simp)⟩, hsame, hlearnt _ (by simp),
          hcleared⟩, (if_pos hw.2).trans (if_pos hsame)⟩
      · exact herr hext
    · exact herr hext
  · refine herr ?_
    cases ‹StoreErr› <;> exact extends_hand

theorem finishPendingEvmTx_follows {terminal : PendingTerminal} (hw : k.Works fence pending.scope)
    (hclear : k.Clear) (hchain : pending.chainID = S.chainID)
    (hj : k.Justifies fence.epoch pending terminal.kind)
    (hfacts : ∀ x ∈ (mk pending terminal fence.epoch).facts, k.facts x) :
    Conforms S p (finishPendingEvmTx S fence pending terminal) k fun r k' =>
      k.Keeps k' ∧ k'.In fence pending.scope ∧ (r = none → (k.forget pending.txHash).Grows k' ∧
        (terminal.kind = .successConsume → k'.Took pending.txHash)) := by
  have hallowed : allowedStore S p k (.resolvePending fence pending terminal) := ⟨hw, hchain, hj⟩
  refine (applyTerminal_follows hallowed).bind fun r k₁ h₁ => ?_
  obtain ⟨hgrows, htook⟩ := h₁
  have hclear₁ : k₁.Clear := hgrows.mem.trans hclear
  cases r with
  | none =>
    exact .pure ⟨hgrows.keeps.of_forget, ⟨hgrows.works hw, hclear₁.backed⟩,
      fun _ => ⟨hgrows, htook rfl⟩⟩
  | some =>
    have hfacts₁ : ∀ x ∈ (mk pending terminal fence.epoch).facts, k₁.facts x :=
      fun x hx => hgrows.facts x ⟨hfacts x hx, ne_row_of_mem hx⟩
    refine .do_bind ⟨hgrows.scope.trans hw.2, ?_⟩ fun _ _ => .pure
      ⟨hgrows.keeps.of_forget.trans keeps_setRetry,
        in_setRetry (hgrows.works hw) hclear₁ hfacts₁, by simp⟩
    rintro _ ⟨⟩
    exact ⟨hclear₁, rfl, hchain, hgrows.justifies hj.forget, hfacts₁⟩

/-- What is known when a signing method has its answer. -/
structure View.Answered (k : View) (scope : SignType) (operation : Hash) (a : Answer) : Prop where
  scope : k.scope = some scope
  backed : k.Backed
  cleared : k.ClearedFor operation
  hand : ∀ h, a = { hash := some h } → k.Clear ∧ k.CanHand h
  retry : ∀ e, a = { err := some (.nonceRejected e) } → k.Clear

theorem confirm_follows (hr : k.Recorded S fence scope operation h pending) :
    Conforms S p (confirm S fence pending h) k fun a k' => k'.Answered scope operation a := by
  obtain rfl := hr.txHash
  obtain rfl := hr.scope
  refine .ask fun r _ hgrows => ?_
  have hr₁ := hr.extends hgrows.extends
  cases r with
  | error => exact .pure ⟨hr₁.works.2, hr₁.clear.backed, hr₁.cleared, by simp, by simp⟩
  | ok receipt =>
    have hok : (learnQuery k (.waitReceipt pending.txHash) (.ok receipt)).facts
        (.succeeded pending.txHash) := add_facts (by simp)
    refine Follows.bind (finishPendingEvmTx_follows hr₁.works hr₁.clear hr.chain ?_ ?_) fun r k₁ h₁ => ?_
    · exact hok
    · intro x hx
      obtain rfl | rfl : x = _ ∨ x = _ := by simpa [facts] using hx
      · exact hok
      · exact hr₁.claim
    obtain ⟨hkeeps, hin, hnone⟩ := h₁
    have hcleared := hr₁.cleared.keeps hkeeps
    cases r with
    | some => exact .pure ⟨hin.works.2, hin.backed, hcleared, by simp, by simp⟩
    | none =>
      obtain ⟨hg, htook⟩ := hnone rfl
      refine .pure ⟨hin.works.2, hin.backed, hcleared, ?_, by simp⟩
      rintro _ ⟨⟩
      exact ⟨hg.mem.trans hr₁.clear, (htook rfl).canHand (hg.facts _ ⟨hr₁.claim, by simp⟩)⟩

theorem refuse_follows {kind : TerminalKind} {sendErr : Option SendErr} {recorded : Err}
    (hr : k.Recorded S fence scope operation h pending) (hkind : kind.notAdmitted)
    (hhand : k.hand = .refused fence.epoch pending) :
    Conforms S p (refuse S fence pending kind sendErr recorded) k
      fun a k' => k'.Answered scope operation a := by
  obtain rfl := hr.scope
  have hj : k.Justifies fence.epoch pending kind := by
    cases kind with
    | failed | successConsume | successKeep => cases hkind
    | _ => exact .inl hhand
  have hfacts : (mk pending { kind } fence.epoch).facts = [] := by
    cases kind with
    | failed | successConsume | successKeep => cases hkind
    | _ => rfl
  refine (finishPendingEvmTx_follows hr.works hr.clear hr.chain hj (by simp [hfacts])).bind
    fun r k₁ h₁ => ?_
  obtain ⟨hkeeps, hin, hnone⟩ := h₁
  have hcleared := hr.cleared.keeps hkeeps
  cases r with
  | some => exact .pure ⟨hin.works.2, hin.backed, hcleared, by simp, by simp⟩
  | none =>
    exact .pure ⟨hin.works.2, hin.backed, hcleared, by simp,
      fun _ _ => (hnone rfl).1.mem.trans hr.clear⟩

theorem resend_follows (h : k.Holds S fence scope pending) (attempts : Nat) :
    Conforms S p (resend fence pending.txHash attempts) k fun _ => k.Extends := by
  induction attempts generalizing k with
  | zero => exact .pure .refl
  | succ _ ih =>
    refine .do_bind trivial fun done _ => ?_
    split
    · exact .pure .refl
    refine .do_bind ⟨scope, pending, h.works, h.scope, h.row, rfl, h.clear⟩ fun err _ => ?_
    have hext : k.Extends { k with hand := k.hand.send pending.txHash err } := extends_hand
    refine .do_bind trivial fun done _ => ?_
    split
    · exact .pure hext
    · exact (ih (h.extends hext)).mono fun _ _ => hext.trans

theorem sendRecorded_follows (hr : k.Recorded S fence scope operation h pending)
    (hhand : k.hand = .unsent fence.epoch pending) :
    Conforms S p (sendRecorded S fence pending h) k fun a k' => k'.Answered scope operation a := by
  obtain rfl := hr.txHash
  refine .do_bind ⟨scope, pending, hr.works, hr.scope, hr.row, rfl, hr.clear⟩ fun err _ => ?_
  have hext : k.Extends { k with hand := k.hand.send pending.txHash err } := extends_hand
  have hr₁ := hr.extends hext
  refine .do_bind trivial fun done _ => ?_
  -- a refusal the code acts on is a refusal whatever the context says
  have hrefused : (classifyEvmSendError done err).refused →
      k.hand.send pending.txHash err = .refused fence.epoch pending := by
    intro href
    cases err with
    | none => simp [classifyEvmSendError, SendOutcome.refused] at href
    | some =>
      cases done with
      | false => simp [hhand, Hand.send, href]
      | true => simp [classifyEvmSendError, SendOutcome.refused] at href
  split
  next hclass =>
    refine refuse_follows hr₁ ?_ (hrefused (by rw [hclass]; rfl))
    split <;> rfl
  next hclass => exact refuse_follows hr₁ rfl (hrefused (by rw [hclass]; rfl))
  · refine Conforms.store trivial fun _ _ => ?_
    exact (resend_follows hr₁.toHolds _).bind fun _ k' h' => confirm_follows (hr₁.extends h')
  · exact confirm_follows hr₁

theorem submitEvmTx_follows {raw : Bytes} (hscope : k.scope = some scope) (hclear : k.Clear)
    (hcleared : k.ClearedFor operation) (hsigned : h ≠ 0 ∧ S.carries h operation) :
    Conforms S p (submitEvmTx S scope operation h raw) k
      fun a k' => k'.Answered scope operation a := by
  refine .do_bind trivial fun done _ => ?_
  split
  · exact .pure ⟨hscope, hclear.backed, hcleared, by simp, by simp⟩
  refine .do_bind trivial fun f _ => ?_
  cases f with
  | none => exact .pure ⟨hscope, hclear.backed, hcleared, by simp, by simp⟩
  | some fence =>
    have hw : ({ k with fence := some fence } : View).Works fence scope := ⟨rfl, hscope⟩
    refine (recordPendingEvmTx_follows hw hclear hcleared hsigned).bind fun r k₁ h₁ => ?_
    obtain ⟨hw₁, hclear₁, hcleared₁, hok⟩ := h₁
    cases r with
    | error => refine .pure ⟨hw₁.2, hclear₁.backed, hcleared₁, by simp, fun _ _ => hclear₁⟩
    | ok pending => exact sendRecorded_follows (hok pending rfl).1 (hok pending rfl).2

theorem signLoop_follows (attempts : Nat) (hscope : k.scope = some scope) (hclear : k.Clear)
    (hcleared : k.ClearedFor operation) : Conforms S p (signLoop S scope operation attempts) k
      fun a k' => k'.Answered scope operation a := by
  induction attempts generalizing k with
  | zero => exact .pure ⟨hscope, hclear.backed, hcleared, by simp, by simp⟩
  | succ _ ih =>
    refine .loadMem hscope fun m k₁ hload => ?_
    have hscope₁ := hload.keeps.scope.trans hscope
    have hclear₁ := hload.extends.clear hclear
    have hcleared₁ := hcleared.keeps hload.keeps
    refine .do_bind trivial fun r hr => ?_
    cases r with
    | none => exact .pure ⟨hscope₁, hclear₁.backed, hcleared₁, by simp, by simp⟩
    | some signed =>
      obtain ⟨_, _⟩ := signed
      refine (submitEvmTx_follows hscope₁ hclear₁ hcleared₁ hr).bind fun a k₂ ha => ?_
      split
      next e _ _ =>
        have hclear₂ : k₂.Clear := ha.retry e (by cases a; simp_all)
        exact Conforms.ask_ok
          (fun _ => .pure ⟨ha.scope, ha.backed, ha.cleared, by simp, by simp⟩)
          fun _ _ => .setNotes ha.scope (ih ha.scope hclear₂ ha.cleared)
      · exact .pure ⟨ha.scope, ha.backed, ha.cleared, by simp, fun e he => by simp_all⟩
      · exact Conforms.setNotes ha.scope (.pure ha)

end

/-! ## Jobs -/

section
variable {S : Setup} {p : String} {k : View} {fence : Fence} {scope : SignType} {operation : Hash}

/-- A request's answer, then the deferred unlock. -/
theorem respond_follows {a : Answer} (hscope : k.scope = some scope) (hb : k.Backed)
    (hhand : ∀ h, a = { hash := some h } → k.Clear ∧ k.CanHand h) :
    Conforms S p (do
      .do_ (.respond a.hash a.err.isSome)
      .do_ (.unlock scope)) k fun _ _ => True := by
  obtain ⟨hash, err⟩ := a
  have hunlock : ∀ k' : View, k'.scope = some scope → k'.Backed →
      Conforms S p (.do_ (.unlock scope)) k' fun _ _ => True :=
    fun k' hs hb => .do_ ⟨hs, hb⟩ fun _ _ => trivial
  cases hash with
  | none => exact .do_bind trivial fun _ _ => hunlock k hscope hb
  | some h =>
    cases err with
    | some => exact .do_bind trivial fun _ _ => hunlock k hscope hb
    | none =>
      obtain ⟨hclear, hcan⟩ := hhand h rfl
      refine .do_bind ⟨Option.isSome_iff_exists.mpr ⟨_, hscope⟩, hclear, hcan⟩ fun _ _ => ?_
      have hclear' : (k.drop h).Clear := hclear
      exact hunlock (k.drop h) hscope hclear'.backed

theorem View.backed_lock : ({ scope := some scope, fence := k.fence } : View).Backed := by
  intro _ _ h
  cases h

theorem request_follows (hp : p ≠ cliName) (hk : k.scope = none) :
    Conforms S p (request S p scope operation) k fun _ _ => True := by
  refine .do_bind ⟨hk, hp⟩ fun _ _ => ?_
  refine (resolvePendingEvmTx_follows rfl backed_lock).bind fun d k₁ h => ?_
  cases d with
  | some => exact respond_follows h.scope h.backed fun x hx => h.hand x (congrArg some hx)
  | none =>
    obtain ⟨hclear, hcleared⟩ := h.clear rfl
    exact (signLoop_follows _ h.scope hclear hcleared).bind fun a k₂ h₂ =>
      respond_follows h₂.scope h₂.backed h₂.hand

theorem backgroundResolveEvm_follows (hp : p ≠ cliName) (hk : k.scope = none) :
    Conforms S p (backgroundResolveEvm S p scope) k fun _ _ => True := by
  unfold backgroundResolveEvm
  split
  · exact .pure trivial
  refine .do_bind ⟨hk, hp⟩ fun _ _ => ?_
  refine (resolvePendingEvmTx_follows rfl backed_lock).bind fun d k₁ h => ?_
  exact .do_ ⟨h.scope, h.backed⟩ fun _ _ => trivial

/-- Between two sessions only the fence is known. -/
def View.Idle (k : View) (fence : Fence) : Prop := k.scope = none ∧ k.fence = some fence

theorem settleOutcomes_follows (hp : p ≠ cliName) (hk : k.Idle fence) (outcomes : List OutcomeRecord)
    (hchain : ∀ o ∈ outcomes, o.chainID = S.chainID) :
    Conforms S p (settleOutcomes S fence outcomes) k fun _ _ => True := by
  induction outcomes generalizing k with
  | nil => exact .pure trivial
  | cons outcome _ ih =>
    have hrest := fun o ho => hchain o (.tail _ ho)
    unfold settleOutcomes
    split
    · refine .do_bind ⟨hk.1, hp⟩ fun _ _ => ?_
      have hw : ({ scope := some outcome.scope, fence := k.fence } : View).Works fence outcome.scope :=
        ⟨hk.2, rfl⟩
      have hsettle : Conforms S p (settleVerified S fence outcome)
          { scope := some outcome.scope, fence := k.fence } fun _ k' =>
            View.Grows { scope := some outcome.scope, fence := k.fence } k' := by
        refine loadEvidence_follows.bind fun r k₁ h₁ => ?_
        obtain ⟨rfl, hsigned⟩ := h₁
        cases r with
        | error => exact .pure .refl
        | ok h =>
          exact (autoSettleOutcome_follows ⟨hw, hchain outcome (List.mem_cons_self ..),
            (hsigned h rfl).2⟩).bind fun _ k' hg => .pure hg
      refine hsettle.bind fun _ k₁ hg => ?_
      refine .do_bind ⟨hg.scope, hg.backed backed_lock⟩ fun _ _ => ?_
      exact ih (k := { fence := k₁.fence }) ⟨rfl, hg.fence.trans hk.2⟩ hrest
    · exact ih hk hrest

theorem auditLoaded_follows (pendings : List PendingRecord) :
    Conforms S p (auditLoaded S fence pendings) k fun _ => (· = k) := by
  induction pendings with
  | nil => exact .pure rfl
  | cons _ _ ih =>
    refine loadEvidence_follows.bind fun r k₁ h₁ => ?_
    obtain ⟨rfl, -⟩ := h₁
    cases r with
    | error => exact ih
    | ok =>
      exact Conforms.store (by simp [allowedStore, PendingRecord.audit])
        fun _ _ => ih

theorem checkOutcomes_follows (outcomes : List OutcomeRecord) :
    Conforms S p (checkOutcomes S fence outcomes) k fun _ => (· = k) := by
  induction outcomes with
  | nil => exact .pure rfl
  | cons _ _ ih =>
    refine loadEvidence_follows.bind fun r k₁ h₁ => ?_
    obtain ⟨rfl, -⟩ := h₁
    exact ih

theorem syncScopes_follows {pendings : List PendingRecord} (hp : p ≠ cliName) (hk : k.Idle fence)
    (scopes : List SignType) :
    Conforms S p (syncScopes S p fence pendings scopes) k fun _ _ => True := by
  induction scopes generalizing k with
  | nil => exact .pure trivial
  | cons scope _ ih =>
    refine .do_bind ⟨hk.1, hp⟩ fun _ _ => ?_
    have hin : ({ scope := some scope, fence := k.fence } : View).In fence scope :=
      ⟨⟨hk.2, rfl⟩, backed_lock⟩
    refine (syncEvmScopeEpoch_follows hin).bind fun r k₁ h₁ => ?_
    refine .do_bind ⟨h₁.1.works.2, h₁.1.backed⟩ fun _ _ => ?_
    exact ih (k := { fence := k₁.fence }) ⟨rfl, h₁.1.works.1⟩

theorem recoverEvmState_follows (hp : p ≠ cliName) (hk : k.Idle fence) :
    Conforms S p (recoverEvmState S p fence) k fun _ _ => True := by
  refine .store_ok trivial (fun _ => .pure trivial) fun pendings _ => ?_
  refine (auditLoaded_follows pendings).bind fun _ k₁ hk₁ => ?_
  subst hk₁
  refine Conforms.store_ok trivial (fun _ => syncScopes_follows hp hk _) fun outcomes _ => ?_
  refine (checkOutcomes_follows outcomes).bind fun _ k₂ hk₂ => ?_
  subst hk₂
  exact syncScopes_follows hp hk _

theorem lose_follows {epoch : Nat} : Conforms S p (lose S epoch) k fun _ _ => True := by
  refine .do_bind trivial fun lost _ => ?_
  split
  · exact Conforms.store (by simp [allowedStore]) fun _ _ => .pure trivial
  · exact .pure trivial

theorem tick_follows : Conforms S p (tick S p) k fun _ _ => True := by
  refine .do_bind trivial fun r _ => ?_
  obtain ⟨_, now⟩ := r
  dsimp only
  split
  · refine Conforms.store ⟨rfl, rfl⟩ fun r _ => ?_
    split
    · exact .do_ (add_facts (by simp)) fun _ _ => trivial
    · exact .pure trivial
  · refine Conforms.store trivial fun r _ => ?_
    split
    · exact .do_ trivial fun _ _ => trivial
    · exact lose_follows
    refine .do_bind trivial fun r _ => ?_
    obtain ⟨-, _⟩ := r
    split
    · exact lose_follows
    · exact .pure trivial

theorem stop_follows : Conforms S p (stop S p) k fun _ _ => True := by
  refine .do_bind trivial fun r _ => ?_
  obtain ⟨_, -⟩ := r
  dsimp only
  split
  · refine .do_bind trivial fun _ _ => ?_
    exact Conforms.store trivial fun _ _ => .pure trivial
  · exact .pure trivial

end

end Signer

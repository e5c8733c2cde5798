-- SUMMARY: The disposition commands follow the discipline.
import MocaSP.Signer.ConformSubmit

/-!
# The disposition commands follow the discipline

An occupier found by the scan used the nonce of the recorded transaction, and
each branch of an assessment carries its own proof: that the recorded
transaction ended, or which transaction performed the operation. Commands act on
nothing else.
-/

namespace Signer

open Discipline View Follows

/-! ## Occupiers -/

namespace View

variable (S : Setup) (k : View)

variable (evidence : SignedTxEvidence)

/-- The occupier is known to have used the nonce of the recorded transaction. -/
def Occupies (o : Occupier) : Prop :=
  match o.used with
  | .evm h => S.Rival evidence.txHash h ∧ k.facts (if o.succeeded then .succeeded h else .failed h)
  | .cosmos v => k.facts (.cosmos v) ∧ (evidence.sender, evidence.nonce) ∈ v.accSeqs ∧
      (o.succeeded = false → v.code ≠ 0)

/-- What an answered search for an occupier shows. -/
def Found (r : Except AssessErr (Option Occupier)) : Prop :=
  ∀ o, r = .ok (some o) → k.Occupies S evidence o

/-- The same for a search that returns the disposer. -/
def FoundWith (r : Except AssessErr (Option Occupier × Disposer)) : Prop :=
  ∀ o d, r = .ok (some o, d) → k.Occupies S evidence o

end View

namespace Disposer

variable {d : Disposer} {h : Hash} {height block : Nat} {o : Occupier} {sample : Sample}

section
variable {S : Setup} {k : View} {req : DisposeRequest} {evidence : SignedTxEvidence}

theorem checkCosmos_follows :
    Conforms S cliName (checkCosmos req d evidence) k fun _ => (· = k) := by
  unfold checkCosmos
  split
  · exact .pure rfl
  refine .ask_ok (fun _ => .pure rfl) fun network _ => ?_
  dsimp only
  split <;> exact .pure rfl

theorem occupies_cosmosOccupier {view : CosmosTxView} (hfact : k.facts (.cosmos view))
    (ho : cosmosOccupier evidence view height = some o) : k.Occupies S evidence o := by
  unfold cosmosOccupier at ho
  split at ho
  · cases ho
  split at ho
  · cases ho
  rename_i hseq _
  cases ho
  exact ⟨hfact, not_not.mp hseq, by simp⟩

theorem blockTxs_follows : Conforms S cliName (blockTxs d block) k fun _ => (· = k) := by
  unfold blockTxs
  split
  · exact .pure rfl
  refine .ask fun r _ _ => ?_
  split <;> exact .pure rfl

theorem givenCosmos_follows : Conforms S cliName (givenCosmos req evidence height d) k fun r k' =>
      k.Grows k' ∧ k'.FoundWith S evidence r := by
  unfold givenCosmos
  split
  · exact .pure ⟨.refl, nofun⟩
  split
  · exact .pure ⟨.refl, nofun⟩
  refine checkCosmos_follows.bind fun r k₁ hk => ?_
  subst hk
  split
  · exact .pure ⟨.refl, nofun⟩
  refine Conforms.ask fun r _ hgrows => ?_
  split
  · exact .pure ⟨hgrows, nofun⟩
  · exact .pure ⟨hgrows, nofun⟩
  · exact .pure ⟨hgrows, nofun⟩
  refine .pure ⟨hgrows, ?_⟩
  rintro _ _ ho
  simp only [Except.ok.injEq, Prod.mk.injEq] at ho
  exact occupies_cosmosOccupier (add_facts (by simp)) ho.1

theorem searchCosmos_follows : Conforms S cliName (searchCosmos req evidence height d) k fun r k' =>
      k.Grows k' ∧ k'.FoundWith S evidence r := by
  refine checkCosmos_follows.bind fun r k₁ hk => ?_
  subst hk
  split
  · exact .pure ⟨.refl, nofun⟩
  split
  · exact .pure ⟨.refl, nofun⟩
  refine Conforms.ask fun r _ hgrows => ?_
  split
  · exact .pure ⟨hgrows, nofun⟩
  · exact .pure ⟨hgrows, nofun⟩
  refine .pure ⟨hgrows, ?_⟩
  rintro _ _ ho
  simp only [Except.ok.injEq, Prod.mk.injEq] at ho
  obtain ⟨_, hv, hocc⟩ := List.exists_of_findSome?_eq_some ho.1
  exact occupies_cosmosOccupier (add_facts (List.mem_map_of_mem hv)) hocc

variable (hs : S.Signed evidence.txHash evidence.sender evidence.nonce)
include hs

theorem evmOccupier_follows : Conforms S cliName (evmOccupier S evidence h height) k fun r k' =>
      k.Grows k' ∧ k'.Found S evidence r := by
  have hnone : ∀ {k' : View} {r : Except AssessErr (Option Occupier)}, k.Grows k' →
      (∀ o, r ≠ .ok (some o)) →
      Conforms S cliName (pure r : Code _) k' fun r k' => k.Grows k' ∧ k'.Found S evidence r :=
    fun hg hr => .pure ⟨hg, fun o ho => absurd ho (hr o)⟩
  unfold evmOccupier
  split
  · exact hnone .refl (by simp)
  rename_i hne
  refine .ask fun r _ _ => ?_
  split
  · exact hnone .refl (by simp)
  · exact hnone .refl (by simp)
  · exact hnone .refl (by simp)
  split
  · exact hnone .refl (by simp)
  rename_i hfrom
  simp only [fromSender, Bool.not_eq_true', decide_eq_false_iff_not, not_not] at hfrom
  obtain ⟨-, hsender, hnonce, rfl⟩ := hfrom
  have hrival : S.Rival evidence.txHash _ := ⟨hne, hsender.trans hs.1.symm, hnonce.trans hs.2.symm⟩
  refine .ask fun r _ hgrows => ?_
  split
  · exact hnone hgrows (by simp)
  · exact hnone hgrows (by simp)
  · exact hnone hgrows (by simp)
  split
  · exact hnone hgrows (by simp)
  split
  · exact hnone hgrows (by simp)
  refine .pure ⟨hgrows, ?_⟩
  rintro _ ⟨⟩
  refine ⟨hrival, add_facts ?_⟩
  simp

theorem scanTxs_follows (txs : List EvmBlockTx) :
    Conforms S cliName (scanTxs S evidence height txs) k fun r k' => k.Grows k' ∧ k'.Found S evidence r := by
  induction txs generalizing k with
  | nil => exact .pure ⟨.refl, nofun⟩
  | cons _ _ ih =>
    unfold scanTxs
    split
    · exact ih
    refine (evmOccupier_follows hs).bind fun r k₁ h₁ => ?_
    split
    · exact ih.mono fun _ _ h => ⟨h₁.1.trans h.1, h.2⟩
    · exact .pure h₁

theorem scanBlocks_follows (count : Nat) :
    Conforms S cliName (scanBlocks S evidence height d block count) k fun r k' =>
      k.Grows k' ∧ k'.FoundWith S evidence r := by
  induction count generalizing k d block with
  | zero => exact .pure ⟨.refl, nofun⟩
  | succ _ ih =>
    refine blockTxs_follows.bind fun r k₁ hk => ?_
    subst hk
    split
    · exact .pure ⟨.refl, nofun⟩
    · exact ih
    refine (scanTxs_follows hs _).bind fun r k₂ h₂ => ?_
    split
    · exact .pure ⟨h₂.1, nofun⟩
    next o =>
      refine .pure ⟨h₂.1, ?_⟩
      rintro _ _ ⟨⟩
      exact h₂.2 o rfl
    · exact ih.mono fun _ _ h => ⟨h₂.1.trans h.1, h.2⟩

theorem givenEvm_follows : Conforms S cliName (givenEvm S req evidence height) k fun r k' =>
      k.Grows k' ∧ k'.Found S evidence r := by
  unfold givenEvm
  split
  · exact evmOccupier_follows hs
  · exact .pure ⟨.refl, nofun⟩

theorem findOccupier_follows : Conforms S cliName (findOccupier S req evidence height d) k fun r k' =>
      k.Grows k' ∧ k'.FoundWith S evidence r := by
  refine (givenEvm_follows hs).bind fun r k₁ h₁ => ?_
  split
  · exact .pure ⟨h₁.1, nofun⟩
  next o =>
    refine .pure ⟨h₁.1, ?_⟩
    rintro _ _ ⟨⟩
    exact h₁.2 o rfl
  refine givenCosmos_follows.bind fun r k₂ h₂ => ?_
  have hg₂ := h₁.1.trans h₂.1
  split
  · exact .pure ⟨hg₂, nofun⟩
  · exact .pure ⟨hg₂, h₂.2⟩
  split
  · exact .pure ⟨hg₂, nofun⟩
  refine (scanBlocks_follows hs _).bind fun r k₃ h₃ => ?_
  have hg₃ := hg₂.trans h₃.1
  split
  · exact .pure ⟨hg₃, nofun⟩
  · exact .pure ⟨hg₃, h₃.2⟩
  · exact searchCosmos_follows.mono fun _ _ h => ⟨hg₃.trans h.1, h.2⟩

end

/-! ## Assessments -/

/-- What a branch proves, for an occupier of the nonce if there is one. -/
def Proves (S : Setup) (k : View) (target : Target) (occupier : Option Occupier) : Branch → Prop
  | .originalSucceeded => k.facts (.succeeded target.evidence.txHash)
  | .originalFailed => k.facts (.failed target.evidence.txHash)
  | .otherTxFailed | .ownOtherOp | .plainTransfer =>
    k.Ended S target.evidence.txHash target.operation
  | .sameCall => ∃ o h, occupier = some o ∧ o.used = .evm h ∧
      k.Performed S target.evidence.txHash target.operation h
  | _ => True

/-- The branch of a sample is proven. -/
def Proven (S : Setup) (k : View) (target : Target) (sample : Sample) : Prop :=
  ∀ b, sample.branch = some b → Proves S k target sample.occupier b

section
variable {S : Setup} {k k' : View} {req : DisposeRequest} {target : Target}

/-- The recorded transaction is the target's, and its evidence was checked. -/
structure Checked (S : Setup) (target : Target) : Prop where
  signed : S.Signed target.evidence.txHash target.evidence.sender target.evidence.nonce
  tx : target.tx = target.evidence.txHash

theorem classifyForeign_follows (hc : Checked S target) (hused : o.used = .evm h)
    (hrival : S.Rival target.evidence.txHash h) (hs : k.facts (.succeeded h)) (hown : k.facts (.notOwn h)) :
    Conforms S cliName (classifyForeign S target h block) k fun b k' =>
      k' = k ∧ Proves S k target (some o) b := by
  unfold classifyForeign
  dsimp only
  split
  next hsame =>
    refine .pure ⟨rfl, o, h, rfl, hused, .inr ⟨hrival, hs, .inr ?_⟩⟩
    rw [← hc.tx]
    exact hsame
  rename_i hother
  rw [hc.tx] at hother
  have hended : k.Ended S target.evidence.txHash target.operation :=
    .inr (.inr (.inr ⟨h, hrival, hs, .inr ⟨hown, by simpa using hother⟩⟩))
  split
  · exact .pure ⟨rfl, trivial⟩
  split
  · exact .pure ⟨rfl, trivial⟩
  refine .ask fun r _ _ => ?_
  split
  · refine .ask fun r _ _ => ?_
    split
    · exact .pure ⟨rfl, hended⟩
    · exact .pure ⟨rfl, trivial⟩
  · exact .pure ⟨rfl, trivial⟩

theorem classify_follows (hc : Checked S target) (ho : k.Occupies S target.evidence o) :
    Conforms S cliName (classify S target o) k fun r k' =>
      k.Grows k' ∧ ∀ b, r = .ok b → Proves S k' target (some o) b := by
  have hpure : ∀ {k' : View} {b : Branch}, k.Grows k' → Proves S k' target (some o) b →
      Conforms S cliName (pure (.ok b) : Code (Except AssessErr Branch)) k' fun r k' =>
        k.Grows k' ∧ ∀ b, r = .ok b → Proves S k' target (some o) b := by
    intro _ _ hg hb
    refine .pure ⟨hg, ?_⟩
    rintro _ ⟨⟩
    exact hb
  unfold classify
  split
  next hfailed =>
    -- an occupier that failed proves that the recorded transaction ended
    refine hpure .refl ?_
    rw [Bool.not_eq_true'] at hfailed
    unfold View.Occupies at ho
    split at ho
    next h _ => exact .inr (.inl ⟨h, ho.1, by simpa [hfailed] using ho.2⟩)
    next v _ =>
      obtain ⟨hv, hseq, hcode⟩ := ho
      exact .inr (.inr (.inl ⟨v, _, hv, hcode hfailed, hc.signed.1, hc.signed.2.symm ▸ hseq⟩))
  rename_i hok
  split
  · split
    · exact hpure .refl trivial
    · split <;> exact hpure .refl trivial
  rename_i h hused
  simp only [View.Occupies, hused] at ho
  obtain ⟨hrival, hfact⟩ := ho
  rw [if_pos (by simpa using hok)] at hfact
  refine .read trivial rfl fun r hr hgrows => ?_
  split
  · exact .pure ⟨hgrows, by simp⟩
  next own =>
    obtain ⟨-, hhash⟩ := hr
    have hown : (learnStore k (.getSignedTxByHash target.evidence.chainID h) (.ok (some own))).facts
        (.own own) := add_facts (by simp)
    split
    · exact hpure hgrows trivial
    split
    next hop =>
      exact hpure hgrows ⟨o, h, rfl, hused, .inr ⟨hrival, hgrows.facts _ hfact,
        .inl ⟨own, hown, hhash, hop⟩⟩⟩
    next hop =>
      exact hpure hgrows (.inr (.inr (.inr ⟨h, hrival, hgrows.facts _ hfact,
        .inl ⟨own, hown, hhash, hop⟩⟩)))
  · refine (classifyForeign_follows hc hused hrival (hgrows.facts _ hfact)
      (add_facts (by simp))).bind fun b k₁ h₁ => ?_
    obtain ⟨rfl, hb⟩ := h₁
    exact hpure hgrows hb

theorem assessGap_follows (hb : sample.branch = none) :
    Conforms S cliName (assessGap target sample) k fun r k' => k' = k ∧ Proven S k target r.1 := by
  have hgap : ∀ b ∈ [Branch.gapNotProbed, .gapUnproven, .nonceGap],
      Proven S k target { sample with branch := some b } := by
    rintro _ hb _ ⟨⟩
    simp only [List.mem_cons, List.not_mem_nil, or_false] at hb
    obtain rfl | rfl | rfl := hb <;> trivial
  refine .ask fun r _ _ => ?_
  split
  · refine .pure ⟨rfl, ?_⟩
    intro _ h
    rw [hb] at h
    cases h
  split
  · exact .pure ⟨rfl, hgap _ (by simp)⟩
  split
  · exact .pure ⟨rfl, hgap _ (by simp)⟩
  refine .do_bind rfl fun _ _ => ?_
  refine .do_bind trivial fun _ _ => ?_
  split
  · exact .pure ⟨rfl, hgap _ (by simp)⟩
  · exact .pure ⟨rfl, hgap _ (by simp)⟩

theorem assessReceipt_follows : Conforms S cliName (assessReceipt target height) k fun r k' =>
      k.Grows k' ∧ ∀ sample, r = .ok sample → Proven S k' target sample := by
  have hnone : ∀ {k' : View}, k.Grows k' →
      Conforms S cliName (pure (.ok { height }) : Code (Except AssessErr Sample)) k'
        fun r k' => k.Grows k' ∧ ∀ sample, r = .ok sample → Proven S k' target sample := by
    intro _ hg
    refine .pure ⟨hg, ?_⟩
    rintro _ ⟨⟩ _ ⟨⟩
  refine .ask fun r _ hgrows => ?_
  split
  · exact hnone hgrows
  · exact .pure ⟨hgrows, by simp⟩
  · exact hnone hgrows
  split
  · exact hnone hgrows
  split
  · exact hnone hgrows
  refine .pure ⟨hgrows, ?_⟩
  rintro _ ⟨⟩ _ ⟨⟩
  split
  · exact add_facts (by simp [*])
  · exact add_facts (by simp [*])

theorem assessFailed_follows : Conforms S cliName (assessFailed req target sample d) k fun r k' =>
      k.Grows k' ∧ ∀ failed d', r = .ok (some failed, d') → Proven S k' target failed := by
  unfold assessFailed
  split
  · exact .pure ⟨.refl, by simp⟩
  refine checkCosmos_follows.bind fun r k₁ hk => ?_
  subst hk
  split
  · exact .pure ⟨.refl, by simp⟩
  refine Conforms.ask fun r _ hgrows => ?_
  split
  · exact .pure ⟨hgrows, by simp⟩
  · exact .pure ⟨hgrows, by simp⟩
  · split
    next hcode =>
      refine .pure ⟨hgrows, ?_⟩
      rintro _ _ ⟨⟩ _ ⟨⟩
      exact add_facts (by simp [hcode])
    · exact .pure ⟨hgrows, by simp⟩
  · exact .pure ⟨hgrows, by simp⟩

theorem assessUsed_follows (hc : Checked S target) (hb : sample.branch = none) :
    Conforms S cliName (assessUsed S req target sample d) k fun r k' =>
      k.Grows k' ∧ Proven S k' target r.1 := by
  have hopen : ∀ {k' : View} {sample : Sample}, sample.branch = none → Proven S k' target sample := by
    intro _ _ h _ hb
    rw [h] at hb
    cases hb
  refine assessFailed_follows.bind fun r k₁ h₁ => ?_
  split
  · exact .pure ⟨h₁.1, hopen hb⟩
  next failed d' => exact .pure ⟨h₁.1, h₁.2 failed d' rfl⟩
  refine (findOccupier_follows hc.signed).bind fun r k₂ h₂ => ?_
  have hg₂ := h₁.1.trans h₂.1
  split
  · exact .pure ⟨hg₂, hopen hb⟩
  · refine .pure ⟨hg₂, ?_⟩
    rintro _ ⟨⟩
    trivial
  rename_i o d'
  refine (classify_follows hc (h₂.2 o d' rfl)).bind fun r k₃ h₃ => ?_
  have hg₃ := hg₂.trans h₃.1
  split
  · exact .pure ⟨hg₃, hopen hb⟩
  rename_i branch
  refine .pure ⟨hg₃, ?_⟩
  rintro _ ⟨⟩
  exact h₃.2 branch rfl

theorem assess_follows (hc : Checked S target) :
    Conforms S cliName (assess S req target height d) k fun r k' =>
      k.Grows k' ∧ Proven S k' target r.1 := by
  refine assessReceipt_follows.bind fun r k₁ h₁ => ?_
  obtain ⟨hg₁, hsound⟩ := h₁
  split
  · refine .pure ⟨hg₁, ?_⟩
    rintro _ ⟨⟩
  rename_i sample
  have hs := hsound sample rfl
  refine Conforms.ask fun r _ _ => ?_
  split
  · exact .pure ⟨hg₁, hs⟩
  dsimp only
  split
  · exact .pure ⟨hg₁, hs⟩
  rename_i hopen
  have hbranch : sample.branch = none := by simpa using hopen
  split
  · refine .pure ⟨hg₁, ?_⟩
    rintro _ ⟨⟩
    trivial
  split
  · split
    · refine .pure ⟨hg₁, ?_⟩
      rintro _ ⟨⟩
      trivial
    refine bind (assessGap_follows ?_) fun r k₂ h₂ => ?_
    · exact hbranch
    obtain ⟨rfl, hgap⟩ := h₂
    exact .pure ⟨hg₁, hgap⟩
  · refine mono (assessUsed_follows hc ?_) fun _ _ h => ⟨hg₁.trans h.1, h.2⟩
    exact hbranch

end

/-! ## Commands -/

section
variable {S : Setup} {k : View} {req : DisposeRequest}

variable {base : AuditEvent} {event : AuditName} {report : Report} {target : Target}

theorem manualEvent_event {samples : List Sample} :
    (manualEvent samples base event).event = event := by
  unfold manualEvent
  split <;> rfl

theorem reject_follows {code : ExitCode} :
    Conforms S cliName (reject S req report base code) k fun _ => (· = k) := by
  unfold reject
  split
  · exact .pure rfl
  refine .store ?_ fun r _ => ?_
  · simp [allowedStore, manualEvent_event]
  split <;> exact .pure rfl

theorem checkEvidence_follows {ref : EvidenceRef} :
    Conforms S cliName (checkEvidence S req ref base) k fun r k' =>
      k' = k ∧ ∀ e tx, r = .ok (e, tx) → e.txHash = ref.txHash ∧ tx = e.txHash ∧
        S.Signed e.txHash e.sender e.nonce ∧ S.carries ref.txHash ref.operation := by
  refine .store trivial fun r hr => ?_
  split
  · exact .pure ⟨rfl, by simp⟩
  split
  next hv =>
    refine .pure ⟨rfl, ?_⟩
    rintro _ _ ⟨⟩
    obtain ⟨_, ⟨⟩, htx, rfl, -, hsender, hnonce⟩ := verify_ok hv
    exact ⟨rfl, htx, ⟨hsender, hnonce⟩, hr⟩
  split
  · exact .pure ⟨rfl, by simp⟩
  refine .store ?_ fun r _ => ?_
  · simp [allowedStore, manualEvent_event]
  split <;> exact .pure ⟨rfl, by simp⟩

theorem waitHeight_follows {want : Nat} (polls : Nat) :
    Conforms S cliName (waitHeight want polls) k fun _ => (· = k) := by
  induction polls with
  | zero => exact .pure rfl
  | succ _ ih =>
    refine .ask fun r _ _ => ?_
    split
    · exact .pure rfl
    split
    · exact .pure rfl
    refine .do_bind trivial fun done _ => ?_
    split
    · exact .pure rfl
    · exact ih

/-- The second sample of an agreeing pair is proven. -/
theorem assessTwice_follows (hc : Checked S target) :
    Conforms S cliName (assessTwice S req target base) k fun r k' =>
      k.Grows k' ∧ ∀ sample report, r = .ok (sample, report) → Proven S k' target sample := by
  have hstop : ∀ {k' : View} {report : Report} {code : ExitCode}, k.Grows k' →
      Conforms S cliName (do
        let r ← reject S req report base code
        return .error r : Code (Except Report (Sample × Report))) k' fun r k' =>
          k.Grows k' ∧ ∀ sample report, r = .ok (sample, report) → Proven S k' target sample := by
    intro _ _ _ hg
    refine reject_follows.bind fun _ k'' hk => ?_
    subst hk
    exact .pure ⟨hg, by simp⟩
  refine .ask fun r _ _ => ?_
  split
  · split
    · exact hstop .refl
    refine .ask fun r _ _ => ?_
    split
    · exact hstop .refl
    refine (assess_follows hc).bind fun a k₁ h₁ => ?_
    dsimp only
    split
    · exact hstop h₁.1
    refine (waitHeight_follows _).bind fun r k₂ hk => ?_
    subst hk
    split
    · exact hstop h₁.1
    refine (assess_follows hc).bind fun b k₃ h₃ => ?_
    have hg₃ := h₁.1.trans h₃.1
    split
    · exact hstop hg₃
    split
    · exact hstop hg₃
    refine .pure ⟨hg₃, ?_⟩
    rintro _ _ ⟨⟩
    exact h₃.2
  · exact hstop .refl

theorem finishWrite_follows {err : Option StoreErr} :
    Conforms S cliName (finishWrite S req report base event err) k fun _ _ => True := by
  unfold finishWrite
  split
  · exact .pure trivial
  · exact reject_follows.mono fun _ _ _ => trivial
  · exact reject_follows.mono fun _ _ _ => trivial
  · exact .pure trivial

variable {pending : PendingRecord} {result : Option OutcomeRecord}

/-- What a write of a command may do, given what the sample proves. -/
theorem resolveBranch_proves (hs : Proven S k target sample)
    (hhash : target.evidence.txHash = pending.txHash) (hop : target.operation = pending.operation)
    (hb : resolveBranch req pending sample = some (result, event)) : event ≠ .outcomeConsumed ∧
      (result = none → k.Ended S pending.txHash pending.operation) ∧
      ∀ o ∈ result, o.state = .succeeded →
        k.Performed S pending.txHash pending.operation o.resultTxHash := by
  rw [← hhash, ← hop]
  cases hbranch : sample.branch with
  | none => simp [resolveBranch, hbranch] at hb
  | some b =>
    have hp := hs b hbranch
    cases b with simp only [resolveBranch, hbranch, Option.some.injEq, Prod.mk.injEq] at hb
    | originalSucceeded =>
      obtain ⟨rfl, rfl⟩ := hb
      refine ⟨by simp, by simp, ?_⟩
      rintro _ ⟨⟩ -
      exact .inl ⟨hhash.symm, hp⟩
    | originalFailed =>
      obtain ⟨rfl, rfl⟩ := hb
      exact ⟨by simp, fun _ => .inl hp, by simp⟩
    | otherTxFailed | ownOtherOp | plainTransfer =>
      obtain ⟨rfl, rfl⟩ := hb
      exact ⟨by simp, fun _ => hp, by simp⟩
    | sameCall =>
      obtain ⟨rfl, rfl⟩ := hb
      obtain ⟨_, _, ho, hused, hperf⟩ := hp
      refine ⟨by simp, by simp, ?_⟩
      rintro _ ⟨⟩ -
      simpa [keep, occupierHash, ho, hused] using hperf
    | cosmosSameOp =>
      obtain ⟨rfl, rfl⟩ := hb
      exact ⟨by simp, by simp, by simp [keep]⟩
    | undetermined | occupierMissing | nonceGap =>
      split at hb
      · simp only [Option.some.injEq, Prod.mk.injEq] at hb
        obtain ⟨rfl, rfl⟩ := hb
        exact ⟨by simp, by simp, by simp [keep]⟩
      · cases hb
    | _ => cases hb

theorem writeResolve_follows (hevent : event ≠ .outcomeConsumed)
    (hcarries : S.carries pending.txHash pending.operation)
    (hended : result = none → k.Ended S pending.txHash pending.operation)
    (hperf : ∀ o ∈ result, o.state = .succeeded → k.Performed S pending.txHash pending.operation o.resultTxHash) :
    Conforms S cliName (writeResolve S req report base pending result event) k
      fun _ _ => True := by
  unfold writeResolve
  dsimp only
  split
  · exact .pure trivial
  refine .store ⟨rfl, ?_, hcarries, hended, hperf⟩ fun r _ => ?_
  · split <;> simpa [manualEvent_event] using hevent
  split
  · exact finishWrite_follows
  · refine .store trivial fun r _ => ?_
    split
    · split
      · exact finishWrite_follows
      refine .store trivial fun r _ => ?_
      split <;> exact finishWrite_follows
    · exact finishWrite_follows
  · exact finishWrite_follows

theorem resolve_follows : Conforms S cliName (resolve S req) k fun _ _ => True := by
  refine .store trivial fun r _ => ?_
  split
  · exact .pure trivial
  · exact .pure trivial
  split
  · exact .pure trivial
  refine checkEvidence_follows.bind fun r k₁ h₁ => ?_
  obtain ⟨rfl, hev⟩ := h₁
  split
  · exact .pure trivial
  rename_i evidence tx
  obtain ⟨hhash, htx, hsigned, hcarries⟩ := hev evidence tx rfl
  refine bind (assessTwice_follows ⟨hsigned, htx⟩) fun r k₂ h₂ => ?_
  split
  · exact .pure trivial
  rename_i sample report
  have hs := h₂.2 sample report rfl
  split
  · exact reject_follows.mono fun _ _ _ => trivial
  rename_i hb
  obtain ⟨hevent, hended, hperf⟩ := resolveBranch_proves hs hhash rfl hb
  exact writeResolve_follows hevent hcarries hended hperf

variable {outcome : OutcomeRecord} {to_ : Option OutcomeRecord}

/-- What a write of `resolve-outcome` may do, given what the sample proves. -/
theorem outcomeBranch_proves (hs : Proven S k target sample)
    (hhash : target.evidence.txHash = outcome.txHash) (hop : target.operation = outcome.operation)
    (hb : outcomeBranch outcome sample = some to_) :
    (to_ = none → k.Ended S outcome.txHash outcome.operation) ∧
      ∀ o ∈ to_, o.state = .succeeded →
        k.Performed S outcome.txHash outcome.operation o.resultTxHash := by
  rw [← hhash, ← hop]
  cases hbranch : sample.branch with
  | none => simp [outcomeBranch, hbranch] at hb
  | some b =>
    have hp := hs b hbranch
    cases b with simp only [outcomeBranch, hbranch, Option.some.injEq, reduceCtorEq] at hb
    | originalSucceeded =>
      subst hb
      refine ⟨by simp, ?_⟩
      rintro _ ⟨⟩ -
      exact .inl ⟨hhash.symm, hp⟩
    | originalFailed =>
      subst hb
      exact ⟨fun _ => .inl hp, by simp⟩
    | otherTxFailed | ownOtherOp | plainTransfer =>
      subst hb
      exact ⟨fun _ => hp, by simp⟩
    | sameCall =>
      subst hb
      obtain ⟨_, _, ho, hused, hperf⟩ := hp
      refine ⟨by simp, ?_⟩
      rintro _ ⟨⟩ -
      simpa [occupierHash, ho, hused] using hperf
    | cosmosSameOp =>
      subst hb
      exact ⟨by simp, by simp⟩

theorem loadOutcome_follows {states : List OutcomeState} :
    Conforms S cliName (loadOutcome S req states) k fun _ _ => True := by
  refine .store trivial fun r _ => ?_
  split
  · exact .pure trivial
  · exact reject_follows.bind fun _ _ _ => .pure trivial
  split
  · exact .pure trivial
  · exact reject_follows.bind fun _ _ _ => .pure trivial

theorem settle_follows {from_ : List OutcomeState} {audit : AuditEvent}
    (hevent : audit.event ≠ .outcomeConsumed)
    (hproven : audit.event.byDecision = false → S.carries outcome.txHash outcome.operation ∧
      (to_ = none → k.Ended S outcome.txHash outcome.operation) ∧
      ∀ o ∈ to_, o.state = .succeeded → k.Performed S outcome.txHash outcome.operation o.resultTxHash) :
    Conforms S cliName (settle S req report base outcome from_ to_ audit) k
      fun _ _ => True := by
  unfold settle
  split
  · exact .pure trivial
  refine .store ⟨rfl, hevent, hproven⟩ fun r _ => ?_
  split
  · exact finishWrite_follows
  · refine .store trivial fun r _ => ?_
    split <;> exact finishWrite_follows
  · exact finishWrite_follows

theorem resolveOutcome_follows : Conforms S cliName (resolveOutcome S req) k fun _ _ => True := by
  refine loadOutcome_follows.bind fun r k₀ _ => ?_
  split
  · exact .pure trivial
  refine checkEvidence_follows.bind fun r k₁ h₁ => ?_
  obtain ⟨rfl, hev⟩ := h₁
  split
  · exact .pure trivial
  rename_i evidence tx
  obtain ⟨hhash, htx, hsigned, hcarries⟩ := hev evidence tx rfl
  refine bind (assessTwice_follows ⟨hsigned, htx⟩) fun r k₂ h₂ => ?_
  split
  · exact .pure trivial
  rename_i sample report
  have hs := h₂.2 sample report rfl
  split
  · exact reject_follows.mono fun _ _ _ => trivial
  rename_i hb
  refine settle_follows ?_ fun _ => ⟨hcarries, outcomeBranch_proves hs hhash rfl hb⟩
  split <;> simp [manualEvent_event]

theorem settleByDecision_follows {release : Bool} :
    Conforms S cliName (settleByDecision S req release) k fun _ _ => True := by
  refine loadOutcome_follows.bind fun r k₀ _ => ?_
  split
  · exact .pure trivial
  dsimp only
  split
  · refine checkEvidence_follows.bind fun r k₁ _ => ?_
    split
    · exact .pure trivial
    · exact settle_follows (by simp [manualEvent_event]) (by simp [manualEvent_event, AuditName.byDecision])
  · exact Conforms.store trivial fun _ _ =>
      settle_follows (by simp [manualEvent_event]) (by simp [manualEvent_event, AuditName.byDecision])

end

end Disposer

/-! ## Jobs -/

/-- Every job follows the discipline of its process. -/
theorem Job.body_follows (S : Setup) (t : Tid) (j : Job) (hcli : j.isCommand ↔ t.proc = cliName) :
    Conforms S t.proc (j.body S t) j.view fun _ _ => True := by
  have hp : j.isCommand = false → t.proc ≠ cliName := by
    intro hj hproc
    rw [hcli.mpr hproc] at hj
    cases hj
  cases j with
  | request => exact request_follows (hp rfl) rfl
  | backgroundResolve => exact backgroundResolveEvm_follows (hp rfl) rfl
  | backgroundSettle =>
    exact .store_ok trivial (fun _ => .pure trivial) fun outcomes hr =>
      settleOutcomes_follows (hp rfl) ⟨rfl, rfl⟩ outcomes hr
  | recover => exact recoverEvmState_follows (hp rfl) ⟨rfl, rfl⟩
  | tick => exact tick_follows
  | stop => exact stop_follows
  | resolve =>
    rw [hcli.mp rfl]
    exact Disposer.resolve_follows.bind fun _ _ _ => .pure trivial
  | resolveOutcome =>
    rw [hcli.mp rfl]
    exact Disposer.resolveOutcome_follows.bind fun _ _ _ => .pure trivial
  | settleByDecision =>
    rw [hcli.mp rfl]
    exact Disposer.settleByDecision_follows.bind fun _ _ _ => .pure trivial

end Signer

-- SUMMARY: The successor's check of a swap-out.
import MocaSP.Manager.SwapOutPlan

/-!
# Approval of swap-outs

A successor approves a swap-out of a family for its primary SP, and a swap-out of
listed GVGs for a secondary SP of each of them. The swap-outs that are to
resolve the conflict of a family name the exiting SP, which is the primary SP of the GVG
and not one of its secondaries, so they are refused.
-/

namespace Manager.SwapOutPlan
open List Produced Except

inductive ApprovalError where
  | noPermission | validateMsg | consensus

def checkListedGVGs (c : ChainState) (srcSP : Nat) : List Nat → Except ApprovalError Unit
  | [] => .ok ()
  | id :: ids => do
    let g ← orFail (c.queryGlobalVirtualGroup id) .consensus
    failIf (srcSP ∉ g.secondarySPIds) .noPermission
    checkListedGVGs c srcSP ids

/-- The check at the SP with the given id. -/
def checkSwapOutApproval (c : ChainState) (spID : Nat) (p : Proposal) :
    Except ApprovalError Unit := do
  failIf (p.successorSpId ≠ spID) .noPermission
  let srcSP ← orFail (c.querySP p.msg.storageProvider) .consensus
  failIf (srcSP.status ≠ .gracefulExiting ∧ srcSP.status ≠ .forcedExiting) .noPermission
  if p.msg.familyId ≠ 0 then
    let family ← orFail (c.queryVirtualGroupFamily p.msg.familyId) .consensus
    failIf (family.primarySpId ≠ srcSP.id) .noPermission
  else
    failIf (p.msg.gvgIds = []) .validateMsg
    checkListedGVGs c srcSP.id p.msg.gvgIds

/-! ## What is to hold -/

def ChainState.Exiting (c : ChainState) (self : Nat) : Prop :=
  ∃ sp, c.querySP self = some sp ∧ (sp.status = .gracefulExiting ∨ sp.status = .forcedExiting)

def Approved (c : ChainState) (p : Proposal) : Prop :=
  checkSwapOutApproval c p.successorSpId p = .ok ()

/-- Every swap-out is approved, and the conflict of a family is resolved by its swap-outs, as they
are applied on chain. -/
structure Approvable (applySwapOut : List GVG → Proposal → List GVG) (c : ChainState) (me : Nat)
    (healthy : Nat → Bool) : Prop where
  plan : ∀ a : Answers, a.InOrder c me →
    ∀ p ∈ (produceSwapOutPlan c me healthy a).asked, Approved c p
  family : ∀ a : Answers, a.InOrder c me → ∀ f ∈ c.listVirtualGroupFamilies me,
    ∀ p ∈ (generateSwapOutUnits me (c.available me healthy) a f).asked, Approved c p
  resolved : ∀ a : Answers, a.InOrder c me → ∀ f ∈ c.listVirtualGroupFamilies me, ∀ us,
    (generateSwapOutUnits me (c.available me healthy) a f).units = some us →
    (∃ u ∈ us, u.isConflicted) →
    (pickSPByFilter (c.available me healthy)
      (secondaries ((us.map (·.swapOut)).foldl applySwapOut f.gvgs))).isSome

/-- A successor can be picked that is a secondary of none of the GVGs. -/
def Family.Free (available : List Nat) (f : Family) : Prop :=
  (pickSPByFilter available (secondaries f.gvgs)).isSome

/-- Whichever SP is found to be bound least, the first GVG that has it has no successor. -/
def Family.Stuck (available : List Nat) (f : Family) : Prop :=
  ∀ order : List Nat, order.Perm (secondaries f.gvgs).dedup → ∀ least,
    leastBound f order = some least → ∀ g, f.gvgs.find? (least ∈ ·.secondarySPIds) = some g →
    pickSPByFilter available g.secondarySPIds = none

/-! ## The check -/

section

variable {c : ChainState} {self : Nat} {f : Family} {g : GVG}

theorem secondaryIndex_nonneg {sp : Nat} : 0 ≤ secondaryIndex g sp ↔ sp ∈ g.secondarySPIds := by
  unfold secondaryIndex getSecondarySPIndexFromGVG
  split
  next i hi =>
    refine ⟨fun _ => ?_, fun _ => Int.natCast_nonneg i⟩
    rw [← isSome_idxOf?, hi]
    rfl
  next hi =>
    refine ⟨fun h => by omega, fun h => ?_⟩
    rw [← isSome_idxOf?, hi] at h
    cases h

theorem mem_listVirtualGroupFamilies :
    f ∈ c.listVirtualGroupFamilies self ↔ f ∈ c.families ∧ f.primarySpId = self := by
  simp [ChainState.listVirtualGroupFamilies]

theorem ChainState.Exiting.source (hexit : c.Exiting self) :
    ∃ srcSP, c.querySP self = some srcSP ∧ srcSP.id = self ∧
      (¬ srcSP.status = .gracefulExiting → srcSP.status = .forcedExiting) := by
  obtain ⟨srcSP, hquery, hstatus⟩ := hexit
  have hid := List.find?_some hquery
  exact ⟨srcSP, hquery, of_decide_eq_true hid, hstatus.resolve_left⟩

/-- A swap-out of one GVG is approved for its secondaries only. -/
theorem approved_listed_iff (hwf : c.WellFormed) (hexit : c.Exiting self) (hf : f ∈ c.families)
    (hg : g ∈ f.gvgs) (sp : Nat) :
    Approved c ⟨⟨self, 0, [g.id]⟩, sp⟩ ↔ self ∈ g.secondarySPIds := by
  obtain ⟨_, hquery, hid, hexiting⟩ := hexit.source
  have hfound : c.queryGlobalVirtualGroup g.id = some g :=
    Table.find?_of_mem hwf.gvgs (mem_flatMap.mpr ⟨f, hf, hg⟩)
  simpa [Approved, checkSwapOutApproval, checkListedGVGs, hquery, hid, hfound, bind_eq_ok]
    using fun _ => hexiting

end

/-! ## What is asked -/

section

variable {self : Nat} {available : List Nat} {a : Answers} {f : Family} {least : Nat}

theorem conflictUnit_of_not_mem {g : GVG} (h : least ∉ g.secondarySPIds) :
    conflictUnit self available a f least g = {} :=
  if_neg (mt secondaryIndex_nonneg.mp h)

/-- The loop ends with the first GVG of the SP if that GVG has no successor. -/
theorem conflictUnits_of_stuck {gvgs : List GVG}
    (h : ∀ g, gvgs.find? (least ∈ ·.secondarySPIds) = some g →
      pickSPByFilter available g.secondarySPIds = none) :
    forEach (conflictUnit self available a f least) gvgs = {} ∨
    forEach (conflictUnit self available a f least) gvgs = ⟨[], none⟩ := by
  induction gvgs with
  | nil => exact .inl rfl
  | cons g _ ih =>
    rw [forEach]
    by_cases hg : least ∈ g.secondarySPIds
    · rw [conflictUnit, if_pos (secondaryIndex_nonneg.mpr hg), h g (by simp [hg])]
      exact .inr rfl
    · rw [conflictUnit_of_not_mem hg, andThen_empty]
      exact ih fun g' hg' => h g' (by simpa [hg] using hg')

/-- The first GVG of the SP that has a successor is asked for. -/
theorem conflictUnits_asked {gvgs : List GVG} {g : GVG} {sp : Nat} (hdb : a.buildMetaByDB = false)
    (hfind : gvgs.find? (least ∈ ·.secondarySPIds) = some g)
    (hpick : pickSPByFilter available g.secondarySPIds = some sp) : ⟨⟨self, 0, [g.id]⟩, sp⟩ ∈
      (forEach (conflictUnit self available a f least) gvgs).asked := by
  induction gvgs with
  | nil => cases hfind
  | cons g' _ ih =>
    rw [forEach]
    by_cases hg : least ∈ g'.secondarySPIds
    · obtain rfl : g' = g := by simpa [hg] using hfind
      refine mem_asked_andThen_left ?_
      simp [conflictUnit, secondaryIndex_nonneg.mpr hg, hpick, askFor, hdb]
    · rw [conflictUnit_of_not_mem hg, andThen_empty]
      exact ih (by simpa [hg] using hfind)

end

section

variable {c : ChainState} {self : Nat} {healthy : Nat → Bool} {a : Answers} {f : Family}
  {p : Proposal}

section
variable (ha : a.InOrder c self) (hf : f ∈ c.listVirtualGroupFamilies self)
  (hcond : f.gvgs ≠ [] → f.Free (c.available self healthy) ∨ f.Stuck (c.available self healthy))
include ha hf hcond

/-- Without a swap-out that is to resolve a conflict, a family asks for itself or not at all. -/
theorem generateSwapOutUnits_of_free :
    generateSwapOutUnits self (c.available self healthy) a f = {} ∨
    generateSwapOutUnits self (c.available self healthy) a f = ⟨[], none⟩ ∨
    ∃ sp, generateSwapOutUnits self (c.available self healthy) a f =
      askFor a (familyUnit self f.id sp) := by
  rcases generateSwapOutUnits_cases self (c.available self healthy) a f with
    heq | ⟨sp, -, heq⟩ | ⟨hne, hnone, heq | ⟨least, hleast, heq⟩⟩
  · exact .inl heq
  · exact .inr (.inr ⟨sp, heq⟩)
  · exact .inr (.inl heq)
  rcases hcond hne with hfree | hstuck
  · rw [Family.Free, hnone] at hfree
    cases hfree
  · rw [heq]
    exact (conflictUnits_of_stuck (hstuck _ (ha.secondarySPIDs f hf) least hleast)).imp_right .inl

theorem approved_of_free (hwf : c.WellFormed) (hexit : c.Exiting self)
    (hp : p ∈ (generateSwapOutUnits self (c.available self healthy) a f).asked) : Approved c p := by
  obtain ⟨hmem, hself⟩ := mem_listVirtualGroupFamilies.mp hf
  rcases generateSwapOutUnits_of_free ha hf hcond with heq | heq | ⟨sp, heq⟩
  · rw [heq] at hp
    cases hp
  · rw [heq] at hp
    cases hp
  · rw [heq] at hp
    rw [askFor_asked hp]
    obtain ⟨_, hquery, hid, hexiting⟩ := hexit.source
    have hfound : c.queryVirtualGroupFamily f.id = some f := Table.find?_of_mem hwf.families hmem
    simpa [Approved, familyUnit, checkSwapOutApproval, hquery, hwf.specified f hmem, hfound, hid, hself,
      bind_eq_ok] using hexiting

end

/-- Whatever a swap-out does on chain, those of the exiting SP are approved by its successors exactly
if none of them is to resolve the conflict of a family: a successor can be picked for each family that
has GVGs, or no swap-out for its conflict can be asked for. -/
theorem swap_outs_approved (applySwapOut : List GVG → Proposal → List GVG) (hwf : c.WellFormed)
    (hexit : c.Exiting self) :
    Approvable applySwapOut c self healthy ↔
      ∀ f ∈ c.listVirtualGroupFamilies self, f.gvgs ≠ [] →
        f.Free (c.available self healthy) ∨ f.Stuck (c.available self healthy) := by
  constructor
  · intro happ f hf hne
    by_cases hpick : pickSPByFilter (c.available self healthy) (secondaries f.gvgs) = none
    · refine .inr fun order horder least hleast g hg => ?_
      cases hsp : pickSPByFilter (c.available self healthy) g.secondarySPIds with
      | none => rfl
      | some sp =>
        -- in this order a successor is asked, and the exiting SP is the primary SP of the GVG
        let a : Answers :=
          { secondarySPIDs := fun f' => if f' = f then order else (secondaries f'.gvgs).dedup
            secondaryGVGs := listSecondaryGVGsFromChain c self }
        have ha : a.InOrder c self := by
          refine ⟨fun f' _ => ?_, .refl _⟩
          by_cases heq : f' = f
          · simpa [a, heq] using horder
          · simp [a, heq]
        have hgen : generateSwapOutUnits self (c.available self healthy) a f =
            forEach (conflictUnit self (c.available self healthy) a f least) f.gvgs := by
          simp [generateSwapOutUnits, hne, hpick, a, hleast]
        have hok := happ.family a ha f hf ⟨⟨self, 0, [g.id]⟩, sp⟩ (by
          rw [hgen]
          exact conflictUnits_asked rfl hg hsp)
        obtain ⟨hmem, hself⟩ := mem_listVirtualGroupFamilies.mp hf
        have hgmem := mem_of_find?_eq_some hg
        have hsec := (approved_listed_iff hwf hexit hmem hgmem sp).mp hok
        exact absurd hsec (hself ▸ hwf.primary f hmem g hgmem)
    · exact .inl (Option.isSome_iff_ne_none.mpr hpick)
  · intro hcond
    refine ⟨fun a ha p hp => ?_, fun a ha f hf p hp => ?_, fun a ha f hf us hus hconf => ?_⟩
    · rcases mem_asked_andThen hp with hp | hp
      · obtain ⟨f, hf, hp⟩ := forEach_asked hp
        exact approved_of_free ha hf (hcond f hf) hwf hexit hp
      · obtain ⟨_, hg, hp⟩ := forEach_asked hp
        obtain ⟨_, hf, hg⟩ := mem_flatMap.mp (ha.secondaryGVGs.mem_iff.mp hg)
        obtain ⟨_, hg', rfl⟩ := mem_map.mp hg
        obtain ⟨hmem, hself⟩ := mem_filter.mp hg'
        unfold secondaryUnit at hp
        split at hp
        · cases hp
        · rw [askFor_asked hp]
          refine (approved_listed_iff hwf hexit (mem_of_mem_filter hf) hmem _).mpr ?_
          simpa [getSecondarySPIndexFromGVG] using hself
    · exact approved_of_free ha hf (hcond f hf) hwf hexit hp
    · obtain ⟨_, hu, hconf⟩ := hconf
      rcases generateSwapOutUnits_of_free ha hf (hcond f hf) with heq | heq | ⟨_, heq⟩
      · rw [heq] at hus
        cases hus
        cases hu
      · rw [heq] at hus
        cases hus
      rw [heq] at hus
      rw [askFor_units hus, mem_singleton] at hu
      rw [hu] at hconf
      cases hconf

end

/-- The successor takes the place of the SP that swaps out, in each listed GVG. -/
def takePlace (gvgs : List GVG) (p : Proposal) : List GVG :=
  gvgs.map fun g =>
    if g.id ∈ p.msg.gvgIds then
      { g with secondarySPIds := g.secondarySPIds.replace p.msg.storageProvider p.successorSpId }
    else g

/-- SP 8 can follow SP 1. -/
def freeFamily : ChainState :=
  ⟨[⟨1, 1, [⟨1, 1, [2, 3, 4, 5, 6, 7]⟩, ⟨2, 1, [2, 3, 4, 5, 6, 7]⟩]⟩], eightSPs⟩

theorem swap_outs_approved_sample : Approvable takePlace freeFamily 1 (fun _ => true) := by
  have hwf : freeFamily.WellFormed := by decide
  have hexit : freeFamily.Exiting 1 := ⟨⟨1, .gracefulExiting⟩, by decide, .inl rfl⟩
  refine (swap_outs_approved takePlace hwf hexit).mpr fun f hf _ => .inl ?_
  obtain rfl : f = ⟨1, 1, [⟨1, 1, [2, 3, 4, 5, 6, 7]⟩, ⟨2, 1, [2, 3, 4, 5, 6, 7]⟩]⟩ := by
    simpa [freeFamily, ChainState.listVirtualGroupFamilies] using hf
  rfl

/-- SP 8 is asked to replace SP 1 as a secondary of GVG 1 and refuses. -/
theorem conflict_swap_out_refused : conflictingFamily.WellFormed ∧ conflictingFamily.Exiting 1 ∧
    (inFamilyOrder conflictingFamily).InOrder conflictingFamily 1 ∧
    (produceSwapOutPlan conflictingFamily 1 (fun _ => true)
      (inFamilyOrder conflictingFamily)).asked =
      [⟨⟨1, 0, [1]⟩, 8⟩] ∧
    checkSwapOutApproval conflictingFamily 8 ⟨⟨1, 0, [1]⟩, 8⟩ = .error .noPermission ∧
    ¬ Approvable takePlace conflictingFamily 1 (fun _ => true) := by
  have hin : (inFamilyOrder conflictingFamily).InOrder conflictingFamily 1 := ⟨fun _ _ => .refl _, .refl _⟩
  have hasked : (produceSwapOutPlan conflictingFamily 1 (fun _ => true)
      (inFamilyOrder conflictingFamily)).asked =
      [⟨⟨1, 0, [1]⟩, 8⟩] := by decide
  have hrefused : checkSwapOutApproval conflictingFamily 8 ⟨⟨1, 0, [1]⟩, 8⟩ =
      .error .noPermission := by rfl
  refine ⟨by decide, ⟨⟨1, .gracefulExiting⟩, by decide, .inl rfl⟩, hin, hasked, hrefused, ?_⟩
  intro happ
  have hok := happ.plan _ hin ⟨⟨1, 0, [1]⟩, 8⟩ (by simp [hasked])
  rw [Approved, hrefused] at hok
  cases hok

end Manager.SwapOutPlan

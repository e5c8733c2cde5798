-- SUMMARY: The secondary SPs that a destination GVG is to have.
import Mathlib.Data.List.Nodup
import MocaSP.Manager.BucketPlan

/-!
# Secondary SPs of the destination GVG

Exiting SPs are replaced one after another, each pick with the earlier ones excluded. The
pick that replaces the destination SP excludes the SPs of the source GVG only.
-/

namespace Manager.BucketMigrate
open List Except

variable {P : Planner} {pick selfSP : Nat} {gvg : GlobalVirtualGroup} {spIDs replaced r : List Nat}

/-- The first of the SPs that is exiting. -/
def Planner.firstExiting (P : Planner) (spIDs : List Nat) : Option Nat :=
  spIDs.find? (P.isExiting · = some true)

theorem pickSPByFilter_ok {others excluded : List Nat} {sp : Nat}
    (h : pickSPByFilter others excluded = .ok sp) : sp ∈ others ∧ sp ∉ excluded := by
  have hpick := orFail_eq_ok.mp h
  have hout := List.find?_some hpick
  exact ⟨mem_of_find?_eq_some hpick, of_decide_eq_true hout⟩

/-- What the loop of replaceExitingSP makes of one SP. -/
def Becomes (P : Planner) (sp x : Nat) : Prop :=
  (P.isExiting sp = some true ∧ x ≠ sp ∧ ∃ n, x ∈ P.otherSPs n) ∨ (P.isExiting sp ≠ some true ∧ x = sp)

/-- What it makes of the SPs; the first pick excludes no other pick. -/
structure Replaces (P : Planner) (spIDs excluded r : List Nat) : Prop where
  becomes : Forall₂ (Becomes P) spIDs r
  first : ∀ sp, P.firstExiting spIDs = some sp →
    ∃ j n x : Nat, spIDs[j]? = some sp ∧ r[j]? = some x ∧ pickSPByFilter (P.otherSPs n) excluded = .ok x

/-- The loop after the SPs `pre`. The SPs that are still to come are excluded from every pick. -/
theorem replaceFrom_spec {pre rest : List Nat} {excluded : Option (List Nat)}
    (h : replaceFrom P pick (pre ++ rest) excluded pre.length rest = .ok r)
    (hexcluded : ∀ sp ∈ pre ++ rest, sp ∈ excluded.getD (pre ++ rest)) :
    ∃ news, r = pre ++ news ∧ Replaces P rest (excluded.getD (pre ++ rest)) news ∧
      ((pre ++ rest).Nodup → r.Nodup) := by
  induction rest generalizing pre excluded with
  | nil =>
    cases h
    exact ⟨[], rfl, ⟨.nil, nofun⟩, id⟩
  | cons sp rest ih =>
    obtain ⟨exiting, hexiting, h⟩ := bind_eq_ok.mp h
    have hexiting := orFail_eq_ok.mp hexiting
    cases exiting with
    | false =>
      have hassoc : pre ++ sp :: rest = pre ++ [sp] ++ rest := by simp
      rw [hassoc] at h hexcluded ⊢
      obtain ⟨news, rfl, hr, hnodup⟩ := @ih (pre ++ [sp]) _ (by simpa using h) hexcluded
      refine ⟨sp :: news, by simp, ⟨.cons (.inr ⟨by simp [hexiting], rfl⟩) hr.becomes, fun x hx => ?_⟩, hnodup⟩
      rw [Planner.firstExiting, find?_cons_of_neg (by simp [hexiting])] at hx
      obtain ⟨j, n, y, hj, hy, hpick⟩ := hr.first x hx
      exact ⟨j + 1, n, y, hj, hy, hpick⟩
    | true =>
      obtain ⟨x, hpick, h⟩ := bind_eq_ok.mp h
      obtain ⟨hother, hout⟩ := pickSPByFilter_ok hpick
      have hnew : x ∉ pre ++ sp :: rest := fun hin => hout (hexcluded _ hin)
      have hset : (pre ++ sp :: rest).set pre.length x = pre ++ [x] ++ rest := by simp
      obtain ⟨news, rfl, hr, hnodup⟩ := @ih (pre ++ [x])
        (some (excluded.getD (pre ++ [x] ++ rest) ++ [x])) (by simpa [hset] using h) (by
          intro y hy
          rcases excluded with _ | excluded
          · exact mem_append_left _ hy
          · rcases mem_or_eq_of_mem_set (hset ▸ hy) with hin | rfl
            · exact mem_append_left _ (hexcluded y hin)
            · exact mem_append_right _ (.head _))
      refine ⟨x :: news, by simp, ⟨.cons (.inl ⟨hexiting, fun heq => hnew (by simp [heq]), _, hother⟩) hr.becomes,
        fun y hy => ?_⟩, fun h => hnodup (hset ▸ h.set hnew)⟩
      rw [Planner.firstExiting, find?_cons_of_pos (by simp [hexiting])] at hy
      cases hy
      exact ⟨0, _, x, rfl, rfl, hpick⟩

theorem Replaces.getElem? (h : Replaces P spIDs spIDs r) {j sp : Nat} (hj : spIDs[j]? = some sp) :
    ∃ x, r[j]? = some x ∧ Becomes P sp x := by
  obtain ⟨hlt, rfl⟩ := List.getElem?_eq_some_iff.mp hj
  obtain ⟨hlen, hall⟩ := forall₂_iff_get.mp h.becomes
  exact ⟨_, getElem?_eq_getElem (hlen ▸ hlt), hall j hlt (hlen ▸ hlt)⟩

theorem Replaces.ne_iff (h : Replaces P spIDs spIDs r) {j sp : Nat} (hj : spIDs[j]? = some sp) :
    r[j]? ≠ some sp ↔ P.isExiting sp = some true := by
  obtain ⟨_, hx, ⟨he, hne, -⟩ | ⟨he, rfl⟩⟩ := h.getElem? hj
  · simp [hx, he, hne]
  · simp [hx, he]

/-- The SP itself is replaced last, with the SPs of the source GVG excluded. -/
theorem destSecondarySPIDs_cases (h : destSecondarySPIDs P pick selfSP gvg = .ok r)
    (hsrc : gvg.secondarySpIds = spIDs) :
    ∃ replaced, (Replaces P spIDs spIDs replaced ∧ (spIDs.Nodup → replaced.Nodup)) ∧
      (selfSP ∉ spIDs ∧ r = replaced ∨ ∃ i n x : Nat, spIDs[i]? = some selfSP ∧
        pickSPByFilter (P.otherSPs n) spIDs = .ok x ∧ r = replaced.set i x) := by
  subst hsrc
  obtain ⟨replaced, hreplaced, h⟩ := bind_eq_ok.mp h
  obtain ⟨_, rfl, hr⟩ := @replaceFrom_spec P pick replaced [] _ _ hreplaced fun _ => id
  refine ⟨_, hr, ?_⟩
  split at h
  next hnone =>
    cases h
    exact .inl ⟨by simpa using hnone, rfl⟩
  rename_i index hindex
  obtain ⟨x, hpick, h⟩ := bind_eq_ok.mp h
  cases h
  obtain ⟨hlt, hself, -⟩ := idxOf?_eq_some_iff.mp hindex
  exact .inr ⟨index, _, x, List.getElem?_eq_some_iff.mpr ⟨hlt, by simpa using hself⟩, hpick, rfl⟩

/-- Positions of the destination GVG's SPs that are not as in the source GVG. -/
theorem destSecondarySPIDs_spec (hnodup : gvg.secondarySpIds.Nodup)
    (h : destSecondarySPIDs P pick selfSP gvg = .ok r) : r.length = gvg.secondarySpIds.length ∧
      ∀ j sp : Nat, gvg.secondarySpIds[j]? = some sp →
        (r[j]? ≠ some sp ↔ P.isExiting sp = some true ∨ sp = selfSP) := by
  obtain ⟨_, ⟨hr, -⟩, ⟨hself, rfl⟩ | ⟨i, _, x, hi, hpick, rfl⟩⟩ := destSecondarySPIDs_cases h rfl
  · refine ⟨hr.becomes.length_eq.symm, fun j sp hsp => ?_⟩
    have hne : sp ≠ selfSP := fun heq => hself (heq ▸ mem_of_getElem? hsp)
    simp [hr.ne_iff hsp, hne]
  have hlt := (List.getElem?_eq_some_iff.mp hi).1
  refine ⟨by rw [length_set, hr.becomes.length_eq], fun j sp hsp => ?_⟩
  have hsame : sp = selfSP ↔ j = i := by
    rw [← List.getElem?_inj (List.getElem?_eq_some_iff.mp hsp).1 hnodup, hsp, hi, Option.some.injEq]
  by_cases hj : j = i
  · have hne : x ≠ sp := fun heq => (pickSPByFilter_ok hpick).2 (heq ▸ mem_of_getElem? hsp)
    rw [hj, getElem?_set_self (hr.becomes.length_eq ▸ hlt)]
    exact iff_of_true (fun heq => hne (Option.some.inj heq)) (.inr (hsame.mpr hj))
  · rw [getElem?_set_ne (Ne.symm hj)]
    simp [hr.ne_iff hsp, hsame, hj]

section
variable {sps : List Nat} (hsame : ∀ n, P.otherSPs n = sps)
include hsame

/-- The pick for the SP itself is the one for the first exiting SP: it is in its place or twice there. -/
theorem nodup_set_iff {i x : Nat} (hnodup : spIDs.Nodup) (hr : Replaces P spIDs spIDs replaced)
    (hdistinct : replaced.Nodup) (hi : spIDs[i]? = some selfSP) (hpick : pickSPByFilter sps spIDs = .ok x) :
    (replaced.set i x).Nodup ↔ ∀ sp ∈ P.firstExiting spIDs, sp = selfSP := by
  have hlt : i < replaced.length := hr.becomes.length_eq ▸ (List.getElem?_eq_some_iff.mp hi).1
  cases hfind : P.firstExiting spIDs with
  | none =>
    obtain rfl : replaced = spIDs := by
      refine ext_getElem? fun j => ?_
      cases hj : spIDs[j]? with
      | none => exact getElem?_eq_none (hr.becomes.length_eq ▸ getElem?_eq_none_iff.mp hj)
      | some sp =>
        have hstays := find?_eq_none.mp hfind sp (mem_of_getElem? hj)
        exact Classical.not_not.mp (mt (hr.ne_iff hj).mp (by simpa using hstays))
    exact iff_of_true (hnodup.set (pickSPByFilter_ok hpick).2) nofun
  | some sp =>
    obtain ⟨j, _, _, hj, hx, hpick'⟩ := hr.first sp hfind
    rw [hsame, hpick] at hpick'
    cases hpick'
    constructor
    · rintro hset _ ⟨⟩
      have hji : j = i := by
        refine (List.getElem?_inj (by simpa using (List.getElem?_eq_some_iff.mp hx).1) hset).mp ?_
        rw [getElem?_set_self hlt, getElem?_set]
        split <;> simp_all
      rw [hji, hi] at hj
      exact (Option.some.inj hj).symm
    · intro hself
      cases hself sp rfl
      obtain rfl := (List.getElem?_inj (List.getElem?_eq_some_iff.mp hj).1 hnodup).mp (hj.trans hi.symm)
      obtain ⟨_, rfl⟩ := List.getElem?_eq_some_iff.mp hx
      rw [set_getElem_self]
      exact hdistinct

/-- Where the SPs of the destination GVG come from, and when they are pairwise distinct. -/
theorem destSecondarySPIDs_nodup_iff (hnodup : spIDs.Nodup) (hsrc : gvg.secondarySpIds = spIDs)
    (h : destSecondarySPIDs P pick selfSP gvg = .ok r) :
    (∀ j sp : Nat, r[j]? = some sp → spIDs[j]? = some sp ∨ sp ∈ sps) ∧
      (r.Nodup ↔ (selfSP ∈ spIDs → ∀ sp ∈ P.firstExiting spIDs, sp = selfSP)) := by
  obtain ⟨replaced, ⟨hr, hdistinct⟩, hcase⟩ := destSecondarySPIDs_cases h hsrc
  have hold : ∀ j sp : Nat, replaced[j]? = some sp → spIDs[j]? = some sp ∨ sp ∈ sps := by
    intro j _ hsp
    obtain ⟨hlt, -⟩ := List.getElem?_eq_some_iff.mp hsp
    have hj := getElem?_eq_getElem (hr.becomes.length_eq ▸ hlt : j < spIDs.length)
    obtain ⟨_, hx, ⟨-, -, n, hin⟩ | ⟨-, rfl⟩⟩ := hr.getElem? hj
    · cases hsp.symm.trans hx
      exact .inr (hsame n ▸ hin)
    · cases hsp.symm.trans hx
      exact .inl hj
  rcases hcase with ⟨hself, rfl⟩ | ⟨_, n, x, hi, hpick, rfl⟩
  · exact ⟨hold, iff_of_true (hdistinct hnodup) fun hin => absurd hin hself⟩
  rw [hsame] at hpick
  rw [nodup_set_iff hsame hnodup hr (hdistinct hnodup) hi hpick]
  refine ⟨fun j sp hsp => ?_, fun hfirst _ => hfirst, fun hfirst => hfirst (mem_of_getElem? hi)⟩
  rw [getElem?_set] at hsp
  split at hsp
  · simp only [Option.ite_none_right_eq_some, Option.some.injEq] at hsp
    exact .inr (hsp.2 ▸ (pickSPByFilter_ok hpick).1)
  · exact hold j sp hsp

/-- The SP is exiting: gracefully, or by force, about which the code does not ask. -/
def Planner.Leaves (P : Planner) (forced : Nat → Prop) (sp : Nat) : Prop := P.isExiting sp = some true ∨ forced sp

structure WellFormed (leaves : Nat → Prop) (selfSP : Nat) (spIDs r : List Nat) : Prop where
  length : r.length = spIDs.length
  nodup : r.Nodup
  allowed : ∀ sp ∈ r, sp ≠ selfSP ∧ ¬ leaves sp
  same : ∀ j sp : Nat, spIDs[j]? = some sp → r[j]? ≠ some sp → leaves sp ∨ sp = selfSP

/-- The secondary SPs are well formed unless another SP than the destination SP exits by force, or is the
first to be exiting where the destination SP is to be replaced as well. -/
theorem dest_secondaries_well_formed_iff (forced : Nat → Prop) (hnodup : gvg.secondarySpIds.Nodup)
    (hservice : ∀ sp ∈ sps, sp ≠ selfSP ∧ ¬ P.Leaves forced sp)
    (hforced : ∀ sp, forced sp → P.isExiting sp ≠ some true)
    (h : destSecondarySPIDs P pick selfSP gvg = .ok r) :
    WellFormed (P.Leaves forced) selfSP gvg.secondarySpIds r ↔
      (selfSP ∈ gvg.secondarySpIds → ∀ sp ∈ P.firstExiting gvg.secondarySpIds, sp = selfSP) ∧
      ∀ sp ∈ gvg.secondarySpIds, forced sp → sp = selfSP := by
  obtain ⟨hlen, hspec⟩ := destSecondarySPIDs_spec hnodup h
  obtain ⟨hsource, hdistinct⟩ := destSecondarySPIDs_nodup_iff hsame hnodup rfl h
  constructor
  · intro hw
    refine ⟨hdistinct.mp hw.nodup, fun sp hsp hleaves => ?_⟩
    obtain ⟨j, hj⟩ := mem_iff_getElem?.mp hsp
    by_cases hkept : r[j]? = some sp
    · exact absurd (.inr hleaves) (hw.allowed sp (mem_of_getElem? hkept)).2
    · exact ((hspec j sp hj).mp hkept).resolve_left (hforced sp hleaves)
  · rintro ⟨hfirst, hnone⟩
    refine ⟨hlen, hdistinct.mpr hfirst, fun sp hsp => ?_,
      fun j sp hsp hdiff => ((hspec j sp hsp).mp hdiff).imp_left .inl⟩
    obtain ⟨j, hj⟩ := mem_iff_getElem?.mp hsp
    rcases hsource j sp hj with hsrc | hin
    · obtain ⟨hstays, hne⟩ := not_or.mp fun hx => (hspec j sp hsrc).mpr hx hj
      exact ⟨hne, not_or.mpr ⟨hstays, fun hf => hne (hnone sp (mem_of_getElem? hsrc) hf)⟩⟩
    · exact hservice sp hin

end

/-- SPs 5 and 6 can be picked, and SP 3 is exiting. -/
def exitingSP3 : Planner where
  isExiting := fun sp => some (sp == 3)
  otherSPs := fun _ => [5, 6]
  gvgs := fun _ => []
  creates := fun _ => true

theorem dest_secondaries_sample : WellFormed (exitingSP3.Leaves fun _ => False) 9 [2, 3] [2, 5] :=
  (@dest_secondaries_well_formed_iff exitingSP3 0 9 ⟨1, 1, 1, [2, 3], 0⟩ [2, 5] [5, 6] (fun _ => rfl) (fun _ => False)
    (by decide) (by simp [Planner.Leaves, exitingSP3]) nofun rfl).mpr (by simp)

/-- The exiting SP 3 and the destination SP 2 are replaced by the same SP. -/
theorem dest_secondaries_duplicated :
    destSecondarySPIDs exitingSP3 0 2 ⟨1, 1, 1, [2, 3], 0⟩ = .ok [5, 5] ∧
      ¬ WellFormed (exitingSP3.Leaves fun _ => False) 2 [2, 3] [5, 5] :=
  ⟨rfl, fun h => absurd h.nodup (by decide)⟩

end Manager.BucketMigrate

-- SUMMARY: The source side of an SP exit.
import MocaSP.Base.Except
import MocaSP.Base.Table
import MocaSP.Manager.SwapOut
import Mathlib.Data.List.Dedup

/-!
# The swap-out plan of an exiting SP

For each family of which the exiting SP is the primary, `GenerateSwapOutUnits`
picks a successor that is a secondary of none of its GVGs. If there is none, the
family has a conflict: a secondary bound to few GVGs is chosen, and for each
GVG that has it a swap-out of that GVG alone is asked for. For each GVG that has
the exiting SP as a secondary, one more swap-out is asked for.

Go maps are iterated in any order; the orders are part of the answers. An
operator address is the id of its SP.
-/

namespace Manager.SwapOutPlan
open List

structure Family where
  id : Nat
  primarySpId : Nat
  gvgs : List GVG
  deriving DecidableEq

inductive SPStatus where
  | inService | gracefulExiting | forcedExiting | other
  deriving DecidableEq

structure SP where
  id : Nat
  status : SPStatus
  deriving DecidableEq

structure ChainState where
  families : List Family
  sps : List SP

variable (c : ChainState) (self : Nat)

namespace ChainState

def listVirtualGroupFamilies (spId : Nat) : List Family := c.families.filter (·.primarySpId = spId)

def gvgs : List GVG := c.families.flatMap (·.gvgs)

def queryVirtualGroupFamily (id : Nat) : Option Family := c.families.find? (·.id = id)

def queryGlobalVirtualGroup (id : Nat) : Option GVG := c.gvgs.find? (·.id = id)

def querySP (address : Nat) : Option SP := c.sps.find? (·.id = address)

/-- The other SPs that are in service and healthy, in the order in which they are tried. -/
def available (healthy : Nat → Bool) : List Nat :=
  ((c.sps.filter (·.id ≠ self)).filter fun sp => sp.status = .inService && healthy sp.id).map (·.id)

structure WellFormed (c : ChainState) : Prop where
  families : (c.families.map (·.id)).Nodup
  specified : ∀ f ∈ c.families, f.id ≠ 0
  gvgs : (c.gvgs.map (·.id)).Nodup
  distinct : ∀ f ∈ c.families, ∀ g ∈ f.gvgs, g.secondarySPIds.Nodup
  primary : ∀ f ∈ c.families, ∀ g ∈ f.gvgs, f.primarySpId ∉ g.secondarySPIds

attribute [mk_iff] WellFormed

instance (c : ChainState) : Decidable c.WellFormed := decidable_of_iff' _ (wellFormed_iff c)

end ChainState

def pickSPByFilter (available excluded : List Nat) : Option Nat := available.find? (· ∉ excluded)

/-- A MsgSwapOut with its successor. -/
structure Proposal where
  msg : MsgSwapOut
  successorSpId : Nat
  deriving DecidableEq

def Proposal.key (p : Proposal) : SwapOutKey := makeSwapOutKey p.msg

/-- A SwapOutUnit of the source SP. -/
structure SrcSwapOutUnit where
  isConflicted : Bool := false
  conflictedFamilyID : Nat := 0
  swapOut : Proposal
  deriving DecidableEq

def SrcSwapOutUnit.key (u : SrcSwapOutUnit) : SwapOutKey := u.swapOut.key

/-- What the exiting SP finds while it makes the plan, besides the chain. -/
structure Answers where
  buildMetaByDB : Bool := false
  /-- The successor in the message that is stored for a key. -/
  querySwapOutUnitInSrcSP : SwapOutKey → Option Nat := fun _ => none
  /-- The successor approved the swap-out and the transaction was sent. -/
  getSwapOutApprovalAndSendTx : Proposal → Bool := fun _ => true
  /-- The order of the iteration over familySecondarySPIDMap. -/
  secondarySPIDs : Family → List Nat
  /-- The order of the iteration over secondaryGVGMap. -/
  secondaryGVGs : List (Family × GVG)

/-! ## Asking for approvals -/

/-- What was asked of successors, and the units if no error was returned. -/
structure Produced where
  asked : List Proposal := []
  units : Option (List SrcSwapOutUnit) := some []

variable {u : SrcSwapOutUnit}

namespace Produced

/-- The next call, if the one before it did not fail. -/
def andThen (r next : Produced) : Produced :=
  match r.units with
  | none => r
  | some us => ⟨r.asked ++ next.asked, next.units.map (us ++ ·)⟩

/-- One call for each element, up to the first that fails. -/
def forEach {α : Type} (call : α → Produced) : List α → Produced
  | [] => {}
  | x :: xs => (call x).andThen (forEach call xs)

variable {α : Type} {r next : Produced} {call : α → Produced} {xs : List α} {p : Proposal}
  {us : List SrcSwapOutUnit}

@[simp] theorem andThen_empty : ({} : Produced).andThen next = next := by simp [andThen]

theorem mem_asked_andThen (h : p ∈ (r.andThen next).asked) : p ∈ r.asked ∨ p ∈ next.asked := by
  unfold andThen at h
  split at h
  · exact .inl h
  · exact mem_append.mp h

theorem mem_asked_andThen_left (h : p ∈ r.asked) : p ∈ (r.andThen next).asked := by
  unfold andThen
  split
  · exact h
  · exact mem_append_left _ h

theorem andThen_units (h : (r.andThen next).units = some us) :
    ∃ vs ws, r.units = some vs ∧ next.units = some ws ∧ us = vs ++ ws := by
  unfold andThen at h
  split at h
  next hnone =>
    rw [hnone] at h
    cases h
  next vs hvs =>
    obtain ⟨ws, hws, rfl⟩ := Option.map_eq_some_iff.mp h
    exact ⟨vs, ws, hvs, hws, rfl⟩

theorem forEach_asked (h : p ∈ (forEach call xs).asked) : ∃ x ∈ xs, p ∈ (call x).asked := by
  induction xs with
  | nil => cases h
  | cons x _ ih =>
    rcases mem_asked_andThen h with hx | hxs
    · exact ⟨x, .head _, hx⟩
    · obtain ⟨y, hy, hp⟩ := ih hxs
      exact ⟨y, .tail _ hy, hp⟩

theorem forEach_units (h : (forEach call xs).units = some us) (hu : u ∈ us) :
    ∃ x ∈ xs, ∃ vs, (call x).units = some vs ∧ u ∈ vs := by
  induction xs generalizing us with
  | nil =>
    cases h
    cases hu
  | cons x _ ih =>
    obtain ⟨vs, _, hvs, hws, rfl⟩ := andThen_units h
    rcases mem_append.mp hu with hu | hu
    · exact ⟨x, .head _, vs, hvs, hu⟩
    · obtain ⟨y, hy, vs', hvs', hu⟩ := ih hws hu
      exact ⟨y, .tail _ hy, vs', hvs', hu⟩

end Produced

/-- A successor is asked unless the stored row of the swap-out names the same one. -/
def askFor (a : Answers) (u : SrcSwapOutUnit) : Produced :=
  if a.buildMetaByDB ∧
      a.querySwapOutUnitInSrcSP u.key = some u.swapOut.successorSpId then ⟨[], some [u]⟩
  else ⟨[u.swapOut], if a.getSwapOutApprovalAndSendTx u.swapOut then some [u] else none⟩

theorem askFor_asked {a : Answers} {p : Proposal} (h : p ∈ (askFor a u).asked) : p = u.swapOut := by
  unfold askFor at h
  split at h
  · cases h
  · exact mem_singleton.mp h

theorem askFor_units {a : Answers} {us : List SrcSwapOutUnit} (h : (askFor a u).units = some us) :
    us = [u] := by
  unfold askFor at h
  split at h
  · exact (Option.some.inj h).symm
  · exact ((Option.ite_none_right_eq_some.mp h).2 |> Option.some.inj).symm

/-! ## A family -/

/-- The secondaries of the GVGs, one time for each GVG. -/
def secondaries (gvgs : List GVG) : List Nat := gvgs.flatMap (·.secondarySPIds)

/-- The loop over familySecondarySPIDMap in the given order. -/
def bindingLeastGVGs (gvgs : List GVG) (order : List Nat) (first : Nat) : Nat :=
  order.foldl
    (fun least spID =>
      if (secondaries gvgs).count spID < (secondaries gvgs).count least then spID else least)
    first

/-- secondarySPIDBindingLeastGVGs; reading the first secondary of a GVG without any panics. -/
def leastBound (f : Family) (order : List Nat) : Option Nat :=
  match f.gvgs with
  | [] => none
  | g :: _ => g.secondarySPIds.head?.map (bindingLeastGVGs f.gvgs order)

variable (available : List Nat)

/-- The swap-out that is to take the SP out of one GVG of the family. -/
def conflictUnit (a : Answers) (f : Family) (least : Nat) (g : GVG) : Produced :=
  if 0 ≤ secondaryIndex g least then
    match pickSPByFilter available g.secondarySPIds with
    | none => ⟨[], none⟩
    | some sp => askFor a
        { isConflicted := true, conflictedFamilyID := f.id, swapOut := ⟨⟨self, 0, [g.id]⟩, sp⟩ }
  else {}

def familyUnit (self familyId sp : Nat) : SrcSwapOutUnit :=
  { swapOut := ⟨⟨self, familyId, []⟩, sp⟩ }

def generateSwapOutUnits (a : Answers) (f : Family) : Produced :=
  if f.gvgs = [] then {}
  else
    match pickSPByFilter available (secondaries f.gvgs) with
    | some sp => askFor a (familyUnit self f.id sp)
    | none =>
      match leastBound f (a.secondarySPIDs f) with
      | none => ⟨[], none⟩
      | some least => Produced.forEach (conflictUnit self available a f least) f.gvgs

/-- A family without GVGs, one with a successor, and one with a conflict. -/
theorem generateSwapOutUnits_cases (a : Answers) (f : Family) :
    generateSwapOutUnits self available a f = {} ∨
    (∃ sp, pickSPByFilter available (secondaries f.gvgs) = some sp ∧
      generateSwapOutUnits self available a f = askFor a (familyUnit self f.id sp)) ∨
    (f.gvgs ≠ [] ∧ pickSPByFilter available (secondaries f.gvgs) = none ∧
      ((generateSwapOutUnits self available a f = ⟨[], none⟩) ∨
      ∃ least, leastBound f (a.secondarySPIDs f) = some least ∧
        generateSwapOutUnits self available a f =
          Produced.forEach (conflictUnit self available a f least) f.gvgs)) := by
  unfold generateSwapOutUnits
  split
  · exact .inl rfl
  rename_i hne
  cases hpick : pickSPByFilter available (secondaries f.gvgs) with
  | some sp => exact .inr (.inl ⟨sp, rfl, rfl⟩)
  | none =>
    refine .inr (.inr ⟨hne, rfl, ?_⟩)
    cases hleast : leastBound f (a.secondarySPIDs f) with
    | none => exact .inl rfl
    | some least => exact .inr ⟨least, rfl, rfl⟩

/-! ## The plan -/

/-- The entries of secondaryGVGMap, each with its family. -/
def listSecondaryGVGsFromChain : List (Family × GVG) :=
  (c.families.filter (·.primarySpId ≠ self)).flatMap fun f =>
    (f.gvgs.filter fun g => (getSecondarySPIndexFromGVG g self).isSome).map fun g => (f, g)

def secondaryUnit (a : Answers) (g : Family × GVG) : Produced :=
  match pickSPByFilter available (g.1.primarySpId :: g.2.secondarySPIds) with
  | none => ⟨[], none⟩
  | some sp => askFor a { swapOut := ⟨⟨self, 0, [g.2.id]⟩, sp⟩ }

/-- An assignment to swapOutUnitMap. -/
def setUnit (plan : List SrcSwapOutUnit) (u : SrcSwapOutUnit) : List SrcSwapOutUnit :=
  plan.filter (·.key ≠ u.key) ++ [u]

def produceSwapOutPlan (healthy : Nat → Bool) (a : Answers) : Produced :=
  let r :=
    (Produced.forEach (generateSwapOutUnits self (c.available self healthy) a)
      (c.listVirtualGroupFamilies self)).andThen
    (Produced.forEach (secondaryUnit self (c.available self healthy) a) a.secondaryGVGs)
  { r with units := r.units.map (·.foldl setUnit []) }

/-- The rows of the table after storeToDB, if it returned no error. -/
def storeToDB (buildMetaByDB : Bool) (rows : List SwapOutKey) :
    List SrcSwapOutUnit → Option (List SwapOutKey)
  | [] => some rows
  | u :: us =>
    if u.key ∈ rows then if buildMetaByDB then storeToDB buildMetaByDB rows us else none
    else storeToDB buildMetaByDB (rows ++ [u.key]) us

/-- The maps are iterated in an order of their entries. -/
structure Answers.InOrder (c : ChainState) (me : Nat) (a : Answers) : Prop where
  secondarySPIDs : ∀ f ∈ c.listVirtualGroupFamilies me,
    (a.secondarySPIDs f).Perm (secondaries f.gvgs).dedup
  secondaryGVGs : a.secondaryGVGs.Perm (listSecondaryGVGsFromChain c me)

/-- The SPs in the comment on FamilyConflictChecker: SP 1 exits and SPs 2 to 8 are in service. -/
def eightSPs : List SP :=
  ⟨1, .gracefulExiting⟩ :: [2, 3, 4, 5, 6, 7, 8].map fun id => ⟨id, .inService⟩

/-- The family in that comment: a conflict swap-out is to take SP 7 out of GVG 1. -/
def conflictingFamily : ChainState :=
  ⟨[⟨1, 1, [⟨1, 1, [2, 3, 4, 5, 6, 7]⟩, ⟨2, 1, [2, 3, 4, 5, 6, 8]⟩]⟩], eightSPs⟩

def inFamilyOrder (c : ChainState) : Answers where
  secondarySPIDs := fun f => (secondaries f.gvgs).dedup
  secondaryGVGs := listSecondaryGVGsFromChain c 1

end Manager.SwapOutPlan

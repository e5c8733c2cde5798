-- SUMMARY: How the exiting SP processes swap-outs and completes its exit.
import MocaSP.Manager.SwapOutPlan
import Mathlib.Data.List.Induction

/-!
# Completing an SP exit

The source SP processes the completion of each of its swap-outs once. With the
completion of a swap-out that was to resolve the conflict of a family, it
queries the latest GVGs of the family and, if a successor can be picked now, sends
the swap-out of the family, adds it to the plan and stores it. The exit is
completed when all swap-outs of the plan are.

An event that returns an error is not processed again.
-/

namespace Manager.SwapOutPlan
open List SwapOutKey Produced

/-- A SrcSPSwapOutPlan, and the keys of the stored swap-outs. -/
structure ExitState where
  swapOutUnitMap : List SrcSwapOutUnit
  completedSwapOut : List SwapOutKey := []
  rows : List SwapOutKey
  -- the history, which no code reads
  processed : Nat := 0
  /-- The families whose swap-out was sent after the plan was made. -/
  familySwapOuts : List Nat := []
  /-- For each MsgCompleteStorageProviderExit sent, how many events had been taken by then. -/
  exits : List Nat := []

/-- An EventCompleteSwapOut, and what the chain and the virtual group manager answer while it is
processed. -/
structure CompleteEvent where
  key : SwapOutKey
  familyGVGs : List GVG := []
  available : List Nat := []
  deriving DecidableEq

/-- An empty plan completes the exit directly. -/
def startExit (plan : List SrcSwapOutUnit) (rows : List SwapOutKey) : ExitState where
  swapOutUnitMap := plan
  rows := rows
  exits := if plan = [] then [0] else []

variable (s : ExitState) (key : SwapOutKey)

namespace ExitState

def take : ExitState := { s with processed := s.processed + 1 }

/-- The family swap-out is sent and added to the plan. -/
def sendFamily (self familyId sp : Nat) : ExitState :=
  { s with
    swapOutUnitMap := setUnit s.swapOutUnitMap (familyUnit self familyId sp)
    familySwapOuts := s.familySwapOuts ++ [familyId] }

def addRow : ExitState := { s with rows := s.rows ++ [key] }

def insertSwapOutUnit : Option ExitState := if key ∈ s.rows then none else some (s.addRow key)

/-- The state, and whether no error was returned. -/
def recheckConflictAndAddFamilySwapOut (self : Nat) (e : CompleteEvent)
    (u : SrcSwapOutUnit) : ExitState × Bool :=
  match pickSPByFilter e.available (secondaries e.familyGVGs) with
  | none => (s, true)
  | some sp =>
    let s := s.sendFamily self u.conflictedFamilyID sp
    match s.insertSwapOutUnit (familyUnit self u.conflictedFamilyID sp).key with
    | none => (s, false)
    | some s => (s, true)

def allCompleted : Bool :=
  s.swapOutUnitMap.all fun u =>
    decide (u.key ∈ s.completedSwapOut) &&
      (!u.isConflicted || decide (.family u.conflictedFamilyID ∈ s.completedSwapOut))

def checkAllCompletedAndSendCompleteSPExitTx : ExitState :=
  if s.allCompleted then { s with exits := s.exits ++ [s.processed] } else s

/-- Records the swap-out as completed and checks the plan. -/
def complete : ExitState :=
  { s with completedSwapOut := s.completedSwapOut ++ [key] }.checkAllCompletedAndSendCompleteSPExitTx

end ExitState

def checkAndSendCompleteSPExitTx (self : Nat) (s : ExitState) (e : CompleteEvent) : ExitState :=
  let s := s.take
  match s.swapOutUnitMap.find? (·.key = e.key) with
  | none => s
  | some u =>
    if u.isConflicted then
      match s.recheckConflictAndAddFamilySwapOut self e u with
      | (s, true) => s.complete e.key
      | (s, false) => s
    else s.complete e.key

def afterEvents (self : Nat) (plan : List SrcSwapOutUnit) (rows : List SwapOutKey)
    (events : List CompleteEvent) : ExitState :=
  events.foldl (checkAndSendCompleteSPExitTx self) (startExit plan rows)

/-! ## What is to hold -/

/-- Each swap-out is completed once, after it was sent. -/
structure EachOnce (me : Nat) (plan : List SrcSwapOutUnit) (rows : List SwapOutKey)
    (events : List CompleteEvent) : Prop where
  once : (events.map (·.key)).Nodup
  sent : ∀ i (h : i < events.length),
    events[i].key ∈ (afterEvents me plan rows (events.take i)).swapOutUnitMap.map (·.key)
  all : ∀ k ∈ (afterEvents me plan rows events).swapOutUnitMap.map (·.key), k ∈ events.map (·.key)

structure ExitsOnce (me : Nat) (plan : List SrcSwapOutUnit) (rows : List SwapOutKey)
    (events : List CompleteEvent) : Prop where
  family : ∀ u ∈ plan, u.isConflicted →
    (afterEvents me plan rows events).familySwapOuts.count u.conflictedFamilyID = 1
  /-- The exit is completed with the last event. -/
  exit : (afterEvents me plan rows events).exits = [events.length]

/-- The event completes a swap-out for the conflict of the family, and a successor can be picked. -/
def resolves (plan : List SrcSwapOutUnit) (familyId : Nat) (e : CompleteEvent) : Bool :=
  (plan.any fun u => u.key = e.key ∧ u.isConflicted ∧ u.conflictedFamilyID = familyId) &&
    (pickSPByFilter e.available (secondaries e.familyGVGs)).isSome

/-! ## The plan -/

/-- A plan has no swap-out yet for a family with a conflict. -/
structure Planned (plan : List SrcSwapOutUnit) : Prop where
  keys : (plan.map (·.key)).Nodup
  specified : ∀ u ∈ plan, u.isConflicted → u.conflictedFamilyID ≠ 0
  conflicted : ∀ u ∈ plan, u.isConflicted → .family u.conflictedFamilyID ∉ plan.map (·.key)

theorem familyUnit_key {self familyId sp : Nat} (h : familyId ≠ 0) :
    (familyUnit self familyId sp).key = .family familyId :=
  if_pos h

variable {plan : List SrcSwapOutUnit} {u : SrcSwapOutUnit} {k : SwapOutKey} {s : ExitState}

theorem mem_setUnit {v : SrcSwapOutUnit} :
    v ∈ setUnit plan u ↔ v ∈ plan ∧ v.key ≠ u.key ∨ v = u := by
  simp [setUnit]

theorem setUnit_keys_nodup (h : (plan.map (·.key)).Nodup) : ((setUnit plan u).map (·.key)).Nodup := by
  rw [setUnit, map_append, nodup_append]
  refine ⟨h.sublist (filter_sublist.map _), nodup_singleton _, ?_⟩
  intro _ hk _ hk'
  obtain ⟨_, hv, rfl⟩ := mem_map.mp hk
  rw [mem_singleton.mp hk']
  simpa using (mem_filter.mp hv).2

/-- The assignments to the map leave units of the list, under distinct keys. -/
theorem foldl_setUnit (us plan : List SrcSwapOutUnit) (h : (plan.map (·.key)).Nodup) :
    ((us.foldl setUnit plan).map (·.key)).Nodup ∧
    ∀ v ∈ us.foldl setUnit plan, v ∈ plan ∨ v ∈ us := by
  induction us generalizing plan with
  | nil => exact ⟨h, fun v hv => .inl hv⟩
  | cons _ _ ih =>
    obtain ⟨hnodup, hmem⟩ := ih _ (setUnit_keys_nodup h)
    refine ⟨hnodup, fun v hv => ?_⟩
    rcases hmem v hv with hv | hv
    · rcases mem_setUnit.mp hv with ⟨hv, -⟩ | rfl
      · exact .inl hv
      · exact .inr (.head _)
    · exact .inr (.tail _ hv)

section

variable {c : ChainState} {self : Nat} {available : List Nat} {a : Answers} {f : Family}
  {us : List SrcSwapOutUnit} {u : SrcSwapOutUnit}

/-- A family has a unit of its own or units for its conflict. -/
theorem generateSwapOutUnits_units
    (h : (generateSwapOutUnits self available a f).units = some us) (hu : u ∈ us) :
    (∃ sp, pickSPByFilter available (secondaries f.gvgs) = some sp ∧ u = familyUnit self f.id sp) ∨
    (pickSPByFilter available (secondaries f.gvgs) = none ∧ u.isConflicted ∧
      u.conflictedFamilyID = f.id ∧ ∃ id, u.key = .gvgList [id]) := by
  rcases generateSwapOutUnits_cases self available a f with
    heq | ⟨sp, hpick, heq⟩ | ⟨-, hpick, heq | ⟨least, -, heq⟩⟩
  · rw [heq] at h
    cases h
    cases hu
  · rw [heq] at h
    rw [askFor_units h, mem_singleton] at hu
    exact .inl ⟨sp, hpick, hu⟩
  · rw [heq] at h
    cases h
  rw [heq] at h
  obtain ⟨g, -, _, hvs, hu⟩ := forEach_units h hu
  unfold conflictUnit at hvs
  split at hvs
  · split at hvs
    · cases hvs
    rw [askFor_units hvs, mem_singleton] at hu
    subst hu
    exact .inr ⟨hpick, rfl, rfl, g.id, rfl⟩
  · cases hvs
    cases hu

/-- The units of a plan: families without a conflict, families with one, and secondary GVGs. -/
theorem produceSwapOutPlan_units {healthy : Nat → Bool}
    (h : (produceSwapOutPlan c self healthy a).units = some plan) (hu : u ∈ plan) :
    (∃ f ∈ c.families, ∃ sp,
      pickSPByFilter (c.available self healthy) (secondaries f.gvgs) = some sp ∧
      u = familyUnit self f.id sp) ∨
    (∃ f ∈ c.families, pickSPByFilter (c.available self healthy) (secondaries f.gvgs) = none ∧
      u.isConflicted ∧ u.conflictedFamilyID = f.id ∧ ∃ id, u.key = .gvgList [id]) ∨
    (u.isConflicted = false ∧ ∃ id, u.key = .gvgList [id]) := by
  obtain ⟨_, hus, rfl⟩ := Option.map_eq_some_iff.mp h
  obtain ⟨_, _, hvs, hws, rfl⟩ := andThen_units hus
  have hmem := ((foldl_setUnit _ [] nodup_nil).2 u hu).resolve_left not_mem_nil
  rcases mem_append.mp hmem with hu | hu
  · obtain ⟨f, hf, _, hxs, hu⟩ := forEach_units hvs hu
    have hf := mem_of_mem_filter hf
    rcases generateSwapOutUnits_units hxs hu with hown | hconf
    · exact .inl ⟨f, hf, hown⟩
    · exact .inr (.inl ⟨f, hf, hconf⟩)
  · obtain ⟨g, -, _, hxs, hu⟩ := forEach_units hws hu
    unfold secondaryUnit at hxs
    split at hxs
    · cases hxs
    rw [askFor_units hxs, mem_singleton] at hu
    subst hu
    exact .inr (.inr ⟨rfl, g.2.id, rfl⟩)

theorem produceSwapOutPlan_planned {healthy : Nat → Bool} (hwf : c.WellFormed)
    (h : (produceSwapOutPlan c self healthy a).units = some plan) : Planned plan := by
  have hconflicted : ∀ u ∈ plan, u.isConflicted → ∃ f ∈ c.families,
      pickSPByFilter (c.available self healthy) (secondaries f.gvgs) = none ∧
      u.conflictedFamilyID = f.id := by
    intro _ hu hconf
    rcases produceSwapOutPlan_units h hu with
      ⟨f, -, sp, -, rfl⟩ | ⟨f, hf, hnone, -, hid, -⟩ | ⟨hnot, -⟩
    · cases hconf
    · exact ⟨f, hf, hnone, hid⟩
    · rw [hnot] at hconf
      cases hconf
  refine ⟨?_, fun u hu hconf => ?_, fun u hu hconf hmem => ?_⟩
  · obtain ⟨_, -, rfl⟩ := Option.map_eq_some_iff.mp h
    exact (foldl_setUnit _ [] nodup_nil).1
  · obtain ⟨f, hf, -, hid⟩ := hconflicted u hu hconf
    rw [hid]
    exact hwf.specified f hf
  obtain ⟨f, hf, hnone, hid⟩ := hconflicted u hu hconf
  obtain ⟨_, hv, hkey⟩ := mem_map.mp hmem
  rw [hid] at hkey
  rcases produceSwapOutPlan_units h hv with
    ⟨f', hf', sp, hsome, rfl⟩ | ⟨-, -, -, -, -, id, hkey'⟩ | ⟨-, id, hkey'⟩
  · -- a family has one id, and it has a successor or not
    rw [familyUnit_key (hwf.specified f' hf')] at hkey
    have hff : f' = f := inj_on_of_nodup_map hwf.families hf' hf (family.inj hkey)
    rw [hff, hnone] at hsome
    cases hsome
  · rw [hkey'] at hkey
    cases hkey
  · rw [hkey'] at hkey
    cases hkey

theorem mem_storeToDB {b : Bool} {rows rows' : List SwapOutKey} (h : storeToDB b rows plan = some rows') :
    k ∈ rows' ↔ k ∈ rows ∨ k ∈ plan.map (·.key) := by
  induction plan generalizing rows with
  | nil =>
    cases h
    simp
  | cons _ _ ih =>
    rw [storeToDB] at h
    split at h
    next =>
      split at h
      · rw [ih h, map_cons, mem_cons]
        grind
      · cases h
    · rw [ih h, map_cons, mem_cons, mem_append, mem_singleton, or_assoc]

end

/-! ## An event -/

/-- What the events processed so far have done to the plan. -/
structure Tracks (plan : List SrcSwapOutUnit) (rows : List SwapOutKey) (events : List CompleteEvent)
    (s : ExitState) : Prop where
  processed : s.processed = events.length
  units : ∃ added, s.swapOutUnitMap = plan ++ added ∧
    ∀ u ∈ added, u.isConflicted = false ∧ ∃ id ∈ s.familySwapOuts, u.key = .family id
  added : ∀ id ∈ s.familySwapOuts, .family id ∈ s.swapOutUnitMap.map (·.key)
  conflicted : ∀ id ∈ s.familySwapOuts, ∃ u ∈ plan, u.isConflicted ∧ u.conflictedFamilyID = id
  stored : ∀ k, k ∈ s.rows ↔ k ∈ rows ∨ ∃ id ∈ s.familySwapOuts, k = .family id
  count : ∀ id, s.familySwapOuts.count id = events.countP (resolves plan id)
  /-- An event is not recorded if its family swap-out had been stored before. -/
  recorded : ∀ k ∈ s.completedSwapOut, ∃ e ∈ events, e.key = k ∧
    ∀ id, resolves plan id e → .family id ∉ rows

namespace Tracks

variable {plan : List SrcSwapOutUnit} {rows : List SwapOutKey} {events : List CompleteEvent}
  {s : ExitState} {e : CompleteEvent} {u : SrcSwapOutUnit} {id self sp : Nat}

theorem start : Tracks plan rows [] (startExit plan rows) where
  processed := rfl
  units := ⟨[], by simp [startExit], by simp⟩
  added := by simp [startExit]
  conflicted := by simp [startExit]
  stored := by simp [startExit]
  count := by simp [startExit]
  recorded := by simp [startExit]

section
variable (ht : Tracks plan rows events s)
include ht

/-- An event that resolves nothing is taken. -/
theorem take (hres : ∀ id, ¬ resolves plan id e) : Tracks plan rows (events ++ [e]) s.take where
  __ := ht
  processed := by simp [ExitState.take, ht.processed]
  count := fun id => by
    rw [countP_append, countP_singleton, if_neg (hres id)]
    exact ht.count id
  recorded := fun k hk => by
    obtain ⟨e', he', h⟩ := ht.recorded k hk
    exact ⟨e', mem_append_left _ he', h⟩

theorem complete (he : e ∈ events) (hres : ∀ id, resolves plan id e → .family id ∉ rows) :
    Tracks plan rows events (s.complete e.key) := by
  have hrecord : Tracks plan rows events
      { s with completedSwapOut := s.completedSwapOut ++ [e.key] } := by
    refine { ht with recorded := fun k hk => ?_ }
    rcases mem_append.mp hk with hk | hk
    · exact ht.recorded k hk
    · exact ⟨e, he, (mem_singleton.mp hk).symm, hres⟩
  unfold ExitState.complete ExitState.checkAllCompletedAndSendCompleteSPExitTx
  split
  · exact { hrecord with }
  · exact hrecord

variable (hplan : Planned plan)
include hplan

/-- A unit is in conflict in the map only as in the plan. -/
theorem conflicted_iff (hfind : s.swapOutUnitMap.find? (·.key = e.key) = some u) :
    (∃ v ∈ plan, v.key = e.key ∧ v.isConflicted ∧ v.conflictedFamilyID = id) ↔
      u.isConflicted ∧ u.conflictedFamilyID = id := by
  obtain ⟨added, hmap, hadded⟩ := ht.units
  have hkey := List.find?_some hfind
  have hkey : u.key = e.key := of_decide_eq_true hkey
  have hmem := mem_of_find?_eq_some hfind
  rw [hmap, mem_append] at hmem
  rcases hmem with hmem | hmem
  · constructor
    · rintro ⟨_, hv, hvkey, _⟩
      rwa [inj_on_of_nodup_map hplan.keys hmem hv (hkey.trans hvkey.symm)]
    · exact fun hconf => ⟨u, hmem, hkey, hconf⟩
  · obtain ⟨hnot, id', hid', hfamily⟩ := hadded u hmem
    obtain ⟨w, hw, hconf, rfl⟩ := ht.conflicted id' hid'
    constructor
    · rintro ⟨_, hv, hvkey, -⟩
      -- no swap-out of the plan has the key of an added family
      refine absurd ?_ (hplan.conflicted w hw hconf)
      rw [← hfamily, hkey, ← hvkey]
      exact mem_map_of_mem hv
    · rintro ⟨hconf', -⟩
      rw [hnot] at hconf'
      cases hconf'

/-- An event resolves no conflict and is recorded; it resolves a conflict whose family swap-out has a
row and is not recorded; or it resolves a conflict and is recorded. -/
theorem event_cases (hmem : e.key ∈ s.swapOutUnitMap.map (·.key)) (self : Nat) : ((∀ id, ¬ resolves plan id e) ∧
      checkAndSendCompleteSPExitTx self s e = s.take.complete e.key) ∨
    ∃ u ∈ plan, u.isConflicted ∧ ∃ sp, (∀ id, resolves plan id e ↔ u.conflictedFamilyID = id) ∧
      ((.family u.conflictedFamilyID ∈ s.rows ∧
        checkAndSendCompleteSPExitTx self s e = s.take.sendFamily self u.conflictedFamilyID sp) ∨
      (.family u.conflictedFamilyID ∉ s.rows ∧
        checkAndSendCompleteSPExitTx self s e =
          ((s.take.sendFamily self u.conflictedFamilyID sp).addRow
            (.family u.conflictedFamilyID)).complete e.key)) := by
  obtain ⟨w, hw, hkey⟩ := mem_map.mp hmem
  obtain ⟨u, hfind⟩ : ∃ u, s.swapOutUnitMap.find? (·.key = e.key) = some u := by
    rw [← Option.isSome_iff_exists, List.find?_isSome]
    exact ⟨w, hw, decide_eq_true hkey⟩
  have hres : ∀ id, resolves plan id e ↔ (u.isConflicted ∧ u.conflictedFamilyID = id) ∧
      (pickSPByFilter e.available (secondaries e.familyGVGs)).isSome :=
    fun id => by
      rw [← ht.conflicted_iff hplan hfind]
      simp [resolves]
  have htake : s.take.swapOutUnitMap.find? (·.key = e.key) = some u := hfind
  by_cases hconf : u.isConflicted
  · cases hpick : pickSPByFilter e.available (secondaries e.familyGVGs) with
    | none =>
      refine .inl ⟨fun id hid => ?_, ?_⟩
      · simpa [hpick] using (hres id).mp hid
      · simp [checkAndSendCompleteSPExitTx, htake, hconf, ExitState.recheckConflictAndAddFamilySwapOut, hpick]
    | some sp =>
      obtain ⟨v, hv, -, hvconf, hvid⟩ := (ht.conflicted_iff hplan hfind).mpr ⟨hconf, rfl⟩
      have hkey : (familyUnit self v.conflictedFamilyID sp).key = _ :=
        familyUnit_key (hplan.specified v hv hvconf)
      refine .inr ⟨v, hv, hvconf, sp, fun id => ?_, ?_⟩
      · simp [hres, hconf, hpick, hvid]
      rw [hvid] at hkey ⊢
      by_cases hrow : family u.conflictedFamilyID ∈ (s.take.sendFamily self u.conflictedFamilyID sp).rows
      · refine .inl ⟨hrow, ?_⟩
        simp [checkAndSendCompleteSPExitTx, htake, hconf,
          ExitState.recheckConflictAndAddFamilySwapOut, hpick, ExitState.insertSwapOutUnit, hkey, hrow]
      · refine .inr ⟨hrow, ?_⟩
        simp [checkAndSendCompleteSPExitTx, htake, hconf,
          ExitState.recheckConflictAndAddFamilySwapOut, hpick, ExitState.insertSwapOutUnit, hkey, hrow]
  · refine .inl ⟨fun id hid => hconf ((hres id).mp hid).1.1, ?_⟩
    simp [checkAndSendCompleteSPExitTx, htake, hconf]

/-- An event that resolves a conflict is taken and the family swap-out is sent. -/
theorem send (hu : u ∈ plan) (hconf : u.isConflicted)
    (hres : ∀ id, resolves plan id e ↔ u.conflictedFamilyID = id) {rows' : List SwapOutKey}
    (hrows : ∀ k, k ∈ rows' ↔ k ∈ s.rows ∨ k = .family u.conflictedFamilyID) :
    Tracks plan rows (events ++ [e])
      { s.take.sendFamily self u.conflictedFamilyID sp with rows := rows' } where
  processed := by simp [ExitState.take, ExitState.sendFamily, ht.processed]
  units := by
    have hkey : (familyUnit self u.conflictedFamilyID sp).key = _ :=
      familyUnit_key (hplan.specified u hu hconf)
    obtain ⟨added, hmap, hadded⟩ := ht.units
    refine ⟨setUnit added (familyUnit self u.conflictedFamilyID sp), ?_, fun v hv => ?_⟩
    · have hkept : plan.filter (·.key ≠ (familyUnit self u.conflictedFamilyID sp).key) = plan := by
        refine filter_eq_self.mpr fun v hv => decide_eq_true fun heq => ?_
        exact hplan.conflicted u hu hconf (hkey ▸ heq ▸ mem_map_of_mem hv)
      rw [setUnit, ← append_assoc, ← hkept, ← filter_append, ← hmap]
      rfl
    rcases mem_setUnit.mp hv with ⟨hv, -⟩ | rfl
    · obtain ⟨hnot, id, hid, hvkey⟩ := hadded v hv
      exact ⟨hnot, id, mem_append_left _ hid, hvkey⟩
    · exact ⟨rfl, _, mem_append_right _ (mem_singleton_self _), hkey⟩
  added := fun id hid => by
    have hkey : (familyUnit self u.conflictedFamilyID sp).key = _ :=
      familyUnit_key (hplan.specified u hu hconf)
    by_cases heq : id = u.conflictedFamilyID
    · rw [heq, ← hkey]
      exact mem_map_of_mem (mem_setUnit.mpr (.inr rfl))
    have hid : id ∈ s.familySwapOuts :=
      (mem_append.mp hid).resolve_right fun h => heq (mem_singleton.mp h)
    obtain ⟨v, hv, hvkey⟩ := mem_map.mp (ht.added id hid)
    refine mem_map.mpr ⟨v, mem_setUnit.mpr (.inl ⟨hv, ?_⟩), hvkey⟩
    rw [hkey, hvkey]
    exact fun h => heq (family.inj h)
  conflicted := fun id hid => by
    rcases mem_append.mp hid with hid | hid
    · exact ht.conflicted id hid
    · exact ⟨u, hu, hconf, (mem_singleton.mp hid).symm⟩
  stored := fun k => by
    have hs := ht.stored k
    simp only [ExitState.take, ExitState.sendFamily, hrows, hs, mem_append, mem_singleton]
    grind
  count := fun id => by
    have hcount := ht.count id
    simp only [ExitState.take, ExitState.sendFamily, count_append, countP_append, hcount,
      countP_singleton, count_singleton, hres id, beq_iff_eq]
  recorded := fun k hk => by
    obtain ⟨e', he', h⟩ := ht.recorded k hk
    exact ⟨e', mem_append_left _ he', h⟩

theorem step (hmem : e.key ∈ s.swapOutUnitMap.map (·.key)) (self : Nat) :
    Tracks plan rows (events ++ [e]) (checkAndSendCompleteSPExitTx self s e) := by
  have he : e ∈ events ++ [e] := mem_append_right _ (mem_singleton_self e)
  rcases ht.event_cases hplan hmem self with
    ⟨hres, heq⟩ | ⟨u, hu, hconf, sp, hres, ⟨hrow, heq⟩ | ⟨hrow, heq⟩⟩
  · rw [heq]
    exact (ht.take hres).complete he fun id hid => absurd hid (hres id)
  · rw [heq]
    refine ht.send hplan hu hconf hres fun k => ⟨.inl, ?_⟩
    rintro (hk | rfl)
    · exact hk
    · exact hrow
  · rw [heq]
    refine (ht.send hplan hu hconf hres fun k => ?_).complete he fun id hid hmem => ?_
    · exact mem_append.trans (or_congr_right mem_singleton)
    · rw [(hres id).mp hid] at hrow
      exact hrow ((ht.stored _).mpr (.inl hmem))

end

end Tracks

/-! ## The exit -/

theorem allCompleted_iff : s.allCompleted ↔ ∀ u ∈ s.swapOutUnitMap, u.key ∈ s.completedSwapOut ∧
      (u.isConflicted → .family u.conflictedFamilyID ∈ s.completedSwapOut) := by
  simp [ExitState.allCompleted, ← Bool.not_eq_true, imp_iff_not_or]

theorem complete_outcome : (s.complete k).completedSwapOut = s.completedSwapOut ++ [k] ∧
    (s.complete k).exits =
      if (s.complete k).allCompleted then s.exits ++ [s.processed] else s.exits := by
  unfold ExitState.complete ExitState.checkAllCompletedAndSendCompleteSPExitTx
  split
  next h => exact ⟨rfl, (if_pos h).symm⟩
  · exact ⟨rfl, rfl⟩

/-- What an event does to the completed swap-outs and the exits. -/
theorem Tracks.event_outcome {rows : List SwapOutKey} {events : List CompleteEvent} {e : CompleteEvent}
    (ht : Tracks plan rows events s) (hplan : Planned plan) (hmem : e.key ∈ s.swapOutUnitMap.map (·.key))
    {self : Nat} {s' : ExitState} (hs' : s' = checkAndSendCompleteSPExitTx self s e) :
    (s'.completedSwapOut = s.completedSwapOut ++ [e.key] ∧
      s'.exits = if s'.allCompleted then s.exits ++ [events.length + 1] else s.exits) ∨
    ((∃ id, resolves plan id e ∧ .family id ∈ s.rows) ∧
      s'.completedSwapOut = s.completedSwapOut ∧ s'.exits = s.exits) := by
  subst hs'
  rcases ht.event_cases hplan hmem self with
    ⟨-, heq⟩ | ⟨u, -, -, sp, hres, ⟨hrow, heq⟩ | ⟨-, heq⟩⟩
  · rw [heq, ← ht.processed]
    exact .inl complete_outcome
  · rw [heq]
    exact .inr ⟨⟨u.conflictedFamilyID, (hres _).mpr rfl, hrow⟩, rfl, rfl⟩
  · rw [heq, ← ht.processed]
    exact .inl complete_outcome

section

variable {self : Nat} {plan : List SrcSwapOutUnit} {rows : List SwapOutKey}
  {events pre : List CompleteEvent} {e : CompleteEvent}

theorem afterEvents_concat : afterEvents self plan rows (pre ++ [e]) =
    checkAndSendCompleteSPExitTx self (afterEvents self plan rows pre) e := by
  simp [afterEvents]

theorem exists_of_resolves {id : Nat} (h : resolves plan id e) :
    ∃ u ∈ plan, u.key = e.key ∧ u.isConflicted ∧ u.conflictedFamilyID = id := by
  simpa using (Bool.and_eq_true_iff.mp h).1

section
variable (honce : EachOnce self plan rows events)
include honce

theorem EachOnce.key_mem (hpre : pre ++ [e] <+: events) :
    e.key ∈ (afterEvents self plan rows pre).swapOutUnitMap.map (·.key) := by
  obtain ⟨_, rfl⟩ := hpre
  simpa using honce.sent pre.length (by simp)

theorem EachOnce.nil_iff : [] = events ↔ plan = [] := by
  cases plan with
  | nil =>
    refine iff_of_true ?_ rfl
    cases events with
    | nil => rfl
    | cons => exact absurd (honce.sent 0 (Nat.succ_pos _)) not_mem_nil
  | cons u us =>
    refine iff_of_false (fun h => ?_) (cons_ne_nil u us)
    subst h
    exact absurd (honce.all u.key (.head _)) not_mem_nil

variable (hplan : Planned plan)
include hplan

namespace EachOnce

theorem tracks (hpre : pre <+: events) : Tracks plan rows pre (afterEvents self plan rows pre) := by
  induction pre using List.reverseRecOn with
  | nil => exact .start
  | append_singleton pre e ih =>
    rw [afterEvents_concat]
    exact (ih ((prefix_append pre [e]).trans hpre)).step hplan (honce.key_mem hpre) self

/-- A swap-out of the plan that is never recorded keeps the exit from being completed. -/
theorem exits_of_missing (hu : u ∈ plan)
    (hmissing : ∀ pre, pre <+: events → u.key ∉ (afterEvents self plan rows pre).completedSwapOut)
    (hpre : pre <+: events) : (afterEvents self plan rows pre).exits = [] := by
  induction pre using List.reverseRecOn with
  | nil => exact if_neg (ne_nil_of_mem hu)
  | append_singleton pre e ih =>
    have hpre' := (prefix_append pre [e]).trans hpre
    have hnot : ¬ (afterEvents self plan rows (pre ++ [e])).allCompleted := by
      intro hall
      obtain ⟨_, hmap, -⟩ := (honce.tracks hplan hpre).units
      refine hmissing _ hpre (allCompleted_iff.mp hall u ?_).1
      rw [hmap]
      exact mem_append_left _ hu
    rcases (honce.tracks hplan hpre').event_outcome hplan (honce.key_mem hpre) afterEvents_concat with
      ⟨-, hexits⟩ | ⟨-, -, hexits⟩
    · rw [hexits, if_neg hnot]
      exact ih hpre'
    · rw [hexits]
      exact ih hpre'

theorem not_stored (hexit : (afterEvents self plan rows events).exits = [events.length]) {id : Nat}
    (he : e ∈ events) (hres : resolves plan id e) : .family id ∉ rows := by
  intro hrow
  obtain ⟨_, hu, hkey, -⟩ := exists_of_resolves hres
  have hnil := honce.exits_of_missing hplan hu (fun pre hpre hmem => ?_) (prefix_refl events)
  · rw [hnil] at hexit
    cases hexit
  -- the event with this key is the one whose family swap-out had a row
  obtain ⟨e', he', hkey', hnot⟩ := (honce.tracks hplan hpre).recorded _ hmem
  have hee : e' = e := inj_on_of_nodup_map honce.once (hpre.subset he') he (hkey'.trans hkey)
  exact hnot id (hee ▸ hres) hrow

/-- Before the last event, the next one is of a swap-out that is not completed. -/
theorem not_allCompleted (hpre : pre <+: events) (hne : pre ≠ events) :
    ¬ (afterEvents self plan rows pre).allCompleted := by
  intro hall
  obtain ⟨rest, rfl⟩ := hpre
  cases rest with
  | nil => exact hne (append_nil pre).symm
  | cons e rest =>
    have hnext : pre ++ [e] <+: pre ++ e :: rest := ⟨rest, by simp⟩
    obtain ⟨u, hu, hkey⟩ := mem_map.mp (honce.key_mem hnext)
    obtain ⟨_, he', hkey', -⟩ :=
      (honce.tracks hplan (prefix_append pre _)).recorded _ (allCompleted_iff.mp hall u hu).1
    have honce := honce.once
    rw [map_append, map_cons, nodup_append] at honce
    exact honce.2.2 _ (mem_map_of_mem he') _ (.head _) (hkey'.trans hkey)

/-- After the last event everything is completed, if each event was recorded and each conflict has
been resolved. -/
theorem allCompleted
    (hcount : ∀ u ∈ plan, u.isConflicted → events.countP (resolves plan u.conflictedFamilyID) = 1)
    (hall : ∀ e ∈ events, e.key ∈ (afterEvents self plan rows events).completedSwapOut) :
    (afterEvents self plan rows events).allCompleted := by
  have ht := honce.tracks hplan (prefix_refl events)
  have hkeys : ∀ k ∈ (afterEvents self plan rows events).swapOutUnitMap.map (·.key),
      k ∈ (afterEvents self plan rows events).completedSwapOut := by
    intro k hk
    obtain ⟨e, he, rfl⟩ := mem_map.mp (honce.all k hk)
    exact hall e he
  refine allCompleted_iff.mpr fun u hu => ⟨hkeys _ (mem_map_of_mem hu), fun hconf => ?_⟩
  obtain ⟨added, hmap, hadded⟩ := ht.units
  have hplanned : u ∈ plan := by
    rw [hmap] at hu
    refine (mem_append.mp hu).resolve_right fun hu => ?_
    rw [(hadded u hu).1] at hconf
    cases hconf
  refine hkeys _ (ht.added _ (count_pos_iff.mp ?_))
  rw [ht.count, hcount u hplanned hconf]
  exact Nat.one_pos

/-- Each event is recorded, and the last one completes the exit. -/
theorem exits
    (hcond : ∀ u ∈ plan, u.isConflicted → .family u.conflictedFamilyID ∉ rows ∧
      events.countP (resolves plan u.conflictedFamilyID) = 1) (hpre : pre <+: events) :
    (∀ e ∈ pre, e.key ∈ (afterEvents self plan rows pre).completedSwapOut) ∧
    (afterEvents self plan rows pre).exits = if pre = events then [events.length] else [] := by
  induction pre using List.reverseRecOn with
  | nil =>
    refine ⟨fun e he => absurd he not_mem_nil, ?_⟩
    by_cases hnil : plan = []
    · rw [if_pos (honce.nil_iff.mpr hnil), ← honce.nil_iff.mpr hnil]
      exact if_pos hnil
    · rw [if_neg (mt honce.nil_iff.mp hnil)]
      exact if_neg hnil
  | append_singleton pre e ih =>
    have hpre' := (prefix_append pre [e]).trans hpre
    have hne : pre ≠ events := by
      rintro rfl
      simpa using hpre.length_le
    have ht := honce.tracks hplan hpre'
    obtain ⟨hrecorded, hexits⟩ := ih hpre'
    rw [if_neg hne] at hexits
    rcases ht.event_outcome hplan (honce.key_mem hpre) afterEvents_concat with
      ⟨hcompleted, hexits'⟩ | ⟨⟨id, hres, hrow⟩, -, -⟩
    · have hall : ∀ e' ∈ pre ++ [e],
          e'.key ∈ (afterEvents self plan rows (pre ++ [e])).completedSwapOut := by
        intro e' he'
        rw [hcompleted]
        rcases mem_append.mp he' with he' | he'
        · exact mem_append_left _ (hrecorded e' he')
        · rw [mem_singleton.mp he']
          exact mem_append_right _ (mem_singleton_self _)
      refine ⟨hall, ?_⟩
      rw [hexits', hexits]
      by_cases hlast : pre ++ [e] = events
      · subst hlast
        rw [if_pos rfl, if_pos (honce.allCompleted hplan (fun u hu hconf => (hcond u hu hconf).2) hall)]
        simp
      · rw [if_neg hlast, if_neg (honce.not_allCompleted hplan hpre hlast)]
    · -- a family swap-out that has a row was sent before, with another event
      obtain ⟨u, hu, -, hconf, rfl⟩ := exists_of_resolves hres
      obtain ⟨hnot, hcount⟩ := hcond u hu hconf
      refine absurd ((ht.stored _).mp hrow) ?_
      rintro (hrow | ⟨id, hid, heq⟩)
      · exact hnot hrow
      cases heq
      have hbefore := count_pos_iff.mpr hid
      rw [ht.count] at hbefore
      have hle : (pre ++ [e]).countP (resolves plan u.conflictedFamilyID) ≤ _ :=
        hpre.sublist.countP_le
      rw [countP_append, countP_singleton, if_pos hres, hcount] at hle
      omega

end EachOnce

end

/-- An exit whose swap-outs are each completed once is completed once, with the last of them, and
sends one swap-out for each family with a conflict, exactly if for each of these families no row of
a family swap-out exists yet and a successor can be picked with exactly one of the events of the
swap-outs for its conflict. -/
theorem exit_completed_once {c : ChainState} {healthy : Nat → Bool} {a : Answers}
    {before : List SwapOutKey} (hwf : c.WellFormed)
    (hproduced : (produceSwapOutPlan c self healthy a).units = some plan)
    (hstored : storeToDB a.buildMetaByDB before plan = some rows)
    (honce : EachOnce self plan rows events) : ExitsOnce self plan rows events ↔
      ∀ u ∈ plan, u.isConflicted → .family u.conflictedFamilyID ∉ before ∧
        events.countP (resolves plan u.conflictedFamilyID) = 1 := by
  have hplan := produceSwapOutPlan_planned hwf hproduced
  have hrows : ∀ u ∈ plan, u.isConflicted →
      (.family u.conflictedFamilyID ∈ rows ↔ .family u.conflictedFamilyID ∈ before) :=
    fun u hu hconf => (mem_storeToDB hstored).trans (or_iff_left (hplan.conflicted u hu hconf))
  have hcount := (honce.tracks hplan (prefix_refl events)).count
  constructor
  · intro hexits u hu hconf
    have hone : events.countP (resolves plan u.conflictedFamilyID) = 1 :=
      (hcount _).symm.trans (hexits.family u hu hconf)
    obtain ⟨_, he, hres⟩ := countP_pos_iff.mp (hone ▸ Nat.one_pos)
    refine ⟨fun hmem => ?_, hone⟩
    exact honce.not_stored hplan hexits.exit he hres ((hrows u hu hconf).mpr hmem)
  · intro hcond
    refine ⟨fun u hu hconf => (hcount _).trans (hcond u hu hconf).2, ?_⟩
    have hcond' := fun u hu hconf => (hcond u hu hconf).imp_left (mt (hrows u hu hconf).mp)
    have hlast := (honce.exits hplan hcond' (prefix_refl events)).2
    rwa [if_pos rfl] at hlast

end

def conflictUnitOf (gvgId : Nat) : SrcSwapOutUnit :=
  { isConflicted := true, conflictedFamilyID := 1, swapOut := ⟨⟨1, 0, [gvgId]⟩, 8⟩ }

/-- The completion of a conflict swap-out when SP 7 has left the GVGs of the family. -/
def resolvedEvent (familyGVGs : List Nat) (gvgId : Nat) : CompleteEvent where
  key := .gvgList [gvgId]
  familyGVGs := familyGVGs.map fun id => ⟨id, 1, [2, 3, 4, 5, 6, 8]⟩
  available := [2, 3, 4, 5, 6, 7, 8]

theorem exit_completed_once_sample :
    ExitsOnce 1 [conflictUnitOf 1] [.gvgList [1]] [resolvedEvent [1, 2] 1, { key := .family 1 }] := by
  have hwf : conflictingFamily.WellFormed := by decide
  have hproduced :
      (produceSwapOutPlan conflictingFamily 1 (fun _ => true) (inFamilyOrder conflictingFamily)).units =
        some [conflictUnitOf 1] := by decide
  have hstored : storeToDB (inFamilyOrder conflictingFamily).buildMetaByDB [] [conflictUnitOf 1] =
      some [.gvgList [1]] := by decide
  have honce : EachOnce 1 [conflictUnitOf 1] [.gvgList [1]]
      [resolvedEvent [1, 2] 1, { key := .family 1 }] :=
    ⟨by decide, by decide, by decide⟩
  exact (exit_completed_once hwf hproduced hstored honce).mpr (by decide)

/-- Two conflict swap-outs take SP 7 out of GVGs 1 and 3. -/
def twoConflicts : ChainState :=
  ⟨[⟨1, 1, [⟨1, 1, [2, 3, 4, 5, 6, 7]⟩, ⟨2, 1, [2, 3, 4, 5, 6, 8]⟩, ⟨3, 1, [2, 3, 4, 5, 6, 7]⟩,
    ⟨4, 1, [2, 3, 4, 5, 6, 8]⟩]⟩], eightSPs⟩

/-- Both conflict swap-outs are completed before the first event is processed: the family
swap-out is sent with each of them, the second event is not recorded and the exit is not
completed. -/
theorem family_swap_out_sent_twice : twoConflicts.WellFormed ∧
    (produceSwapOutPlan twoConflicts 1 (fun _ => true) (inFamilyOrder twoConflicts)).units =
      some [conflictUnitOf 1, conflictUnitOf 3] ∧
    storeToDB (inFamilyOrder twoConflicts).buildMetaByDB [] [conflictUnitOf 1, conflictUnitOf 3] =
      some [.gvgList [1], .gvgList [3]] ∧
    EachOnce 1 [conflictUnitOf 1, conflictUnitOf 3] [.gvgList [1], .gvgList [3]]
      [resolvedEvent [1, 2, 3, 4] 1, resolvedEvent [1, 2, 3, 4] 3, { key := .family 1 }] ∧
    (afterEvents 1 [conflictUnitOf 1, conflictUnitOf 3] [.gvgList [1], .gvgList [3]]
      [resolvedEvent [1, 2, 3, 4] 1, resolvedEvent [1, 2, 3, 4] 3, { key := .family 1 }]).familySwapOuts = [1, 1] ∧
    (afterEvents 1 [conflictUnitOf 1, conflictUnitOf 3] [.gvgList [1], .gvgList [3]]
      [resolvedEvent [1, 2, 3, 4] 1, resolvedEvent [1, 2, 3, 4] 3, { key := .family 1 }]).exits = [] ∧
    ¬ ExitsOnce 1 [conflictUnitOf 1, conflictUnitOf 3] [.gvgList [1], .gvgList [3]]
      [resolvedEvent [1, 2, 3, 4] 1, resolvedEvent [1, 2, 3, 4] 3, { key := .family 1 }] := by
  refine ⟨by decide, by decide, by decide, ⟨by decide, by decide, by decide⟩, by decide, by decide,
    fun h => ?_⟩
  have hexit := h.exit
  revert hexit
  decide

end Manager.SwapOutPlan

-- SUMMARY: When a swap-out is completed, over runs of the destination SP.
import MocaSP.Base.Except
import MocaSP.Base.Run
import MocaSP.Manager.SwapOut

/-!
# Completing a swap-out

Swap-outs are added while executors report: `AddSwapOutToTaskRunner` adds one unit
after the other and the swap-out last, and a report may come in between. A run also
restarts the SP, and any call to the store or the chain may fail.

The completion check compares a set of completed GVGs with the GVGs listed in the
message. It never takes the swap-out for a family's, since the flag that would say
so is set on the source side only; it records nothing for a swap-out that was not
added yet; and a restart rebuilds no unit. Where these do not matter, the set in
memory is exact: what it has was reported, and what was reported it has.
-/

namespace Manager
open List SwapOutUnit Runner Dest

/-! ## Runs -/

/-- A call of AddSwapOutToTaskRunner on its way. -/
structure Registration where
  msg : MsgSwapOut
  todo : List ExecuteUnit

/-- The destination SP with its calls on the way and its history. -/
structure Sys where
  dest : Dest := {}
  registering : List Registration := []
  requested : List MsgSwapOut := []
  registered : List MsgSwapOut := []
  reported : List MigrateKey := []
  /-- Every call to the store and the chain went through so far. -/
  allOk : Bool := true

inductive Act where
  /-- AddSwapOutToTaskRunner is called and asks the chain. -/
  | request (m : MsgSwapOut) (answered : Bool)
  /-- A call on its way adds its next unit. -/
  | addUnit (i : Nat) (inserts : Bool)
  | addSwapOut (i : Nat) (inserts : Bool)
  | progress (k : MigrateKey) (last : Nat) (calls : Dest.Calls)
  /-- The unit of a key is reported migrated. -/
  | report (k : MigrateKey) (calls : Dest.Calls)
  /-- The SP restarts; `view` is what the chain answers if it does not answer everything. -/
  | restart (view : Option Chain) (listed : Bool)

variable (chain : Chain) (m : MsgSwapOut)

/-- The keys of the units of a swap-out. -/
def coverKeys : List MigrateKey := ((swapOutUnits chain m).getD []).map (·.key)

def step (s : Sys) : Act → Option Sys
  | .request m answered =>
    match if answered then swapOutUnits chain m else none with
    | none => some { s with allOk := false }
    | some units => some { s with
        dest := s.dest.completeEmptyFamily m units
        registering := s.registering ++ [⟨m, units⟩]
        requested := s.requested ++ [m] }
  | .addUnit i inserts =>
    match s.registering[i]? with
    | some ⟨m, u :: todo⟩ =>
      let (ok, dest) := s.dest.addNewMigrateGVGUnit u inserts
      some { s with
        dest
        registering := if ok then s.registering.set i ⟨m, todo⟩ else s.registering.eraseIdx i
        allOk := s.allOk && ok }
    | _ => none
  | .addSwapOut i inserts =>
    match s.registering[i]? with
    | some ⟨m, []⟩ =>
      let (ok, dest) := s.dest.addNewSwapOut m inserts
      some { s with
        dest
        registering := s.registering.eraseIdx i
        registered := s.registered ++ [m]
        allOk := s.allOk && ok }
    | _ => none
  | .progress k last calls =>
    let (ok, dest) := s.dest.updateMigrateGVGLastMigratedObjectID k last calls
    some { s with dest, allOk := s.allOk && ok }
  | .report k calls =>
    match s.dest.runner.unitAt k with
    | none => some s
    | some _ =>
      let (ok, dest) := s.dest.updateMigrateGVGStatus chain k .migrated calls
      some { s with dest, reported := s.reported ++ [k], allOk := s.allOk && ok }
  | .restart view listed =>
    let (err, runner) := loadFromDB (view.getD chain) s.dest.db listed
    some { s with
      dest := { s.dest with runner }
      registering := []
      allOk := s.allOk && view.isNone && err.isNone }

/-! ## The condition and the property -/

/-- A swap-out is requested under one message, shares no unit with another, is well
formed and covers a GVG, and if it is a family's, exactly one; a unit is reported
once its swap-out was added; and a restart comes when nothing is left to complete. -/
def Plain (s : Sys) : Act → Prop
  | .request m _ => coverKeys chain m ≠ [] ∧
      (m.familyId ≠ 0 → (coverKeys chain m).length = 1 ∧ m.gvgIds = []) ∧
      ∀ m' ∈ s.requested, m' ≠ m →
        makeSwapOutKey m' ≠ makeSwapOutKey m ∧ ∀ k ∈ coverKeys chain m, k ∉ coverKeys chain m'
  | .report k _ => ∀ u ∈ s.dest.runner.unitAt k, (s.dest.runner.swapOutUnitMap u.swapOutKey).isSome
  | .restart _ _ => ∀ m ∈ s.requested, m ∈ s.dest.sent
  | _ => True

instance (chain : Chain) (s : Sys) (a : Act) : Decidable (Plain chain s a) := by
  cases a <;> dsimp only [Plain] <;> infer_instance

/-- A swap-out is completed exactly when all of its GVGs were reported. -/
structure Completed (chain : Chain) (s : Sys) : Prop where
  safe : ∀ m ∈ s.dest.sent, ∀ k ∈ coverKeys chain m, k ∈ s.reported
  live : s.allOk = true → ∀ m ∈ s.registered,
    (∀ k ∈ coverKeys chain m, k ∈ s.reported) → m ∈ s.dest.sent

/-! ## The units of a swap-out -/

variable {k : MigrateKey} {i : Nat}

section
variable {chain : Chain} {m : MsgSwapOut}

theorem swapOutUnits_eq {units : List ExecuteUnit} (h : swapOutUnits chain m = some units) :
    ∃ srcSP gvgs, coveredGVGs chain m = some gvgs ∧ units = gvgs.map (newUnit m srcSP) := by
  obtain ⟨srcSP, -, h⟩ := Option.bind_eq_some_iff.mp h
  obtain ⟨gvgs, hgvgs, h⟩ := Option.bind_eq_some_iff.mp h
  exact ⟨srcSP, gvgs, hgvgs, (Option.some.inj h).symm⟩

theorem coverKeys_eq (h : coverKeys chain m ≠ []) : ∃ srcSP gvgs, coveredGVGs chain m = some gvgs ∧
      coverKeys chain m = gvgs.map fun g => (newUnit m srcSP g).key := by
  unfold coverKeys at h ⊢
  cases hunits : swapOutUnits chain m with
  | none =>
    rw [hunits] at h
    exact absurd rfl h
  | some =>
    obtain ⟨srcSP, gvgs, hgvgs, rfl⟩ := swapOutUnits_eq hunits
    exact ⟨srcSP, gvgs, hgvgs, by simp⟩

theorem coveredGVGs_listed {gvgs : List GVG} (hlisted : m.familyId = 0)
    (h : coveredGVGs chain m = some gvgs) :
    (∀ g ∈ gvgs, ∃ i ∈ m.gvgIds, chain.queryGlobalVirtualGroup i = some g) ∧
      ∀ i ∈ m.gvgIds, ∃ g ∈ gvgs, chain.queryGlobalVirtualGroup i = some g := by
  simp only [coveredGVGs, hlisted, ne_eq, not_true_eq_false, if_false] at h
  have hmap := mapM_eq_some_iff.mp h
  refine ⟨fun g hg => mem_map.mp (hmap ▸ mem_map_of_mem hg), fun i hi => ?_⟩
  have hmem : chain.queryGlobalVirtualGroup i ∈ gvgs.map some := hmap ▸ mem_map_of_mem hi
  obtain ⟨g, hg, heq⟩ := mem_map.mp hmem
  exact ⟨g, hg, heq.symm⟩

theorem coverKeys_listed (hlisted : m.familyId = 0) (hk : k ∈ coverKeys chain m) :
    k.gvgId ∈ m.gvgIds := by
  obtain ⟨_, _, hgvgs, hkeys⟩ := coverKeys_eq (ne_nil_of_mem hk)
  rw [hkeys] at hk
  obtain ⟨g, hg, rfl⟩ := mem_map.mp hk
  obtain ⟨i, hi, hig⟩ := (coveredGVGs_listed hlisted hgvgs).1 g hg
  show g.id ∈ m.gvgIds
  rw [chain.gvg_id i g hig]
  exact hi

theorem listed_coverKeys (hne : coverKeys chain m ≠ []) (hlisted : m.familyId = 0) (hi : i ∈ m.gvgIds) :
    ∃ k ∈ coverKeys chain m, k.gvgId = i := by
  obtain ⟨srcSP, _, hgvgs, hkeys⟩ := coverKeys_eq hne
  obtain ⟨g, hg, hig⟩ := (coveredGVGs_listed hlisted hgvgs).2 i hi
  refine ⟨(newUnit m srcSP g).key, ?_, chain.gvg_id i g hig⟩
  rw [hkeys]
  exact mem_map_of_mem hg

/-- A swap-out has one unit for a GVG. -/
theorem coverKeys_unique (hfamily : m.familyId ≠ 0 → (coverKeys chain m).length = 1) {k' : MigrateKey}
    (hk : k ∈ coverKeys chain m) (hk' : k' ∈ coverKeys chain m) (hid : k.gvgId = k'.gvgId) : k = k' := by
  by_cases hlisted : m.familyId = 0
  · obtain ⟨_, _, hgvgs, hkeys⟩ := coverKeys_eq (ne_nil_of_mem hk)
    rw [hkeys] at hk hk'
    obtain ⟨g, hg, rfl⟩ := mem_map.mp hk
    obtain ⟨g', hg', rfl⟩ := mem_map.mp hk'
    obtain ⟨i, -, hig⟩ := (coveredGVGs_listed hlisted hgvgs).1 g hg
    obtain ⟨i', -, hig'⟩ := (coveredGVGs_listed hlisted hgvgs).1 g' hg'
    obtain rfl : i = i' := by
      rw [← chain.gvg_id i g hig, ← chain.gvg_id i' g' hig']
      exact hid
    rw [Option.some.inj (hig.symm.trans hig')]
  · obtain ⟨_, hx⟩ := length_eq_one_iff.mp (hfamily hlisted)
    rw [hx, mem_singleton] at hk hk'
    rw [hk, hk']

end

/-! ## The invariant -/

/-- The unit of GVG `i` in the swap-out was reported. -/
def Done (chain : Chain) (reported : List MigrateKey) (m : MsgSwapOut) (i : Nat) : Prop :=
  ∀ k ∈ coverKeys chain m, k.gvgId = i → k ∈ reported

/-- The requests made so far are apart from each other. -/
structure Apart (chain : Chain) (requested : List MsgSwapOut) : Prop where
  covers : ∀ m ∈ requested, coverKeys chain m ≠ []
  family : ∀ m ∈ requested, m.familyId ≠ 0 → (coverKeys chain m).length = 1 ∧ m.gvgIds = []
  key : ∀ m ∈ requested, ∀ m' ∈ requested, makeSwapOutKey m = makeSwapOutKey m' → m = m'
  unit : ∀ m ∈ requested, ∀ m' ∈ requested, ∀ k ∈ coverKeys chain m, k ∈ coverKeys chain m' → m = m'

/-- What the runner's units are. -/
structure Units (chain : Chain) (requested : List MsgSwapOut) (r : Runner) : Prop where
  index : ∀ k i, r.keyIndexMap k = some i → ∃ u, r.gvgUnits[i]? = some u ∧ u.key = k
  /-- A unit belongs to a swap-out that was requested, unless it was rebuilt. -/
  owner : ∀ u ∈ r.gvgUnits, u.swapOutKey = .empty ∨
    ∃ m ∈ requested, makeSwapOutKey m = u.swapOutKey ∧ u.key ∈ coverKeys chain m

section
variable (chain : Chain) (registered : List MsgSwapOut) (reported : List MigrateKey)

/-- What is kept under a key is about a swap-out that was added and GVGs that were reported. -/
structure Entry (key : SwapOutKey) (m : MsgSwapOut) (completed : List Nat) : Prop where
  registered : m ∈ registered
  key : makeSwapOutKey m = key
  done : ∀ i ∈ completed, Done chain reported m i

/-- What was reported of a swap-out that is not complete is in its set; nothing was reported of one
that is not added. -/
def Pending (m : MsgSwapOut) : Option SwapOutUnit → Prop
  | some su => ∀ k ∈ coverKeys chain m, k ∈ reported → k.gvgId ∈ su.completedGVG
  | none => m ∉ registered ∧ ∀ k ∈ coverKeys chain m, k ∉ reported

end

/-- What the runner's swap-outs are. -/
structure SwapOuts (chain : Chain) (s : Sys) (map : SwapOutKey → Option SwapOutUnit) : Prop where
  entry : ∀ key su, map key = some su → su.isFamily = false ∧
    Entry chain s.registered s.reported key su.swapOut su.completedGVG
  pending : ∀ m ∈ s.requested, m ∉ s.dest.sent →
    Pending chain s.registered s.reported m (map (makeSwapOutKey m))

/-- The units that a call has yet to add are those of its swap-out. -/
abbrev Registration.Owns (requested : List MsgSwapOut) (reg : Registration) : Prop :=
  reg.msg ∈ requested ∧
    ∀ u ∈ reg.todo, u.swapOutKey = makeSwapOutKey reg.msg ∧ u.key ∈ coverKeys chain reg.msg

structure Track (chain : Chain) (s : Sys) : Prop where
  apart : Apart chain s.requested
  todo : ∀ reg ∈ s.registering, reg.Owns chain s.requested
  registered : ∀ m ∈ s.registered, m ∈ s.requested
  units : Units chain s.requested s.dest.runner
  swapOuts : SwapOuts chain s s.dest.runner.swapOutUnitMap
  rows : ∀ row ∈ s.dest.db.swapOuts,
    Entry chain s.registered s.reported row.swapOutKey row.swapOutMsg row.completedGVGs
  reported : ∀ k ∈ s.reported, ∃ m ∈ s.requested, k ∈ coverKeys chain m
  completed : Completed chain s

variable {last : Nat} {d : Dest}

section
variable {chain : Chain} {s : Sys} {db : Db}

@[simp] theorem Db.insertMigrateGVGUnit_swapOuts {row : MigrateRow} :
    (db.insertMigrateGVGUnit k row).swapOuts = db.swapOuts := by
  unfold Db.insertMigrateGVGUnit
  split <;> rfl

@[simp] theorem Db.updateMigrateGVGUnitStatus_swapOuts {st : MigrateStatus} :
    (db.updateMigrateGVGUnitStatus k st).swapOuts = db.swapOuts := by
  unfold Db.updateMigrateGVGUnitStatus
  split
  · rfl
  · split <;> rfl

@[simp] theorem Db.updateLast_swapOuts :
    (db.updateMigrateGVGUnitLastMigrateObjectID k last).swapOuts = db.swapOuts := by
  unfold Db.updateMigrateGVGUnitLastMigrateObjectID
  split
  · rfl
  · split <;> rfl

theorem makeSwapOutKey_ne_empty : makeSwapOutKey m ≠ .empty := by
  unfold makeSwapOutKey
  split <;> nofun

/-! ### Units -/

variable {requested : List MsgSwapOut} {r : Runner} {u : ExecuteUnit} {m : MsgSwapOut} {s' : Sys} {d' : Dest}
  {ok : Bool} {calls : Dest.Calls} {su : SwapOutUnit}

section
variable (h : Units chain requested r)
include h

theorem Units.append
    (hu : u.swapOutKey = .empty ∨ ∃ m ∈ requested, makeSwapOutKey m = u.swapOutKey ∧ u.key ∈ coverKeys chain m) :
    Units chain requested (r.appendUnit u) where
  index := by
    intro k i hi
    simp only [appendUnit] at hi ⊢
    split at hi
    next hk =>
      cases hi
      exact ⟨u, by simp, hk.symm⟩
    · obtain ⟨v, hv, hkey⟩ := h.index k i hi
      obtain ⟨hlt, -⟩ := List.getElem?_eq_some_iff.mp hv
      exact ⟨v, by rw [List.getElem?_append_left hlt]; exact hv, hkey⟩
  owner := by
    intro v hv
    rcases mem_append.mp hv with hv | hv
    · exact h.owner v hv
    · cases mem_singleton.mp hv
      exact hu

theorem Units.modify (k : MigrateKey) {f : ExecuteUnit → ExecuteUnit}
    (hf : ∀ u, (f u).key = u.key ∧ (f u).swapOutKey = u.swapOutKey) :
    Units chain requested (r.modifyUnit k f) := by
  unfold modifyUnit
  split
  · exact h
  constructor
  · intro k' i hi
    obtain ⟨v, hv, hkey⟩ := h.index k' i hi
    simp only [List.getElem?_modify, hv]
    split
    · exact ⟨f v, rfl, (hf v).1.trans hkey⟩
    · exact ⟨v, rfl, hkey⟩
  · intro _ hu
    obtain ⟨i, hi⟩ := mem_iff_getElem?.mp hu
    simp only [List.getElem?_modify] at hi
    obtain ⟨v, hv, hfv⟩ := Option.map_eq_some_iff.mp hi
    have howner := h.owner v (mem_iff_getElem?.mpr ⟨i, hv⟩)
    split at hfv
    · rw [← hfv, (hf v).1, (hf v).2]
      exact howner
    · exact hfv ▸ howner

theorem Units.setSwapOut (k : SwapOutKey) (su : SwapOutUnit) :
    Units chain requested (r.setSwapOut k su) :=
  ⟨h.index, h.owner⟩

theorem Units.unitAt (hu : r.unitAt k = some u) : u ∈ r.gvgUnits ∧ u.key = k := by
  obtain ⟨i, hi, hui⟩ := Option.bind_eq_some_iff.mp hu
  obtain ⟨_, hv, hkey⟩ := h.index k i hi
  cases hui.symm.trans hv
  exact ⟨mem_iff_getElem?.mpr ⟨i, hv⟩, hkey⟩

end

/-! ### Requests and units -/

section
variable {registered registered' : List MsgSwapOut} {reported reported' : List MigrateKey}

theorem Entry.mono {key : SwapOutKey} {completed : List Nat}
    (h : Entry chain registered reported key m completed) (hreg : m ∈ registered → m ∈ registered')
    (hrep : ∀ k ∈ reported, k ∈ reported') : Entry chain registered' reported' key m completed :=
  ⟨hreg h.registered, h.key, fun i hi k hk hki => hrep k (h.done i hi k hk hki)⟩

theorem Pending.mono {o : Option SwapOutUnit} (h : Pending chain registered reported m o)
    (hreg : m ∈ registered' → m ∈ registered)
    (hrep : ∀ k ∈ coverKeys chain m, k ∈ reported' → k ∈ reported) :
    Pending chain registered' reported' m o := by
  cases o with
  | none => exact ⟨mt hreg h.1, fun k hk => mt (hrep k hk) (h.2 k hk)⟩
  | some => exact fun k hk hk' => h k hk (hrep k hk hk')

end

theorem Apart.request {answered : Bool} (h : Apart chain s.requested)
    (hplain : Plain chain s (.request m answered)) : Apart chain (s.requested ++ [m]) := by
  obtain ⟨hcovers, hfamily, hapart⟩ := hplain
  have hpair : ∀ x ∈ s.requested ++ [m], ∀ y ∈ s.requested ++ [m], x ≠ y →
      makeSwapOutKey x ≠ makeSwapOutKey y ∧ ∀ k ∈ coverKeys chain x, k ∉ coverKeys chain y := by
    intro x hx y hy hxy
    simp only [mem_append, mem_singleton] at hx hy
    rcases hx with hx | rfl <;> rcases hy with hy | rfl
    · exact ⟨mt (h.key x hx y hy) hxy, fun k hk => mt (h.unit x hx y hy k hk) hxy⟩
    · exact ⟨(hapart x hx hxy).1, fun k hk hk' => (hapart x hx hxy).2 k hk' hk⟩
    · exact ⟨(hapart y hy hxy.symm).1.symm, (hapart y hy hxy.symm).2⟩
    · exact absurd rfl hxy
  exact ⟨forall_mem_append.mpr ⟨h.covers, forall_mem_singleton.mpr hcovers⟩,
    forall_mem_append.mpr ⟨h.family, forall_mem_singleton.mpr hfamily⟩,
    fun x hx y hy hkey => by_contra fun hxy => (hpair x hx y hy hxy).1 hkey,
    fun x hx y hy k hk hk' => by_contra fun hxy => (hpair x hx y hy hxy).2 k hk hk'⟩

/-- The swap-outs stay as they are. -/
structure Dest.Keeps (d d' : Dest) : Prop where
  sent : d'.sent = d.sent
  rows : d'.db.swapOuts = d.db.swapOuts
  map : d'.runner.swapOutUnitMap = d.runner.swapOutUnitMap

/-- Only units, calls on the way and requests changed. -/
theorem Track.frame {dest : Dest} {registering : List Registration} {allOk : Bool} (h : Track chain s)
    (happart : Apart chain requested) (hsub : ∀ m ∈ s.requested, m ∈ requested) (hkeeps : s.dest.Keeps dest)
    (hunits : Units chain requested dest.runner) (htodo : ∀ reg ∈ registering, reg.Owns chain requested)
    (hok : allOk = true → s.allOk = true) :
    Track chain { s with dest, registering, requested, allOk } where
  apart := happart
  todo := htodo
  registered := fun m hm => hsub m (h.registered m hm)
  units := hunits
  swapOuts := by
    rw [hkeeps.map]
    refine ⟨h.swapOuts.entry, fun m hm hopen => ?_⟩
    by_cases hreq : m ∈ s.requested
    · exact h.swapOuts.pending m hreq (hkeeps.sent ▸ hopen)
    -- a swap-out of which a unit was reported, or that has an entry, was requested
    cases hsu : s.dest.runner.swapOutUnitMap (makeSwapOutKey m) with
    | none =>
      refine ⟨mt (h.registered m) hreq, fun k hk hrep => hreq ?_⟩
      obtain ⟨m', hm', hk'⟩ := h.reported k hrep
      rw [happart.unit m hm m' (hsub m' hm') k hk hk']
      exact hm'
    | some su =>
      obtain ⟨-, hentry⟩ := h.swapOuts.entry _ su hsu
      have hold := h.registered _ hentry.registered
      rw [happart.key _ (hsub _ hold) m hm hentry.key] at hold
      exact absurd hold hreq
  rows := by
    intro row hrow
    exact h.rows row (hkeeps.rows ▸ hrow)
  reported := by
    intro k hk
    obtain ⟨m, hm, hkm⟩ := h.reported k hk
    exact ⟨m, hsub m hm, hkm⟩
  completed := by
    refine ⟨?_, ?_⟩
    · intro m hm
      exact h.completed.safe m (hkeeps.sent ▸ hm)
    intro hall m hm hreported
    rw [hkeeps.sent]
    exact h.completed.live (hok hall) m hm hreported

theorem track_request {answered : Bool} (h : Track chain s) (hplain : Plain chain s (.request m answered))
    (hstep : step chain s (.request m answered) = some s') : Track chain s' := by
  simp only [step] at hstep
  split at hstep
  · cases hstep
    exact h.frame h.apart (fun _ => id) ⟨rfl, rfl, rfl⟩ h.units h.todo nofun
  rename_i units hunits
  cases hstep
  have hkeys : coverKeys chain m = units.map (·.key) := by
    cases answered with
    | false => cases hunits
    | true =>
      simp only [if_true] at hunits
      simp [coverKeys, hunits]
  have hne : units ≠ [] := by
    rintro rfl
    exact hplain.1 hkeys
  have hdest : s.dest.completeEmptyFamily m units = s.dest := by simp [completeEmptyFamily, hne]
  rw [hdest]
  have hsub : ∀ x ∈ s.requested, x ∈ s.requested ++ [m] := fun x hx => mem_append_left _ hx
  refine h.frame (h.apart.request hplain) hsub ⟨rfl, rfl, rfl⟩ ⟨h.units.index, ?_⟩ ?_ id
  · intro u hu
    rcases h.units.owner u hu with he | ⟨x, hx, hk⟩
    · exact .inl he
    · exact .inr ⟨x, hsub x hx, hk⟩
  · intro reg hreg
    rcases mem_append.mp hreg with hreg | hreg
    · obtain ⟨hmsg, hu⟩ := h.todo reg hreg
      exact ⟨hsub _ hmsg, hu⟩
    cases mem_singleton.mp hreg
    refine ⟨by simp, ?_⟩
    intro _ hu
    refine ⟨?_, hkeys ▸ mem_map_of_mem hu⟩
    cases answered with
    | false => cases hunits
    | true =>
      obtain ⟨_, _, -, rfl⟩ := swapOutUnits_eq hunits
      obtain ⟨_, -, rfl⟩ := mem_map.mp hu
      rfl

theorem addNewMigrateGVGUnit_spec (inserts : Bool) (h : Units chain requested d.runner)
    (hm : m ∈ requested) (hu : u.swapOutKey = makeSwapOutKey m ∧ u.key ∈ coverKeys chain m) :
    d.Keeps (d.addNewMigrateGVGUnit u inserts).2 ∧
      Units chain requested (d.addNewMigrateGVGUnit u inserts).2.runner := by
  have happend := h.append (.inr ⟨m, hm, hu.1.symm, hu.2⟩)
  unfold addNewMigrateGVGUnit
  split
  · exact ⟨⟨rfl, rfl, rfl⟩, h⟩
  split
  · exact ⟨⟨rfl, by simp, rfl⟩, happend⟩
  · exact ⟨⟨rfl, rfl, rfl⟩, happend⟩

theorem track_addUnit {inserts : Bool} (h : Track chain s)
    (hstep : step chain s (.addUnit i inserts) = some s') :
    Track chain s' := by
  simp only [step] at hstep
  split at hstep
  next m u todo hreg =>
    cases hstep
    obtain ⟨hmsg, htodo⟩ := h.todo _ (mem_iff_getElem?.mpr ⟨i, hreg⟩)
    obtain ⟨hkeeps, hunits⟩ := addNewMigrateGVGUnit_spec inserts h.units hmsg (htodo u (.head _))
    have hall : ∀ ok : Bool, ∀ reg ∈ (if ok then s.registering.set i ⟨m, todo⟩ else s.registering.eraseIdx i),
        reg.Owns chain s.requested := by
      intro _ reg hmem
      split at hmem
      · rcases mem_or_eq_of_mem_set hmem with hmem | rfl
        · exact h.todo reg hmem
        · exact ⟨hmsg, fun v hv => htodo v (.tail _ hv)⟩
      · exact h.todo reg (mem_of_mem_eraseIdx hmem)
    exact h.frame h.apart (fun _ => id) hkeeps hunits (hall _) fun hok =>
      (Bool.and_eq_true _ _ ▸ hok).1
  · cases hstep

@[simp] theorem Runner.modifyUnit_swapOutUnitMap {f : ExecuteUnit → ExecuteUnit} :
    (r.modifyUnit k f).swapOutUnitMap = r.swapOutUnitMap := by
  unfold modifyUnit
  split <;> rfl

theorem updateLast_spec (hunits : Units chain requested d.runner) :
    d.Keeps (d.updateMigrateGVGLastMigratedObjectID k last calls).2 ∧
      Units chain requested (d.updateMigrateGVGLastMigratedObjectID k last calls).2.runner := by
  have hmodify := hunits.modify k (f := fun u => { u with lastMigratedObjectID := last })
    fun _ => ⟨rfl, rfl⟩
  unfold updateMigrateGVGLastMigratedObjectID
  split
  · exact ⟨⟨rfl, rfl, rfl⟩, hunits⟩
  split
  · exact ⟨⟨rfl, by simp, by simp⟩, hmodify⟩
  · exact ⟨⟨rfl, rfl, by simp⟩, hmodify⟩

theorem track_progress (h : Track chain s) (hstep : step chain s (.progress k last calls) = some s') :
    Track chain s' := by
  cases hstep
  obtain ⟨hkeeps, hunits⟩ := updateLast_spec h.units
  exact h.frame h.apart (fun _ => id) hkeeps hunits h.todo fun hok => (Bool.and_eq_true _ _ ▸ hok).1

/-! ### Swap-outs -/

theorem addNewSwapOut_spec (d : Dest) (m : MsgSwapOut) (inserts : Bool)
    (h : d.addNewSwapOut m inserts = (ok, d')) :
    (d.runner.swapOutUnitMap (makeSwapOutKey m)).isSome ∧ d' = d ∨
      d.runner.swapOutUnitMap (makeSwapOutKey m) = none ∧ d'.sent = d.sent ∧
        d'.runner = d.runner.setSwapOut (makeSwapOutKey m) { swapOut := m } ∧
        ∀ row ∈ d'.db.swapOuts, row ∈ d.db.swapOuts ∨ row = ⟨makeSwapOutKey m, true, m, []⟩ := by
  unfold addNewSwapOut at h
  dsimp only at h
  split at h
  next hsome =>
    cases h
    exact .inl ⟨hsome, rfl⟩
  rename_i hnone
  refine .inr ⟨by simpa using hnone, ?_⟩
  split at h
  next hdb =>
    cases h
    refine ⟨rfl, rfl, ?_⟩
    cases inserts with
    | false => cases hdb
    | true =>
      simp only [if_true, Db.insertSwapOutUnit] at hdb
      split at hdb
      · cases hdb
      · cases hdb
        intro _ hrow
        simpa using hrow
  · cases h
    exact ⟨rfl, rfl, fun row hrow => .inl hrow⟩

theorem track_addSwapOut {inserts : Bool} (h : Track chain s)
    (hstep : step chain s (.addSwapOut i inserts) = some s') : Track chain s' := by
  simp only [step] at hstep
  split at hstep
  next m hreg =>
    rcases hcall : s.dest.addNewSwapOut m inserts with ⟨ok, d⟩
    simp only [hcall, Option.some.injEq] at hstep
    subst hstep
    obtain ⟨hreq, -⟩ := h.todo _ (mem_iff_getElem?.mpr ⟨i, hreg⟩)
    have hmem : ∀ x, x ∈ s.registered ++ [m] ↔ x ∈ s.registered ∨ x = m := by simp
    have hregistered : ∀ x ∈ s.registered ++ [m], x ∈ s.requested := by
      intro x hx
      rcases (hmem x).mp hx with hx | rfl
      · exact h.registered x hx
      · exact hreq
    have htodo : ∀ reg ∈ s.registering.eraseIdx i, reg.Owns chain s.requested :=
      fun reg hreg => h.todo reg (mem_of_mem_eraseIdx hreg)
    have hok : (s.allOk && ok) = true → s.allOk = true := fun hb => (Bool.and_eq_true _ _ ▸ hb).1
    have hsub : ∀ x ∈ s.registered, x ∈ s.registered ++ [m] := fun x hx => (hmem x).mpr (.inl hx)
    have hentry : ∀ key su, s.dest.runner.swapOutUnitMap key = some su → su.isFamily = false ∧
        Entry chain (s.registered ++ [m]) s.reported key su.swapOut su.completedGVG := fun key su hsu =>
      ⟨(h.swapOuts.entry key su hsu).1, (h.swapOuts.entry key su hsu).2.mono (hsub _) fun _ => id⟩
    rcases addNewSwapOut_spec s.dest m inserts hcall with ⟨hsome, rfl⟩ | ⟨hnone, hsent, hrunner, hrows⟩
    · -- the swap-out has its entry already
      obtain ⟨su, hsu⟩ := Option.isSome_iff_exists.mp hsome
      obtain ⟨-, hold, hkey, -⟩ := h.swapOuts.entry _ su hsu
      have hmreg : m ∈ s.registered := h.apart.key _ (h.registered _ hold) m hreq hkey ▸ hold
      have hback : ∀ x ∈ s.registered ++ [m], x ∈ s.registered := by
        intro x hx
        rcases (hmem x).mp hx with hx | rfl
        · exact hx
        · exact hmreg
      refine ⟨h.apart, htodo, hregistered, h.units, ⟨hentry, fun x hx hopen => ?_⟩, ?_, h.reported,
        h.completed.safe, fun hall x hx => h.completed.live (hok hall) x (hback x hx)⟩
      · exact (h.swapOuts.pending x hx hopen).mono (hback x) fun _ _ => id
      · exact fun row hrow => (h.rows row hrow).mono (hsub _) fun _ => id
    · have hmap : ∀ key, d.runner.swapOutUnitMap key =
          if key = makeSwapOutKey m then some { swapOut := m } else s.dest.runner.swapOutUnitMap key := by
        intro _
        rw [hrunner]
        rfl
      refine ⟨h.apart, htodo, hregistered, ?_, ⟨?_, ?_⟩, ?_, h.reported, ?_, ?_⟩
      · show Units chain s.requested d.runner
        rw [hrunner]
        exact h.units.setSwapOut _ _
      · intro key su hsu
        rw [hmap] at hsu
        split at hsu
        next hkey =>
          cases hsu
          exact ⟨rfl, (hmem _).mpr (.inr rfl), hkey.symm, nofun⟩
        · exact hentry key su hsu
      · intro x hx hopen
        have hold := h.swapOuts.pending x hx (hsent ▸ hopen)
        rw [hmap]
        split
        next hkey =>
          rw [hkey, hnone] at hold
          exact fun k hk hrep => absurd hrep (hold.2 k hk)
        rename_i hkey
        refine hold.mono (fun hx => ((hmem x).mp hx).resolve_right ?_) fun _ _ => id
        rintro rfl
        exact hkey rfl
      · intro row hrow
        rcases hrows row hrow with hrow | rfl
        · exact (h.rows row hrow).mono (hsub _) fun _ => id
        · exact ⟨(hmem _).mpr (.inr rfl), rfl, nofun⟩
      · intro x hx
        exact h.completed.safe x (hsent ▸ hx)
      · intro hall x hx hreported
        rw [hsent]
        rcases (hmem x).mp hx with hx | rfl
        · exact h.completed.live (hok hall) x hx hreported
        -- nothing was reported of it, and it has a unit
        by_contra hopen
        have hold := h.swapOuts.pending x hreq hopen
        rw [hnone] at hold
        obtain ⟨k, hk⟩ := exists_mem_of_ne_nil _ (h.apart.covers x hreq)
        exact hold.2 k hk (hreported k hk)
  · cases hstep

/-! ### Reports -/

theorem SwapOutUnit.mem_completedWith {j : Nat} :
    j ∈ su.completedWith i ↔ j ∈ su.completedGVG ∨ j = i := by
  unfold completedWith
  split
  next hi =>
    constructor
    · exact .inl
    · rintro (hj | rfl)
      · exact hj
      · exact hi
  · simp

/-- What a report on a unit does when the swap-out of the unit has its entry. -/
structure Reported (d d' : Dest) (ok : Bool) (u : ExecuteUnit) (su : SwapOutUnit) : Prop where
  map : ∀ key, d'.runner.swapOutUnitMap key =
    if key = u.swapOutKey then some { su with completedGVG := su.completedWith u.srcGVG.id }
    else d.runner.swapOutUnitMap key
  rows : ∀ row ∈ d'.db.swapOuts, row ∈ d.db.swapOuts ∨
    ∃ old ∈ d.db.swapOuts, old.swapOutKey = u.swapOutKey ∧
      row = { old with completedGVGs := su.completedWith u.srcGVG.id }
  kept : ∀ m ∈ d.sent, m ∈ d'.sent
  sent : ∀ m ∈ d'.sent, m ∈ d.sent ∨
    m = su.swapOut ∧ ∀ i ∈ su.swapOut.gvgIds, i ∈ su.completedWith u.srcGVG.id
  sends : ok = true → (∀ i ∈ su.swapOut.gvgIds, i ∈ su.completedWith u.srcGVG.id) →
    su.swapOut ∈ d'.sent

theorem Db.mem_updateCompleted {db : Db} {k : SwapOutKey} {ids : List Nat} {row : SwapOutRow}
    (h : row ∈ (db.updateSwapOutUnitCompletedGVGList k ids).swapOuts) :
    row ∈ db.swapOuts ∨ ∃ old ∈ db.swapOuts, old.swapOutKey = k ∧
      row = { old with completedGVGs := ids } := by
  obtain ⟨old, hold, heq⟩ := mem_map.mp h
  split at heq
  next hk => exact .inr ⟨old, hold, hk.1, heq.symm⟩
  · exact .inl (heq ▸ hold)

theorem checkAndSend_spec (hfamily : su.isFamily = false)
    (h : d.checkAndSendCompleteSwapOutTx chain u su calls = (ok, d')) :
    Reported d d' ok u su ∧ d'.runner = d.runner.setSwapOut u.swapOutKey
      { su with completedGVG := su.completedWith u.srcGVG.id } := by
  obtain ⟨_, swapOut, completedGVG⟩ := su
  cases hfamily
  simp only [checkAndSendCompleteSwapOutTx, needCompleted, Bool.false_eq_true, if_false] at h
  split at h
  · cases h
    exact ⟨⟨fun _ => rfl, fun _ => .inl, fun _ => id, fun _ => .inl, nofun⟩, rfl⟩
  split at h
  next hall =>
    rw [all_eq_true] at hall
    have hneed : ∀ i ∈ swapOut.gvgIds, i ∈ completedWith ⟨false, swapOut, completedGVG⟩ u.srcGVG.id :=
      fun i hi => by simpa using hall i hi
    split at h
    · cases h
      refine ⟨⟨fun _ => rfl, fun _ => Db.mem_updateCompleted, ?_, ?_, ?_⟩, rfl⟩
      · exact fun m hm => mem_append_left _ hm
      · intro _ hm
        rcases mem_append.mp hm with hm | hm
        · exact .inl hm
        · exact .inr ⟨mem_singleton.mp hm, hneed⟩
      · exact fun _ _ => mem_append_right _ (.head _)
    · cases h
      exact ⟨⟨fun _ => rfl, fun _ => Db.mem_updateCompleted, fun _ => id, fun _ => .inl, nofun⟩, rfl⟩
  next hall =>
    cases h
    refine ⟨⟨fun _ => rfl, fun _ => Db.mem_updateCompleted, fun _ => id, fun _ => .inl, ?_⟩, rfl⟩
    intro _ hneed
    exact absurd (all_eq_true.mpr fun i hi => by simpa using hneed i hi) hall

theorem updateMigrateGVGStatus_spec (hunits : Units chain requested d.runner)
    (hunit : d.runner.unitAt k = some u)
    (hsu : d.runner.swapOutUnitMap u.swapOutKey = some su) (hfamily : su.isFamily = false)
    (h : d.updateMigrateGVGStatus chain k .migrated calls = (ok, d')) :
    Reported d d' ok u su ∧ Units chain requested d'.runner := by
  have hset := (hunits.modify k (f := fun v => { v with migrateStatus := .migrated })
    fun v => ⟨rfl, rfl⟩).setSwapOut u.swapOutKey { su with completedGVG := su.completedWith u.srcGVG.id }
  simp only [updateMigrateGVGStatus, hunit, modifyUnit_swapOutUnitMap, hsu] at h
  split at h
  next hcheck =>
    cases h
    obtain ⟨⟨hmap, hrows, hkept, hsent, hsends⟩, hrunner⟩ := checkAndSend_spec hfamily hcheck
    refine ⟨⟨?_, hrows, hkept, hsent, hsends⟩, hrunner ▸ hset⟩
    simpa using hmap
  next hcheck =>
    obtain ⟨⟨hmap, hrows, hkept, hsent, hsends⟩, hrunner⟩ := checkAndSend_spec hfamily hcheck
    split at h
    · cases h
      refine ⟨⟨?_, ?_, hkept, hsent, hsends⟩, hrunner ▸ hset⟩
      · simpa using hmap
      · simpa using hrows
    · cases h
      refine ⟨⟨?_, hrows, hkept, hsent, nofun⟩, hrunner ▸ hset⟩
      simpa using hmap

/-- The unit of a report belongs to the swap-out whose entry it finds. -/
theorem Track.owner (h : Track chain s) (hunit : s.dest.runner.unitAt k = some u)
    (hsu : s.dest.runner.swapOutUnitMap u.swapOutKey = some su) :
    su.swapOut ∈ s.registered ∧ makeSwapOutKey su.swapOut = u.swapOutKey ∧
      k ∈ coverKeys chain su.swapOut ∧ k.gvgId = u.srcGVG.id := by
  obtain ⟨-, hreg, hkey, -⟩ := h.swapOuts.entry _ su hsu
  obtain ⟨hmem, rfl⟩ := h.units.unitAt hunit
  refine ⟨hreg, hkey, ?_, rfl⟩
  rcases h.units.owner u hmem with hempty | ⟨m, hm, hmkey, hcover⟩
  · exact absurd (hkey.trans hempty) (makeSwapOutKey_ne_empty _)
  · rw [h.apart.key _ (h.registered _ hreg) m hm (hkey.trans hmkey.symm)]
    exact hcover

theorem track_report (h : Track chain s) (hplain : Plain chain s (.report k calls))
    (hstep : step chain s (.report k calls) = some s') : Track chain s' := by
  simp only [step] at hstep
  split at hstep
  · cases hstep
    exact h
  rename_i u hunit
  obtain ⟨su, hsu⟩ := Option.isSome_iff_exists.mp (hplain u hunit)
  obtain ⟨hreg, hkey, hk, hid⟩ := h.owner hunit hsu
  obtain ⟨hfamily, -, -, hdone⟩ := h.swapOuts.entry _ su hsu
  have hreq := h.registered _ hreg
  rcases hcall : s.dest.updateMigrateGVGStatus chain k .migrated calls with ⟨_, d⟩
  simp only [hcall, Option.some.injEq] at hstep
  subst hstep
  obtain ⟨hr, hunits⟩ := updateMigrateGVGStatus_spec h.units hunit hsu hfamily hcall
  have hmem : ∀ x, x ∈ s.reported ++ [k] ↔ x ∈ s.reported ∨ x = k := by simp
  have hold : ∀ x ∈ s.reported, x ∈ s.reported ++ [k] := fun x hx => (hmem x).mpr (.inl hx)
  have hopen : ∀ m, m ∉ d.sent → m ∉ s.dest.sent := fun m hm hsent => hm (hr.kept m hsent)
  -- the set of the swap-out stays exact
  have hdone' : ∀ i ∈ su.completedWith u.srcGVG.id, Done chain (s.reported ++ [k]) su.swapOut i := by
    intro i hi
    rcases mem_completedWith.mp hi with hi | rfl
    · exact fun x hx hxi => hold x (hdone i hi x hx hxi)
    · intro x hx hxi
      have := coverKeys_unique (fun hm => (h.apart.family _ hreq hm).1) hx hk (hxi.trans hid.symm)
      exact (hmem x).mpr (.inr this)
  have hexact : su.swapOut ∉ s.dest.sent → ∀ x ∈ coverKeys chain su.swapOut, x ∈ s.reported ++ [k] →
      x.gvgId ∈ su.completedWith u.srcGVG.id := by
    intro hnot x hx hrep
    rw [mem_completedWith]
    rcases (hmem x).mp hrep with hrep | rfl
    · have hold := h.swapOuts.pending _ hreq hnot
      rw [hkey, hsu] at hold
      exact .inl (hold x hx hrep)
    · exact .inr hid
  -- a swap-out that has the reported unit is this one
  have hthis : ∀ m ∈ s.requested, k ∈ coverKeys chain m → m = su.swapOut := fun m hm hkm =>
    h.apart.unit m hm _ hreq k hkm hk
  refine ⟨h.apart, h.todo, h.registered, hunits, ⟨?_, ?_⟩, ?_, ?_, ⟨?_, ?_⟩⟩
  · intro key su' hsu'
    rw [hr.map] at hsu'
    split at hsu'
    next hkey' =>
      cases hsu'
      exact ⟨hfamily, hreg, hkey.trans hkey'.symm, hdone'⟩
    · obtain ⟨hf', hentry⟩ := h.swapOuts.entry key su' hsu'
      exact ⟨hf', hentry.mono id hold⟩
  · intro m hm hnot
    rw [hr.map]
    split
    next hkey' =>
      obtain rfl := h.apart.key m hm _ hreq (hkey'.trans hkey.symm)
      exact hexact (hopen _ hnot)
    rename_i hkey'
    refine (h.swapOuts.pending m hm (hopen m hnot)).mono id fun x hx hrep =>
      ((hmem x).mp hrep).resolve_right ?_
    rintro rfl
    exact hkey' (hthis m hm hx ▸ hkey)
  · intro row hrow
    rcases hr.rows row hrow with hrow | ⟨old, holdRow, hkey', rfl⟩
    · exact (h.rows row hrow).mono id hold
    · obtain ⟨hr', hk', -⟩ := h.rows old holdRow
      have hmsg := h.apart.key _ (h.registered _ hr') _ hreq ((hk'.trans hkey').trans hkey.symm)
      exact ⟨hr', hk', fun i hi => hmsg ▸ hdone' i hi⟩
  · intro x hx
    rcases (hmem x).mp hx with hx | rfl
    · exact h.reported x hx
    · exact ⟨_, hreq, hk⟩
  · intro m hm x hx
    rcases hr.sent m hm with hm | ⟨rfl, hall⟩
    · exact hold x (h.completed.safe m hm x hx)
    by_cases hlisted : su.swapOut.familyId = 0
    · exact hdone' _ (hall _ (coverKeys_listed hlisted hx)) x hx rfl
    · obtain ⟨_, hy⟩ := length_eq_one_iff.mp (h.apart.family _ hreq hlisted).1
      rw [hy, mem_singleton] at hx hk
      exact (hmem x).mpr (.inr (hx.trans hk.symm))
  · intro hall m hm hrep
    obtain ⟨hallOk, hok⟩ := (Bool.and_eq_true _ _).mp hall
    by_cases hsent : m ∈ s.dest.sent
    · exact hr.kept m hsent
    by_cases hm' : m = su.swapOut
    · subst hm'
      refine hr.sends hok fun i hi => ?_
      have hlisted : su.swapOut.familyId = 0 := by
        by_contra hne
        rw [(h.apart.family _ hreq hne).2] at hi
        cases hi
      obtain ⟨x, hx, rfl⟩ := listed_coverKeys (h.apart.covers _ hreq) hlisted hi
      exact hexact hsent x hx (hrep x hx)
    · refine hr.kept m (h.completed.live hallOk m hm fun x hx => ?_)
      rcases (hmem x).mp (hrep x hx) with hx' | rfl
      · exact hx'
      · exact absurd (hthis m (h.registered m hm) hx) hm'

/-! ### Restarts -/

/-- A runner that is being loaded: its units have no swap-out. -/
def Loads (chain : Chain) (r r' : Runner) : Prop :=
  (Units chain [] r → Units chain [] r') ∧ r'.swapOutUnitMap = r.swapOutUnitMap

theorem Loads.refl (r : Runner) : Loads chain r r := ⟨id, rfl⟩

theorem Loads.trans {r₁ r₂ r₃ : Runner} (h : Loads chain r₁ r₂) (h' : Loads chain r₂ r₃) :
    Loads chain r₁ r₃ :=
  ⟨h'.1 ∘ h.1, h'.2.trans h.2⟩

theorem loadUnit_loads {db : Db} {g : GVG} {r' : Runner} (h : loadUnit db k g r = .ok r') : Loads chain r r' := by
  unfold loadUnit at h
  split at h
  · cases h
  rename_i hrow
  cases h
  obtain ⟨_, -, rfl⟩ := Option.map_eq_some_iff.mp hrow
  exact ⟨fun hu => hu.append (.inl rfl), rfl⟩

theorem loadFamily_loads (db : Db) (completed : List Nat) (gs : List GVG) (r : Runner) :
    Loads chain r (loadFamily db completed gs r).2 := by
  induction gs generalizing r with
  | nil => exact .refl r
  | cons _ _ ih =>
    simp only [loadFamily]
    split
    · exact ih r
    split
    · exact .refl r
    next r' hr' => exact (loadUnit_loads hr').trans (ih r')

theorem loadListed_loads (db : Db) (srcSP : Nat) (gs : List GVG) (r : Runner) :
    Loads chain r (loadListed db srcSP gs r).2 := by
  induction gs generalizing r with
  | nil => exact .refl r
  | cons _ _ ih =>
    simp only [loadListed]
    split
    · exact .refl r
    split
    · exact .refl r
    next r' hr' => exact (loadUnit_loads hr').trans (ih r')

theorem loadSwapOut_loads (view : Chain) (db : Db) (srcSP : Option StorageProvider) (row : SwapOutRow)
    (r : Runner) : Loads chain r (loadSwapOut view db srcSP row r).2 := by
  simp only [loadSwapOut]
  split
  · split
    · exact .refl r
    · exact loadFamily_loads _ _ _ _
  · split
    · exact .refl r
    · exact loadListed_loads _ _ _ _

/-- The entries of a runner are those of recorded swap-outs. -/
def FromRows (rows : List SwapOutRow) (r : Runner) : Prop :=
  ∀ key su, r.swapOutUnitMap key = some su → ∃ row ∈ rows, key = row.swapOutKey ∧
    su = { swapOut := row.swapOutMsg, completedGVG := row.completedGVGs }

theorem loadSwapOuts_spec (view : Chain) (db : Db) (all rows : List SwapOutRow)
    (hsub : ∀ row ∈ rows, row ∈ all) (r : Runner) (hunits : Units chain [] r) (hmap : FromRows all r) :
    Units chain [] (loadSwapOuts view db rows r).2 ∧ FromRows all (loadSwapOuts view db rows r).2 := by
  induction rows generalizing r with
  | nil => exact ⟨hunits, hmap⟩
  | cons row _ ih =>
    have hset : FromRows all (r.setSwapOut row.swapOutKey
        { swapOut := row.swapOutMsg, completedGVG := row.completedGVGs }) := by
      intro key su hsu
      simp only [setSwapOut] at hsu
      split at hsu
      next hkey =>
        cases hsu
        exact ⟨row, hsub row (.head _), hkey, rfl⟩
      · exact hmap key su hsu
    simp only [loadSwapOuts]
    split
    · exact ⟨hunits.setSwapOut _ _, hset⟩
    have hloads := @loadSwapOut_loads chain view db none row
      (r.setSwapOut row.swapOutKey { swapOut := row.swapOutMsg, completedGVG := row.completedGVGs })
    have hfrom : FromRows all _ := fun key su hsu => hset key su (hloads.2 ▸ hsu)
    split
    next hr' =>
      rw [hr'] at hloads hfrom
      exact ⟨hloads.1 (hunits.setSwapOut _ _), hfrom⟩
    rename_i r' hr'
    rw [hr'] at hloads hfrom
    exact ih (fun row hrow => hsub row (.tail _ hrow)) r'
      (hloads.1 (hunits.setSwapOut _ _)) hfrom

theorem loadFromDB_spec (view : Chain) (db : Db) (listed : Bool) :
    Units chain [] (loadFromDB view db listed).2 ∧ FromRows db.swapOuts (loadFromDB view db listed).2 := by
  have hunits : Units chain [] {} := ⟨nofun, nofun⟩
  have hmap : FromRows db.swapOuts {} := nofun
  unfold loadFromDB
  split
  · exact loadSwapOuts_spec view db _ _ (fun row hrow => (mem_filter.mp hrow).1) {} hunits hmap
  · exact ⟨hunits, hmap⟩

theorem track_restart {view : Option Chain} {listed : Bool} (h : Track chain s)
    (hplain : Plain chain s (.restart view listed)) (hstep : step chain s (.restart view listed) = some s') :
    Track chain s' := by
  obtain ⟨hunits, hmap⟩ := @loadFromDB_spec chain (view.getD chain) s.dest.db listed
  rcases hload : loadFromDB (view.getD chain) s.dest.db listed with ⟨_, _⟩
  rw [hload] at hunits hmap
  simp only [step, hload, Option.some.injEq] at hstep
  subst hstep
  refine ⟨h.apart, nofun, h.registered, ⟨hunits.index, ?_⟩, ⟨?_, ?_⟩, h.rows, h.reported,
    h.completed.safe, ?_⟩
  · intro u hu
    rcases hunits.owner u hu with he | ⟨m, hm, -⟩
    · exact .inl he
    · cases hm
  · intro key su hsu
    obtain ⟨row, hrow, rfl, rfl⟩ := hmap key su hsu
    exact ⟨rfl, h.rows row hrow⟩
  -- nothing is left to complete
  · exact fun m hm hnot => absurd (hplain m hm) hnot
  · exact fun _ m hm _ => hplain m (h.registered m hm)

end

/-! ## The theorem -/

/-- **A swap-out is completed exactly when all of its GVGs were migrated**, in every
run of plain steps. -/
theorem swap_out_completed (chain : Chain) {s : Sys} (hrun : Run (step chain) (Plain chain) {} s) :
    Completed chain s := by
  have hinit : Track chain {} := ⟨⟨nofun, nofun, nofun, nofun⟩, nofun, nofun, ⟨nofun, nofun⟩,
    ⟨nofun, nofun⟩, nofun, nofun, ⟨nofun, nofun⟩⟩
  refine (hrun.invariant hinit ?_).completed
  intro _ a _ h hplain hstep
  cases a with
  | request => exact track_request h hplain hstep
  | addUnit => exact track_addUnit h hstep
  | addSwapOut => exact track_addSwapOut h hstep
  | progress => exact track_progress h hstep
  | report => exact track_report h hplain hstep
  | restart => exact track_restart h hplain hstep

/-- A family swap-out and one of two listed GVGs, both completed; then a restart. -/
def plainRun : List Act :=
  [.request ⟨7, 3, []⟩ true, .request ⟨7, 0, [20, 21]⟩ true, .addUnit 0 true, .addUnit 1 true,
    .addSwapOut 0 true, .addUnit 0 true, .addSwapOut 0 true, .report ⟨21, 2, 1⟩ {},
    .report ⟨10, 3, 0⟩ {}, .report ⟨20, 2, 1⟩ {}, .restart none true]

theorem swap_out_completed_sample :
    ∃ s, Run (step plainChain) (Plain plainChain) {} s ∧ Completed plainChain s ∧
      s.dest.sent = [⟨7, 3, []⟩, ⟨7, 0, [20, 21]⟩] := by
  obtain ⟨s, hreached, hsent⟩ : ∃ s, Run (step plainChain) (Plain plainChain) {} s ∧
      s.dest.sent = [⟨7, 3, []⟩, ⟨7, 0, [20, 21]⟩] :=
    Run.exists_of_exec plainRun (by decide +kernel)
  exact ⟨s, hreached, swap_out_completed plainChain hreached, hsent⟩

/-- Every family has two GVGs. -/
def twoGVGs : Chain :=
  { plainChain with listGlobalVirtualGroupsByFamilyID := fun f => some [⟨10, f, [1]⟩, ⟨11, f, [1]⟩] }

/-- A family swap-out is completed by the first of two reports; and one whose unit is
reported before it is added is not completed at all. -/
theorem swap_out_completed_early_or_never : (∃ s, Run (step twoGVGs) (fun _ _ => True) {} s ∧
      s.dest.sent = [⟨7, 3, []⟩] ∧ ⟨11, 3, 0⟩ ∈ coverKeys twoGVGs ⟨7, 3, []⟩ ∧
        ⟨11, 3, 0⟩ ∉ s.reported) ∧
    ∃ s, Run (step twoGVGs) (fun _ _ => True) {} s ∧ s.allOk = true ∧
      ⟨7, 0, [20]⟩ ∈ s.registered ∧ (∀ k ∈ coverKeys twoGVGs ⟨7, 0, [20]⟩, k ∈ s.reported) ∧
        s.dest.sent = [] := by
  constructor
  · exact Run.exists_of_exec [.request ⟨7, 3, []⟩ true, .addUnit 0 true,
        .addUnit 0 true, .addSwapOut 0 true, .report ⟨10, 3, 0⟩ {}] (by decide +kernel)
  · exact Run.exists_of_exec [.request ⟨7, 0, [20]⟩ true, .addUnit 0 true,
        .report ⟨20, 2, 1⟩ {}, .addSwapOut 0 true] (by decide +kernel)

end Manager

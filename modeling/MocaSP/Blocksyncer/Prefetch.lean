-- SUMMARY: The blocks fetched before real-time mode.
import MocaSP.Base.Run

/-!
# Prefetching

`quickFetchBlockData` fetches blocks in cycles of one block for each worker and those left up
to the latest height, until it has caught up. A throttled tick moves the end of the range and
fetches nothing.
-/

namespace Blocksyncer.Prefetch
open List

/-- The variables of `quickFetchBlockData` and what it shares with `Process`; `catchEndBlock` is set
with `RealTimeStart`. -/
structure State where
  latestBlockHeight : Nat := 0
  cycle : Nat := 0
  endBlock : Nat := 0
  flag : Bool := false
  /-- The heights passed to a call of `fetchData` that returned. `Process` takes a height out of
  the maps only after its block is committed. -/
  fetched : List Nat := []
  catchEndBlock : Option Nat := none

/-- `MaxHeightGapFactor` is 4. -/
def prefetchTooFarAhead (startBlock processedHeight workers : Nat) : Bool :=
  startBlock > processedHeight && startBlock - processedHeight > 4 * workers

variable (startHeight count : Nat) (s : State)

/-- A goroutine retries until its height is in the maps, and the call waits for all of them. -/
def fetchData (start stop : Nat) : State :=
  { s with fetched := s.fetched ++ range' start (stop + 1 - start) }

def tick (processedHeight : Nat) : State :=
  if s.latestBlockHeight = s.endBlock then { s with catchEndBlock := some s.endBlock }
  else if s.latestBlockHeight > count * (s.cycle + 1) + startHeight - 1 then
    let startBlock := count * s.cycle + startHeight
    let endBlock := count * (s.cycle + 1) + startHeight - 1
    if prefetchTooFarAhead startBlock processedHeight count then { s with endBlock, flag := true }
    else fetchData { s with cycle := s.cycle + 1, endBlock, flag := true } startBlock endBlock
  else
    let startBlock := if s.flag then min (s.endBlock + 1) s.latestBlockHeight else startHeight
    fetchData { s with endBlock := s.latestBlockHeight, flag := true } startBlock s.latestBlockHeight

/-- A tick of `quickFetchBlockData`, with the latest and the processed height; it returns in
real-time mode. -/
def quickFetchBlockData : Nat × Nat → Option State
  | (latestBlockHeight, processedHeight) =>
    if s.catchEndBlock.isSome then none
    else some (tick startHeight count { s with latestBlockHeight } processedHeight)

inductive Source
  | node
  | maps
  | blockNotFound
deriving DecidableEq

/-- Where `Process` finds the block of a height. -/
def State.source (height : Nat) : Source :=
  if s.catchEndBlock.any (· < height) then .node
  else if height ∈ s.fetched then .maps else .blockNotFound

/-- All heights up to the end of the last range are fetched, except after a throttled tick: then the
latest height is beyond that range. -/
structure Covers : Prop where
  cycles : ∀ h, startHeight ≤ h → h < count * s.cycle + startHeight → h ∈ s.fetched
  range : (∀ h, startHeight ≤ h → h ≤ s.endBlock → h ∈ s.fetched) ∨
    s.endBlock = count * (s.cycle + 1) + startHeight - 1 ∧ s.endBlock < s.latestBlockHeight
  caught : ∀ e ∈ s.catchEndBlock, ∀ h, startHeight ≤ h → h ≤ e → h ∈ s.fetched

namespace Covers

variable {startHeight count s} (hs : Covers startHeight count s)
include hs

theorem fetch {cycle start stop : Nat} (hcycles : ∀ h, startHeight ≤ h →
      h < count * cycle + startHeight → h ∈ s.fetched ∨ start ≤ h ∧ h ≤ stop)
    (hrange : ∀ h, startHeight ≤ h → h ≤ stop → h ∈ s.fetched ∨ start ≤ h) :
    Covers startHeight count
      (fetchData { s with cycle, endBlock := stop, flag := true } start stop) where
  cycles h hstart hlt := mem_append.mpr <| (hcycles h hstart hlt).imp_right fun hnew =>
    mem_range'_1.mpr ⟨hnew.1, by omega⟩
  range := .inl fun h hstart (hle : h ≤ stop) => mem_append.mpr <|
    (hrange h hstart hle).imp_right fun hnew => mem_range'_1.mpr ⟨hnew, by omega⟩
  caught e he h hstart hle := mem_append_left _ (hs.caught e he h hstart hle)

theorem tick (processed : Nat) : Covers startHeight count (tick startHeight count s processed) := by
  have hnext := Nat.mul_succ count s.cycle
  unfold Prefetch.tick
  dsimp only
  split_ifs with hend hcycle
  · have hfetched := hs.range.resolve_right (by omega)
    refine ⟨hs.cycles, .inl hfetched, ?_⟩
    rintro _ ⟨⟩
    exact hfetched
  · exact ⟨hs.cycles, .inr ⟨rfl, hcycle⟩, hs.caught⟩
  · refine hs.fetch ?_ ?_
    all_goals
      intro h hstart hlt
      by_cases hold : h < count * s.cycle + startHeight
      · exact .inl (hs.cycles h hstart hold)
      · omega
  · have hfetched := hs.range.resolve_right (by omega)
    refine hs.fetch (fun h hstart hlt => .inl (hs.cycles h hstart hlt)) fun h hstart _ => ?_
    by_cases hold : h ≤ s.endBlock
    · exact .inl (hfetched h hstart hold)
    · omega
  · exact hs.fetch (fun h hstart hlt => .inl (hs.cycles h hstart hlt)) fun h hstart _ => .inr hstart

/-- The latest height does not decrease. -/
theorem step {heights : Nat × Nat} {s' : State} (hle : s.latestBlockHeight ≤ heights.1)
    (hstep : quickFetchBlockData startHeight count s heights = some s') : Covers startHeight count s' := by
  obtain ⟨-, ⟨⟩⟩ := Option.ite_none_left_eq_some.mp hstep
  have hseen : Covers startHeight count { s with latestBlockHeight := heights.1 } :=
    ⟨hs.cycles, hs.range.imp_right fun h => ⟨h.1, h.2.trans_le hle⟩, hs.caught⟩
  exact hseen.tick heights.2

end Covers

theorem realTime_covers (hstart : 1 ≤ startHeight)
    (hrun : Run (quickFetchBlockData startHeight count)
      (fun s heights => s.latestBlockHeight ≤ heights.1) {} s)
    (e : Nat) (he : s.catchEndBlock = some e) :
    (∀ height, startHeight ≤ height → height ≤ e → height ∈ s.fetched ∧ s.source height = .maps) ∧
      ∀ height, e < height → s.source height = .node := by
  have hinit : Covers startHeight count {} := by
    refine ⟨fun _ _ hlt => ?_, .inl fun _ _ hle => ?_, nofun⟩
    · simp at hlt
      omega
    · dsimp only at hle
      omega
  have hs := hrun.invariant hinit fun _ _ _ hs => hs.step
  refine ⟨fun height hlow hle => ?_, fun height hlt => by simp [State.source, he, hlt]⟩
  have hmem := hs.caught e he height hlow hle
  exact ⟨hmem, by simp [State.source, he, hle, hmem]⟩

/-- One worker from height 1: a cycle, the rest up to the latest height 2, and real-time mode. -/
theorem realTime_covers_two : ∃ s : State, s.catchEndBlock = some 2 ∧ s.source 2 = .maps := by
  obtain ⟨s, hrun, he⟩ : ∃ s, Run (quickFetchBlockData 1 1)
      (fun s heights => s.latestBlockHeight ≤ heights.1) {} s ∧ s.catchEndBlock = some 2 :=
    Run.exists_of_exec [(2, 0), (2, 0), (2, 0)] (by decide)
  exact ⟨s, he, ((realTime_covers 1 1 s (le_refl 1) hrun 2 he).1 2 (by decide) (by decide)).2⟩

/-- While the exported heights are at most `processed`, no height is fetched that is more than six
per worker above it. -/
theorem prefetch_bounded (processed : Nat) (hstart : startHeight ≤ processed + 1)
    (hrun : Run (quickFetchBlockData startHeight count) (fun _ heights => heights.2 ≤ processed) {} s) :
    ∀ h ∈ s.fetched, h ≤ processed + 6 * count := by
  -- a cycle that is fetched starts at most four heights per worker ahead
  have hs : count * s.cycle + startHeight ≤ processed + 1 + 5 * count ∧
      ∀ h ∈ s.fetched, h ≤ processed + 6 * count := by
    induction hrun with
    | start => exact ⟨by dsimp only; omega, nofun⟩
    | @step s _ heights _ hle hstep ih =>
      obtain ⟨-, ⟨⟩⟩ := Option.ite_none_left_eq_some.mp hstep
      have hnext := Nat.mul_add_one count s.cycle
      simp only [tick, fetchData, prefetchTooFarAhead, Bool.and_eq_true, decide_eq_true_eq]
      split_ifs
      · exact ih
      · exact ih
      all_goals
        refine ⟨by dsimp only; omega, fun h hmem => ?_⟩
        refine (mem_append.mp hmem).elim (ih.2 h) fun hnew => ?_
        have := (mem_range'_1.mp hnew).2
        omega
  exact hs.2

/-- One worker from height 1 fetches four cycles and waits for the exporter. -/
theorem prefetch_bounded_stalled : ∃ s : State, 4 ∈ s.fetched ∧ s.endBlock = 5 ∧
    ∀ h ∈ s.fetched, h ≤ 0 + 6 * 1 := by
  obtain ⟨s, hrun, hfetched, hend⟩ : ∃ s,
      Run (quickFetchBlockData 1 1) (fun _ heights => heights.2 ≤ 0) {} s ∧ 4 ∈ s.fetched ∧ s.endBlock = 5 :=
    Run.exists_of_exec [(20, 0), (20, 0), (21, 0), (21, 0), (21, 0), (22, 0)] (by decide)
  exact ⟨s, hfetched, hend, prefetch_bounded 1 1 s 0 (by decide) hrun⟩

end Blocksyncer.Prefetch

-- SUMMARY: GC object tasks over runs of the manager with restarts.
import MocaSP.Manager.GCObject

/-!
# GC object tasks through restarts

A task that is loaded is a new task of the same range, made at the time of the load. Its key is not the
key of its row, so that its reports reach no row.
-/

namespace Manager.GC
open List TQueue ProgressTable Progress

variable {c : Config}

variable (m : ManageModular c)

/-- The task that the ticker makes, and the queue with it. -/
def generateTask (currentBlockHeight : Option Nat) (now : Nat) :
    Option (GCObjectTask × TQueue GCObjectTask.key c.queueCap) :=
  let stop := m.gcBlockHeight + c.gcObjectBlockInterval
  currentBlockHeight.bind fun current =>
    if stop + c.gcSafeBlockDistance > current then none
    else
      let task : GCObjectTask := { startBlockNumber := m.gcBlockHeight, endBlockNumber := stop, createTime := now }
      (m.gcObjectQueue.push task).map fun queue => (task, queue)

/-- The branch of `gcObjectTicker` in the event loop. -/
def gcObjectTick (currentBlockHeight : Option Nat) (now : Nat) (db : Bool) : ManageModular c :=
  match generateTask m currentBlockHeight now with
  | none => m
  | some (task, queue) =>
    { gcBlockHeight := task.endBlockNumber + 1
      gcObjectQueue := queue
      progress := if db then m.progress.insertGCObjectProgress task.key else m.progress }

/-! ## Tasks through the restarts -/

/-- A task of a run: the key it was made with, the key it has since it was loaded last, its last
accepted report and whether a report completed it. -/
structure Entry where
  row : TaskKey
  key : TaskKey
  accepted : Nat × Nat := (0, 0)
  completed : Bool := false
deriving DecidableEq

def Entry.Holds (e : Entry) (height : Nat) : Prop := e.row.start ≤ height ∧ height ≤ e.row.stop

/-- What an accepted report makes of the task. -/
def Entry.note (t : GCObjectTask) (e : Entry) : Entry :=
  if t.Completed then { e with completed := true } else { e with accepted := t.progress }

structure System (c : Config) where
  manager : ManageModular c
  /-- Not part of the program. -/
  book : List Entry

/-- The task that is loaded from a row. -/
def Progress.task (now : Nat) (row : Progress) : GCObjectTask where
  startBlockNumber := row.taskKey.start
  endBlockNumber := row.taskKey.stop
  createTime := now
  currentBlockNumber := row.currentGCBlockID
  lastDeletedObjectId := row.lastDeletedObjectID

/-- One row of `LoadTaskFromDB`. -/
def System.load (now : Nat) (s : System c) (row : Progress) : System c :=
  match s.manager.gcObjectQueue.push (row.task now) with
  | none => s
  | some queue =>
    { manager := { s.manager with
        gcObjectQueue := queue
        gcBlockHeight := if row.taskKey.stop ≥ s.manager.gcBlockHeight then row.taskKey.stop + 1
          else s.manager.gcBlockHeight }
      book := s.book.map fun e => if e.row = row.taskKey then { e with key := (row.task now).key } else e }

inductive Action where
  | tick (currentBlockHeight : Option Nat) (now : Nat) (db : Bool)
  | report (t : GCObjectTask) (db : Bool)
  /-- The rows come in the order of their update times. -/
  | restart (now : Nat) (rows : List Progress)

def start (c : Config) : System c := ⟨⟨0, .empty, []⟩, []⟩

variable (s : System c)

def System.step : Action → Option (System c)
  | .tick height now db =>
    some ⟨gcObjectTick s.manager height now db,
      s.book ++ ((generateTask s.manager height now).map fun p => { row := p.1.key, key := p.1.key }).toList⟩
  | .report t db =>
    let (result, manager) := handleGCObjectTask s.manager t db
    some ⟨manager, if result = .ok () then s.book.map fun e => if e.key = t.key then e.note t else e else s.book⟩
  | .restart now rows =>
    if rows.isPerm s.manager.progress then
      some ((rows.take c.loadTaskLimitToGC).foldl (System.load now)
        ⟨⟨0, .empty, s.manager.progress⟩, s.book⟩)
    else none

/-! ## The property and the condition -/

def System.keys : List TaskKey := s.manager.progress.map taskKey

/-- Each height is that of a task that is queued, recorded or completed; a completed task is not
recorded; and what is recorded, and so loaded, is the last accepted progress. -/
structure RangesSurvive (s : System c) : Prop where
  covered : ∀ height < s.manager.gcBlockHeight, ∃ e ∈ s.book, e.Holds height ∧
    (s.manager.gcObjectQueue.has e.key = true ∨ e.row ∈ s.keys ∨ e.completed = true)
  cleared : ∀ e ∈ s.book, e.completed = true → e.row ∉ s.keys
  resumes : ∀ r ∈ s.manager.progress, ∃ e ∈ s.book, e.row = r.taskKey ∧ e.accepted = r.progress

/-- The table calls succeed; no two tasks are made with one key; a task that is reported has a row under
its key, which it does not have once it was loaded, and the report has no zero over a column that is set. -/
def Meets : Action → Prop
  | .tick _ now db => db = true ∧ ∀ e ∈ s.book,
      e.row ≠ ⟨s.manager.gcBlockHeight, s.manager.gcBlockHeight + c.gcObjectBlockInterval, now⟩ ∧
      e.key ≠ ⟨s.manager.gcBlockHeight, s.manager.gcBlockHeight + c.gcObjectBlockInterval, now⟩
  | .report t db => s.manager.gcObjectQueue.has t.key = true → db = true ∧ t.key ∈ s.keys ∧
      ∀ r ∈ s.manager.progress, r.taskKey = t.key → (t.currentBlockNumber = 0 → r.currentGCBlockID = 0) ∧
        (t.lastDeletedObjectId = 0 → r.lastDeletedObjectID = 0)
  | .restart now _ => ∀ e ∈ s.book, e.row.time ≠ now

instance (s : System c) (a : Action) : Decidable (Meets s a) := by
  cases a <;> dsimp only [Meets] <;> infer_instance

/-! ## What the steps do -/

variable {now : Nat}

/-- A report leaves the table alone, or it is that of a queued task and is accepted. -/
theorem handle_cases (t : GCObjectTask) (db : Bool) :
    ∃ result q rows, handleGCObjectTask m t db = (result, ⟨m.gcBlockHeight, q, rows⟩) ∧
      (∀ x ∈ q.tasks, x ∈ m.gcObjectQueue.tasks ∨ m.gcObjectQueue.has x.key = true) ∧
      (result = .error .canceledTask ∧ rows = m.progress ∨
        result = .ok () ∧ m.gcObjectQueue.has t.key = true ∧
        (db = true → rows = if t.Completed then m.progress.deleteGCObjectProgress t.key
          else m.progress.updateGCObjectProgress t.key t.currentBlockNumber t.lastDeletedObjectId)) := by
  have hdrop : ∀ x ∈ (m.gcObjectQueue.drop t.key).tasks,
      x ∈ m.gcObjectQueue.tasks ∨ m.gcObjectQueue.has x.key = true :=
    fun x hx => .inl (mem_drop.mp hx).1
  by_cases hhas : m.gcObjectQueue.has t.key = true
  · obtain ⟨old, hold, hkey⟩ := has_iff.mp hhas
    by_cases hdone : t.Completed
    · refine ⟨.ok (), _, if db then m.progress.deleteGCObjectProgress t.key else m.progress, ?_, hdrop,
        .inr ⟨rfl, hhas, fun hdb => by simp [hdb, hdone]⟩⟩
      cases db <;> simp [handleGCObjectTask, hhas, hdone, popByKey]
    by_cases hbehind : t.Behind old
    · exact ⟨_, _, _, handle_behind db hold hkey.symm hdone hbehind, hdrop, .inl ⟨rfl, rfl⟩⟩
    obtain ⟨_, hq, heq⟩ := handle_accepted db hold hkey.symm hdone hbehind
    refine ⟨_, _, _, heq, ?_, .inr ⟨rfl, hhas, fun hdb => by simp [hdb, hdone]⟩⟩
    rw [push_tasks hq]
    intro x hx
    rcases mem_append.mp hx with hx | hx
    · exact hdrop x hx
    · exact .inr (mem_singleton.mp hx ▸ hhas)
  · exact ⟨_, _, _, by simp [handleGCObjectTask, hhas], fun x hx => .inl hx, .inl ⟨rfl, rfl⟩⟩

/-! ## The invariant -/

open Entry

structure Tracks (s : System c) : Prop where
  recorded : ∀ r ∈ s.manager.progress, ∃ e ∈ s.book, e.row = r.taskKey ∧ e.accepted = r.progress
  kept : ∀ e ∈ s.book, e.row ∈ s.keys ↔ e.completed = false
  queued : ∀ t ∈ s.manager.gcObjectQueue.tasks, t.key ∈ s.book.map row → ∃ e ∈ s.book, e.key = t.key
  unique : (s.book.map row).Nodup
  /-- No task has the key of another task's row. -/
  own : ∀ e ∈ s.book, ∀ e' ∈ s.book, e.key = e'.row → e.row = e'.row
  filled : ∀ e ∈ s.book, ∀ height ≤ e.row.stop, ∃ e' ∈ s.book, e'.Holds height
  reached : s.manager.gcBlockHeight = 0 ∨ ∃ e ∈ s.book, s.manager.gcBlockHeight ≤ e.row.stop + 1

namespace Tracks

variable {s s' : System c}

theorem holds (h : Tracks s) {height : Nat} (hlt : height < s.manager.gcBlockHeight) :
    ∃ e ∈ s.book, e.Holds height := by
  rcases h.reached with _ | ⟨e, he, _⟩
  · omega
  · exact h.filled e he height (by omega)

theorem survive (h : Tracks s) : RangesSurvive s where
  covered height hlt := by
    obtain ⟨e, he, hholds⟩ := h.holds hlt
    refine ⟨e, he, hholds, .inr ?_⟩
    rw [h.kept e he]
    cases e.completed <;> simp
  cleared e he hdone hrow := by
    have hopen := (h.kept e he).mp hrow
    rw [hdone] at hopen
    cases hopen
  resumes := h.recorded

theorem start : Tracks (start c) where
  recorded r hr := by cases hr
  kept e he := by cases he
  queued t ht := by cases ht
  unique := nodup_nil
  own e he := by cases he
  filled e he := by cases he
  reached := .inl rfl

/-- The ticker makes a task from the height that all tasks so far have reached. -/
theorem tick (h : Tracks s) {height : Option Nat} {db : Bool} (hmeets : Meets s (.tick height now db))
    (hstep : s.step (.tick height now db) = some s') : Tracks s' := by
  obtain ⟨rfl, hfresh⟩ := hmeets
  cases hgen : generateTask s.manager height now with
  | none =>
    have heq : s' = s := by simpa [System.step, gcObjectTick, hgen] using hstep.symm
    rwa [heq]
  | some p =>
    obtain ⟨task, _⟩ := p
    obtain ⟨hkey, hqueue⟩ : task.key = ⟨s.manager.gcBlockHeight, _, now⟩ ∧
        _ = s.manager.gcObjectQueue.tasks ++ [task] := by
      obtain ⟨_, -, h⟩ := Option.bind_eq_some_iff.mp hgen
      split at h
      · cases h
      · obtain ⟨_, hq, ⟨⟩⟩ := Option.map_eq_some_iff.mp h
        exact ⟨rfl, push_tasks hq⟩
    rw [← hkey] at hfresh
    have hstop : task.endBlockNumber = task.key.stop := rfl
    have hrows : s.manager.progress.insertGCObjectProgress task.key =
        s.manager.progress ++ [{ taskKey := task.key }] := by
      refine if_neg fun hany => ?_
      obtain ⟨r, hr, heq⟩ := any_eq_true.mp hany
      obtain ⟨e, he, hrow, -⟩ := h.recorded r hr
      exact (hfresh e he).1 (hrow.trans (of_decide_eq_true heq))
    simp only [System.step, gcObjectTick, hgen, if_true, hrows, Option.map_some, Option.toList_some,
      Option.some.injEq] at hstep
    subst hstep
    constructor <;> simp only [System.keys, mem_append, mem_singleton, map_append, map_cons,
      map_nil, or_imp, forall_and, forall_eq, hqueue, exists_or, or_and_right, exists_eq_left]
    · exact ⟨fun r hr => .inl (h.recorded r hr), .inr ⟨trivial, rfl⟩⟩
    · exact ⟨fun e he => by simp [(hfresh e he).1, ← h.kept e he, System.keys], by simp⟩
    · exact ⟨⟨fun t ht hrow => .inl (h.queued t ht hrow), fun _ => .inr trivial⟩,
        fun t _ heq => .inr heq.symm, fun _ => .inr trivial⟩
    · refine nodup_append.mpr ⟨h.unique, nodup_singleton _, ?_⟩
      rintro _ hrow _ hnew rfl
      obtain ⟨e, he, rfl⟩ := mem_map.mp hrow
      exact (hfresh e he).1 (mem_singleton.mp hnew)
    · exact ⟨⟨fun e he => h.own e he, fun e he heq => absurd heq.symm (hfresh e he).1⟩,
        ⟨fun e he heq => absurd heq (hfresh e he).2, fun _ => trivial⟩⟩
    · refine ⟨fun e he k hk => .inl (h.filled e he k hk), fun k hk => ?_⟩
      by_cases hlt : k < s.manager.gcBlockHeight
      · exact .inl (h.holds hlt)
      · refine .inr ⟨?_, hk⟩
        rw [hkey]
        exact not_lt.mp hlt
    · exact .inr (.inr (by rw [hstop]))

/-- A step that changes no range. -/
theorem map_book (h : Tracks s) {m : ManageModular c} {g : Entry → Entry} (hrow : ∀ e, (g e).row = e.row)
    (hrecorded : ∀ r ∈ m.progress, ∃ e ∈ s.book, e.row = r.taskKey ∧ (g e).accepted = r.progress)
    (hkept : ∀ e ∈ s.book, e.row ∈ m.progress.map taskKey ↔ (g e).completed = false)
    (hqueued : ∀ t ∈ m.gcObjectQueue.tasks, t.key ∈ s.book.map row → ∃ e ∈ s.book, (g e).key = t.key)
    (hown : ∀ e ∈ s.book, ∀ e' ∈ s.book, (g e).key = e'.row → e.row = e'.row)
    (hreached : m.gcBlockHeight = 0 ∨ ∃ e ∈ s.book, m.gcBlockHeight ≤ e.row.stop + 1) :
    Tracks ⟨m, s.book.map g⟩ := by
  have hrows : (s.book.map g).map row = s.book.map row := by
    rw [map_map]
    exact map_congr_left fun e _ => hrow e
  have hex : ∀ P : Entry → Prop, (∃ e ∈ s.book.map g, P e) ↔ ∃ e ∈ s.book, P (g e) := fun P => by simp
  refine ⟨?_, ?_, ?_, hrows ▸ h.unique, ?_, ?_, ?_⟩
  all_goals simp only [hrows, hex, forall_mem_map, hrow, Entry.Holds]
  exacts [hrecorded, hkept, hqueued, hown, h.filled, hreached]

/-- A queued task that has a row under its key is the task that the row was made for. -/
theorem key_iff (h : Tracks s) {k : TaskKey} (hhas : s.manager.gcObjectQueue.has k = true) (hrow : k ∈ s.keys)
    {e : Entry} (he : e ∈ s.book) : e.key = k ↔ e.row = k := by
  obtain ⟨r, hr, rfl⟩ := mem_map.mp hrow
  obtain ⟨e₀, he₀, hrow₀, -⟩ := h.recorded r hr
  obtain ⟨x, hx, hkey⟩ := has_iff.mp hhas
  obtain ⟨e₁, he₁, hkey₁⟩ := h.queued x hx (mem_map.mpr ⟨e₀, he₀, hrow₀.trans hkey.symm⟩)
  rw [hkey] at hkey₁
  have hrow₁ : e₁.row = r.taskKey := (h.own e₁ he₁ e₀ he₀ (hkey₁.trans hrow₀.symm)).trans hrow₀
  constructor
  · intro heq
    exact (h.own e he e₀ he₀ (heq.trans hrow₀.symm)).trans hrow₀
  · intro heq
    rw [inj_on_of_nodup_map h.unique he he₁ (heq.trans hrow₁.symm)]
    exact hkey₁

theorem report (h : Tracks s) {t : GCObjectTask} {db : Bool} (hmeets : Meets s (.report t db))
    (hstep : s.step (.report t db) = some s') : Tracks s' := by
  obtain ⟨_, q, _, heq, htasks, hcases⟩ := handle_cases s.manager t db
  have hqueued : ∀ x ∈ q.tasks, x.key ∈ s.book.map row → ∃ e ∈ s.book, e.key = x.key := by
    intro x hx hrow
    rcases htasks x hx with hold | hhas
    · exact h.queued x hold hrow
    · obtain ⟨y, hy, hkey⟩ := has_iff.mp hhas
      exact hkey ▸ h.queued y hy (hkey ▸ hrow)
  simp only [System.step, heq, Option.some.injEq] at hstep
  subst hstep
  rcases hcases with ⟨rfl, rfl⟩ | ⟨rfl, hhas, hrows⟩
  · exact { h with queued := hqueued }
  obtain ⟨rfl, hrow, hzero⟩ := hmeets hhas
  have hkey := fun e he => h.key_iff hhas hrow (e := e) he
  have hnote : ∀ e : Entry, (if e.key = t.key then e.note t else e).row = e.row ∧
      (if e.key = t.key then e.note t else e).key = e.key := by
    intro _
    unfold note
    split_ifs <;> exact ⟨rfl, rfl⟩
  obtain rfl := hrows rfl
  refine h.map_book (fun e => (hnote e).1) ?_ ?_ ?_ ?_ h.reached
  · intro r hr
    by_cases hdone : t.Completed
    · rw [if_pos hdone, deleteGCObjectProgress, mem_filter] at hr
      obtain ⟨e, he, hrow', haccepted⟩ := h.recorded r hr.1
      have hne : e.key ≠ t.key := fun heq => of_decide_eq_true hr.2 (hrow' ▸ (hkey e he).mp heq)
      exact ⟨e, he, hrow', by rw [if_neg hne, haccepted]⟩
    · rw [if_neg hdone, updateGCObjectProgress, mem_map] at hr
      obtain ⟨r, hr, rfl⟩ := hr
      obtain ⟨e, he, hrow', haccepted⟩ := h.recorded r hr
      refine ⟨e, he, ?_⟩
      by_cases hsame : r.taskKey = t.key
      · obtain ⟨hcurrent, hlast⟩ := hzero r hr hsame
        have hprogress : (r.updates t.currentBlockNumber t.lastDeletedObjectId).progress = t.progress := by
          simp only [updates, progress, GCObjectTask.progress, Prod.mk.injEq, ite_eq_right_iff]
          exact ⟨fun h0 => (hcurrent h0).trans h0.symm, fun h0 => (hlast h0).trans h0.symm⟩
        rw [if_pos hsame, if_pos ((hkey e he).mpr (hrow'.trans hsame)), note, if_neg hdone, hprogress]
        exact ⟨hrow', rfl⟩
      · rw [if_neg hsame, if_neg fun heq => hsame (hrow' ▸ (hkey e he).mp heq)]
        exact ⟨hrow', haccepted⟩
  · intro e he
    by_cases hdone : t.Completed
    · rw [if_pos hdone]
      by_cases hsame : e.key = t.key
      · simp [hsame, (hkey e he).mp hsame, note, hdone, deleteGCObjectProgress]
      rw [if_neg hsame, ← h.kept e he]
      simp only [System.keys, deleteGCObjectProgress, mem_map, mem_filter]
      grind
    · rw [if_neg hdone, taskKeys_update, note, if_neg hdone, apply_ite completed, ite_self]
      exact h.kept e he
  · intro x hx hrow'
    obtain ⟨e, he, hkey'⟩ := hqueued x hx hrow'
    exact ⟨e, he, (hnote e).2.trans hkey'⟩
  · intro e he e' he' heq'
    exact h.own e he e' he' ((hnote e).2.symm.trans heq')

end Tracks

/-- While rows are loaded: all tasks in the queue are new, and no row is. -/
structure Loading (now : Nat) (s : System c) : Prop where
  tracks : Tracks s
  fresh : ∀ t ∈ s.manager.gcObjectQueue.tasks, t.createTime = now
  older : ∀ k ∈ s.book.map row, k.time ≠ now

theorem Loading.load {s : System c} (h : Loading now s) {row : Progress} (hrow : row ∈ s.manager.progress) :
    Loading now (s.load now row) ∧ (s.load now row).manager.progress = s.manager.progress := by
  cases hpush : s.manager.gcObjectQueue.push (row.task now) with
  | none =>
    rw [System.load, hpush]
    exact ⟨h, rfl⟩
  | some queue =>
    simp only [System.load, hpush]
    have hfresh : ∀ t ∈ queue.tasks, t.createTime = now := by
      simpa [push_tasks hpush, or_imp, forall_and, task] using h.fresh
    have hg : ∀ e : Entry, (if e.row = row.taskKey then { e with key := (row.task now).key } else e) =
        { e with key := if e.row = row.taskKey then (row.task now).key else e.key } := by
      intro _
      split_ifs <;> rfl
    refine ⟨⟨?_, hfresh, ?_⟩, trivial⟩
    · simp only [hg]
      refine h.tracks.map_book (fun _ => rfl) h.tracks.recorded h.tracks.kept ?_ ?_ ?_
      · -- a task of this start has no row's key
        intro t ht hmem
        exact absurd (hfresh t ht) (h.older _ hmem)
      · intro e he e' he' heq
        split_ifs at heq
        · exact absurd (congrArg TaskKey.time heq).symm (h.older _ (mem_map_of_mem he'))
        · exact h.tracks.own e he e' he' heq
      · obtain ⟨e, he, hrow', -⟩ := h.tracks.recorded row hrow
        split_ifs
        · exact .inr ⟨e, he, by rw [hrow']⟩
        · exact h.tracks.reached
    · simp only [hg, map_map]
      exact h.older

theorem Tracks.restart {s s' : System c} (h : Tracks s) {rows : List Progress} (hmeets : Meets s (.restart now rows))
    (hstep : s.step (.restart now rows) = some s') : Tracks s' := by
  rw [System.step] at hstep
  split at hstep
  next hperm =>
    cases hstep
    have hmem : ∀ r ∈ rows.take c.loadTaskLimitToGC, r ∈ s.manager.progress :=
      fun r hr => (isPerm_iff.mp hperm).mem_iff.mp (mem_of_mem_take hr)
    have hempty : Loading now (⟨⟨0, .empty, s.manager.progress⟩, s.book⟩ : System c) := by
      refine ⟨{ h with queued := fun t ht => ?_, reached := .inl rfl }, fun t ht => ?_, forall_mem_map.mpr hmeets⟩
      · cases ht
      · cases ht
    -- loading leaves the rows alone, so the next row is one of the table as well
    have hloaded : ∀ (rows : List Progress) (s₀ : System c), Loading now s₀ →
        (∀ r ∈ rows, r ∈ s₀.manager.progress) → Loading now (rows.foldl (System.load now) s₀) := by
      intro rows
      induction rows with
      | nil => exact fun s₀ hs₀ _ => hs₀
      | cons r _ ih =>
        intro _ hs₀ hin
        obtain ⟨hnext, hsame⟩ := hs₀.load (hin r (.head _))
        exact ih _ hnext fun x hx => hsame ▸ hin x (.tail _ hx)
    exact (hloaded _ _ hempty hmem).tracks
  · cases hstep

/-! ## Runs -/

/-- As long as the table calls succeed, keys differ and no task that was loaded is reported. -/
theorem gc_ranges_survive (s : System c) (hrun : Run System.step Meets (start c) s) : RangesSurvive s := by
  refine (hrun.invariant Tracks.start ?_).survive
  intro _ a _ h hmeets hstep
  cases a with
  | tick => exact h.tick hmeets hstep
  | report => exact h.report hmeets hstep
  | restart => exact h.restart hmeets hstep

def firstRow : Progress := ⟨sampleTask.key, 2, 5⟩

/-- Two tasks, of which the first is reported, and a restart. -/
def sampleActions : List Action :=
  [.tick (some 50) 5 true, .tick (some 50) 6 true, .report (reportAt 2 5) true,
    .restart 8 [firstRow, { taskKey := ⟨10, 19, 6⟩ }]]

theorem gc_ranges_survive_sample :
    ∃ s : System sampleConfig, s.manager.gcBlockHeight = 20 ∧ RangesSurvive s := by
  obtain ⟨s, hrun, hheight⟩ : ∃ s, Run System.step Meets (start sampleConfig) s ∧
      s.manager.gcBlockHeight = 20 := Run.exists_of_exec sampleActions (by decide)
  exact ⟨s, hheight, gc_ranges_survive s hrun⟩

/-- A task that was loaded is completed; the row of the task stays, and the next restart loads it again. -/
theorem loaded_task_row_kept :
    ∃ s, Run System.step (fun _ _ => True) (start sampleConfig) s ∧ ¬ RangesSurvive s := by
  obtain ⟨s, hrun, hkeys, hbook⟩ : ∃ s, Run System.step (fun _ _ => True) (start sampleConfig) s ∧
      s.keys = [sampleTask.key] ∧ s.book = [⟨sampleTask.key, { sampleTask.key with time := 8 }, (0, 0), true⟩] :=
    Run.exists_of_exec [.tick (some 50) 5 true, .restart 8 [{ taskKey := sampleTask.key }],
      .report { sampleTask with createTime := 8, currentBlockNumber := 10 } true] (by decide)
  refine ⟨s, hrun, fun h => ?_⟩
  refine h.cleared _ (hbook ▸ mem_cons_self) rfl ?_
  rw [hkeys]
  exact .head _

end Manager.GC

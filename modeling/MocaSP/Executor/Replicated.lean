-- SUMMARY: Replication without an error has reached every secondary.
import MocaSP.Base.Run
import MocaSP.Executor.Replicate

/-!
# Replicated to every secondary

An error of one goroutine reaches the caller through `err`, which any other
goroutine may overwrite before it is read, and through a channel that nobody reads
any more once the function has returned. Both are ruled out in a run of `Orderly`
steps: `err` is not written while an outcome in it is still to be read, and the wait
group is left only when the goroutines of the segment are through. In such a run an
error is noted until the end, and the function returns nil only if there was none.
-/

namespace Executor.Replicate

variable {Sig : Type}

/-! ## Orderly steps -/

/-- The goroutine has written `err` and is still to read it. -/
def Worker.window : Worker → Bool
  | .assigned _ | .failing _ => true
  | _ => false

@[inherit_doc Worker.window]
def Main.window : Main → Bool
  | .assigned _ => true
  | _ => false

@[inherit_doc Worker.window]
def Loop.window : Loop Sig → Bool
  | .verified _ _ | .finishing _ => true
  | _ => false

def Worker.isFinished : Worker → Bool
  | .finished _ => true
  | _ => false

section
variable (task : ReplicatePieceTask) (verity : Nat → Sig → Bool)

variable (s : State Sig)

/-- No outcome in `err` is still to be read. -/
def Quiet : Prop :=
  (∀ i < task.segmentPieceCount, ∀ j < task.secondaryEndpoints, (s.worker i j).window = false) ∧
    s.main.window = false ∧ s.loop.window = false

/-- The steps that write `err` take their turn, and the wait group waits for the
goroutines to be through. -/
def Orderly (act : Thread × Answer Sig) : Prop :=
  match act.1 with
  | .main =>
    match s.main with
    | .received _ => Quiet task s
    | _ => True
  | .worker i j =>
    match s.worker i j with
    | .answered _ => Quiet task s
    | _ => True
  | .loop =>
    match s.loop with
    | .waiting i => ∀ j < task.secondaryEndpoints, (s.worker i j).isFinished = true
    | .collecting k => k < task.secondaryEndpoints → act.2.failure = none → Quiet task s
    | .returning _ => Quiet task s
    | _ => True

/-- All segments were read, each piece was sent to its secondary, and the task has a
verified signature of each secondary. -/
structure Replicated (s : State Sig) : Prop where
  read : ∀ i < task.segmentPieceCount, s.read i = true
  sent : ∀ i < task.segmentPieceCount, ∀ j < task.secondaryEndpoints, s.worker i j = .finished none
  signed : ∃ signatures, s.taskSignatures = some signatures ∧
    ∀ j < task.secondaryEndpoints, ∃ signature, signatures j = some signature ∧
      verity j signature = true

/-! ## What holds of each goroutine -/

/-- The function has an error in its hands. -/
def Main.hasError : Main → Bool
  | .received _ | .assigned _ => true
  | _ => false

/-- An error that the function will return. -/
def Noted : Prop := s.replicateErr ≠ none ∨ s.main.hasError = true

def WorkerOk : Worker → Prop
  | .assigned r => s.err = r
  | .failing r => s.err = r ∧ r ≠ none
  | .blocked _ e => e ≠ none
  | .finished r => r ≠ none → Noted s
  | _ => True

def MainOk : Main → Prop
  | .received e => e ≠ none
  | .assigned e => s.err = e ∧ e ≠ none
  | .quit => ∃ e, s.loop = .ended e
  | .returned none => (∃ e, s.loop = .ended e) ∧ s.replicateErr = none ∧ s.err = none
  | _ => True

variable (k : Nat)

/-- The goroutines of the segments below `k` are through. -/
def Passed : Prop := ∀ i < k, ∀ j < task.secondaryEndpoints, (s.worker i j).isFinished = true

def ReadTo : Prop := ∀ i < k, s.read i = true ∨ Noted s

def Collected : Prop :=
  ∀ j < k, ∃ signature, s.secondarySignatures j = some signature ∧ verity j signature = true

/-- The goroutine is through with the first `k` segments, and has read the first `l`. -/
def Through (k l : Nat) : Prop := Passed task s k ∧ ReadTo s l

abbrev AllThrough : Prop := Through task s task.segmentPieceCount task.segmentPieceCount

def LoopOk : Loop Sig → Prop
  | .notStarted => True
  | .reading i => Through task s i i
  | .readError i _ => i < task.segmentPieceCount ∧ Through task s i i
  | .encoding i | .encodeError i _ | .spawning i _ | .waiting i =>
    i < task.segmentPieceCount ∧ Through task s i (i + 1)
  | .makeCheckSums => AllThrough task s
  | .collecting k => AllThrough task s ∧ Collected verity s k
  | .verified k signature => AllThrough task s ∧ Collected verity s k ∧
      s.err = if verity k signature then none else some .verify
  | .returning e => AllThrough task s ∧ (e = none → Collected verity s task.secondaryEndpoints)
  | .finishing e => AllThrough task s ∧
      (e = none → Collected verity s task.secondaryEndpoints) ∧ s.err = e
  | .quitting e | .ended e => AllThrough task s ∧
      (e = none → Collected verity s task.secondaryEndpoints ∧
        s.taskSignatures = some s.secondarySignatures) ∧ (s.err = e ∨ Noted s)

structure Sound (s : State Sig) : Prop where
  workers : ∀ i j, WorkerOk s (s.worker i j)
  spawned : ∀ i j, s.worker i j ≠ .idle → i < task.segmentPieceCount ∧ j < task.secondaryEndpoints
  main : MainOk s s.main
  loop : LoopOk task verity s s.loop

end

variable {task : ReplicatePieceTask} {verity : Nat → Sig → Bool} {s s' : State Sig}
  {a : Answer Sig} {i j k l : Nat}

/-! ## What a step of one goroutine leaves of the others -/

theorem Quiet.worker (h : Quiet task s) (hsound : Sound task verity s) (i j : Nat) :
    (s.worker i j).window = false := by
  by_cases hidle : s.worker i j = .idle
  · rw [hidle]
    rfl
  · obtain ⟨hi, hj⟩ := hsound.spawned i j hidle
    exact h.1 i hi j hj

variable {w : Worker} {m : Main}

theorem WorkerOk.mono (h : WorkerOk s w) (hnoted : Noted s → Noted s')
    (herr : w.window = true → s'.err = s.err) : WorkerOk s' w := by
  cases w with
  | assigned => exact (herr rfl).trans h
  | failing => exact ⟨(herr rfl).trans h.1, h.2⟩
  | finished => exact fun hr => hnoted (h hr)
  | blocked => exact h
  | idle => trivial
  | sending => trivial
  | answered => trivial

theorem Sound.workerOk (h : Sound task verity s) (hnoted : Noted s → Noted s')
    (herr : s'.err = s.err ∨ Quiet task s) (i j : Nat) : WorkerOk s' (s.worker i j) := by
  refine (h.workers i j).mono hnoted fun hopen => ?_
  rcases herr with herr | hquiet
  · exact herr
  · rw [hquiet.worker h i j] at hopen
    cases hopen

theorem Passed.le (h : Passed task s k) (hle : l ≤ k) : Passed task s l :=
  fun i hi => h i (Nat.lt_of_lt_of_le hi hle)

/-- What the goroutine of the segments needs of a step of another one. -/
structure Keeps (task : ReplicatePieceTask) (s s' : State Sig) : Prop where
  loop : s'.loop = s.loop
  read : s'.read = s.read
  signatures : s'.secondarySignatures = s.secondarySignatures
  taskSignatures : s'.taskSignatures = s.taskSignatures
  finished : ∀ i j, (s.worker i j).isFinished = true → s'.worker i j = s.worker i j
  noted : Noted s → Noted s'
  err : s'.err = s.err ∨ s.loop.window = false ∧ (Noted s' ∨ ¬ Passed task s task.segmentPieceCount)

theorem Keeps.through (h : Keeps task s s') (hthrough : Through task s k l) :
    Through task s' k l := by
  refine ⟨fun i hi j hj => ?_, fun i hi => ?_⟩
  · rw [h.finished i j (hthrough.1 i hi j hj)]
    exact hthrough.1 i hi j hj
  · rw [h.read]
    exact (hthrough.2 i hi).imp_right h.noted

theorem Keeps.collected (h : Keeps task s s') (hcollected : Collected verity s k) :
    Collected verity s' k := by
  unfold Collected
  rw [h.signatures]
  exact hcollected

theorem LoopOk.keeps (h : LoopOk task verity s s.loop) (hkeeps : Keeps task s s') :
    LoopOk task verity s' s'.loop := by
  rw [hkeeps.loop]
  have hwindow : s.loop.window = true → s'.err = s.err := by
    intro hopen
    rcases hkeeps.err with heq | ⟨hclosed, -⟩
    · exact heq
    · rw [hopen] at hclosed
      cases hclosed
  cases hloop : s.loop with rw [hloop] at h
  | notStarted => trivial
  | reading | makeCheckSums => exact hkeeps.through h
  | readError | encoding | encodeError | spawning | waiting => exact ⟨h.1, hkeeps.through h.2⟩
  | collecting => exact ⟨hkeeps.through h.1, hkeeps.collected h.2⟩
  | verified =>
    rw [hloop] at hwindow
    exact ⟨hkeeps.through h.1, hkeeps.collected h.2.1, (hwindow rfl).trans h.2.2⟩
  | returning => exact ⟨hkeeps.through h.1, fun he => hkeeps.collected (h.2 he)⟩
  | finishing =>
    rw [hloop] at hwindow
    exact ⟨hkeeps.through h.1, fun he => hkeeps.collected (h.2.1 he), (hwindow rfl).trans h.2.2⟩
  | quitting | ended =>
    obtain ⟨hthrough, hsignatures, herr⟩ := h
    refine ⟨hkeeps.through hthrough, fun he => ?_, ?_⟩
    · rw [hkeeps.taskSignatures, hkeeps.signatures]
      exact ⟨hkeeps.collected (hsignatures he).1, (hsignatures he).2⟩
    rcases hkeeps.err with heq | ⟨-, hnoted | hpassed⟩
    · rw [heq]
      exact herr.imp_right hkeeps.noted
    · exact .inr hnoted
    · exact absurd hthrough.1 hpassed

theorem MainOk.mono (h : MainOk s m) (hloop : s'.loop = s.loop ∨ ∀ e, s.loop ≠ .ended e)
    (hreplicate : s'.replicateErr = s.replicateErr)
    (herr : s'.err = s.err ∨ m.window = false ∧ ∀ e, s.loop ≠ .ended e) : MainOk s' m := by
  have hended : ∀ e, s.loop = .ended e → s'.loop = .ended e ∧ s'.err = s.err := by
    intro e he
    rcases hloop with hloop | hrunning
    · rcases herr with herr | ⟨-, hrunning⟩
      · exact ⟨hloop.trans he, herr⟩
      · exact absurd he (hrunning e)
    · exact absurd he (hrunning e)
  cases m with
  | assigned =>
    rcases herr with herr | ⟨hclosed, -⟩
    · exact ⟨herr.trans h.1, h.2⟩
    · cases hclosed
  | quit =>
    obtain ⟨e, he⟩ := h
    exact ⟨e, (hended e he).1⟩
  | returned e =>
    cases e with
    | none =>
      obtain ⟨⟨e, he⟩, hnone, herrNone⟩ := h
      exact ⟨⟨e, (hended e he).1⟩, hreplicate.trans hnone, (hended e he).2.trans herrNone⟩
    | some => trivial
  | received => exact h
  | starting => trivial
  | waiting => trivial

/-! ## The function -/

/-- A step of the function, which leaves the goroutines of the pieces as they are. -/
theorem Sound.of_main (h : Sound task verity s) (hworker : s'.worker = s.worker)
    (hkeeps : Keeps task s s') (herr : s'.err = s.err ∨ Quiet task s) (hmain : MainOk s' s'.main) :
    Sound task verity s' := by
  refine ⟨fun i j => ?_, hworker ▸ h.spawned, hmain, h.loop.keeps hkeeps⟩
  rw [hworker]
  exact h.workerOk hkeeps.noted herr i j

theorem sound_main (h : Sound task verity s) (horderly : Orderly task s (.main, a))
    (hstep : stepMain task a s = some s') : Sound task verity s' := by
  have hmainOk := h.main
  have hnoted : ∀ {m : Main}, s.main.hasError = false → Noted s → Noted { s with main := m } := by
    rintro m hnone (hnoted | hnoted)
    · exact .inl hnoted
    · rw [hnone] at hnoted
      cases hnoted
  cases hmain : s.main with (rw [hmain] at hmainOk; simp only [stepMain, hmain] at hstep)
  | starting =>
    have hkeeps : ∀ {m : Main}, Keeps task s { s with main := m } := ⟨rfl, rfl, rfl, rfl,
      fun _ _ _ => rfl, hnoted (by rw [hmain]; rfl), .inl rfl⟩
    split at hstep
    · cases hstep
      exact h.of_main rfl hkeeps (.inl rfl) trivial
    · cases hstep
      exact h.of_main rfl hkeeps (.inl rfl) trivial
    split at hstep
    · cases hstep
      exact h.of_main rfl hkeeps (.inl rfl) trivial
    cases hstep
    refine ⟨fun i j => ?_, h.spawned, trivial, ?_⟩
    · exact (h.workers i j).mono (hnoted (by rw [hmain]; rfl)) fun _ => rfl
    · exact ⟨fun _ hi => absurd hi (Nat.not_lt_zero _), fun _ hi => absurd hi (Nat.not_lt_zero _)⟩
  | waiting => cases hstep
  | received =>
    simp only [Orderly, hmain] at horderly
    cases hstep
    refine h.of_main rfl ?_ (.inr horderly) ⟨rfl, hmainOk⟩
    exact ⟨rfl, rfl, rfl, rfl, fun _ _ _ => rfl, fun _ => .inr rfl, .inr ⟨horderly.2.2, .inl (.inr rfl)⟩⟩
  | assigned =>
    cases hstep
    refine h.of_main rfl ?_ (.inl rfl) trivial
    refine ⟨rfl, rfl, rfl, rfl, fun _ _ _ => rfl, fun _ => .inl ?_, .inl rfl⟩
    obtain ⟨herr, hsome⟩ := hmainOk
    rw [herr]
    simp [hsome]
  | quit =>
    cases hstep
    refine h.of_main rfl ?_ (.inl rfl) ?_
    · exact ⟨rfl, rfl, rfl, rfl, fun _ _ _ => rfl, hnoted (by rw [hmain]; rfl), .inl rfl⟩
    cases hresult : s.replicateErr.or s.err with
    | none =>
      rw [Option.or_eq_none_iff] at hresult
      exact ⟨hmainOk, hresult⟩
    | some => trivial
  | returned => cases hstep

/-! ## The goroutine of a piece -/

theorem setWorker_self : (s.setWorker i j w).worker i j = w := by simp [State.setWorker]

theorem setWorker_of_ne (h : ¬ (k = i ∧ l = j)) :
    (s.setWorker i j w).worker k l = s.worker k l := by
  simp [State.setWorker, h]

theorem of_deliver (h : s.deliver m = some s') : s.main = .waiting ∧ s' = { s with main := m } := by
  unfold State.deliver at h
  split at h
  · cases h
    exact ⟨‹_›, rfl⟩
  · cases h

section
variable (h : Sound task verity s)
include h

/-- A step of a goroutine that is not through yet. -/
theorem Sound.of_worker (hactive : (s.worker i j).isFinished = false)
    (hidle : s.worker i j ≠ .idle) (hworker : s'.worker = (s.setWorker i j w).worker)
    (hloop : s'.loop = s.loop) (hread : s'.read = s.read)
    (hsignatures : s'.secondarySignatures = s.secondarySignatures)
    (htask : s'.taskSignatures = s.taskSignatures) (hnoted : Noted s → Noted s')
    (herr : s'.err = s.err ∨ Quiet task s) (hw : WorkerOk s' w) (hmain : MainOk s' s'.main) :
    Sound task verity s' := by
  obtain ⟨hi, hj⟩ := h.spawned i j hidle
  have hne : ∀ k l, (s.worker k l).isFinished = true → ¬ (k = i ∧ l = j) := by
    rintro _ _ hfinished ⟨rfl, rfl⟩
    rw [hactive] at hfinished
    cases hfinished
  refine ⟨fun k l => ?_, fun k l hkl => ?_, hmain, h.loop.keeps ?_⟩
  · rw [hworker]
    by_cases hsame : k = i ∧ l = j
    · obtain ⟨rfl, rfl⟩ := hsame
      rwa [setWorker_self]
    · rw [setWorker_of_ne hsame]
      exact h.workerOk hnoted herr k l
  · rw [hworker] at hkl
    by_cases hsame : k = i ∧ l = j
    · obtain ⟨rfl, rfl⟩ := hsame
      exact ⟨hi, hj⟩
    · rw [setWorker_of_ne hsame] at hkl
      exact h.spawned k l hkl
  · refine ⟨hloop, hread, hsignatures, htask, fun k l hfinished => ?_, hnoted, ?_⟩
    · rw [hworker, setWorker_of_ne (hne k l hfinished)]
    · refine herr.imp_right fun hquiet => ⟨hquiet.2.2, .inr fun hpassed => ?_⟩
      exact hne i j (hpassed i hi j hj) ⟨rfl, rfl⟩

theorem sound_worker (horderly : Orderly task s (.worker i j, a))
    (hstep : stepWorker i j a s = some s') : Sound task verity s' := by
  have hok := h.workers i j
  have hactive : (s.worker i j).isFinished = false ∧ s.worker i j ≠ .idle := by
    cases hworker : s.worker i j <;> simp [stepWorker, hworker, Worker.isFinished] at hstep ⊢
  obtain ⟨hactive, hidle⟩ := hactive
  cases hworker : s.worker i j with (rw [hworker] at hok; simp only [stepWorker, hworker] at hstep)
  | idle => cases hstep
  | sending =>
    cases hstep
    exact h.of_worker hactive hidle rfl rfl rfl rfl rfl id (.inl rfl)
      trivial (h.main.mono (.inl rfl) rfl (.inl rfl))
  | answered =>
    simp only [Orderly, hworker] at horderly
    cases hstep
    refine h.of_worker hactive hidle rfl rfl rfl rfl rfl id (.inr horderly) rfl ?_
    refine h.main.mono (.inl rfl) rfl (.inr ⟨horderly.2.1, fun e he => ?_⟩)
    -- while a goroutine is active, the segments are not through
    obtain ⟨hi, hj⟩ := h.spawned i j hidle
    have hloop := h.loop
    rw [he] at hloop
    rw [hloop.1.1 i hi j hj] at hactive
    cases hactive
  | assigned =>
    cases hstep
    refine h.of_worker hactive hidle rfl rfl rfl rfl rfl id (.inl rfl)
      ?_ (h.main.mono (.inl rfl) rfl (.inl rfl))
    split
    next hnone => exact fun hr => absurd (hok.symm.trans hnone) hr
    next hsome => exact ⟨hok, fun hr => hsome (hok.trans hr)⟩
  | failing =>
    cases hstep
    refine h.of_worker hactive hidle rfl rfl rfl rfl rfl id (.inl rfl)
      ?_ (h.main.mono (.inl rfl) rfl (.inl rfl))
    exact fun hnone => hok.2 (hok.1.symm.trans hnone)
  | blocked =>
    obtain ⟨-, rfl⟩ := of_deliver hstep
    exact h.of_worker hactive hidle rfl rfl rfl rfl rfl
      (fun _ => .inr rfl) (.inl rfl) (fun _ => .inr rfl) hok
  | finished => cases hstep

/-! ## The goroutine of the segments -/

/-- A step of the goroutine by itself. -/
theorem Sound.of_loop (hrunning : ∀ e, s.loop ≠ .ended e)
    (hloop : LoopOk task verity s' s'.loop) (herr : s'.err = s.err ∨ Quiet task s := by exact .inl rfl)
    (hworker : s'.worker = s.worker := by rfl) (hmain : s'.main = s.main := by rfl)
    (hreplicate : s'.replicateErr = s.replicateErr := by rfl) : Sound task verity s' := by
  refine ⟨fun i j => ?_, hworker ▸ h.spawned, ?_, hloop⟩
  · rw [hworker]
    refine h.workerOk (fun hnoted => ?_) herr i j
    rwa [Noted, hreplicate, hmain]
  · rw [hmain]
    exact h.main.mono (.inr hrunning) hreplicate (herr.imp_right fun hquiet => ⟨hquiet.2.1, hrunning⟩)

/-- A send of the goroutine to the function. -/
theorem Sound.of_send {loop : Loop Sig} (hwaiting : s.main = .waiting)
    (hmain : MainOk { s with loop, main := m } m)
    (hloop : LoopOk task verity { s with loop, main := m } loop) :
    Sound task verity { s with loop, main := m } := by
  refine ⟨fun i j => (h.workers i j).mono ?_ fun _ => rfl, h.spawned, hmain, hloop⟩
  rintro (hnoted | hnoted)
  · exact .inl hnoted
  · rw [hwaiting] at hnoted
    cases hnoted

end

theorem loopOk_afterRead (hi : i < task.segmentPieceCount) (h : Through task s i (i + 1)) :
    LoopOk task verity s (afterRead task i) := by
  unfold afterRead
  split
  · exact ⟨hi, h⟩
  · exact ⟨hi, h⟩

/-- One goroutine more is started. -/
theorem Sound.spawn (h : Sound task verity s) (hloop : s.loop = .spawning i j)
    (hj : j < task.secondaryEndpoints) :
    Sound task verity { s.setWorker i j .sending with loop := .spawning i (j + 1) } := by
  have hok := h.loop
  rw [hloop] at hok
  obtain ⟨hi, hpassed, hread⟩ := hok
  refine ⟨fun k l => ?_, fun k l hkl => ?_, ?_, hi, fun k hk l hl => ?_, hread⟩
  · by_cases hsame : k = i ∧ l = j
    · obtain ⟨rfl, rfl⟩ := hsame
      rw [setWorker_self]
      trivial
    · show WorkerOk _ ((s.setWorker i j .sending).worker k l)
      rw [setWorker_of_ne hsame]
      exact (h.workers k l).mono id fun _ => rfl
  · by_cases hsame : k = i ∧ l = j
    · obtain ⟨rfl, rfl⟩ := hsame
      exact ⟨hi, hj⟩
    · have hkl : (s.setWorker i j .sending).worker k l ≠ .idle := hkl
      rw [setWorker_of_ne hsame] at hkl
      exact h.spawned k l hkl
  · exact h.main.mono (.inr (by rw [hloop]; nofun)) rfl (.inl rfl)
  · show ((s.setWorker i j .sending).worker k l).isFinished = true
    rw [setWorker_of_ne (by omega)]
    exact hpassed k hk l hl

theorem sound_loop (h : Sound task verity s) (horderly : Orderly task s (.loop, a))
    (hstep : stepLoop task verity a s = some s') : Sound task verity s' := by
  have hok := h.loop
  have hrunning : ∀ e, s.loop ≠ .ended e := by
    intro _ he
    simp [stepLoop, he] at hstep
  cases hloop : s.loop with (rw [hloop] at hok; simp only [stepLoop, hloop] at hstep)
  | notStarted => cases hstep
  | reading i =>
    split at hstep
    next hi =>
      split at hstep
      · cases hstep
        exact h.of_loop hrunning ⟨hi, hok⟩
      cases hstep
      refine h.of_loop hrunning (loopOk_afterRead hi ?_)
      refine ⟨hok.1, fun k hk => ?_⟩
      by_cases hsame : k = i
      · exact .inl (if_pos hsame)
      · exact (hok.2 k (by omega)).imp_left (if_neg hsame).trans
    next =>
      cases hstep
      exact h.of_loop hrunning ⟨hok.1.le (by omega), fun k hk => hok.2 k (by omega)⟩
  | readError =>
    obtain ⟨hwaiting, rfl⟩ := of_deliver hstep
    exact h.of_send hwaiting nofun
      (loopOk_afterRead hok.1 ⟨hok.2.1, fun _ _ => .inr (.inr rfl)⟩)
  | encoding =>
    split at hstep
    all_goals
      cases hstep
      exact h.of_loop hrunning hok
  | encodeError =>
    obtain ⟨hwaiting, rfl⟩ := of_deliver hstep
    exact h.of_send hwaiting nofun ⟨hok.1, hok.2.1, fun _ _ => .inr (.inr rfl)⟩
  | spawning =>
    split at hstep
    next hj =>
      cases hstep
      exact h.spawn hloop hj
    · cases hstep
      exact h.of_loop hrunning hok
  | waiting =>
    simp only [Orderly, hloop] at horderly
    split at hstep
    · cases hstep
      refine h.of_loop hrunning ⟨fun k hk j hj => ?_, hok.2.2⟩
      rcases Nat.lt_succ_iff_lt_or_eq.mp hk with hk | rfl
      · exact hok.2.1 k hk j hj
      · exact horderly j hj
    · cases hstep
  | makeCheckSums =>
    split at hstep
    · cases hstep
      exact h.of_loop hrunning ⟨hok, nofun⟩
    · cases hstep
      exact h.of_loop hrunning ⟨hok, fun _ hj => absurd hj (Nat.not_lt_zero _)⟩
  | collecting =>
    simp only [Orderly, hloop] at horderly
    split at hstep
    next hk =>
      split at hstep
      · cases hstep
        exact h.of_loop hrunning ⟨hok.1, nofun⟩
      · cases hstep
      rename_i hfailure _
      cases hstep
      exact h.of_loop hrunning ⟨hok.1, hok.2, rfl⟩ (.inr (horderly hk hfailure))
    next =>
      cases hstep
      exact h.of_loop hrunning ⟨hok.1, fun _ j hj => hok.2 j (by omega)⟩
  | verified k signature =>
    split at hstep
    next hnone =>
      cases hstep
      refine h.of_loop hrunning ⟨hok.1, fun j hj => ?_⟩
      obtain ⟨-, hcollected, herr⟩ := hok
      by_cases hsame : j = k
      · subst hsame
        refine ⟨signature, if_pos rfl, ?_⟩
        cases hverity : verity j signature with
        | true => rfl
        | false =>
          rw [hnone, hverity] at herr
          cases herr
      · obtain ⟨signature', hset, hverity⟩ := hcollected j (by omega)
        exact ⟨signature', (if_neg hsame).trans hset, hverity⟩
    · cases hstep
      exact h.of_loop hrunning ⟨hok.1, nofun⟩
  | returning =>
    simp only [Orderly, hloop] at horderly
    cases hstep
    exact h.of_loop hrunning ⟨hok.1, hok.2, rfl⟩ (.inr horderly)
  | finishing =>
    cases hstep
    obtain ⟨hthrough, hcollected, herr⟩ := hok
    refine h.of_loop hrunning ⟨hthrough, fun he => ⟨hcollected he, ?_⟩, .inl herr⟩
    exact if_pos (herr.trans he)
  | quitting e =>
    obtain ⟨hwaiting, rfl⟩ := of_deliver hstep
    obtain ⟨hthrough, hsignatures, herr⟩ := hok
    have hnoted : Noted s → Noted { s with loop := .ended e, main := .quit } := by
      rintro (hnoted | hnoted)
      · exact .inl hnoted
      · rw [show s.main = .waiting from hwaiting] at hnoted
        cases hnoted
    refine h.of_send hwaiting ⟨e, rfl⟩ ⟨⟨hthrough.1, fun k hk => ?_⟩, hsignatures, herr.imp_right hnoted⟩
    exact (hthrough.2 k hk).imp_right hnoted
  | ended => cases hstep

/-! ## Runs -/

theorem sound_start : Sound task verity ({} : State Sig) :=
  ⟨fun _ _ => trivial, fun _ _ h => absurd rfl h, trivial, trivial⟩

theorem sound_of_run (hrun : Run (step task verity) (Orderly task) {} s) : Sound task verity s := by
  refine hrun.invariant sound_start fun s act s' h horderly hstep => ?_
  obtain ⟨thread, _⟩ := act
  cases thread with
  | main => exact sound_main h horderly hstep
  | loop => exact sound_loop h horderly hstep
  | worker => exact sound_worker h horderly hstep

/-- In every run of orderly steps, the function returns nil only when the object is
replicated to every secondary. -/
theorem returns_nil_only_if_replicated (hrun : Run (step task verity) (Orderly task) {} s)
    (hreturned : s.main = .returned none) : Replicated task verity s := by
  have h := sound_of_run hrun
  have hmain := h.main
  rw [hreturned] at hmain
  obtain ⟨⟨e, hended⟩, hreplicate, herr⟩ := hmain
  have hloop := h.loop
  rw [hended] at hloop
  obtain ⟨⟨hpassed, hread⟩, hsignatures, hresult⟩ := hloop
  have hnoted : ¬ Noted s := by
    rintro (hnoted | hnoted)
    · exact hnoted hreplicate
    · rw [hreturned] at hnoted
      cases hnoted
  have he : e = none := by
    rcases hresult with hresult | hnoted'
    · exact hresult.symm.trans herr
    · exact absurd hnoted' hnoted
  obtain ⟨hcollected, htask⟩ := hsignatures he
  refine ⟨fun i hi => (hread i hi).resolve_right hnoted, fun i hi j hj => ?_, _, htask, hcollected⟩
  have hfinished := hpassed i hi j hj
  have hok := h.workers i j
  cases hworker : s.worker i j with
  | finished r =>
    rw [hworker] at hok
    cases r with
    | none => rfl
    | some => exact absurd (hok nofun) hnoted
  | _ =>
    rw [hworker] at hfinished
    cases hfinished

section

instance (task : ReplicatePieceTask) (s : State Sig) (act : Thread × Answer Sig) :
    Decidable (Orderly task s act) := by
  unfold Orderly Quiet
  repeat' split
  all_goals infer_instance

/-- One segment for two secondaries. -/
def oneSegment : ReplicatePieceTask where
  segmentPieceCount := 1
  secondaryEndpoints := 2
  replicateCount := 2
  isEC := false
  isAgentUpload := false

/-- A secondary's only valid signature is its own index. -/
def ownIndex (i signature : Nat) : Bool := i = signature

/-- Steps whose calls succeed, or make no call. -/
def turns (threads : List Thread) : List (Thread × Answer Nat) := threads.map fun t => (t, ({} : Answer Nat))

/-- The function starts, and the segment is read and sent to both. -/
def replicateStart : List (Thread × Answer Nat) :=
  (.main, { gvg := some 2 }) :: turns [.loop, .loop, .loop, .loop]

/-- After the wait group, the signatures of both are collected and verified. -/
def collectBoth : List (Thread × Answer Nat) :=
  turns [.loop, .loop, .loop] ++ (.loop, { signature := some 0 }) :: turns [.loop] ++
    (.loop, { signature := some 1 }) :: turns [.loop, .loop, .loop, .loop, .loop, .main]

theorem returns_nil_only_if_replicated_sample :
    ∃ s, Run (step oneSegment ownIndex) (Orderly oneSegment) {} s ∧ s.main = .returned none ∧
      Replicated oneSegment ownIndex s := by
  obtain ⟨s, hrun, hreturned⟩ : ∃ s, Run (step oneSegment ownIndex) (Orderly oneSegment) {} s ∧
      s.main = (.returned none) := Run.exists_of_exec (replicateStart ++
      turns [.worker 0 1, .worker 0 0, .worker 0 1, .worker 0 1, .worker 0 0, .worker 0 0] ++
      collectBoth) (by decide +kernel)
  exact ⟨s, hrun, hreturned, returns_nil_only_if_replicated hrun hreturned⟩

/-- Two runs that return nil: in one, a piece was not sent, and the goroutine reads the
success of the other in `err`; in the other, no signature was given, and a goroutine that
is late writes its success over the error of doneReplicate. -/
theorem returns_nil_not_replicated :
    (∃ s, Run (step oneSegment ownIndex) (fun _ _ => True) {} s ∧ s.main = .returned none ∧
      s.worker 0 0 = .finished (some .replicatePiece) ∧ ¬ Replicated oneSegment ownIndex s) ∧
    ∃ s, Run (step oneSegment ownIndex) (fun _ _ => True) {} s ∧ s.main = .returned none ∧
      (∃ signatures, s.taskSignatures = some signatures ∧ signatures 0 = none) ∧
        ¬ Replicated oneSegment ownIndex s := by
  constructor
  · obtain ⟨s, hrun, hend⟩ : ∃ s, Run (step oneSegment ownIndex) (fun _ _ => True) {} s ∧
        s.main = .returned none ∧
          s.worker 0 0 = .finished (some .replicatePiece) := Run.exists_of_exec (replicateStart ++
        (.worker 0 0, { failure := some .replicatePiece }) ::
        turns [.worker 0 1, .worker 0 0, .worker 0 1, .worker 0 0, .worker 0 1] ++
        collectBoth) (by decide +kernel)
    obtain ⟨hreturned, hfailed⟩ := hend
    refine ⟨s, hrun, hreturned, hfailed, fun hreplicated => ?_⟩
    have hsent := hreplicated.sent 0 (by decide) 0 (by decide)
    rw [hfailed] at hsent
    cases hsent
  · obtain ⟨s, hrun, hend⟩ : ∃ s, Run (step oneSegment ownIndex) (fun _ _ => True) {} s ∧
        s.main = .returned none ∧ s.taskSignatures.map (· 0) = some none :=
      Run.exists_of_exec (replicateStart ++
        turns [.worker 0 0, .worker 0 1, .worker 0 0, .worker 0 0, .loop, .loop, .loop] ++
        (.loop, { failure := some .doneReplicatePiece }) ::
        turns [.loop, .worker 0 1, .loop, .loop, .main]) (by decide +kernel)
    obtain ⟨hreturned, hnone⟩ := hend
    obtain ⟨signatures, hset, hmissing⟩ := Option.map_eq_some_iff.mp hnone
    refine ⟨s, hrun, hreturned, ⟨signatures, hset, hmissing⟩, fun hreplicated => ?_⟩
    obtain ⟨_, hset', hall⟩ := hreplicated.signed
    rw [hset] at hset'
    cases hset'
    obtain ⟨_, hsignature, -⟩ := hall 0 (by decide)
    rw [hmissing] at hsignature
    cases hsignature

end

end Executor.Replicate

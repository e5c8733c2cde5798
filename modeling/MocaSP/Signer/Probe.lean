-- SUMMARY: Not-admitted conclusions of a signer against probes of the CLI.
import MocaSP.Base.History
import MocaSP.Signer.Ledger

/-!
# Probes and not-admitted conclusions

A signer deletes a row as not admitted when the first send of its bytes was
refused. The refusal says something only if nobody else sent the bytes. Under
the scope's lock no other thread of the signer does; a command of the CLI, which
takes no lock, sends them between `Record` and the signer's first send.
-/

namespace Signer
open List Event StoreCall

open Machine History

/-! ## What the log says of the bytes -/

/-- The node admitted the bytes through this send. -/
def Event.admits (h : Hash) : Event → Bool
  | .sent _ x _ admitted => x = h && admitted
  | _ => false

/-- Recording the bytes starts a life, which a not-admitted conclusion ends. -/
def Event.life (h : Hash) : Event → Option Bool
  | .recorded _ _ _ _ x _ _ => if x = h then some true else none
  | .resolved _ _ _ x kind => if x = h ∧ kind.notAdmitted then some false else none
  | _ => none

/-- A send of the signer that was not refused opens the recorded bytes. -/
def Event.opening (h : Hash) : Event → Option Bool
  | .recorded _ _ _ _ x _ _ => if x = h then some false else none
  | .sent (some _) x answer _ =>
    if x = h ∧ (classifyEvmSendError false answer).refused = false then some true else none
  | _ => none

/-- Bytes concluded as not admitted were not admitted through any send before, and are not
through any send after, unless they are recorded again. -/
def Concluded : Event → List Event → Prop
  | .resolved _ _ _ h kind, before => kind.notAdmitted = true → ∀ x ∈ before, x.admits h = false
  | .sent _ h _ admitted, before => admitted = true → last (life h) before ≠ some false
  | _, _ => True

instance (x : Event) (before : List Event) : Decidable (Concluded x before) := by
  cases x <;> dsimp only [Concluded] <;> infer_instance

/-! ## When it holds -/

/-- The bytes a command sends. -/
def Cmd.probed {β : Type} : Cmd β → Option Hash
  | .send none h => some h
  | _ => none

/-- A command sends bytes only after the signer sent them, since they were
recorded, without being refused; and bytes a node admitted are not recorded again. -/
def ProbesLate (β : Type) (_ : Tid) (e : Cmd β) (w : World) : Prop :=
  (∀ h ∈ e.probed, last (opening h) w.log = some true) ∧
    ∀ h ∈ e.records, ∀ x ∈ w.log, x.admits h = false

-- The quantifiers range over an option here, not over all hashes.
instance {β : Type} {t : Tid} {e : Cmd β} {w : World} : Decidable (ProbesLate β t e w) :=
  @instDecidableAnd _ _ (Option.decidableForallMem e.probed) (Option.decidableForallMem e.records)

/-! ## The invariant -/

/-- The first send of the recorded bytes is still to come, or was refused. -/
structure Fresh (h : Hash) (w : World) : Prop where
  admitted : ∀ x ∈ w.log, x.admits h = false
  closed : last (opening h) w.log ≠ some true

/-- The recorded bytes were not concluded as not admitted. -/
def Alive (h : Hash) (w : World) : Prop := last (life h) w.log = some true

/-- The scope's pending row, if there is one, is not of these bytes. -/
def NotPending (scope : SignType) (h : Hash) (w : World) : Prop :=
  ∀ row ∈ w.db.state, row.state = .pending → row.scope = scope → row.txHash ≠ h

/-- The invariant of runs of one signer, the process `p`. -/
structure Probed (p : String) (w : World) : Prop where
  concluded : Each Concluded w.log
  row : ∀ row ∈ w.db.state, Alive row.txHash w
  opened : ∀ h, last (opening h) w.log = some true → Alive h w
  stash : ∀ q s r, (w.mem q s).terminalRetry = some r → r.terminal.kind.notAdmitted = true →
    q = p ∧ Fresh r.pending.txHash w

/-- Fresh bytes of a recorded row of the scope. -/
def FreshIn (scope : Option SignType) (h : Hash) (w : World) : Prop :=
  Fresh h w ∧ ∃ s id op, scope = some s ∧ w.Recorded id h s op

/-- What the hand of a thread means. -/
def Hand.Means (scope : Option SignType) (w : World) : Hand → Prop
  | .empty => True
  | .unsent _ r | .refused _ r => FreshIn scope r.txHash w
  | .unsure _ h => FreshIn scope h w ∨ ∃ s, scope = some s ∧ NotPending s h w

/-- What a thread's hand and the rows it was shown mean. -/
structure Handles (p : String) (t : Tid) (k : View) (w : World) : Prop where
  proc : t.proc = cliName ∨ t.proc = p
  lock : ∀ s, k.scope = some s → t.proc = p
  row : ∀ f r, k.facts (.row f r) → Alive r.txHash w
  hand : k.hand.Means k.scope w

section
variable {S : Setup} {p : String} {t : Tid} {k k' : View} {w w' : World}

/-! ### What a step leaves of the bytes of a scope -/

/-- The bytes a log entry bears on. -/
def Event.about : Event → Option Hash
  | .recorded _ _ _ _ h _ _ | .sent _ h _ _ => some h
  | .resolved _ _ _ h kind => if kind.notAdmitted then some h else none
  | _ => none

variable {x : Event} {h : Hash} {β : Type} {scope : SignType} {answer : Option SendErr} {admitted : Bool} {db : DB}
  {fault : Fault} {fence : Fence} {evidence : SignedTxEvidence} {pending : PendingRecord} {w' : World}
  {terminal : PendingTerminal}

theorem Event.life_of_about (hx : x.about ≠ some h) : x.life h = none := by
  cases x with
  | recorded => simpa [about, life] using hx
  | resolved =>
    refine if_neg fun hy => hx ?_
    simp [about, hy.1, hy.2]
  | _ => rfl

theorem Event.opening_of_about (hx : x.about ≠ some h) : x.opening h = none := by
  cases x with
  | recorded => simpa [about, opening] using hx
  | sent under =>
    cases under with
    | none => rfl
    | some => exact if_neg fun hy => hx (by simp [about, hy.1])
  | _ => rfl

theorem Event.admits_of_about (hx : x.about ≠ some h) : x.admits h = false := by
  cases x with
  | sent _ y =>
    have hne : y ≠ h := by simpa [about] using hx
    simp [admits, hne]
  | _ => rfl

theorem concluded_of_about (hx : x.about = none) (before : List Event) : Concluded x before := by
  cases x with
  | sent => cases hx
  | resolved =>
    intro hkind
    simp [about, hkind] at hx
  | _ => trivial

/-- Nothing was logged about any bytes, and no row became pending. -/
structure Untouched (w w' : World) : Prop where
  log : ∃ es, w'.log = es ++ w.log ∧ ∀ x ∈ es, x.about = none
  rows : ∀ row ∈ w'.db.state, ∃ r ∈ w.db.state, row.txHash = r.txHash ∧ row.scope = r.scope ∧
    (row.state = .pending → r.state = .pending)

theorem Untouched.of_eq (hlog : w'.log = w.log) (hdb : w'.db = w.db) : Untouched w w' :=
  ⟨⟨[], hlog, by simp⟩, fun row hrow => ⟨row, hdb ▸ hrow, rfl, rfl, id⟩⟩

/-- New entries say nothing of the bytes `h`. -/
def Silent (h : Hash) (w w' : World) : Prop :=
  ∃ es, w'.log = es ++ w.log ∧ ∀ x ∈ es, x.about ≠ some h

theorem Untouched.silent (hu : Untouched w w') (h : Hash) : Silent h w w' := by
  obtain ⟨es, hlog, hes⟩ := hu.log
  exact ⟨es, hlog, fun x hx => by simp [hes x hx]⟩

theorem Silent.cons (hx : x.about ≠ some h) {v : World} : Silent h w { v with log := x :: w.log } :=
  ⟨[x], rfl, by simpa using hx⟩

theorem Silent.fresh (hs : Silent h w w') (hf : Fresh h w) : Fresh h w' := by
  obtain ⟨_, hlog, hes⟩ := hs
  constructor
  · intro x hx
    rw [hlog, mem_append] at hx
    exact hx.elim (fun hx => admits_of_about (hes x hx)) (hf.admitted x)
  · rw [hlog, last_append fun x hx => opening_of_about (hes x hx)]
    exact hf.closed

theorem Silent.alive (hs : Silent h w w') (ha : Alive h w) : Alive h w' := by
  obtain ⟨_, hlog, hes⟩ := hs
  unfold Alive
  rw [hlog, last_append fun x hx => life_of_about (hes x hx)]
  exact ha

theorem Silent.opening (hs : Silent h w w') : last (opening h) w'.log = last (opening h) w.log := by
  obtain ⟨_, hlog, hes⟩ := hs
  rw [hlog, last_append fun x hx => opening_of_about (hes x hx)]

theorem FreshIn.mono {s : Option SignType} (h₀ : FreshIn s h w) (hfresh : Fresh h w → Fresh h w')
    (hlog : ∀ x ∈ w.log, x ∈ w'.log) : FreshIn s h w' := by
  obtain ⟨hf, s, id, op, hs, hrec⟩ := h₀
  exact ⟨hfresh hf, s, id, op, hs, hrec.mono hlog⟩

theorem Hand.Means.mono {hand : Hand} {s : Option SignType} (h : hand.Means s w)
    (hfresh : ∀ x, FreshIn s x w → FreshIn s x w')
    (hnot : ∀ x s', s = some s' → NotPending s' x w → NotPending s' x w') : hand.Means s w' := by
  cases hand with
  | empty => trivial
  | unsent | refused => exact hfresh _ h
  | unsure _ x =>
    refine h.imp (hfresh x) ?_
    rintro ⟨s', hs, hn⟩
    exact ⟨s', hs, hnot x s' hs hn⟩

theorem Untouched.concluded (hu : Untouched w w') (h : Each Concluded w.log) :
    Each Concluded w'.log := by
  obtain ⟨_, hlog, hes⟩ := hu.log
  rw [hlog]
  exact h.append fun x hx before => concluded_of_about (hes x hx) before

/-- A step that says nothing of any bytes, and stashes no new refusal. -/
theorem Probed.untouched (h : Probed p w) (hu : Untouched w w')
    (hstash : ∀ q s r, (w'.mem q s).terminalRetry = some r → r.terminal.kind.notAdmitted = true →
      q = p ∧ Fresh r.pending.txHash w) : Probed p w' where
  concluded := hu.concluded h.concluded
  row := fun row hrow => by
    obtain ⟨r, hr, hhash, -⟩ := hu.rows row hrow
    rw [hhash]
    exact (hu.silent _).alive (h.row r hr)
  opened := fun x hx => (hu.silent x).alive (h.opened x ((hu.silent x).opening ▸ hx))
  stash := fun q s r hr hkind =>
    ⟨(hstash q s r hr hkind).1, (hu.silent _).fresh (hstash q s r hr hkind).2⟩

theorem Handles.untouched (h : Handles p t k w) (hu : Untouched w w')
    (hlog : ∀ x ∈ w.log, x ∈ w'.log) : Handles p t k w' where
  __ := h
  row := fun f r hr => (hu.silent _).alive (h.row f r hr)
  hand := h.hand.mono (fun x hx => hx.mono (hu.silent x).fresh hlog) fun _ _ _ hn row hrow hstate hscope => by
    obtain ⟨r, hr, hhash, hs, hpending⟩ := hu.rows row hrow
    rw [hhash]
    exact hn r hr (hpending hstate) (hs ▸ hscope)

/-- Knowing nothing more of rows. -/
theorem Handles.tame (h : Handles p t k w) (ht : k.Tame k')
    (hlock : ∀ s, k'.scope = some s → t.proc = p) : Handles p t k' w where
  proc := h.proc
  lock := hlock
  row := fun f r hr => h.row f r (ht.row f r hr)
  hand := by
    obtain hempty | ⟨hhand, hscope⟩ := ht.hand
    · rw [hempty]
      trivial
    · rw [hhand, hscope]
      exact h.hand

variable {e : Cmd β}

theorem Calm.untouched (hc : Calm w w') : Untouched w w' := by
  obtain ⟨es, hlog, hes⟩ := hc.log
  refine ⟨⟨es, hlog, fun x hx => ?_⟩, fun row hrow => ?_⟩
  · have hx := hes x hx
    cases x with
    | synced | cleared | handed => rfl
    | _ => cases hx
  · rw [hc.db] at hrow
    exact ⟨row, hrow, rfl, rfl, id⟩

/-- What another thread knows, when a thread that holds the lock of `scope` touches
bytes of that scope. -/
theorem Handles.elsewhere (h : Handles p t k w) (hr : Reads t k w) {h₀ : Hash} (hother : k.scope ≠ some scope)
    (hbytes : ∀ id s op, w.Recorded id h₀ s op → s = scope) (hsilent : ∀ x, x ≠ h₀ → Silent x w w')
    (hrows : ∀ row ∈ w'.db.state, row.state = .pending → row.scope ≠ scope →
      ∃ r ∈ w.db.state, r.state = .pending ∧ row.txHash = r.txHash ∧ row.scope = r.scope)
    (hlog : ∀ x ∈ w.log, x ∈ w'.log) : Handles p t k w' := by
  have hne : ∀ id x s op, w.Recorded id x s op → k.scope = some s → x ≠ h₀ := by
    rintro id _ s op hrec hs rfl
    exact hother (hbytes id s op hrec ▸ hs)
  refine ⟨h.proc, h.lock, fun f r hrow => ?_, h.hand.mono (fun x hx => ?_)
    fun x s hs hnot row hrow hstate hscope => ?_⟩
  · obtain ⟨hrec, hs, -⟩ := hr.facts (.row f r) hrow
    exact (hsilent _ (hne _ _ _ _ hrec hs)).alive (h.row f r hrow)
  · obtain ⟨-, _, _, _, hs, hrec⟩ := id hx
    exact hx.mono (hsilent _ (hne _ _ _ _ hrec hs)).fresh hlog
  have hscope' : row.scope ≠ scope := by
    rintro rfl
    exact hother (hscope ▸ hs)
  obtain ⟨r, hr, hpending, hhash, hrs⟩ := hrows row hrow hstate hscope'
  rw [hhash]
  exact hnot r hr hpending (hrs ▸ hscope)

/-- Two threads of the signer do not hold the same lock. -/
theorem Handles.scope_ne {u : Tid} (hk : Knows S t k w) (hk' : Knows S u k' w) (hne : u ≠ t) (h : Handles p t k w)
    (h' : Handles p u k' w) (hs : k.scope = some scope) : k'.scope ≠ some scope := by
  intro hs'
  exact hk.proc_ne hk' hne hs hs' ((h'.lock scope hs').trans (h.lock scope hs).symm)

/-! ### Sends -/

theorem Alive.not_concluded {x : Hash} (ha : Alive x w) : last (life x) w.log ≠ some false := by
  rw [ha]
  decide

/-- A send ends no life. -/
theorem Alive.sent {x : Hash} {under : Option Fence} (ha : Alive x w) :
    Alive x (w.logged [.sent under h answer admitted]) :=
  (last_cons_none rfl).trans ha

/-- A send of the signer, of a row it saw under the lock. -/
theorem probed_send (hb : Base S w) (hl : Ledger S w) (hk : Knows S t k w) (hr : Reads t k w) (h : Probed p w)
    (hh : Handles p t k w) {f : Fence} {txHash : Hash} (ha : allowed S t.proc k (.send (some f) txHash))
    (hrefused : (classifyEvmSendError false answer).refused = true → admitted = false) :
    Probed p (w.logged [.sent (some f) txHash answer admitted]) ∧
      Handles p t { k with hand := k.hand.send txHash answer }
        (w.logged [.sent (some f) txHash answer admitted]) ∧
      ∀ u k', u ≠ t → Knows S u k' w → Reads u k' w → Handles p u k' w →
        Handles p u k' (w.logged [.sent (some f) txHash answer admitted]) := by
  obtain ⟨scope, row, ⟨-, hscope⟩, rfl, hrow, rfl, hmem⟩ := ha
  obtain ⟨hrec, -, -⟩ := hr.facts (.row f row) hrow
  have halive : Alive row.txHash w := hh.row f row hrow
  have hbytes : ∀ id s op, w.Recorded id row.txHash s op → s = row.scope :=
    fun id s op hrec' => hl.recorded_unique hb hrec' hrec
  have hsilent : ∀ x, x ≠ row.txHash → Silent x w (w.logged [.sent (some f) row.txHash answer admitted]) :=
    fun x hx => .cons (by simpa [about] using hx.symm)
  refine ⟨⟨⟨fun _ => halive.not_concluded, h.concluded⟩, fun r hr => (h.row r hr).sent, fun x hx => ?_,
    fun q s r hstash hkind => ?_⟩, ?_, fun u k' hne hk' hr' hh' => ?_⟩
  · by_cases heq : x = row.txHash
    · rw [heq]
      exact halive.sent
    · exact (h.opened x ((hsilent x heq).opening ▸ hx)).sent
  · -- the scope of the bytes has no stash
    obtain ⟨rfl, hfresh⟩ := h.stash q s r hstash hkind
    refine ⟨rfl, (hsilent _ ?_).fresh hfresh⟩
    intro heq
    obtain ⟨hrec', -⟩ := hl.stash q s r hstash hkind
    obtain ⟨hs, -⟩ := hb.stash q s r hstash
    have hsame := hbytes _ _ _ (heq ▸ hrec')
    have hnone := congrArg Prod.fst (hk.mem _ _ hscope hmem)
    rw [hh.lock _ hscope, ← hsame, hs] at hnone
    cases hstash.symm.trans hnone
  · refine ⟨hh.proc, hh.lock, fun g r hr => (hh.row g r hr).sent, ?_⟩
    have hlog : ∀ x ∈ w.log, x ∈ (w.logged [.sent (some f) row.txHash answer admitted]).log :=
      fun x hx => .tail _ hx
    have hkept : ∀ x, x ≠ row.txHash → FreshIn k.scope x w → FreshIn k.scope x _ :=
      fun x hne hx => hx.mono (hsilent x hne).fresh hlog
    have hin := hh.hand
    cases hhand : k.hand with (rw [hhand] at hin; rw [Hand.send])
    | empty => trivial
    | unsent =>
      split
      · split
        · -- a refused first send admits nothing and opens nothing
          rename_i hans
          refine FreshIn.mono hin (fun hfresh => ⟨fun x hx => ?_, ?_⟩) hlog
          · obtain rfl | hx := mem_cons.mp hx
            · simp [admits, hrefused hans]
            · exact hfresh.admitted x hx
          · rw [World.logged, singleton_append, last_cons_none (by simp [opening, hans])]
            exact hfresh.closed
        · trivial
      · exact hkept _ (by assumption) hin
    | refused =>
      split
      · trivial
      · exact hkept _ (by assumption) hin
    | unsure =>
      split
      · trivial
      · exact hin.imp_left (hkept _ (by assumption))
  · exact hh'.elsewhere hr' (Handles.scope_ne hk hk' hne hh hh' hscope) hbytes hsilent
      (fun r hr hstate _ => ⟨r, hr, hstate, rfl, rfl⟩) fun x hx => .tail _ hx

/-- A probe of bytes that a send of the signer has opened. -/
theorem probed_probe (h : Probed p w) {txHash : Hash} (hopen : last (opening txHash) w.log = some true) :
    Probed p (w.logged [.sent none txHash answer admitted]) ∧
      ∀ u k', Handles p u k' w → Handles p u k' (w.logged [.sent none txHash answer admitted]) := by
  have hfresh : ∀ x, Fresh x w → Fresh x (w.logged [.sent none txHash answer admitted]) := by
    intro _ hx
    refine Silent.fresh (.cons ?_) hx
    intro heq
    simp only [about, Option.some.injEq] at heq
    exact hx.closed (heq ▸ hopen)
  refine ⟨⟨⟨fun _ => (h.opened _ hopen).not_concluded, h.concluded⟩, fun r hr => (h.row r hr).sent,
    fun x hx => ?_, fun q s r hr hkind => ?_⟩, fun u k' hh => ?_⟩
  · rw [World.logged, singleton_append, last_cons_none rfl] at hx
    exact (h.opened x hx).sent
  · exact ⟨(h.stash q s r hr hkind).1, hfresh _ (h.stash q s r hr hkind).2⟩
  exact ⟨hh.proc, hh.lock, fun f r hr => (hh.row f r hr).sent, hh.hand.mono
    (fun x hx => hx.mono (hfresh x) fun _ hy => .tail _ hy) fun _ _ _ hn => hn⟩

/-! ### Store calls -/

/-- Calls that log nothing about bytes: all but a commit of `Record` and of a
not-admitted conclusion. -/
def StoreCall.isMute {β : Type} : StoreCall β → Bool
  | .record .. => false
  | .resolvePending _ _ terminal => !terminal.kind.notAdmitted
  | _ => true

variable {c : StoreCall β}

theorem StoreCall.about_of_isMute (hc : c.isMute = true) {height : Nat} {b : β}
    (hx : x ∈ c.event height b) : x.about = none := by
  cases c with
  | record => cases hc
  | acquireLease =>
    obtain ⟨_, _ | _⟩ := b
    · cases hx
    · obtain rfl := mem_singleton.mp hx
      rfl
  | resolvePending =>
    obtain rfl := mem_singleton.mp hx
    simpa [about, isMute] using hc
  | consumeOutcome =>
    obtain rfl := mem_singleton.mp hx
    rfl
  | _ => cases hx

theorem untouched_store (hc : c.isMute = true) {r : Except StoreErr β}
    (hexec : c.exec fault w.db = some (r, db)) :
    Untouched w { w with db, log := c.events fault w.height w.db ++ w.log } := by
  obtain ⟨rfl, hev, -⟩ | ⟨_, hrun, hev, -⟩ := exec_commits w.height hexec
  · rw [hev]
    exact .of_eq rfl rfl
  rw [hev]
  have hrec : c.isRecord = false := by
    cases c with
    | record => cases hc
    | _ => rfl
  refine ⟨⟨_, rfl, fun x hx => about_of_isMute hc hx⟩, fun row hrow => ?_⟩
  obtain ⟨r, hr, -, href, hpending⟩ := (run_rowTurn hrec hrun).rows.2.2 row hrow
  simp only [StateRow.ref, EvidenceRef.mk.injEq] at href
  exact ⟨r, hr, href.2.2.2.2.2.2, href.2.2.1, hpending⟩

/-- The scope's pending row was read. -/
theorem Handles.see (h : Handles p t k w) (hp : Probed p w) {chainID : String} {r : Option PendingRecord}
    (hr : getPending chainID scope w.db = r) :
    Handles p t (learnStore k (.getPending chainID scope) (.ok r)) w := by
  cases r with
  | none => exact h
  | some =>
    obtain ⟨row, hrow, hstate, -, rfl, rfl⟩ := getPending_some hr
    refine ⟨h.proc, h.lock, ?_, ?_⟩
    · rintro f x (hx | hx)
      · exact h.row f x hx
      obtain ⟨-, -, rfl⟩ : k.scope = some row.scope ∧ k.fence = some f ∧ row.toPending = x := by
        simpa using mem_underLock.mp hx
      exact hp.row row hrow
    · have hin := h.hand
      simp only [learnStore]
      split
      next hscope =>
        cases hhand : k.hand with rw [hhand] at hin
        | unsure =>
          rw [Hand.see]
          split
          next heq =>
            subst heq
            refine hin.resolve_right ?_
            rintro ⟨_, hs, hnot⟩
            cases hscope.symm.trans hs
            exact hnot row hrow hstate rfl rfl
          · exact hin
        | _ => exact hin
      · exact hin

/-- The tables have no room for a pending row beside one that `Record` could insert. -/
theorem notPending_of_record (hl : Ledger S w) {r : PendingRecord} (hchain : pending.chainID = S.chainID)
    (hrun : record fence evidence pending w.db = .ok (r, db)) (x : Hash) :
    NotPending pending.scope x w := by
  intro row hrow hstate hscope
  obtain ⟨-, -, _, _, -, hkeys, -, -⟩ := record_ok hrun
  have hclash := (pairwise_append.mp hkeys).2.2 row hrow _ (mem_singleton.mpr rfl)
  rw [StateRow.clashes_pending hstate rfl ((hl.row row hrow).1.trans hchain.symm) hscope] at hclash
  cases hclash

/-- `Record` itself does not fail with an unknown commit. -/
theorem record_ne_commitUnknown (fence : Fence) (evidence : SignedTxEvidence)
    (pending : PendingRecord) (db : DB) : record fence evidence pending db ≠ .error .commitUnknown := by
  have hfence : fenceCheck fence db ≠ .error .commitUnknown := by
    simp [fenceCheck, Except.bind_eq_error]
  have href : referenceEvidence fence evidence db ≠ .error .commitUnknown := by
    unfold referenceEvidence
    split
    · split <;> simp
    · simp
  have hwrite : ∀ (db : DB) rows, conflictOnDuplicate (db.writeState rows) ≠ .error .commitUnknown := by
    intro _ _ h
    unfold conflictOnDuplicate at h
    split at h
    · cases h
    · simp [DB.writeState, Except.bind_eq_error, pure, Except.pure] at h
  intro h
  simp only [record, Except.bind_eq_error, hfence, href, hwrite, false_or,
    Except.failIf_eq_error, reduceCtorEq, and_false, pure, Except.pure, exists_false] at h

/-- What a commit of `Record` leaves: the new row is alive and fresh, other bytes are
as they were. -/
theorem probed_record (h : Probed p w) {b : PendingRecord} (hnew : ∀ x ∈ w.log, x.admits pending.txHash = false)
    (hrun : record fence evidence pending w.db = .ok (b, db))
    (hw' : w' = w.commit db [.recorded fence.owner fence.epoch w.height b.id b.txHash b.scope b.operation]) :
    Probed p w' ∧ Alive pending.txHash w' ∧ Fresh pending.txHash w' ∧
      (∀ x, x ≠ pending.txHash → Silent x w w') ∧ (∀ x, Alive x w → Alive x w') ∧
      w'.Recorded b.id pending.txHash pending.scope pending.operation := by
  have hins := record_inserted hrun
  have hcols : b.txHash = pending.txHash ∧ b.scope = pending.scope ∧
      b.operation = pending.operation := by
    rw [hins.row]
    exact ⟨rfl, rfl, rfl⟩
  rw [hcols.1, hcols.2.1, hcols.2.2] at hw'
  subst hw'
  set w' := w.commit db [.recorded fence.owner fence.epoch w.height b.id pending.txHash pending.scope
    pending.operation]
  have halive : Alive pending.txHash w' := last_cons_some (by simp [life])
  have hclosed : last (opening pending.txHash) w'.log = some false :=
    last_cons_some (by simp [opening])
  have hfresh : Fresh pending.txHash w' := by
    refine ⟨fun x hx => ?_, by rw [hclosed]; decide⟩
    obtain rfl | hx := mem_cons.mp hx
    · rfl
    · exact hnew x hx
  have hsilent : ∀ x, x ≠ pending.txHash → Silent x w w' :=
    fun x hx => ⟨[_], rfl, by simpa [about] using hx.symm⟩
  have hkept : ∀ x, Alive x w → Alive x w' := by
    intro x hx
    by_cases heq : x = pending.txHash
    · exact heq ▸ halive
    · exact (hsilent x heq).alive hx
  refine ⟨⟨⟨trivial, h.concluded⟩, fun row hrow => ?_, fun x hx => ?_, fun q s r hr hkind => ?_⟩, halive,
    hfresh, hsilent, hkept, _, _, _, .head _⟩
  · have hrow : row ∈ db.state := hrow
    rw [hins.state] at hrow
    obtain hrow | hrow := mem_append.mp hrow
    · exact hkept _ (h.row row hrow)
    · obtain rfl := mem_singleton.mp hrow
      exact halive
  · by_cases heq : x = pending.txHash
    · exact heq ▸ halive
    · exact hkept x (h.opened x ((hsilent x heq).opening ▸ hx))
  · obtain ⟨hq, hr⟩ := h.stash q s r hr hkind
    refine ⟨hq, ?_⟩
    by_cases heq : r.pending.txHash = pending.txHash
    · exact heq ▸ hfresh
    · exact (hsilent _ heq).fresh hr

/-- A conclusion that fresh bytes were not admitted. -/
theorem probed_conclude (hb : Base S w) (hl : Ledger S w) (h : Probed p w) {o : Option OutcomeRecord}
    (hkind : terminal.kind.notAdmitted = true) (hfresh : Fresh pending.txHash w)
    (hrun : resolvePending fence pending terminal w.db = .ok (o, db))
    (hw' : w' = w.commit db [.resolved fence.owner fence.epoch pending.id pending.txHash terminal.kind]) :
    Probed p w' ∧ (∀ x, x ≠ pending.txHash → Silent x w w') ∧ ∀ x, Fresh x w → Fresh x w' := by
  subst hw'
  set w' := w.commit db [.resolved fence.owner fence.epoch pending.id pending.txHash terminal.kind]
  have hsilent : ∀ x, x ≠ pending.txHash → Silent x w w' :=
    fun x hx => ⟨[_], rfl, by simpa [about, hkind] using hx.symm⟩
  have hkept : ∀ x, Fresh x w → Fresh x w' := by
    refine fun x hx => ⟨fun y hy => ?_, ?_⟩
    · obtain rfl | hy := mem_cons.mp hy
      · rfl
      · exact hx.admitted y hy
    · exact (last_cons_none rfl).trans_ne hx.closed
  -- the row of the bytes is the one that is deleted
  have hrows : ∀ row ∈ db.state, row ∈ w.db.state ∧ row.txHash ≠ pending.txHash := by
    obtain ⟨-, ⟨row₀, hrow₀, -, _, -, hid, hhash⟩, _, hturn, rfl⟩ := resolvePending_ok hrun
    have hnokeep : terminal.kind ≠ .successKeep := by
      intro hkeep
      rw [hkeep] at hkind
      cases hkind
    rw [if_neg hnokeep] at hturn
    obtain ⟨-, rfl⟩ := DB.turn_ok hturn
    intro row hrow
    rw [(insertTerminalAudits_sameRows ..).state] at hrow
    obtain ⟨hrow, hother⟩ | ⟨_, _, hg, -⟩ := DB.mem_turned.mp hrow
    · refine ⟨hrow, fun heq => ?_⟩
      obtain rfl := hb.wf.row_unique_evidence hrow hrow₀
        ((hl.row row hrow).1.trans (hl.row row₀ hrow₀).1.symm) (heq.trans hhash.symm)
      simp [hid, hhash] at hother
    · cases hg
  refine ⟨⟨⟨fun _ => hfresh.admitted, h.concluded⟩, fun row hrow => ?_, fun x hx => ?_,
    fun q s r hr hkind => ⟨(h.stash q s r hr hkind).1, hkept _ (h.stash q s r hr hkind).2⟩⟩, hsilent, hkept⟩
  · obtain ⟨hrow, hne⟩ := hrows row hrow
    exact (hsilent _ hne).alive (h.row row hrow)
  have hne : x ≠ pending.txHash := by
    rintro rfl
    exact hfresh.closed hx
  exact (hsilent x hne).alive (h.opened x hx)

/-- What a not-admitted conclusion is drawn from is fresh, and recorded in the scope. -/
theorem fresh_of_justifies (hl : Ledger S w) (hk : Knows S t k w) (hr : Reads t k w) (h : Probed p w)
    (hh : Handles p t k w) {epoch : Nat} {kind : TerminalKind} (hscope : k.scope = some pending.scope)
    (hj : k.Justifies epoch pending kind) (hkind : kind.notAdmitted = true) :
    Fresh pending.txHash w ∧ w.Recorded pending.id pending.txHash pending.scope pending.operation := by
  obtain hhand | ⟨r, _, hmem, rfl, -, hkind'⟩ := hj.refusal hkind
  · have hin := hh.hand
    have hrow := hr.hand
    rw [hhand] at hin hrow
    exact ⟨hin.1, hrow.1⟩
  · have hstash := congrArg Prod.fst (hk.mem _ _ hscope hmem)
    exact ⟨(h.stash _ _ r hstash hkind').2, (hl.stash _ _ r hstash hkind').1⟩

/-- What a step has to show. -/
structure ProbedStep (S : Setup) (p : String) (t : Tid) (k : View) (w w' : World) : Prop where
  inv : Probed p w'
  own : Handles p t k w'
  others : ∀ u k', u ≠ t → Knows S u k' w → Reads u k' w → Handles p u k' w → Handles p u k' w'

/-- The view after a not-admitted conclusion holds nothing of the row. -/
theorem row_of_learn_conclude (hkind : terminal.kind.notAdmitted = true) {f : Fence}
    {x : PendingRecord} {r : Except StoreErr (Option OutcomeRecord)}
    (hx : (learnStore k (.resolvePending fence pending terminal) r).facts (.row f x)) :
    k.facts (.row f x) ∧ x.txHash ≠ pending.txHash := by
  have hforget : (k.forget pending.txHash).facts (.row f x) := by
    rcases r with _ | _
    · simpa [learnStore, hkind] using hx
    · simp only [learnStore, hkind, if_true] at hx
      refine hx.resolve_right fun hmem => ?_
      split at hmem <;> simp at hmem
  exact ⟨hforget.1, hforget.2 f x rfl⟩

variable (hi : Probed p w) (hh : Handles p t k w)
include hi hh

/-- A call that says nothing of any bytes and teaches nothing of rows. -/
theorem probed_tame {r : β} (ha : allowed S t.proc k e)
    (he : e.isTame = true) (hd : Does S t w e r w') (hu : Untouched w w')
    (hstash : ∀ q s r, (w'.mem q s).terminalRetry = some r → r.terminal.kind.notAdmitted = true →
      q = p ∧ Fresh r.pending.txHash w) :
    ProbedStep S p t (learn k e r) w w' where
  inv := hi.untouched hu hstash
  own := (hh.tame (learn_tame k he r) fun s hs =>
    (learn_scope ha hs).elim (hh.lock s) hh.proc.resolve_left).untouched hu fun _ hx => hd.log_mem hx
  others := fun _ _ _ _ _ hh' => hh'.untouched hu fun _ hx => hd.log_mem hx

theorem probed_store_record (hb : Base S w) (hl : Ledger S w) (hk : Knows S t k w) {r : Except StoreErr PendingRecord}
    (ha : allowedStore S t.proc k (.record fence evidence pending))
    (hnew : ∀ x ∈ w.log, x.admits pending.txHash = false)
    (hexec : (StoreCall.record fence evidence pending).exec fault w.db = some (r, db))
    (hw' : w' = { w with db, log := (StoreCall.record fence evidence pending).events fault w.height w.db ++ w.log })
    (hb' : Base S w') (hl' : Ledger S w') :
    ProbedStep S p t (learnStore k (.record fence evidence pending) r) w w' := by
  obtain ⟨⟨-, hscope⟩, -, -, hchain, -, -, hm⟩ := ha
  have hhash : evidence.txHash = pending.txHash := hm.2.2.2.2.2.symm
  obtain ⟨rfl, hev, x, rfl⟩ | ⟨b, hrun, hev, hr⟩ := StoreCall.exec_commits w.height hexec
  · -- nothing was recorded
    rw [hev] at hw'
    obtain rfl : w' = w := hw'
    refine ⟨hi, ?_, fun _ _ _ _ _ hh' => hh'⟩
    cases x with
    | commitUnknown =>
      -- the commit is unknown only if the transaction ran
      unfold StoreCall.exec at hexec
      split at hexec
      · cases hexec
      next hrun =>
        cases hexec
        exact absurd hrun (record_ne_commitUnknown _ _ _ _)
      · cases hexec
      next hrun => exact { hh with hand := .inr ⟨pending.scope, hscope, notPending_of_record hl hchain hrun _⟩ }
      · cases hexec
    | _ => exact hh
  · rw [hev] at hw'
    obtain ⟨hp, halive, hfresh, hsilent, hkept, hrec⟩ := probed_record hi hnew hrun hw'
    have hins := record_inserted hrun
    have hlog : ∀ x ∈ w.log, x ∈ w'.log := by
      rw [hw']
      exact fun x hx => mem_append_right _ hx
    have hin : FreshIn k.scope pending.txHash w' := ⟨hfresh, _, _, _, hscope, hrec⟩
    refine ⟨hp, ?_, fun u k' hne hk' hr' hh' => ?_⟩
    · obtain rfl | rfl := hr
      · have hb : b.txHash = pending.txHash := by rw [hins.row]
        rw [← hb] at halive hin
        refine ⟨hh.proc, hh.lock, ?_, hin⟩
        rintro f x (hx | hx)
        · exact hkept _ (hh.row f x hx)
        · obtain ⟨-, rfl⟩ : f = fence ∧ x = b := by simpa using hx
          exact halive
      · exact ⟨hh.proc, hh.lock, fun f x hx => hkept _ (hh.row f x hx), .inl (hhash ▸ hin)⟩
    · refine hh'.elsewhere hr' (Handles.scope_ne hk hk' hne hh hh' hscope) (fun id s op hold => ?_) hsilent
        (fun row hrow hstate hother => ?_) hlog
      · exact hl'.recorded_unique hb' (hold.mono hlog) hrec
      have hrow : row ∈ db.state := by
        rw [hw'] at hrow
        exact hrow
      rw [hins.state] at hrow
      obtain hrow | hrow := mem_append.mp hrow
      · exact ⟨row, hrow, hstate, rfl, rfl⟩
      · obtain rfl := mem_singleton.mp hrow
        exact absurd rfl hother

theorem probed_store_conclude (hb : Base S w) (hl : Ledger S w) (hk : Knows S t k w) (hr : Reads t k w)
    {r : Except StoreErr (Option OutcomeRecord)}
    (ha : allowedStore S t.proc k (.resolvePending fence pending terminal))
    (hkind : terminal.kind.notAdmitted = true)
    (hexec : (StoreCall.resolvePending fence pending terminal).exec fault w.db = some (r, db))
    (hw' : w' = { w with db, log :=
      (StoreCall.resolvePending fence pending terminal).events fault w.height w.db ++ w.log }) :
    ProbedStep S p t (learnStore k (.resolvePending fence pending terminal) r) w w' := by
  obtain ⟨⟨-, hscope⟩, -, hj⟩ := ha
  have htame := View.Tame.learnStore k (c := .resolvePending fence pending terminal) rfl r
  have hstays := learnStore_stays k (.resolvePending fence pending terminal) r
  obtain ⟨rfl, hev, x, rfl⟩ | ⟨_, hrun, hev, -⟩ := StoreCall.exec_commits w.height hexec
  · rw [hev] at hw'
    obtain rfl : w' = w := hw'
    exact ⟨hi, hh.tame htame (hstays.scope ▸ hh.lock), fun _ _ _ _ _ hh' => hh'⟩
  rw [hev] at hw'
  obtain ⟨hfresh, hrec⟩ := fresh_of_justifies hl hk hr hi hh hscope hj hkind
  obtain ⟨hp, hsilent, hkept⟩ := probed_conclude hb hl hi hkind hfresh hrun hw'
  have hlog : ∀ x ∈ w.log, x ∈ w'.log := by
    rw [hw']
    exact fun x hx => mem_append_right _ hx
  have hrows : ∀ row ∈ w'.db.state, row.state = .pending →
      ∃ r ∈ w.db.state, r.state = .pending ∧ row.txHash = r.txHash ∧ row.scope = r.scope := by
    intro row hrow hstate
    rw [hw'] at hrow
    obtain ⟨r, hr, -, href, hpending⟩ :=
      (run_rowTurn (c := .resolvePending fence pending terminal) rfl hrun).rows.2.2 row hrow
    simp only [StateRow.ref, EvidenceRef.mk.injEq] at href
    exact ⟨r, hr, hpending hstate, href.2.2.2.2.2.2, href.2.2.1⟩
  refine ⟨hp, ?_, fun u k' hne hk' hr' hh' => ?_⟩
  · have hown := hh.tame htame (hstays.scope ▸ hh.lock)
    refine ⟨hh.proc, hown.lock, fun f x hx => ?_, hown.hand.mono (fun x hx => hx.mono (hkept x) hlog)
      fun x s hs hnot row hrow hstate hscope => ?_⟩
    · obtain ⟨hx, hne⟩ := row_of_learn_conclude hkind hx
      exact (hsilent _ hne).alive (hh.row f x hx)
    obtain ⟨r, hr, hpending, hhash, hrs⟩ := hrows row hrow hstate
    rw [hhash]
    exact hnot r hr hpending (hrs ▸ hscope)
  · exact hh'.elsewhere hr' (Handles.scope_ne hk hk' hne hh hh' hscope)
      (fun id s op hold => hl.recorded_unique hb hold hrec) hsilent
      (fun row hrow hstate _ => hrows row hrow hstate) hlog

/-- A store call that neither records nor concludes. -/
theorem probed_store_mute {r : Except StoreErr β} (ha : allowedStore S t.proc k c) (hc : c.isMute = true)
    (hexec : c.exec fault w.db = some (r, db)) : ProbedStep S p t (learnStore k c r) w
      { w with db, log := c.events fault w.height w.db ++ w.log } := by
  have hd : Does S t w (.store c) r { w with db, log := c.events fault w.height w.db ++ w.log } :=
    .store c fault hexec
  have hu := untouched_store hc hexec
  cases htame : c.isTame with
  | true => exact probed_tame (e := .store c) hi hh ha htame hd hu hi.stash
  | false =>
    cases c with
    | getPending =>
      refine ⟨hi.untouched hu hi.stash, ?_, fun _ _ _ _ _ hh' => hh'.untouched hu fun _ hx => hd.log_mem hx⟩
      refine Handles.untouched ?_ hu fun _ hx => hd.log_mem hx
      obtain ⟨_, rfl, hrun⟩ | ⟨_, rfl, -⟩ | ⟨rfl, -⟩ := exec_cases hexec
      · cases hrun
        exact hh.see hi rfl
      · exact hh
      · exact hh
    | record => cases hc
    | _ => cases htame

theorem probed_step {r : β} (hb : Base S w) (hl : Ledger S w) (hk : Knows S t k w) (hr : Reads t k w)
    (ha : allowed S t.proc k e)
    (hcond : ProbesLate β t e w) (hd : Does S t w e r w') (hb' : Base S w') (hl' : Ledger S w') :
    ProbedStep S p t (learn k e r) w w' := by
  have hcalm : e.isTame = true → e.isCalm = true → ProbedStep S p t (learn k e r) w w' := by
    intro he hc
    have hcalm := hd.calm hc
    refine probed_tame hi hh ha he hd hcalm.untouched fun q s r hr => ?_
    rw [hcalm.terminalRetry] at hr
    exact hi.stash q s r hr
  have htame : e.isTame = true → Untouched w w' → (∀ q s r, (w'.mem q s).terminalRetry = some r →
      r.terminal.kind.notAdmitted = true → q = p ∧ Fresh r.pending.txHash w) →
      ProbedStep S p t (learn k e r) w w' := fun he => probed_tame hi hh ha he hd
  cases hd with
  | idle quiet learns =>
    have hu := quiet.calm.untouched
    have hlog : ∀ x ∈ w.log, x ∈ w'.log := fun x hx => quiet.log ▸ hx
    rw [learns]
    refine ⟨hi.untouched hu fun q s r hr => ?_, hh.untouched hu hlog, fun _ _ _ _ _ hh' => hh'.untouched hu hlog⟩
    exact hi.stash q s r (quiet.terminalRetry q s ▸ hr)
  | lock | unlock | loadMem | putAwaiting | takeAwaiting | setSynced | fence | setAcquired | ask
  | noteCleared | hand => exact hcalm rfl rfl
  | setTerminalRetry scope =>
    refine htame rfl (.of_eq rfl rfl) fun q s r hr hkind => ?_
    rw [World.setMem_mem] at hr
    split at hr
    next hq =>
      obtain ⟨hscope, hstash⟩ := ha
      subst hr
      have hin := hh.hand
      rw [(hstash r rfl).refused hkind] at hin
      exact ⟨hq.1.trans (hh.lock scope hscope), hin.1⟩
    · exact hi.stash q s r hr hkind
  | setConsumeUnknown =>
    refine htame rfl (.of_eq rfl rfl) fun q s r hr => ?_
    rw [World.setMem_mem] at hr
    split at hr
    next hq => exact hi.stash q s r (by rw [hq.1, hq.2]; exact hr)
    · exact hi.stash q s r hr
  | store c _ hexec =>
    cases hc : c.isMute with
    | true => exact probed_store_mute hi hh ha hc hexec
    | false =>
      cases c with
      | record => exact probed_store_record hi hh hb hl hk ha (hcond.2 _ rfl) hexec rfl hb' hl'
      | resolvePending fence pending terminal =>
        have ha : allowedStore S t.proc k (.resolvePending fence pending terminal) := ha
        exact probed_store_conclude hi hh hb hl hk hr ha (by simpa [isMute] using hc) hexec rfl
      | _ => cases hc
  | send under txHash _ _ refused =>
    cases under with
    | none =>
      obtain ⟨hp, hothers⟩ := probed_probe hi (hcond.1 txHash rfl)
      exact ⟨hp, hothers t k hh, fun u k' _ _ _ hh' => hothers u k' hh'⟩
    | some =>
      obtain ⟨hp, hown, hothers⟩ := probed_send hb hl hk hr hi hh ha refused
      exact ⟨hp, hown, hothers⟩

end

/-! ## Every run -/

theorem probed_sound (S : Setup) (p : String) :
    Sound (system S (oneSigner p)) (disciplines S) jobView ProbesLate
      (fun w => (Base S w ∧ Ledger S w) ∧ Probed p w)
      fun t k w => (Knows S t k w ∧ Reads t k w) ∧ Handles p t k w := by
  refine (ledger_sound S (oneSigner p)).extend ⟨?_, ?_, ?_⟩
  · intro _ _ w _ _ h hstart _
    obtain ⟨rfl, -, hmay, hcommand, -⟩ := system_starts hstart
    have hu : Untouched w { w with nextThread := w.nextThread + 1 } := .of_eq rfl rfl
    refine ⟨h.untouched hu h.stash, ⟨?_, ?_, ?_, trivial⟩, fun _ _ _ hh => hh.untouched hu fun _ hx => hx⟩
    · simp only [oneSigner, Bool.or_eq_true, decide_eq_true_eq] at hmay
      exact hmay.imp_left hcommand.mp
    · rintro _ ⟨⟩
    · rintro _ _ ⟨⟩
  · intro _ _ _ _ _ _ _ _ hbl h hkr hh ha hcond hexec hbl' _
    obtain ⟨hp, hown, hothers⟩ := probed_step h hh hbl.1 hbl.2 hkr.1 hkr.2 ha hcond (exec_does hexec)
      hbl'.1 hbl'.2
    exact ⟨hp, hown, fun u k' hne hk' => hothers u k' hne hk'.1 hk'.2⟩
  · intro v w _ _ h henv
    cases henv
    have hq := v.quiet w
    refine ⟨h.untouched hq.calm.untouched fun q s r hr => ?_,
      fun u k hu => hu.untouched hq.calm.untouched fun x hx => hq.log ▸ hx⟩
    exact h.stash q s r (hq.terminalRetry q s ▸ hr)

/-- **Not-admitted conclusions.** In every run of one signer and any number of commands
whose probes come after a send of the signer that was not refused, and in which no
bytes that a node admitted are recorded again, bytes concluded as not admitted were
not admitted by any send, and are not admitted later. -/
theorem not_admitted_conclusions_hold (S : Setup) (p : String) (c : Config Cmd Tid World)
    (h : (system S (oneSigner p)).Reach ProbesLate {} c) : Each Concluded c.state.log := by
  have hinit : Probed p {} := ⟨trivial, by simp, by rintro h ⟨⟩, by rintro _ _ _ ⟨⟩⟩
  obtain ⟨⟨-, hp⟩, -⟩ := (probed_sound S p).reach ⟨ledger_init S, hinit⟩ h
  exact hp.concluded

/-- A request of `a` records the transaction 17, with the nonce 1. -/
def recordsAhead : List Act :=
  [.env (.dbTime 2000000)] ++ acquires ⟨"a", 0⟩ ++
    (.start ⟨"a", 1⟩ (.request .seal 7) :: steps ⟨"a", 1⟩
      [.none, .none, .none, .fault .none, .none, .nat (.ok 1), .none, .none, .none, .none,
       .fault .none, .fault .none, .none, .none]) ++
    records ⟨"a", 1⟩ 17 ++ steps ⟨"a", 1⟩ [.none]

/-- The first send is refused, and the row is deleted as not admitted. -/
def concludes : List Act :=
  steps ⟨"a", 1⟩ [.sent (some { rpc := some (-32000, "nonce too low"), text := "nonce too low" }) false,
    .flag false, .fault .none]

/-- `resolve` finds the nonce of the chain below that of the row, and sends its
bytes. Meanwhile the gap has closed: the node admits them. -/
def probes (h : Hash) : List Act :=
  let t : Tid := { proc := cliName, num := 2 }
  .start t (.resolve { scope := .seal, txHash := h, polls := 1 }) :: steps t
    [.fault .none, .fault .none, .optNat (.ok (some 5151)), .nat (.ok 5), .receipt (.ok none),
     .nat (.ok 0), .nat (.ok 0), .sent none true]

/-- The request signs again with the nonce 2, and sends the transaction 33. -/
def signsHigher : List Act :=
  steps ⟨"a", 1⟩ [.none, .nat (.ok 2), .none] ++ records ⟨"a", 1⟩ 33 ++
    steps ⟨"a", 1⟩ [.none, .sent none true]

/-- The transaction 17 is concluded as not admitted, and the later 33 is probed. -/
theorem not_admitted_conclusions_sample : ∃ c : Config Cmd Tid World,
    (system (sampleSetup fun _ => none) (oneSigner "a")).Reach ProbesLate {} c ∧
      .resolved "a" 1 1 17 .notAdmittedNonceLow ∈ c.state.log ∧ .sent none 33 none true ∈ c.state.log ∧
      Each Concluded c.state.log := by
  obtain ⟨c, hreach, hlog, hprobe⟩ : ∃ c,
      (system (sampleSetup fun _ => none) (oneSigner "a")).Reach ProbesLate {} c ∧
        .resolved "a" 1 1 17 .notAdmittedNonceLow ∈ c.state.log ∧ .sent none 33 none true ∈ c.state.log :=
    Reach.exists_of_run (recordsAhead ++ concludes ++ signsHigher ++ probes 33) (by decide +kernel)
  exact ⟨c, hreach, hlog, hprobe, not_admitted_conclusions_hold _ _ c hreach⟩

/-- The probe is admitted between `Record` and the signer's first send. -/
theorem admitted_bytes_concluded : ∃ c : Config Cmd Tid World,
    (system (sampleSetup fun _ => none) (oneSigner "a")).Reach always {} c ∧
      .sent none 17 none true ∈ c.state.log ∧
      .resolved "a" 1 1 17 .notAdmittedNonceLow ∈ c.state.log ∧ ¬ Each Concluded c.state.log :=
  Reach.exists_of_run (recordsAhead ++ probes 17 ++ concludes) (by decide +kernel)

end Signer

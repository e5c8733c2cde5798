-- SUMMARY: When no nonce is honoured twice.
import MocaSP.Base.Interleave
import MocaSP.Gater.Auth

/-!
# Single use of nonces

Any number of gateways handle requests and clean up expired claims on one
database. Their calls interleave, and the clock may advance between any two of
them.

A claim protects its nonce until the second of its expiry is over. After that the
row may be deleted or replaced. A request that was found unexpired and is delayed
before its claim reaches the database may find the row gone and pass a second
time. `Timely` excludes that.
-/

namespace Gater
open List Int

open Metadata (Effect Instant)

/-! ## The system -/

/-- A claim that the database granted, and when. -/
structure Pass where
  claim : Claim
  time : Instant
  deriving DecidableEq

structure World where
  clock : Instant
  /-- The table of claims: the expiry, in seconds, under each key. -/
  claims : Text → Option Int := fun _ => none
  /-- The claims that were granted, the latest last. -/
  passes : List Pass := []

/-- How a statement to the database goes. -/
inductive Fate where
  | done
  /-- It is not carried out. -/
  | failed
  /-- It is carried out, and the answer is lost. -/
  | lost

/-- What the services answer. -/
structure Answers where
  fate : Fate := .done
  header : Except SigErr Text := .error .rejected
  url : Except SigErr (Option Text) := .error .rejected
  permission : Except Unit Effect := .error ()
  authentication : Except Unit Bool := .error ()
  download : Except Unit Unit := .error ()

variable (w : World) (c : Claim) (now : Int)

namespace World

/-- `IF(expires_at < now, VALUES(expires_at), expires_at)`, or the new row. -/
def expiryAfter : Int :=
  match w.claims c.key with
  | none => unix c.expiresAt
  | some stored => if stored < now then unix c.expiresAt else stored

/-- One for an insert, two for a changed row, zero for an unchanged row. -/
def rowsAffected : Nat :=
  match w.claims c.key with
  | none => 1
  | some stored => if w.expiryAfter c now = stored then 0 else 2

def upsert : World :=
  { w with claims := Function.update w.claims c.key (some (w.expiryAfter c now)) }

/-- The answer is on its way, and lets the request pass if rows were affected. -/
def answered (rows : Nat) : World :=
  if rows > 0 then { w with passes := w.passes ++ [⟨c, w.clock⟩] } else w

def deleteExpired (expiredBefore : Int) : World :=
  { w with claims := fun key => (w.claims key).filter fun stored => ¬ stored < expiredBefore }

def exec {β : Type} (e : AuthCall β) (o : Answers) (w : World) : β × World :=
  match e with
  | .now _ => (w.clock, w)
  | .verifyHeader _ _ _ => (o.header, w)
  | .verifyURL _ _ _ => (o.url, w)
  | .upsert c now =>
    match o.fate with
    | .done => (.ok (w.rowsAffected c now), (w.upsert c now).answered c (w.rowsAffected c now))
    | .failed => (.error (), w)
    | .lost => (.error (), w.upsert c now)
  | .deleteExpired expiredBefore =>
    match o.fate with
    | .done => (.ok (), w.deleteExpired expiredBefore)
    | .failed => (.error (), w)
    | .lost => (.error (), w.deleteExpired expiredBefore)
  | .verifyPermission _ => (o.permission, w)
  | .verifyAuthentication _ _ => (o.authentication, w)
  | .downloadObject _ _ => (o.download, w)

end World

/-- What a gateway does: serve an object, handle another request, whose handler
goes on from its context, or clean up. -/
inductive Job where
  | getObject (g : Gateway) (r : Request)
  | request (g : Gateway) (router : Router) (r : Request)
  | cleanup

def Job.body : Job → Code Unit
  | .getObject g r => do
    let _ ← getObjectHandler g r
  | .request g router r => do
    let _ ← newRequestContext g router r
  | .cleanup => cleanupAuthNonces

/-- The gateways. Jobs start at any time, and time passes. -/
def system : Machine AuthCall Nat World Answers Job Nat where
  exec _ e o w := some (World.exec e o w)
  body _ j := j.body
  start _ _ w := some w
  env elapsed w := some { w with clock := w.clock + elapsed }

/-! ## What the code knows -/

/-- A job knows its latest reading of the clock. Times that it gives to the
database come from there. -/
def discipline : Discipline AuthCall (Option Instant) where
  allowed k e :=
    match e with
    | .upsert _ now => ∃ t ∈ k, now = unix t
    | .deleteExpired expiredBefore => ∃ t ∈ k, expiredBefore = unix t
    | _ => True
  answers _ _ _ := True
  learn k e r :=
    match e with
    | .now _ => some r
    | _ => k

/-- The code follows the discipline, whatever it knows at first. -/
def Follows (α : Type) (p : Code α) : Prop := ∀ k, discipline.Follows p k fun _ _ => True

theorem follows_compositional : Compositional Follows where
  ret _ _ := trivial
  bind hp hf k := (hp k).bind fun a k' _ => hf a k'
  ask e he k := by
    refine .do_ ?_ fun _ _ => trivial
    cases e <;> trivial
  claim route c k := by
    refine .do_bind trivial ?_
    intro t _
    refine .do_bind ⟨t, rfl, rfl⟩ ?_
    intro r _
    cases r <;> trivial

theorem Job.body_follows (j : Job) : Follows _ j.body := by
  cases j with
  | getObject g r =>
    refine follows_compositional.bind ?_ fun _ => follows_compositional.ret _
    exact follows_compositional.getObjectHandler
      (fun _ _ _ => .do_ trivial fun _ _ => trivial) g r
  | request g router r =>
    exact follows_compositional.bind (follows_compositional.newRequestContext g router r)
      fun _ => follows_compositional.ret _
  | cleanup =>
    intro _
    refine .do_bind trivial ?_
    intro t _
    exact .do_bind ⟨t, rfl, rfl⟩ fun _ _ => trivial

/-! ## The table and the clock -/

theorem unix_mono {s t : Instant} (h : s ≤ t) : unix s ≤ unix t := Int.ediv_le_ediv (by decide) h

theorem lt_of_unix_lt {s t : Instant} (h : unix s < unix t) : s < t := by
  by_contra hle
  have := unix_mono (not_lt.mp hle)
  omega

/-- Two granted claims of one nonce are of different requests, and the second is
granted after the first has expired. -/
def Pass.Apart (p q : Pass) : Prop :=
  p.claim.key = q.claim.key → p.claim.expiresAt ≠ q.claim.expiresAt ∧ p.claim.expiresAt < q.time

instance {p q : Pass} : Decidable (p.Apart q) := inferInstanceAs (Decidable (_ → _))

/-- Every nonce is honoured at most once. -/
def World.Once : Prop := w.passes.Pairwise Pass.Apart

instance {w : World} : Decidable w.Once := inferInstanceAs (Decidable (List.Pairwise _ _))

namespace World
variable {w : World} {c : Claim} {p : Pass} {now : Int}

/-- A granted claim is in the table until the second of its expiry is over. -/
def Covered (w : World) (p : Pass) : Prop :=
  (∃ stored ∈ w.claims p.claim.key, unix p.claim.expiresAt ≤ stored) ∨
    unix p.claim.expiresAt < unix w.clock

theorem claims_upsert : (w.upsert c now).claims c.key = some (w.expiryAfter c now) := by
  simp [upsert]

/-- What the table holds for a key is replaced only when it is over. -/
theorem Covered.upsert (h : w.Covered p) (hnow : now ≤ unix w.clock) :
    (w.upsert c now).Covered p := by
  by_cases hkey : p.claim.key = c.key
  · obtain ⟨stored, hstored, hle⟩ | hover := h
    · by_cases hold : stored < now
      · exact .inr (show _ < unix w.clock by omega)
      left
      refine ⟨stored, ?_, hle⟩
      have hafter : w.expiryAfter c now = stored := by
        simp [expiryAfter, ← hkey, Option.mem_def.mp hstored, hold]
      rw [hkey, claims_upsert, hafter]
      rfl
    · exact .inr hover
  · simpa [Covered, World.upsert, Function.update_of_ne hkey] using h

theorem expiryAfter_granted (hgranted : w.rowsAffected c now > 0) :
    w.expiryAfter c now = unix c.expiresAt := by
  cases hrow : w.claims c.key with
  | none => simp [expiryAfter, hrow]
  | some stored =>
    by_cases hold : stored < now
    · simp [expiryAfter, hrow, hold]
    · simp [rowsAffected, expiryAfter, hrow, hold] at hgranted

theorem Covered.deleteExpired (h : w.Covered p) (hnow : now ≤ unix w.clock) :
    (w.deleteExpired now).Covered p := by
  obtain ⟨stored, hstored, hle⟩ | hover := h
  · by_cases hold : stored < now
    · exact .inr (show _ < unix w.clock by omega)
    · left
      exact ⟨stored, by simp [World.deleteExpired, Option.mem_def.mp hstored, not_lt.mp hold], hle⟩
  · exact .inr hover

structure Sound (w : World) : Prop where
  covered : ∀ p ∈ w.passes, w.Covered p
  once : w.Once

end World

/-- A claim reaches the database no later than in the second of its expiry. -/
def Timely (β : Type) (_ : Nat) (e : AuthCall β) (w : World) : Prop :=
  match e with
  | .upsert c _ => unix w.clock ≤ unix c.expiresAt
  | _ => True

instance {β : Type} {t : Nat} {e : AuthCall β} {w : World} : Decidable (Timely β t e w) := by
  unfold Timely
  split <;> infer_instance

namespace World
variable {w : World} {c : Claim} {now : Int}

theorem Sound.upsert (h : w.Sound) (hnow : now ≤ unix w.clock) : (w.upsert c now).Sound :=
  ⟨fun p hp => (h.covered p hp).upsert hnow, h.once⟩

theorem Sound.granted (h : w.Sound) (hnow : now ≤ unix w.clock)
    (htimely : unix w.clock ≤ unix c.expiresAt) :
    ((w.upsert c now).answered c (w.rowsAffected c now)).Sound := by
  unfold answered
  split
  next hgranted =>
    have hupsert := h.upsert (c := c) hnow
    constructor
    · intro p hp
      obtain hp | hp := mem_append.mp hp
      · exact hupsert.covered p hp
      cases mem_singleton.mp hp
      left
      refine ⟨unix c.expiresAt, ?_, le_refl _⟩
      show (w.upsert c now).claims c.key = _
      rw [claims_upsert, expiryAfter_granted hgranted]
    · refine pairwise_append.mpr ⟨h.once, pairwise_singleton _ _, ?_⟩
      intro p hp _ hq hkey
      cases mem_singleton.mp hq
      -- the older claim is over, or no row would be affected
      have hover : unix p.claim.expiresAt < unix w.clock := by
        obtain ⟨stored, hstored, _⟩ | hover := h.covered p hp
        · by_cases hold : stored < now
          · omega
          · rw [hkey, Option.mem_def] at hstored
            simp [rowsAffected, expiryAfter, hstored, hold] at hgranted
        · exact hover
      refine ⟨?_, lt_of_unix_lt hover⟩
      intro heq
      rw [heq] at hover
      exact absurd htimely (not_le.mpr hover)
  · exact h.upsert hnow

end World

/-! ## Every run -/

/-- Readings of the clock are not ahead of it. -/
def Read (_ : Nat) (k : Option Instant) (w : World) : Prop := ∀ t ∈ k, t ≤ w.clock

theorem Read.unix_le {n : Nat} {k : Option Instant} {w : World} (h : Read n k w) {now : Int}
    (hknown : ∃ t ∈ k, now = unix t) : now ≤ unix w.clock := by
  obtain ⟨t, ht, rfl⟩ := hknown
  exact unix_mono (h t ht)

/-- No call changes the clock. -/
theorem World.exec_clock {β : Type} (e : AuthCall β) (o : Answers) (w : World) :
    (World.exec e o w).2.clock = w.clock := by
  cases e <;> simp only [World.exec]
  case upsert c now =>
    cases o.fate with
    | done =>
      simp only [World.answered]
      split <;> rfl
    | failed => rfl
    | lost => rfl
  case deleteExpired expiredBefore => cases o.fate <;> rfl

theorem World.Sound.exec {β : Type} {e : AuthCall β} {o : Answers} {w : World} {n : Nat}
    {k : Option Instant} (h : w.Sound) (hread : Read n k w) (hallowed : discipline.allowed k e)
    (htimely : Timely β n e w) : (World.exec e o w).2.Sound := by
  cases e with
  | upsert =>
    have hnow := hread.unix_le hallowed
    simp only [World.exec]
    cases o.fate with
    | done => exact h.granted hnow htimely
    | failed => exact h
    | lost => exact h.upsert hnow
  | deleteExpired expiredBefore =>
    have hnow := hread.unix_le hallowed
    have hdeleted : (w.deleteExpired expiredBefore).Sound :=
      ⟨fun p hp => (h.covered p hp).deleteExpired hnow, h.once⟩
    simp only [World.exec]
    cases o.fate with
    | done => exact hdeleted
    | failed => exact h
    | lost => exact hdeleted
  | now | verifyHeader | verifyURL | verifyPermission | verifyAuthentication | downloadObject => exact h

theorem system_sound :
    Machine.Sound system (fun _ => discipline) (fun _ _ => none) Timely World.Sound Read where
  body _ j _ _ _ := j.body_follows none
  start := by
    rintro _ _ _ _ hinv ⟨⟩
    exact ⟨hinv, nofun, fun _ _ _ h => h⟩
  step := by
    intro _ t k e o w w' r hinv hread hallowed htimely hexec
    have hexec : World.exec e o w = (r, w') := Option.some.inj hexec
    have hclock := World.exec_clock e o w
    have hsound := World.Sound.exec (o := o) hinv hread hallowed htimely
    rw [hexec] at hclock hsound
    have hkeeps : ∀ u k', Read u k' w → Read u k' w' := by
      intro _ _ h s hs
      exact hclock ▸ h s hs
    refine ⟨hsound, trivial, ?_, fun u k' _ => hkeeps u k'⟩
    cases e <;> try exact hkeeps t k hread
    cases hexec
    intro _ hs
    cases hs
    exact le_refl _
  env := by
    rintro elapsed w _ hinv ⟨⟩
    have hclock : w.clock ≤ w.clock + elapsed := le_add_of_nonneg_right (natCast_nonneg _)
    refine ⟨⟨fun p hp => ?_, hinv.once⟩, fun u k h s hs => le_trans (h s hs) hclock⟩
    obtain hrow | hover := hinv.covered p hp
    · exact .inl hrow
    · exact .inr (lt_of_lt_of_le hover (unix_mono hclock))

/-- **Single use.** In every run in which claims reach the database in time, no
request with a nonce passes twice, and requests with the same nonce pass only
after the earlier one has expired. -/
theorem nonce_honoured_once {clock : Instant} {claims : Text → Option Int}
    {c : Machine.Config AuthCall Nat World}
    (h : system.Reach Timely { clock, claims } c) : c.state.Once := by
  have hstart : World.Sound { clock, claims } := ⟨by simp, List.Pairwise.nil⟩
  exact (system_sound.reach hstart h).1.once

-- A signed request that expires at 10 s and carries a nonce.
def nonceGateway : Gateway where
  parseTime := fun _ => some (10 * second)

def nonceRequest : Request where
  header :=
    { authorization := .signed .gnfd1Ecdsa ['s'], expiryTimestamp := ['t'],
      nonce := replicate 32 'a' }
  query := {}
  bucketName := ['b']
  objectName := ['o']

def nonceClaim : Claim := ⟨'7' :: '|' :: replicate 32 'a', 10 * second⟩

/-- The steps of a request of account 7 up to its claim. -/
def uptoClaim (t : Nat) : List (Machine.Action Nat Answers Job Nat) :=
  [.start t (.getObject nonceGateway nonceRequest), .step t {}, .step t { header := .ok ['7'] },
    .step t {}, .step t {}]

/-- The request passes once, and is refused when it is sent again. -/
theorem nonce_honoured_once_sample :
    ∃ c, system.Reach Timely { clock := 8 * second } c ∧ c.state.passes.length = 1 ∧
      c.state.Once := by
  obtain ⟨c, hreach, hlen⟩ : ∃ c, system.Reach Timely { clock := 8 * second } c ∧
      c.state.passes.length = 1 :=
    Machine.Reach.exists_of_run (uptoClaim 0 ++ [.step 0 {}] ++ uptoClaim 1 ++ [.step 1 {}]) (by decide +kernel)
  exact ⟨c, hreach, hlen, nonce_honoured_once hreach⟩

/-- The request is sent twice. The second copy is found unexpired at 8 s, and its
claim is delayed until 12 s, when the first claim has been cleaned up: both
copies pass. -/
theorem nonce_honoured_twice :
    ∃ c, system.Reach Machine.always { clock := 8 * second } c ∧ ¬ c.state.Once ∧
      c.state.passes = [⟨nonceClaim, 8 * second⟩, ⟨nonceClaim, 12 * second⟩] := by
  exact Machine.Reach.exists_of_run (uptoClaim 0 ++ [.step 0 {}] ++ uptoClaim 1 ++
    [.env 4000000000, .start 2 .cleanup, .step 2 {}, .step 2 {}, .step 1 {}]) (by decide +kernel)

end Gater

-- SUMMARY: The memory admission of the resource manager in 64-bit arithmetic is exact.
import MocaSP.Base.Run

/-!
# Memory admission

`gfsprcmgr/resource.go` decides with wrapping `int64` arithmetic whether a reservation still
fits into the share of the limit that its priority may use.
-/

namespace Rcmgr
open Int64

/-- `resources`, as far as memory is concerned; `limit` is `limit.GetMemoryLimit()`. -/
structure Resources where
  limit : Int64
  memory : Int64

inductive MemoryErr
  | negative (rsvp : Int64)
  | limitExceeded (current attempted limit : Int64) (priority : UInt8)

def addInt64WithOverflow (a b : Int64) : Int64 × Bool :=
  (a + b, decide (a < a + b) == decide (0 < b))

def mulInt64WithOverflow (a b : Int64) : Int64 × Bool :=
  let c := a * b
  if a = 0 ∨ b = 0 ∨ a = 1 ∨ b = 1 then (c, true)
  else if a = maxValue ∨ b = minValue then (c, false)
  else (c, c / b == a)

/-- The threshold of `checkMemory`; the second branch is the one with big integers. -/
def threshold (limit : Int64) (prio : UInt8) : Int64 :=
  let factor : Int := 1 + prio.toNat
  let (product, mulOk) := mulInt64WithOverflow (ofInt factor) limit
  if mulOk then product / 256
  else
    let big := (limit.toInt * factor) >>> (8 : Nat)
    if minValue.toInt ≤ big ∧ big ≤ maxValue.toInt then ofInt big else limit

namespace Resources

variable (rc : Resources)

def checkMemory (rsvp : Int64) (prio : UInt8) : Except MemoryErr Unit :=
  if rsvp < 0 then .error (.negative rsvp)
  else if rc.limit = maxValue then .ok ()
  else
    let (newMem, addOk) := addInt64WithOverflow rc.memory rsvp
    if !addOk || threshold rc.limit prio < newMem then
      .error (.limitExceeded rc.memory rsvp rc.limit prio)
    else .ok ()

def reserveMemory (size : Int64) (prio : UInt8) : Except MemoryErr Resources :=
  (rc.checkMemory size prio).map fun _ => { rc with memory := rc.memory + size }

def releaseMemory (size : Int64) : Resources :=
  { rc with memory := if rc.memory - size < 0 then 0 else rc.memory - size }

end Resources

inductive Call
  | reserve (size : Int64) (prio : UInt8)
  | release (size : Int64)

def Resources.step (rc : Resources) : Call → Resources
  | .reserve size prio => (rc.reserveMemory size prio).toOption.getD rc
  | .release size => rc.releaseMemory size

/-! ## The threshold -/

/-- A quotient that gives the factor back bounds the product, which therefore did not wrap. -/
theorem mulInt64WithOverflow_exact {a b : Int64} (ha : 0 < a.toInt) (hb : 0 ≤ b.toInt)
    (h : (mulInt64WithOverflow a b).2 = true) :
    (mulInt64WithOverflow a b).1.toInt = a.toInt * b.toInt := by
  have hnonneg : 0 ≤ a.toInt * b.toInt := Int.mul_nonneg ha.le hb
  have hfst : (mulInt64WithOverflow a b).1 = a * b := by
    unfold mulInt64WithOverflow
    split_ifs <;> rfl
  suffices hlt : a.toInt * b.toInt < 2 ^ 63 by
    rw [hfst, toInt_mul]
    exact Int.bmod_eq_of_le (by omega) (by omega)
  unfold mulInt64WithOverflow at h
  split_ifs at h with h₁
  · have := a.toInt_lt
    have := b.toInt_lt
    rcases h₁ with rfl | rfl | rfl | rfl <;> simp_all
  · have hpos : 0 < b.toInt := by
      have : b.toInt ≠ 0 := fun h₀ => h₁ (.inr (.inl (toInt_inj.1 h₀)))
      omega
    have hdiv : (a * b).toInt.tdiv b.toInt = a.toInt := by
      rw [← toInt_div_of_ne_right _ _ (by rintro rfl; cases hpos), eq_of_beq h]
    have hc : 0 ≤ (a * b).toInt := by
      by_contra hneg
      have := Int.tdiv_le_tdiv hpos (not_le.1 hneg).le
      rw [hdiv, Int.zero_tdiv] at this
      omega
    have hmul := Int.mul_tdiv_self_le (k := b.toInt) hc
    have := (a * b).toInt_lt
    rw [hdiv, Int.mul_comm] at hmul
    omega

theorem share_le {limit : Int} (h : 0 ≤ limit) (prio : UInt8) :
    limit * (1 + prio.toNat) / 256 ≤ limit := by
  have hprio := prio.toNat_lt
  have := Int.mul_le_mul_of_nonneg_left (show (1 + prio.toNat : Int) ≤ 256 by omega) h
  omega

theorem threshold_toInt {limit : Int64} (h : 0 ≤ limit.toInt) (prio : UInt8) :
    (threshold limit prio).toInt = limit.toInt * (1 + prio.toNat) / 256 := by
  have hprio := prio.toNat_lt
  have hlt := limit.toInt_lt
  have hfactor : (ofInt (1 + prio.toNat)).toInt = 1 + prio.toNat :=
    toInt_ofInt_of_le (by omega) (by omega)
  have hle := share_le h prio
  have hnonneg : 0 ≤ limit.toInt * (1 + prio.toNat) := Int.mul_nonneg h (by omega)
  dsimp only [threshold]
  split_ifs with hok hbig
  · have hmul := mulInt64WithOverflow_exact (by omega) h hok
    rw [hfactor, Int.mul_comm] at hmul
    rw [toInt_div_of_ne_right _ _ (by decide), hmul]
    exact Int.tdiv_eq_ediv_of_nonneg hnonneg
  · rw [toInt_maxValue, toInt_minValue] at hbig
    rw [toInt_ofInt_of_le (by omega) (by omega)]
    exact Int.shiftRight_eq_div_pow ..
  · rw [toInt_maxValue, toInt_minValue, Int.shiftRight_eq_div_pow] at hbig
    omega

/-! ## Admission -/

/-- A sum of two amounts that does not fit turns negative. -/
theorem toInt_add_cases {a b : Int64} (ha : 0 ≤ a.toInt) (hb : 0 ≤ b.toInt) :
    (a + b).toInt = a.toInt + b.toInt ∨ (a + b).toInt < 0 ∧ 2 ^ 63 ≤ a.toInt + b.toInt := by
  have := a.toInt_lt
  have := b.toInt_lt
  rw [toInt_add, Int.bmod_def]
  split_ifs <;> omega

namespace Resources

variable (rc : Resources)

/-- The limit is not the one that stands for no limit, and the memory keeps to it. -/
def Bounded : Prop :=
  0 ≤ rc.memory.toInt ∧ rc.memory.toInt ≤ rc.limit.toInt ∧ rc.limit.toInt < 2 ^ 63 - 1

variable {rc}

theorem checkMemory_iff (h : rc.Bounded) (rsvp : Int64) (prio : UInt8) :
    rc.checkMemory rsvp prio = .ok () ↔ 0 ≤ rsvp.toInt ∧
      rc.memory.toInt + rsvp.toInt ≤ rc.limit.toInt * (1 + prio.toNat) / 256 := by
  obtain ⟨hmem, hle, hlimit⟩ := h
  have hfree : rc.limit ≠ maxValue := by
    rintro h
    rw [h, toInt_maxValue] at hlimit
    omega
  have hsum := toInt_add_cases hmem (b := rsvp)
  have hmax := (threshold rc.limit prio).toInt_lt
  rw [← threshold_toInt (hmem.trans hle)]
  simp only [checkMemory, addInt64WithOverflow, hfree, if_false, Bool.or_eq_true,
    Bool.not_eq_true', beq_eq_false_iff_ne, decide_eq_true_eq, ne_eq, decide_eq_decide,
    lt_iff_toInt_lt, toInt_zero]
  split_ifs with hneg hover <;> simp only [false_iff, true_iff] <;> omega

theorem step_bounded (h : rc.Bounded) : ∀ call, (∀ size, call = .release size → 0 ≤ size) →
    (rc.step call).limit = rc.limit ∧ (rc.step call).Bounded
  | .reserve size prio, _ => by
    cases hcheck : rc.checkMemory size prio with
    | error => simpa [step, reserveMemory, hcheck, Except.map, Except.toOption] using h
    | ok =>
      obtain ⟨hsize, hfits⟩ := (checkMemory_iff h size prio).1 hcheck
      obtain ⟨hmem, hle, hlimit⟩ := h
      have hshare := share_le (hmem.trans hle) prio
      have hsum := toInt_add_cases hmem hsize
      simp only [step, reserveMemory, hcheck, Except.map, Except.toOption, Option.getD, Bounded]
      exact ⟨trivial, by omega, by omega, hlimit⟩
  | .release size, hsize => by
    obtain ⟨hmem, hle, hlimit⟩ := h
    have hsize : 0 ≤ size.toInt := le_iff_toInt_le.1 (hsize size rfl)
    have hsub : (rc.memory - size).toInt = rc.memory.toInt - size.toInt := by
      have := size.toInt_lt
      rw [toInt_sub, Int.bmod_eq_of_le (by omega) (by omega)]
    refine ⟨rfl, ?_⟩
    simp only [step, releaseMemory, Bounded, lt_iff_toInt_lt, hsub]
    split_ifs <;> simp only [toInt_zero, hsub] at * <;> omega

theorem admission_exact (h : rc.Bounded) :
    (∀ rsvp prio, rc.checkMemory rsvp prio = .ok () ↔ 0 ≤ rsvp.toInt ∧
      rc.memory.toInt + rsvp.toInt ≤ rc.limit.toInt * (1 + prio.toNat) / 256) ∧
    ∀ calls : List Call, (∀ size, .release size ∈ calls → 0 ≤ size) →
      (calls.foldl step rc).limit = rc.limit ∧ (calls.foldl step rc).Bounded := by
  refine ⟨checkMemory_iff h, fun calls => ?_⟩
  induction calls generalizing rc with
  | nil => exact fun _ => ⟨rfl, h⟩
  | cons call rest ih =>
    intro hsizes
    obtain ⟨hlimit, hstep⟩ := step_bounded h call fun size hcall => hsizes size (hcall ▸ .head _)
    obtain ⟨hsame, hrest⟩ := ih hstep fun size hmem => hsizes size (.tail _ hmem)
    exact ⟨hsame.trans hlimit, hrest⟩

/-- With 400 in use: a reservation beyond the share of its priority is refused, one within its
share is made, and memory is released. -/
theorem admission_exact_in_use :
    (checkMemory ⟨1000, 400⟩ 100 127 = .ok () ↔
      (0 : Int) ≤ 100 ∧ (400 : Int) + 100 ≤ 1000 * (1 + 127) / 256) ∧
    ([.reserve 300 127, .reserve 100 255, .release 250].foldl step ⟨1000, 400⟩).memory = 250 ∧
      Bounded ([.reserve 300 127, .reserve 100 255, .release 250].foldl step ⟨1000, 400⟩) :=
  have h := @admission_exact ⟨1000, 400⟩ ⟨by decide, by decide, by decide⟩
  ⟨h.1 100 127, by decide, (h.2 [.reserve 300 127, .reserve 100 255, .release 250]
    (by rintro size (_ | ⟨_, _ | ⟨_, _ | ⟨_, ⟨⟩⟩⟩⟩); decide)).2⟩

end Resources

end Rcmgr

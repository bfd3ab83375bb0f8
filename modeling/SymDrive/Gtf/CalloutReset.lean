import Mathlib.Algebra.Order.Ring.Int
import SymDrive.Gtf.SlowTimers

/-!
# Slowing down callouts

`misc_checks/freebsd.c`: before the driver arms a callout its check multiplies the number of ticks,
as for the other timers, and in addition by a multiplier that doubles with every call.  The product
is cut off at 2000 ticks.

The multiplier is an `unsigned char`.  The test for zero stands in front of the doubling, so the
eighth doubling is used as it is: that callout fires at once, and every eighth one after it
(`callout_slowed_iff`).
-/

namespace SymDrive

open Checked

/-! ## The check routine -/

/-- The lock and the static variable of the routine. -/
structure CalloutState where
  lock : GlobalLock
  adaptive : UInt8

def CalloutState.initial : CalloutState where
  lock := ⟨0⟩
  adaptive := 1

/-- The test for zero. -/
def guardAdaptive (adaptive : UInt8) : UInt8 := if adaptive = 0 then 1 else adaptive

/-- `*to_ticks * g_sym_slow_timers * adaptive`, with the operands as `int`. -/
def scaledTicks (gSymSlowTimers : ℤ) (adaptive : UInt8) (toTicks : ℤ) : ℤ :=
  intValue (intValue (toTicks * gSymSlowTimers) * adaptive.toNat)

def calloutResetOnMJRcheck (gSymSlowTimers : ℤ) (s : CalloutState) (prepost toTicks : ℤ) :
    Except Fault (CalloutState × ℤ) :=
  (lockedRoutine s.lock <|
    if prepost = 0 then
      let adaptive := guardAdaptive s.adaptive * 2
      let toTicks := scaledTicks gSymSlowTimers adaptive toTicks
      .ok (adaptive, if toTicks > 2000 then 2000 else toTicks)
    else if prepost = 1 then .ok (s.adaptive, toTicks)
    else .error (.assertion (.check .calloutResetOn) "")).map
      fun r => ({ lock := r.1, adaptive := r.2.1 }, r.2.2)

/-! ## Runs -/

/-- The check before a call of `callout_reset_on`, and the one after it. -/
inductive CalloutEvent where
  | before (gSymSlowTimers toTicks : ℤ)
  | after (toTicks : ℤ)
  deriving DecidableEq, Repr

namespace CalloutEvent

def isBefore : CalloutEvent → Bool
  | before _ _ => true
  | after _ => false

def exec (s : CalloutState) : CalloutEvent → Except Fault CalloutState
  | before gSymSlowTimers toTicks =>
      (calloutResetOnMJRcheck gSymSlowTimers s 0 toTicks).map Prod.fst
  | after toTicks => (calloutResetOnMJRcheck 1 s 1 toTicks).map Prod.fst

/-- The driver waits for a positive time, the timers are not made faster, and the product fits. -/
def Legal (s : CalloutState) : CalloutEvent → Prop
  | before gSymSlowTimers toTicks => 0 < toTicks ∧ 1 ≤ gSymSlowTimers ∧
      toTicks * gSymSlowTimers * (guardAdaptive s.adaptive * 2).toNat < 2 ^ 31
  | after _ => True

/-- **The specification of one call**: the check goes through, and the kernel is given at most 2000
ticks and no fewer than the driver asked for. -/
def Slowed (s : CalloutState) : CalloutEvent → Prop
  | before gSymSlowTimers toTicks => ∃ s' ticks,
      calloutResetOnMJRcheck gSymSlowTimers s 0 toTicks = .ok (s', ticks) ∧
        ticks ≤ 2000 ∧ min toTicks 2000 ≤ ticks
  | after _ => True

end CalloutEvent

/-! ## The multiplier -/

/-- The lock is free, and the multiplier has been doubled `n` times since it was last 1. -/
structure CalloutInv (n : ℕ) (s : CalloutState) : Prop where
  lock : s.lock = ⟨0⟩
  adaptive : (guardAdaptive s.adaptive).toNat = 2 ^ (n % 8)

lemma calloutInv_initial : CalloutInv 0 .initial := ⟨rfl, rfl⟩

section

variable {n : ℕ} {s : CalloutState} {adaptive : UInt8}

/-- The eighth doubling runs over. -/
lemma doubled_toNat (h : (guardAdaptive adaptive).toNat = 2 ^ (n % 8)) :
    (guardAdaptive adaptive * 2).toNat = if n % 8 = 7 then 0 else 2 ^ (n % 8 + 1) := by
  rw [UInt8.toNat_mul, h]
  show 2 ^ (n % 8) * 2 % 2 ^ 8 = _
  rw [← Nat.pow_succ]
  split_ifs with hlast
  · rw [hlast]
  · exact Nat.mod_eq_of_lt (Nat.pow_lt_pow_right (by decide) (by omega))

/-- A product that has run over is zero. -/
lemma doubled_eq_zero_iff (h : (guardAdaptive adaptive).toNat = 2 ^ (n % 8)) :
    (guardAdaptive adaptive * 2).toNat = 0 ↔ n % 8 = 7 := by
  rw [doubled_toNat h]
  split_ifs with hlast
  · exact iff_of_true rfl hlast
  · exact iff_of_false (Nat.two_pow_pos _).ne' hlast

/-- The test for zero starts the doubling again. -/
lemma guardAdaptive_doubled (h : (guardAdaptive adaptive).toNat = 2 ^ (n % 8)) :
    (guardAdaptive (guardAdaptive adaptive * 2)).toNat = 2 ^ ((n + 1) % 8) := by
  have hzero : guardAdaptive adaptive * 2 = 0 ↔ n % 8 = 7 := by
    rw [← doubled_eq_zero_iff h, ← UInt8.toNat_inj]
    rfl
  rw [guardAdaptive]
  split_ifs with h0
  · have hnext : (n + 1) % 8 = 0 := by
      have hlast := hzero.mp h0
      omega
    rw [hnext]
    rfl
  · have hlast : n % 8 ≠ 7 := fun hlast => h0 (hzero.mpr hlast)
    have hnext : (n + 1) % 8 = n % 8 + 1 := by omega
    rw [doubled_toNat h, if_neg hlast, hnext]

/-- What the check does before the call. -/
lemma calloutResetOn_before (h : CalloutInv n s) (gSymSlowTimers toTicks : ℤ) :
    let multiplier := guardAdaptive s.adaptive * 2
    calloutResetOnMJRcheck gSymSlowTimers s 0 toTicks = .ok ({ s with adaptive := multiplier },
      min (scaledTicks gSymSlowTimers multiplier toTicks) 2000) := by
  dsimp only
  rw [calloutResetOnMJRcheck, h.lock, lockedRoutine_free, if_pos rfl]
  have hmin : ∀ x : ℤ, (if x > 2000 then 2000 else x) = min x 2000 := by
    intro x
    split_ifs <;> omega
  simp only [hmin]
  rfl

lemma CalloutInv.exec (h : CalloutInv n s) (e : CalloutEvent) :
    ∃ s', e.exec s = .ok s' ∧ CalloutInv (n + [e].countP CalloutEvent.isBefore) s' := by
  cases e with
  | before gSymSlowTimers toTicks =>
      refine ⟨_, congrArg (Except.map Prod.fst)
        (calloutResetOn_before h gSymSlowTimers toTicks), ?_⟩
      exact ⟨h.lock, guardAdaptive_doubled h.adaptive⟩
  | after toTicks =>
      refine ⟨s, ?_, h⟩
      rw [CalloutEvent.exec, calloutResetOnMJRcheck, h.lock, lockedRoutine_free]
      obtain ⟨lock, adaptive⟩ := s
      obtain rfl : lock = ⟨0⟩ := h.lock
      rfl

/-- Every run goes through. -/
lemma CalloutInv.run (h : CalloutInv n s) (events : List CalloutEvent) :
    ∃ s', events.foldlM CalloutEvent.exec s = .ok s' ∧
      CalloutInv (n + events.countP CalloutEvent.isBefore) s' := by
  induction events generalizing n s with
  | nil => exact ⟨s, rfl, h⟩
  | cons e events ih =>
      obtain ⟨s₁, hexec, h₁⟩ := h.exec e
      obtain ⟨s', hrun, h'⟩ := ih h₁
      refine ⟨s', ?_, ?_⟩
      · rw [List.foldlM_cons, hexec, ok_bind, hrun]
      · rwa [List.countP_cons, List.countP_nil, Nat.zero_add, Nat.add_assoc, Nat.add_comm _
          (events.countP _), ← List.countP_cons] at h'

/-! ## What the kernel is given -/

lemma intValue_of_lt {x : ℤ} (hlow : 0 ≤ x) (hhigh : x < 2 ^ 31) : intValue x = x := by
  rw [intValue, Int.bmod_def]
  split_ifs <;> omega

lemma CalloutInv.slowed_iff (h : CalloutInv n s) {gSymSlowTimers toTicks : ℤ}
    (hlegal : (CalloutEvent.before gSymSlowTimers toTicks).Legal s) :
    (CalloutEvent.before gSymSlowTimers toTicks).Slowed s ↔ n % 8 ≠ 7 := by
  obtain ⟨hticks, hfactor, hfits⟩ := hlegal
  have hbefore := calloutResetOn_before h gSymSlowTimers toTicks
  have hzero := doubled_eq_zero_iff h.adaptive
  generalize guardAdaptive s.adaptive * 2 = multiplier at hbefore hzero hfits
  have hiff : (CalloutEvent.before gSymSlowTimers toTicks).Slowed s ↔
      min toTicks 2000 ≤ min (scaledTicks gSymSlowTimers multiplier toTicks) 2000 := by
    rw [CalloutEvent.Slowed, hbefore]
    constructor
    · rintro ⟨s', ticks, heq, _, hle⟩
      cases heq
      exact hle
    · exact fun hle => ⟨_, _, rfl, min_le_right _ _, hle⟩
  rw [hiff, ne_eq, ← hzero]
  have hscaled : 0 < toTicks * gSymSlowTimers := Int.mul_pos hticks (by omega)
  by_cases h0 : multiplier.toNat = 0
  · -- the product is zero, whatever the driver asked for
    rw [scaledTicks, h0]
    have hnone : intValue (intValue (toTicks * gSymSlowTimers) * (0 : ℕ)) = 0 := by
      rw [Nat.cast_zero, Int.mul_zero]
      rfl
    rw [hnone]
    omega
  · have hone : (1 : ℤ) ≤ multiplier.toNat := by omega
    have hle : toTicks * gSymSlowTimers ≤ toTicks * gSymSlowTimers * multiplier.toNat :=
      le_mul_of_one_le_right hscaled.le hone
    have hticks' : toTicks ≤ toTicks * gSymSlowTimers := le_mul_of_one_le_right hticks.le hfactor
    rw [scaledTicks, intValue_of_lt hscaled.le (by omega), intValue_of_lt (by omega) hfits]
    exact iff_of_true (min_le_min_right 2000 (hticks'.trans hle)) h0

end

/-- **When a callout is slowed down**: at every call of a run, unless it is the eighth one, or a
multiple of eight calls after that. -/
theorem callout_slowed_iff (earlier : List CalloutEvent) (s : CalloutState)
    (hrun : earlier.foldlM CalloutEvent.exec .initial = .ok s) (gSymSlowTimers toTicks : ℤ)
    (hlegal : (CalloutEvent.before gSymSlowTimers toTicks).Legal s) :
    (CalloutEvent.before gSymSlowTimers toTicks).Slowed s ↔
      earlier.countP CalloutEvent.isBefore % 8 ≠ 7 := by
  obtain ⟨s', hrun', h⟩ := calloutInv_initial.run earlier
  rw [hrun] at hrun'
  cases hrun'
  rw [Nat.zero_add] at h
  exact h.slowed_iff hlegal

/-- A driver that arms a callout of one second again and again. -/
def rearmed (n : ℕ) : List CalloutEvent := List.replicate n (.before 1 100)

/-- The fourth one is slowed. -/
theorem callout_slowed_fourth :
    (rearmed 3).foldlM CalloutEvent.exec .initial = .ok { lock := ⟨0⟩, adaptive := 8 } ∧
      (CalloutEvent.before 1 100).Slowed { lock := ⟨0⟩, adaptive := 8 } :=
  ⟨rfl, (callout_slowed_iff (rearmed 3) { lock := ⟨0⟩, adaptive := 8 } rfl 1 100
    ⟨by decide, by decide, by decide⟩).mpr (by decide)⟩

/-- The eighth callout is given no time at all. -/
theorem eighth_callout_fires_at_once :
    (rearmed 7).foldlM CalloutEvent.exec .initial = .ok { lock := ⟨0⟩, adaptive := 128 } ∧
      (CalloutEvent.before 1 100).Legal { lock := ⟨0⟩, adaptive := 128 } ∧
        ¬ (CalloutEvent.before 1 100).Slowed { lock := ⟨0⟩, adaptive := 128 } := by
  refine ⟨rfl, ⟨by decide, by decide, by decide⟩, ?_⟩
  rintro ⟨s', ticks, hcheck, _, hle⟩
  cases hcheck
  exact absurd hle (by decide)

end SymDrive

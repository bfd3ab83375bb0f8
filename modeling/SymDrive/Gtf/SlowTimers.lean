import SymDrive.Gtf.DriverState
import SymDrive.Library.WrappingClock

/-!
# Slowing down timers

`misc_checks/main.c`: before a driver starts a timer its check multiplies the delay by the module
parameter `g_sym_slow_timers`, so that symbolic execution has more time.  `add_timer` and
`mod_timer` take the time at which the timer fires, the others a delay.

Multiplying a delay makes it longer, as long as the product fits.  Multiplying a time does not make
it later: the counter wraps around, and where the product ends depends on the time alone
(`timer_not_earlier_iff`).

`w` is the width of `unsigned long`, and an `int` has 32 bits and wraps around.
-/

namespace SymDrive

open Checked

/-! ## The check routines -/

/-- The module parameter, and `HZ` of the kernel configuration. -/
structure TimerParams where
  gSymSlowTimers : ℤ
  hz : ℤ

/-- The value of an `int` expression. -/
def intValue (x : ℤ) : ℤ := x.bmod (2 ^ 32)

/-- `check_routine_start`, what is done to the argument, `check_routine_end`. -/
def argumentRoutine {w : ℕ} (s : CheckState) (body : Except Fault (BitVec w)) :
    Except Fault (CheckState × BitVec w) :=
  (lockedRoutine s.lock body).map fun r => ({ s with lock := r.1 }, r.2)

section

variable {w : ℕ} (p : TimerParams) (s : CheckState) (prepost : ℤ)

/-- `*arg = *arg * g_sym_slow_timers` before the call. -/
def scaleRoutine (arg : BitVec w) : Except Fault (CheckState × BitVec w) :=
  argumentRoutine s <|
    if prepost = 0 then .ok (arg * BitVec.ofInt w p.gSymSlowTimers) else .ok arg

/-- The same, with any other `prepost` as a mistake. -/
def scaleRoutineStrict (check : Check) (arg : BitVec w) : Except Fault (CheckState × BitVec w) :=
  argumentRoutine s <|
    if prepost = 0 then .ok (arg * BitVec.ofInt w p.gSymSlowTimers)
    else if prepost = 1 then .ok arg
    else .error (.assertion (.check check) "")

def scheduleDelayedWorkMJRcheck (delay : BitVec w) : Except Fault (CheckState × BitVec w) :=
  scaleRoutine p s prepost delay

def queueDelayedWorkMJRcheck (delay : BitVec w) : Except Fault (CheckState × BitVec w) :=
  scaleRoutine p s prepost delay

def scheduleTimeoutMJRcheck (timeout : BitVec w) : Except Fault (CheckState × BitVec w) :=
  scaleRoutine p s prepost timeout

/-- The interrupts of the virtual machine, which this check switches on and off, are left out. -/
def scheduleTimeoutUninterruptibleMJRcheck (timeout : BitVec w) :
    Except Fault (CheckState × BitVec w) :=
  scaleRoutineStrict p s prepost .scheduleTimeoutUninterruptible timeout

/-- `(*timer)->expires`. -/
def addTimerMJRcheck (expires : BitVec w) : Except Fault (CheckState × BitVec w) :=
  scaleRoutineStrict p s prepost .addTimer expires

/-- `(g_sym_slow_timers - 1) * HZ` is an `int`. -/
def modTimerMJRcheck (expires : BitVec w) : Except Fault (CheckState × BitVec w) :=
  argumentRoutine s <|
    if prepost = 0 then
      .ok (expires + BitVec.ofInt w (intValue ((p.gSymSlowTimers - 1) * p.hz)))
    else .ok expires

end

/-! ## The hooks -/

inductive TimerHook where
  | addTimer
  | modTimer
  | scheduleTimeout
  | scheduleTimeoutUninterruptible
  | scheduleDelayedWork
  | queueDelayedWork
  deriving DecidableEq, Repr

namespace TimerHook

variable {w : ℕ}

def check (hook : TimerHook) (p : TimerParams) (s : CheckState) (prepost : ℤ) (arg : BitVec w) :
    Except Fault (CheckState × BitVec w) :=
  match hook with
  | addTimer => addTimerMJRcheck p s prepost arg
  | modTimer => modTimerMJRcheck p s prepost arg
  | scheduleTimeout => scheduleTimeoutMJRcheck p s prepost arg
  | scheduleTimeoutUninterruptible => scheduleTimeoutUninterruptibleMJRcheck p s prepost arg
  | scheduleDelayedWork => scheduleDelayedWorkMJRcheck p s prepost arg
  | queueDelayedWork => queueDelayedWorkMJRcheck p s prepost arg

/-- The argument is the time at which the timer fires, and not a delay. -/
def absolute : TimerHook → Bool
  | addTimer | modTimer => true
  | _ => false

/-- The argument with which a driver asks for the delay `d`. -/
def request (hook : TimerHook) (jiffies d : BitVec w) : BitVec w :=
  if hook.absolute then jiffies + d else d

/-- The time an argument denotes. -/
def time (hook : TimerHook) (jiffies arg : BitVec w) : BitVec w :=
  if hook.absolute then arg else jiffies + arg

/-- **The specification of one call**: the check before it goes through, and what it hands to the
kernel denotes a time that is not earlier than the one the driver asked for. -/
def NotEarlier (hook : TimerHook) (p : TimerParams) (jiffies d : BitVec w) : Prop :=
  ∀ r : Records, ∃ arg, hook.check p (.free r) 0 (hook.request jiffies d) = .ok (.free r, arg) ∧
    Clock.AfterEq (hook.time jiffies arg) (jiffies + d)

/-- The numbers stay in the half of the counter that lies ahead. -/
def InRange (p : TimerParams) (d : BitVec w) : Prop :=
  p.gSymSlowTimers * d.toNat + (p.gSymSlowTimers - 1) * p.hz < 2 ^ (w - 1)

/-- For `add_timer` the expiry, multiplied by one less than the factor, is an even number of
half-turns of the counter and a rest; for `mod_timer` the `int` that is added is not negative. -/
def Harmless (hook : TimerHook) (p : TimerParams) (expiry : BitVec w) : Prop :=
  match hook with
  | addTimer => Even ((p.gSymSlowTimers.toNat - 1) * expiry.toNat / 2 ^ (w - 1))
  | modTimer => 0 ≤ intValue ((p.gSymSlowTimers - 1) * p.hz)
  | _ => True

/-! ## What the checks hand to the kernel -/

/-- The argument the kernel gets. -/
def handed (hook : TimerHook) (p : TimerParams) (arg : BitVec w) : BitVec w :=
  match hook with
  | modTimer => arg + BitVec.ofInt w (intValue ((p.gSymSlowTimers - 1) * p.hz))
  | _ => arg * BitVec.ofInt w p.gSymSlowTimers

lemma check_free (hook : TimerHook) (p : TimerParams) (r : Records) (arg : BitVec w) :
    hook.check p (.free r) 0 arg = .ok (.free r, hook.handed p arg) := by
  cases hook <;> rfl

lemma notEarlier_iff (hook : TimerHook) (p : TimerParams) (jiffies d : BitVec w) :
    hook.NotEarlier p jiffies d ↔
      Clock.AfterEq (hook.time jiffies (hook.handed p (hook.request jiffies d))) (jiffies + d) := by
  constructor
  · intro h
    obtain ⟨arg, hcheck, hafter⟩ := h .initial
    rw [check_free] at hcheck
    cases hcheck
    exact hafter
  · intro h r
    exact ⟨_, hook.check_free p r _, h⟩

/-! ## Delays and times -/

section

variable {p : TimerParams} {jiffies d : BitVec w}

/-- The factor as an unsigned number. -/
lemma exists_factor (hk : 1 ≤ p.gSymSlowTimers) :
    ∃ k : ℕ, 1 ≤ k ∧ p.gSymSlowTimers = k ∧ p.gSymSlowTimers.toNat = k := by
  refine ⟨p.gSymSlowTimers.toNat, ?_, ?_, rfl⟩ <;> omega

/-- A delay that is multiplied does not get shorter. -/
lemma delay_not_earlier (hw : 0 < w) (hk : 1 ≤ p.gSymSlowTimers) (hhz : 0 < p.hz)
    (hrange : InRange p d) :
    Clock.AfterEq (jiffies + d * BitVec.ofInt w p.gSymSlowTimers) (jiffies + d) := by
  obtain ⟨k, hk1, hfactor, _⟩ := exists_factor hk
  rw [InRange, hfactor] at hrange
  have hslack : (0 : ℤ) ≤ (k - 1) * p.hz := Int.mul_nonneg (by omega) hhz.le
  have hsmall : (k : ℤ) * d.toNat < 2 ^ (w - 1) := by omega
  have hsmall : k * d.toNat < 2 ^ (w - 1) := by exact_mod_cast hsmall
  rw [Clock.add_afterEq_add, hfactor, BitVec.ofInt_natCast]
  exact Clock.mul_afterEq_of_lt hw hk1 hsmall

/-- A time that is multiplied. -/
lemma time_not_earlier_iff (hw : 0 < w) (hk : 1 ≤ p.gSymSlowTimers) (expiry : BitVec w) :
    Clock.AfterEq (expiry * BitVec.ofInt w p.gSymSlowTimers) expiry ↔
      Even ((p.gSymSlowTimers.toNat - 1) * expiry.toNat / 2 ^ (w - 1)) := by
  obtain ⟨k, hk1, hfactor, hnat⟩ := exists_factor hk
  rw [hnat, hfactor, BitVec.ofInt_natCast]
  exact Clock.mul_afterEq_iff hw hk1

/-- The `int` that `mod_timer` adds fits into the counter with its sign. -/
lemma added_fits {x : ℤ} (hx : 0 ≤ x) (hsmall : x < 2 ^ (w - 1)) :
    -2 ^ (w - 1) ≤ intValue x ∧ intValue x < 2 ^ (w - 1) := by
  rw [intValue, Int.bmod_def]
  generalize (2 : ℤ) ^ (w - 1) = half at hsmall ⊢
  split_ifs <;> omega

/-- A time to which `mod_timer` adds. -/
lemma added_not_earlier_iff (hw : 0 < w) (hk : 1 ≤ p.gSymSlowTimers) (hhz : 0 < p.hz)
    (hrange : InRange p d) (expiry : BitVec w) :
    Clock.AfterEq (expiry + BitVec.ofInt w (intValue ((p.gSymSlowTimers - 1) * p.hz))) expiry ↔
      0 ≤ intValue ((p.gSymSlowTimers - 1) * p.hz) := by
  have hadded : 0 ≤ (p.gSymSlowTimers - 1) * p.hz := Int.mul_nonneg (by omega) hhz.le
  have hdelay : 0 ≤ p.gSymSlowTimers * d.toNat := Int.mul_nonneg (by omega) (by omega)
  rw [InRange] at hrange
  have hsmall : (p.gSymSlowTimers - 1) * p.hz < 2 ^ (w - 1) := by omega
  obtain ⟨hlow, hhigh⟩ := added_fits hadded hsmall
  exact Clock.add_ofInt_afterEq hw hlow hhigh

end

end TimerHook

/-- **When slowing down makes no timer fire earlier**: for all hooks but two this is so; for
`add_timer` it depends on the expiry, and for `mod_timer` on whether the `int` overflows. -/
theorem timer_not_earlier_iff {w : ℕ} (hw : 0 < w) (hook : TimerHook) (p : TimerParams)
    (jiffies d : BitVec w) (hk : 1 ≤ p.gSymSlowTimers) (hhz : 0 < p.hz)
    (hrange : TimerHook.InRange p d) :
    hook.NotEarlier p jiffies d ↔ hook.Harmless p (jiffies + d) := by
  rw [TimerHook.notEarlier_iff]
  cases hook with
  | addTimer => exact TimerHook.time_not_earlier_iff hw hk _
  | modTimer => exact TimerHook.added_not_earlier_iff hw hk hhz hrange _
  | scheduleTimeout => exact iff_of_true (TimerHook.delay_not_earlier hw hk hhz hrange) trivial
  | scheduleTimeoutUninterruptible =>
      exact iff_of_true (TimerHook.delay_not_earlier hw hk hhz hrange) trivial
  | scheduleDelayedWork => exact iff_of_true (TimerHook.delay_not_earlier hw hk hhz hrange) trivial
  | queueDelayedWork => exact iff_of_true (TimerHook.delay_not_earlier hw hk hhz hrange) trivial

/-- A timer of one second, set by `add_timer` shortly after the counter has started five minutes
before its wrap. -/
theorem timer_not_earlier_at_start :
    TimerHook.addTimer.NotEarlier ⟨2, 250⟩ 4294892296#32 250#32 ↔
      TimerHook.addTimer.Harmless ⟨2, 250⟩ (4294892296#32 + 250#32) :=
  timer_not_earlier_iff (by decide) .addTimer ⟨2, 250⟩ 4294892296#32 250#32 (by decide) (by decide)
    (by unfold TimerHook.InRange; decide)

/-- That timer fires at once: its time is doubled and lies in the past then. -/
theorem add_timer_fires_early :
    TimerHook.InRange ⟨2, 250⟩ 250#32 ∧
      ¬ TimerHook.addTimer.NotEarlier ⟨2, 250⟩ 4294892296#32 250#32 := by
  constructor
  · unfold TimerHook.InRange
    decide
  · rw [TimerHook.notEarlier_iff]
    decide

end SymDrive

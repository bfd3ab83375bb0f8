import SymDrive.Gtf.InterruptInjection

/-!
# Throttling the injected interrupts

`call_interrupt_handlers` counts the visits of enabled slots for each line of code it is called from
and calls the handler only while the count is at most `MAX_INTERRUPTS_PER_LINE`.  Once the count
passes 100 it is set back to one below the limit, so that the next visit calls the handler again.
The count is an `unsigned char`, shared by all slots and all calls of the line.

So after the first visits the handler is called on one visit out of `102 - MAX_INTERRUPTS_PER_LINE`
(`interrupts_throttled`).  `Throttled` writes the number of visits with quotient and remainder of
that period; the three kinds of step that matter are those of `ThrottleStep`.
-/

namespace SymDrive

open Checked

/-! ## One counter -/

/-- The count after the handler was called, or was not. -/
def decided (maxInterruptsPerLine count : ℕ) : ℕ :=
  if count ≤ maxInterruptsPerLine then count
  else if count > 100 then maxInterruptsPerLine - 1
  else count

/-- The count after `n` visits, on `k` of which the handler was called. -/
inductive Throttled (maxInterruptsPerLine : ℕ) : ℕ → ℕ → ℕ → Prop where
  | first (n : ℕ) (hn : n < maxInterruptsPerLine) : Throttled maxInterruptsPerLine n n n
  /-- The period starts with a call; `r` visits without one follow. -/
  | periodic (q r : ℕ) (hr : r + maxInterruptsPerLine < 101) :
      Throttled maxInterruptsPerLine (maxInterruptsPerLine + r)
        (maxInterruptsPerLine + q * (102 - maxInterruptsPerLine) + r) (maxInterruptsPerLine + q)
  /-- The last visit of the period, which sets the count back. -/
  | setBack (q : ℕ) :
      Throttled maxInterruptsPerLine (maxInterruptsPerLine - 1)
        (maxInterruptsPerLine + q * (102 - maxInterruptsPerLine) + (101 - maxInterruptsPerLine))
        (maxInterruptsPerLine + q)

namespace Throttled

variable {m c n k : ℕ}

lemma le_hundred (h : Throttled m c n k) (hm : m ≤ 100) : c ≤ 100 := by
  cases h with
  | first n hn => omega
  | periodic q r hr => omega
  | setBack q => omega

/-- A visit that calls the handler. -/
lemma invoked (h : Throttled m c n k) (hm : 1 ≤ m) (hm' : m ≤ 100) (hc : c + 1 ≤ m) :
    Throttled m (c + 1) (n + 1) (k + 1) := by
  cases h with
  | first n hn =>
      rcases Nat.lt_or_ge (c + 1) m with hlt | hge
      · exact .first (c + 1) hlt
      · obtain rfl : m = c + 1 := by omega
        have hperiodic := @Throttled.periodic (c + 1) 0 0 (by omega)
        simpa using hperiodic
  | periodic q r hr => omega
  | setBack q =>
      have hperiodic := @Throttled.periodic m (q + 1) 0 (by omega)
      have hn : m + (q + 1) * (102 - m) + 0 = m + q * (102 - m) + (101 - m) + 1 := by
        rw [Nat.succ_mul]
        omega
      have hc' : m + 0 = m - 1 + 1 := by omega
      rw [hn, hc'] at hperiodic
      exact hperiodic

/-- A visit that does not. -/
lemma passedOver (h : Throttled m c n k) (hm : 1 ≤ m) (hm' : m ≤ 100) (hc : m < c + 1) :
    Throttled m (decided m (c + 1)) (n + 1) k := by
  cases h with
  | first n hn => omega
  | setBack q => omega
  | periodic q r hr =>
      unfold decided
      rw [if_neg (by omega)]
      split_ifs with hreset
      · have hlast := @Throttled.setBack m q
        have hr' : m + q * (102 - m) + (101 - m) = m + q * (102 - m) + r + 1 := by omega
        rwa [hr'] at hlast
      · exact .periodic q (r + 1) (by omega)

/-- The number of calls in closed form. -/
lemma calls_eq (h : Throttled m c n k) (hm' : m ≤ 100) :
    k = if n ≤ m then n else m + (n - m) / (102 - m) := by
  have hdiv : ∀ q r, r < 102 - m → (q * (102 - m) + r) / (102 - m) = q := by
    intro q r hr
    rw [Nat.add_comm, Nat.add_mul_div_right _ _ (by omega), Nat.div_eq_of_lt hr, Nat.zero_add]
  have hclosed : ∀ q r, r < 102 - m → m + q = if m + q * (102 - m) + r ≤ m
      then m + q * (102 - m) + r else m + (m + q * (102 - m) + r - m) / (102 - m) := by
    intro q r hr
    have hsub : m + q * (102 - m) + r - m = q * (102 - m) + r := by omega
    rw [hsub, hdiv q r hr]
    split_ifs with hle
    · have hq : q * (102 - m) = 0 := by omega
      rcases Nat.mul_eq_zero.mp hq with hq | hq <;> omega
    · rfl
  cases h with
  | first n hn => rw [if_pos hn.le]
  | periodic q r hr => exact hclosed q r (by omega)
  | setBack q => exact hclosed q (101 - m) (by omega)

end Throttled

/-! ## The steps that count -/

/-- The line whose visit is being decided. -/
def HandlersCall.counting (call : HandlersCall) : Option ULong :=
  match call.position with
  | .counted _ => some call.line
  | _ => none

namespace IrqRun

def counting (s : IrqRun) : Option ULong := s.calls.head?.bind HandlersCall.counting

/-- The visits of enabled slots from a line. -/
def visitsAt (s : IrqRun) (line : ULong) : ℕ := s.visits.countP fun v => v.line = line

/-- The visits from a line that called the handler. -/
def invocationsAt (s : IrqRun) (line : ULong) : ℕ :=
  s.visits.countP fun v => v.line = line ∧ v.invoked = true

/-- What a step does to the counters and to the visits. -/
inductive ThrottleStep (maxInterruptsPerLine : ℕ) (s s' : IrqRun) : Prop where
  | quiet (hcounting : s'.counting = s.counting) (hlines : s'.symIrqLines = s.symIrqLines)
      (hvisits : s'.visits = s.visits)
  | count (line : ULong) (hbefore : s.counting = none) (hafter : s'.counting = some line)
      (hlines : s'.symIrqLines =
        Function.update s.symIrqLines line ((s.symIrqLines line + 1) % 2 ^ 8))
      (hvisits : s'.visits = s.visits)
  | decide (line : ULong) (i : ℕ) (hbefore : s.counting = some line) (hafter : s'.counting = none)
      (hlines : s'.symIrqLines = Function.update s.symIrqLines line
        (decided maxInterruptsPerLine (s.symIrqLines line)))
      (hvisits : s'.visits =
        ⟨line, i, s.symIrqLines line ≤ maxInterruptsPerLine⟩ :: s.visits)

section

variable {s s' : IrqRun} {maxInterruptsPerLine : ℕ}

/-- Every call but the innermost is inside a handler. -/
def OuterInHandler (s : IrqRun) : Prop := ∀ call ∈ s.calls.tail, call.inHandler = true

lemma counting_of_running (h : codeRunning s.calls = true) : s.counting = none := by
  unfold counting
  cases hcalls : s.calls with
  | nil => rfl
  | cons call rest =>
      rw [hcalls] at h
      change call.inHandler = true at h
      show call.counting = none
      unfold HandlersCall.inHandler at h
      unfold HandlersCall.counting
      split at h
      · next i hposition => simp [hposition]
      · cases h

lemma Undisturbed.throttleStep (h : s.Undisturbed s') :
    ThrottleStep maxInterruptsPerLine s s' := by
  refine .quiet ?_ h.lines h.visits
  rw [counting, h.calls, counting]

/-- The innermost call goes on. -/
lemma Advances.throttleStep (houter : s.OuterInHandler) (hlock : s.lock = ⟨0⟩)
    {call : HandlersCall} {rest : List HandlersCall} (hcalls : s.calls = call :: rest)
    (h : s.Advances maxInterruptsPerLine call rest s') :
    ThrottleStep maxInterruptsPerLine s s' := by
  have hcounting : s.counting = call.counting := by rw [counting, hcalls]; rfl
  cases h with
  | refuse hposition _ =>
      refine .quiet ?_ rfl rfl
      rw [hcounting, HandlersCall.counting, hposition]
      rfl
  | enterLoop hposition _ _ =>
      refine .quiet ?_ rfl rfl
      rw [hcounting, HandlersCall.counting, hposition]
      rfl
  | skip i hposition =>
      refine .quiet ?_ rfl rfl
      rw [hcounting, HandlersCall.counting, hposition]
      rfl
  | count i hposition =>
      refine .count call.line ?_ rfl rfl rfl
      rw [hcounting, HandlersCall.counting, hposition]
  | leaveLoop i hposition =>
      refine .quiet ?_ rfl rfl
      rw [hcounting, HandlersCall.counting, hposition]
      rfl
  | invoke i hposition hcount =>
      refine .decide call.line i ?_ rfl ?_ ?_
      · rw [hcounting, HandlersCall.counting, hposition]
      · rw [decided, if_pos hcount, Function.update_eq_self]
        rfl
      · rw [decide_eq_true hcount]
        rfl
  | reset i hposition hcount hreset =>
      refine .decide call.line i ?_ rfl ?_ ?_
      · rw [hcounting, HandlersCall.counting, hposition]
      · rw [decided, if_neg (Nat.not_le_of_lt hcount), if_pos hreset]
        rfl
      · rw [decide_eq_false (Nat.not_le_of_lt hcount)]
        rfl
  | drop i hposition hcount hreset =>
      refine .decide call.line i ?_ rfl ?_ ?_
      · rw [hcounting, HandlersCall.counting, hposition]
      · rw [decided, if_neg (Nat.not_le_of_lt hcount), if_neg (Nat.not_lt_of_le hreset),
          Function.update_eq_self]
        rfl
      · rw [decide_eq_false (Nat.not_le_of_lt hcount)]
        rfl
  | wait i hposition => exact .quiet rfl rfl rfl
  | leave s' hposition hresume =>
      have hsame := resume_undisturbed (s := { s with calls := rest }) hlock hresume
      refine .quiet ?_ hsame.lines hsame.visits
      have hrest : codeRunning rest = true := by
        cases rest with
        | nil => rfl
        | cons outer _ => exact houter outer (by rw [hcalls]; exact List.mem_cons_self)
      have hbelow : s'.counting = none := by
        refine counting_of_running ?_
        rw [hsame.calls]
        exact hrest
      rw [hbelow, hcounting, HandlersCall.counting, hposition]

end

end IrqRun

/-! ## Runs -/

/-- The lock is free, and only the innermost call is between two handlers. -/
structure StackInv (s : IrqRun) : Prop where
  lock : s.lock = ⟨0⟩
  outer : s.OuterInHandler

namespace StackInv

variable {s s' : IrqRun} {maxInterruptsPerLine : ℕ}

lemma undisturbed (h : StackInv s) (hsame : s.Undisturbed s') : StackInv s' := by
  refine ⟨hsame.lock, ?_⟩
  rw [IrqRun.OuterInHandler, hsame.calls]
  exact h.outer

/-- A call made while other code runs. -/
lemma callInterruptHandlers (h : StackInv s) (hrunning : s.running = true) (line : ULong)
    (caller : HandlersCaller) : StackInv (s.callInterruptHandlers line caller) := by
  refine ⟨h.lock, ?_⟩
  intro call hcall
  change call ∈ s.calls at hcall
  rw [IrqRun.running] at hrunning
  cases hcalls : s.calls with
  | nil => rw [hcalls] at hcall; cases hcall
  | cons inner rest =>
      rw [hcalls] at hcall hrunning
      rcases List.mem_cons.mp hcall with rfl | hrest
      · exact hrunning
      · exact h.outer call (by rw [hcalls]; exact hrest)

lemma throttle_callInterruptHandlers (hrunning : s.running = true) (line : ULong)
    (caller : HandlersCaller) :
    s.ThrottleStep maxInterruptsPerLine (s.callInterruptHandlers line caller) := by
  refine .quiet ?_ rfl rfl
  rw [IrqRun.counting_of_running hrunning]
  rfl

lemma advances (h : StackInv s) {call : HandlersCall} {rest : List HandlersCall}
    (hcalls : s.calls = call :: rest) (hstep : s.Advances maxInterruptsPerLine call rest s') :
    StackInv s' := by
  have houter : ∀ c ∈ rest, c.inHandler = true := fun c hc => h.outer c (by rw [hcalls]; exact hc)
  cases hstep with
  | wait i hposition => exact h
  | leave s' hposition hresume =>
      have hbelow : StackInv { s with calls := rest } :=
        ⟨h.lock, fun c hc => houter c (List.mem_of_mem_tail hc)⟩
      exact hbelow.undisturbed (IrqRun.resume_undisturbed h.lock hresume)
  | _ => exact ⟨h.lock, houter⟩

/-- A step keeps the invariant, and is one of the three kinds. -/
lemma step (h : StackInv s) {e : InjectionEvent}
    (hstep : s.step maxInterruptsPerLine e = .ok s') :
    StackInv s' ∧ s.ThrottleStep maxInterruptsPerLine s' := by
  have hsame : ∀ {s'}, s.Undisturbed s' → StackInv s' ∧ s.ThrottleStep maxInterruptsPerLine s' :=
    fun hs => ⟨h.undisturbed hs, hs.throttleStep⟩
  have hrefl : StackInv s ∧ s.ThrottleStep maxInterruptsPerLine s := ⟨h, .quiet rfl rfl rfl⟩
  cases e with
  | advance =>
      rw [IrqRun.step] at hstep
      split at hstep
      case h_1 call rest hcalls =>
        have hadvances := IrqRun.advances_of_ok hstep
        exact ⟨h.advances hcalls hadvances, hadvances.throttleStep h.outer h.lock hcalls⟩
      case h_2 => cases hstep; exact hrefl
  | handlerReturns =>
      rw [IrqRun.step] at hstep
      split at hstep
      case h_1 line caller i ongoingBefore found rest hcalls =>
        cases hstep
        refine ⟨⟨h.lock, fun c hc => h.outer c (by rw [hcalls]; exact hc)⟩, .quiet ?_ rfl rfl⟩
        rw [IrqRun.counting, IrqRun.counting, hcalls]
        rfl
      case h_2 => cases hstep; exact hrefl
  | enter fn line wrapperType retvalValid retval =>
      rw [IrqRun.step] at hstep
      split_ifs at hstep with hrunning
      · cases wrapperType with
        | stubWrapper =>
            cases hstep
            exact ⟨h.callInterruptHandlers hrunning _ _,
              throttle_callInterruptHandlers hrunning _ _⟩
        | prepostFn => exact hsame (IrqRun.onFramework_locked hstep)
      · cases hstep; exact hrefl
  | exit fn line wrapperType retvalValid retval symbolic =>
      rw [IrqRun.step] at hstep
      split_ifs at hstep with hrunning
      · obtain ⟨s₁, hexit, hstep⟩ := bind_eq_ok.mp hstep
        have hs₁ := IrqRun.onFramework_locked hexit
        have hrunning₁ : s₁.running = true := by rw [IrqRun.running, hs₁.calls]; exact hrunning
        split_ifs at hstep with houtermost
        · cases hstep
          refine ⟨(h.undisturbed hs₁).callInterruptHandlers hrunning₁ _ _,
            .quiet ?_ hs₁.lines hs₁.visits⟩
          rw [IrqRun.counting_of_running hrunning]
          rfl
        · cases hstep; exact hsame hs₁
      · cases hstep; exact hrefl
  | check c =>
      rw [IrqRun.step] at hstep
      split_ifs at hstep with hrunning
      · exact hsame (IrqRun.onRecords_check hstep)
      · cases hstep; exact hrefl
  | generated body =>
      rw [IrqRun.step] at hstep
      split_ifs at hstep with hrunning
      · exact hsame (IrqRun.onFramework_locked hstep)
      · cases hstep; exact hrefl
  | setDeviceInterrupts disabled =>
      rw [IrqRun.step] at hstep
      split_ifs at hstep with hrunning
      · cases hstep; exact hsame ⟨h.lock, rfl, rfl, rfl, rfl⟩
      · cases hstep; exact hrefl

end StackInv

/-- Each line's count is that of its visits, up to the visit that is being decided. -/
structure ThrottleInv (maxInterruptsPerLine : ℕ) (s : IrqRun) : Prop where
  stack : StackInv s
  counts : ∀ line, ∃ c, Throttled maxInterruptsPerLine c (s.visitsAt line) (s.invocationsAt line) ∧
    s.symIrqLines line = if s.counting = some line then c + 1 else c

namespace ThrottleInv

variable {s s' : IrqRun} {maxInterruptsPerLine : ℕ}

lemma initial (gSymRetval : ℤ) (gSymStartingFn : String) (hm : 1 ≤ maxInterruptsPerLine) :
    ThrottleInv maxInterruptsPerLine (.initial gSymRetval gSymStartingFn) :=
  ⟨⟨rfl, fun _ hcall => nomatch hcall⟩, fun _ => ⟨0, .first 0 hm, rfl⟩⟩

/-- **The step lemma.** -/
lemma step (h : ThrottleInv maxInterruptsPerLine s) (hm : 1 ≤ maxInterruptsPerLine)
    (hm' : maxInterruptsPerLine ≤ 100) {e : InjectionEvent}
    (hstep : s.step maxInterruptsPerLine e = .ok s') : ThrottleInv maxInterruptsPerLine s' := by
  obtain ⟨hstack, hkind⟩ := h.stack.step hstep
  refine ⟨hstack, fun line => ?_⟩
  obtain ⟨c, hc, hcount⟩ := h.counts line
  cases hkind with
  | quiet hcounting hlines hvisits =>
      refine ⟨c, ?_, by rw [hlines, hcounting, hcount]⟩
      rwa [IrqRun.visitsAt, IrqRun.invocationsAt, hvisits]
  | count line' hbefore hafter hlines hvisits =>
      rw [hbefore, if_neg (by simp)] at hcount
      refine ⟨c, by rwa [IrqRun.visitsAt, IrqRun.invocationsAt, hvisits], ?_⟩
      rw [hlines, hafter]
      by_cases hline : line = line'
      · have hle := hc.le_hundred hm'
        rw [hline, Function.update_self, if_pos rfl, ← hline, hcount]
        omega
      · rw [Function.update_of_ne hline, if_neg (by simpa using Ne.symm hline), hcount]
  | decide line' i hbefore hafter hlines hvisits =>
      rw [hbefore] at hcount
      rw [hafter, hlines, IrqRun.visitsAt, IrqRun.invocationsAt, hvisits]
      by_cases hline : line = line'
      · subst hline
        rw [if_pos rfl] at hcount
        rw [Function.update_self, hcount, List.countP_cons_of_pos (by simp), List.countP_cons]
        refine ⟨decided maxInterruptsPerLine (c + 1), ?_, by rw [if_neg (by simp)]⟩
        rcases Nat.lt_or_ge maxInterruptsPerLine (c + 1) with hover | hunder
        · have hpassed := hc.passedOver hm hm' hover
          simpa [Nat.not_le_of_lt hover, IrqRun.visitsAt, IrqRun.invocationsAt] using hpassed
        · have hinvoked := hc.invoked hm hm' hunder
          rw [decided, if_pos hunder]
          simpa [hunder, IrqRun.visitsAt, IrqRun.invocationsAt] using hinvoked
      · have hne : ¬ some line' = some line := by simpa using Ne.symm hline
        rw [if_neg hne] at hcount
        refine ⟨c, ?_, by rw [Function.update_of_ne hline]; exact hcount⟩
        rwa [List.countP_cons_of_neg (by simpa using Ne.symm hline),
          List.countP_cons_of_neg (by simpa using fun h => absurd h.symm hline)]

end ThrottleInv

/-- **The handlers of a line are throttled**: the count never passes 101, it is at most 100 unless a
visit is being decided, and the number of calls follows from the number of visits. -/
theorem interrupts_throttled (maxInterruptsPerLine : ℕ) (hm : 1 ≤ maxInterruptsPerLine)
    (hm' : maxInterruptsPerLine ≤ 100) (gSymRetval : ℤ) (gSymStartingFn : String)
    (events : List InjectionEvent) (s : IrqRun)
    (hrun : events.foldlM (IrqRun.step maxInterruptsPerLine)
      (.initial gSymRetval gSymStartingFn) = .ok s) (line : ULong) :
    s.symIrqLines line ≤ 101 ∧
      (s.counting ≠ some line → s.symIrqLines line ≤ 100) ∧
      s.invocationsAt line =
        if s.visitsAt line ≤ maxInterruptsPerLine then s.visitsAt line
        else maxInterruptsPerLine +
          (s.visitsAt line - maxInterruptsPerLine) / (102 - maxInterruptsPerLine) := by
  have hinv : ThrottleInv maxInterruptsPerLine s :=
    run_invariant (fun _ _ _ hs hstep => hs.step hm hm' hstep) events
      (.initial gSymRetval gSymStartingFn hm) hrun
  obtain ⟨c, hc, hcount⟩ := hinv.counts line
  have hle := hc.le_hundred hm'
  refine ⟨?_, fun hdecided => ?_, hc.calls_eq hm'⟩
  · rw [hcount]
    split_ifs <;> omega
  · rw [hcount, if_neg hdecided]
    exact hle

theorem interrupts_throttled_nested_call :
    ∃ s, nestedCallEvents.foldlM (IrqRun.step 5) (.initial 0 "") = .ok s ∧
      s.symIrqLines 20 ≤ 101 ∧ (s.counting ≠ some 20 → s.symIrqLines 20 ≤ 100) ∧
      s.invocationsAt 20 =
        if s.visitsAt 20 ≤ 5 then s.visitsAt 20 else 5 + (s.visitsAt 20 - 5) / (102 - 5) :=
  ⟨_, rfl, interrupts_throttled 5 (by decide) (by decide) 0 "" nestedCallEvents _ rfl 20⟩

end SymDrive

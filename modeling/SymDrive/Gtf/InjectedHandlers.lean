import Mathlib.Algebra.Order.BigOperators.Group.List
import Mathlib.Algebra.Order.Group.Int
import SymDrive.Gtf.InterruptInjection

/-!
# Whose handlers are run

`irq.c` as a whole: the checks of the driver's calls keep the table from which
`call_interrupt_handlers` runs handlers, in any order and to any depth of calls.

A run is followed together with what the driver has asked the kernel for: the registrations that are
live, and the lines that are disabled.  `ServesLive` says that a handler is started only for a live
registration, and that the registration lives until the handler has returned.  With more than one
registration on a line the checks of `enable_irq` and `disable_irq` reach the first one only, so
`Quiet` — no handler of a disabled line is started — needs that a line is disabled alone.

`IrqState.Changes` lists what a check does to the table, and `IrqRun.Restacks` what the other events
do to the stack of calls.
-/

namespace SymDrive

open Checked

/-! ## What the driver asks for -/

/-- Live registrations, the last one first, and the lines that are disabled. -/
structure DriverLines where
  live : List Registration
  disabled : List ULong
  deriving DecidableEq

namespace DriverLines

def initial : DriverLines := ⟨[], []⟩

/-- `free_irq`: a line starts enabled again when its last registration is gone. -/
def free (d : DriverLines) (irq devId : ULong) : DriverLines :=
  let live := d.live.filter fun reg => decide (reg.key ≠ (irq, devId))
  { live := live
    disabled := d.disabled.filter fun n => decide (n ≠ irq ∨ irq ∈ live.map Registration.irq) }

/-- After the call that a check belongs to.  A registration is live from a successful request until
the driver calls `free_irq`. -/
def after (d : DriverLines) : IrqCheck → DriverLines
  | .requestThreadedIrq prepost retval reg =>
      if prepost = 1 ∧ retval = 0 then { d with live := reg :: d.live } else d
  | .freeIrq prepost irq devId => if prepost = 0 then d.free irq devId else d
  | .enableIrq prepost irq =>
      if prepost = 1 then { d with disabled := d.disabled.filter fun n => decide (n ≠ irq) } else d
  | .disableIrq prepost irq =>
      if prepost = 1 then { d with disabled := irq :: d.disabled } else d
  | .interruptHandler _ _ => d

end DriverLines

/-- A check of another file leaves the table of interrupts alone. -/
def InjectionEvent.LeavesTable : InjectionEvent → Prop
  | .check c => ∀ r r', c.body r = .ok r' → r'.irq = r.irq
  | _ => True

inductive LineEvent where
  | irq (c : IrqCheck)
  | other (e : InjectionEvent) (hleaves : e.LeavesTable)

/-- A run and what the driver has asked for. -/
structure LinesRun where
  run : IrqRun
  lines : DriverLines

namespace LinesRun

def initial (gSymRetval : ℤ) (gSymStartingFn : String) : LinesRun where
  run := .initial gSymRetval gSymStartingFn
  lines := .initial

def step (maxInterruptsPerLine : ℕ) (s : LinesRun) : LineEvent → Except Fault LinesRun
  | .irq c => (s.run.step maxInterruptsPerLine (.check c.checkBody)).map fun run =>
      { run := run, lines := if s.run.running then s.lines.after c else s.lines }
  | .other e _ => (s.run.step maxInterruptsPerLine e).map fun run => { s with run := run }

/-- The driver keeps to a rule about its calls. -/
def Follows (P : DriverLines → IrqCheck → Prop) (s : LinesRun) : LineEvent → Prop
  | .irq c => P s.lines c
  | .other _ _ => True

end LinesRun

/-- The driver does not make the same registration twice. -/
def RequestsNew (d : DriverLines) : IrqCheck → Prop
  | .requestThreadedIrq prepost retval reg =>
      prepost = 1 → retval = 0 → reg.key ∉ d.live.map Registration.key
  | _ => True

/-- It disables a line while one registration at most has it, and makes none on a disabled line. -/
def DisablesAlone (d : DriverLines) : IrqCheck → Prop
  | .requestThreadedIrq prepost retval reg => prepost = 1 → retval = 0 → reg.irq ∉ d.disabled
  | .disableIrq prepost irq =>
      prepost = 1 → (d.live.countP fun reg => decide (reg.irq = irq)) ≤ 1
  | _ => True

/-! ## The specification -/

/-- The handler of slot `i` is running. -/
def IrqRun.Serving (s : IrqRun) (i : ℕ) : Prop := ∃ call ∈ s.calls, call.position = .handler i

/-- A step starts the handler of slot `i`. -/
def IrqRun.Starts (s s' : IrqRun) (i : ℕ) : Prop :=
  s.handlers < s'.handlers ∧ ∃ call rest, s'.calls = call :: rest ∧ call.position = .handler i

/-- What slot `i` records. -/
def IrqRun.registration (s : IrqRun) (i : ℕ) : Registration :=
  (s.records.irq.symIrq i).registration

/-- Handlers run for live registrations only. -/
structure ServesLive (maxInterruptsPerLine : ℕ) (s : LinesRun) : Prop where
  starts : ∀ e s', s.step maxInterruptsPerLine e = .ok s' → s.run.handlers < s'.run.handlers →
    ∃ i, s.run.Starts s'.run i ∧ s.run.registration i ∈ s.lines.live
  serving : ∀ i, s.run.Serving i → s.run.registration i ∈ s.lines.live
  stays : ∀ e s', s.step maxInterruptsPerLine e = .ok s' → ∀ i, s.run.Serving i →
    s'.run.registration i = s.run.registration i ∧ s'.run.registration i ∈ s'.lines.live

/-- No handler of a disabled line is started. -/
def Quiet (maxInterruptsPerLine : ℕ) (s : LinesRun) : Prop :=
  ∀ e s', s.step maxInterruptsPerLine e = .ok s' → ∀ i, s.run.Starts s'.run i →
    (s.run.registration i).irq ∉ s.lines.disabled

/-! ## What a check does to the table -/

/-- The slot that a request fills. -/
def Registration.slot (reg : Registration) (name : String) : IrqStruct where
  allocated := 1
  number := reg.irq
  handler := reg.handler
  parameter := reg.devId
  flags := reg.flags
  name := name
  enabled := 1

namespace IrqState

/-- The table and the number of requests; the rest is as before. -/
inductive Changes (state : IrqState) : IrqCheck → IrqState → Prop where
  | unchanged {c : IrqCheck} (hafter : ∀ d : DriverLines, d.after c = d) : Changes state c state
  | requested {reg : Registration} {i : ℕ} {name : String} (hi : i < maxIrqs)
      (hfree : (state.symIrq i).allocated = 0) (hname : reg.devName = some name) (n : ℤ) :
      Changes state (.requestThreadedIrq 1 0 reg)
        ({ state with symNumRequests := n }.setSlot i (reg.slot name))
  | freed {i : ℕ} (hi : i < maxIrqs) (halloc : (state.symIrq i).allocated = 1)
      (hongoing : state.symIrqOngoing = 0) (n : ℤ) :
      Changes state (.freeIrq 0 (state.symIrq i).number (state.symIrq i).parameter)
        ({ state with symNumRequests := n }.resetOne i)
  | enabled {i : ℕ} (hi : i < maxIrqs) (halloc : (state.symIrq i).allocated = 1) :
      Changes state (.enableIrq 1 (state.symIrq i).number)
        (state.setSlot i { state.symIrq i with enabled := 1 })
  | disabled {i : ℕ} (hi : i < maxIrqs) (halloc : (state.symIrq i).allocated = 1) :
      Changes state (.disableIrq 1 (state.symIrq i).number)
        (state.setSlot i { state.symIrq i with enabled := 0 })

variable {state state' : IrqState}

lemma request_inv {reg : Registration} (h : state.request reg = .ok state') :
    ∃ i name, i < maxIrqs ∧ (state.symIrq i).allocated = 0 ∧ reg.devName = some name ∧
      state' = { state with symNumRequests := state.symNumRequests + 1 }.setSlot i
        (reg.slot name) := by
  unfold request at h
  dsimp only at h
  split at h
  · cases h
  · rename_i i hfind
    obtain ⟨hzero, h⟩ := tfassertDetail_bind_eq_ok.mp h
    obtain ⟨name, hcopy, h⟩ := bind_eq_ok.mp h
    cases h
    refine ⟨i, name, (find_eq_some hfind).1, hzero, ?_, rfl⟩
    unfold strcpyName at hcopy
    split at hcopy
    · cases hcopy
    · rename_i hgiven
      split_ifs at hcopy
      cases hcopy
      exact hgiven

lemma free_inv {prepost : ℤ} {irq devId : ULong} (h : state.free prepost irq devId = .ok state') :
    ∃ i, i < maxIrqs ∧ (state.symIrq i).allocated = 1 ∧ (state.symIrq i).number = irq ∧
      (state.symIrq i).parameter = devId ∧ state.symIrqOngoing = 0 ∧
      state' = { state with symNumRequests := state.symNumRequests - 1 }.resetOne i := by
  obtain ⟨_, h⟩ := tfassertDetail_bind_eq_ok.mp h
  dsimp only at h
  split at h
  · cases h
  · rename_i i hfind
    obtain ⟨hongoing, h⟩ := tfassertDetail_bind_eq_ok.mp h
    obtain ⟨hparameter, h⟩ := tfassertDetail_bind_eq_ok.mp h
    cases h
    obtain ⟨hi, hslot⟩ := find_eq_some hfind
    obtain ⟨halloc, hnumber⟩ := of_decide_eq_true hslot
    exact ⟨i, hi, halloc, hnumber, hparameter.symm, hongoing, rfl⟩

lemma setEnabled_inv {check : Check} {irq : ULong} {was now : ℤ} {wrong missing : String}
    (h : state.setEnabled check irq was now wrong missing = .ok state') :
    ∃ i, i < maxIrqs ∧ (state.symIrq i).allocated = 1 ∧ (state.symIrq i).number = irq ∧
      state' = state.setSlot i { state.symIrq i with enabled := now } := by
  unfold setEnabled at h
  split at h
  · cases h
  · rename_i i hfind
    obtain ⟨_, h⟩ := tfassertDetail_bind_eq_ok.mp h
    cases h
    obtain ⟨hi, hslot⟩ := find_eq_some hfind
    obtain ⟨halloc, hnumber⟩ := of_decide_eq_true hslot
    exact ⟨i, hi, halloc, hnumber, rfl⟩

end IrqState

/-- The check around a handler is about its contexts. -/
lemma interruptHandler_irq {symForceReceive : Bool} {prepost : ℤ} {r r' : Records}
    (h : (IrqCheck.checkBody (.interruptHandler symForceReceive prepost)).body r = .ok r') :
    r'.irq = r.irq := by
  have hpush : ∀ {c : UserContext} {r r' : Records}, pushUserState r c = .ok r' →
      r'.irq = r.irq := by
    intro c r r' h
    unfold pushUserState at h
    dsimp only at h
    split_ifs at h
    cases h
    rfl
  simp only [IrqCheck.checkBody, prepostBody] at h
  split_ifs at h with hpre hpost hclass
  · obtain ⟨r₁, h₁, h⟩ := bind_eq_ok.mp h
    obtain ⟨g, _, rfl⟩ := map_eq_ok.mp h₁
    have hirq := hpush h
    exact hirq
  · obtain ⟨r₁, h₁, h⟩ := bind_eq_ok.mp h
    obtain ⟨g, _, rfl⟩ := map_eq_ok.mp h₁
    obtain ⟨r₂, h₂, h⟩ := bind_eq_ok.mp h
    obtain ⟨_, h₂⟩ := tfassertDetail_bind_eq_ok.mp h₂
    cases h₂
    obtain ⟨_, _, h⟩ := bind_eq_ok.mp h
    cases h
    rfl
  · obtain ⟨r₁, h₁, h⟩ := bind_eq_ok.mp h
    obtain ⟨g, _, rfl⟩ := map_eq_ok.mp h₁
    obtain ⟨r₂, h₂, h⟩ := bind_eq_ok.mp h
    obtain ⟨_, h₂⟩ := tfassertDetail_bind_eq_ok.mp h₂
    cases h₂
    cases h
    rfl

/-- What a check that does not assert has done. -/
lemma IrqCheck.changes {c : IrqCheck} {r r' : Records} (h : c.checkBody.body r = .ok r') :
    r.irq.Changes c r'.irq := by
  cases c with
  | requestThreadedIrq prepost retval reg =>
      by_cases hpost : prepost = 1 ∧ retval = 0
      · simp only [IrqCheck.checkBody, if_pos hpost] at h
        obtain ⟨rfl, rfl⟩ := hpost
        obtain ⟨irq, hirq, rfl⟩ := map_eq_ok.mp h
        obtain ⟨i, name, hi, hfree, hname, rfl⟩ := IrqState.request_inv hirq
        exact .requested hi hfree hname _
      · simp only [IrqCheck.checkBody, if_neg hpost] at h
        cases h
        exact .unchanged fun d => by rw [DriverLines.after, if_neg hpost]
  | freeIrq prepost irq devId =>
      by_cases hpre : prepost = 0
      · simp only [IrqCheck.checkBody, if_pos hpre] at h
        subst hpre
        obtain ⟨irq, hirq, rfl⟩ := map_eq_ok.mp h
        obtain ⟨i, hi, halloc, rfl, rfl, hongoing, rfl⟩ := IrqState.free_inv hirq
        exact .freed hi halloc hongoing _
      · simp only [IrqCheck.checkBody, if_neg hpre] at h
        cases h
        exact .unchanged fun d => by rw [DriverLines.after, if_neg hpre]
  | enableIrq prepost irq =>
      by_cases hpost : prepost = 1
      · simp only [IrqCheck.checkBody, if_pos hpost] at h
        subst hpost
        obtain ⟨irq, hirq, rfl⟩ := map_eq_ok.mp h
        obtain ⟨i, hi, halloc, rfl, rfl⟩ := IrqState.setEnabled_inv hirq
        exact .enabled hi halloc
      · simp only [IrqCheck.checkBody, if_neg hpost] at h
        cases h
        exact .unchanged fun d => by rw [DriverLines.after, if_neg hpost]
  | disableIrq prepost irq =>
      by_cases hpost : prepost = 1
      · simp only [IrqCheck.checkBody, if_pos hpost] at h
        subst hpost
        obtain ⟨irq, hirq, rfl⟩ := map_eq_ok.mp h
        obtain ⟨i, hi, halloc, rfl, rfl⟩ := IrqState.setEnabled_inv hirq
        exact .disabled hi halloc
      · simp only [IrqCheck.checkBody, if_neg hpost] at h
        cases h
        exact .unchanged fun d => by rw [DriverLines.after, if_neg hpost]
  | interruptHandler symForceReceive prepost =>
      rw [interruptHandler_irq h]
      exact .unchanged fun d => rfl

/-! ## What the other events do to the stack -/

/-- By how much a call at this position holds `sym_irq_ongoing` up. -/
def LoopPosition.held : LoopPosition → ℤ
  | .slot _ | .counted _ | .handler _ => 1
  | .start | .done => 0

namespace IrqRun

/-- The table is as before, and the stack changes at its top. -/
inductive Restacks (s s' : IrqRun) : Prop where
  | same (hcalls : s'.calls = s.calls) (hongoing : s'.ongoing = s.ongoing)
  | pushed (call : HandlersCall) (hstart : call.position = .start) (hrunning : s.running = true)
      (hcalls : s'.calls = call :: s.calls) (hongoing : s'.ongoing = s.ongoing)
  /-- The innermost call goes on, outside of a handler. -/
  | moved (call : HandlersCall) (rest : List HandlersCall) (position : LoopPosition)
      (hbefore : s.calls = call :: rest)
      (hcalls : s'.calls = { call with position := position } :: rest)
      (houtside : ∀ i, position ≠ .handler i)
      (hongoing : s'.ongoing + call.position.held = s.ongoing + position.held)
      (hcounted : ∀ i, position = .counted i → i < maxIrqs ∧
        (s.records.irq.symIrq i).allocated ≠ 0 ∧ (s.records.irq.symIrq i).enabled = 1)
  | started (call : HandlersCall) (rest : List HandlersCall) (i : ℕ)
      (hbefore : s.calls = call :: rest) (hposition : call.position = .counted i)
      (hcalls : s'.calls = { call with position := .handler i, found := s.contexts } :: rest)
      (hongoing : s'.ongoing = s.ongoing)
  | popped (call : HandlersCall) (rest : List HandlersCall) (hbefore : s.calls = call :: rest)
      (hposition : call.position = .done) (hcalls : s'.calls = rest)
      (hongoing : s'.ongoing = s.ongoing)

variable {s s' : IrqRun} {maxInterruptsPerLine : ℕ}

/-- The functions of `enter_exit.c` leave the variables of `irq.c` alone. -/
lemma onFramework_irq {f : Framework → Except Fault Framework} (h : s.onFramework f = .ok s') :
    s'.records.irq = s.records.irq := by
  obtain ⟨f', _, rfl⟩ := map_eq_ok.mp h
  rfl

lemma resume_irq {caller : HandlersCaller} (h : s.resume caller = .ok s') :
    s'.records.irq = s.records.irq := by
  cases caller with
  | genEnterDriver fn retvalValid retval =>
      rw [resume] at h
      exact onFramework_irq h
  | genExitDriver =>
      cases h
      rfl

/-- A check that goes through has run its body. -/
lemma onRecords_body {c : CheckBody}
    (h : s.onRecords (fun st => checkRoutine st c.body) = .ok s') :
    c.body s.records = .ok s'.records := by
  obtain ⟨st, hst, rfl⟩ := map_eq_ok.mp h
  obtain ⟨lock, _, hst⟩ := bind_eq_ok.mp hst
  obtain ⟨records, hbody, hst⟩ := bind_eq_ok.mp hst
  obtain ⟨lock', _, hst⟩ := bind_eq_ok.mp hst
  cases hst
  exact hbody

/-- The innermost call goes on. -/
lemma advanceCall_restacks {call : HandlersCall} {rest : List HandlersCall}
    (hlock : s.lock = ⟨0⟩) (hbefore : s.calls = call :: rest)
    (h : s.advanceCall maxInterruptsPerLine call rest = .ok s') :
    s'.lock = ⟨0⟩ ∧ s'.records.irq.symIrq = s.records.irq.symIrq ∧ s.Restacks s' := by
  unfold advanceCall at h
  cases hposition : call.position with
  | start =>
      simp only [hposition] at h
      split_ifs at h with hongoing hcall
      · cases h
        exact ⟨hlock, rfl, .moved call rest .done hbefore rfl (by simp)
          (by rw [hposition]; rfl) (by simp)⟩
      · cases h
        exact ⟨hlock, rfl, .moved call rest .done hbefore rfl (by simp)
          (by rw [hposition]; rfl) (by simp)⟩
      · obtain ⟨_, h⟩ := tfassertDetail_bind_eq_ok.mp h
        cases h
        exact ⟨hlock, rfl, .moved call rest (.slot 0) hbefore rfl (by simp)
          (by rw [hposition]; exact add_zero _) (by simp)⟩
  | slot i =>
      simp only [hposition] at h
      split_ifs at h with hi halloc henabled
      · cases h
        exact ⟨hlock, rfl, .moved call rest (.slot (i + 1)) hbefore rfl (by simp)
          (by rw [hposition]; rfl) (by simp)⟩
      · cases h
        refine ⟨hlock, rfl, .moved call rest (.counted i) hbefore rfl (by simp)
          (by rw [hposition]; rfl) ?_⟩
        rintro j hj
        cases hj
        exact ⟨hi, halloc, henabled⟩
      · cases h
        exact ⟨hlock, rfl, .moved call rest (.slot (i + 1)) hbefore rfl (by simp)
          (by rw [hposition]; rfl) (by simp)⟩
      · cases h
        exact ⟨hlock, rfl, .moved call rest .done hbefore rfl (by simp)
          (by rw [hposition]; exact (sub_add_cancel _ _).trans (add_zero _).symm) (by simp)⟩
  | counted i =>
      simp only [hposition] at h
      split_ifs at h with hcount hreset
      · cases h
        exact ⟨hlock, rfl, .started call rest i hbefore hposition rfl rfl⟩
      · cases h
        exact ⟨hlock, rfl, .moved call rest (.slot (i + 1)) hbefore rfl (by simp)
          (by rw [hposition]; rfl) (by simp)⟩
      · cases h
        exact ⟨hlock, rfl, .moved call rest (.slot (i + 1)) hbefore rfl (by simp)
          (by rw [hposition]; rfl) (by simp)⟩
  | handler i =>
      simp only [hposition] at h
      cases h
      exact ⟨hlock, rfl, .same rfl rfl⟩
  | done =>
      simp only [hposition] at h
      have hsame := resume_undisturbed (s := { s with calls := rest }) hlock h
      have hirq := resume_irq h
      exact ⟨hsame.lock, congrArg IrqState.symIrq hirq,
        .popped call rest hbefore hposition hsame.calls hsame.ongoing⟩

/-- **The step lemma** for what is not a check of `irq.c`. -/
lemma step_restacks {e : InjectionEvent} (hlock : s.lock = ⟨0⟩) (hleaves : e.LeavesTable)
    (h : s.step maxInterruptsPerLine e = .ok s') :
    s'.lock = ⟨0⟩ ∧ s'.records.irq.symIrq = s.records.irq.symIrq ∧ s.Restacks s' := by
  have hnothing : s.lock = ⟨0⟩ ∧ s.records.irq.symIrq = s.records.irq.symIrq ∧ s.Restacks s :=
    ⟨hlock, rfl, .same rfl rfl⟩
  cases e with
  | advance =>
      rw [IrqRun.step] at h
      split at h
      case h_1 call rest hcalls => exact advanceCall_restacks hlock hcalls h
      case h_2 => cases h; exact hnothing
  | handlerReturns =>
      rw [IrqRun.step] at h
      split at h
      case h_1 line caller i ongoingBefore found rest hcalls =>
        cases h
        exact ⟨hlock, rfl, .moved _ rest (.slot (i + 1)) hcalls rfl (by simp) rfl (by simp)⟩
      case h_2 => cases h; exact hnothing
  | enter fn line wrapperType retvalValid retval =>
      rw [IrqRun.step] at h
      split_ifs at h with hrunning
      · cases wrapperType with
        | stubWrapper =>
            cases h
            exact ⟨hlock, rfl, .pushed _ rfl hrunning rfl rfl⟩
        | prepostFn =>
            rw [genEnterDriver] at h
            have hsame := onFramework_locked h
            exact ⟨hsame.lock, congrArg IrqState.symIrq (onFramework_irq h),
              .same hsame.calls hsame.ongoing⟩
      · cases h; exact hnothing
  | exit fn line wrapperType retvalValid retval symbolic =>
      rw [IrqRun.step] at h
      split_ifs at h with hrunning
      · obtain ⟨s₁, hexit, h⟩ := bind_eq_ok.mp h
        have hsame := onFramework_locked hexit
        have hirq := congrArg IrqState.symIrq (onFramework_irq hexit)
        split_ifs at h with houtermost
        · cases h
          refine ⟨hsame.lock, hirq, .pushed ⟨line, .genExitDriver, .start, s₁.ongoing, s₁.contexts⟩
            rfl hrunning ?_ hsame.ongoing⟩
          rw [← hsame.calls]
          rfl
        · cases h
          exact ⟨hsame.lock, hirq, .same hsame.calls hsame.ongoing⟩
      · cases h; exact hnothing
  | check c =>
      rw [IrqRun.step] at h
      split_ifs at h with hrunning
      · have hsame := onRecords_check h
        exact ⟨hsame.lock, congrArg IrqState.symIrq (hleaves _ _ (onRecords_body h)),
          .same hsame.calls hsame.ongoing⟩
      · cases h; exact hnothing
  | generated body =>
      rw [IrqRun.step] at h
      split_ifs at h with hrunning
      · have hsame := onFramework_locked h
        exact ⟨hsame.lock, congrArg IrqState.symIrq (onFramework_irq h),
          .same hsame.calls hsame.ongoing⟩
      · cases h; exact hnothing
  | setDeviceInterrupts disabled =>
      rw [IrqRun.step] at h
      split_ifs at h with hrunning
      · cases h
        exact ⟨hlock, rfl, .same rfl rfl⟩
      · cases h; exact hnothing

end IrqRun

/-! ## The stack -/

/-- The calls below the innermost one are inside handlers, the handlers are those of slots in use,
and `sym_irq_ongoing` counts the calls in the loop. -/
structure HandlerCallsInv (s : IrqRun) : Prop where
  lock : s.lock = ⟨0⟩
  outer : ∀ call ∈ s.calls.tail, call.inHandler = true
  ongoing : s.ongoing = (s.calls.map fun call => call.position.held).sum
  counted : ∀ call rest i, s.calls = call :: rest → call.position = .counted i →
    i < maxIrqs ∧ (s.records.irq.symIrq i).allocated ≠ 0 ∧ (s.records.irq.symIrq i).enabled = 1
  serving : ∀ i, s.Serving i → i < maxIrqs ∧ (s.records.irq.symIrq i).allocated ≠ 0

lemma LoopPosition.held_nonneg (position : LoopPosition) : 0 ≤ position.held := by
  cases position <;> simp [LoopPosition.held]

lemma HandlersCall.exists_handler {call : HandlersCall} (h : call.inHandler = true) :
    ∃ i, call.position = .handler i := by
  unfold HandlersCall.inHandler at h
  split at h
  · rename_i i hposition
    exact ⟨i, hposition⟩
  · cases h

namespace HandlerCallsInv

variable {s s' : IrqRun}

lemma initial (gSymRetval : ℤ) (gSymStartingFn : String) :
    HandlerCallsInv (.initial gSymRetval gSymStartingFn) := by
  constructor
  case lock => rfl
  case outer => exact fun call hcall => absurd hcall List.not_mem_nil
  case ongoing => rfl
  case counted =>
    intro call rest i hcalls _
    cases hcalls
  case serving =>
    rintro i ⟨call, hcall, _⟩
    exact absurd hcall List.not_mem_nil

/-- While other code runs, every call is inside a handler. -/
lemma all_inHandler (h : HandlerCallsInv s) (hrunning : s.running = true) :
    ∀ call ∈ s.calls, call.inHandler = true := by
  intro call hcall
  have houter := h.outer
  rw [IrqRun.running] at hrunning
  cases hcalls : s.calls with
  | nil =>
      rw [hcalls] at hcall
      exact absurd hcall List.not_mem_nil
  | cons top rest =>
      rw [hcalls] at hcall hrunning houter
      rcases List.mem_cons.mp hcall with rfl | hcall
      · exact hrunning
      · exact houter call hcall

/-- While a handler runs, `sym_irq_ongoing` shows it. -/
lemma ongoing_pos (h : HandlerCallsInv s) {i : ℕ} (hserving : s.Serving i) : 0 < s.ongoing := by
  obtain ⟨call, hcall, hposition⟩ := hserving
  have hle : call.position.held ≤ (s.calls.map fun call => call.position.held).sum := by
    refine List.single_le_sum ?_ _ (List.mem_map_of_mem hcall)
    intro n hn
    obtain ⟨call', _, rfl⟩ := List.mem_map.mp hn
    exact call'.position.held_nonneg
  rw [hposition] at hle
  rw [h.ongoing]
  exact lt_of_lt_of_le one_pos hle

/-- What is not a check of `irq.c`. -/
lemma restacks (h : HandlerCallsInv s) (hlock : s'.lock = ⟨0⟩)
    (htable : s'.records.irq.symIrq = s.records.irq.symIrq) (hstep : s.Restacks s') :
    HandlerCallsInv s' := by
  have hongoing := h.ongoing
  have houter := h.outer
  have hserving : ∀ i, (∀ call ∈ s'.calls, call.position = .handler i → s.Serving i) →
      s'.Serving i → i < maxIrqs ∧ (s'.records.irq.symIrq i).allocated ≠ 0 := by
    rintro i hold ⟨call, hcall, hposition⟩
    rw [htable]
    exact h.serving i (hold call hcall hposition)
  cases hstep with
  | same hcalls hsame =>
      refine ⟨hlock, by rwa [hcalls], by rwa [hcalls, hsame], ?_, fun i => hserving i ?_⟩
      · rw [hcalls, htable]
        exact h.counted
      · intro call hcall hposition
        exact ⟨call, hcalls ▸ hcall, hposition⟩
  | pushed call hstart hrunning hcalls hsame =>
      refine ⟨hlock, ?_, ?_, ?_, fun i => hserving i ?_⟩
      · rw [hcalls]
        exact h.all_inHandler hrunning
      · rw [hcalls, hsame, hongoing, List.map_cons, List.sum_cons, hstart]
        exact (zero_add _).symm
      · intro call' rest i hcalls' hposition
        rw [hcalls] at hcalls'
        cases hcalls'
        rw [hstart] at hposition
        cases hposition
      · intro call' hcall' hposition
        rw [hcalls] at hcall'
        rcases List.mem_cons.mp hcall' with rfl | hcall'
        · rw [hstart] at hposition
          cases hposition
        · exact ⟨call', hcall', hposition⟩
  | moved call rest position hbefore hcalls houtside hmoved hcounted =>
      rw [hbefore] at hongoing houter
      refine ⟨hlock, by rwa [hcalls], ?_, ?_, fun i => hserving i ?_⟩
      · rw [hcalls, List.map_cons, List.sum_cons]
        rw [List.map_cons, List.sum_cons] at hongoing
        dsimp only
        omega
      · intro call' rest' i hcalls' hposition
        rw [hcalls] at hcalls'
        cases hcalls'
        rw [htable]
        exact hcounted i hposition
      · intro call' hcall' hposition
        rw [hcalls] at hcall'
        rcases List.mem_cons.mp hcall' with rfl | hcall'
        · exact absurd hposition (houtside i)
        · exact ⟨call', by rw [hbefore]; exact List.mem_cons_of_mem _ hcall', hposition⟩
  | started call rest i hbefore hposition hcalls hsame =>
      obtain ⟨hi, halloc, henabled⟩ := h.counted call rest i hbefore hposition
      rw [hbefore] at hongoing houter
      refine ⟨hlock, by rwa [hcalls], ?_, ?_, ?_⟩
      · rw [hcalls, hsame, hongoing, List.map_cons, List.sum_cons, hposition]
        rfl
      · intro call' rest' j hcalls' hposition'
        rw [hcalls] at hcalls'
        cases hcalls'
        cases hposition'
      · rintro j ⟨call', hcall', hposition'⟩
        rw [hcalls] at hcall'
        rw [htable]
        rcases List.mem_cons.mp hcall' with rfl | hcall'
        · cases hposition'
          exact ⟨hi, halloc⟩
        · refine h.serving j ⟨call', ?_, hposition'⟩
          rw [hbefore]
          exact List.mem_cons_of_mem _ hcall'
  | popped call rest hbefore hposition hcalls hsame =>
      rw [hbefore] at hongoing houter
      have hinside : ∀ call' ∈ rest, call'.inHandler = true := houter
      refine ⟨hlock, ?_, ?_, ?_, fun i => hserving i ?_⟩
      · rw [hcalls]
        exact fun call' hcall' => hinside call' (List.mem_of_mem_tail hcall')
      · rw [hcalls, hsame, hongoing, List.map_cons, List.sum_cons, hposition]
        exact zero_add _
      · intro call' rest' i hcalls' hposition'
        have hin := hinside call' (by rw [← hcalls, hcalls']; exact List.mem_cons_self)
        obtain ⟨j, hj⟩ := HandlersCall.exists_handler hin
        rw [hposition'] at hj
        cases hj
      · intro call' hcall' hposition'
        refine ⟨call', ?_, hposition'⟩
        rw [hbefore]
        exact List.mem_cons_of_mem _ (hcalls ▸ hcall')

end HandlerCallsInv

/-! ## The table -/

/-- The allocated slots are the live registrations. -/
structure TableInv (state : IrqState) (d : DriverLines) : Prop where
  table : (state.allocatedSlots.map IrqStruct.registration).Perm d.live
  slots : ∀ i, (state.symIrq i).allocated = 0 ∨ (state.symIrq i).allocated = 1
  keys : (d.live.map Registration.key).Nodup

/-- No slot of a disabled line is enabled. -/
def LinesQuiet (state : IrqState) (d : DriverLines) : Prop :=
  ∀ i, i < maxIrqs → (state.symIrq i).allocated = 1 → (state.symIrq i).enabled = 1 →
    (state.symIrq i).number ∉ d.disabled

namespace IrqState

variable {state state' : IrqState} {i : ℕ}

lemma mem_allocatedSlots (hi : i < maxIrqs) (halloc : (state.symIrq i).allocated = 1) :
    state.symIrq i ∈ state.allocatedSlots :=
  List.mem_filter.mpr ⟨List.mem_map.mpr ⟨i, List.mem_range.mpr hi, rfl⟩, decide_eq_true halloc⟩

lemma allocatedSlots_congr (h : state'.symIrq = state.symIrq) :
    state'.allocatedSlots = state.allocatedSlots := by
  rw [allocatedSlots, slots, h]
  rfl

/-- Whether a slot is enabled does not matter for its registration. -/
lemma registrations_setEnabled (hi : i < maxIrqs) (halloc : (state.symIrq i).allocated = 1)
    (now : ℤ) :
    ((state.setSlot i { state.symIrq i with enabled := now }).allocatedSlots.map
      IrqStruct.registration).Perm (state.allocatedSlots.map IrqStruct.registration) := by
  have hout := (allocatedSlots_resetOne hi halloc).map IrqStruct.registration
  have hempty : ((state.resetOne i).symIrq i).allocated ≠ 1 := by
    rw [resetOne, symIrq_setSlot_self]
    exact zero_ne_one
  have hin := (@allocatedSlots_fill (state.resetOne i) i { state.symIrq i with enabled := now } hi
    hempty halloc).map IrqStruct.registration
  have hset : (state.resetOne i).setSlot i { state.symIrq i with enabled := now } =
      state.setSlot i { state.symIrq i with enabled := now } := by
    simp only [resetOne, setSlot, Function.update_idem]
  rw [hset] at hin
  exact hin.trans hout.symm

/-- A slot whose registration has its line alone is the only one of the line. -/
lemma eq_of_alone {d : DriverLines} (h : TableInv state d) {j : ℕ} (hi : i < maxIrqs)
    (halloc : (state.symIrq i).allocated = 1) (hj : j < maxIrqs)
    (halloc' : (state.symIrq j).allocated = 1)
    (halone : (d.live.countP fun reg => decide (reg.irq = (state.symIrq i).number)) ≤ 1)
    (hnumber : (state.symIrq j).number = (state.symIrq i).number) : j = i := by
  by_contra hne
  have hkeep : (state.resetOne i).symIrq j = state.symIrq j := symIrq_setSlot_of_ne hne
  have hother : (state.symIrq j).registration ∈
      (state.resetOne i).allocatedSlots.map IrqStruct.registration := by
    rw [← hkeep]
    exact List.mem_map_of_mem (mem_allocatedSlots hj (by rw [hkeep]; exact halloc'))
  have hperm := h.table.symm.trans ((allocatedSlots_resetOne hi halloc).map IrqStruct.registration)
  set onLine : Registration → Bool := fun reg => decide (reg.irq = (state.symIrq i).number)
  have hself : onLine (state.symIrq i).registration = true := decide_eq_true rfl
  have hpos : 0 < ((state.resetOne i).allocatedSlots.map IrqStruct.registration).countP onLine :=
    List.countP_pos_iff.mpr ⟨_, hother, decide_eq_true hnumber⟩
  rw [hperm.countP_eq, List.map_cons, List.countP_cons_of_pos hself] at halone
  omega

end IrqState

namespace TableInv

variable {state state' : IrqState} {d : DriverLines}

lemma initial : TableInv .initial .initial := by
  constructor
  case table => exact .refl _
  case slots => exact fun i => .inl rfl
  case keys => exact List.nodup_nil

lemma congr (h : TableInv state d) (hsame : state'.symIrq = state.symIrq) : TableInv state' d := by
  refine ⟨?_, ?_, h.keys⟩
  · rw [IrqState.allocatedSlots_congr hsame]
    exact h.table
  · rw [hsame]
    exact h.slots

lemma allocated (h : TableInv state d) {i : ℕ} (hne : (state.symIrq i).allocated ≠ 0) :
    (state.symIrq i).allocated = 1 :=
  (h.slots i).resolve_left hne

lemma registration_mem (h : TableInv state d) {i : ℕ} (hi : i < maxIrqs)
    (halloc : (state.symIrq i).allocated = 1) : (state.symIrq i).registration ∈ d.live :=
  h.table.mem_iff.mp (List.mem_map_of_mem (IrqState.mem_allocatedSlots hi halloc))

/-- **The step lemma** of the table. -/
lemma changes (h : TableInv state d) {c : IrqCheck} (hstep : state.Changes c state')
    (hnew : RequestsNew d c) : TableInv state' (d.after c) := by
  cases hstep with
  | unchanged hafter =>
      rw [hafter]
      exact h
  | @requested reg i name hi hfree hname n =>
      have hne : (state.symIrq i).allocated ≠ 1 := by
        rw [hfree]
        exact zero_ne_one
      have hreg : (reg.slot name).registration = reg := by
        cases reg
        cases hname
        rfl
      have hfill := (@IrqState.allocatedSlots_fill { state with symNumRequests := n } i
        (reg.slot name) hi hne rfl).map IrqStruct.registration
      rw [List.map_cons, hreg] at hfill
      refine ⟨hfill.trans (h.table.cons reg), setSlot_allocated h.slots (.inr rfl), ?_⟩
      exact List.nodup_cons.mpr ⟨hnew rfl rfl, h.keys⟩
  | @freed i hi halloc hongoing n =>
      have hout := (@IrqState.allocatedSlots_resetOne { state with symNumRequests := n } i hi
        halloc).map IrqStruct.registration
      refine ⟨filter_key_perm (h.table.symm.trans hout) h.keys,
        setSlot_allocated h.slots (.inl rfl), ?_⟩
      exact h.keys.sublist (List.filter_sublist.map _)
  | @enabled i hi halloc =>
      exact ⟨(IrqState.registrations_setEnabled hi halloc 1).trans h.table,
        setSlot_allocated h.slots (.inr halloc), h.keys⟩
  | @disabled i hi halloc =>
      exact ⟨(IrqState.registrations_setEnabled hi halloc 0).trans h.table,
        setSlot_allocated h.slots (.inr halloc), h.keys⟩

/-- A slot in use keeps its registration, unless the driver frees one while no handler runs. -/
lemma keeps {c : IrqCheck} (hstep : state.Changes c state') {i : ℕ}
    (halloc : (state.symIrq i).allocated = 1) (hongoing : state.symIrqOngoing ≠ 0) :
    (state'.symIrq i).allocated = 1 ∧
      (state'.symIrq i).registration = (state.symIrq i).registration := by
  cases hstep with
  | unchanged hafter => exact ⟨halloc, rfl⟩
  | @requested reg j name hj hfree hname n =>
      have hne : i ≠ j := by
        rintro rfl
        rw [hfree] at halloc
        cases halloc
      rw [IrqState.symIrq_setSlot_of_ne hne]
      exact ⟨halloc, rfl⟩
  | freed hj halloc' hzero n => exact absurd hzero hongoing
  | @enabled j hj halloc' =>
      by_cases hij : i = j
      · subst hij
        rw [IrqState.symIrq_setSlot_self]
        exact ⟨halloc, rfl⟩
      · rw [IrqState.symIrq_setSlot_of_ne hij]
        exact ⟨halloc, rfl⟩
  | @disabled j hj halloc' =>
      by_cases hij : i = j
      · subst hij
        rw [IrqState.symIrq_setSlot_self]
        exact ⟨halloc, rfl⟩
      · rw [IrqState.symIrq_setSlot_of_ne hij]
        exact ⟨halloc, rfl⟩

/-- Only `free_irq` ends registrations. -/
lemma live_subset {c : IrqCheck} (hstep : state.Changes c state')
    (hongoing : state.symIrqOngoing ≠ 0) {reg : Registration} (hreg : reg ∈ d.live) :
    reg ∈ (d.after c).live := by
  cases hstep with
  | unchanged hafter =>
      rw [hafter]
      exact hreg
  | requested hi hfree hname n => exact List.mem_cons_of_mem _ hreg
  | freed hi halloc hzero n => exact absurd hzero hongoing
  | enabled hi halloc => exact hreg
  | disabled hi halloc => exact hreg

/-- **The step lemma** of the lines. -/
lemma quiet (h : TableInv state d) (hquiet : LinesQuiet state d) {c : IrqCheck}
    (hstep : state.Changes c state') (halone : DisablesAlone d c) :
    LinesQuiet state' (d.after c) := by
  intro j hj
  cases hstep with
  | unchanged hafter =>
      rw [hafter]
      exact hquiet j hj
  | @requested reg i name hi hfree hname n =>
      by_cases hij : j = i
      · subst hij
        rw [IrqState.symIrq_setSlot_self]
        exact fun _ _ => halone rfl rfl
      · rw [IrqState.symIrq_setSlot_of_ne hij]
        exact hquiet j hj
  | @freed i hi halloc hongoing n =>
      by_cases hij : j = i
      · subst hij
        rw [IrqState.resetOne, IrqState.symIrq_setSlot_self]
        exact fun hempty => absurd hempty zero_ne_one
      · rw [IrqState.resetOne, IrqState.symIrq_setSlot_of_ne hij]
        exact fun halloc' henabled hmem =>
          hquiet j hj halloc' henabled (List.mem_filter.mp hmem).1
  | @enabled i hi halloc =>
      have hafter : (d.after (.enableIrq 1 (state.symIrq i).number)).disabled =
          d.disabled.filter fun n => decide (n ≠ (state.symIrq i).number) := rfl
      rw [hafter]
      by_cases hij : j = i
      · subst hij
        rw [IrqState.symIrq_setSlot_self]
        exact fun _ _ hmem => of_decide_eq_true (List.mem_filter.mp hmem).2 rfl
      · rw [IrqState.symIrq_setSlot_of_ne hij]
        exact fun halloc' henabled hmem =>
          hquiet j hj halloc' henabled (List.mem_filter.mp hmem).1
  | @disabled i hi halloc =>
      have hafter : (d.after (.disableIrq 1 (state.symIrq i).number)).disabled =
          (state.symIrq i).number :: d.disabled := rfl
      rw [hafter]
      by_cases hij : j = i
      · subst hij
        rw [IrqState.symIrq_setSlot_self]
        exact fun _ hzero => absurd hzero zero_ne_one
      · rw [IrqState.symIrq_setSlot_of_ne hij]
        intro halloc' henabled hmem
        rcases List.mem_cons.mp hmem with hnumber | hmem
        · exact hij (IrqState.eq_of_alone h hi halloc hj halloc' (halone rfl) hnumber)
        · exact hquiet j hj halloc' henabled hmem

end TableInv

/-! ## Runs -/

namespace IrqRun

variable {s s' : IrqRun} {maxInterruptsPerLine : ℕ}

/-- A check of `irq.c` can come only while other code runs. -/
lemma step_irq {c : IrqCheck} (h : s.step maxInterruptsPerLine (.check c.checkBody) = .ok s') :
    s.running = false ∧ s' = s ∨
      s.running = true ∧ s.Undisturbed s' ∧ s.records.irq.Changes c s'.records.irq := by
  rw [IrqRun.step] at h
  split_ifs at h with hrunning
  · exact .inr ⟨hrunning, onRecords_check h, IrqCheck.changes (onRecords_body h)⟩
  · cases h
    exact .inl ⟨by simpa using hrunning, rfl⟩

lemma Undisturbed.serving_iff (h : s.Undisturbed s') {i : ℕ} : s'.Serving i ↔ s.Serving i := by
  rw [Serving, h.calls, Serving]

/-- Only the innermost call starts a handler, behind its test of the slot. -/
lemma Restacks.starts (h : s.Restacks s') (hstarts : s.handlers < s'.handlers) :
    ∃ call rest i, s.calls = call :: rest ∧ call.position = .counted i ∧
      s'.calls = { call with position := .handler i, found := s.contexts } :: rest := by
  have hnot : ¬ s'.handlers ≤ s.handlers := Nat.not_le_of_lt hstarts
  rw [handlers, handlers] at hnot
  cases h with
  | same hcalls hsame => exact absurd (by rw [hcalls]) hnot
  | pushed call hstart hrunning hcalls hsame =>
      have hout : ¬ call.inHandler = true := by simp [HandlersCall.inHandler, hstart]
      exact absurd (by rw [hcalls, List.countP_cons_of_neg hout]) hnot
  | moved call rest position hbefore hcalls houtside hmoved hcounted =>
      refine absurd ?_ hnot
      have hout : ¬ HandlersCall.inHandler { call with position := position } = true := by
        cases position with
        | handler i => exact absurd rfl (houtside i)
        | _ => exact Bool.false_ne_true
      rw [hcalls, hbefore, List.countP_cons_of_neg hout, List.countP_cons]
      exact Nat.le_add_right _ _
  | started call rest i hbefore hposition hcalls hsame =>
      exact ⟨call, rest, i, hbefore, hposition, hcalls⟩
  | popped call rest hbefore hposition hcalls hsame =>
      refine absurd ?_ hnot
      rw [hcalls, hbefore, List.countP_cons]
      exact Nat.le_add_right _ _

end IrqRun

structure LinesInv (s : LinesRun) : Prop where
  stack : HandlerCallsInv s.run
  table : TableInv s.run.records.irq s.lines

namespace LinesInv

variable {s s' : LinesRun} {maxInterruptsPerLine : ℕ} {e : LineEvent}

lemma initial (gSymRetval : ℤ) (gSymStartingFn : String) :
    LinesInv (.initial gSymRetval gSymStartingFn) :=
  ⟨.initial gSymRetval gSymStartingFn, .initial⟩

/-- A slot whose handler is running is that of a live registration. -/
lemma serving (h : LinesInv s) {i : ℕ} (hserving : s.run.Serving i) :
    (s.run.records.irq.symIrq i).allocated = 1 ∧ s.run.registration i ∈ s.lines.live := by
  obtain ⟨hi, hne⟩ := h.stack.serving i hserving
  have halloc := h.table.allocated hne
  exact ⟨halloc, h.table.registration_mem hi halloc⟩

/-- A slot whose handler is running is not touched, and its registration lives on. -/
lemma stays (h : LinesInv s) (hstep : s.step maxInterruptsPerLine e = .ok s') {i : ℕ}
    (hserving : s.run.Serving i) :
    (s'.run.records.irq.symIrq i).allocated = 1 ∧ s'.run.registration i = s.run.registration i ∧
      s'.run.registration i ∈ s'.lines.live := by
  obtain ⟨halloc, hlive⟩ := h.serving hserving
  cases e with
  | irq c =>
      obtain ⟨run, hrun, rfl⟩ := map_eq_ok.mp hstep
      rcases IrqRun.step_irq hrun with ⟨hrunning, rfl⟩ | ⟨hrunning, hsame, hchanges⟩
      · rw [hrunning]
        exact ⟨halloc, rfl, hlive⟩
      · rw [hrunning, if_pos rfl]
        have hpos : 0 < s.run.records.irq.symIrqOngoing := h.stack.ongoing_pos hserving
        obtain ⟨halloc', hreg⟩ := TableInv.keeps hchanges halloc hpos.ne'
        have hreg : run.registration i = s.run.registration i := hreg
        exact ⟨halloc', hreg, hreg ▸ TableInv.live_subset hchanges hpos.ne' hlive⟩
  | other e hleaves =>
      obtain ⟨run, hrun, rfl⟩ := map_eq_ok.mp hstep
      obtain ⟨_, htable, _⟩ := IrqRun.step_restacks h.stack.lock hleaves hrun
      have hreg : run.registration i = s.run.registration i := by
        rw [IrqRun.registration, htable, IrqRun.registration]
      exact ⟨by rw [htable]; exact halloc, hreg, hreg ▸ hlive⟩

/-- **The step lemma.** -/
lemma step (h : LinesInv s) (hnew : s.Follows RequestsNew e)
    (hstep : s.step maxInterruptsPerLine e = .ok s') : LinesInv s' := by
  have hstays := fun i => h.stays hstep (i := i)
  cases e with
  | irq c =>
      obtain ⟨run, hrun, rfl⟩ := map_eq_ok.mp hstep
      rcases IrqRun.step_irq hrun with ⟨hrunning, rfl⟩ | ⟨hrunning, hsame, hchanges⟩
      · rw [hrunning]
        exact h
      · rw [hrunning, if_pos rfl]
        refine ⟨⟨hsame.lock, ?_, ?_, ?_, ?_⟩, h.table.changes hchanges hnew⟩
        · rw [hsame.calls]
          exact h.stack.outer
        · rw [hsame.ongoing, hsame.calls]
          exact h.stack.ongoing
        · intro call rest i hcalls hposition
          rw [hsame.calls] at hcalls
          obtain ⟨j, hj⟩ := HandlersCall.exists_handler (h.stack.all_inHandler hrunning call
            (by rw [hcalls]; exact List.mem_cons_self))
          rw [hposition] at hj
          cases hj
        · intro i hi
          have hi := hsame.serving_iff.mp hi
          refine ⟨(h.stack.serving i hi).1, ?_⟩
          rw [(hstays i hi).1]
          exact one_ne_zero
  | other e hleaves =>
      obtain ⟨run, hrun, rfl⟩ := map_eq_ok.mp hstep
      obtain ⟨hlock, htable, hre⟩ := IrqRun.step_restacks h.stack.lock hleaves hrun
      exact ⟨h.stack.restacks hlock htable hre, h.table.congr htable⟩

/-- A line that is disabled stays quiet. -/
lemma quiet (h : LinesInv s) (hquiet : LinesQuiet s.run.records.irq s.lines)
    (halone : s.Follows DisablesAlone e) (hstep : s.step maxInterruptsPerLine e = .ok s') :
    LinesQuiet s'.run.records.irq s'.lines := by
  cases e with
  | irq c =>
      obtain ⟨run, hrun, rfl⟩ := map_eq_ok.mp hstep
      rcases IrqRun.step_irq hrun with ⟨hrunning, rfl⟩ | ⟨hrunning, hsame, hchanges⟩
      · rw [hrunning]
        exact hquiet
      · rw [hrunning, if_pos rfl]
        exact h.table.quiet hquiet hchanges halone
  | other e hleaves =>
      obtain ⟨run, hrun, rfl⟩ := map_eq_ok.mp hstep
      obtain ⟨_, htable, _⟩ := IrqRun.step_restacks h.stack.lock hleaves hrun
      intro i hi
      rw [htable]
      exact hquiet i hi

/-- The slot of a handler that is started. -/
lemma starts (h : LinesInv s) (hstep : s.step maxInterruptsPerLine e = .ok s')
    (hstarts : s.run.handlers < s'.run.handlers) :
    ∃ i, s.run.Starts s'.run i ∧ i < maxIrqs ∧ (s.run.records.irq.symIrq i).allocated = 1 ∧
      (s.run.records.irq.symIrq i).enabled = 1 ∧
      ∀ j, s.run.Starts s'.run j → j = i := by
  cases e with
  | irq c =>
      obtain ⟨run, hrun, rfl⟩ := map_eq_ok.mp hstep
      rcases IrqRun.step_irq hrun with ⟨_, rfl⟩ | ⟨_, hsame, _⟩
      · exact absurd hstarts (Nat.lt_irrefl _)
      · exact absurd hsame.handlers (Nat.ne_of_gt hstarts)
  | other e hleaves =>
      obtain ⟨run, hrun, rfl⟩ := map_eq_ok.mp hstep
      obtain ⟨_, _, hre⟩ := IrqRun.step_restacks h.stack.lock hleaves hrun
      obtain ⟨call, rest, i, hbefore, hposition, hcalls⟩ := hre.starts hstarts
      obtain ⟨hi, hne, henabled⟩ := h.stack.counted call rest i hbefore hposition
      refine ⟨i, ⟨hstarts, _, rest, hcalls, rfl⟩, hi, h.table.allocated hne, henabled, ?_⟩
      rintro j ⟨_, call', rest', hcalls', hposition'⟩
      have hcalls' : run.calls = call' :: rest' := hcalls'
      rw [hcalls] at hcalls'
      cases hcalls'
      cases hposition'
      rfl

end LinesInv

/-- **Handlers run for live registrations only**: in every state that a run reaches in which the
driver makes no registration twice, a handler is started for a live registration, and no call frees
or replaces that registration until the handler has returned. -/
theorem handlers_serve_live (maxInterruptsPerLine : ℕ) (gSymRetval : ℤ) (gSymStartingFn : String)
    (events : List LineEvent) (s : LinesRun)
    (hnew : Throughout (LinesRun.step maxInterruptsPerLine) (LinesRun.Follows RequestsNew)
      (.initial gSymRetval gSymStartingFn) events)
    (hrun : events.foldlM (LinesRun.step maxInterruptsPerLine)
      (.initial gSymRetval gSymStartingFn) = .ok s) :
    ServesLive maxInterruptsPerLine s := by
  have h : LinesInv s :=
    Throughout.invariant (fun _ _ _ hs hnew hstep => hs.step hnew hstep) events
      (.initial gSymRetval gSymStartingFn) hnew hrun
  constructor
  case starts =>
    intro e s' hstep hstarts
    obtain ⟨i, hi, hlt, halloc, -, -⟩ := h.starts hstep hstarts
    exact ⟨i, hi, h.table.registration_mem hlt halloc⟩
  case serving => exact fun i hserving => (h.serving hserving).2
  case stays => exact fun e s' hstep i hserving => (h.stays hstep hserving).2

/-- The driver makes its registrations and disables lines with care. -/
def Careful (d : DriverLines) (c : IrqCheck) : Prop := RequestsNew d c ∧ DisablesAlone d c

/-- **No handler of a disabled line is started**, in any state of such a run. -/
theorem disabled_lines_quiet (maxInterruptsPerLine : ℕ) (gSymRetval : ℤ) (gSymStartingFn : String)
    (events : List LineEvent) (s : LinesRun)
    (hcareful : Throughout (LinesRun.step maxInterruptsPerLine) (LinesRun.Follows Careful)
      (.initial gSymRetval gSymStartingFn) events)
    (hrun : events.foldlM (LinesRun.step maxInterruptsPerLine)
      (.initial gSymRetval gSymStartingFn) = .ok s) :
    Quiet maxInterruptsPerLine s := by
  have hfollows : ∀ (s : LinesRun) (e : LineEvent), s.Follows Careful e →
      s.Follows RequestsNew e ∧ s.Follows DisablesAlone e := by
    intro s e he
    cases e with
    | irq c => exact he
    | other e hleaves => exact ⟨trivial, trivial⟩
  have hstep : ∀ s e s', LinesInv s ∧ LinesQuiet s.run.records.irq s.lines →
      LinesRun.Follows Careful s e → s.step maxInterruptsPerLine e = .ok s' →
      LinesInv s' ∧ LinesQuiet s'.run.records.irq s'.lines := by
    intro s e s' hs he hstep
    obtain ⟨hnew, halone⟩ := hfollows s e he
    exact ⟨hs.1.step hnew hstep, hs.1.quiet hs.2 halone hstep⟩
  obtain ⟨h, hquiet⟩ := Throughout.invariant hstep events
    ⟨.initial gSymRetval gSymStartingFn, fun i _ hzero => absurd hzero zero_ne_one⟩ hcareful hrun
  intro e s' hstep i hi
  obtain ⟨j, _, hlt, halloc, henabled, honly⟩ := h.starts hstep hi.1
  rw [honly i hi]
  exact hquiet j hlt halloc henabled

/-! ## Two network cards -/

def eth0 : Registration := ⟨9, 0x5000, 0x6000, 0, some "eth0"⟩

/-- A step of the framework or of a call. -/
def LineEvent.advance : LineEvent := .other .advance trivial

/-- The driver registers a handler, and is entered and left by the kernel; the handler masks its
line, and is still running. -/
def maskingEvents : List LineEvent :=
  [.irq (.requestThreadedIrq 0 0 eth0), .irq (.requestThreadedIrq 1 0 eth0),
    .other (.enter "open" 10 .prepostFn 0 0) trivial,
    .other (.exit "open" 20 .prepostFn 0 0 false) trivial,
    .advance, .advance, .advance, .irq (.interruptHandler false 0), .irq (.disableIrq 1 9)]

theorem masking_serves_live :
    ∃ s, maskingEvents.foldlM (LinesRun.step 5) (.initial 0 "") = .ok s ∧ s.run.Serving 0 ∧
      ServesLive 5 s := by
  have hnew : Throughout (LinesRun.step 5) (LinesRun.Follows RequestsNew) (.initial 0 "")
      maskingEvents := by
    refine .cons (fun h => absurd h zero_ne_one) rfl
      (.cons (fun _ _ => List.not_mem_nil) rfl ?_)
    iterate 6 refine .cons trivial rfl ?_
    exact .singleton trivial
  exact ⟨_, rfl, ⟨_, List.mem_cons_self, rfl⟩, handlers_serve_live 5 0 "" maskingEvents _ hnew rfl⟩

theorem masking_quiet :
    ∃ s, maskingEvents.foldlM (LinesRun.step 5) (.initial 0 "") = .ok s ∧
      s.lines.disabled = [9] ∧ Quiet 5 s := by
  have hcareful : Throughout (LinesRun.step 5) (LinesRun.Follows Careful) (.initial 0 "")
      maskingEvents := by
    refine .cons ⟨fun h => absurd h zero_ne_one, fun h => absurd h zero_ne_one⟩ rfl
      (.cons ⟨fun _ _ => List.not_mem_nil, fun _ _ => List.not_mem_nil⟩ rfl ?_)
    iterate 5 refine .cons trivial rfl ?_
    exact .cons ⟨trivial, trivial⟩ rfl (.singleton ⟨trivial, fun _ => le_rfl⟩)
  exact ⟨_, rfl, rfl, disabled_lines_quiet 5 0 "" maskingEvents _ hcareful rfl⟩

/-- On a shared line `disable_irq` reaches the first registration only: the handler of the second
one is started. -/
example : ∃ s, ([.irq (.requestThreadedIrq 1 0 eth0),
      .irq (.requestThreadedIrq 1 0 ⟨9, 0x5000, 0x7000, 0, some "eth1"⟩), .irq (.disableIrq 1 9),
      .other (.enter "open" 10 .prepostFn 0 0) trivial,
      .other (.exit "open" 20 .prepostFn 0 0 false) trivial,
      .advance, .advance, .advance, .advance, .advance] : List LineEvent).foldlM (LinesRun.step 5)
        (.initial 0 "") = .ok s ∧ s.run.Serving 1 ∧ s.lines.disabled = [9] :=
  ⟨_, rfl, ⟨_, List.mem_cons_self, rfl⟩, rfl⟩

end SymDrive

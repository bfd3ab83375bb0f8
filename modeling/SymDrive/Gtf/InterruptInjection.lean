import SymDrive.Gtf.ContextStacks
import SymDrive.Gtf.EnterExit
import SymDrive.Gtf.IrqTable

/-!
# Injected interrupts

`call_interrupt_handlers` of `misc_checks/irq.c`: whenever the driver calls the kernel, and when the
kernel's outermost call of the driver ends, the framework runs the handlers the driver registered.
A handler is driver code, so its own calls and entries come back to the same function, to any depth.

A run is a stack of calls of the function that have not returned, each at a position of its loop.
As long as the innermost call is between two handlers only it can go on; while a handler runs, or
outside of every call, anything can happen that the framework notices.  `Nesting` lists the stacks
that occur: the variable `sym_irq_ongoing` lets at most one call enter the loop, so a handler never
starts under another one (`injected_interrupts_never_nest`).
-/

namespace SymDrive

open Checked

/-! ## The state of a run -/

/-- What `can_call_interrupt_handlers` reads: the blocking contexts, the innermost first, and the
override of `set_device_interrupts`. -/
structure IrqContexts where
  blocking : List BlockingContext
  deviceIrqDisabled : ℤ
  deriving DecidableEq

/-- Where a call of `call_interrupt_handlers` stands. -/
inductive LoopPosition where
  /-- Before the tests. -/
  | start
  /-- At the head of the loop. -/
  | slot (i : ℕ)
  /-- Slot `i` is enabled, and the counter of the line was incremented. -/
  | counted (i : ℕ)
  /-- The handler of slot `i` is running. -/
  | handler (i : ℕ)
  /-- About to return. -/
  | done
  deriving DecidableEq

/-- The function that called `call_interrupt_handlers`, with what it does afterwards. -/
inductive HandlersCaller where
  | genEnterDriver (fn : String) (retvalValid : ℤ) (retval : ULong)
  | genExitDriver

/-- A call of `call_interrupt_handlers`, the value `sym_irq_ongoing` had when it was made, and what
the last handler it started found. -/
structure HandlersCall where
  line : ULong
  caller : HandlersCaller
  position : LoopPosition
  ongoingBefore : ℤ
  found : IrqContexts

/-- The call is inside a handler. -/
def HandlersCall.inHandler (call : HandlersCall) : Bool :=
  match call.position with
  | .handler _ => true
  | _ => false

/-- Driver or kernel code is running: there is no call, or the innermost one is inside a handler. -/
def codeRunning : List HandlersCall → Bool
  | [] => true
  | call :: _ => call.inHandler

/-- A visit of an enabled slot: the line it counts for, and whether the handler was called. -/
structure SlotVisit where
  line : ULong
  slot : ℕ
  invoked : Bool
  deriving DecidableEq

/-- The variables of the framework, the calls of `call_interrupt_handlers` that have not returned,
the innermost first, and the visits made so far, the last one first. -/
structure IrqRun where
  lock : GlobalLock
  records : Records
  driver : EnterExit
  deviceIrqDisabled : ℤ
  symIrqLines : ULong → ℕ
  calls : List HandlersCall
  visits : List SlotVisit

/-- The body leaves `sym_irq_ongoing` alone. -/
def KeepsOngoing (body : Records → Except Fault Records) : Prop :=
  ∀ r r', body r = .ok r' → r'.irq.symIrqOngoing = r.irq.symIrqOngoing

/-- A body that a check routine runs under the lock.  The variable `sym_irq_ongoing` is static in
`irq.c`, and no check routine writes it (`IrqCheck.checkBody` for those of that file). -/
structure CheckBody where
  body : Records → Except Fault Records
  keeps : KeepsOngoing body

inductive InjectionEvent where
  /-- The innermost call of `call_interrupt_handlers` goes on. -/
  | advance
  /-- The running handler returns. -/
  | handlerReturns
  | enter (fn : String) (line : ULong) (wrapperType : WrapperType) (retvalValid : ℤ)
      (retval : ULong)
  | exit (fn : String) (line : ULong) (wrapperType : WrapperType) (retvalValid : ℤ)
      (retval : ULong) (symbolic : Bool)
  | check (c : CheckBody)
  /-- Another function that generated code calls. -/
  | generated (body : Framework → Except Fault Framework)
  | setDeviceInterrupts (disabled : ℤ)

namespace IrqRun

/-- `initialize_irqs`, for given module parameters. -/
def initial (gSymRetval : ℤ) (gSymStartingFn : String) : IrqRun where
  lock := ⟨0⟩
  records := .initial
  driver := .initial gSymRetval gSymStartingFn
  deviceIrqDisabled := 0
  symIrqLines := fun _ => 0
  calls := []
  visits := []

def ongoing (s : IrqRun) : ℤ := s.records.irq.symIrqOngoing

def contexts (s : IrqRun) : IrqContexts where
  blocking := contextStack s.records.test.blockingContext s.records.test.blockingContextCurrent
  deviceIrqDisabled := s.deviceIrqDisabled

/-- What `enter_exit.c` works on. -/
def framework (s : IrqRun) : Framework where
  lock := s.lock
  test := s.records.test
  driver := s.driver

def onFramework (s : IrqRun) (f : Framework → Except Fault Framework) : Except Fault IrqRun :=
  (f s.framework).map fun f' =>
    { s with lock := f'.lock, records := { s.records with test := f'.test }, driver := f'.driver }

def onRecords (s : IrqRun) (f : CheckState → Except Fault CheckState) : Except Fault IrqRun :=
  (f ⟨s.lock, s.records⟩).map fun c => { s with lock := c.lock, records := c.records }

def setOngoing (s : IrqRun) (n : ℤ) : IrqRun :=
  { s with records := { s.records with irq := { s.records.irq with symIrqOngoing := n } } }

/-- `sym_irq_lines[LINE] = n`. -/
def setLine (s : IrqRun) (line : ULong) (n : ℕ) : IrqRun :=
  { s with symIrqLines := Function.update s.symIrqLines line n }

def running (s : IrqRun) : Bool := codeRunning s.calls

end IrqRun

/-! ## The code -/

/-- `MAX_IRQ_LINES`, the number of lines of code that are told apart. -/
def maxIrqLines : ULong := 200000

def canCallInterruptHandlers (g : GlobalState) (deviceIrqDisabled : ℤ) : Bool :=
  if deviceIrqDisabled = 1 then false
  else match kernelBlockingState g with
    | .yes | .undefined => true
    | .no => false

namespace IrqRun

/-- The call of `call_interrupt_handlers`; what it does is left to `advanceCall`. -/
def callInterruptHandlers (s : IrqRun) (line : ULong) (caller : HandlersCaller) : IrqRun :=
  { s with calls := ⟨line, caller, .start, s.ongoing, s.contexts⟩ :: s.calls }

/-- Interrupt handlers run before the lock is taken, and only on the way back from the kernel. -/
def genEnterDriver (s : IrqRun) (fn : String) (line : ULong) (wrapperType : WrapperType)
    (retvalValid : ℤ) (retval : ULong) : Except Fault IrqRun :=
  match wrapperType with
  | .stubWrapper => .ok (s.callInterruptHandlers line (.genEnterDriver fn retvalValid retval))
  | .prepostFn =>
      s.onFramework fun f => SymDrive.genEnterDriver f fn .prepostFn retvalValid retval

def genExitDriver (s : IrqRun) (fn : String) (line : ULong) (wrapperType : WrapperType)
    (retvalValid : ℤ) (retval : ULong) (symbolic : Bool) : Except Fault IrqRun := do
  let s ← s.onFramework fun f =>
    SymDrive.genExitDriver f fn wrapperType retvalValid retval symbolic
  if wrapperType = .prepostFn ∧ s.driver.driverCallStack = 0 then
    .ok (s.callInterruptHandlers line .genExitDriver)
  else .ok s

/-- What the caller does after `call_interrupt_handlers`. -/
def resume (s : IrqRun) : HandlersCaller → Except Fault IrqRun
  | .genEnterDriver fn retvalValid retval =>
      s.onFramework fun f => SymDrive.genEnterDriver f fn .stubWrapper retvalValid retval
  | .genExitDriver => .ok s

/-- The innermost call moves to another position; `rest` are the calls around it. -/
def moveTo (s : IrqRun) (call : HandlersCall) (rest : List HandlersCall)
    (position : LoopPosition) : IrqRun :=
  { s with calls := { call with position := position } :: rest }

/-- `sym_irq[i].handler (..)`. -/
def startHandler (s : IrqRun) (call : HandlersCall) (rest : List HandlersCall) (i : ℕ) : IrqRun :=
  { s with
    calls := { call with position := .handler i, found := s.contexts } :: rest,
    visits := ⟨call.line, i, true⟩ :: s.visits }

/-- The handler is not called. -/
def passOver (s : IrqRun) (call : HandlersCall) (i : ℕ) : IrqRun :=
  { s with visits := ⟨call.line, i, false⟩ :: s.visits }

section

-- `MAX_INTERRUPTS_PER_LINE`.
variable (maxInterruptsPerLine : ℕ)

/-- `call_interrupt_handlers`, from one position to the next. -/
def advanceCall (s : IrqRun) (call : HandlersCall) (rest : List HandlersCall) :
    Except Fault IrqRun :=
  match call.position with
  | .start =>
      if s.ongoing > 0 then .ok (s.moveTo call rest .done)
      else if canCallInterruptHandlers s.records.test s.deviceIrqDisabled = false then
        .ok (s.moveTo call rest .done)
      else do
        tfassertDetail .callInterruptHandlers (call.line < maxIrqLines)
          s!"Failed:  MAX_IRQ_LINES not big enough {maxIrqLines} vs {call.line}\n"
        .ok ((s.setOngoing (s.ongoing + 1)).moveTo call rest (.slot 0))
  | .slot i =>
      if i < maxIrqs then
        if (s.records.irq.symIrq i).allocated = 0 then .ok (s.moveTo call rest (.slot (i + 1)))
        else if (s.records.irq.symIrq i).enabled = 1 then
          let count := (s.symIrqLines call.line + 1) % 2 ^ 8
          .ok ((s.setLine call.line count).moveTo call rest (.counted i))
        else .ok (s.moveTo call rest (.slot (i + 1)))
      else .ok ((s.setOngoing (s.ongoing - 1)).moveTo call rest .done)
  | .counted i =>
      if s.symIrqLines call.line ≤ maxInterruptsPerLine then .ok (s.startHandler call rest i)
      else
        let s := s.passOver call i
        let s := if s.symIrqLines call.line > 100 then
          s.setLine call.line (maxInterruptsPerLine - 1) else s
        .ok (s.moveTo call rest (.slot (i + 1)))
  | .handler _ => .ok s
  | .done => { s with calls := rest }.resume call.caller

/-- An event that is not possible changes nothing. -/
def step (s : IrqRun) : InjectionEvent → Except Fault IrqRun
  | .advance =>
      match s.calls with
      | call :: rest => s.advanceCall maxInterruptsPerLine call rest
      | [] => .ok s
  | .handlerReturns =>
      match s.calls with
      | ⟨line, caller, .handler i, ongoingBefore, found⟩ :: rest =>
          .ok { s with calls := ⟨line, caller, .slot (i + 1), ongoingBefore, found⟩ :: rest }
      | _ => .ok s
  | .enter fn line wrapperType retvalValid retval =>
      if s.running then s.genEnterDriver fn line wrapperType retvalValid retval else .ok s
  | .exit fn line wrapperType retvalValid retval symbolic =>
      if s.running then s.genExitDriver fn line wrapperType retvalValid retval symbolic else .ok s
  | .check c => if s.running then s.onRecords fun st => checkRoutine st c.body else .ok s
  | .generated body => if s.running then s.onFramework fun f => f.locked body else .ok s
  | .setDeviceInterrupts disabled =>
      if s.running then .ok { s with deviceIrqDisabled := disabled } else .ok s

end

end IrqRun

/-! ## The check routines of `irq.c` -/

inductive IrqCheck where
  | requestThreadedIrq (prepost retval : ℤ) (reg : Registration)
  | freeIrq (prepost : ℤ) (irq devId : ULong)
  | enableIrq (prepost : ℤ) (irq : ULong)
  | disableIrq (prepost : ℤ) (irq : ULong)
  | interruptHandler (symForceReceive : Bool) (prepost : ℤ)

def IrqCheck.run (s : CheckState) : IrqCheck → Except Fault CheckState
  | requestThreadedIrq prepost retval reg => requestThreadedIrqMJRcheck s prepost retval reg
  | freeIrq prepost irq devId => freeIrqMJRcheck s prepost irq devId
  | enableIrq prepost irq => enableIrqMJRcheck s prepost irq
  | disableIrq prepost irq => disableInterrupt s prepost irq
  | interruptHandler symForceReceive prepost => interruptHandlerMJRcheck s symForceReceive prepost

section

variable {f g : Records → Except Fault Records}

lemma keepsOngoing_ok : KeepsOngoing .ok := by
  intro r r' h
  cases h
  rfl

lemma KeepsOngoing.bind (hf : KeepsOngoing f) (hg : KeepsOngoing g) :
    KeepsOngoing fun r => f r >>= g := by
  intro r r' h
  obtain ⟨r₁, h₁, h₂⟩ := bind_eq_ok.mp h
  rw [hg r₁ r' h₂, hf r r₁ h₁]

lemma KeepsOngoing.ite (c : Prop) [Decidable c] (hf : KeepsOngoing f) (hg : KeepsOngoing g) :
    KeepsOngoing fun r => if c then f r else g r := by
  by_cases h : c
  · simpa only [if_pos h] using hf
  · simpa only [if_neg h] using hg

lemma KeepsOngoing.prepost {check : Check} {prepost : ℤ} (hf : KeepsOngoing f)
    (hg : KeepsOngoing g) : KeepsOngoing (prepostBody check prepost f g) :=
  .ite _ hf (.ite _ hg fun _ _ h => nomatch h)

lemma keepsOngoing_onTest (h : GlobalState → Except Fault GlobalState) :
    KeepsOngoing fun r => r.onTest h := by
  intro r r' hr
  obtain ⟨g, _, rfl⟩ := map_eq_ok.mp hr
  rfl

lemma keepsOngoing_onIrq {h : IrqState → Except Fault IrqState}
    (hkeeps : ∀ irq irq', h irq = .ok irq' → irq'.symIrqOngoing = irq.symIrqOngoing) :
    KeepsOngoing fun r => r.onIrq h := by
  intro r r' hr
  obtain ⟨irq, hirq, rfl⟩ := map_eq_ok.mp hr
  exact hkeeps _ _ hirq

lemma keepsOngoing_pushUserState (c : UserContext) : KeepsOngoing fun r => pushUserState r c := by
  intro r r' h
  unfold pushUserState at h
  dsimp only at h
  split_ifs at h
  cases h
  rfl

lemma keepsOngoing_popUserState : KeepsOngoing popUserState := by
  intro r r' h
  obtain ⟨_, h⟩ := tfassertDetail_bind_eq_ok.mp h
  cases h
  rfl

end

namespace IrqState

variable {state state' : IrqState}

lemma request_ongoing {reg : Registration} (h : state.request reg = .ok state') :
    state'.symIrqOngoing = state.symIrqOngoing := by
  unfold request at h
  dsimp only at h
  split at h
  · cases h
  · obtain ⟨_, h⟩ := tfassertDetail_bind_eq_ok.mp h
    obtain ⟨name, _, h⟩ := bind_eq_ok.mp h
    cases h
    rfl

lemma free_ongoing {prepost : ℤ} {irq devId : ULong}
    (h : state.free prepost irq devId = .ok state') :
    state'.symIrqOngoing = state.symIrqOngoing := by
  obtain ⟨_, h⟩ := tfassertDetail_bind_eq_ok.mp h
  dsimp only at h
  split at h
  · cases h
  · obtain ⟨_, h⟩ := tfassertDetail_bind_eq_ok.mp h
    obtain ⟨_, h⟩ := tfassertDetail_bind_eq_ok.mp h
    cases h
    rfl

lemma setEnabled_ongoing {check : Check} {irq : ULong} {was now : ℤ} {wrong missing : String}
    (h : state.setEnabled check irq was now wrong missing = .ok state') :
    state'.symIrqOngoing = state.symIrqOngoing := by
  unfold setEnabled at h
  split at h
  · cases h
  · obtain ⟨_, h⟩ := tfassertDetail_bind_eq_ok.mp h
    cases h
    rfl

end IrqState

/-- What each of them runs under the lock leaves `sym_irq_ongoing` alone. -/
def IrqCheck.checkBody : IrqCheck → CheckBody
  | requestThreadedIrq prepost retval reg =>
      { body := fun r =>
          if prepost = 1 ∧ retval = 0 then r.onIrq fun irq => irq.request reg else .ok r
        keeps := .ite _ (keepsOngoing_onIrq fun _ _ h => IrqState.request_ongoing h)
          keepsOngoing_ok }
  | freeIrq prepost irq devId =>
      { body := fun r =>
          if prepost = 0 then r.onIrq fun state => state.free prepost irq devId else .ok r
        keeps := .ite _ (keepsOngoing_onIrq fun _ _ h => IrqState.free_ongoing h)
          keepsOngoing_ok }
  | enableIrq prepost irq =>
      { body := fun r =>
          if prepost = 1 then
            r.onIrq fun state => state.setEnabled .enableIrq irq 0 1
              "Why enable an enabled interrupt? IRQ" "Enabling interrupt that doesn't exist"
          else .ok r
        keeps := .ite _ (keepsOngoing_onIrq fun _ _ h => IrqState.setEnabled_ongoing h)
          keepsOngoing_ok }
  | disableIrq prepost irq =>
      { body := fun r =>
          if prepost = 1 then
            r.onIrq fun state => state.setEnabled .disableIrq irq 1 0
              "Why disable an enabled interrupt? IRQ" "Disabling interrupt that doesn't exist"
          else .ok r
        keeps := .ite _ (keepsOngoing_onIrq fun _ _ h => IrqState.setEnabled_ongoing h)
          keepsOngoing_ok }
  | interruptHandler symForceReceive prepost =>
      { body := prepostBody .interruptHandler prepost
          (fun r => (r.onTest fun g => pushBlockingState g .no) >>= fun r => pushUserState r .yes)
          (fun r => (r.onTest popBlockingState) >>= fun r => popUserState r >>= fun r =>
            if symForceReceive then getDriverClass r >>= fun _ => .ok r else .ok r)
        keeps := by
          have hclass : KeepsOngoing fun r => getDriverClass r >>= fun _ => .ok r := by
            intro r r' h
            obtain ⟨_, _, h⟩ := bind_eq_ok.mp h
            cases h
            rfl
          exact .prepost ((keepsOngoing_onTest _).bind (keepsOngoing_pushUserState .yes))
            ((keepsOngoing_onTest _).bind
              (keepsOngoing_popUserState.bind (.ite _ hclass keepsOngoing_ok))) }

/-- The check routines of `irq.c` are check routines with such a body. -/
theorem IrqCheck.run_eq (s : CheckState) (c : IrqCheck) :
    c.run s = checkRoutine s c.checkBody.body := by
  cases c <;> rfl

/-! ## The specification -/

namespace IrqRun

/-- How many handlers are running. -/
def handlers (s : IrqRun) : ℕ := s.calls.countP HandlersCall.inHandler

/-- A handler that returns leaves the contexts and the override as it found them. -/
def HandlerLeavesContexts (s : IrqRun) : InjectionEvent → Prop
  | .handlerReturns => ∀ call rest, s.calls = call :: rest → call.inHandler = true →
      s.contexts = call.found
  | _ => True

/-- What holds between two steps. -/
structure Orderly (maxInterruptsPerLine : ℕ) (s : IrqRun) : Prop where
  ongoing : s.ongoing = 0 ∨ s.ongoing = 1
  handlers : s.handlers ≤ 1
  starts : ∀ e s', s.step maxInterruptsPerLine e = .ok s' → s.handlers < s'.handlers →
    s.handlers = 0 ∧ s.deviceIrqDisabled ≠ 1 ∧ kernelBlockingState s.records.test ≠ .no ∧
      s.lock.globalLockAcquired = 0
  returns : ∀ call rest, s.calls = call :: rest → call.position = .done →
    s.ongoing = call.ongoingBefore

end IrqRun

/-! ## The contexts -/

/-- The override is off, and the innermost context does not forbid sleeping. -/
def IrqContexts.Allow (c : IrqContexts) : Prop :=
  c.deviceIrqDisabled ≠ 1 ∧ c.blocking.head? ≠ some .no

lemma head?_contextStack {α : Type} (contexts : ℕ → α) (n : ℕ) :
    (contextStack contexts n).head? = some (contexts n) := by
  cases n <;> rfl

lemma IrqRun.allow_iff {s : IrqRun} :
    s.contexts.Allow ↔ s.deviceIrqDisabled ≠ 1 ∧ kernelBlockingState s.records.test ≠ .no := by
  simp [IrqContexts.Allow, IrqRun.contexts, head?_contextStack, kernelBlockingState]

lemma IrqRun.canCall_iff {s : IrqRun} :
    canCallInterruptHandlers s.records.test s.deviceIrqDisabled = true ↔ s.contexts.Allow := by
  rw [IrqRun.allow_iff]
  unfold canCallInterruptHandlers
  split_ifs with hdisabled
  · simp [hdisabled]
  · cases kernelBlockingState s.records.test <;> simp [hdisabled]

/-! ## The stack of calls -/

/-- The stacks of calls that occur, with the value of `sym_irq_ongoing`; `now` is what the tests
would find now. -/
inductive Nesting (now : IrqContexts) : List HandlersCall → ℤ → Prop where
  | idle : Nesting now [] 0
  /-- A call that has not passed the tests, or has left the loop. -/
  | outside (line : ULong) (caller : HandlersCaller) (found : IrqContexts)
      (position : LoopPosition) (hposition : position = .start ∨ position = .done) :
      Nesting now [⟨line, caller, position, 0, found⟩] 0
  | slot (line : ULong) (caller : HandlersCaller) (found : IrqContexts) (i : ℕ) (hnow : now.Allow) :
      Nesting now [⟨line, caller, .slot i, 0, found⟩] 1
  | counted (line : ULong) (caller : HandlersCaller) (found : IrqContexts) (i : ℕ)
      (hnow : now.Allow) : Nesting now [⟨line, caller, .counted i, 0, found⟩] 1
  | handler (line : ULong) (caller : HandlersCaller) (found : IrqContexts) (i : ℕ)
      (hfound : found.Allow) : Nesting now [⟨line, caller, .handler i, 0, found⟩] 1
  /-- A call made while a handler runs. -/
  | nested (line line' : ULong) (caller caller' : HandlersCaller) (found found' : IrqContexts)
      (i : ℕ) (hfound : found.Allow) (position : LoopPosition)
      (hposition : position = .start ∨ position = .done) :
      Nesting now [⟨line', caller', position, 1, found'⟩, ⟨line, caller, .handler i, 0, found⟩] 1

namespace Nesting

variable {now now' : IrqContexts} {calls : List HandlersCall} {n : ℤ}

lemma ongoing (h : Nesting now calls n) : n = 0 ∨ n = 1 := by
  cases h <;> simp

lemma handlers (h : Nesting now calls n) : calls.countP HandlersCall.inHandler ≤ 1 := by
  cases h with
  | idle => simp
  | outside line caller found position hposition =>
      rcases hposition with rfl | rfl <;> simp [HandlersCall.inHandler]
  | slot line caller found i hnow => simp [HandlersCall.inHandler]
  | counted line caller found i hnow => simp [HandlersCall.inHandler]
  | handler line caller found i hfound => simp [HandlersCall.inHandler]
  | nested line line' caller caller' found found' i hfound position hposition =>
      rcases hposition with rfl | rfl <;> simp [HandlersCall.inHandler]

lemma returns (h : Nesting now calls n) {call : HandlersCall} {rest : List HandlersCall}
    (hcalls : calls = call :: rest) (hdone : call.position = .done) : n = call.ongoingBefore := by
  cases h with
  | idle => cases hcalls
  | outside line caller found position hposition => cases hcalls; rfl
  | slot line caller found i hnow => cases hcalls; cases hdone
  | counted line caller found i hnow => cases hcalls; cases hdone
  | handler line caller found i hfound => cases hcalls; cases hdone
  | nested line line' caller caller' found found' i hfound position hposition => cases hcalls; rfl

/-- While other code runs there is no call, or one that is inside a handler. -/
lemma of_running (h : Nesting now calls n) (hrunning : codeRunning calls = true) :
    calls = [] ∧ n = 0 ∨ ∃ line caller found i, found.Allow ∧ n = 1 ∧
      calls = [⟨line, caller, .handler i, 0, found⟩] := by
  cases h with
  | idle => exact .inl ⟨rfl, rfl⟩
  | outside line caller found position hposition =>
      rcases hposition with rfl | rfl <;> cases hrunning
  | slot line caller found i hnow => cases hrunning
  | counted line caller found i hnow => cases hrunning
  | handler line caller found i hfound =>
      exact .inr ⟨line, caller, found, i, hfound, rfl, rfl⟩
  | nested line line' caller caller' found found' i hfound position hposition =>
      rcases hposition with rfl | rfl <;> cases hrunning

/-- Between two handlers there is one call only, and the tests it has passed would succeed again. -/
lemma of_inLoop (h : Nesting now calls n) {call : HandlersCall} {rest : List HandlersCall} {i : ℕ}
    (hcalls : calls = call :: rest)
    (hposition : call.position = .slot i ∨ call.position = .counted i) :
    now.Allow ∧ n = 1 ∧ call.ongoingBefore = 0 ∧ rest = [] := by
  cases h with
  | idle => cases hcalls
  | outside line caller found position hp =>
      cases hcalls
      rcases hp with rfl | rfl <;> rcases hposition with h | h <;> cases h
  | slot line caller found j hnow => cases hcalls; exact ⟨hnow, rfl, rfl, rfl⟩
  | counted line caller found j hnow => cases hcalls; exact ⟨hnow, rfl, rfl, rfl⟩
  | handler line caller found j hfound => cases hcalls; rcases hposition with h | h <;> cases h
  | nested line line' caller caller' found found' j hfound position hp =>
      cases hcalls
      rcases hp with rfl | rfl <;> rcases hposition with h | h <;> cases h

/-- Without the call that is about to return, other code is running. -/
lemma of_done (h : Nesting now calls n) {call : HandlersCall} {rest : List HandlersCall}
    (hcalls : calls = call :: rest) (hposition : call.position = .done) :
    Nesting now rest n ∧ codeRunning rest = true := by
  cases h with
  | idle => cases hcalls
  | outside line caller found position hp => cases hcalls; exact ⟨.idle, rfl⟩
  | slot line caller found j hnow => cases hcalls; cases hposition
  | counted line caller found j hnow => cases hcalls; cases hposition
  | handler line caller found j hfound => cases hcalls; cases hposition
  | nested line line' caller caller' found found' j hfound position hp =>
      cases hcalls
      exact ⟨.handler line caller found j hfound, rfl⟩

end Nesting

/-! ## What other code leaves alone -/

/-- Everything the injection of interrupts keeps is as before, and the lock is free. -/
structure IrqRun.Undisturbed (s s' : IrqRun) : Prop where
  lock : s'.lock = ⟨0⟩
  calls : s'.calls = s.calls
  ongoing : s'.ongoing = s.ongoing
  lines : s'.symIrqLines = s.symIrqLines
  visits : s'.visits = s.visits

namespace IrqRun

variable {s s' : IrqRun}

lemma onFramework_locked {body : Framework → Except Fault Framework}
    (h : s.onFramework (fun f => f.locked body) = .ok s') : s.Undisturbed s' := by
  obtain ⟨f, hf, rfl⟩ := map_eq_ok.mp h
  obtain ⟨_, f₁, _, rfl⟩ := locked_inv hf
  exact ⟨rfl, rfl, rfl, rfl, rfl⟩

lemma onRecords_check {c : CheckBody}
    (h : s.onRecords (fun st => checkRoutine st c.body) = .ok s') :
    s.Undisturbed s' := by
  obtain ⟨st, hst, rfl⟩ := map_eq_ok.mp h
  obtain ⟨lock, hacq, hst⟩ := bind_eq_ok.mp hst
  obtain ⟨records, hbody, hst⟩ := bind_eq_ok.mp hst
  obtain ⟨lock', hrel, hst⟩ := bind_eq_ok.mp hst
  obtain ⟨_, rfl⟩ := releaseGlobalLock_eq_ok.mp hrel
  cases hst
  exact ⟨rfl, rfl, c.keeps _ _ hbody, rfl, rfl⟩

lemma resume_undisturbed (hlock : s.lock = ⟨0⟩) {caller : HandlersCaller}
    (h : s.resume caller = .ok s') : s.Undisturbed s' := by
  cases caller with
  | genEnterDriver fn retvalValid retval => exact onFramework_locked h
  | genExitDriver =>
      cases h
      exact ⟨hlock, rfl, rfl, rfl, rfl⟩

end IrqRun

/-! ## What one step of the innermost call does -/

/-- The steps of a call of `call_interrupt_handlers`, with the tests that lead to them. -/
inductive IrqRun.Advances (maxInterruptsPerLine : ℕ) (s : IrqRun) (call : HandlersCall)
    (rest : List HandlersCall) : IrqRun → Prop where
  | refuse (hposition : call.position = .start) (htest : s.ongoing > 0 ∨ ¬ s.contexts.Allow) :
      Advances maxInterruptsPerLine s call rest (s.moveTo call rest .done)
  | enterLoop (hposition : call.position = .start) (hongoing : ¬ s.ongoing > 0)
      (hallow : s.contexts.Allow) :
      Advances maxInterruptsPerLine s call rest
        ((s.setOngoing (s.ongoing + 1)).moveTo call rest (.slot 0))
  | skip (i : ℕ) (hposition : call.position = .slot i) :
      Advances maxInterruptsPerLine s call rest (s.moveTo call rest (.slot (i + 1)))
  | count (i : ℕ) (hposition : call.position = .slot i) :
      Advances maxInterruptsPerLine s call rest
        ((s.setLine call.line ((s.symIrqLines call.line + 1) % 2 ^ 8)).moveTo call rest
          (.counted i))
  | leaveLoop (i : ℕ) (hposition : call.position = .slot i) :
      Advances maxInterruptsPerLine s call rest
        ((s.setOngoing (s.ongoing - 1)).moveTo call rest .done)
  | invoke (i : ℕ) (hposition : call.position = .counted i)
      (hcount : s.symIrqLines call.line ≤ maxInterruptsPerLine) :
      Advances maxInterruptsPerLine s call rest (s.startHandler call rest i)
  | reset (i : ℕ) (hposition : call.position = .counted i)
      (hcount : maxInterruptsPerLine < s.symIrqLines call.line)
      (hreset : 100 < s.symIrqLines call.line) :
      Advances maxInterruptsPerLine s call rest
        (((s.passOver call i).setLine call.line (maxInterruptsPerLine - 1)).moveTo call rest
          (.slot (i + 1)))
  | drop (i : ℕ) (hposition : call.position = .counted i)
      (hcount : maxInterruptsPerLine < s.symIrqLines call.line)
      (hreset : s.symIrqLines call.line ≤ 100) :
      Advances maxInterruptsPerLine s call rest
        ((s.passOver call i).moveTo call rest (.slot (i + 1)))
  | wait (i : ℕ) (hposition : call.position = .handler i) :
      Advances maxInterruptsPerLine s call rest s
  | leave (s' : IrqRun) (hposition : call.position = .done)
      (hresume : { s with calls := rest }.resume call.caller = .ok s') :
      Advances maxInterruptsPerLine s call rest s'

lemma IrqRun.advances_of_ok {s s' : IrqRun} {call : HandlersCall} {rest : List HandlersCall}
    {maxInterruptsPerLine : ℕ} (h : s.advanceCall maxInterruptsPerLine call rest = .ok s') :
    s.Advances maxInterruptsPerLine call rest s' := by
  unfold advanceCall at h
  cases hposition : call.position with
  | start =>
      simp only [hposition] at h
      split_ifs at h with hongoing hcall
      · cases h
        exact .refuse hposition (.inl hongoing)
      · cases h
        refine .refuse hposition (.inr fun hallow => ?_)
        rw [canCall_iff.mpr hallow] at hcall
        cases hcall
      · obtain ⟨_, h⟩ := tfassertDetail_bind_eq_ok.mp h
        cases h
        exact .enterLoop hposition hongoing (canCall_iff.mp (by simpa using hcall))
  | slot i =>
      simp only [hposition] at h
      split_ifs at h with hi halloc henabled
      · cases h
        exact .skip i hposition
      · cases h
        exact .count i hposition
      · cases h
        exact .skip i hposition
      · cases h
        exact .leaveLoop i hposition
  | counted i =>
      simp only [hposition] at h
      split_ifs at h with hcount hreset
      · cases h
        exact .invoke i hposition hcount
      · cases h
        exact .reset i hposition (Nat.lt_of_not_le hcount) hreset
      · cases h
        exact .drop i hposition (Nat.lt_of_not_le hcount) (Nat.le_of_not_lt hreset)
  | handler i =>
      simp only [hposition] at h
      cases h
      exact .wait i hposition
  | done =>
      simp only [hposition] at h
      exact .leave s' hposition h

/-- The lock is free, and the stack of calls is one of those that occur. -/
structure InjectionInv (s : IrqRun) : Prop where
  lock : s.lock = ⟨0⟩
  nesting : Nesting s.contexts s.calls s.ongoing

namespace InjectionInv

variable {s s' : IrqRun} {maxInterruptsPerLine : ℕ}

lemma initial (gSymRetval : ℤ) (gSymStartingFn : String) :
    InjectionInv (IrqRun.initial gSymRetval gSymStartingFn) :=
  ⟨rfl, .idle⟩

/-- While other code runs, no test depends on the contexts. -/
lemma of_running (h : InjectionInv s) (hrunning : s.running = true) (hsame : s.Undisturbed s') :
    InjectionInv s' := by
  refine ⟨hsame.lock, ?_⟩
  rw [hsame.calls, hsame.ongoing]
  rcases h.nesting.of_running hrunning with
    ⟨hidle, hn⟩ | ⟨line, caller, found, i, hfound, hn, hcall⟩
  · rw [hidle, hn]
    exact .idle
  · rw [hcall, hn]
    exact .handler line caller found i hfound

/-- A call made while other code runs. -/
lemma callInterruptHandlers (h : InjectionInv s) (hrunning : s.running = true) (line : ULong)
    (caller : HandlersCaller) : InjectionInv (s.callInterruptHandlers line caller) := by
  refine ⟨h.lock, ?_⟩
  show Nesting s.contexts (⟨line, caller, .start, s.ongoing, s.contexts⟩ :: s.calls) s.ongoing
  rcases h.nesting.of_running hrunning with
    ⟨hidle, hn⟩ | ⟨line', caller', found, i, hfound, hn, hcall⟩
  · rw [hidle, hn]
    exact .outside _ _ _ _ (.inl rfl)
  · rw [hcall, hn]
    exact .nested _ _ _ _ _ _ i hfound _ (.inl rfl)

/-- The innermost call goes on. -/
lemma advances (h : InjectionInv s) {call : HandlersCall} {rest : List HandlersCall}
    (hcalls : s.calls = call :: rest) (hstep : s.Advances maxInterruptsPerLine call rest s') :
    InjectionInv s' := by
  have hnesting := h.nesting
  rcases call with ⟨line, caller, position, ongoingBefore, found⟩
  cases hstep with
  | refuse hposition htest =>
      refine ⟨h.lock, ?_⟩
      show Nesting s.contexts (⟨line, caller, .done, ongoingBefore, found⟩ :: rest) s.ongoing
      rw [hcalls] at hnesting
      generalize s.ongoing = n at hnesting
      cases hnesting with
      | outside _ _ _ _ _ => exact .outside line caller found .done (.inr rfl)
      | nested _ _ _ _ _ _ i hfound _ _ => exact .nested _ _ _ _ _ _ i hfound .done (.inr rfl)
      | _ => cases hposition
  | enterLoop hposition hongoing hallow =>
      refine ⟨h.lock, ?_⟩
      show Nesting s.contexts (⟨line, caller, .slot 0, ongoingBefore, found⟩ :: rest)
        (s.ongoing + 1)
      rw [hcalls] at hnesting
      generalize s.ongoing = n at hnesting hongoing
      cases hnesting with
      | outside _ _ _ _ _ => exact .slot line caller found 0 hallow
      | nested _ _ _ _ _ _ i hfound _ _ => exact absurd one_pos hongoing
      | _ => cases hposition
  | skip i hposition =>
      obtain ⟨hallow, hn, rfl, rfl⟩ := hnesting.of_inLoop hcalls (.inl hposition)
      refine ⟨h.lock, ?_⟩
      show Nesting s.contexts [⟨line, caller, .slot (i + 1), 0, found⟩] s.ongoing
      rw [hn]
      exact .slot line caller found (i + 1) hallow
  | count i hposition =>
      obtain ⟨hallow, hn, rfl, rfl⟩ := hnesting.of_inLoop hcalls (.inl hposition)
      refine ⟨h.lock, ?_⟩
      show Nesting s.contexts [⟨line, caller, .counted i, 0, found⟩] s.ongoing
      rw [hn]
      exact .counted line caller found i hallow
  | leaveLoop i hposition =>
      obtain ⟨_, hn, rfl, rfl⟩ := hnesting.of_inLoop hcalls (.inl hposition)
      refine ⟨h.lock, ?_⟩
      show Nesting s.contexts [⟨line, caller, .done, 0, found⟩] (s.ongoing - 1)
      rw [hn]
      exact .outside line caller found .done (.inr rfl)
  | invoke i hposition hcount =>
      obtain ⟨hallow, hn, rfl, rfl⟩ := hnesting.of_inLoop hcalls (.inr hposition)
      refine ⟨h.lock, ?_⟩
      show Nesting s.contexts [⟨line, caller, .handler i, 0, s.contexts⟩] s.ongoing
      rw [hn]
      exact .handler line caller s.contexts i hallow
  | reset i hposition hcount hreset =>
      obtain ⟨hallow, hn, rfl, rfl⟩ := hnesting.of_inLoop hcalls (.inr hposition)
      refine ⟨h.lock, ?_⟩
      show Nesting s.contexts [⟨line, caller, .slot (i + 1), 0, found⟩] s.ongoing
      rw [hn]
      exact .slot line caller found (i + 1) hallow
  | drop i hposition hcount hreset =>
      obtain ⟨hallow, hn, rfl, rfl⟩ := hnesting.of_inLoop hcalls (.inr hposition)
      refine ⟨h.lock, ?_⟩
      show Nesting s.contexts [⟨line, caller, .slot (i + 1), 0, found⟩] s.ongoing
      rw [hn]
      exact .slot line caller found (i + 1) hallow
  | wait i hposition => exact h
  | leave s' hposition hresume =>
      obtain ⟨hrest, hrunning⟩ := hnesting.of_done hcalls hposition
      have hbelow : InjectionInv { s with calls := rest } := ⟨h.lock, hrest⟩
      exact hbelow.of_running hrunning (IrqRun.resume_undisturbed h.lock hresume)

/-- The running handler returns, and has left the contexts as it found them. -/
lemma handlerReturns (h : InjectionInv s) (hleaves : s.HandlerLeavesContexts .handlerReturns)
    (hstep : s.step maxInterruptsPerLine .handlerReturns = .ok s') : InjectionInv s' := by
  have hnesting := h.nesting
  rw [IrqRun.step] at hstep
  split at hstep
  case h_1 line caller i ongoingBefore found rest hcalls =>
    cases hstep
    have hfound := hleaves _ _ hcalls rfl
    rw [hcalls] at hnesting
    refine ⟨h.lock, ?_⟩
    show Nesting s.contexts (⟨line, caller, .slot (i + 1), ongoingBefore, found⟩ :: rest)
      s.ongoing
    generalize s.ongoing = n at hnesting
    cases hnesting with
    | handler _ _ _ _ hallow => exact .slot line caller found (i + 1) (hfound ▸ hallow)
    | outside _ _ _ _ hp => rcases hp with hp | hp <;> cases hp
    | nested _ _ _ _ _ _ _ _ _ hp => rcases hp with hp | hp <;> cases hp
  case h_2 => cases hstep; exact h

/-- **The step lemma.** -/
lemma step (h : InjectionInv s) {e : InjectionEvent} (hleaves : s.HandlerLeavesContexts e)
    (hstep : s.step maxInterruptsPerLine e = .ok s') : InjectionInv s' := by
  cases e with
  | advance =>
      rw [IrqRun.step] at hstep
      split at hstep
      case h_1 call rest hcalls => exact h.advances hcalls (IrqRun.advances_of_ok hstep)
      case h_2 => cases hstep; exact h
  | handlerReturns => exact h.handlerReturns hleaves hstep
  | enter fn line wrapperType retvalValid retval =>
      rw [IrqRun.step] at hstep
      split_ifs at hstep with hrunning
      · cases wrapperType with
        | stubWrapper => cases hstep; exact h.callInterruptHandlers hrunning _ _
        | prepostFn => exact h.of_running hrunning (IrqRun.onFramework_locked hstep)
      · cases hstep; exact h
  | exit fn line wrapperType retvalValid retval symbolic =>
      rw [IrqRun.step] at hstep
      split_ifs at hstep with hrunning
      · obtain ⟨s₁, hexit, hstep⟩ := bind_eq_ok.mp hstep
        have hsame := IrqRun.onFramework_locked hexit
        have h₁ := h.of_running hrunning hsame
        have hrunning₁ : s₁.running = true := by rw [IrqRun.running, hsame.calls]; exact hrunning
        split_ifs at hstep with houtermost
        · cases hstep; exact h₁.callInterruptHandlers hrunning₁ _ _
        · cases hstep; exact h₁
      · cases hstep; exact h
  | check c =>
      rw [IrqRun.step] at hstep
      split_ifs at hstep with hrunning
      · exact h.of_running hrunning (IrqRun.onRecords_check hstep)
      · cases hstep; exact h
  | generated body =>
      rw [IrqRun.step] at hstep
      split_ifs at hstep with hrunning
      · exact h.of_running hrunning (IrqRun.onFramework_locked hstep)
      · cases hstep; exact h
  | setDeviceInterrupts disabled =>
      rw [IrqRun.step] at hstep
      split_ifs at hstep with hrunning
      · cases hstep
        exact h.of_running hrunning ⟨h.lock, rfl, rfl, rfl, rfl⟩
      · cases hstep; exact h

end InjectionInv

/-! ## Starting a handler -/

namespace IrqRun

variable {s s' : IrqRun} {maxInterruptsPerLine : ℕ}

lemma Undisturbed.handlers (h : s.Undisturbed s') : s'.handlers = s.handlers := by
  rw [IrqRun.handlers, h.calls, IrqRun.handlers]

lemma handlers_callInterruptHandlers (line : ULong) (caller : HandlersCaller) :
    (s.callInterruptHandlers line caller).handlers = s.handlers := by
  rw [handlers, callInterruptHandlers, List.countP_cons_of_neg (by simp [HandlersCall.inHandler])]
  rfl

/-- Moving to a position outside of the handlers starts none. -/
lemma handlers_moveTo {call : HandlersCall} {rest : List HandlersCall} {position : LoopPosition}
    (hcalls : s.calls = call :: rest) (hposition : ∀ i, position ≠ .handler i) (s₁ : IrqRun) :
    (s₁.moveTo call rest position).handlers ≤ s.handlers := by
  have hout : HandlersCall.inHandler { call with position := position } = false := by
    cases position with
    | handler i => exact absurd rfl (hposition i)
    | _ => rfl
  rw [handlers, moveTo, List.countP_cons_of_neg (by simp [hout]), handlers, hcalls,
    List.countP_cons]
  exact Nat.le_add_right _ _

/-- The innermost call starts a handler only after it has counted the visit. -/
lemma Advances.counted_of_starts {call : HandlersCall} {rest : List HandlersCall}
    (h : s.Advances maxInterruptsPerLine call rest s') (hcalls : s.calls = call :: rest)
    (hlock : s.lock = ⟨0⟩) (hstarts : s.handlers < s'.handlers) :
    ∃ i, call.position = .counted i := by
  cases h with
  | invoke i hposition hcount => exact ⟨i, hposition⟩
  | reset i hposition hcount hreset => exact ⟨i, hposition⟩
  | drop i hposition hcount hreset => exact ⟨i, hposition⟩
  | wait i hposition => exact absurd hstarts (Nat.lt_irrefl _)
  | leave s' hposition hresume =>
      have hsame := (resume_undisturbed (s := { s with calls := rest }) hlock hresume).handlers
      have hle : IrqRun.handlers { s with calls := rest } ≤ s.handlers := by
        rw [handlers, handlers, hcalls, List.countP_cons]
        exact Nat.le_add_right _ _
      exact absurd hstarts (Nat.not_lt_of_le (hsame.le.trans hle))
  | refuse _ _ => exact absurd hstarts (Nat.not_lt_of_le (handlers_moveTo hcalls (by simp) _))
  | enterLoop _ _ _ => exact absurd hstarts (Nat.not_lt_of_le (handlers_moveTo hcalls (by simp) _))
  | skip _ _ => exact absurd hstarts (Nat.not_lt_of_le (handlers_moveTo hcalls (by simp) _))
  | count _ _ => exact absurd hstarts (Nat.not_lt_of_le (handlers_moveTo hcalls (by simp) _))
  | leaveLoop _ _ => exact absurd hstarts (Nat.not_lt_of_le (handlers_moveTo hcalls (by simp) _))

/-- Only a call that goes on starts a handler. -/
lemma advances_of_starts {e : InjectionEvent} (hlock : s.lock = ⟨0⟩)
    (hstep : s.step maxInterruptsPerLine e = .ok s') (hstarts : s.handlers < s'.handlers) :
    ∃ call rest i, s.calls = call :: rest ∧ call.position = .counted i := by
  have hnot : ¬ s'.handlers ≤ s.handlers := Nat.not_le_of_lt hstarts
  cases e with
  | advance =>
      rw [IrqRun.step] at hstep
      split at hstep
      case h_1 call rest hcalls =>
        obtain ⟨i, hi⟩ := (advances_of_ok hstep).counted_of_starts hcalls hlock hstarts
        exact ⟨call, rest, i, hcalls, hi⟩
      case h_2 => cases hstep; exact absurd le_rfl hnot
  | handlerReturns =>
      rw [IrqRun.step] at hstep
      split at hstep
      case h_1 line caller i ongoingBefore found rest hcalls =>
        cases hstep
        have hslot : ∀ j, LoopPosition.slot (i + 1) ≠ .handler j := by simp
        exact absurd (handlers_moveTo hcalls hslot s) hnot
      case h_2 => cases hstep; exact absurd le_rfl hnot
  | enter fn line wrapperType retvalValid retval =>
      rw [IrqRun.step] at hstep
      split_ifs at hstep
      · cases wrapperType with
        | stubWrapper =>
            cases hstep
            exact absurd (handlers_callInterruptHandlers line _).le hnot
        | prepostFn => exact absurd (onFramework_locked hstep).handlers.le hnot
      · cases hstep; exact absurd le_rfl hnot
  | exit fn line wrapperType retvalValid retval symbolic =>
      rw [IrqRun.step] at hstep
      split_ifs at hstep
      · obtain ⟨s₁, hexit, hstep⟩ := bind_eq_ok.mp hstep
        have hsame := (onFramework_locked hexit).handlers
        split_ifs at hstep
        · cases hstep
          exact absurd ((handlers_callInterruptHandlers line _).trans hsame).le hnot
        · cases hstep; exact absurd hsame.le hnot
      · cases hstep; exact absurd le_rfl hnot
  | check c =>
      rw [IrqRun.step] at hstep
      split_ifs at hstep
      · exact absurd (onRecords_check hstep).handlers.le hnot
      · cases hstep; exact absurd le_rfl hnot
  | generated body =>
      rw [IrqRun.step] at hstep
      split_ifs at hstep
      · exact absurd (onFramework_locked hstep).handlers.le hnot
      · cases hstep; exact absurd le_rfl hnot
  | setDeviceInterrupts disabled =>
      rw [IrqRun.step] at hstep
      split_ifs at hstep
      · cases hstep; exact absurd (Nat.le_refl s.handlers) hnot
      · cases hstep; exact absurd le_rfl hnot

end IrqRun

/-- In a state of the invariant everything is in order. -/
lemma InjectionInv.orderly {s : IrqRun} (h : InjectionInv s) (maxInterruptsPerLine : ℕ) :
    s.Orderly maxInterruptsPerLine where
  ongoing := h.nesting.ongoing
  handlers := h.nesting.handlers
  starts := by
    intro e s' hstep hstarts
    obtain ⟨call, rest, i, hcalls, hposition⟩ := IrqRun.advances_of_starts h.lock hstep hstarts
    obtain ⟨hallow, _, _, rfl⟩ := h.nesting.of_inLoop hcalls (.inr hposition)
    obtain ⟨hdisabled, hblocking⟩ := IrqRun.allow_iff.mp hallow
    refine ⟨?_, hdisabled, hblocking, by rw [h.lock]⟩
    have hnot : ¬ call.inHandler = true := by simp [HandlersCall.inHandler, hposition]
    rw [IrqRun.handlers, hcalls, List.countP_cons_of_neg hnot]
    rfl
  returns := fun _ _ hcalls hdone => h.nesting.returns hcalls hdone

/-- **Injected interrupts never nest**: if every handler leaves the contexts and the override as it
found them, then in every state a run reaches at most one handler is running; the next one starts
only when none is, with interrupts allowed and the lock free; and `sym_irq_ongoing` is 0 or 1 and
gets its value back when `call_interrupt_handlers` returns. -/
theorem injected_interrupts_never_nest (maxInterruptsPerLine : ℕ) (gSymRetval : ℤ)
    (gSymStartingFn : String) (events : List InjectionEvent) (s : IrqRun)
    (hleaves : Throughout (IrqRun.step maxInterruptsPerLine) IrqRun.HandlerLeavesContexts
      (.initial gSymRetval gSymStartingFn) events)
    (hrun : events.foldlM (IrqRun.step maxInterruptsPerLine)
      (.initial gSymRetval gSymStartingFn) = .ok s) :
    s.Orderly maxInterruptsPerLine := by
  have hinv : InjectionInv s :=
    Throughout.invariant (fun _ _ _ hs hleaves hstep => hs.step hleaves hstep) events
      (.initial gSymRetval gSymStartingFn) hleaves hrun
  exact hinv.orderly maxInterruptsPerLine

/-- The handler of slot 0 calls a kernel function, from which its stub returns to
`call_interrupt_handlers`, and returns. -/
def nestedCallEvents : List InjectionEvent :=
  [.check (IrqCheck.checkBody (.requestThreadedIrq 1 0 ⟨9, 0x5000, 0x6000, 0, some "eth0"⟩)),
    .enter "open" 10 .prepostFn 0 0, .exit "open" 20 .prepostFn 0 0 false,
    .advance, .advance, .advance,
    .check (IrqCheck.checkBody (.interruptHandler false 0)),
    .exit "inb" 30 .stubWrapper 0 0 false, .enter "inb" 30 .stubWrapper 0 0, .advance, .advance,
    .check (IrqCheck.checkBody (.interruptHandler false 1)),
    .handlerReturns, .advance]

theorem injected_interrupts_nested_call :
    ∃ s, nestedCallEvents.foldlM (IrqRun.step 5) (.initial 0 "") = .ok s ∧ s.Orderly 5 := by
  have hleaves : Throughout (IrqRun.step 5) IrqRun.HandlerLeavesContexts (.initial 0 "")
      nestedCallEvents := by
    unfold nestedCallEvents
    iterate 12 refine .cons trivial rfl ?_
    refine .cons ?_ rfl (.cons trivial rfl trivial)
    intro call rest hcalls _
    cases hcalls
    rfl
  exact ⟨_, rfl, injected_interrupts_never_nest 5 0 "" nestedCallEvents _ hleaves rfl⟩

end SymDrive

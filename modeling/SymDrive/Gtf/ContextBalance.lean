import SymDrive.Gtf.ContextStacks

/-!
# Entry points are balanced

The kernel calls the driver through its entry points, which can be nested: an interrupt handler runs
while a file is being read.  Inside an entry point the driver takes and releases locks, which use
the same stack of blocking contexts as the entry points.

`Contexts` says what the stacks should be: an entry saves them and its exit restores them.  The code
only pushes and pops, so this is right as long as every entry point releases the locks it acquires
itself, in any order (`contexts_balanced`).  A lock that an interrupt handler releases for the
function it interrupted is popped from the wrong side of an entry
(`outer_lock_released_in_handler`).
-/

namespace SymDrive

open Checked

/-! ## Entry points -/

/-- The functions of the driver whose checks push a context. -/
inductive EntryPoint where
  | fileOperations (op : FileOperation)
  | pciDriverProbe
  | pciDriverRemove
  | pciDriverResumeEarly
  | pciDriverResume
  | pciDriverShutdown
  | ndoOpen
  | ndoStop
  | ndoStartXmit
  | netifNapiAddPoll
  | napiStructPoll
  | interruptHandler
  deriving DecidableEq

/-- What the checks read of the arguments, the return value and the parameters of the module. -/
structure EntryArgs where
  retval : ℤ
  dev : PciDev
  txq : TxQueue
  skb : SkBuff
  mem : Alloc
  symForceReceive : Bool

namespace EntryPoint

def check (s : CheckState) (prepost : ℤ) (args : EntryArgs) : EntryPoint → Except Fault CheckState
  | fileOperations op => fileOperationsMJRcheck op s prepost
  | pciDriverProbe => pciDriverProbeMJRcheck s prepost args.retval args.dev
  | pciDriverRemove => pciDriverRemoveMJRcheck s prepost
  | pciDriverResumeEarly => pciDriverResumeEarlyMJRcheck s prepost
  | pciDriverResume => pciDriverResumeMJRcheck s prepost
  | pciDriverShutdown => pciDriverShutdownMJRcheck s prepost
  | ndoOpen => netDeviceOpsNdoOpenMJRcheck s prepost args.retval args.txq
  | ndoStop => netDeviceOpsNdoStopMJRcheck s prepost args.txq
  | ndoStartXmit => netDeviceOpsNdoStartXmitMJRcheck s args.mem prepost args.retval args.skb
  | netifNapiAddPoll => netifNapiAddPollMJRcheck s prepost
  | napiStructPoll => napiStructPollMJRcheck s prepost
  | interruptHandler => interruptHandlerMJRcheck s args.symForceReceive prepost

/-- The blocking context the kernel calls the function in. -/
def blocking : EntryPoint → BlockingContext
  | ndoStartXmit | netifNapiAddPoll | napiStructPoll | interruptHandler => .no
  | _ => .yes

/-- The user context, where the check has one. -/
def user : EntryPoint → Option UserContext
  | fileOperations _ | interruptHandler => some .yes
  | netifNapiAddPoll | napiStructPoll => none
  | _ => some .no

end EntryPoint

/-! ## Nested runs -/

/-- An entry point that has not returned: the locks acquired in it that are held, the last one
first, and the stacks it was called with. -/
structure Frame where
  entry : EntryPoint
  held : Held
  blocking : List BlockingContext
  user : List UserContext

/-- What the stacks should be, and the open entry points, the innermost first. -/
structure Contexts where
  blocking : List BlockingContext
  user : List UserContext
  frames : List Frame

namespace Contexts

/-- The locks held in all open entry points. -/
def held (t : Contexts) : Held := t.frames.flatMap Frame.held

def enter (t : Contexts) (e : EntryPoint) : Contexts where
  blocking := e.blocking :: t.blocking
  user := e.user.toList ++ t.user
  frames := { entry := e, held := [], blocking := t.blocking, user := t.user } :: t.frames

/-- The stacks are again what they were when the innermost entry point was called. -/
def leave (t : Contexts) : Contexts :=
  match t.frames with
  | [] => t
  | f :: fs => { blocking := f.blocking, user := f.user, frames := fs }

def acquire (t : Contexts) (lock : ULong) (lockType : LockType) : Contexts :=
  match t.frames with
  | [] => t
  | f :: fs =>
      { t with blocking := pushedBy lockType t.blocking,
               frames := { f with held := (lock, lockType) :: f.held } :: fs }

/-- The innermost entry point that holds the lock holds it no more. -/
def releaseIn (lock : ULong) : List Frame → List Frame
  | [] => []
  | f :: fs =>
      if lock ∈ f.held.map Prod.fst then { f with held := releaseLast f.held lock } :: fs
      else f :: releaseIn lock fs

def release (t : Contexts) (lock : ULong) : Contexts :=
  match lastHeld t.held lock with
  | none => t
  | some p => { t with blocking := poppedBy p.2 t.blocking, frames := releaseIn lock t.frames }

/-- The lock was acquired in the innermost open entry point. -/
def HoldsInnermost (t : Contexts) (lock : ULong) : Prop :=
  ∃ f ∈ t.frames.head?, lock ∈ f.held.map Prod.fst

/-- The lock was acquired in some open entry point. -/
def HoldsSomewhere (t : Contexts) (lock : ULong) : Prop :=
  ∃ f ∈ t.frames, lock ∈ f.held.map Prod.fst

end Contexts

inductive ContextEvent where
  | pre (e : EntryPoint) (args : EntryArgs)
  | post (e : EntryPoint) (args : EntryArgs)
  | lock (report : LockReport)

namespace ContextEvent

def exec (s : CheckState) : ContextEvent → Except Fault CheckState
  | pre e args => e.check s 0 args
  | post e args => e.check s 1 args
  | lock report => checkRoutine s fun r => r.onTest report.exec

def after (t : Contexts) : ContextEvent → Contexts
  | pre e _ => t.enter e
  | post _ _ => t.leave
  | lock report =>
      if report.Acquires then t.acquire report.lock report.lockType
      else if report.Releases then t.release report.lock
      else t

/-- The run is properly nested, an entry point returns with no lock held that was acquired in it,
and there is room on the stacks.  Locks are acquired inside entry points; `mayRelease` says which
may be released. -/
def Legal (mayRelease : Contexts → ULong → Prop) (t : Contexts) : ContextEvent → Prop
  | pre e _ => t.blocking.length < maxNesting ∧
      (e.user.isSome = true → t.user.length < maxNesting)
  | post e _ => ∃ f ∈ t.frames.head?, f.entry = e ∧ f.held = []
  | lock report =>
      (report.Acquires → t.frames ≠ [] ∧
        (report.lockType.context.isSome = true → t.blocking.length < maxNesting)) ∧
      (report.Releases → mayRelease t report.lock)

end ContextEvent

/-- The stacks are what they should be, and where the innermost open entry point holds no lock, the
kernel's blocking state is its context. -/
structure Balanced (s : CheckState) (t : Contexts) : Prop where
  blocking : contextStack s.records.test.blockingContext s.records.test.blockingContextCurrent =
    t.blocking
  user : contextStack s.records.userContext s.records.userContextCurrent = t.user
  innermost : ∀ f ∈ t.frames.head?, f.held = [] →
    kernelBlockingState s.records.test = f.entry.blocking

/-- The stacks of a driver that is not running. -/
def Contexts.start (r : Records) : Contexts where
  blocking := contextStack r.test.blockingContext r.test.blockingContextCurrent
  user := contextStack r.userContext r.userContextCurrent
  frames := []

/-! ## What one check does -/

/-- The lock is free, and the records show the view. -/
def ShowsFree (s : CheckState) (v : StackView) : Prop := ∃ r, s = .free r ∧ Shows r v

section

variable {r : Records} {v v' : StackView}

lemma outcome_checkRoutine {body : Records → Except Fault Records}
    (h : Outcome Shows Fault.OutsideStacks v' (body r)) :
    Outcome ShowsFree Fault.OutsideStacks v' (checkRoutine (.free r) body) := by
  rw [checkRoutine_free]
  exact h.map fun r' hr' => ⟨r', rfl, hr'⟩

lemma outsideStacks_setCallState {state newState : CallState} :
    FaultsIn Fault.OutsideStacks (setCallState state newState) := by
  intro e he
  cases newState <;> cases state <;> cases he <;> exact outsideStacks_assertion (by decide)

/-- Recording a call leaves the stacks alone. -/
lemma Shows.setProbed (h : Shows r v) (newState : CallState) :
    Outcome Shows Fault.OutsideStacks v (r.onBus .pci (SymDrive.setProbed newState)) := by
  refine Outcome.of_faultsIn ?_ fun r' hok => ?_
  · exact (outsideStacks_setCallState.bind fun _ _ => faultsIn_ok _).map _
  · obtain ⟨state, _, rfl⟩ := map_eq_ok.mp hok
    exact h.congr rfl rfl rfl

lemma Shows.setOpened (h : Shows r v) (newState : CallState) :
    Outcome Shows Fault.OutsideStacks v (SymDrive.setOpened r newState) := by
  refine Outcome.of_faultsIn ?_ fun r' hok => ?_
  · exact outsideStacks_setCallState.bind fun _ _ => faultsIn_ok _
  · obtain ⟨state, _, hok⟩ := bind_eq_ok.mp hok
    cases hok
    exact h.congr rfl rfl rfl

/-- What an entry point pushes. -/
def EntryPoint.pushes (e : EntryPoint) (v : StackView) : StackView :=
  { v with blocking := e.blocking :: v.blocking, user := e.user.toList ++ v.user }

lemma outcome_kernelStateCheck_pre {check : Check} {b : BlockingContext} {u : UserContext}
    (h : Shows r v) (hb : v.blocking.length < maxNesting) (hu : v.user.length < maxNesting) :
    Outcome ShowsFree Fault.OutsideStacks
      { v with blocking := b :: v.blocking, user := u :: v.user }
      (kernelStateCheck check b u (.free r) 0) := by
  rw [kernelStateCheck, prepostBody_zero]
  exact outcome_checkRoutine (h.pushKernel hb hu b u)

/-- **Before the driver runs** each check pushes its context. -/
lemma outcome_pre (e : EntryPoint) (args : EntryArgs) (h : Shows r v)
    (hb : v.blocking.length < maxNesting) (hu : e.user.isSome = true → v.user.length < maxNesting) :
    Outcome ShowsFree Fault.OutsideStacks (e.pushes v) (e.check (.free r) 0 args) := by
  cases e with
  | fileOperations op | pciDriverRemove | pciDriverResumeEarly | pciDriverResume
  | pciDriverShutdown => exact outcome_kernelStateCheck_pre h hb (hu rfl)
  | pciDriverProbe =>
      rw [EntryPoint.check, pciDriverProbeMJRcheck, prepostBody_zero]
      refine outcome_checkRoutine ?_
      refine Outcome.ensure_bind (outsideStacks_assertion (by decide)) fun _ => ?_
      refine Outcome.ensure_bind (outsideStacks_assertion (by decide)) fun _ => ?_
      refine Outcome.ensure_bind (outsideStacks_assertion (by decide)) fun _ => ?_
      exact (h.pushKernel hb (hu rfl) .yes .no).bind fun _ hr => hr.setProbed .inProgress
  | ndoOpen =>
      rw [EntryPoint.check, netDeviceOpsNdoOpenMJRcheck, prepostBody_zero]
      refine outcome_checkRoutine ?_
      refine Outcome.ensure_bind (outsideStacks_assertion (by decide)) fun _ => ?_
      refine Outcome.ensure_bind (outsideStacks_assertion (by decide)) fun _ => ?_
      exact (h.pushKernel hb (hu rfl) .yes .no).bind fun _ hr => hr.setOpened .inProgress
  | ndoStop =>
      rw [EntryPoint.check, netDeviceOpsNdoStopMJRcheck, prepostBody_zero]
      refine outcome_checkRoutine ?_
      refine Outcome.ensure_bind (outsideStacks_assertion (by decide)) fun _ => ?_
      exact h.pushKernel hb (hu rfl) .yes .no
  | ndoStartXmit =>
      rw [EntryPoint.check, netDeviceOpsNdoStartXmitMJRcheck]
      refine outcome_checkRoutine ?_
      rw [if_pos rfl]
      refine Outcome.ensure_bind (outsideStacks_assertion (by decide)) fun _ => ?_
      refine Outcome.ensure_bind (outsideStacks_assertion (by decide)) fun _ => ?_
      exact (h.pushKernel hb (hu rfl) .no .no).bind fun _ hr =>
        hr.onTest (f := fun g => genericAllocator g args.mem 1 args.skb.head (0 - 1)
          originDevAllocSkb) rfl (hr.test.allocate _ _ _ _)
  | netifNapiAddPoll | napiStructPoll =>
      refine outcome_checkRoutine ?_
      rw [prepostBody_zero]
      exact h.onTest (f := fun g => pushBlockingState g .no)
        (w := { v with blocking := .no :: v.blocking }) rfl (h.test.push hb .no)
  | interruptHandler =>
      rw [EntryPoint.check, interruptHandlerMJRcheck, prepostBody_zero]
      refine outcome_checkRoutine ?_
      exact (h.onTest (f := fun g => pushBlockingState g .no)
        (w := { v with blocking := .no :: v.blocking }) rfl (h.test.push hb .no)).bind
          fun _ hr => hr.pushUser (hu rfl) .yes

lemma outsideStacks_getDriverClass : FaultsIn Fault.OutsideStacks (getDriverClass r) := by
  rw [getDriverClass]
  refine (faultsIn_tfassertDetail (outsideStacks_assertion (by decide))).bind fun _ _ => ?_
  split_ifs
  · exact faultsIn_ok _
  · exact faultsIn_ok _
  · exact faultsIn_ok _

/-- A lookup of the driver class in front of the rest of a check. -/
lemma outcome_getDriverClass_bind {f : DriverClass → Except Fault Records}
    (hf : ∀ driverClass, Outcome Shows Fault.OutsideStacks v (f driverClass)) :
    Outcome Shows Fault.OutsideStacks v (getDriverClass r >>= f) := by
  cases hclass : getDriverClass r with
  | error e => exact outsideStacks_getDriverClass e hclass
  | ok driverClass => exact hf driverClass

lemma outcome_kernelStateCheck_post {check : Check} {b : BlockingContext} {u : UserContext}
    (h : Shows r { v with blocking := b :: v.blocking, user := u :: v.user })
    (hb : v.blocking ≠ []) (hu : v.user ≠ []) :
    Outcome ShowsFree Fault.OutsideStacks v (kernelStateCheck check b u (.free r) 1) := by
  rw [kernelStateCheck, prepostBody_one]
  exact outcome_checkRoutine (h.popKernel rfl hb rfl hu)

/-- **After the driver has run** each check pops its context again. -/
lemma outcome_post (e : EntryPoint) (args : EntryArgs) (h : Shows r (e.pushes v))
    (hb : v.blocking ≠ []) (hu : v.user ≠ []) :
    Outcome ShowsFree Fault.OutsideStacks v (e.check (.free r) 1 args) := by
  cases e with
  | fileOperations op | pciDriverRemove | pciDriverResumeEarly | pciDriverResume
  | pciDriverShutdown => exact outcome_kernelStateCheck_post h hb hu
  | pciDriverProbe =>
      rw [EntryPoint.check, pciDriverProbeMJRcheck, prepostBody_one]
      refine outcome_checkRoutine ((h.setProbed _).bind fun r₁ hr₁ => ?_)
      refine outcome_getDriverClass_bind fun driverClass => ?_
      dsimp only
      split_ifs
      · refine Outcome.ensure_bind (outsideStacks_assertion (by decide)) fun _ => ?_
        exact hr₁.popKernel rfl hb rfl hu
      · refine Outcome.ensure_bind (outsideStacks_assertion (by decide)) fun _ => ?_
        exact hr₁.popKernel rfl hb rfl hu
      · exact hr₁.popKernel rfl hb rfl hu
  | ndoOpen =>
      rw [EntryPoint.check, netDeviceOpsNdoOpenMJRcheck, prepostBody_one]
      refine outcome_checkRoutine ?_
      refine Outcome.ensure_bind (outsideStacks_assertion (by decide)) fun _ => ?_
      split_ifs
      · refine Outcome.ensure_bind (outsideStacks_assertion (by decide)) fun _ => ?_
        exact (h.setOpened .calledOk).bind fun _ hr => hr.popKernel rfl hb rfl hu
      · refine Outcome.ensure_bind (outsideStacks_assertion (by decide)) fun _ => ?_
        refine Outcome.ensure_bind (outsideStacks_assertion (by decide)) fun _ => ?_
        exact (h.setOpened .calledFailed).bind fun _ hr => hr.popKernel rfl hb rfl hu
  | ndoStop =>
      rw [EntryPoint.check, netDeviceOpsNdoStopMJRcheck, prepostBody_one]
      refine outcome_checkRoutine ?_
      refine Outcome.ensure_bind (outsideStacks_assertion (by decide)) fun _ => ?_
      exact h.popKernel rfl hb rfl hu
  | ndoStartXmit =>
      rw [EntryPoint.check, netDeviceOpsNdoStartXmitMJRcheck]
      refine outcome_checkRoutine ?_
      rw [if_neg (by decide), if_pos rfl]
      split_ifs
      · exact (h.onTest (f := fun g => genericFree g 0 args.skb.head originDevAllocSkb) rfl
          (h.test.free _ _)).bind fun _ hr => hr.popKernel rfl hb rfl hu
      · exact h.popKernel rfl hb rfl hu
  | netifNapiAddPoll | napiStructPoll =>
      refine outcome_checkRoutine ?_
      rw [prepostBody_one]
      exact h.onTest rfl (h.test.pop rfl hb)
  | interruptHandler =>
      rw [EntryPoint.check, interruptHandlerMJRcheck, prepostBody_one]
      refine outcome_checkRoutine ?_
      refine (h.onTest (w := { EntryPoint.interruptHandler.pushes v with blocking := v.blocking })
        rfl (h.test.pop rfl hb)).bind fun _ hr => ?_
      refine (hr.popUser rfl hu).bind fun r₂ hr₂ => ?_
      split_ifs
      · exact outcome_getDriverClass_bind fun _ => hr₂
      · exact hr₂

end

/-! ## The invariant of a run -/

/-- A lock that pushed a context when it was acquired. -/
def pushedContext (p : ULong × LockType) : Bool := p.2.context.isSome

/-- Above the stacks an entry point was called with stand its own contexts and one entry for each
lock that pushed one.  Below all entry points the stacks are not empty. -/
def FramesOk : List Frame → List BlockingContext → List UserContext → Prop
  | [], blocking, user => blocking ≠ [] ∧ user ≠ []
  | f :: fs, blocking, user =>
      (∃ locks, blocking = locks ++ f.entry.blocking :: f.blocking ∧
        locks.length = f.held.countP pushedContext) ∧
      user = f.entry.user.toList ++ f.user ∧ FramesOk fs f.blocking f.user

def Contexts.view (t : Contexts) : StackView where
  blocking := t.blocking
  user := t.user
  held := t.held

/-- Between two events. -/
structure ContextsInv (s : CheckState) (t : Contexts) : Prop where
  shows : ShowsFree s t.view
  frames : FramesOk t.frames t.blocking t.user

lemma FramesOk.ne_nil {fs : List Frame} {b : List BlockingContext} {u : List UserContext}
    (h : FramesOk fs b u) : b ≠ [] ∧ u ≠ [] := by
  induction fs generalizing b u with
  | nil => exact h
  | cons f fs ih =>
      obtain ⟨⟨locks, rfl, _⟩, rfl, hrest⟩ := h
      exact ⟨by simp, List.append_ne_nil_of_right_ne_nil _ (ih hrest).2⟩

/-- The invariant says that the stacks are balanced. -/
lemma ContextsInv.balanced {s : CheckState} {t : Contexts} (h : ContextsInv s t) :
    Balanced s t := by
  obtain ⟨r, rfl, hshows⟩ := h.shows
  refine ⟨hshows.test.blocking, hshows.user, fun f hf hheld => ?_⟩
  have hframes := h.frames
  obtain ⟨fs, hfs⟩ : ∃ fs, t.frames = f :: fs := List.head?_eq_some_iff.mp hf
  rw [hfs] at hframes
  obtain ⟨⟨locks, hblocking, hlocks⟩, _⟩ := hframes
  rw [hheld, List.countP_nil, List.length_eq_zero_iff] at hlocks
  have htop := hshows.test.blocking.trans hblocking
  rw [hlocks, List.nil_append] at htop
  exact head_contextStack htop

lemma contextsInv_enter {s : CheckState} {t : Contexts} (e : EntryPoint) (args : EntryArgs)
    (h : ContextsInv s t) (hb : t.blocking.length < maxNesting)
    (hu : e.user.isSome = true → t.user.length < maxNesting) :
    Outcome ContextsInv Fault.OutsideStacks (t.enter e) (e.check s 0 args) := by
  obtain ⟨r, rfl, hshows⟩ := h.shows
  exact (outcome_pre e args hshows hb hu).imp fun s' hs' => ⟨hs', ⟨[], rfl, rfl⟩, rfl, h.frames⟩

lemma contextsInv_leave {s : CheckState} {t : Contexts} {f : Frame} {fs : List Frame}
    (args : EntryArgs) (h : ContextsInv s t) (hfs : t.frames = f :: fs) (hheld : f.held = []) :
    Outcome ContextsInv Fault.OutsideStacks t.leave (f.entry.check s 1 args) := by
  obtain ⟨r, rfl, hshows⟩ := h.shows
  have hframes := h.frames
  rw [hfs] at hframes
  obtain ⟨⟨locks, hblocking, hlocks⟩, huser, hrest⟩ := hframes
  rw [hheld, List.countP_nil, List.length_eq_zero_iff] at hlocks
  rw [hlocks, List.nil_append] at hblocking
  have hleave : t.leave = { blocking := f.blocking, user := f.user, frames := fs } := by
    rw [Contexts.leave, hfs]
  have hview : t.view = f.entry.pushes t.leave.view := by
    rw [hleave, Contexts.view, EntryPoint.pushes, Contexts.view, Contexts.held, Contexts.held,
      hblocking, huser, hfs, List.flatMap_cons, hheld]
    rfl
  rw [hview] at hshows
  refine (outcome_post f.entry args hshows (by rw [hleave]; exact hrest.ne_nil.1)
    (by rw [hleave]; exact hrest.ne_nil.2)).imp fun s' hs' => ⟨hs', ?_⟩
  rw [hleave]
  exact hrest

/-- A report of a lock, under the global lock. -/
lemma outcome_report {r : Records} {v v' : StackView} {c : LockReport} (h : Shows r v)
    (huser : v'.user = v.user) (hc : Outcome TestShows Fault.OutsideStacks v' (c.exec r.test)) :
    Outcome ShowsFree Fault.OutsideStacks v' (ContextEvent.exec (.free r) (.lock c)) := by
  rw [ContextEvent.exec]
  exact outcome_checkRoutine (h.onTest huser hc)

lemma contextsInv_acquire {s : CheckState} {t : Contexts} {c : LockReport} (h : ContextsInv s t)
    (hc : c.Acquires) (hopen : t.frames ≠ [])
    (hroom : c.lockType.context.isSome = true → t.blocking.length < maxNesting) :
    Outcome ContextsInv Fault.OutsideStacks (t.acquire c.lock c.lockType)
      (ContextEvent.exec s (.lock c)) := by
  obtain ⟨r, rfl, hshows⟩ := h.shows
  obtain ⟨f, fs, hfs⟩ := List.exists_cons_of_ne_nil hopen
  have hframes := h.frames
  rw [hfs] at hframes
  obtain ⟨⟨locks, hblocking, hlocks⟩, huser, hrest⟩ := hframes
  have hacquire : t.acquire c.lock c.lockType =
      { t with blocking := pushedBy c.lockType t.blocking,
               frames := { f with held := (c.lock, c.lockType) :: f.held } :: fs } := by
    rw [Contexts.acquire, hfs]
  have hview : (t.acquire c.lock c.lockType).view =
      { t.view with blocking := pushedBy c.lockType t.view.blocking,
                    held := (c.lock, c.lockType) :: t.view.held } := by
    rw [hacquire, Contexts.view, Contexts.view, Contexts.held, Contexts.held, hfs]
    rfl
  have hrun := hshows.test.acquire hc hroom
  rw [← hview] at hrun
  refine (outcome_report hshows (by rw [hview]) hrun).imp fun s' hs' => ⟨hs', ?_⟩
  rw [hacquire]
  refine ⟨⟨c.lockType.context.toList ++ locks, ?_, ?_⟩, huser, hrest⟩
  · show c.lockType.context.toList ++ t.blocking = _
    rw [hblocking, List.append_assoc]
  · rw [List.length_append, hlocks, List.countP_cons, Nat.add_comm]
    cases hcontext : c.lockType.context with
    | none => simp [pushedContext, hcontext]
    | some context => simp [pushedContext, hcontext]

/-- What the last acquisition of a lock has added to a list of held locks. -/
lemma releaseLast_spec {held : Held} {lock : ULong} (h : lock ∈ held.map Prod.fst) (rest : Held) :
    ∃ t, lastHeld (held ++ rest) lock = some (lock, t) ∧
      releaseLast (held ++ rest) lock = releaseLast held lock ++ rest ∧
      held.countP pushedContext = (releaseLast held lock).countP pushedContext +
        if t.context.isSome then 1 else 0 := by
  obtain ⟨p, hp, hlock⟩ := List.mem_map.mp h
  obtain ⟨⟨lock', t⟩, xs, ys, hxs, hfirst, hsplit, herase⟩ :=
    List.exists_of_eraseP hp (p := fun p => decide (p.1 = lock)) (decide_eq_true hlock)
  obtain rfl : lock' = lock := of_decide_eq_true hfirst
  refine ⟨t, ?_, ?_, ?_⟩
  · rw [lastHeld, hsplit, List.append_assoc, List.find?_append,
      List.find?_eq_none.mpr hxs, Option.none_or, List.cons_append]
    exact lastHeld_cons_self lock' t
  · exact List.eraseP_append_left (p := fun p => decide (p.1 = lock')) (decide_eq_true hlock)
      rest hp
  · rw [releaseLast, herase, hsplit, List.countP_append, List.countP_append, List.countP_cons,
      Nat.add_assoc]
    rfl

/-- A recorded release, in the innermost entry point, of a lock that was acquired there. -/
lemma contextsInv_release {s : CheckState} {t : Contexts} {c : LockReport} (h : ContextsInv s t)
    (hc : c.Releases) (hholds : t.HoldsInnermost c.lock) :
    Outcome ContextsInv Fault.OutsideStacks (t.release c.lock)
      (ContextEvent.exec s (.lock c)) := by
  obtain ⟨r, rfl, hshows⟩ := h.shows
  obtain ⟨f, hf, hmem⟩ := hholds
  obtain ⟨fs, hfs⟩ : ∃ fs, t.frames = f :: fs := List.head?_eq_some_iff.mp hf
  have hframes := h.frames
  rw [hfs] at hframes
  obtain ⟨⟨locks, hblocking, hlocks⟩, huser, hrest⟩ := hframes
  have hheld : t.held = f.held ++ fs.flatMap Frame.held := by
    rw [Contexts.held, hfs, List.flatMap_cons]
  obtain ⟨lockType, hlast, hrelease, hcount⟩ := releaseLast_spec hmem (fs.flatMap Frame.held)
  rw [← hheld] at hlast hrelease
  have hafter : t.release c.lock =
      { t with blocking := poppedBy lockType t.blocking,
               frames := { f with held := releaseLast f.held c.lock } :: fs } := by
    rw [Contexts.release, hlast, hfs, Contexts.releaseIn, if_pos hmem]
  have hview : (t.release c.lock).view =
      { t.view with blocking := poppedBy lockType t.view.blocking,
                    held := releaseLast t.view.held c.lock } := by
    rw [hafter, Contexts.view, Contexts.view, hrelease, Contexts.held]
    rfl
  have hlength : 1 < t.blocking.length := by
    have hpos := List.length_pos_of_ne_nil hrest.ne_nil.1
    rw [hblocking, List.length_append, List.length_cons]
    omega
  have hrun := hshows.test.release hc hlast hlength
  rw [← hview] at hrun
  refine (outcome_report hshows (by rw [hview]) hrun).imp fun s' hs' => ⟨hs', ?_⟩
  rw [hafter]
  refine ⟨?_, huser, hrest⟩
  rw [poppedBy]
  split_ifs with hcontext
  · rw [if_pos hcontext] at hcount
    obtain ⟨b, locks', rfl⟩ : ∃ b locks', locks = b :: locks' :=
      List.exists_cons_of_length_pos (by omega)
    refine ⟨locks', by rw [hblocking]; rfl, ?_⟩
    rw [List.length_cons] at hlocks
    show locks'.length = (releaseLast f.held c.lock).countP pushedContext
    omega
  · rw [if_neg hcontext] at hcount
    exact ⟨locks, hblocking, hlocks.trans hcount⟩

/-- **Every legal event keeps the invariant**, or ends the path for another reason. -/
lemma contextsInv_exec (s : CheckState) (t : Contexts) (e : ContextEvent) (h : ContextsInv s t)
    (hlegal : e.Legal Contexts.HoldsInnermost t) :
    Outcome ContextsInv Fault.OutsideStacks (e.after t) (e.exec s) := by
  cases e with
  | pre e args => exact contextsInv_enter e args h hlegal.1 hlegal.2
  | post e args =>
      obtain ⟨f, hf, rfl, hheld⟩ := hlegal
      obtain ⟨fs, hfs⟩ : ∃ fs, t.frames = f :: fs := List.head?_eq_some_iff.mp hf
      exact contextsInv_leave args h hfs hheld
  | lock c =>
      rw [ContextEvent.after]
      split_ifs with hacquire hrelease
      · exact contextsInv_acquire h hacquire (hlegal.1 hacquire).1 (hlegal.1 hacquire).2
      · exact contextsInv_release h hrelease (hlegal.2 hrelease)
      · obtain ⟨r, rfl, hshows⟩ := h.shows
        exact (outcome_report hshows rfl (hshows.test.report hacquire hrelease)).imp
          fun s' hs' => ⟨hs', h.frames⟩

/-! ## Runs -/

/-- **Entry points are balanced.**  Along every properly nested run in which each entry point
releases the locks acquired in it, and no others, no assertion about the stacks fires, the stacks
are what they should be, and the kernel's blocking state is the context of the innermost entry point
while that holds no lock. -/
theorem contexts_balanced (r : Records) (m : Tracked) (hm : r.test.Tracks m)
    (events : List ContextEvent)
    (hlegal : Along ContextEvent.after (fun t e => e.Legal Contexts.HoldsInnermost t) (.start r)
      events) :
    Outcome Balanced Fault.OutsideStacks (events.foldl ContextEvent.after (.start r))
      (events.foldlM ContextEvent.exec (.free r)) := by
  have hstart : ContextsInv (.free r) (.start r) := by
    refine ⟨⟨r, rfl, ⟨rfl, m, hm, fun p hp => nomatch hp⟩, rfl⟩, ?_, ?_⟩
    · exact List.ne_nil_of_length_pos (by rw [Contexts.start, length_contextStack]; omega)
    · exact List.ne_nil_of_length_pos (by rw [Contexts.start, length_contextStack]; omega)
  exact (Along.outcome contextsInv_exec events hstart hlegal).imp fun _ h => h.balanced

/-- The arguments of an entry point whose check reads none. -/
def EntryArgs.unused : EntryArgs where
  retval := 0
  dev := ⟨0, 0⟩
  txq := ⟨0, 0⟩
  skb := ⟨0, 0⟩
  mem := Alloc.succeeds
  symForceReceive := false

/-- What the checks of `_raw_spin_lock` and `_raw_spin_unlock` report. -/
def spinReport (lock : ULong) (prepost addThis : ℤ) : ContextEvent :=
  .lock { mem := Alloc.succeeds, prepost := prepost, lock := lock, origin := originSpinLock,
          lockType := .spinLock, addThis := addThis }

/-- A file is read, which takes a lock, and an interrupt arrives. -/
def readInterrupted : List ContextEvent :=
  [.pre (.fileOperations .read) .unused, spinReport 0xc0001000 0 1, spinReport 0xc0001000 1 1,
    .pre .interruptHandler .unused]

/-- The interrupt handler returns, and then the read releases the lock and returns. -/
def readContinues : List ContextEvent :=
  [.post .interruptHandler .unused, spinReport 0xc0001000 0 (-1),
    .post (.fileOperations .read) .unused]

theorem contexts_balanced_readInterrupted :
    Outcome Balanced Fault.OutsideStacks
      ((readInterrupted ++ readContinues).foldl ContextEvent.after (.start .initial))
      ((readInterrupted ++ readContinues).foldlM ContextEvent.exec (.free .initial)) :=
  contexts_balanced .initial ∅ tracks_initialized (readInterrupted ++ readContinues) <| by
    simp only [readInterrupted, readContinues, List.cons_append, List.nil_append, spinReport]
    refine ⟨⟨by decide, fun _ => by decide⟩,
      ⟨fun h => absurd h (by decide), fun h => absurd h (by decide)⟩,
      ⟨fun _ => ⟨by decide, fun _ => by decide⟩, fun h => absurd h (by decide)⟩,
      ⟨by decide, fun _ => by decide⟩, ⟨_, rfl, rfl, rfl⟩,
      ⟨fun h => absurd h (by decide), fun _ => ⟨_, rfl, by decide⟩⟩, ⟨_, rfl, rfl, rfl⟩, trivial⟩

/-- **A handler that releases the lock of the function it interrupted.**  The lock is released
before the function returns, but when the handler returns one entry is missing below its own. -/
theorem outer_lock_released_in_handler :
    Along ContextEvent.after (fun t e => e.Legal Contexts.HoldsSomewhere t) (.start .initial)
        (readInterrupted ++ [spinReport 0xc0001000 0 (-1), .post .interruptHandler .unused,
          .post (.fileOperations .read) .unused]) ∧
      ∃ s', (readInterrupted ++ [spinReport 0xc0001000 0 (-1),
          .post .interruptHandler .unused]).foldlM ContextEvent.exec (.free .initial) = .ok s' ∧
        ¬ Balanced s' ((readInterrupted ++ [spinReport 0xc0001000 0 (-1),
          .post .interruptHandler .unused]).foldl ContextEvent.after (.start .initial)) := by
  refine ⟨?_, ?_⟩
  · simp only [readInterrupted, List.cons_append, List.nil_append, spinReport]
    refine ⟨⟨by decide, fun _ => by decide⟩,
      ⟨fun h => absurd h (by decide), fun h => absurd h (by decide)⟩,
      ⟨fun _ => ⟨by decide, fun _ => by decide⟩, fun h => absurd h (by decide)⟩,
      ⟨by decide, fun _ => by decide⟩,
      ⟨fun h => absurd h (by decide), fun _ => ⟨_, .tail _ (.head _), by decide⟩⟩,
      ⟨_, rfl, rfl, rfl⟩, ⟨_, rfl, rfl, rfl⟩, trivial⟩
  · have hindex : ((readInterrupted ++ [spinReport 0xc0001000 0 (-1),
        .post .interruptHandler .unused]).foldlM ContextEvent.exec (.free .initial)).map
          (fun s => s.records.test.blockingContextCurrent) = .ok 1 := rfl
    obtain ⟨s', hrun, hcurrent⟩ := map_eq_ok.mp hindex
    refine ⟨s', hrun, fun hbalanced => ?_⟩
    have hlength := congrArg List.length hbalanced.blocking
    rw [hcurrent, length_contextStack] at hlength
    exact absurd hlength (by decide)

end SymDrive

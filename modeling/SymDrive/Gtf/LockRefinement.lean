import SymDrive.Gtf.MiscChecks

/-!
# The recorded locks refine the real ones

The reference model says which locks are really held: `RealLocks` gives for each lock the variant
it was taken with, and `ApiCall.after` lets a call acquire only if the kernel function says it did.
`Agree` relates it to the framework: the record of every known lock says exactly that.

Every correct call keeps the agreement, except one: the interruptible and the killable variant of
`mutex_lock` are recorded as acquired whatever they return
(`interruptible_failure_recorded_as_held`), where `_raw_spin_trylock_MJRcheck` looks at its
`retval`.
-/

namespace SymDrive

open Checked

/-- The variant each lock was really taken with, if it is held. -/
abbrev RealLocks := ULong → Option LockType

/-- What a completed kernel call does to its lock. -/
inductive Effect where
  | nothing
  | acquires (t : LockType)
  | releases (t : LockType)

namespace ApiCall

/-- `retval` decides for the calls that can fail: a trylock returns nonzero on success, an
interruptible or killable lock zero. -/
def effect (c : ApiCall) : Effect :=
  match c.api with
  | .rawSpinLock => .acquires .spinLock
  | .rawSpinLockBh => .acquires .spinLockBh
  | .rawSpinLockIrqsave => .acquires .spinLockIrqsave
  | .rawSpinLockIrq => .acquires .spinLockIrq
  | .rawSpinUnlock => .releases .spinLock
  | .rawSpinUnlockBh => .releases .spinLockBh
  | .rawSpinUnlockIrqrestore => .releases .spinLockIrqsave
  | .rawSpinUnlockIrq => .releases .spinLockIrq
  | .rawSpinTrylock => if c.retval ≠ 0 then .acquires .genericLock else .nothing
  | .mutexLockNested => .acquires .mutex
  | .mutexLockInterruptibleNested => if c.retval = 0 then .acquires .mutex else .nothing
  | .mutexLockKillableNested => if c.retval = 0 then .acquires .mutex else .nothing
  | .mutexUnlock => .releases .mutex

def after (real : RealLocks) (c : ApiCall) : RealLocks :=
  match c.effect with
  | .nothing => real
  | .acquires t => Function.update real c.args.lock (some t)
  | .releases _ => Function.update real c.args.lock none

/-- The driver uses its locks correctly: the lock is known to the tracker, it is acquired only while
free, and released by the unlock of its variant, or by any spin unlock after a trylock. -/
def Correct (known : Set ULong) (real : RealLocks) (c : ApiCall) : Prop :=
  c.args.lock ∈ known ∧ c.args.lockPtr > 0x1000 ∧
    match c.effect with
    | .nothing => True
    | .acquires _ => real c.args.lock = none
    | .releases t => real c.args.lock = some t ∨
        (real c.args.lock = some .genericLock ∧ t ≠ .mutex)

/-- The check routine ignores a return value that says the lock was not acquired. -/
def ReturnIgnored (c : ApiCall) : Prop :=
  (c.api = .mutexLockInterruptibleNested ∨ c.api = .mutexLockKillableNested) ∧ c.retval ≠ 0

end ApiCall

/-- The global lock is free, and the record of every known lock says what is really held. -/
structure Agree (known : Set ULong) (f : Framework) (real : RealLocks) : Prop where
  free : f.lock = ⟨0⟩
  records : ∃ m, f.test.Tracks m ∧
    ∀ l ∈ known, ∃ value, m.lookup l = some value ∧ value.lockState = heldState (real l)

/-- A fault of the blocking contexts: `lock_kernel_state` refuses the lock in this context, or the
nesting leaves the array.  These are not about which locks are held. -/
def Fault.FromContext : Fault → Prop
  | .assertion func _ => func = .lockKernelState ∨ func = .popBlockingState
  | .outOfBounds func => func = .pushBlockingState
  | _ => False

lemma lockKernelState_fromContext (g : GlobalState) (origin : Origin) (t : LockType)
    (addThis : ℤ) : FaultsIn Fault.FromContext (lockKernelState g origin t addThis) := by
  have hpush : ∀ context, FaultsIn Fault.FromContext (pushBlockingState g context) := by
    intro context
    unfold pushBlockingState
    dsimp only
    split_ifs
    · exact faultsIn_ok _
    · exact faultsIn_error.mpr rfl
  have hpop : FaultsIn Fault.FromContext (popBlockingState g) :=
    (faultsIn_tfassertDetail (Or.inr rfl)).bind fun _ _ => faultsIn_ok _
  cases t with
  | undefined => exact faultsIn_error.mpr (Or.inl rfl)
  | genericLock => exact faultsIn_ok g
  | spinLock | spinLockBh | spinLockIrqsave | spinLockIrq | rwlock =>
      unfold lockKernelState
      refine (faultsIn_tfassertDetail (Or.inl rfl)).bind fun _ _ => ?_
      split_ifs
      · exact hpush _
      · exact hpop
  | mutex | rwsem =>
      unfold lockKernelState
      refine (faultsIn_tfassertDetail (Or.inl rfl)).bind fun _ _ => ?_
      split_ifs
      · exact (faultsIn_tfassertDetail (Or.inl rfl)).bind fun _ _ => hpush _
      · exact hpop

/-! ## One check -/

section

variable {known : Set ULong} {f : Framework} {real : RealLocks} {args : LockArgs}
  {origin : Origin} {t : LockType}

lemma lockCheckRoutine_of_free (hfree : f.lock = ⟨0⟩) (hptr : args.lockPtr > 0x1000)
    (report : GlobalState → Except Fault GlobalState) :
    lockCheckRoutine f args report =
      (report f.test >>= fun test => .ok { f with test := test }) := by
  unfold lockCheckRoutine
  rw [locked_of_free (by rw [hfree]), tfassertDetail_of_true hptr, ok_bind]
  cases hreport : report f.test with
  | error e => rfl
  | ok test =>
      obtain ⟨lock, test₀, driver⟩ := f
      dsimp only at hfree
      rw [hfree]
      rfl

/-- The record of a known lock can be changed to what the real lock becomes. -/
lemma Agree.modify (h : Agree known f real) {lock : ULong} {value : HValue}
    (hlock : lock ∈ known) {o : Option LockType} (hvalue : value.lockState = heldState o)
    {test : GlobalState} (hobjs : test.objs = (objsModify f.test lock fun _ => value).objs) :
    Agree known { f with test := test } (Function.update real lock o) := by
  obtain ⟨m, hm, hrec⟩ := h.records
  obtain ⟨old, hold, _⟩ := hrec lock hlock
  refine ⟨h.free, m.insert lock value, ?_, ?_⟩
  · unfold GlobalState.Tracks
    rw [hobjs]
    exact tracks_modified hm hold fun _ => value
  · intro l hl
    by_cases hne : l = lock
    · rw [hne]
      exact ⟨value, Finmap.lookup_insert m, by rw [Function.update_self, hvalue]⟩
    · obtain ⟨v, hv, hheld⟩ := hrec l hl
      refine ⟨v, ?_, ?_⟩
      · rw [Finmap.lookup_insert_of_ne m hne, hv]
      · rw [Function.update_of_ne hne, hheld]

/-- The record of a known lock, as the search finds it. -/
lemma Agree.search (h : Agree known f real) {lock : ULong} (hlock : lock ∈ known) :
    ∃ value, objsSearch f.test lock = some value ∧ value.lockState = heldState (real lock) := by
  obtain ⟨m, hm, hrec⟩ := h.records
  obtain ⟨value, hlook, hheld⟩ := hrec lock hlock
  exact ⟨value, by rw [objsSearch_eq hm, hlook], hheld⟩

/-- What the check makes of a report that changes the record of its lock and then the blocking
contexts. -/
lemma Agree.report (h : Agree known f real) (hlock : args.lock ∈ known)
    (hptr : args.lockPtr > 0x1000) {value : HValue} {o : Option LockType}
    (hvalue : value.lockState = heldState o) {addThis : ℤ} (hadd : addThis = -1 ∨ addThis = 1)
    {report : GlobalState → Except Fault GlobalState} {t : LockType}
    (hreport : report f.test =
      lockKernelState (objsModify f.test args.lock fun _ => value) origin t addThis) :
    Outcome (Agree known) Fault.FromContext (Function.update real args.lock o)
      (lockCheckRoutine f args report) := by
  rw [lockCheckRoutine_of_free h.free hptr, hreport]
  cases hkernel : lockKernelState (objsModify f.test args.lock fun _ => value) origin t addThis with
  | error e => exact lockKernelState_fromContext _ _ _ _ e hkernel
  | ok test => exact h.modify hlock hvalue (lockKernelState_objs hadd hkernel)

/-- Before an acquisition the check changes nothing. -/
lemma Agree.pre_lock (h : Agree known f real) (hlock : args.lock ∈ known)
    (hptr : args.lockPtr > 0x1000) (haddr : args.lock > 0x1000) :
    stateCheckRoutine f 0 args origin t 1 = .ok f := by
  obtain ⟨value, hsearch, _⟩ := h.search hlock
  rw [stateCheckRoutine, lockCheckRoutine_of_free h.free hptr,
    genericLockState_known hsearch (Or.inr rfl), known_pre_lock, tfassertDetail_of_true haddr]
  rfl

/-- After a release the check changes nothing. -/
lemma Agree.post_unlock (h : Agree known f real) (hlock : args.lock ∈ known)
    (hptr : args.lockPtr > 0x1000) (haddr : args.lock > 0x1000) :
    stateCheckRoutine f 1 args origin t (-1) = .ok f := by
  obtain ⟨value, hsearch, _⟩ := h.search hlock
  rw [stateCheckRoutine, lockCheckRoutine_of_free h.free hptr,
    genericLockState_known hsearch (Or.inl rfl), known_post_unlock, tfassertDetail_of_true haddr]
  rfl

/-- After an acquisition of a free lock the record says that the lock is held. -/
lemma Agree.post_lock (h : Agree known f real) (hlock : args.lock ∈ known)
    (hptr : args.lockPtr > 0x1000) (haddr : args.lock > 0x1000) (hfree : real args.lock = none) :
    Outcome (Agree known) Fault.FromContext (Function.update real args.lock (some t))
      (stateCheckRoutine f 1 args origin t 1) := by
  obtain ⟨value, hsearch, hheld⟩ := h.search hlock
  rw [hfree] at hheld
  have hreport : genericLockState f.test args.mem 1 args.lock origin t 1 =
      lockKernelState (objsModify f.test args.lock fun _ => value.addLockState t 1) origin t 1 := by
    rw [genericLockState_known hsearch (Or.inr rfl), known_post_lock, tfassertDetail_of_true haddr,
      ok_bind, lockPost_of_free hheld]
  exact h.report hlock hptr (acquire_heldState hheld) (Or.inr rfl) hreport

/-- Before a release of a lock that is held, by its own unlock or after a trylock by any, the record
comes to say that the lock is free. -/
lemma Agree.pre_unlock (h : Agree known f real) (hlock : args.lock ∈ known)
    (hptr : args.lockPtr > 0x1000) (haddr : args.lock > 0x1000) (ht : t ≠ .genericLock)
    (hheld : real args.lock = some t ∨ real args.lock = some .genericLock) :
    Outcome (Agree known) Fault.FromContext (Function.update real args.lock none)
      (stateCheckRoutine f 0 args origin t (-1)) := by
  obtain ⟨value, hsearch, hvalue⟩ := h.search hlock
  have hreport : genericLockState f.test args.mem 0 args.lock origin t (-1) =
      unlockPre f.test args.lock value origin t (-1) := by
    rw [genericLockState_known hsearch (Or.inl rfl), known_pre_unlock, tfassertDetail_of_true haddr,
      ok_bind]
  rcases hheld with hheld | hheld
  · rw [hheld] at hvalue
    rw [unlockPre_of_held hvalue ht] at hreport
    exact h.report hlock hptr (release_heldState hvalue) (Or.inl rfl) hreport
  · rw [hheld] at hvalue
    rw [unlockPre_of_generic hvalue ht] at hreport
    -- The blocking contexts get the report of a generic lock, which leaves them alone.
    have hkernel : genericLockState f.test args.mem 0 args.lock origin t (-1) =
        lockKernelState (objsModify f.test args.lock fun _ => value.unlockGeneric t) origin
          .genericLock (-1) := hreport
    exact h.report hlock hptr (unlockGeneric_heldState hvalue) (Or.inl rfl) hkernel

/-- A check that reports an acquisition on both sides of the call. -/
lemma Agree.lock (h : Agree known f real) (hlock : args.lock ∈ known)
    (hptr : args.lockPtr > 0x1000) (haddr : args.lock > 0x1000) (hfree : real args.lock = none) :
    Outcome (Agree known) Fault.FromContext (Function.update real args.lock (some t))
      (stateCheckRoutine f 0 args origin t 1 >>= fun f =>
        stateCheckRoutine f 1 args origin t 1) := by
  rw [h.pre_lock hlock hptr haddr, ok_bind]
  exact h.post_lock hlock hptr haddr hfree

/-- A check that reports a release on both sides of the call. -/
lemma Agree.unlock (h : Agree known f real) (hlock : args.lock ∈ known)
    (hptr : args.lockPtr > 0x1000) (haddr : args.lock > 0x1000) (ht : t ≠ .genericLock)
    (hheld : real args.lock = some t ∨ real args.lock = some .genericLock) :
    Outcome (Agree known) Fault.FromContext (Function.update real args.lock none)
      (stateCheckRoutine f 0 args origin t (-1) >>= fun f =>
        stateCheckRoutine f 1 args origin t (-1)) := by
  have hpre : Outcome (Agree known) Fault.FromContext (Function.update real args.lock none)
      (stateCheckRoutine f 0 args origin t (-1)) := h.pre_unlock hlock hptr haddr ht hheld
  cases hf : stateCheckRoutine f 0 args origin t (-1) with
  | error e =>
      rw [hf] at hpre
      exact hpre
  | ok f₁ =>
      rw [hf] at hpre
      have hagree : Agree known f₁ (Function.update real args.lock none) := hpre
      rw [ok_bind, hagree.post_unlock hlock hptr haddr]
      exact hagree

/-- A trylock is reported after the call, if it succeeded. -/
lemma Agree.trylock (h : Agree known f real) (hlock : args.lock ∈ known)
    (hptr : args.lockPtr > 0x1000) (haddr : args.lock > 0x1000) {retval : ℤ}
    (hfree : retval ≠ 0 → real args.lock = none) :
    Outcome (Agree known) Fault.FromContext
      (if retval ≠ 0 then Function.update real args.lock (some .genericLock) else real)
      (rawSpinTrylockMJRcheck f 0 retval args >>= fun f =>
        rawSpinTrylockMJRcheck f 1 retval args) := by
  have hpre : rawSpinTrylockMJRcheck f 0 retval args = .ok f := by
    rw [rawSpinTrylockMJRcheck, lockCheckRoutine_of_free h.free hptr, if_neg (by simp)]
    rfl
  rw [hpre, ok_bind]
  by_cases hret : retval = 0
  · have hpost : rawSpinTrylockMJRcheck f 1 retval args = .ok f := by
      rw [rawSpinTrylockMJRcheck, lockCheckRoutine_of_free h.free hptr, if_neg (by simp [hret])]
      rfl
    rw [hpost, if_neg (by simp [hret])]
    exact h
  · have hpost : rawSpinTrylockMJRcheck f 1 retval args =
        stateCheckRoutine f 1 args originSpinLock .genericLock 1 := by
      rw [rawSpinTrylockMJRcheck, stateCheckRoutine, lockCheckRoutine_of_free h.free hptr,
        lockCheckRoutine_of_free h.free hptr, if_pos ⟨rfl, hret⟩]
    rw [hpost, if_pos hret]
    exact h.post_lock hlock hptr haddr (hfree hret)

end

/-! ## A run of checks -/

/-- **One correct call keeps the agreement**, or is refused by the blocking contexts, as long as the
check does not ignore a failure. -/
lemma agree_exec {known : Set ULong} (haddr : ∀ l ∈ known, l > 0x1000) (f : Framework)
    (real : RealLocks) (c : ApiCall) (h : Agree known f real)
    (hc : c.Correct known real ∧ ¬ c.ReturnIgnored) :
    Outcome (Agree known) Fault.FromContext (c.after real) (c.exec f) := by
  obtain ⟨⟨hlock, hptr, heffect⟩, hret⟩ := hc
  obtain ⟨api, args, retval⟩ := c
  have hlow := haddr args.lock hlock
  cases api with
  | rawSpinLock | rawSpinLockBh | rawSpinLockIrqsave | rawSpinLockIrq | mutexLockNested =>
      exact h.lock hlock hptr hlow heffect
  | rawSpinUnlock | rawSpinUnlockBh | rawSpinUnlockIrqrestore | rawSpinUnlockIrq | mutexUnlock =>
      exact h.unlock hlock hptr hlow (by decide) (heffect.imp_right And.left)
  | rawSpinTrylock =>
      have hfree : retval ≠ 0 → real args.lock = none := by
        intro hne
        simpa [ApiCall.effect, hne] using heffect
      have htry := h.trylock hlock hptr hlow hfree
      have hafter : ApiCall.after real ⟨.rawSpinTrylock, args, retval⟩ =
          if retval ≠ 0 then Function.update real args.lock (some .genericLock) else real := by
        unfold ApiCall.after ApiCall.effect
        dsimp only
        by_cases hne : retval ≠ 0
        · rw [if_pos hne, if_pos hne]
        · rw [if_neg hne, if_neg hne]
      rw [hafter]
      exact htry
  | mutexLockInterruptibleNested | mutexLockKillableNested =>
      -- The check does not look at `retval`; here it says that the lock was acquired.
      have hzero : retval = 0 := by
        by_contra hne
        exact hret ⟨by simp, hne⟩
      subst hzero
      exact h.lock hlock hptr hlow heffect

/-- **The recorded locks refine the real ones** in every correct run in which no interruptible or
killable lock attempt fails: after every step the records agree with the locks really held, unless
the blocking contexts stopped the run; no assertion about which locks are held fails. -/
theorem lockState_refines (known : Set ULong) (haddr : ∀ l ∈ known, l > 0x1000)
    (calls : List ApiCall) (f : Framework) (real : RealLocks) (hagree : Agree known f real)
    (hcorrect : Along ApiCall.after (ApiCall.Correct known) real calls)
    (hreturns : ∀ c ∈ calls, ¬ c.ReturnIgnored) :
    Outcome (Agree known) Fault.FromContext (calls.foldl ApiCall.after real)
      (calls.foldlM ApiCall.exec f) :=
  Along.outcome (agree_exec haddr) calls hagree (hcorrect.and (Along.of_forall hreturns))

/-- A mutex that the tracker knows, in process context. -/
def oneMutex : Framework where
  lock := ⟨0⟩
  test := objsInserted processContext Alloc.succeeds 0xc0001000
    (HValue.fresh originMutex (0 - 1) 0)
  driver := EnterExit.initial 0 ""

lemma agree_oneMutex : Agree {0xc0001000} oneMutex fun _ => none := by
  refine ⟨rfl, _, tracks_inserted tracks_processContext Finmap.notMem_empty _ rfl, ?_⟩
  rintro l rfl
  refine ⟨_, Finmap.lookup_insert ∅, ?_⟩
  funext t
  rw [heldState_none]
  rfl

/-- The pointer argument is on the stack, the lock is the one of `oneMutex`. -/
def oneMutexArgs : LockArgs := ⟨0xc7fffff0, 0xc0001000, Alloc.succeeds⟩

theorem lockState_refines_lock_unlock :
    Outcome (Agree {0xc0001000}) Fault.FromContext
      ([⟨.mutexLockNested, oneMutexArgs, 0⟩, ⟨.mutexUnlock, oneMutexArgs, 0⟩].foldl ApiCall.after
        fun _ => none)
      ([⟨.mutexLockNested, oneMutexArgs, 0⟩, ⟨.mutexUnlock, oneMutexArgs, 0⟩].foldlM
        ApiCall.exec oneMutex) := by
  refine lockState_refines {0xc0001000} ?_ _ oneMutex _ agree_oneMutex ?_ ?_
  · rintro l rfl
    decide
  · exact ⟨⟨rfl, by decide, rfl⟩, ⟨rfl, by decide, Or.inl rfl⟩, trivial⟩
  · simp [ApiCall.ReturnIgnored]

/-- **A failed interruptible lock is recorded as held.**  The driver gives up after `-EINTR` and
takes the mutex again, correctly; the framework takes the second acquisition for a double one. -/
theorem interruptible_failure_recorded_as_held :
    Along ApiCall.after (ApiCall.Correct {0xc0001000}) (fun _ => none)
      [⟨.mutexLockInterruptibleNested, oneMutexArgs, -4⟩, ⟨.mutexLockNested, oneMutexArgs, 0⟩] ∧
    (∃ f', ApiCall.exec oneMutex ⟨.mutexLockInterruptibleNested, oneMutexArgs, -4⟩ = .ok f' ∧
      ¬ Agree {0xc0001000} f' fun _ => none) ∧
    ∃ msg, [⟨.mutexLockInterruptibleNested, oneMutexArgs, -4⟩,
      ⟨.mutexLockNested, oneMutexArgs, 0⟩].foldlM ApiCall.exec oneMutex =
        .error (.assertion .genericLockState msg) := by
  refine ⟨⟨⟨rfl, by decide, trivial⟩, ⟨rfl, by decide, rfl⟩, trivial⟩, ?_, ⟨_, rfl⟩⟩
  have hslot : ((ApiCall.exec oneMutex
      ⟨.mutexLockInterruptibleNested, oneMutexArgs, -4⟩).map fun f =>
        (objsSearch f.test 0xc0001000).map fun v => v.lockState .mutex).toOption =
      some (some 1) := rfl
  cases hexec : ApiCall.exec oneMutex ⟨.mutexLockInterruptibleNested, oneMutexArgs, -4⟩ with
  | error e =>
      rw [hexec] at hslot
      cases hslot
  | ok f' =>
      refine ⟨f', rfl, fun hagree => ?_⟩
      have hknown : (0xc0001000 : ULong) ∈ ({0xc0001000} : Set ULong) := rfl
      obtain ⟨value, hsearch, hvalue⟩ := hagree.search hknown
      rw [hexec, Except.map, Except.toOption, hsearch, Option.map_some, hvalue, heldState_none]
        at hslot
      cases hslot

end SymDrive

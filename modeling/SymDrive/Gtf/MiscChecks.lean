import SymDrive.Gtf.Framework
import SymDrive.Gtf.LockCalls

/-!
# The check routines of the lock API

`misc_checks/main.c`: the checks the generated stubs run before (`prepost` 0) and after
(`prepost` 1) a call of a spinlock or mutex function.  Each takes the global lock, checks its
pointer argument and reports to `generic_lock_state`; they differ in the origin, the slot and the
direction they report.  `retval` points to what the kernel function returned.
-/

namespace SymDrive

/-- The arguments every one of these checks gets: `lockPtr` is the address of the argument, `lock`
the address of the lock itself. -/
structure LockArgs where
  lockPtr : ULong
  lock : ULong
  mem : Alloc

/-- The common body of the checks. -/
def lockCheckRoutine (f : Framework) (args : LockArgs)
    (report : GlobalState → Except Fault GlobalState) : Except Fault Framework :=
  f.locked fun f => do
    tfassertDetail .lockCheckRoutine (args.lockPtr > 0x1000) "Incorrect lock provided\n"
    let test ← report f.test
    .ok { f with test := test }

/-- A check that reports on both sides of the call. -/
def stateCheckRoutine (f : Framework) (prepost : ℤ) (args : LockArgs) (origin : Origin)
    (lockType : LockType) (addThis : ℤ) : Except Fault Framework :=
  lockCheckRoutine f args fun g =>
    genericLockState g args.mem prepost args.lock origin lockType addThis

def rawSpinLockMJRcheck (f : Framework) (prepost : ℤ) (args : LockArgs) :
    Except Fault Framework :=
  stateCheckRoutine f prepost args originSpinLock .spinLock 1

def rawSpinLockBhMJRcheck (f : Framework) (prepost : ℤ) (args : LockArgs) :
    Except Fault Framework :=
  stateCheckRoutine f prepost args originSpinLock .spinLockBh 1

def rawSpinLockIrqsaveMJRcheck (f : Framework) (prepost : ℤ) (args : LockArgs) :
    Except Fault Framework :=
  stateCheckRoutine f prepost args originSpinLock .spinLockIrqsave 1

def rawSpinLockIrqMJRcheck (f : Framework) (prepost : ℤ) (args : LockArgs) :
    Except Fault Framework :=
  stateCheckRoutine f prepost args originSpinLock .spinLockIrq 1

def rawSpinUnlockMJRcheck (f : Framework) (prepost : ℤ) (args : LockArgs) :
    Except Fault Framework :=
  stateCheckRoutine f prepost args originSpinLock .spinLock (-1)

def rawSpinUnlockBhMJRcheck (f : Framework) (prepost : ℤ) (args : LockArgs) :
    Except Fault Framework :=
  stateCheckRoutine f prepost args originSpinLock .spinLockBh (-1)

def rawSpinUnlockIrqrestoreMJRcheck (f : Framework) (prepost : ℤ) (args : LockArgs) :
    Except Fault Framework :=
  stateCheckRoutine f prepost args originSpinLock .spinLockIrqsave (-1)

def rawSpinUnlockIrqMJRcheck (f : Framework) (prepost : ℤ) (args : LockArgs) :
    Except Fault Framework :=
  stateCheckRoutine f prepost args originSpinLock .spinLockIrq (-1)

/-- `_raw_spin_trylock_MJRcheck` reports a successful trylock only, and under `GENERIC_LOCK`. -/
def rawSpinTrylockMJRcheck (f : Framework) (prepost retval : ℤ) (args : LockArgs) :
    Except Fault Framework :=
  lockCheckRoutine f args fun g =>
    if prepost = 1 ∧ retval ≠ 0 then
      genericLockState g args.mem prepost args.lock originSpinLock .genericLock 1
    else .ok g

def mutexLockNestedMJRcheck (f : Framework) (prepost : ℤ) (args : LockArgs) :
    Except Fault Framework :=
  stateCheckRoutine f prepost args originMutex .mutex 1

/-- `retval` is not looked at. -/
def mutexLockInterruptibleNestedMJRcheck (f : Framework) (prepost _retval : ℤ)
    (args : LockArgs) : Except Fault Framework :=
  stateCheckRoutine f prepost args originMutex .mutex 1

/-- `retval` is not looked at. -/
def mutexLockKillableNestedMJRcheck (f : Framework) (prepost _retval : ℤ) (args : LockArgs) :
    Except Fault Framework :=
  stateCheckRoutine f prepost args originMutex .mutex 1

def mutexUnlockMJRcheck (f : Framework) (prepost : ℤ) (args : LockArgs) :
    Except Fault Framework :=
  stateCheckRoutine f prepost args originMutex .mutex (-1)

/-- The functions of the lock API that are checked here. -/
inductive LockApi where
  | rawSpinLock
  | rawSpinLockBh
  | rawSpinLockIrqsave
  | rawSpinLockIrq
  | rawSpinUnlock
  | rawSpinUnlockBh
  | rawSpinUnlockIrqrestore
  | rawSpinUnlockIrq
  | rawSpinTrylock
  | mutexLockNested
  | mutexLockInterruptibleNested
  | mutexLockKillableNested
  | mutexUnlock
  deriving DecidableEq, Repr

/-- The check routine the stub of a function looks up. -/
def LockApi.check (api : LockApi) (f : Framework) (prepost retval : ℤ) (args : LockArgs) :
    Except Fault Framework :=
  match api with
  | rawSpinLock => rawSpinLockMJRcheck f prepost args
  | rawSpinLockBh => rawSpinLockBhMJRcheck f prepost args
  | rawSpinLockIrqsave => rawSpinLockIrqsaveMJRcheck f prepost args
  | rawSpinLockIrq => rawSpinLockIrqMJRcheck f prepost args
  | rawSpinUnlock => rawSpinUnlockMJRcheck f prepost args
  | rawSpinUnlockBh => rawSpinUnlockBhMJRcheck f prepost args
  | rawSpinUnlockIrqrestore => rawSpinUnlockIrqrestoreMJRcheck f prepost args
  | rawSpinUnlockIrq => rawSpinUnlockIrqMJRcheck f prepost args
  | rawSpinTrylock => rawSpinTrylockMJRcheck f prepost retval args
  | mutexLockNested => mutexLockNestedMJRcheck f prepost args
  | mutexLockInterruptibleNested => mutexLockInterruptibleNestedMJRcheck f prepost retval args
  | mutexLockKillableNested => mutexLockKillableNestedMJRcheck f prepost retval args
  | mutexUnlock => mutexUnlockMJRcheck f prepost args

/-- One call of the driver into the lock API, and what the kernel function returned. -/
structure ApiCall where
  api : LockApi
  args : LockArgs
  retval : ℤ

/-- A completed check: the precondition, the kernel function, the postcondition. -/
def ApiCall.exec (f : Framework) (c : ApiCall) : Except Fault Framework := do
  let f ← c.api.check f 0 c.retval c.args
  c.api.check f 1 c.retval c.args

end SymDrive

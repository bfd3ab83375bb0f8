import SymDrive.Gtf.TestState

/-!
# The framework state

The state of `test_state.c` together with the variables of `enter_exit.c` and the global lock
(`global_lock.c`) that every check routine and every generated entry and exit takes.

The lock is a spinlock that is held exactly while `global_lock_acquired` is 1, so acquiring it then
waits forever.
-/

namespace SymDrive

/-- `global_lock.c`. -/
structure GlobalLock where
  globalLockAcquired : ℤ

/-- `driver_call_stack_max`. -/
def driverCallStackMax : ℤ := 32

/-- The variables of `enter_exit.c`, and the two module parameters it reads. -/
structure EnterExit where
  badPath : ℤ
  driverCallStack : ℤ
  driverCallStackStr : ℤ → Option String
  gSymdriveAnnotations : ℤ
  gSymRetval : ℤ
  gSymStartingFn : String

/-- The variables at start-up, for given module parameters. -/
def EnterExit.initial (gSymRetval : ℤ) (gSymStartingFn : String) : EnterExit where
  badPath := 0
  driverCallStack := 0
  driverCallStackStr := fun _ => none
  gSymdriveAnnotations := 0
  gSymRetval := gSymRetval
  gSymStartingFn := gSymStartingFn

structure Framework where
  lock : GlobalLock
  test : GlobalState
  driver : EnterExit

def acquireGlobalLock (l : GlobalLock) : Except Fault GlobalLock :=
  if l.globalLockAcquired = 1 then .error .deadlock
  else do
    tfassertDetail .acquireGlobalLock (l.globalLockAcquired = 0) "Global lock not released."
    .ok { globalLockAcquired := 1 }

def releaseGlobalLock (l : GlobalLock) : Except Fault GlobalLock := do
  tfassertDetail .releaseGlobalLock (l.globalLockAcquired = 1)
    "Global lock released but not acquired."
  .ok { globalLockAcquired := 0 }

def assertGlobalLock (l : GlobalLock) : Except Fault Unit :=
  tfassertDetail .assertGlobalLock (l.globalLockAcquired = 1)
    "Global lock assumed to be acquired but is not."

/-- `check_routine_start`, the body, `check_routine_end`. -/
def Framework.locked (f : Framework) (body : Framework → Except Fault Framework) :
    Except Fault Framework := do
  let lock ← acquireGlobalLock f.lock
  let f ← body { f with lock := lock }
  let lock ← releaseGlobalLock f.lock
  .ok { f with lock := lock }

/-- The same around a body that does not touch the lock. -/
def lockedRoutine {α : Type} (l : GlobalLock) (body : Except Fault α) :
    Except Fault (GlobalLock × α) := do
  let lock ← acquireGlobalLock l
  let a ← body
  let lock ← releaseGlobalLock lock
  .ok (lock, a)

/-! ## The lock around a body -/

lemma acquireGlobalLock_eq_ok {l l' : GlobalLock} :
    acquireGlobalLock l = .ok l' ↔ l.globalLockAcquired = 0 ∧ l' = ⟨1⟩ := by
  unfold acquireGlobalLock
  split_ifs with h
  · rw [h]
    simp
  · rw [tfassertDetail_bind_eq_ok, Except.ok.injEq, eq_comm (a := l')]

lemma releaseGlobalLock_eq_ok {l l' : GlobalLock} :
    releaseGlobalLock l = .ok l' ↔ l.globalLockAcquired = 1 ∧ l' = ⟨0⟩ := by
  unfold releaseGlobalLock
  rw [tfassertDetail_bind_eq_ok, Except.ok.injEq, eq_comm (a := l')]

/-- Where the lock is free, the body decides what happens, and the lock is free again. -/
lemma lockedRoutine_free {α : Type} (body : Except Fault α) :
    lockedRoutine ⟨0⟩ body = body.map fun a => (⟨0⟩, a) := by
  have hacq : acquireGlobalLock ⟨0⟩ = .ok ⟨1⟩ := acquireGlobalLock_eq_ok.mpr ⟨rfl, rfl⟩
  have hrel : releaseGlobalLock ⟨1⟩ = .ok ⟨0⟩ := releaseGlobalLock_eq_ok.mpr ⟨rfl, rfl⟩
  rw [lockedRoutine, hacq, Checked.ok_bind]
  cases body with
  | error e => rfl
  | ok a => rw [Checked.ok_bind, hrel]; rfl

/-- A locked body that goes through gives its result. -/
lemma lockedRoutine_inv {α : Type} {l l' : GlobalLock} {body : Except Fault α} {a : α}
    (h : lockedRoutine l body = .ok (l', a)) : body = .ok a := by
  obtain ⟨_, -, h⟩ := Checked.bind_eq_ok.mp h
  obtain ⟨a', hbody, h⟩ := Checked.bind_eq_ok.mp h
  obtain ⟨_, -, h⟩ := Checked.bind_eq_ok.mp h
  rw [hbody, (Prod.mk.inj (Except.ok.inj h)).2]

/-- A locked body that goes through started and ended with the lock free; the body itself ran with
the lock held. -/
lemma locked_inv {f f' : Framework} {body : Framework → Except Fault Framework}
    (h : f.locked body = .ok f') :
    f.lock.globalLockAcquired = 0 ∧
      ∃ f₁, body { f with lock := ⟨1⟩ } = .ok f₁ ∧ f' = { f₁ with lock := ⟨0⟩ } := by
  obtain ⟨l, hacq, h⟩ := Checked.bind_eq_ok.mp h
  obtain ⟨h0, rfl⟩ := acquireGlobalLock_eq_ok.mp hacq
  obtain ⟨f₁, hbody, h⟩ := Checked.bind_eq_ok.mp h
  obtain ⟨l', hrel, h⟩ := Checked.bind_eq_ok.mp h
  obtain ⟨_, rfl⟩ := releaseGlobalLock_eq_ok.mp hrel
  cases h
  exact ⟨h0, f₁, hbody, rfl⟩

/-- Where the lock is free, a body that leaves it alone decides what happens. -/
lemma locked_of_free {f : Framework} {body : Framework → Except Fault Framework}
    (h0 : f.lock.globalLockAcquired = 0) :
    f.locked body = (body { f with lock := ⟨1⟩ } >>= fun f₁ =>
      releaseGlobalLock f₁.lock >>= fun lock => .ok { f₁ with lock := lock }) := by
  unfold Framework.locked
  rw [acquireGlobalLock_eq_ok.mpr ⟨h0, rfl⟩, Checked.ok_bind]

end SymDrive

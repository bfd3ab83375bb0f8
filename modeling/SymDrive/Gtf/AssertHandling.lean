import SymDrive.Library.WorkList
import SymDrive.Gtf.Framework

/-!
# The handling of a failed assertion

On Linux the macros `assert`, `tfassert_detail` and `tfassert_no_detail` of `globals.h` print what
failed, dump the driver call stack and only then end the path with `s2e_kill_state`.  The dump
starts with `assert_global_lock`, which is such an assertion itself.

A failed assertion is run as a work list; an action that only prints comes to an end by itself.
-/

namespace SymDrive

open WorkList

/-- What the handling of a failed assertion is made of. -/
inductive Action where
  | objsEnumPrint
  | objsEnumPrintNew
  | printMessage
  | dumpStack
  | driverDumpStack
  | assertGlobalLock
  | printCallStack
  | killState
  deriving DecidableEq, Repr

inductive AssertMacro where
  | assert
  | tfassertDetail
  | tfassertNoDetail
  deriving DecidableEq, Repr

/-- The body of the macro, when its condition is false. -/
def AssertMacro.handling : AssertMacro → List Action
  | assert | tfassertDetail =>
      [.objsEnumPrint, .objsEnumPrintNew, .printMessage, .dumpStack, .driverDumpStack, .killState]
  | tfassertNoDetail => [.printMessage, .driverDumpStack, .killState]

/-- What an action consists of, for the given state of the global lock. -/
def Action.expand (l : GlobalLock) : Action → List Action
  | driverDumpStack => [.assertGlobalLock, .printCallStack]
  | assertGlobalLock => if l.globalLockAcquired = 1 then [] else AssertMacro.assert.handling
  | _ => []

/-- The failed assertion ends the path after finitely many steps; `rest` is what the failing
function would do next. -/
def ReachesKill (l : GlobalLock) (todo rest : List Action) : Prop :=
  Reaches (Action.expand l) (· = .killState) (todo ++ rest)

/-- Without the lock, dumping the call stack stands before every end of the path. -/
lemma handling_blocked (m : AssertMacro) (rest : List Action) :
    Blocked (· = .killState) (fun a => a = .driverDumpStack ∨ a = .assertGlobalLock)
      (m.handling ++ rest) := by
  cases m <;> simp [AssertMacro.handling, Blocked]

lemma not_reachesKill {l : GlobalLock} (hfree : l.globalLockAcquired ≠ 1) (m : AssertMacro)
    (rest : List Action) : ¬ ReachesKill l m.handling rest := by
  refine not_reaches_of_blocked ?_ ?_ ?_ (handling_blocked m rest)
  · rintro a (rfl | rfl) <;> decide
  · rintro a (rfl | rfl)
    · exact Or.inl (Or.inr rfl)
    · have hblocked := handling_blocked .assert []
      rw [List.append_nil] at hblocked
      rwa [Action.expand, if_neg hfree]
  · intro a _ hplain b hb
    cases a <;> simp_all [Action.expand]

/-- With the lock, dumping the call stack comes to an end. -/
lemma dump_reachesKill {l : GlobalLock} (hheld : l.globalLockAcquired = 1) (rest : List Action) :
    Reaches (Action.expand l) (· = .killState) (.driverDumpStack :: .killState :: rest) := by
  rw [reaches_cons _ _ (by decide)]
  have hkill : Reaches (Action.expand l) (· = .killState) (.killState :: rest) :=
    reaches_of_halts _ _ rfl
  refine hkill.prepend _ _ (Action.expand l .driverDumpStack) ?_
  intro a ha
  simp only [Action.expand, List.mem_cons, List.not_mem_nil, or_false] at ha
  rcases ha with rfl | rfl
  · exact ⟨by decide, by rw [Action.expand, if_pos hheld]⟩
  · exact ⟨by decide, rfl⟩

/-- **When a failed assertion ends the path.**  The handling reaches its `s2e_kill_state` iff the
global lock is held where the assertion stands. -/
theorem assertion_reaches_kill_iff (f : Framework) (m : AssertMacro) (rest : List Action) :
    ReachesKill f.lock m.handling rest ↔ f.lock.globalLockAcquired = 1 := by
  constructor
  · intro hkill
    by_contra hfree
    exact not_reachesKill hfree m rest hkill
  · intro hheld
    have hdump := dump_reachesKill hheld rest
    cases m with
    | assert | tfassertDetail =>
        refine hdump.prepend _ _
          [.objsEnumPrint, .objsEnumPrintNew, .printMessage, .dumpStack] ?_
        intro a ha
        simp only [List.mem_cons, List.not_mem_nil, or_false] at ha
        rcases ha with rfl | rfl | rfl | rfl <;> exact ⟨by decide, rfl⟩
    | tfassertNoDetail =>
        refine hdump.prepend _ _ [.printMessage] ?_
        intro a ha
        rw [List.mem_singleton.mp ha]
        exact ⟨by decide, rfl⟩

/-- **The assertion of `release_global_lock`** fails exactly when the lock is not held, and then its
handling asserts the lock again, without end. -/
theorem release_failure_never_killed :
    (releaseGlobalLock ⟨0⟩ =
      .error (.assertion .releaseGlobalLock "Global lock released but not acquired.")) ∧
    ¬ ReachesKill ⟨0⟩ AssertMacro.assert.handling [] :=
  ⟨rfl, not_reachesKill (by decide) .assert []⟩

end SymDrive

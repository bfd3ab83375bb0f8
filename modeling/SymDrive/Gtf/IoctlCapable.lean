import SymDrive.Gtf.DriverState

/-!
# The privilege check of an ioctl

The end of `test_state.c`: the check of `capable` remembers the capability that was asked for and
the answer, and the checks of the two kinds of ioctl look there whether a privileged command was
guarded.

The check before the call sets the state to `NOT_CALLED`, the one after it wants to record the
answer, and `set_call_state` accepts an answer only for a call that is in progress.  So every call
of `capable` ends the path, and an ioctl is judged rightly exactly if it makes none
(`ioctl_capable_iff`).
-/

namespace SymDrive

open Checked

/-! ## The code -/

/-- The two static variables. -/
structure CapableState where
  ioctlCapableParam : ℤ
  ioctlCapableRetval : CallState
  deriving DecidableEq

/-- The static variables and the lock. -/
structure CapableRun where
  lock : GlobalLock
  capable : CapableState

def CapableRun.initial : CapableRun where
  lock := ⟨0⟩
  capable := { ioctlCapableParam := 0, ioctlCapableRetval := .notCalled }

/-- `CAP_NET_ADMIN` of the kernel headers. -/
def capNetAdmin : ℤ := 12

/-- `ioctl_req_cmd` and `ioctl_req_capable_param`: `SIOCGMIIREG`, `SIOCSMIIREG`,
`SIOCDEVPRIVATE + 2` and `SIOCSIFADDR`. -/
def ioctlReqCmd : List (ULong × ℤ) :=
  [(0x8948, capNetAdmin), (0x8949, capNetAdmin), (0x89F0 + 2, capNetAdmin), (0x8916, capNetAdmin)]

def capableGivenCmd (cmd : ULong) : ℤ :=
  match ioctlReqCmd.find? fun req => decide (cmd = req.1) with
  | some req => req.2
  | none => -1

/-- `-EPERM`. -/
def negEPERM : ℤ := -1

/-- The test for a command that requires the capability `capableParam`. -/
def calledWith (c : CapableState) (capableParam : ℤ) : Except Fault Unit := do
  tfassertDetail .ioctlCalledCapable
    (c.ioctlCapableRetval = .calledOk ∨ c.ioctlCapableRetval = .calledFailed)
    "Capable not called\n"
  tfassertDetail .ioctlCalledCapable (c.ioctlCapableParam = capableParam)
    "Capable called with incorrect param\n"

/-- `ioctl_called_capable`. -/
def ioctlCalledCapable (c : CapableState) (prepost retval : ℤ) (cmd : ULong) :
    Except Fault Unit :=
  if prepost = 0 then .ok ()
  else if prepost = 1 then do
    let capableParam := capableGivenCmd cmd
    let _ ← (if capableParam ≠ -1 then calledWith c capableParam else .ok ())
    if c.ioctlCapableRetval = .calledFailed then
      tfassert .ioctlCalledCapable (retval = negEPERM)
    else .ok ()
  else .error (.assertion .ioctlCalledCapable "")

/-- `call_capable`. -/
def callCapable (c : CapableState) (prepost : ℤ) (retval : Bool) (capability : ℤ) :
    Except Fault CapableState :=
  if prepost = 0 then do
    let state ← setCallState c.ioctlCapableRetval .notCalled
    .ok { ioctlCapableParam := 0, ioctlCapableRetval := state }
  else if prepost = 1 then do
    let state ← setCallState c.ioctlCapableRetval (if retval then .calledOk else .calledFailed)
    .ok { ioctlCapableParam := capability, ioctlCapableRetval := state }
  else .error (.assertion .callCapable "")

/-- `check_routine_start`, the body, `check_routine_end`. -/
def CapableRun.checkRoutine (s : CapableRun) (body : CapableState → Except Fault CapableState) :
    Except Fault CapableRun :=
  (lockedRoutine s.lock (body s.capable)).map fun r => { lock := r.1, capable := r.2 }

def capableMJRcheck (s : CapableRun) (prepost : ℤ) (retval : Bool) (cap : ℤ) :
    Except Fault CapableRun :=
  s.checkRoutine fun c => callCapable c prepost retval cap

/-- The common body of the two checks. -/
def ioctlCheck (check : Check) (s : CapableRun) (prepost retval : ℤ) (cmd : ULong) :
    Except Fault CapableRun :=
  s.checkRoutine fun c =>
    if prepost = 0 then .ok c
    else if prepost = 1 then do
      ioctlCalledCapable c prepost retval cmd
      .ok c
    else .error (.assertion (.check check) "")

def netDeviceOpsNdoDoIoctlMJRcheck (s : CapableRun) (prepost retval : ℤ) (cmd : ULong) :
    Except Fault CapableRun :=
  ioctlCheck .ndoDoIoctl s prepost retval cmd

/-- The addresses of `retval` and `cmd`, which are tested here, are those of variables. -/
def protoOpsIoctlMJRcheck (s : CapableRun) (prepost retval : ℤ) (cmd : ULong) :
    Except Fault CapableRun :=
  ioctlCheck .protoOpsIoctl s prepost retval cmd

/-! ## Sequences of ioctls -/

/-- The function of the driver that is entered. -/
inductive IoctlEntry where
  | ndoDoIoctl
  | protoOpsIoctl
  deriving DecidableEq, Repr

def IoctlEntry.check (entry : IoctlEntry) (s : CapableRun) (prepost retval : ℤ) (cmd : ULong) :
    Except Fault CapableRun :=
  match entry with
  | ndoDoIoctl => netDeviceOpsNdoDoIoctlMJRcheck s prepost retval cmd
  | protoOpsIoctl => protoOpsIoctlMJRcheck s prepost retval cmd

/-- A call of `capable` and its answer. -/
structure CapableCall where
  cap : ℤ
  retval : Bool
  deriving DecidableEq

/-- An entry of an ioctl, the calls of `capable` it makes, and what it returns. -/
structure Ioctl where
  entry : IoctlEntry
  cmd : ULong
  capables : List CapableCall
  retval : ℤ
  deriving DecidableEq

/-- The two checks around the call. -/
def CapableCall.exec (s : CapableRun) (call : CapableCall) : Except Fault CapableRun := do
  let s ← capableMJRcheck s 0 call.retval call.cap
  capableMJRcheck s 1 call.retval call.cap

namespace Ioctl

/-- The check before the ioctl, and those of its calls of `capable`. -/
def body (s : CapableRun) (io : Ioctl) : Except Fault CapableRun := do
  let s ← io.entry.check s 0 io.retval io.cmd
  io.capables.foldlM CapableCall.exec s

def exec (s : CapableRun) (io : Ioctl) : Except Fault CapableRun := do
  let s ← io.body s
  io.entry.check s 1 io.retval io.cmd

/-- Whether the ioctl is accepted, and with which assertion it is refused. -/
def verdict (s : CapableRun) (io : Ioctl) : Except Fault Unit := (io.exec s).map fun _ => ()

/-- **The specification of one ioctl**: its calls of `capable` fire no assertion, and it is judged
by them alone. -/
structure JudgedByItsCalls (s : CapableRun) (io : Ioctl) : Prop where
  calls : ∃ s', io.body s = .ok s'
  own : io.verdict s = io.verdict .initial
  accepted : io.verdict s = .ok () → capableGivenCmd io.cmd ≠ -1 →
    ∃ call ∈ io.capables, call.cap = capableGivenCmd io.cmd
  denied : io.verdict s = .error (.assertion .ioctlCalledCapable "") →
    ∃ call ∈ io.capables, call.retval = false

end Ioctl

/-! ## Every call of `capable` ends the path -/

lemma CapableRun.checkRoutine_initial (body : CapableState → Except Fault CapableState) :
    CapableRun.initial.checkRoutine body =
      (body CapableRun.initial.capable).map fun c => { lock := ⟨0⟩, capable := c } := by
  have hfree := lockedRoutine_free (body CapableRun.initial.capable)
  rw [checkRoutine]
  show (lockedRoutine ⟨0⟩ _).map _ = _
  rw [hfree]
  cases body CapableRun.initial.capable <;> rfl

lemma CapableCall.exec_initial (call : CapableCall) :
    call.exec .initial = .error (.assertion .setCallState "failed2") := by
  rcases call with ⟨cap, retval⟩
  cases retval <;> rfl

lemma IoctlEntry.check_pre (entry : IoctlEntry) (retval : ℤ) (cmd : ULong) :
    entry.check .initial 0 retval cmd = .ok .initial := by
  cases entry <;> rfl

/-- What the check after an ioctl finds if `capable` was never called. -/
lemma ioctlCalledCapable_initial (retval : ℤ) (cmd : ULong) :
    ioctlCalledCapable CapableRun.initial.capable 1 retval cmd =
      if capableGivenCmd cmd ≠ -1 then
        .error (.assertion .ioctlCalledCapable "Capable not called\n") else .ok () := by
  have hstate : CapableRun.initial.capable.ioctlCapableRetval ≠ .calledFailed := by decide
  unfold ioctlCalledCapable
  rw [if_neg (by decide), if_pos rfl]
  dsimp only
  by_cases hcmd : capableGivenCmd cmd = -1
  · rw [if_neg (not_not.mpr hcmd), if_neg (not_not.mpr hcmd), ok_bind, if_neg hstate]
  · rw [if_pos hcmd, if_pos hcmd]
    rfl

lemma IoctlEntry.check_post (entry : IoctlEntry) (retval : ℤ) (cmd : ULong) :
    entry.check .initial 1 retval cmd =
      (ioctlCalledCapable CapableRun.initial.capable 1 retval cmd).map fun _ =>
        CapableRun.initial := by
  have hcheck : ∀ check, ioctlCheck check .initial 1 retval cmd =
      (ioctlCalledCapable CapableRun.initial.capable 1 retval cmd).map fun _ =>
        CapableRun.initial := by
    intro check
    rw [ioctlCheck, CapableRun.checkRoutine_initial, if_neg (by decide), if_pos rfl]
    cases ioctlCalledCapable CapableRun.initial.capable 1 retval cmd <;> rfl
  cases entry with
  | ndoDoIoctl => exact hcheck .ndoDoIoctl
  | protoOpsIoctl => exact hcheck .protoOpsIoctl

namespace Ioctl

lemma body_initial (io : Ioctl) :
    io.body .initial = io.capables.foldlM CapableCall.exec .initial := by
  rw [body, io.entry.check_pre, ok_bind]

/-- The checks of the calls go through only if there are none. -/
lemma body_ok_iff (io : Ioctl) : (∃ s', io.body .initial = .ok s') ↔ io.capables = [] := by
  rw [body_initial]
  cases io.capables with
  | nil => exact ⟨fun _ => rfl, fun _ => ⟨_, rfl⟩⟩
  | cons call rest =>
      constructor
      · rintro ⟨s', h⟩
        rw [List.foldlM_cons, call.exec_initial] at h
        cases h
      · intro h
        cases h

lemma exec_initial {io : Ioctl} (h : io.capables = []) :
    io.exec .initial = if capableGivenCmd io.cmd ≠ -1 then
      .error (.assertion .ioctlCalledCapable "Capable not called\n") else .ok .initial := by
  rw [exec, body_initial, h]
  show io.entry.check .initial 1 io.retval io.cmd = _
  rw [io.entry.check_post, ioctlCalledCapable_initial]
  split_ifs <;> rfl

/-- An ioctl that goes through leaves the variables as they were. -/
lemma exec_ok {io : Ioctl} {s' : CapableRun} (h : io.exec .initial = .ok s') : s' = .initial := by
  obtain ⟨s₁, hbody, _⟩ := bind_eq_ok.mp h
  rw [exec_initial (io.body_ok_iff.mp ⟨s₁, hbody⟩)] at h
  split_ifs at h
  cases h
  rfl

/-- An ioctl is judged by its calls exactly if it makes none. -/
lemma judged_iff (io : Ioctl) : io.JudgedByItsCalls .initial ↔ io.capables = [] := by
  constructor
  · intro h
    exact io.body_ok_iff.mp h.calls
  · intro h
    have hverdict : io.verdict .initial = if capableGivenCmd io.cmd ≠ -1 then
        .error (.assertion .ioctlCalledCapable "Capable not called\n") else .ok () := by
      rw [verdict, exec_initial h]
      split_ifs <;> rfl
    refine ⟨io.body_ok_iff.mpr h, rfl, fun haccepted hcmd => ?_, fun hdenied => ?_⟩
    · rw [hverdict, if_pos hcmd] at haccepted
      cases haccepted
    · rw [hverdict] at hdenied
      split_ifs at hdenied
      simp at hdenied

end Ioctl

/-! ## The specification -/

/-- No ioctl up to the first one with a privileged command calls `capable`. -/
def WithoutCapable : List Ioctl → Prop
  | [] => True
  | io :: rest => io.capables = [] ∧ (capableGivenCmd io.cmd = -1 → WithoutCapable rest)

/-- An ioctl that calls `capable` is never entered. -/
lemma throughout_without_capable :
    ∀ ioctls : List Ioctl,
      Throughout Ioctl.exec (fun _ io => io.capables = []) .initial ioctls ↔ WithoutCapable ioctls
  | [] => Iff.rfl
  | io :: rest => by
      rw [Throughout, WithoutCapable]
      refine and_congr_right fun hnone => ?_
      rw [Ioctl.exec_initial hnone]
      by_cases hcmd : capableGivenCmd io.cmd = -1
      · rw [if_neg (not_not.mpr hcmd)]
        exact (throughout_without_capable rest).trans ⟨fun h _ => h, fun h => h hcmd⟩
      · rw [if_pos hcmd]
        exact ⟨fun _ h => absurd h hcmd, fun _ => trivial⟩

/-- **An ioctl is judged by its own calls of `capable` exactly if it makes none**: every ioctl of a
run is judged so if and only if no ioctl up to the first one with a privileged command, which ends
the run then, calls `capable`. -/
theorem ioctl_capable_iff (ioctls : List Ioctl) :
    Throughout Ioctl.exec (fun s io => io.JudgedByItsCalls s) .initial ioctls ↔
      WithoutCapable ioctls := by
  refine Iff.trans ?_ (throughout_without_capable ioctls)
  refine Throughout.iff_of_invariant (fun s => s = .initial) (L := fun _ _ => True) ?_ ?_ ioctls rfl
    ?_
  · rintro s io s' rfl _ _ h
    exact Ioctl.exec_ok h
  · rintro s io rfl _
    exact io.judged_iff
  · exact .of_forall (fun _ _ => trivial) ioctls _

/-- A driver that asks for the capability before it serves a privileged command. -/
def guardedIoctl : Ioctl where
  entry := .ndoDoIoctl
  cmd := 0x8948
  capables := [⟨capNetAdmin, true⟩]
  retval := 0

theorem guarded_ioctl_asserts :
    ¬ Throughout Ioctl.exec (fun s io => io.JudgedByItsCalls s) .initial [guardedIoctl] := by
  rintro ⟨h, _⟩
  obtain ⟨s', hs'⟩ := h.calls
  cases hs'

end SymDrive

import SymDrive.Gtf.Framework

/-!
# Entries and exits of the driver

`enter_exit.c`: the code that generated wrappers run when control passes between the kernel and the
driver, and when a kernel return value is replaced by a symbolic one.

What the hypervisor decides is an argument: whether a value is symbolic, and which value the path
continues with after `s2e_make_symbolic`.  `s2e_kill_state` ends the path; `s2e_concretize_kill`
and the calls that set priorities return.  The interrupt handlers that an entry or an exit runs are
generated wrappers, whose entries and exits are events of the run by themselves.
-/

namespace SymDrive

open Checked

inductive WrapperType where
  | stubWrapper
  | prepostFn
  deriving DecidableEq, Repr

/-- The value of the enumeration, which a text prints. -/
def WrapperType.number : WrapperType → ℕ
  | stubWrapper => 0
  | prepostFn => 1

inductive Direction where
  | entrance
  | exit
  deriving DecidableEq, Repr

/-! ## The call stack -/

def pushDriverCallStack (d : EnterExit) (fn : String) : EnterExit :=
  { d with driverCallStackStr := Function.update d.driverCallStackStr d.driverCallStack (some fn) }

/-- Remove slot `i` and shift back what stands above it. -/
def shiftBack (str : ℤ → Option String) (i : ℤ) : ℤ → Option String := fun j =>
  if j < i then str j
  else if j < driverCallStackMax - 1 then str (j + 1)
  else if j = driverCallStackMax - 1 then none
  else str j

/-- `pop_driver_call_stack` looks for the name from the top of the array. -/
def popDriverCallStack (d : EnterExit) (fn : String) : Except Fault EnterExit :=
  match (List.range driverCallStackMax.toNat).reverse.find?
      fun (i : ℕ) => d.driverCallStackStr i == some fn with
  | some i => .ok { d with driverCallStackStr := shiftBack d.driverCallStackStr i }
  | none => .error (.assertion .popDriverCallStack s!"pop_driver_call_stack: fn {fn} not found")

/-- `manage_call_stack`.  A call of a kernel function counts like a driver function, so a stub adds
with the opposite sign.  The call stack is dumped at the end, under the global lock. -/
def manageCallStack (l : GlobalLock) (d : EnterExit) (fn : String) (add : ℤ)
    (wrapperType : WrapperType) : Except Fault EnterExit := do
  tfassertDetail .manageCallStack (add = -1 ∨ add = 1)
    s!"Inconsistent add/wrapper_type: {add} {wrapperType.number}\n"
  tfassertDetail .manageCallStack
    (d.driverCallStack ≥ 0 ∧ d.driverCallStack < driverCallStackMax)
    s!"driver_call_stack = {d.driverCallStack}\n"
  let opens : Bool := match wrapperType with
    | .stubWrapper => decide (add < 0)
    | .prepostFn => decide (add > 0)
  let d := if opens then pushDriverCallStack d fn else d
  let d := match wrapperType with
    | .stubWrapper => { d with driverCallStack := d.driverCallStack - add }
    | .prepostFn => { d with driverCallStack := d.driverCallStack + add }
  let d ← (if opens then .ok d else popDriverCallStack d fn)
  tfassertDetail .manageCallStack
    (d.driverCallStack ≥ 0 ∧ d.driverCallStack < driverCallStackMax)
    s!"driver_call_stack = {d.driverCallStack}\n"
  assertGlobalLock l
  .ok d

def verifyInvariants (l : GlobalLock) (d : EnterExit) (fn : String) (add : ℤ)
    (wrapperType : WrapperType) : Except Fault EnterExit := do
  let d ← manageCallStack l d fn add wrapperType
  tfassertDetail .verifyInvariants (¬ d.driverCallStack < 0)
    s!"driver_call_stack: {fn}, {d.driverCallStack} - error 3\n"
  tfassertDetail .verifyInvariants (¬ d.driverCallStack ≥ driverCallStackMax - 1)
    s!"driver_call_stack: {fn}, {d.driverCallStack} - error 4\n"
  .ok d

/-! ## Return values -/

/-- `verify_symretval`: a bad path must not return to the kernel. -/
def verifySymretval (d : EnterExit) : Except Fault EnterExit :=
  if d.badPath ≠ 0 then .error (.killState "Bad path returning to kernel")
  else if d.driverCallStack ≥ 1 then .ok d
  else if d.gSymRetval = 1 then
    .error (.killState "Good path returning to kernel - reducing state explosion")
  else if d.gSymRetval = 2 then .ok d
  else .error (.assertion .verifySymretval s!"Expected g_sym_retval not to be {d.gSymRetval}\n")

def verifyRetval (d : EnterExit) (wrapperType : WrapperType) (dir : Direction)
    (retvalValid : ℤ) (retval : ULong) : Except Fault EnterExit := do
  tfassert .verifyRetval (d.driverCallStack = 0)
  if wrapperType = .prepostFn ∧ dir = .exit then
    if retvalValid ≠ 0 then
      -- An annotation turns the return value into a success, once.
      let retval := if d.gSymdriveAnnotations = 0 then retval else 0
      let d := { d with gSymdriveAnnotations := 0 }
      if isErr retval then
        .error (.killState "Test complete:  failure detected on this path.")
      else if d.gSymRetval = 0 then .ok d
      else if d.gSymRetval = 1 ∨ d.gSymRetval = 2 then verifySymretval d
      else .error (.assertion .verifyRetval s!"g_sym_retval should not be {d.gSymRetval}\n")
    else .ok d
  else .ok d

def handleMaxCoverage (d : EnterExit) (fn : String) (retvalValid : ℤ) (retval : ULong)
    (direction : Direction) : Except Fault EnterExit :=
  if fn ≠ d.gSymStartingFn then .ok d
  else match direction with
    | .entrance => .ok { d with gSymRetval := 1 }
    | .exit =>
        if retvalValid ≠ 0 ∧ isErr retval then
          .error (.killState s!"Terminating failed thorough coverage fn path ({fn})...")
        else .error (.killState s!"Terminating successful thorough coverage fn path (line {fn})...")

/-! ## What generated code calls -/

/-- What follows the registration of the first entry. -/
def genEnterDriver (f : Framework) (fn : String) (wrapperType : WrapperType) (retvalValid : ℤ)
    (retval : ULong) : Except Fault Framework :=
  f.locked fun f => do
    let d := f.driver
    let d ← (if d.driverCallStack = 0 then
      verifyRetval d wrapperType .entrance retvalValid retval else .ok d)
    let d ← verifyInvariants f.lock d fn 1 wrapperType
    let d ← handleMaxCoverage d fn retvalValid retval .entrance
    .ok { f with driver := d }

/-- `symbolic` is what `s2e_is_symbolic_symdrive` says of the return value. -/
def genExitDriver (f : Framework) (fn : String) (wrapperType : WrapperType) (retvalValid : ℤ)
    (retval : ULong) (symbolic : Bool) : Except Fault Framework :=
  f.locked fun f => do
    let d ← handleMaxCoverage f.driver fn retvalValid retval .exit
    let allowed := retvalValid ≠ 0 ∧ symbolic = false ∧ d.gSymdriveAnnotations ≠ 0
    let retval := if allowed then 0 else retval
    let d := if allowed then { d with gSymdriveAnnotations := 0 } else d
    let d ← verifyInvariants f.lock d fn (-1) wrapperType
    if d.driverCallStack = 0 then do
      let d ← verifyRetval d wrapperType .exit retvalValid retval
      .ok { f with driver := d, test := resetNewObjects f.test }
    else .ok { f with driver := d }

/-- The path continues with `value` in place of the pointer the kernel returned. -/
def genMakeSymbolicPtr (f : Framework) (origRetval value : ULong) : Except Fault Framework :=
  if f.driver.gSymRetval = 0 then .ok f
  else f.locked fun f =>
    if value = origRetval then .ok f
    else if value = 0 then .ok { f with driver := { f.driver with badPath := 1 } }
    else .error (.killState "gen_make_symbolic_ptr:  extra path\n")

/-- `IS_ERR_VALUE` of an unsigned integer of any size, widened. -/
def isErrValue (x : ℕ) : Bool := decide (x ≥ 2 ^ 32 - 4095)

/-- The path continues with `value` in place of the integer the kernel returned; both are read as
unsigned integers of the given size. -/
def genMakeSymbolicInt (f : Framework) (size : ℕ) (origRetval value : ℕ) :
    Except Fault Framework :=
  if f.driver.gSymRetval = 0 then .ok f
  else f.locked fun f => do
    tfassertDetail .genMakeSymbolicInt (size = 1 ∨ size = 2 ∨ size = 4 ∨ size = 8)
      s!"Invalid size specified in gen_make_symbolic_int.  Size {size}"
    let origRetval := origRetval % 2 ^ (8 * size)
    let value := value % 2 ^ (8 * size)
    if value = origRetval then .ok f
    else if isErrValue value then .ok { f with driver := { f.driver with badPath := 1 } }
    else .error (.killState "gen_make_symbolic_int:  extra path\n")

/-- `symdrive_annotation`, which the driver's author may add by hand. -/
def symdriveAnnotation (f : Framework) (flags : ℤ) : Framework :=
  { f with driver := { f.driver with gSymdriveAnnotations := flags } }

end SymDrive

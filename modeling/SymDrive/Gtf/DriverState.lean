import Mathlib.Algebra.Ring.Int.Defs
import SymDrive.Gtf.Framework

/-!
# The records of the driver under test

`test_state.h` and `test_state.c`: what the check routines remember of the driver's calls — the
buses it registered on, whether the PCI device is enabled, the calls of the network layer — and of
the context the kernel entered it in.

A check routine holds the global lock for its whole body, which never touches the lock itself, so
a body is a function on `Records` and `checkRoutine` puts the lock around it.
-/

namespace SymDrive

open Checked

/-! ## The data -/

/-- `enum symdrive_call_state`. -/
inductive CallState where
  | notCalled
  | inProgress
  | calledOk
  | calledFailed
  deriving DecidableEq, Repr

/-- `enum symdrive_device_state`. -/
inductive DeviceState where
  | undefined
  | disabled
  | enabled
  deriving DecidableEq, Repr

/-- `enum symdrive_user_context`. -/
inductive UserContext where
  | undefined
  | yes
  | no
  deriving DecidableEq, Repr

/-- `enum symdrive_driver_bus_type`.  No routine passes `DRIVER_UNKNOWN_BUS`, the empty set. -/
inductive DriverBus where
  | pci
  | usb
  | misc
  | protoOps
  | i2c
  | platform
  | spi
  deriving DecidableEq, Repr

/-- The buses in the order of their bits. -/
def DriverBus.all : List DriverBus := [.pci, .usb, .misc, .protoOps, .i2c, .platform, .spi]

/-- The field of the bus record that the failed assertions name. -/
def DriverBus.name : DriverBus → String
  | pci => "DRIVER_PCI"
  | usb => "DRIVER_USB"
  | misc => "DRIVER_MISC"
  | protoOps => "DRIVER_PROTO_OPS"
  | i2c => "DRIVER_I2C"
  | platform => "DRIVER_PLATFORM"
  | spi => "DRIVER_SPI"

/-- `enum symdrive_driver_class_type`. -/
inductive DriverClass where
  | unknown
  | net
  | snd
  deriving DecidableEq, Repr

/-- The value of the enumeration, which a text prints. -/
def DriverClass.number : DriverClass → ℕ
  | unknown => 0
  | net => 1
  | snd => 2

/-- `struct pci_driver_state_struct` and its six siblings.  `bus` is the field that carries the name
of the bus; the PCI struct has one field more, which is kept apart. -/
structure BusState where
  bus : ℤ
  registered : CallState
  unregistered : CallState
  probed : CallState
  deriving DecidableEq

/-- `struct ndo_driver_state_struct`, the fields the modelled routines use. -/
structure NdoState where
  net : ℤ
  opened : CallState
  registerNetdev : CallState
  unregisterNetdev : CallState
  deriving DecidableEq

/-- `MAX_IRQS`. -/
def maxIrqs : ℕ := 16

/-- `struct irq_struct`.  `number` is an `int` that is only compared with an `unsigned int`. -/
structure IrqStruct where
  allocated : ℤ
  number : ULong
  handler : ULong
  parameter : ULong
  flags : ULong
  name : String
  enabled : ℤ
  deriving DecidableEq

/-- The variables of `irq.c`.  `sym_irq_lines` is allocated at start-up and only its address is
tested, so it is left out. -/
structure IrqState where
  symIrq : ℕ → IrqStruct
  symNumRequests : ℤ
  symIrqOngoing : ℤ

/-- Everything a check routine reads and writes while it holds the lock. -/
structure Records where
  test : GlobalState
  userContext : ℕ → UserContext
  userContextCurrent : ℕ
  buses : DriverBus → BusState
  pciEnabled : DeviceState
  ndo : NdoState
  sound : ℤ
  irq : IrqState

/-- The records and the lock that guards them. -/
structure CheckState where
  lock : GlobalLock
  records : Records

/-! ## Routines under the lock -/

/-- `check_routine_start`, the body, `check_routine_end`. -/
def checkRoutine (s : CheckState) (body : Records → Except Fault Records) :
    Except Fault CheckState := do
  let lock ← acquireGlobalLock s.lock
  let records ← body s.records
  let lock ← releaseGlobalLock lock
  .ok { lock := lock, records := records }

/-- A body that treats any other `prepost` as a mistake. -/
def prepostBody (check : Check) (prepost : ℤ) (pre post : Records → Except Fault Records)
    (r : Records) : Except Fault Records :=
  if prepost = 0 then pre r
  else if prepost = 1 then post r
  else .error (.assertion (.check check) "")

/-- The state between two routines: the lock is free. -/
def CheckState.free (r : Records) : CheckState := { lock := ⟨0⟩, records := r }

@[simp] lemma CheckState.free_records (r : Records) : (CheckState.free r).records = r := rfl

lemma CheckState.exists_free {s : CheckState} (h : s.lock = ⟨0⟩) : ∃ r, s = .free r := by
  rcases s with ⟨lock, records⟩
  obtain rfl : lock = ⟨0⟩ := h
  exact ⟨records, rfl⟩

/-- Where the lock is free, the body decides what happens, and the lock is free again. -/
lemma checkRoutine_free (r : Records) (body : Records → Except Fault Records) :
    checkRoutine (.free r) body = (body r).map CheckState.free := by
  have hacq : acquireGlobalLock (CheckState.free r).lock = .ok ⟨1⟩ :=
    acquireGlobalLock_eq_ok.mpr ⟨rfl, rfl⟩
  have hrel : releaseGlobalLock ⟨1⟩ = .ok ⟨0⟩ := releaseGlobalLock_eq_ok.mpr ⟨rfl, rfl⟩
  rw [checkRoutine, hacq, ok_bind]
  show (body r >>= _) = _
  cases body r with
  | error e => rfl
  | ok r' => rw [ok_bind, hrel]; rfl

/-- The two checks around a call, on a free lock. -/
lemma checkRoutine_pair (r : Records) (pre post : Records → Except Fault Records) :
    (checkRoutine (.free r) pre >>= fun s => checkRoutine s post) =
      (pre r >>= post).map CheckState.free := by
  rw [checkRoutine_free]
  cases pre r with
  | error e => rfl
  | ok r' => exact checkRoutine_free r' post

@[simp] lemma prepostBody_zero (check : Check) (pre post : Records → Except Fault Records) :
    prepostBody check 0 pre post = pre :=
  funext fun _ => if_pos rfl

@[simp] lemma prepostBody_one (check : Check) (pre post : Records → Except Fault Records) :
    prepostBody check 1 pre post = post := by
  funext r
  rw [prepostBody, if_neg (by decide), if_pos rfl]

/-! ## Call states and device states -/

/-- `set_call_state`. -/
def setCallState (state newState : CallState) : Except Fault CallState := do
  if newState = .inProgress then
    tfassertDetail .setCallState
      (state = .notCalled ∨ state = .calledOk ∨ state = .calledFailed) "failed1"
  if newState = .calledOk ∨ newState = .calledFailed then
    tfassertDetail .setCallState (state = .inProgress) "failed2"
  .ok newState

/-- A call starts when none is in progress and ends when one is; `NOT_CALLED` can always be set. -/
def CallState.Allows (state newState : CallState) : Prop :=
  match newState with
  | .notCalled => True
  | .inProgress => state ≠ .inProgress
  | .calledOk | .calledFailed => state = .inProgress

instance (state newState : CallState) : Decidable (state.Allows newState) := by
  unfold CallState.Allows; cases newState <;> infer_instance

lemma setCallState_of_allows {state newState : CallState} (h : state.Allows newState) :
    setCallState state newState = .ok newState := by
  cases newState <;> cases state <;> first | rfl | exact absurd h (by decide)

/-- `set_device_state`. -/
def setDeviceState (curState newState : DeviceState) : Except Fault DeviceState :=
  match curState with
  | .undefined => .ok newState
  | .disabled => do
      tfassertDetail .setDeviceState (newState = .enabled) "Device enabled/disabled incorrectly"
      .ok newState
  | .enabled => do
      tfassertDetail .setDeviceState (newState = .disabled) "Device enabled/disabled incorrectly"
      .ok newState

/-! ## Buses and classes -/

/-- `get_driver_bus`.  The result is a set of bits, one for each bus. -/
def getDriverBus (r : Records) : Except Fault (DriverBus → Bool) := do
  let total := (DriverBus.all.map fun b => (r.buses b).bus).sum
  tfassertDetail .getDriverBus (total ≥ 0) s!"Total: {total} is a bug\n"
  .ok fun b => decide ((r.buses b).bus ≠ 0)

def Records.setBus (r : Records) (b : DriverBus) (state : BusState) : Records :=
  { r with buses := Function.update r.buses b state }

/-- An operation on the record of one bus. -/
def Records.onBus (r : Records) (b : DriverBus) (f : BusState → Except Fault BusState) :
    Except Fault Records :=
  (f (r.buses b)).map (r.setBus b)

/-- `set_driver_bus`. -/
def setDriverBus (b : DriverBus) (state : BusState) : Except Fault BusState := do
  tfassertDetail .setDriverBus (state.bus = 0) s!"{b.name} already defined"
  .ok { state with bus := 1 }

/-- `remove_driver_bus`. -/
def removeDriverBus (b : DriverBus) (state : BusState) : Except Fault BusState := do
  tfassertDetail .removeDriverBus (state.bus = 1) s!"{b.name} not defined"
  .ok { state with bus := 0 }

/-- `set_call_state` on the `registered` field of a bus. -/
def setRegistered (newState : CallState) (state : BusState) : Except Fault BusState := do
  let registered ← setCallState state.registered newState
  .ok { state with registered := registered }

/-- `set_call_state` on the `unregistered` field of a bus. -/
def setUnregistered (newState : CallState) (state : BusState) : Except Fault BusState := do
  let unregistered ← setCallState state.unregistered newState
  .ok { state with unregistered := unregistered }

/-- `set_call_state` on the `probed` field of a bus. -/
def setProbed (newState : CallState) (state : BusState) : Except Fault BusState := do
  let probed ← setCallState state.probed newState
  .ok { state with probed := probed }

/-- `get_driver_class`. -/
def getDriverClass (r : Records) : Except Fault DriverClass := do
  let total := r.ndo.net + r.sound
  tfassertDetail .getDriverClass (total = 0 ∨ total = 1)
    s!"Total: {total} means multiple driver classes are defined\n"
  if r.ndo.net ≠ 0 then .ok .net
  else if r.sound ≠ 0 then .ok .snd
  else .ok .unknown

/-- `set_driver_class`. -/
def setDriverClass (r : Records) (type : DriverClass) : Except Fault Records := do
  let existingClass ← getDriverClass r
  tfassertDetail .setDriverClass (existingClass = .unknown)
    s!"Known class {existingClass.number}\n"
  .ok { r with ndo := { r.ndo with net := if type = .net then 1 else 0 },
               sound := if type = .snd then 1 else 0 }

/-! ## Start-up -/

def BusState.initial : BusState where
  bus := 0
  registered := .notCalled
  unregistered := .notCalled
  probed := .notCalled

def NdoState.initial : NdoState where
  net := 0
  opened := .notCalled
  registerNetdev := .notCalled
  unregisterNetdev := .notCalled

/-- What `reset_one` leaves in a slot. -/
def IrqStruct.initial : IrqStruct where
  allocated := 0
  number := 0
  handler := 0
  parameter := 0
  flags := 0
  name := ""
  enabled := 0

/-- `reset_state` of `irq.c`. -/
def IrqState.initial : IrqState where
  symIrq := fun _ => .initial
  symNumRequests := 0
  symIrqOngoing := 0

/-- `initialize_driver_state` and `initialize_irqs`. -/
def Records.initial : Records where
  test := initializeDriverState
  userContext := fun _ => .undefined
  userContextCurrent := 0
  buses := fun _ => .initial
  pciEnabled := .undefined
  ndo := .initial
  sound := 0
  irq := .initial

end SymDrive

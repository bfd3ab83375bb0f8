import Mathlib.Algebra.Order.BigOperators.Group.List
import SymDrive.Gtf.DriverState

/-!
# Registering on a bus

The checks of the functions that register and unregister a driver on its bus: `misc_checks/pci.c`,
`i2c.c`, `platform.c`, `spi.c` and `main.c`.  Each keeps two records of the registration, the bus in
`get_driver_bus` and the call state `registered`.

The two records are not kept alike.  Four registrations enter the bus before the call and leave it
there when the call fails; the other three enter it after the call, but their counterparts never
reset `registered`.  So the records agree with each other and with the registration exactly along
the runs that avoid both (`bus_registration_consistent_iff`).

`ep_init_pci_driver` and `ep_init_i2c_driver` set up the test of the entry points and are left out.
-/

namespace SymDrive

open Checked

/-! ## The check routines -/

/-- A registration that enters the bus before the call. -/
def registerEarly (check : Check) (b : DriverBus) (s : CheckState) (prepost retval : ℤ) :
    Except Fault CheckState :=
  checkRoutine s <| prepostBody check prepost
    (fun r => r.onBus b fun state => do
      tfassert (.check check) (state.registered = .notCalled)
      let state ← setRegistered .inProgress state
      setDriverBus b state)
    (fun r => r.onBus b fun state =>
      setRegistered (if retval = 0 then .calledOk else .calledFailed) state)

/-- A registration that enters the bus after the call. -/
def registerLate (check : Check) (b : DriverBus) (s : CheckState) (prepost retval : ℤ) :
    Except Fault CheckState :=
  checkRoutine s <| prepostBody check prepost
    (fun r => r.onBus b (setRegistered .inProgress))
    (fun r => r.onBus b fun state =>
      if retval = 0 then do
        let state ← setRegistered .calledOk state
        setDriverBus b state
      else setRegistered .calledFailed state)

/-- An unregistration that is marked in `unregistered`. -/
def unregisterMarked (check : Check) (b : DriverBus) (s : CheckState) (prepost : ℤ) :
    Except Fault CheckState :=
  checkRoutine s <| prepostBody check prepost
    (fun r => r.onBus b fun state => do
      tfassert (.check check) (state.registered = .calledOk)
      setUnregistered .inProgress state)
    (fun r => r.onBus b fun state => do
      let state ← setRegistered .notCalled state
      let state ← setUnregistered .notCalled state
      removeDriverBus b state)

/-- What `usb_deregister_MJRcheck` and `misc_deregister_MJRcheck` do before the call: the
unregistration is marked in `registered`. -/
def deregisterPre (check : Check) (b : DriverBus) (r : Records) : Except Fault Records := do
  let bits ← getDriverBus r
  tfassert (.check check) (bits b = true)
  r.onBus b fun state => do
    tfassert (.check check) (state.registered = .calledOk)
    setRegistered .inProgress state

/-- An unregistration that only leaves the bus. -/
def unregisterBusOnly (check : Check) (b : DriverBus) (s : CheckState) (prepost : ℤ) :
    Except Fault CheckState :=
  checkRoutine s <| prepostBody check prepost .ok fun r => r.onBus b (removeDriverBus b)

/-- `__pci_register_driver_MJRcheck`. -/
def pciRegisterDriverMJRcheck (s : CheckState) (prepost retval : ℤ) : Except Fault CheckState :=
  registerEarly .pciRegisterDriver .pci s prepost retval

def pciUnregisterDriverMJRcheck (s : CheckState) (prepost : ℤ) : Except Fault CheckState :=
  unregisterMarked .pciUnregisterDriver .pci s prepost

def usbRegisterDriverMJRcheck (s : CheckState) (prepost retval : ℤ) : Except Fault CheckState :=
  registerEarly .usbRegisterDriver .usb s prepost retval

def usbDeregisterMJRcheck (s : CheckState) (prepost : ℤ) : Except Fault CheckState :=
  checkRoutine s <| prepostBody .usbDeregister prepost (deregisterPre .usbDeregister .usb)
    (fun r => r.onBus .usb fun state => do
      let state ← setRegistered .notCalled state
      removeDriverBus .usb state)

def miscRegisterMJRcheck (s : CheckState) (prepost retval : ℤ) : Except Fault CheckState :=
  registerEarly .miscRegister .misc s prepost retval

/-- The kernel may refuse; then the unregistration stays marked as in progress. -/
def miscDeregisterMJRcheck (s : CheckState) (prepost retval : ℤ) : Except Fault CheckState :=
  checkRoutine s <| prepostBody .miscDeregister prepost (deregisterPre .miscDeregister .misc)
    (fun r =>
      if retval = 0 then r.onBus .misc fun state => do
        let state ← setRegistered .notCalled state
        removeDriverBus .misc state
      else .ok r)

def protoRegisterMJRcheck (s : CheckState) (prepost retval : ℤ) : Except Fault CheckState :=
  registerEarly .protoRegister .protoOps s prepost retval

def protoUnregisterMJRcheck (s : CheckState) (prepost : ℤ) : Except Fault CheckState :=
  unregisterMarked .protoUnregister .protoOps s prepost

def i2cAddDriverMJRcheck (s : CheckState) (prepost retval : ℤ) : Except Fault CheckState :=
  registerLate .i2cAddDriver .i2c s prepost retval

def i2cDelDriverMJRcheck (s : CheckState) (prepost : ℤ) : Except Fault CheckState :=
  unregisterBusOnly .i2cDelDriver .i2c s prepost

def platformDriverRegisterMJRcheck (s : CheckState) (prepost retval : ℤ) :
    Except Fault CheckState :=
  registerLate .platformDriverRegister .platform s prepost retval

def platformDriverUnregisterMJRcheck (s : CheckState) (prepost : ℤ) : Except Fault CheckState :=
  unregisterBusOnly .platformDriverUnregister .platform s prepost

def spiRegisterDriverMJRcheck (s : CheckState) (prepost retval : ℤ) : Except Fault CheckState :=
  registerLate .spiRegisterDriver .spi s prepost retval

def spiUnregisterDriverMJRcheck (s : CheckState) (prepost : ℤ) : Except Fault CheckState :=
  unregisterBusOnly .spiUnregisterDriver .spi s prepost

/-! ## Runs of hooks -/

/-- The check of the function that registers on a bus. -/
def DriverBus.registerCheck (b : DriverBus) (s : CheckState) (prepost retval : ℤ) :
    Except Fault CheckState :=
  match b with
  | pci => pciRegisterDriverMJRcheck s prepost retval
  | usb => usbRegisterDriverMJRcheck s prepost retval
  | misc => miscRegisterMJRcheck s prepost retval
  | protoOps => protoRegisterMJRcheck s prepost retval
  | i2c => i2cAddDriverMJRcheck s prepost retval
  | platform => platformDriverRegisterMJRcheck s prepost retval
  | spi => spiRegisterDriverMJRcheck s prepost retval

/-- The check of the function that unregisters.  Only `misc_deregister` returns a value. -/
def DriverBus.unregisterCheck (b : DriverBus) (s : CheckState) (prepost retval : ℤ) :
    Except Fault CheckState :=
  match b with
  | pci => pciUnregisterDriverMJRcheck s prepost
  | usb => usbDeregisterMJRcheck s prepost
  | misc => miscDeregisterMJRcheck s prepost retval
  | protoOps => protoUnregisterMJRcheck s prepost
  | i2c => i2cDelDriverMJRcheck s prepost
  | platform => platformDriverUnregisterMJRcheck s prepost
  | spi => spiUnregisterDriverMJRcheck s prepost

/-- One check.  Between the two checks of a call other buses may be registered on: the kernel calls
the driver's `probe`. -/
inductive BusEvent where
  | registerPre (b : DriverBus)
  | registerPost (b : DriverBus) (retval : ℤ)
  | unregisterPre (b : DriverBus)
  | unregisterPost (b : DriverBus) (retval : ℤ)

/-- How far a bus is. -/
inductive BusPhase where
  | idle
  | registering
  | registered
  | unregistering
  deriving DecidableEq, Repr

namespace BusEvent

def exec (s : CheckState) : BusEvent → Except Fault CheckState
  | registerPre b => b.registerCheck s 0 0
  | registerPost b retval => b.registerCheck s 1 retval
  | unregisterPre b => b.unregisterCheck s 0 0
  | unregisterPost b retval => b.unregisterCheck s 1 retval

/-- What the kernel has done: a registration succeeds with 0, an unregistration fails only where it
returns a value. -/
def after (phase : DriverBus → BusPhase) : BusEvent → DriverBus → BusPhase
  | registerPre b => Function.update phase b .registering
  | registerPost b retval => Function.update phase b (if retval = 0 then .registered else .idle)
  | unregisterPre b => Function.update phase b .unregistering
  | unregisterPost b retval =>
      Function.update phase b (if b = .misc ∧ retval ≠ 0 then .registered else .idle)

/-- The driver registers only where it is not registered and unregisters only where it is; the two
checks of a call follow each other. -/
def Legal (phase : DriverBus → BusPhase) : BusEvent → Prop
  | registerPre b => phase b = .idle
  | registerPost b _ => phase b = .registering
  | unregisterPre b => phase b = .registered
  | unregisterPost b _ => phase b = .unregistering

end BusEvent

/-- No hook of the bus is between its two checks. -/
def BusPhase.Quiescent (phase : BusPhase) : Prop := phase = .idle ∨ phase = .registered

/-- Both records say of a quiescent bus whether the driver is registered on it. -/
def BusesAgree (s : CheckState) (phase : DriverBus → BusPhase) : Prop :=
  ∀ b, (phase b).Quiescent →
    (∃ bits, getDriverBus s.records = .ok bits ∧ (bits b = true ↔ phase b = .registered)) ∧
    ((s.records.buses b).registered = .calledOk ↔ phase b = .registered)

/-- **The specification of a run**: no check asserts, and in every state the records are right. -/
def BusesConsistent (events : List BusEvent) : Prop :=
  Simulates BusEvent.exec BusEvent.after BusesAgree (.free .initial) (fun _ => .idle) events

/-- The bus is entered before the call. -/
def DriverBus.Early : DriverBus → Prop
  | pci | usb | misc | protoOps => True
  | i2c | platform | spi => False

instance : DecidablePred DriverBus.Early := fun b => by
  cases b <;> unfold DriverBus.Early <;> infer_instance

/-- Where the bus is entered before the call, no call fails; where it is entered after the call,
nothing is unregistered. -/
def BusEvent.Supported : BusEvent → Prop
  | registerPre _ | unregisterPre _ => True
  | registerPost b retval => b.Early → retval = 0
  | unregisterPost b retval => b.Early ∧ (b = .misc → retval = 0)

instance : DecidablePred BusEvent.Supported := fun e => by
  cases e <;> unfold BusEvent.Supported <;> infer_instance

/-! ## The record of one bus -/

/-- What the record of a bus holds in each phase, along supported runs. -/
def BusState.At (b : DriverBus) (state : BusState) : BusPhase → Prop
  | .idle => state.bus = 0 ∧ state.unregistered = .notCalled ∧
      (state.registered = .notCalled ∨ ¬ b.Early ∧ state.registered = .calledFailed)
  | .registering => state.bus = (if b.Early then 1 else 0) ∧ state.unregistered = .notCalled ∧
      state.registered = .inProgress
  | .registered => state.bus = 1 ∧ state.unregistered = .notCalled ∧ state.registered = .calledOk
  | .unregistering => state.bus = 1 ∧
      state.unregistered = (if b = .pci ∨ b = .protoOps then .inProgress else .notCalled) ∧
      state.registered = (if b = .usb ∨ b = .misc then .inProgress else .calledOk)

/-- Every bus is in the phase the specification says. -/
def BusInv (s : CheckState) (phase : DriverBus → BusPhase) : Prop :=
  ∃ r, s = .free r ∧ ∀ b, (r.buses b).At b (phase b)

lemma BusInv.initial : BusInv (.free .initial) fun _ => .idle :=
  ⟨.initial, rfl, fun _ => ⟨rfl, rfl, Or.inl rfl⟩⟩

/-- A record is a flag: it is 0 or 1. -/
lemma BusState.At.bus_nonneg {b : DriverBus} {state : BusState} {phase : BusPhase}
    (h : state.At b phase) : 0 ≤ state.bus := by
  cases phase with
  | idle => rw [h.1]
  | registering =>
      rw [h.1]
      split_ifs <;> decide
  | registered | unregistering =>
      rw [h.1]
      decide

lemma getDriverBus_of_nonneg {r : Records} (h : ∀ b, 0 ≤ (r.buses b).bus) :
    getDriverBus r = .ok fun b => decide ((r.buses b).bus ≠ 0) := by
  have htotal : (DriverBus.all.map fun b => (r.buses b).bus).sum ≥ 0 :=
    List.sum_nonneg fun x hx => by
      obtain ⟨b, _, rfl⟩ := List.mem_map.mp hx
      exact h b
  rw [getDriverBus, tfassertDetail_of_true htotal, ok_bind]

/-- In a quiescent phase both fields of the record say whether the driver is registered. -/
lemma BusState.At.agrees {b : DriverBus} {state : BusState} {phase : BusPhase}
    (h : state.At b phase) (hq : phase.Quiescent) :
    (state.bus ≠ 0 ↔ phase = .registered) ∧
      (state.registered = .calledOk ↔ phase = .registered) := by
  rcases hq with rfl | rfl
  · obtain ⟨hbus, _, hreg | ⟨_, hreg⟩⟩ := h
    · simp [hbus, hreg]
    · simp [hbus, hreg]
  · obtain ⟨hbus, _, hreg⟩ := h
    simp [hbus, hreg]

lemma BusInv.agree {s : CheckState} {phase : DriverBus → BusPhase} (h : BusInv s phase) :
    BusesAgree s phase := by
  obtain ⟨r, rfl, hat⟩ := h
  intro b hq
  refine ⟨⟨_, getDriverBus_of_nonneg fun b => (hat b).bus_nonneg, ?_⟩, ((hat b).agrees hq).2⟩
  rw [decide_eq_true_iff]
  exact ((hat b).agrees hq).1

/-! ## What one hook does -/

section

variable {r : Records} {b : DriverBus} {state' : BusState}

@[simp] lemma Records.setBus_buses (state : BusState) :
    (r.setBus b state).buses = Function.update r.buses b state :=
  rfl

@[simp] lemma Records.setBus_self (r : Records) (b : DriverBus) : r.setBus b (r.buses b) = r := by
  rw [Records.setBus, Function.update_eq_self]

/-- A hook that takes the record of its bus into the next phase keeps the invariant. -/
lemma BusInv.step {s : CheckState} {phase : DriverBus → BusPhase} {next : BusPhase}
    (hat : ∀ b, (r.buses b).At b (phase b)) (hstate : state'.At b next)
    (hs : s = .free (r.setBus b state')) : BusInv s (Function.update phase b next) := by
  refine ⟨_, hs, fun c => ?_⟩
  rw [Records.setBus_buses]
  by_cases hc : c = b
  · subst hc
    rw [Function.update_self, Function.update_self]
    exact hstate
  · rw [Function.update_of_ne hc, Function.update_of_ne hc]
    exact hat c

/-- A routine whose body works on the record of one bus. -/
lemma checkRoutine_onBus {f : BusState → Except Fault BusState}
    (hf : f (r.buses b) = .ok state') :
    checkRoutine (.free r) (fun r => r.onBus b f) = .ok (.free (r.setBus b state')) := by
  rw [checkRoutine_free, Records.onBus, hf]
  rfl

end

/-- A registration on a bus that is entered before the call. -/
lemma DriverBus.registerCheck_early {b : DriverBus} (h : b.Early) :
    ∃ check, b.registerCheck = registerEarly check b := by
  cases b with
  | pci | usb | misc | protoOps => exact ⟨_, rfl⟩
  | i2c | platform | spi => exact h.elim

lemma DriverBus.registerCheck_late {b : DriverBus} (h : ¬ b.Early) :
    ∃ check, b.registerCheck = registerLate check b := by
  cases b with
  | pci | usb | misc | protoOps => exact (h trivial).elim
  | i2c | platform | spi => exact ⟨_, rfl⟩

namespace BusEvent

variable {r : Records} {b : DriverBus}

/-- Before the call of a registration. -/
lemma exec_registerPre (h : (r.buses b).At b .idle) :
    ∃ state', exec (.free r) (registerPre b) = .ok (.free (r.setBus b state')) ∧
      state'.At b .registering := by
  rcases hstate : r.buses b with ⟨bus, registered, unregistered, probed⟩
  rw [hstate] at h
  obtain ⟨rfl, rfl, hreg⟩ := h
  by_cases hb : b.Early
  · obtain ⟨check, hcheck⟩ := DriverBus.registerCheck_early hb
    have hreg : registered = .notCalled := hreg.resolve_right fun h => h.1 hb
    subst hreg
    refine ⟨⟨1, .inProgress, .notCalled, probed⟩, ?_, by simp [BusState.At, hb]⟩
    rw [exec, hcheck, registerEarly, prepostBody_zero]
    exact checkRoutine_onBus (by rw [hstate]; rfl)
  · obtain ⟨check, hcheck⟩ := DriverBus.registerCheck_late hb
    refine ⟨⟨0, .inProgress, .notCalled, probed⟩, ?_, by simp [BusState.At, hb]⟩
    rw [exec, hcheck, registerLate, prepostBody_zero]
    refine checkRoutine_onBus ?_
    rw [hstate]
    rcases hreg with rfl | ⟨_, rfl⟩ <;> rfl

/-- After the call of a registration.  On a bus that was entered before the call, a failure leaves
it entered. -/
lemma exec_registerPost (h : (r.buses b).At b .registering) (retval : ℤ) :
    ∃ state', exec (.free r) (registerPost b retval) = .ok (.free (r.setBus b state')) ∧
      (Supported (registerPost b retval) →
        state'.At b (if retval = 0 then .registered else .idle)) ∧
      (¬ Supported (registerPost b retval) → retval ≠ 0 ∧ state'.bus = 1) := by
  rcases hstate : r.buses b with ⟨bus, registered, unregistered, probed⟩
  rw [hstate] at h
  obtain ⟨hbus, rfl, rfl⟩ := h
  by_cases hb : b.Early
  · obtain ⟨check, hcheck⟩ := DriverBus.registerCheck_early hb
    rw [if_pos hb] at hbus
    obtain rfl : bus = 1 := hbus
    refine ⟨⟨1, if retval = 0 then .calledOk else .calledFailed, .notCalled, probed⟩, ?_, ?_, ?_⟩
    · rw [exec, hcheck, registerEarly, prepostBody_one]
      refine checkRoutine_onBus ?_
      rw [hstate]
      split_ifs <;> rfl
    · intro hsupp
      rw [if_pos (hsupp hb), if_pos (hsupp hb)]
      exact ⟨rfl, rfl, rfl⟩
    · intro hsupp
      exact ⟨fun h0 => hsupp fun _ => h0, rfl⟩
  · obtain ⟨check, hcheck⟩ := DriverBus.registerCheck_late hb
    rw [if_neg hb] at hbus
    obtain rfl : bus = 0 := hbus
    refine ⟨⟨if retval = 0 then 1 else 0, if retval = 0 then .calledOk else .calledFailed,
      .notCalled, probed⟩, ?_, ?_, fun hsupp => (hsupp fun h => absurd h hb).elim⟩
    · rw [exec, hcheck, registerLate, prepostBody_one]
      refine checkRoutine_onBus ?_
      rw [hstate]
      split_ifs <;> rfl
    · intro _
      by_cases h0 : retval = 0
      · simp only [if_pos h0]
        exact ⟨rfl, rfl, rfl⟩
      · simp only [if_neg h0]
        exact ⟨rfl, rfl, Or.inr ⟨hb, rfl⟩⟩

/-- `usb_deregister_MJRcheck` and `misc_deregister_MJRcheck` find the bus entered. -/
lemma deregisterPre_eq (check : Check) (hnonneg : ∀ b, 0 ≤ (r.buses b).bus) {probed : CallState}
    (hstate : r.buses b = ⟨1, .calledOk, .notCalled, probed⟩) :
    deregisterPre check b r = .ok (r.setBus b ⟨1, .inProgress, .notCalled, probed⟩) := by
  have hbit : decide ((r.buses b).bus ≠ 0) = true := by
    rw [hstate]
    rfl
  rw [deregisterPre, getDriverBus_of_nonneg hnonneg, ok_bind, tfassert_of_true hbit, ok_bind,
    Records.onBus, hstate]
  rfl

/-- Before the call of an unregistration. -/
lemma exec_unregisterPre (hnonneg : ∀ b, 0 ≤ (r.buses b).bus) (h : (r.buses b).At b .registered) :
    ∃ state', exec (.free r) (unregisterPre b) = .ok (.free (r.setBus b state')) ∧
      state'.At b .unregistering := by
  rcases hstate : r.buses b with ⟨bus, registered, unregistered, probed⟩
  rw [hstate] at h
  obtain ⟨rfl, rfl, rfl⟩ := h
  cases b with
  | pci | protoOps =>
      refine ⟨⟨1, .calledOk, .inProgress, probed⟩, ?_, rfl, rfl, rfl⟩
      simp only [exec, DriverBus.unregisterCheck, pciUnregisterDriverMJRcheck,
        protoUnregisterMJRcheck, unregisterMarked, prepostBody_zero]
      exact checkRoutine_onBus (by rw [hstate]; rfl)
  | usb | misc =>
      refine ⟨⟨1, .inProgress, .notCalled, probed⟩, ?_, rfl, rfl, rfl⟩
      simp only [exec, DriverBus.unregisterCheck, usbDeregisterMJRcheck, miscDeregisterMJRcheck,
        prepostBody_zero, checkRoutine_free, deregisterPre_eq _ hnonneg hstate]
      rfl
  | i2c | platform | spi =>
      refine ⟨⟨1, .calledOk, .notCalled, probed⟩, ?_, rfl, rfl, rfl⟩
      simp only [exec, DriverBus.unregisterCheck, i2cDelDriverMJRcheck,
        platformDriverUnregisterMJRcheck, spiUnregisterDriverMJRcheck, unregisterBusOnly,
        prepostBody_zero, checkRoutine_free]
      rw [← hstate, Records.setBus_self]
      rfl

/-- After the call of an unregistration.  A failed `misc_deregister` leaves the call state in
progress; on a bus that is entered after the call, the call state stays `CALLED_OK`. -/
lemma exec_unregisterPost (h : (r.buses b).At b .unregistering) (retval : ℤ) :
    ∃ state', exec (.free r) (unregisterPost b retval) = .ok (.free (r.setBus b state')) ∧
      (Supported (unregisterPost b retval) → state'.At b .idle) ∧
      (¬ Supported (unregisterPost b retval) →
        (state'.registered = .calledOk ↔ ¬ (b = .misc ∧ retval ≠ 0))) := by
  rcases hstate : r.buses b with ⟨bus, registered, unregistered, probed⟩
  rw [hstate] at h
  obtain ⟨hbus, hunreg, hreg⟩ := h
  obtain rfl : bus = 1 := hbus
  cases b with
  | pci | protoOps =>
      obtain rfl : unregistered = .inProgress := hunreg
      obtain rfl : registered = .calledOk := hreg
      refine ⟨⟨0, .notCalled, .notCalled, probed⟩, ?_, fun _ => ⟨rfl, rfl, Or.inl rfl⟩,
        fun hsupp => (hsupp ⟨trivial, fun h => by cases h⟩).elim⟩
      simp only [exec, DriverBus.unregisterCheck, pciUnregisterDriverMJRcheck,
        protoUnregisterMJRcheck, unregisterMarked, prepostBody_one]
      exact checkRoutine_onBus (by rw [hstate]; rfl)
  | usb =>
      obtain rfl : unregistered = .notCalled := hunreg
      obtain rfl : registered = .inProgress := hreg
      refine ⟨⟨0, .notCalled, .notCalled, probed⟩, ?_, fun _ => ⟨rfl, rfl, Or.inl rfl⟩,
        fun hsupp => (hsupp ⟨trivial, fun h => by cases h⟩).elim⟩
      simp only [exec, DriverBus.unregisterCheck, usbDeregisterMJRcheck, prepostBody_one]
      exact checkRoutine_onBus (by rw [hstate]; rfl)
  | misc =>
      obtain rfl : unregistered = .notCalled := hunreg
      obtain rfl : registered = .inProgress := hreg
      by_cases h0 : retval = 0
      · refine ⟨⟨0, .notCalled, .notCalled, probed⟩, ?_, fun _ => ⟨rfl, rfl, Or.inl rfl⟩,
          fun hsupp => (hsupp ⟨trivial, fun _ => h0⟩).elim⟩
        simp only [exec, DriverBus.unregisterCheck, miscDeregisterMJRcheck, prepostBody_one,
          if_pos h0]
        exact checkRoutine_onBus (by rw [hstate]; rfl)
      · refine ⟨⟨1, .inProgress, .notCalled, probed⟩, ?_, fun hsupp => absurd (hsupp.2 rfl) h0, ?_⟩
        · simp only [exec, DriverBus.unregisterCheck, miscDeregisterMJRcheck, prepostBody_one,
            if_neg h0, checkRoutine_free]
          rw [← hstate, Records.setBus_self]
          rfl
        · intro _
          simp [h0]
  | i2c | platform | spi =>
      obtain rfl : unregistered = .notCalled := hunreg
      obtain rfl : registered = .calledOk := hreg
      refine ⟨⟨0, .calledOk, .notCalled, probed⟩, ?_, fun hsupp => hsupp.1.elim, by simp⟩
      simp only [exec, DriverBus.unregisterCheck, i2cDelDriverMJRcheck,
        platformDriverUnregisterMJRcheck, spiUnregisterDriverMJRcheck, unregisterBusOnly,
        prepostBody_one]
      exact checkRoutine_onBus (by rw [hstate]; rfl)

end BusEvent

/-! ## Runs -/

/-- A supported event keeps the invariant. -/
lemma busInv_supported {s : CheckState} {phase : DriverBus → BusPhase} {e : BusEvent}
    (hinv : BusInv s phase) (hlegal : e.Legal phase) (hsupp : e.Supported) :
    ∃ s', e.exec s = .ok s' ∧ BusInv s' (e.after phase) := by
  obtain ⟨r, rfl, hat⟩ := hinv
  cases e with
  | registerPre b =>
      have hb := hat b
      rw [show phase b = .idle from hlegal] at hb
      obtain ⟨state', hexec, hstate⟩ := BusEvent.exec_registerPre hb
      exact ⟨_, hexec, BusInv.step hat hstate rfl⟩
  | registerPost b retval =>
      have hb := hat b
      rw [show phase b = .registering from hlegal] at hb
      obtain ⟨state', hexec, hstate, _⟩ := BusEvent.exec_registerPost hb retval
      exact ⟨_, hexec, BusInv.step hat (hstate hsupp) rfl⟩
  | unregisterPre b =>
      have hb := hat b
      rw [show phase b = .registered from hlegal] at hb
      obtain ⟨state', hexec, hstate⟩ :=
        BusEvent.exec_unregisterPre (fun b => (hat b).bus_nonneg) hb
      exact ⟨_, hexec, BusInv.step hat hstate rfl⟩
  | unregisterPost b retval =>
      have hb := hat b
      rw [show phase b = .unregistering from hlegal] at hb
      obtain ⟨state', hexec, hstate, _⟩ := BusEvent.exec_unregisterPost hb retval
      have hnext : ¬ (b = .misc ∧ retval ≠ 0) := fun h => h.2 (hsupp.2 h.1)
      refine ⟨_, hexec, ?_⟩
      rw [BusEvent.after, if_neg hnext]
      exact BusInv.step hat (hstate hsupp) rfl

/-- After an unsupported event the records of its bus are wrong. -/
lemma busesAgree_not_supported {s s' : CheckState} {phase : DriverBus → BusPhase} {e : BusEvent}
    (hinv : BusInv s phase) (hlegal : e.Legal phase) (hsupp : ¬ e.Supported)
    (hexec : e.exec s = .ok s') : ¬ BusesAgree s' (e.after phase) := by
  obtain ⟨r, rfl, hat⟩ := hinv
  intro hagree
  cases e with
  | registerPre b | unregisterPre b => exact hsupp trivial
  | registerPost b retval =>
      have hb := hat b
      rw [show phase b = .registering from hlegal] at hb
      obtain ⟨state', hexec', _, hbad⟩ := BusEvent.exec_registerPost hb retval
      cases hexec'.symm.trans hexec
      obtain ⟨h0, hbus⟩ := hbad hsupp
      have hb' := (hagree b (by simp [BusEvent.after, h0, BusPhase.Quiescent])).1
      obtain ⟨bits, hbits, hiff⟩ := hb'
      obtain ⟨_, hbits⟩ := tfassertDetail_bind_eq_ok.mp hbits
      cases hbits
      simp [BusEvent.after, h0, CheckState.free, hbus] at hiff
  | unregisterPost b retval =>
      have hb := hat b
      rw [show phase b = .unregistering from hlegal] at hb
      obtain ⟨state', hexec', _, hbad⟩ := BusEvent.exec_unregisterPost hb retval
      cases hexec'.symm.trans hexec
      have hquiet : (BusEvent.after phase (.unregisterPost b retval) b).Quiescent := by
        rw [BusEvent.after, Function.update_self]
        split_ifs
        · exact Or.inr rfl
        · exact Or.inl rfl
      have hb' := (hagree b hquiet).2
      simp only [CheckState.free, Records.setBus_buses, Function.update_self, hbad hsupp,
        BusEvent.after] at hb'
      split_ifs at hb' with hmisc
      · exact hb'.mpr rfl hmisc
      · cases hb'.mp hmisc

/-- **The records of the buses are consistent** along a legal run iff the run is supported: on PCI,
USB, misc and protocol drivers no registration fails and no `misc_deregister` does, and on I2C,
platform and SPI drivers nothing is unregistered. -/
theorem bus_registration_consistent_iff (events : List BusEvent)
    (hlegal : Along BusEvent.after BusEvent.Legal (fun _ => .idle) events) :
    BusesConsistent events ↔ ∀ e ∈ events, e.Supported := by
  refine (Simulates.iff_along ?_ ?_ ?_ events BusInv.initial hlegal).trans Along.forall_iff
  · exact fun _ _ hinv => hinv.agree
  · exact fun _ _ _ hinv hlegal hsupp => busInv_supported hinv hlegal hsupp
  · exact fun _ _ _ hinv hlegal hsupp _ hexec =>
      busesAgree_not_supported hinv hlegal hsupp hexec

/-- A PCI driver whose `probe` registers an I2C driver; later the PCI driver is unregistered. -/
def nestedRegistration : List BusEvent :=
  [.registerPre .pci, .registerPre .i2c, .registerPost .i2c (-12), .registerPost .pci 0,
    .unregisterPre .pci, .unregisterPost .pci 0, .registerPre .pci, .registerPost .pci 0]

theorem bus_registration_consistent_nested : BusesConsistent nestedRegistration :=
  (bus_registration_consistent_iff nestedRegistration
    ⟨rfl, rfl, rfl, rfl, rfl, rfl, rfl, rfl, trivial⟩).mpr (by decide)

/-- **A failed registration is remembered.**  The driver tries again, as it may. -/
theorem failed_registration_asserts :
    Along BusEvent.after BusEvent.Legal (fun _ => .idle)
        [.registerPre .usb, .registerPost .usb (-12), .registerPre .usb] ∧
      ¬ BusesConsistent [.registerPre .usb, .registerPost .usb (-12), .registerPre .usb] ∧
      ∀ s, [BusEvent.registerPre .usb, .registerPost .usb (-12), .registerPre .usb].foldlM
        BusEvent.exec (.free .initial) ≠ .ok s := by
  have hstop : ∀ s, [BusEvent.registerPre .usb, .registerPost .usb (-12), .registerPre .usb].foldlM
      BusEvent.exec (.free .initial) ≠ .ok s := by
    intro s h
    cases h
  refine ⟨⟨rfl, rfl, rfl, trivial⟩, fun h => ?_, hstop⟩
  obtain ⟨s, hs, _⟩ := h.run_ok
  exact hstop s hs

end SymDrive

import SymDrive.Gtf.BusRegistration
import SymDrive.Gtf.EntryPoints
import SymDrive.Gtf.PciDevice

/-!
# The lifecycle of a network device

A PCI network driver is probed, registers its device, is opened and stopped any number of times,
unregisters the device and is removed.  The checks of these calls record the calls in a dozen call
states.

Three of the records are never reset: `remove` leaves `probed`, `ndo_stop` leaves `opened` and
`unregister_netdev` leaves the driver class.  So the second probe and the second open are refused,
and no more than one cycle with at most one open goes through (`lifecycle_repeatable_iff`).
-/

namespace SymDrive

open Checked

/-! ## Registering the device -/

/-- `set_call_state` on `ndo_driver_state.register_netdev`. -/
def setRegisterNetdev (r : Records) (newState : CallState) : Except Fault Records := do
  let registerNetdev ← setCallState r.ndo.registerNetdev newState
  .ok { r with ndo := { r.ndo with registerNetdev := registerNetdev } }

/-- `set_call_state` on `ndo_driver_state.unregister_netdev`. -/
def setUnregisterNetdev (r : Records) (newState : CallState) : Except Fault Records := do
  let unregisterNetdev ← setCallState r.ndo.unregisterNetdev newState
  .ok { r with ndo := { r.ndo with unregisterNetdev := unregisterNetdev } }

def registerNetdevMJRcheck (s : CheckState) (prepost retval : ℤ) : Except Fault CheckState :=
  checkRoutine s <| prepostBody .registerNetdev prepost
    (fun r => do
      let r ← setRegisterNetdev r .inProgress
      setDriverClass r .net)
    (fun r => setRegisterNetdev r (if retval = 0 then .calledOk else .calledFailed))

/-- The driver class stays as it is. -/
def unregisterNetdevMJRcheck (s : CheckState) (prepost : ℤ) : Except Fault CheckState :=
  checkRoutine s <| prepostBody .unregisterNetdev prepost
    (fun r => do
      let bits ← getDriverBus r
      if bits .pci then tfassert (.check .unregisterNetdev) (r.pciEnabled = .enabled)
      tfassert (.check .unregisterNetdev) (r.ndo.registerNetdev = .calledOk)
      tfassert (.check .unregisterNetdev) (r.ndo.unregisterNetdev = .notCalled)
      setUnregisterNetdev r .inProgress)
    (fun r => do
      let r ← setRegisterNetdev r .notCalled
      setUnregisterNetdev r .notCalled)

/-! ## Cycles -/

/-- The calls of a lifecycle.  Other calls are made while the driver is probed or removed, so the
two checks of these are apart; the rest stand for the checks before and after a successful call. -/
inductive LifeEvent where
  | probePre (dev : PciDev)
  | probePost
  | enable
  | registerNetdev
  | ndoOpen (txq : TxQueue)
  | ndoStop (txq : TxQueue)
  | unregisterNetdev
  | disable
  | removePre
  | removePost

namespace LifeEvent

/-- The value the kernel function returns is 0. -/
def exec (s : CheckState) : LifeEvent → Except Fault CheckState
  | probePre dev => pciDriverProbeMJRcheck s 0 0 dev
  | probePost => pciDriverProbeMJRcheck s 1 0 ⟨0, 0⟩
  | enable => PciOp.exec s (.enable 0)
  | registerNetdev => do
      let s ← registerNetdevMJRcheck s 0 0
      registerNetdevMJRcheck s 1 0
  | ndoOpen txq => do
      let s ← netDeviceOpsNdoOpenMJRcheck s 0 0 txq
      netDeviceOpsNdoOpenMJRcheck s 1 0 txq
  | ndoStop txq => do
      let s ← netDeviceOpsNdoStopMJRcheck s 0 txq
      netDeviceOpsNdoStopMJRcheck s 1 txq
  | unregisterNetdev => do
      let s ← unregisterNetdevMJRcheck s 0
      unregisterNetdevMJRcheck s 1
  | disable => PciOp.exec s .disable
  | removePre => pciDriverRemoveMJRcheck s 0
  | removePost => pciDriverRemoveMJRcheck s 1

end LifeEvent

/-- An open that starts the transmit queue and a stop that stops it. -/
structure OpenStop where
  started : TxQueue
  stopped : TxQueue
  started_clear : started.state &&& started.queueStateXoff = 0
  stopped_set : stopped.testXoff = true

def OpenStop.events (o : OpenStop) : List LifeEvent := [.ndoOpen o.started, .ndoStop o.stopped]

/-- One cycle of a driver that does everything right, on a device with resources and an interrupt
line.  It may register the network device before its probe returns or later, and unregister it
before or while it is removed. -/
structure Cycle where
  dev : PciDev
  resource_ne : dev.resourceStart ≠ 0
  irq_ne : dev.irq ≠ 0
  opens : List OpenStop
  inProbe : Bool
  inRemove : Bool

namespace Cycle

/-- From the probe to the registered network device. -/
def up (c : Cycle) : List LifeEvent :=
  if c.inProbe then [.probePre c.dev, .enable, .registerNetdev, .probePost]
  else [.probePre c.dev, .enable, .probePost, .registerNetdev]

/-- From the registered network device to the end of the removal. -/
def down (c : Cycle) : List LifeEvent :=
  if c.inRemove then [.removePre, .unregisterNetdev, .disable, .removePost]
  else [.unregisterNetdev, .removePre, .disable, .removePost]

def events (c : Cycle) : List LifeEvent := c.up ++ c.opens.flatMap OpenStop.events ++ c.down

def run (s : CheckState) (c : Cycle) : Except Fault CheckState := c.events.foldlM LifeEvent.exec s

end Cycle

/-- The records of the driver's class, its calls and its device. -/
structure LifeRecords where
  buses : DriverBus → BusState
  pciEnabled : DeviceState
  ndo : NdoState
  sound : ℤ

def CheckState.life (s : CheckState) : LifeRecords where
  buses := s.records.buses
  pciEnabled := s.records.pciEnabled
  ndo := s.records.ndo
  sound := s.records.sound

/-- Every cycle goes through and leaves the records `life`. -/
def LeavesEach (life : LifeRecords) : CheckState → List Cycle → Prop
  | _, [] => True
  | s, c :: cycles => ∃ s', c.run s = .ok s' ∧ s'.life = life ∧ LeavesEach life s' cycles

/-- **The specification of a sequence of cycles**: all of them go through, and all leave the same
records. -/
def Repeatable (s : CheckState) (cycles : List Cycle) : Prop := ∃ life, LeavesEach life s cycles

/-- The records of a driver that has not been probed yet.  Its own registration may be on record. -/
structure Fresh (r : Records) : Prop where
  bus_nonneg : ∀ b, 0 ≤ (r.buses b).bus
  probed : (r.buses .pci).probed = .notCalled
  disabled : r.pciEnabled ≠ .enabled
  net : r.ndo.net = 0
  sound : r.sound = 0
  opened : r.ndo.opened = .notCalled ∨ r.ndo.opened = .calledFailed
  registerNetdev : r.ndo.registerNetdev = .notCalled
  unregisterNetdev : r.ndo.unregisterNetdev = .notCalled
  blocking_room : r.test.blockingContextCurrent + 1 < maxNesting
  user_room : r.userContextCurrent + 1 < maxNesting

/-! ## The records along a cycle -/

/-- The records a cycle reads and writes; `depth` counts the contexts pushed since the start. -/
structure Life where
  probed : CallState
  ndo : NdoState
  enabled : DeviceState
  depth : ℕ
  deriving DecidableEq

namespace LifeEvent

def next (l : Life) : LifeEvent → Life
  | probePre _ => { l with probed := .inProgress, depth := l.depth + 1 }
  | probePost => { l with probed := .calledOk, depth := l.depth - 1 }
  | enable => { l with enabled := .enabled }
  | registerNetdev => { l with ndo := { l.ndo with net := 1, registerNetdev := .calledOk } }
  | ndoOpen _ => { l with ndo := { l.ndo with opened := .calledOk } }
  | ndoStop _ => l
  | unregisterNetdev =>
      { l with ndo := { l.ndo with registerNetdev := .notCalled, unregisterNetdev := .notCalled } }
  | disable => { l with enabled := .disabled }
  | removePre => { l with depth := l.depth + 1 }
  | removePost => { l with depth := l.depth - 1 }

/-- The checks let the call through. -/
def Allowed (l : Life) : LifeEvent → Prop
  | probePre dev => l.probed = .notCalled ∧ dev.resourceStart ≠ 0 ∧ dev.irq ≠ 0 ∧ l.depth = 0
  | probePost => l.probed = .inProgress ∧ (l.ndo.net = 0 ∨ l.ndo.net = 1) ∧
      (l.ndo.net = 1 → l.ndo.registerNetdev = .calledOk) ∧ l.depth = 1
  | enable => l.enabled ≠ .enabled
  | registerNetdev => l.ndo.registerNetdev = .notCalled ∧ l.ndo.net = 0
  | ndoOpen txq => (l.ndo.opened = .notCalled ∨ l.ndo.opened = .calledFailed) ∧
      l.probed = .calledOk ∧ txq.state &&& txq.queueStateXoff = 0 ∧ l.depth = 0
  | ndoStop txq => l.probed = .calledOk ∧ txq.testXoff = true ∧ l.depth = 0
  | unregisterNetdev => l.enabled = .enabled ∧ l.ndo.registerNetdev = .calledOk ∧
      l.ndo.unregisterNetdev = .notCalled
  | disable => l.enabled = .enabled ∧ l.ndo.registerNetdev = .notCalled ∧
      l.ndo.unregisterNetdev = .notCalled
  | removePre => l.depth = 0
  | removePost => l.depth = 1

end LifeEvent

/-- Between two checks the records are those of `l`, on stacks that had the given heights at the
start and room for one entry. -/
structure LifeIs (blocking user : ℕ) (s : CheckState) (l : Life) : Prop where
  free : s.lock = ⟨0⟩
  bus_nonneg : ∀ b, 0 ≤ (s.records.buses b).bus
  probed : (s.records.buses .pci).probed = l.probed
  ndo : s.records.ndo = l.ndo
  sound : s.records.sound = 0
  enabled : s.records.pciEnabled = l.enabled
  blocking_eq : s.records.test.blockingContextCurrent = blocking + l.depth
  user_eq : s.records.userContextCurrent = user + l.depth
  blocking_room : blocking + 1 < maxNesting
  user_room : user + 1 < maxNesting

section

variable {blocking user : ℕ} {r : Records} {l : Life}

lemma LifeIs.pushed (h : LifeIs blocking user (.free r) l) (hdepth : l.depth = 0)
    (b : BlockingContext) (u : UserContext) :
    pushKernelState r b u = .ok (r.pushed b u) ∧
      LifeIs blocking user (.free (r.pushed b u)) { l with depth := l.depth + 1 } := by
  have hb : r.test.blockingContextCurrent = blocking := by simpa [hdepth] using h.blocking_eq
  have hu : r.userContextCurrent = user := by simpa [hdepth] using h.user_eq
  refine ⟨pushKernelState_of_room b u (by rw [hb]; exact h.blocking_room)
    (by rw [hu]; exact h.user_room), rfl, h.bus_nonneg, h.probed, h.ndo, h.sound, h.enabled, ?_, ?_,
    h.blocking_room, h.user_room⟩
  · show r.test.blockingContextCurrent + 1 = _
    rw [hb, hdepth]
  · show r.userContextCurrent + 1 = _
    rw [hu, hdepth]

lemma LifeIs.popped (h : LifeIs blocking user (.free r) l) (hdepth : l.depth = 1) :
    popKernelState r = .ok r.popped ∧
      LifeIs blocking user (.free r.popped) { l with depth := l.depth - 1 } := by
  have hb : r.test.blockingContextCurrent = blocking + 1 := by
    simpa [hdepth] using h.blocking_eq
  have hu : r.userContextCurrent = user + 1 := by simpa [hdepth] using h.user_eq
  refine ⟨popKernelState_of_pos (by rw [hb]; exact Nat.succ_pos _)
    (by rw [hu]; exact Nat.succ_pos _), rfl, h.bus_nonneg, h.probed, h.ndo, h.sound, h.enabled, ?_,
    ?_, h.blocking_room, h.user_room⟩
  · show r.test.blockingContextCurrent - 1 = _
    rw [hb, hdepth]
    rfl
  · show r.userContextCurrent - 1 = _
    rw [hu, hdepth]
    rfl

/-- Recording the state of the probe. -/
lemma LifeIs.setProbed (h : LifeIs blocking user (.free r) l) (newState : CallState)
    (hallows : l.probed.Allows newState) :
    ∃ r', r.onBus .pci (SymDrive.setProbed newState) = .ok r' ∧
      LifeIs blocking user (.free r') { l with probed := newState } := by
  have hprobed : (r.buses .pci).probed = l.probed := h.probed
  refine ⟨r.setBus .pci { r.buses .pci with probed := newState }, ?_, rfl, ?_, ?_, h.ndo, h.sound,
    h.enabled, h.blocking_eq, h.user_eq, h.blocking_room, h.user_room⟩
  · rw [Records.onBus, SymDrive.setProbed, hprobed, setCallState_of_allows hallows]
    rfl
  · intro b
    have hb := h.bus_nonneg b
    by_cases hpci : b = .pci
    · subst hpci
      simpa [CheckState.free] using hb
    · simpa [CheckState.free, Function.update_of_ne hpci] using hb
  · simp [CheckState.free]

/-- An update of `ndo_driver_state`. -/
lemma LifeIs.setNdo (h : LifeIs blocking user (.free r) l) (ndo : NdoState) :
    LifeIs blocking user (.free { r with ndo := ndo }) { l with ndo := ndo } where
  free := rfl
  bus_nonneg := h.bus_nonneg
  probed := h.probed
  ndo := rfl
  sound := h.sound
  enabled := h.enabled
  blocking_eq := h.blocking_eq
  user_eq := h.user_eq
  blocking_room := h.blocking_room
  user_room := h.user_room

lemma LifeIs.setEnabled (h : LifeIs blocking user (.free r) l) (state : DeviceState) :
    LifeIs blocking user (.free { r with pciEnabled := state }) { l with enabled := state } where
  free := rfl
  bus_nonneg := h.bus_nonneg
  probed := h.probed
  ndo := h.ndo
  sound := h.sound
  enabled := rfl
  blocking_eq := h.blocking_eq
  user_eq := h.user_eq
  blocking_room := h.blocking_room
  user_room := h.user_room

end

/-! ## What one call does -/

section

variable {blocking user : ℕ} {r : Records} {l : Life}

lemma exec_probePre (h : LifeIs blocking user (.free r) l) {dev : PciDev}
    (hallowed : LifeEvent.Allowed l (.probePre dev)) :
    ∃ s', LifeEvent.exec (.free r) (.probePre dev) = .ok s' ∧
      LifeIs blocking user s' (LifeEvent.next l (.probePre dev)) := by
  obtain ⟨hprobed, hresource, hirq, hdepth⟩ := hallowed
  have hnot : (r.buses .pci).probed = .notCalled := h.probed.trans hprobed
  obtain ⟨hpush, hpushed⟩ := h.pushed hdepth .yes .no
  obtain ⟨r', hset, hr'⟩ := hpushed.setProbed .inProgress (by rw [hprobed]; decide)
  refine ⟨.free r', ?_, hr'⟩
  rw [LifeEvent.exec, pciDriverProbeMJRcheck, prepostBody_zero, checkRoutine_free,
    tfassert_of_true hnot, ok_bind, tfassert_of_true hresource, ok_bind, tfassert_of_true hirq,
    ok_bind, hpush, ok_bind, hset]
  rfl

lemma exec_probePost (h : LifeIs blocking user (.free r) l)
    (hallowed : LifeEvent.Allowed l .probePost) :
    ∃ s', LifeEvent.exec (.free r) .probePost = .ok s' ∧
      LifeIs blocking user s' (LifeEvent.next l .probePost) := by
  obtain ⟨hprobed, hnet, hregister, hdepth⟩ := hallowed
  obtain ⟨r', hset, hr'⟩ := h.setProbed .calledOk (by rw [hprobed]; decide)
  obtain ⟨hpop, hpopped⟩ := hr'.popped hdepth
  have hndo : r'.ndo = l.ndo := hr'.ndo
  have hsound : r'.sound = 0 := hr'.sound
  refine ⟨.free r'.popped, ?_, hpopped⟩
  rw [LifeEvent.exec, pciDriverProbeMJRcheck, prepostBody_one, checkRoutine_free, if_pos rfl, hset,
    ok_bind]
  rcases hnet with hnet | hnet
  · have hclass : getDriverClass r' = .ok .unknown := by
      simp [getDriverClass, hndo, hnet, hsound]
    rw [hclass, ok_bind, if_neg (by decide)]
    show (popKernelState r').map _ = _
    rw [hpop]
    rfl
  · have hclass : getDriverClass r' = .ok .net := by
      simp [getDriverClass, hndo, hnet, hsound]
    have hok : r'.ndo.registerNetdev = .calledOk := by
      rw [hndo]
      exact hregister hnet
    rw [hclass, ok_bind, if_pos rfl, if_pos rfl, tfassert_of_true hok, ok_bind, hpop]
    rfl

lemma exec_enable (h : LifeIs blocking user (.free r) l) (hallowed : LifeEvent.Allowed l .enable) :
    ∃ s', LifeEvent.exec (.free r) .enable = .ok s' ∧
      LifeIs blocking user s' (LifeEvent.next l .enable) := by
  have hstate : r.pciEnabled = .disabled ∨ r.pciEnabled = .undefined := by
    have hne : r.pciEnabled ≠ .enabled := fun heq => hallowed (h.enabled.symm.trans heq)
    cases hr : r.pciEnabled with
    | undefined => exact .inr rfl
    | disabled => exact .inl rfl
    | enabled => exact absurd hr hne
  have hset : setDeviceState r.pciEnabled .enabled = .ok .enabled := by
    rcases hstate with hr | hr <;> rw [hr] <;> rfl
  refine ⟨_, ?_, h.setEnabled .enabled⟩
  rw [LifeEvent.exec, (@PciOp.exec_of_legal r (.enable 0) ⟨.free r, ?_⟩).2]
  · rw [PciOp.target, if_pos rfl, hset]
    rfl
  · rw [PciOp.check, pciEnableDeviceMJRcheck, prepostBody_zero, checkRoutine_free,
      tfassert_of_true hstate]
    rfl

lemma exec_disable (h : LifeIs blocking user (.free r) l)
    (hallowed : LifeEvent.Allowed l .disable) :
    ∃ s', LifeEvent.exec (.free r) .disable = .ok s' ∧
      LifeIs blocking user s' (LifeEvent.next l .disable) := by
  obtain ⟨henabled, hregister, hunregister⟩ := hallowed
  have hndo : r.ndo = l.ndo := h.ndo
  have hstate : r.pciEnabled = .enabled := h.enabled.trans henabled
  have hreg : r.ndo.registerNetdev = .notCalled := by rw [hndo, hregister]
  have hunreg : r.ndo.unregisterNetdev = .notCalled := by rw [hndo, hunregister]
  refine ⟨_, ?_, h.setEnabled .disabled⟩
  rw [LifeEvent.exec, (@PciOp.exec_of_legal r .disable ⟨.free r, ?_⟩).2]
  · rw [PciOp.target, hstate]
    rfl
  · rw [PciOp.check, pciDisableDeviceMJRcheck, prepostBody_zero, checkRoutine_free,
      tfassert_of_true hstate, ok_bind, tfassert_of_true (.inl hreg), ok_bind,
      tfassert_of_true (.inl hunreg)]
    rfl

lemma exec_registerNetdev (h : LifeIs blocking user (.free r) l)
    (hallowed : LifeEvent.Allowed l .registerNetdev) :
    ∃ s', LifeEvent.exec (.free r) .registerNetdev = .ok s' ∧
      LifeIs blocking user s' (LifeEvent.next l .registerNetdev) := by
  obtain ⟨hregister, hnet⟩ := hallowed
  have hndo : r.ndo = l.ndo := h.ndo
  have hsound : r.sound = 0 := h.sound
  have hnext := h.setNdo { l.ndo with net := 1, registerNetdev := .calledOk }
  refine ⟨_, ?_, hnext⟩
  rcases hl : l.ndo with ⟨net, opened, registerNetdev, unregisterNetdev⟩
  rw [hl] at hregister hnet hndo
  obtain rfl : registerNetdev = .notCalled := hregister
  obtain rfl : net = 0 := hnet
  rw [LifeEvent.exec, registerNetdevMJRcheck]
  simp only [registerNetdevMJRcheck, checkRoutine_pair, prepostBody_zero, prepostBody_one,
    setRegisterNetdev, hndo, setDriverClass, getDriverClass, hsound]
  rcases r with ⟨test, userContext, userContextCurrent, buses, pciEnabled, ndo, sound, irq⟩
  obtain rfl : sound = 0 := hsound
  rfl

lemma probed_of (h : LifeIs blocking user (.free r) l) (hprobed : l.probed = .calledOk) :
    r.Probed :=
  .inl (h.probed.trans hprobed)

lemma exec_ndoOpen (h : LifeIs blocking user (.free r) l) {txq : TxQueue}
    (hallowed : LifeEvent.Allowed l (.ndoOpen txq)) :
    ∃ s', LifeEvent.exec (.free r) (.ndoOpen txq) = .ok s' ∧
      LifeIs blocking user s' (LifeEvent.next l (.ndoOpen txq)) := by
  obtain ⟨hopened, hprobed, hqueue, hdepth⟩ := hallowed
  have hndo : r.ndo = l.ndo := h.ndo
  have hopen : r.ndo.opened = .notCalled ∨ r.ndo.opened = .calledFailed := by rwa [hndo]
  obtain ⟨hpush, hpushed⟩ := h.pushed hdepth .yes .no
  have hstart : setOpened (r.pushed .yes .no) .inProgress =
      .ok { r.pushed .yes .no with ndo := { l.ndo with opened := .inProgress } } := by
    rw [setOpened, setCallState_of_allows]
    · show Except.ok { r.pushed .yes .no with ndo := { r.ndo with opened := .inProgress } } = _
      rw [hndo]
    · rcases hopen with ho | ho <;> simp [Records.pushed, ho, CallState.Allows]
  have hfinish : setOpened
      { r.pushed .yes .no with ndo := { l.ndo with opened := .inProgress } } .calledOk =
        .ok { r.pushed .yes .no with ndo := { l.ndo with opened := .calledOk } } :=
    rfl
  have hdone : LifeIs blocking user
      (.free { r.pushed .yes .no with ndo := { l.ndo with opened := .calledOk } })
      { l with ndo := { l.ndo with opened := .calledOk }, depth := l.depth + 1 } :=
    hpushed.setNdo _
  obtain ⟨hpop, hpopped⟩ := hdone.popped (by simp [hdepth])
  refine ⟨_, ?_, hpopped⟩
  rw [LifeEvent.exec, netDeviceOpsNdoOpenMJRcheck]
  simp only [netDeviceOpsNdoOpenMJRcheck, checkRoutine_pair, prepostBody_zero, prepostBody_one]
  rw [tfassert_of_true hopen, ok_bind, tfassert_of_true (probed_of h hprobed), ok_bind, hpush,
    ok_bind, hstart, ok_bind, tfassert_of_true (by decide), ok_bind, if_pos trivial,
    tfassert_of_true hqueue, ok_bind, hfinish, ok_bind, hpop]
  rfl

lemma exec_ndoStop (h : LifeIs blocking user (.free r) l) {txq : TxQueue}
    (hallowed : LifeEvent.Allowed l (.ndoStop txq)) :
    ∃ s', LifeEvent.exec (.free r) (.ndoStop txq) = .ok s' ∧
      LifeIs blocking user s' (LifeEvent.next l (.ndoStop txq)) := by
  obtain ⟨hprobed, hqueue, hdepth⟩ := hallowed
  obtain ⟨hpush, hpushed⟩ := h.pushed hdepth .yes .no
  obtain ⟨hpop, hpopped⟩ := hpushed.popped (by simp [hdepth])
  refine ⟨_, ?_, hpopped⟩
  rw [LifeEvent.exec, netDeviceOpsNdoStopMJRcheck]
  simp only [netDeviceOpsNdoStopMJRcheck, checkRoutine_pair, prepostBody_zero, prepostBody_one]
  rw [tfassert_of_true (probed_of h hprobed), ok_bind, hpush, ok_bind, tfassert_of_true hqueue,
    ok_bind, hpop]
  rfl

lemma exec_unregisterNetdev (h : LifeIs blocking user (.free r) l)
    (hallowed : LifeEvent.Allowed l .unregisterNetdev) :
    ∃ s', LifeEvent.exec (.free r) .unregisterNetdev = .ok s' ∧
      LifeIs blocking user s' (LifeEvent.next l .unregisterNetdev) := by
  obtain ⟨henabled, hregister, hunregister⟩ := hallowed
  have hndo : r.ndo = l.ndo := h.ndo
  have hstate : r.pciEnabled = .enabled := h.enabled.trans henabled
  have hreg : r.ndo.registerNetdev = .calledOk := by rw [hndo, hregister]
  have hunreg : r.ndo.unregisterNetdev = .notCalled := by rw [hndo, hunregister]
  have hbus := getDriverBus_of_nonneg (r := r) h.bus_nonneg
  refine ⟨_, ?_,
    h.setNdo { l.ndo with registerNetdev := .notCalled, unregisterNetdev := .notCalled }⟩
  rw [LifeEvent.exec, unregisterNetdevMJRcheck]
  simp only [unregisterNetdevMJRcheck, checkRoutine_pair, prepostBody_zero, prepostBody_one]
  rw [hbus, ok_bind, tfassert_of_true hstate, tfassert_of_true hreg, tfassert_of_true hunreg]
  simp only [ok_bind, ite_self, setUnregisterNetdev, setRegisterNetdev, hunreg, hreg, ← hndo]
  rfl

lemma exec_removePre (h : LifeIs blocking user (.free r) l)
    (hallowed : LifeEvent.Allowed l .removePre) :
    ∃ s', LifeEvent.exec (.free r) .removePre = .ok s' ∧
      LifeIs blocking user s' (LifeEvent.next l .removePre) := by
  obtain ⟨hpush, hpushed⟩ := h.pushed hallowed .yes .no
  refine ⟨_, ?_, hpushed⟩
  rw [LifeEvent.exec, pciDriverRemoveMJRcheck, kernelStateCheck, prepostBody_zero,
    checkRoutine_free, hpush]
  rfl

lemma exec_removePost (h : LifeIs blocking user (.free r) l)
    (hallowed : LifeEvent.Allowed l .removePost) :
    ∃ s', LifeEvent.exec (.free r) .removePost = .ok s' ∧
      LifeIs blocking user s' (LifeEvent.next l .removePost) := by
  obtain ⟨hpop, hpopped⟩ := h.popped hallowed
  refine ⟨_, ?_, hpopped⟩
  rw [LifeEvent.exec, pciDriverRemoveMJRcheck, kernelStateCheck, prepostBody_one,
    checkRoutine_free, hpop]
  rfl

end

/-- An allowed call goes through and changes the records as its `next` says. -/
lemma exec_of_allowed {blocking user : ℕ} (s : CheckState) (l : Life) (e : LifeEvent)
    (h : LifeIs blocking user s l) (_ : True) (hallowed : e.Allowed l) :
    ∃ s', e.exec s = .ok s' ∧ LifeIs blocking user s' (e.next l) := by
  obtain ⟨r, rfl⟩ := CheckState.exists_free h.free
  cases e with
  | probePre dev => exact exec_probePre h hallowed
  | probePost => exact exec_probePost h hallowed
  | enable => exact exec_enable h hallowed
  | registerNetdev => exact exec_registerNetdev h hallowed
  | ndoOpen txq => exact exec_ndoOpen h hallowed
  | ndoStop txq => exact exec_ndoStop h hallowed
  | unregisterNetdev => exact exec_unregisterNetdev h hallowed
  | disable => exact exec_disable h hallowed
  | removePre => exact exec_removePre h hallowed
  | removePost => exact exec_removePost h hallowed

/-- A device that was opened once is not opened again. -/
lemma exec_ndoOpen_opened {blocking user : ℕ} {s s' : CheckState} {l : Life} {txq : TxQueue}
    (h : LifeIs blocking user s l) (hopened : l.ndo.opened = .calledOk) :
    LifeEvent.exec s (.ndoOpen txq) ≠ .ok s' := by
  obtain ⟨r, rfl⟩ := CheckState.exists_free h.free
  have hrecord : r.ndo.opened = .calledOk := by rw [← hopened, ← h.ndo]; rfl
  have hrefused : ¬ (r.ndo.opened = .notCalled ∨ r.ndo.opened = .calledFailed) := by
    rw [hrecord]
    decide
  rw [LifeEvent.exec, netDeviceOpsNdoOpenMJRcheck, prepostBody_zero, checkRoutine_free,
    tfassert_of_false hrefused]
  intro hok
  cases hok

/-- A device that was probed once is not probed again. -/
lemma exec_probePre_probed {blocking user : ℕ} {s s' : CheckState} {l : Life} {dev : PciDev}
    (h : LifeIs blocking user s l) (hprobed : l.probed = .calledOk) :
    LifeEvent.exec s (.probePre dev) ≠ .ok s' := by
  obtain ⟨r, rfl⟩ := CheckState.exists_free h.free
  have hrefused : ¬ (r.buses .pci).probed = .notCalled := by
    have hrecord : (r.buses .pci).probed = .calledOk := h.probed.trans hprobed
    rw [hrecord]
    decide
  rw [LifeEvent.exec, pciDriverProbeMJRcheck, prepostBody_zero, checkRoutine_free,
    tfassert_of_false hrefused]
  intro hok
  cases hok

/-! ## Whole cycles -/

/-- The records before the first cycle. -/
def Life.Fresh (l : Life) : Prop :=
  l.probed = .notCalled ∧ (l.ndo.opened = .notCalled ∨ l.ndo.opened = .calledFailed) ∧
    l.ndo.net = 0 ∧ l.ndo.registerNetdev = .notCalled ∧ l.ndo.unregisterNetdev = .notCalled ∧
    l.enabled ≠ .enabled ∧ l.depth = 0

/-- The network device is registered and the driver is not running. -/
def Life.Up (l : Life) : Prop :=
  l.probed = .calledOk ∧ l.ndo.net = 1 ∧ l.ndo.registerNetdev = .calledOk ∧
    l.ndo.unregisterNetdev = .notCalled ∧ l.enabled = .enabled ∧ l.depth = 0

namespace Cycle

open LifeEvent

variable {l : Life}

lemma up_allowed (c : Cycle) (h : l.Fresh) :
    Along next Allowed l c.up ∧ (c.up.foldl next l).Up ∧
      (c.up.foldl next l).ndo.opened = l.ndo.opened := by
  obtain ⟨hprobed, _, hnet, hregister, hunregister, henabled, hdepth⟩ := h
  rw [up]
  split_ifs with hin
  · simp [Along, Allowed, next, Life.Up, hprobed, hnet, hregister, hunregister, henabled, hdepth,
      c.resource_ne, c.irq_ne]
  · simp [Along, Allowed, next, Life.Up, hprobed, hnet, hregister, hunregister, henabled, hdepth,
      c.resource_ne, c.irq_ne]

lemma openStop_allowed (o : OpenStop) (h : l.Up)
    (hopened : l.ndo.opened = .notCalled ∨ l.ndo.opened = .calledFailed) :
    Along next Allowed l o.events ∧ (o.events.foldl next l).Up ∧
      (o.events.foldl next l).ndo.opened = .calledOk := by
  obtain ⟨hprobed, hnet, hregister, hunregister, henabled, hdepth⟩ := h
  simp [OpenStop.events, Along, Allowed, next, Life.Up, hprobed, hnet, hregister, hunregister,
    henabled, hdepth, hopened, o.started_clear, o.stopped_set]

lemma down_allowed (c : Cycle) (h : l.Up) :
    Along next Allowed l c.down ∧ (c.down.foldl next l).probed = .calledOk := by
  obtain ⟨hprobed, hnet, hregister, hunregister, henabled, hdepth⟩ := h
  rw [down]
  split_ifs with hin
  · simp [Along, Allowed, next, hprobed, hregister, hunregister, henabled, hdepth]
  · simp [Along, Allowed, next, hprobed, hregister, hunregister, henabled, hdepth]

/-- The first cycle is allowed if it opens the device at most once. -/
lemma events_allowed (c : Cycle) (h : l.Fresh) (hopens : c.opens.length ≤ 1) :
    Along next Allowed l c.events ∧ (c.events.foldl next l).probed = .calledOk := by
  obtain ⟨hup, hisUp, hopened⟩ := c.up_allowed h
  rw [events, List.foldl_append, List.foldl_append]
  match hc : c.opens with
  | [] =>
      obtain ⟨hdown, hprobed⟩ := c.down_allowed hisUp
      rw [List.flatMap_nil, List.append_nil]
      exact ⟨hup.append hdown, hprobed⟩
  | [o] =>
      obtain ⟨ho, hoUp, _⟩ := openStop_allowed o hisUp (by rw [hopened]; exact h.2.1)
      obtain ⟨hdown, hprobed⟩ := c.down_allowed hoUp
      rw [List.flatMap_singleton]
      refine ⟨(hup.append ho).append ?_, hprobed⟩
      rw [List.foldl_append]
      exact hdown
  | o₁ :: o₂ :: os =>
      rw [hc] at hopens
      simp at hopens

section

variable {blocking user : ℕ} {s s' : CheckState}

/-- The first cycle goes through if it opens the device at most once. -/
lemma run_of_opens_le (c : Cycle) (h : LifeIs blocking user s l) (hl : l.Fresh)
    (hopens : c.opens.length ≤ 1) :
    ∃ s', c.run s = .ok s' ∧ ∃ l', LifeIs blocking user s' l' ∧ l'.probed = .calledOk := by
  obtain ⟨hallowed, hprobed⟩ := c.events_allowed hl hopens
  obtain ⟨s', hrun, hlife⟩ :=
    Along.run_ok exec_of_allowed c.events h (fun _ _ => trivial) hallowed
  exact ⟨s', hrun, _, hlife, hprobed⟩

/-- The first cycle opens the device at most once if it goes through. -/
lemma opens_le_of_run (c : Cycle) (h : LifeIs blocking user s l) (hl : l.Fresh)
    (hrun : c.run s = .ok s') : c.opens.length ≤ 1 := by
  match hc : c.opens with
  | [] | [_] => simp
  | o₁ :: o₂ :: os =>
      exfalso
      obtain ⟨hup, hisUp, hopened⟩ := c.up_allowed hl
      obtain ⟨ho, _, hdone⟩ := openStop_allowed o₁ hisUp (by rw [hopened]; exact hl.2.1)
      obtain ⟨s₁, hrun₁, hlife⟩ :=
        Along.run_ok exec_of_allowed (c.up ++ o₁.events) h (fun _ _ => trivial) (hup.append ho)
      rw [List.foldl_append] at hlife
      have hevents : c.events = (c.up ++ o₁.events) ++
          (LifeEvent.ndoOpen o₂.started :: LifeEvent.ndoStop o₂.stopped ::
            (os.flatMap OpenStop.events ++ c.down)) := by
        rw [events, hc]
        simp [OpenStop.events]
      rw [run, hevents] at hrun
      obtain ⟨s₂, hrun₂, hrest⟩ := foldlM_append_eq_ok.mp hrun
      cases hrun₁.symm.trans hrun₂
      rw [List.foldlM_cons] at hrest
      obtain ⟨s₃, hopen, _⟩ := bind_eq_ok.mp hrest
      exact exec_ndoOpen_opened hlife hdone hopen

/-- After a complete cycle no other goes through. -/
lemma run_of_probed (c : Cycle) (h : LifeIs blocking user s l) (hprobed : l.probed = .calledOk) :
    c.run s ≠ .ok s' := by
  have hevents : ∃ rest, c.events = .probePre c.dev :: rest := by
    rw [events, up]
    split_ifs with hin
    · exact ⟨_, rfl⟩
    · exact ⟨_, rfl⟩
  obtain ⟨rest, hevents⟩ := hevents
  intro hrun
  rw [run, hevents, List.foldlM_cons] at hrun
  obtain ⟨s₁, hprobe, _⟩ := bind_eq_ok.mp hrun
  exact exec_probePre_probed h hprobed hprobe

end

end Cycle

lemma Fresh.lifeIs {r : Records} (h : Fresh r) :
    ∃ l, LifeIs r.test.blockingContextCurrent r.userContextCurrent (.free r) l ∧ l.Fresh :=
  ⟨{ probed := .notCalled, ndo := r.ndo, enabled := r.pciEnabled, depth := 0 },
    { free := rfl
      bus_nonneg := h.bus_nonneg
      probed := h.probed
      ndo := rfl
      sound := h.sound
      enabled := rfl
      blocking_eq := rfl
      user_eq := rfl
      blocking_room := h.blocking_room
      user_room := h.user_room },
    rfl, h.opened, h.net, h.registerNetdev, h.unregisterNetdev, h.disabled, rfl⟩

/-- Two cycles never go through. -/
lemma not_repeatable_second {r : Records} (h : Fresh r) (c₁ c₂ : Cycle) (cycles : List Cycle) :
    ¬ Repeatable (.free r) (c₁ :: c₂ :: cycles) := by
  rintro ⟨life, s₁, hrun₁, _, s₂, hrun₂, _⟩
  obtain ⟨l, hlife, hl⟩ := h.lifeIs
  obtain ⟨s', hrun, l', hlife', hprobed⟩ :=
    c₁.run_of_opens_le hlife hl (c₁.opens_le_of_run hlife hl hrun₁)
  cases hrun₁.symm.trans hrun
  exact c₂.run_of_probed hlife' hprobed hrun₂

/-- **The lifecycle is not repeatable.**  The cycles of a driver go through iff there is at most one
and it opens the device at most once. -/
theorem lifecycle_repeatable_iff (r : Records) (hr : Fresh r) (cycles : List Cycle) :
    Repeatable (.free r) cycles ↔ cycles.length ≤ 1 ∧ ∀ c ∈ cycles, c.opens.length ≤ 1 := by
  obtain ⟨l, hlife, hl⟩ := hr.lifeIs
  match cycles with
  | [] => exact iff_of_true ⟨(CheckState.free r).life, trivial⟩ ⟨by simp, by simp⟩
  | [c] =>
      constructor
      · rintro ⟨life, s', hrun, _⟩
        exact ⟨le_refl 1, by simpa using c.opens_le_of_run hlife hl hrun⟩
      · rintro ⟨_, hopens⟩
        obtain ⟨s', hrun, _⟩ := c.run_of_opens_le hlife hl (hopens c (by simp))
        exact ⟨s'.life, s', hrun, rfl, trivial⟩
  | c₁ :: c₂ :: cycles =>
      refine iff_of_false (not_repeatable_second hr c₁ c₂ cycles) ?_
      rintro ⟨hlength, _⟩
      simp at hlength

lemma fresh_initial : Fresh .initial where
  bus_nonneg := fun _ => le_refl 0
  probed := rfl
  disabled := by decide
  net := rfl
  sound := rfl
  opened := .inl rfl
  registerNetdev := rfl
  unregisterNetdev := rfl
  blocking_room := by decide
  user_room := by decide

/-- A driver that registers and unregisters its network device while it is probed and removed. -/
def Cycle.plain (opens : List OpenStop) : Cycle where
  dev := { resourceStart := 0xfebc0000, irq := 11 }
  resource_ne := by decide
  irq_ne := by decide
  opens := opens
  inProbe := true
  inRemove := true

/-- The transmit queue is started and stopped by its bit 0. -/
def OpenStop.plain : OpenStop where
  started := { state := 0, queueStateXoff := 0 }
  stopped := { state := 1, queueStateXoff := 0 }
  started_clear := by decide
  stopped_set := by decide

theorem lifecycle_repeatable_once : Repeatable (.free .initial) [.plain [.plain]] :=
  (lifecycle_repeatable_iff .initial fresh_initial [.plain [.plain]]).mpr (by decide)

/-- **The second cycle is refused**, even of a driver that never opens the device. -/
theorem second_cycle_asserts : ¬ Repeatable (.free .initial) [.plain [], .plain []] :=
  not_repeatable_second fresh_initial (.plain []) (.plain []) []

end SymDrive

import SymDrive.Gtf.DriverState

/-!
# Entry points of the driver

The checks around the functions of the driver that the kernel calls: `structs/file_operations.c`,
`structs/pci_driver.c`, `structs/net_device_ops.c`, the poll callbacks of `misc_checks/main.c` and
the interrupt handlers of `misc_checks/irq.c`.

Before the driver runs, each pushes the context the kernel calls it in; afterwards it pops it again.
Most push both contexts with `push_kernel_state`; the poll callbacks push the blocking context only.
What the routines hand to the entry-point tests (`ep_init_pci_dev`, `ep_init_net`) or make symbolic
is left out.
-/

namespace SymDrive

open Checked

/-! ## The stacks of contexts -/

/-- `push_user_state`.  As for the blocking contexts, the entry is written before the nesting is
checked. -/
def pushUserState (r : Records) (userContext : UserContext) : Except Fault Records :=
  let current := r.userContextCurrent + 1
  if current < maxNesting then
    .ok { r with userContextCurrent := current,
                 userContext := Function.update r.userContext current userContext }
  else .error (.outOfBounds .pushUserState)

def popUserState (r : Records) : Except Fault Records := do
  tfassertDetail .popUserState (r.userContextCurrent > 0)
    s!"pop_user_state: set_user_state not called properly: {r.userContextCurrent}.\n"
  .ok { r with userContextCurrent := r.userContextCurrent - 1 }

/-- An operation on the state that the lock checks share. -/
def Records.onTest (r : Records) (f : GlobalState → Except Fault GlobalState) :
    Except Fault Records :=
  (f r.test).map fun g => { r with test := g }

def pushKernelState (r : Records) (blockingContext : BlockingContext) (userContext : UserContext) :
    Except Fault Records := do
  let r ← r.onTest fun g => pushBlockingState g blockingContext
  pushUserState r userContext

def popKernelState (r : Records) : Except Fault Records := do
  let r ← r.onTest popBlockingState
  popUserState r

/-- The records with one more context on both stacks. -/
def Records.pushed (r : Records) (blockingContext : BlockingContext) (userContext : UserContext) :
    Records :=
  { r with
    test := { r.test with
      blockingContextCurrent := r.test.blockingContextCurrent + 1
      blockingContext := Function.update r.test.blockingContext (r.test.blockingContextCurrent + 1)
        blockingContext }
    userContextCurrent := r.userContextCurrent + 1
    userContext := Function.update r.userContext (r.userContextCurrent + 1) userContext }

/-- The records with one context less on both stacks. -/
def Records.popped (r : Records) : Records :=
  { r with
    test := { r.test with blockingContextCurrent := r.test.blockingContextCurrent - 1 }
    userContextCurrent := r.userContextCurrent - 1 }

lemma pushKernelState_of_room {r : Records} (b : BlockingContext) (u : UserContext)
    (hblocking : r.test.blockingContextCurrent + 1 < maxNesting)
    (huser : r.userContextCurrent + 1 < maxNesting) :
    pushKernelState r b u = .ok (r.pushed b u) := by
  have hpush : r.onTest (fun g => pushBlockingState g b) = .ok
      { r with test := { r.test with
          blockingContextCurrent := r.test.blockingContextCurrent + 1
          blockingContext := Function.update r.test.blockingContext
            (r.test.blockingContextCurrent + 1) b } } := by
    simp only [Records.onTest, pushBlockingState, if_pos hblocking]
    rfl
  rw [pushKernelState, hpush, ok_bind]
  simp only [pushUserState, if_pos huser]
  rfl

lemma popKernelState_of_pos {r : Records} (hblocking : 0 < r.test.blockingContextCurrent)
    (huser : 0 < r.userContextCurrent) : popKernelState r = .ok r.popped := by
  have hpop : r.onTest popBlockingState = .ok
      { r with test := { r.test with
          blockingContextCurrent := r.test.blockingContextCurrent - 1 } } := by
    rw [Records.onTest, popBlockingState, tfassertDetail_of_true hblocking]
    rfl
  rw [popKernelState, hpop, ok_bind, popUserState, tfassertDetail_of_true huser]
  rfl

/-- A check that pushes a context before the call and pops it after the call, and nothing else. -/
def kernelStateCheck (check : Check) (blockingContext : BlockingContext)
    (userContext : UserContext) (s : CheckState) (prepost : ℤ) : Except Fault CheckState :=
  checkRoutine s <| prepostBody check prepost
    (fun r => pushKernelState r blockingContext userContext) popKernelState

/-! ## File operations -/

def fileOperationsMJRcheck (op : FileOperation) (s : CheckState) (prepost : ℤ) :
    Except Fault CheckState :=
  kernelStateCheck (.fileOperations op) .yes .yes s prepost

/-! ## PCI drivers -/

/-- What the check of `probe` reads of a `struct pci_dev`. -/
structure PciDev where
  resourceStart : ULong
  irq : ULong

def pciDriverProbeMJRcheck (s : CheckState) (prepost retval : ℤ) (dev : PciDev) :
    Except Fault CheckState :=
  checkRoutine s <| prepostBody .pciDriverProbe prepost
    (fun r => do
      tfassert (.check .pciDriverProbe) ((r.buses .pci).probed = .notCalled)
      tfassert (.check .pciDriverProbe) (dev.resourceStart ≠ 0)
      tfassert (.check .pciDriverProbe) (dev.irq ≠ 0)
      let r ← pushKernelState r .yes .no
      r.onBus .pci (setProbed .inProgress))
    (fun r => do
      let r ← r.onBus .pci (setProbed (if retval = 0 then .calledOk else .calledFailed))
      let driverClass ← getDriverClass r
      if driverClass = .net then
        if retval = 0 then
          tfassert (.check .pciDriverProbe) (r.ndo.registerNetdev = .calledOk)
        else
          tfassert (.check .pciDriverProbe)
            (r.ndo.registerNetdev = .calledFailed ∨ r.ndo.registerNetdev = .notCalled)
      popKernelState r)

/-- The record of the probe stays as it is. -/
def pciDriverRemoveMJRcheck (s : CheckState) (prepost : ℤ) : Except Fault CheckState :=
  kernelStateCheck .pciDriverRemove .yes .no s prepost

def pciDriverResumeEarlyMJRcheck (s : CheckState) (prepost : ℤ) : Except Fault CheckState :=
  kernelStateCheck .pciDriverResumeEarly .yes .no s prepost

def pciDriverResumeMJRcheck (s : CheckState) (prepost : ℤ) : Except Fault CheckState :=
  kernelStateCheck .pciDriverResume .yes .no s prepost

def pciDriverShutdownMJRcheck (s : CheckState) (prepost : ℤ) : Except Fault CheckState :=
  kernelStateCheck .pciDriverShutdown .yes .no s prepost

/-! ## Network devices -/

/-- The state of a transmit queue, with the value that the kernel headers give to
`__QUEUE_STATE_XOFF`. -/
structure TxQueue where
  state : ULong
  queueStateXoff : ULong

/-- `is_irq_allocated` of `irq.c`. -/
def isIrqAllocated (irq : IrqState) : Bool := decide (irq.symNumRequests > 0)

/-- The test of `ndo_open`, `ndo_stop` and `ndo_start_xmit` that some bus has probed the driver. -/
def Records.Probed (r : Records) : Prop :=
  (r.buses .pci).probed = .calledOk ∨ (r.buses .usb).probed = .calledOk ∨
    (r.buses .i2c).probed = .calledOk ∨ (r.buses .platform).probed = .calledOk ∨
    (r.buses .spi).probed = .calledOk

instance (r : Records) : Decidable r.Probed := by unfold Records.Probed; infer_instance

/-- `set_call_state` on `ndo_driver_state.opened`. -/
def setOpened (r : Records) (newState : CallState) : Except Fault Records := do
  let opened ← setCallState r.ndo.opened newState
  .ok { r with ndo := { r.ndo with opened := opened } }

/-- `txq` is the first transmit queue after the call.  That the device has a name is a test of the
address of an array. -/
def netDeviceOpsNdoOpenMJRcheck (s : CheckState) (prepost retval : ℤ) (txq : TxQueue) :
    Except Fault CheckState :=
  checkRoutine s <| prepostBody .ndoOpen prepost
    (fun r => do
      tfassert (.check .ndoOpen) (r.ndo.opened = .notCalled ∨ r.ndo.opened = .calledFailed)
      tfassert (.check .ndoOpen) r.Probed
      let r ← pushKernelState r .yes .no
      setOpened r .inProgress)
    (fun r => do
      tfassert (.check .ndoOpen) (retval ≤ 0 ∧ retval ≥ -4095)
      if retval = 0 then do
        tfassert (.check .ndoOpen) (txq.state &&& txq.queueStateXoff = 0)
        let r ← setOpened r .calledOk
        popKernelState r
      else do
        tfassert (.check .ndoOpen) (isIrqAllocated r.irq = false)
        tfassert (.check .ndoOpen) (txq.state &&& txq.queueStateXoff ≠ 0)
        let r ← setOpened r .calledFailed
        popKernelState r)

/-- `test_bit(__QUEUE_STATE_XOFF, &txq->state)`. -/
def TxQueue.testXoff (txq : TxQueue) : Bool := txq.state.toNat.testBit txq.queueStateXoff.toNat

/-- The record of the open stays as it is. -/
def netDeviceOpsNdoStopMJRcheck (s : CheckState) (prepost : ℤ) (txq : TxQueue) :
    Except Fault CheckState :=
  checkRoutine s <| prepostBody .ndoStop prepost
    (fun r => do
      tfassert (.check .ndoStop) r.Probed
      pushKernelState r .yes .no)
    (fun r => do
      tfassert (.check .ndoStop) (txq.testXoff = true)
      popKernelState r)

/-- What the check of `ndo_start_xmit` reads of a `struct sk_buff`. -/
structure SkBuff where
  len : ULong
  head : ULong

/-- `ORIGIN_DEV_ALLOC_SKB`. -/
def originDevAllocSkb : Origin := 131072

/-- The buffer the kernel hands over counts as allocated during the call.  `retval` is compared with
`NETDEV_TX_OK`, which is 0; that the device has private data is a test of an address inside it; any
other `prepost` is let through. -/
def netDeviceOpsNdoStartXmitMJRcheck (s : CheckState) (mem : Alloc) (prepost retval : ℤ)
    (skb : SkBuff) : Except Fault CheckState :=
  checkRoutine s fun r =>
    if prepost = 0 then do
      tfassert (.check .ndoStartXmit) (skb.len ≤ 1536)
      tfassert (.check .ndoStartXmit) r.Probed
      let r ← pushKernelState r .no .no
      r.onTest fun g => genericAllocator g mem 1 skb.head (0 - 1) originDevAllocSkb
    else if prepost = 1 then do
      let r ← if retval ≠ 0 then r.onTest fun g => genericFree g 0 skb.head originDevAllocSkb
        else .ok r
      popKernelState r
    else .ok r

/-! ## Callbacks -/

/-- The poll callbacks leave the user context alone. -/
def netifNapiAddPollMJRcheck (s : CheckState) (prepost : ℤ) : Except Fault CheckState :=
  checkRoutine s <| prepostBody .netifNapiAddPoll prepost
    (fun r => r.onTest fun g => pushBlockingState g .no)
    (fun r => r.onTest popBlockingState)

def napiStructPollMJRcheck (s : CheckState) (prepost : ℤ) : Except Fault CheckState :=
  netifNapiAddPollMJRcheck s prepost

/-- `symForceReceive` is `g_sym_force_receive == 1`; what it switches on looks up the driver class,
and then only sets the priority of the path. -/
def interruptHandlerMJRcheck (s : CheckState) (symForceReceive : Bool) (prepost : ℤ) :
    Except Fault CheckState :=
  checkRoutine s <| prepostBody .interruptHandler prepost
    (fun r => do
      let r ← r.onTest fun g => pushBlockingState g .no
      pushUserState r .yes)
    (fun r => do
      let r ← r.onTest popBlockingState
      let r ← popUserState r
      if symForceReceive then do
        let _ ← getDriverClass r
        .ok r
      else .ok r)

end SymDrive

import SymDrive.Library.Checked

/-!
# Machine words and faults

`globals.h`.  The framework is a kernel module for 32-bit x86, so `unsigned long` and pointers are
`UInt32`.  A call of the framework either goes on or ends the current path with a `Fault`.  What
`uprintk` prints is left out.  An assertion keeps its own text, without line numbers and without
the name `fn` where no check reads it.
-/

namespace SymDrive

/-- `unsigned long`, and an address. -/
abbrev ULong := UInt32

/-- `%p` in a text: the hexadecimal digits of an address.  How they are padded differs between the
kernels and is left out. -/
def pointerText (x : ULong) : String := String.ofList (Nat.toDigits 16 x.toNat)

/-- `MAX_ERRNO` of the kernel headers. -/
def maxErrno : ULong := 4095

/-- `IS_ERR`: the last 4095 addresses stand for negative error numbers. -/
def isErr (x : ULong) : Bool := decide (x ≥ 0 - maxErrno)

/-- The checked members of `struct file_operations`. -/
inductive FileOperation where
  | llseek
  | read
  | write
  | aioRead
  | aioWrite
  | readdir
  | poll
  | unlockedIoctl
  | compatIoctl
  | mmap
  | open
  | flush
  | release
  | fsync
  | aioFsync
  | fasync
  | lock
  | sendpage
  | getUnmappedArea
  | checkFlags
  | flock
  | spliceWrite
  | spliceRead
  | setlease
  | fallocate
  deriving DecidableEq, Repr

/-- The kernel functions whose checks record an object. -/
inductive AllocApi where
  | getFreePages
  | dmaAllocCoherent
  | skbDmaMap
  | allocEtherdevMqs
  | allocNetdevMqs
  | kmalloc
  | kstrdup
  | vmalloc
  | allocSkb
  | devAllocSkb
  | netdevAllocSkb
  | usbAllocUrb
  | requestRegion
  | ioremapNocache
  | pciIoremapBar
  | pciMapSingle
  | pciMapPage
  | deviceRegister
  | deviceCreateFile
  | classCreate
  deriving DecidableEq, Repr

/-- The kernel functions whose checks take an object out again. -/
inductive FreeApi where
  | freePages
  | dmaFreeCoherent
  | skbDmaUnmap
  | freeNetdev
  | kfree
  | vfree
  | kfreeSkb
  | devKfreeSkbAny
  | consumeSkb
  | usbFreeUrb
  | releaseRegion
  | iounmap
  | pciUnmapSingle
  | pciUnmapPage
  | deviceUnregister
  | deviceRemoveFile
  | classDestroy
  deriving DecidableEq, Repr

/-- The kernel functions with a value to return whose checks keep the stubs from calling them. -/
inductive BypassApi where
  | gpioIsValid
  | gpioRequest
  | gpioRequestOne
  | gpioRequestArray
  | gpioDirectionInput
  | gpioDirectionOutput
  | gpioSetDebounce
  | gpioGetValue
  /-- `__gpio_get_value`. -/
  | underscoreGpioGetValue
  | gpioCansleep
  | gpioGetValueCansleep
  | gpioExport
  | gpioExportLink
  | gpioSysfsSetActiveLow
  | gpioToIrq
  | irqToGpio
  | pciBusWriteConfigByte
  | pciBusWriteConfigWord
  | pciBusWriteConfigDword
  | copyToUser
  | probeIrqMask
  | probeIrqOff
  | pciReadConfig
  deriving DecidableEq, Repr

/-- The check routines with assertions of their own, by the function they check. -/
inductive Check where
  | pciEnableDevice
  | pciDisableDevice
  | pciRegisterDriver
  | pciUnregisterDriver
  | usbRegisterDriver
  | usbDeregister
  | miscRegister
  | miscDeregister
  | protoRegister
  | protoUnregister
  | i2cAddDriver
  | i2cDelDriver
  | platformDriverRegister
  | platformDriverUnregister
  | spiRegisterDriver
  | spiUnregisterDriver
  | fileOperations (op : FileOperation)
  | pciDriverProbe
  | pciDriverRemove
  | pciDriverResumeEarly
  | pciDriverResume
  | pciDriverShutdown
  | ndoOpen
  | ndoStop
  | ndoStartXmit
  | netifNapiAddPoll
  | interruptHandler
  | registerNetdev
  | unregisterNetdev
  | requestThreadedIrq
  | freeIrq
  | enableIrq
  | disableIrq
  | ndoDoIoctl
  | protoOpsIoctl
  | scheduleTimeoutUninterruptible
  | addTimer
  | busDmamapLoad
  | busDmamapLoadMbuf
  | busDmamapLoadMbufSg
  | busDmamapUnload
  | calloutResetOn
  | alloc (api : AllocApi)
  | free (api : FreeApi)
  | bypass (api : BypassApi)
  deriving DecidableEq, Repr

/-- The functions whose assertions are modelled: `__func__` in the text of a failed assertion. -/
inductive Func where
  | pushBlockingState
  | popBlockingState
  | objsInsert
  | objsKeyPtr
  | objsValue
  | assertAllocated
  | genericAllocator
  | genericFree
  | genericLockAllocator
  | verifyLockState
  | lockKernelState
  | genericLockState
  | lockCheckRoutine
  | acquireGlobalLock
  | releaseGlobalLock
  | assertGlobalLock
  | popDriverCallStack
  | manageCallStack
  | verifyInvariants
  | verifySymretval
  | verifyRetval
  | genMakeSymbolicInt
  | pushUserState
  | popUserState
  | getDriverBus
  | setDriverBus
  | removeDriverBus
  | getDriverClass
  | setDriverClass
  | setDeviceState
  | setCallState
  | memFlagsTest
  | assertAllocatedWeak
  | trackerObjsKeyPtr
  | trackerObjsValue
  | trackerObjsInsert
  | simpleLookupMJRcheck
  | complexLookupMJRcheck
  | genLookupMJRcheck
  | generatedFn
  | callInterruptHandlers
  | ioctlCalledCapable
  | callCapable
  | dmaStructGet
  | dmaStructFind
  | dmaStructFree
  | busDmamapCallbackCommon
  | check (check : Check)
  deriving DecidableEq, Repr

/-- Why a path ends. -/
inductive Fault where
  /-- A failed `assert`, `tfassert` or `tfassert_detail`, with its text. -/
  | assertion (func : Func) (msg : String)
  /-- The code itself asks the hypervisor to end the path: `s2e_kill_state`. -/
  | killState (msg : String)
  /-- The code waits for a lock it holds itself. -/
  | deadlock
  /-- The code goes through a null pointer, or through an error number taken for a pointer. -/
  | nullDeref (func : Func)
  /-- The code writes past the end of an array. -/
  | outOfBounds (func : Func)
  /-- A recursive function did not return within the given number of calls. -/
  | outOfFuel
  deriving DecidableEq, Repr

/-- `tfassert_detail` in `func`. -/
def tfassertDetail (func : Func) (c : Prop) [Decidable c] (msg : String) : Except Fault Unit :=
  Checked.ensure c (.assertion func msg)

/-- `tfassert` in `func`; its text is the caller's name, which is not kept. -/
def tfassert (func : Func) (c : Prop) [Decidable c] : Except Fault Unit :=
  tfassertDetail func c ""

/-- An allocation whose result is used without a test. -/
def allocated (func : Func) (ok : Bool) : Except Fault Unit :=
  Checked.ensure (ok = true) (.nullDeref func)

section

variable {α : Type} {func : Func} {c : Prop} [Decidable c]

@[simp] lemma tfassertDetail_of_true (h : c) (msg : String) : tfassertDetail func c msg = .ok () :=
  Checked.ensure_of_true h _

@[simp] lemma tfassertDetail_of_false (h : ¬ c) (msg : String) :
    tfassertDetail func c msg = .error (.assertion func msg) :=
  Checked.ensure_of_false h _

@[simp] lemma tfassert_of_true (h : c) : tfassert func c = .ok () := Checked.ensure_of_true h _

@[simp] lemma tfassert_of_false (h : ¬ c) : tfassert func c = .error (.assertion func "") :=
  Checked.ensure_of_false h _

lemma tfassertDetail_eq_ok {msg : String} {u : Unit} : tfassertDetail func c msg = .ok u ↔ c :=
  Checked.ensure_eq_ok

lemma tfassertDetail_bind_eq_ok {msg : String} {f : Unit → Except Fault α} {a : α} :
    (tfassertDetail func c msg >>= f) = .ok a ↔ c ∧ f () = .ok a :=
  Checked.ensure_bind_eq_ok

lemma tfassert_bind_eq_ok {f : Unit → Except Fault α} {a : α} :
    (tfassert func c >>= f) = .ok a ↔ c ∧ f () = .ok a :=
  Checked.ensure_bind_eq_ok

lemma faultsIn_tfassertDetail {P : Fault → Prop} {msg : String} (h : P (.assertion func msg)) :
    Checked.FaultsIn P (tfassertDetail func c msg) :=
  Checked.faultsIn_ensure h

lemma faultsIn_tfassert {P : Fault → Prop} (h : P (.assertion func "")) :
    Checked.FaultsIn P (tfassert func c) :=
  Checked.faultsIn_ensure h

end

/-- The fault of a failed assertion. -/
def Fault.IsAssertion : Fault → Prop
  | .assertion _ _ => True
  | _ => False

/-- The fault of a failed assertion in one of the given functions. -/
def Fault.InFuncs (funcs : List Func) : Fault → Prop
  | .assertion func _ => func ∈ funcs
  | _ => False

end SymDrive

import SymDrive.Gtf.EntryPoints

/-!
# Check routines of allocators

The checks of the kernel functions that allocate or free, from `misc_checks/main.c`, `pci.c`,
`driver_core.c` and `class.c`.  After the call an allocator's check hands an address, a size and an
origin to `generic_allocator`; before the call the check of the matching free hands the address and
the origin to `generic_free`.

Some of the routines treat any other `prepost` as a mistake and some let it through, and a few look
at their arguments first.  `AllocCall.report` and `FreeCall.report` say what is handed over;
`AllocCall.check_post` and `FreeCall.check_pre` are the routines in these terms, and no later proof
unfolds them.

What the routines tell the hypervisor about device memory is left out.
-/

namespace SymDrive

open Checked

/-! ## Origins and allocation flags -/

def originKmalloc : Origin := 1
def originVmalloc : Origin := 2
def originGetFreePages : Origin := 4
def originDmaAllocCoherent : Origin := 8
def originPciMapSingle : Origin := 32
def originPciMapPage : Origin := 64
def originSkbDmaMap : Origin := 128
def originAllocEtherdevMqs : Origin := 256
def originAllocUrb : Origin := 512
def originDeviceRegister : Origin := 1024
def originGetDevice : Origin := 2048
def originIoremap : Origin := 65536
def originClassCreate : Origin := 262144
def originDevicefileCreate : Origin := 524288

/-- `GFP_ATOMIC` of the kernel headers. -/
def gfpAtomic : ULong := 0x20

/-- `GFP_KERNEL` of the kernel headers. -/
def gfpKernel : ULong := 0xd0

/-- The number of a context in `enum symdrive_blocking_context`. -/
def BlockingContext.number : BlockingContext → ℕ
  | undefined => 0
  | yes => 1
  | no => 2

/-- `mem_flags_test`. -/
def memFlagsTest (g : GlobalState) (blockingNo blockingYes memFlags : ULong) :
    Except Fault Unit :=
  if memFlags = blockingYes then
    tfassertDetail .memFlagsTest
      (kernelBlockingState g = .yes ∨ kernelBlockingState g = .undefined)
      s!"Memory flags inconsistent: {(kernelBlockingState g).number} vs GFP_KERNEL\n"
  else if memFlags = blockingNo then
    tfassertDetail .memFlagsTest
      (kernelBlockingState g = .no ∨ kernelBlockingState g = .undefined)
      s!"Memory flags inconsistent: {(kernelBlockingState g).number} vs GFP_ATOMIC\n"
  else .ok ()

/-! ## What the routines share -/

/-- `generic_allocator` under the lock. -/
def Records.genericAllocator (r : Records) (mem : Alloc) (prepost : ℤ)
    (object objectSize : ULong) (origin : Origin) : Except Fault Records :=
  r.onTest fun g => SymDrive.genericAllocator g mem prepost object objectSize origin

/-- `generic_free` under the lock. -/
def Records.genericFree (r : Records) (prepost : ℤ) (object : ULong) (origin : Origin) :
    Except Fault Records :=
  r.onTest fun g => SymDrive.genericFree g prepost object origin

/-- `mem_flags_test(fn, GFP_ATOMIC, GFP_KERNEL, flags)` under the lock. -/
def Records.memFlagsTest (r : Records) (flags : ULong) : Except Fault Records := do
  SymDrive.memFlagsTest r.test gfpAtomic gfpKernel flags
  .ok r

/-- `skb->head`, where `head` is what this member of the `struct sk_buff` at an address holds.
There is no memory behind NULL and behind an error number. -/
def skbHead (check : Check) (head : ULong → ULong) (skb : ULong) : Except Fault ULong := do
  ensure (skb ≠ 0 ∧ isErr skb = false) (.nullDeref (.check check))
  .ok (head skb)

/-- The check of an allocator that looks at nothing before the call. -/
def allocCheckRoutine (api : AllocApi) (s : CheckState) (mem : Alloc) (prepost : ℤ)
    (object objectSize : ULong) (origin : Origin) : Except Fault CheckState :=
  checkRoutine s <| prepostBody (.alloc api) prepost .ok
    fun r => r.genericAllocator mem prepost object objectSize origin

/-- The check of an allocator that lets any `prepost` but 1 through. -/
def postCheckRoutine (s : CheckState) (prepost : ℤ) (post : Records → Except Fault Records) :
    Except Fault CheckState :=
  checkRoutine s fun r => if prepost = 1 then post r else .ok r

/-- The check of a free that looks at nothing after the call. -/
def freeCheckRoutine (api : FreeApi) (s : CheckState) (prepost : ℤ)
    (pre : Records → Except Fault Records) : Except Fault CheckState :=
  checkRoutine s <| prepostBody (.free api) prepost pre .ok

/-- The check of a free that lets any `prepost` but 0 through. -/
def preCheckRoutine (s : CheckState) (prepost : ℤ) (pre : Records → Except Fault Records) :
    Except Fault CheckState :=
  checkRoutine s fun r => if prepost = 0 then pre r else .ok r

/-- The body of a free that takes the address of a pointer, which may be NULL (`none`), and lets a
NULL pointer through. -/
def freeUnlessNull (api : FreeApi) (name : String) (arg : Option ULong) (origin : Origin)
    (r : Records) : Except Fault Records := do
  tfassertDetail (.check (.free api)) (arg ≠ none)
    s!"{name}, but you should be taking &thepointer so ..."
  match arg with
  | none => .ok r
  | some object => if object = 0 then .ok r else r.genericFree 0 object origin

/-! ## Allocators -/

/-- The size is `1 << (*order)`: a number of pages. -/
def getFreePagesMJRcheck (s : CheckState) (mem : Alloc) (prepost : ℤ) (retval order : ULong) :
    Except Fault CheckState :=
  allocCheckRoutine .getFreePages s mem prepost retval (1 <<< order) originGetFreePages

/-- The object is the buffer as the driver sees it, and not the address that the device is given. -/
def dmaAllocCoherentMJRcheck (s : CheckState) (mem : Alloc) (prepost : ℤ) (retval size : ULong) :
    Except Fault CheckState :=
  allocCheckRoutine .dmaAllocCoherent s mem prepost retval size originDmaAllocCoherent

/-- Both tests of `prepost` are for 1. -/
def skbDmaMapMJRcheck (s : CheckState) (mem : Alloc) (prepost : ℤ) (skb : ULong) :
    Except Fault CheckState :=
  checkRoutine s fun r =>
    if prepost = 1 then .ok r
    else if prepost = 1 then r.genericAllocator mem prepost skb (0 - 1) originSkbDmaMap
    else .error (.assertion (.check (.alloc .skbDmaMap)) "")

/-- The size of a network device is not known here: -1 stands for it. -/
def allocEtherdevMqsMJRcheck (s : CheckState) (mem : Alloc) (prepost : ℤ) (retval : ULong) :
    Except Fault CheckState :=
  allocCheckRoutine .allocEtherdevMqs s mem prepost retval (0 - 1) originAllocEtherdevMqs

def allocNetdevMqsMJRcheck (s : CheckState) (mem : Alloc) (prepost : ℤ) (retval : ULong) :
    Except Fault CheckState :=
  allocCheckRoutine .allocNetdevMqs s mem prepost retval (0 - 1) originAllocEtherdevMqs

/-- The flags are checked against the context before the call. -/
def kmallocMJRcheck (s : CheckState) (mem : Alloc) (prepost : ℤ) (retval arg0 arg1 : ULong) :
    Except Fault CheckState :=
  checkRoutine s <| prepostBody (.alloc .kmalloc) prepost (fun r => r.memFlagsTest arg1)
    fun r => r.genericAllocator mem prepost retval arg0 originKmalloc

/-- The flags are checked as in `kmalloc_MJRcheck`, and another `prepost` is let through. -/
def kstrdupMJRcheck (s : CheckState) (mem : Alloc) (prepost : ℤ) (retval arg1 : ULong) :
    Except Fault CheckState :=
  checkRoutine s fun r =>
    if prepost = 0 then r.memFlagsTest arg1
    else if prepost = 1 then r.genericAllocator mem prepost retval (0 - 1) originKmalloc
    else .ok r

def vmallocMJRcheck (s : CheckState) (mem : Alloc) (prepost : ℤ) (retval arg0 : ULong) :
    Except Fault CheckState :=
  allocCheckRoutine .vmalloc s mem prepost retval arg0 originVmalloc

/-- The size handed over is `size` itself, the address of the argument; `*size` is not read. -/
def allocSkbMJRcheck (s : CheckState) (mem : Alloc) (head : ULong → ULong) (prepost : ℤ)
    (retval size : ULong) : Except Fault CheckState :=
  postCheckRoutine s prepost fun r => do
    let object ← skbHead (.alloc .allocSkb) head retval
    r.genericAllocator mem prepost object size originDevAllocSkb

/-- A buffer is recorded under the address of its data, which is read even if there is no buffer. -/
def devAllocSkbMJRcheck (s : CheckState) (mem : Alloc) (head : ULong → ULong) (prepost : ℤ)
    (retval : ULong) : Except Fault CheckState :=
  checkRoutine s <| prepostBody (.alloc .devAllocSkb) prepost .ok fun r => do
    let object ← skbHead (.alloc .devAllocSkb) head retval
    r.genericAllocator mem prepost object (0 - 1) originDevAllocSkb

/-- The one check of the three that reads the buffer only if there is one. -/
def netdevAllocSkbMJRcheck (s : CheckState) (mem : Alloc) (head : ULong → ULong) (prepost : ℤ)
    (retval : ULong) : Except Fault CheckState :=
  postCheckRoutine s prepost fun r =>
    if retval ≠ 0 then do
      let object ← skbHead (.alloc .netdevAllocSkb) head retval
      r.genericAllocator mem prepost object (0 - 1) originDevAllocSkb
    else .ok r

/-- A failed allocation is left to `generic_allocator`, which records nothing for it. -/
def usbAllocUrbMJRcheck (s : CheckState) (mem : Alloc) (prepost : ℤ) (retval : ULong) :
    Except Fault CheckState :=
  postCheckRoutine s prepost fun r =>
    r.genericAllocator mem prepost retval (0 - 1) originAllocUrb

/-- What is recorded is the start of the region; `retval` is not looked at. -/
def requestRegionMJRcheck (s : CheckState) (mem : Alloc) (prepost : ℤ) (_retval start n : ULong) :
    Except Fault CheckState :=
  postCheckRoutine s prepost fun r => r.genericAllocator mem prepost start n originKmalloc

/-- A mapped region is an object like memory. -/
def ioremapNocacheMJRcheck (s : CheckState) (mem : Alloc) (prepost : ℤ) (retval size : ULong) :
    Except Fault CheckState :=
  postCheckRoutine s prepost fun r => r.genericAllocator mem prepost retval size originIoremap

/-- The size of the region is that of the BAR, which is not looked up. -/
def pciIoremapBarMJRcheck (s : CheckState) (mem : Alloc) (prepost : ℤ) (retval : ULong) :
    Except Fault CheckState :=
  postCheckRoutine s prepost fun r => r.genericAllocator mem prepost retval (0 - 1) originIoremap

/-- What is recorded is the address that the device is given. -/
def pciMapSingleMJRcheck (s : CheckState) (mem : Alloc) (prepost : ℤ) (retval size : ULong) :
    Except Fault CheckState :=
  postCheckRoutine s prepost fun r => r.genericAllocator mem prepost retval size originPciMapSingle

def pciMapPageMJRcheck (s : CheckState) (mem : Alloc) (prepost : ℤ) (retval size : ULong) :
    Except Fault CheckState :=
  postCheckRoutine s prepost fun r => r.genericAllocator mem prepost retval size originPciMapPage

/-- A failed registration keeps a reference to the device. -/
def deviceRegisterMJRcheck (s : CheckState) (mem : Alloc) (prepost : ℤ) (retval dev : ULong) :
    Except Fault CheckState :=
  postCheckRoutine s prepost fun r => r.genericAllocator mem prepost dev (0 - 1)
    (if retval = 0 then originDeviceRegister else originGetDevice)

/-- The object is the attribute, unless the call has failed. -/
def deviceCreateFileMJRcheck (s : CheckState) (mem : Alloc) (prepost : ℤ) (retval attr : ULong) :
    Except Fault CheckState :=
  checkRoutine s <| prepostBody (.alloc .deviceCreateFile) prepost .ok fun r =>
    if isErr retval = false then
      r.genericAllocator mem prepost attr (0 - 1) originDevicefileCreate
    else .ok r

/-- The object is the class, unless the call has failed. -/
def classCreateMJRcheck (s : CheckState) (mem : Alloc) (prepost : ℤ) (retval : ULong) :
    Except Fault CheckState :=
  checkRoutine s <| prepostBody (.alloc .classCreate) prepost .ok fun r =>
    if isErr retval = false then
      r.genericAllocator mem prepost retval (0 - 1) originClassCreate
    else .ok r

/-! ## Frees -/

/-- The order of the pages is not compared with that of the allocation. -/
def freePagesMJRcheck (s : CheckState) (prepost : ℤ) (addr : ULong) : Except Fault CheckState :=
  freeCheckRoutine .freePages s prepost fun r => r.genericFree prepost addr originGetFreePages

def dmaFreeCoherentMJRcheck (s : CheckState) (prepost : ℤ) (vaddr : ULong) :
    Except Fault CheckState :=
  freeCheckRoutine .dmaFreeCoherent s prepost
    fun r => r.genericFree prepost vaddr originDmaAllocCoherent

/-- The counterpart of `skb_dma_map_MJRcheck`, which never records its object. -/
def skbDmaUnmapMJRcheck (s : CheckState) (prepost : ℤ) (skb : ULong) : Except Fault CheckState :=
  freeCheckRoutine .skbDmaUnmap s prepost fun r => r.genericFree prepost skb originSkbDmaMap

/-- The number returned with the state is 1 where the stub leaves out the kernel function: on a bad
path, before the call.  The other checks return 0. -/
def freeNetdevMJRcheck (s : CheckState) (badPath prepost : ℤ) (dev : ULong) :
    Except Fault (CheckState × ℤ) := do
  let s ← preCheckRoutine s prepost fun r => r.genericFree prepost dev originAllocEtherdevMqs
  .ok (s, if prepost = 0 ∧ badPath ≠ 0 then 1 else 0)

/-- A free of NULL is allowed. -/
def kfreeMJRcheck (s : CheckState) (prepost : ℤ) (arg0 : Option ULong) :
    Except Fault CheckState :=
  freeCheckRoutine .kfree s prepost
    (freeUnlessNull .kfree "kfree_MJRcheck requires non-null arg0" arg0 originKmalloc)

def vfreeMJRcheck (s : CheckState) (prepost : ℤ) (arg0 : Option ULong) :
    Except Fault CheckState :=
  freeCheckRoutine .vfree s prepost
    (freeUnlessNull .vfree "vfree_MJRcheck requires non-null arg0" arg0 originVmalloc)

/-- What is dropped is the address of the data. -/
def kfreeSkbMJRcheck (s : CheckState) (head : ULong → ULong) (prepost : ℤ) (skb : ULong) :
    Except Fault CheckState :=
  preCheckRoutine s prepost fun r => do
    let object ← skbHead (.free .kfreeSkb) head skb
    r.genericFree prepost object originDevAllocSkb

def devKfreeSkbAnyMJRcheck (s : CheckState) (head : ULong → ULong) (prepost : ℤ) (skb : ULong) :
    Except Fault CheckState :=
  freeCheckRoutine .devKfreeSkbAny s prepost fun r => do
    let object ← skbHead (.free .devKfreeSkbAny) head skb
    r.genericFree prepost object originDevAllocSkb

def consumeSkbMJRcheck (s : CheckState) (head : ULong → ULong) (prepost : ℤ) (skb : ULong) :
    Except Fault CheckState :=
  freeCheckRoutine .consumeSkb s prepost fun r => do
    let object ← skbHead (.free .consumeSkb) head skb
    r.genericFree prepost object originDevAllocSkb

def usbFreeUrbMJRcheck (s : CheckState) (prepost : ℤ) (urb : Option ULong) :
    Except Fault CheckState :=
  freeCheckRoutine .usbFreeUrb s prepost
    (freeUnlessNull .usbFreeUrb "usb_free_urb_MJRcheck requires non-null urb" urb originAllocUrb)

/-- The region is dropped by its start, with the origin of `kmalloc`. -/
def releaseRegionMJRcheck (s : CheckState) (prepost : ℤ) (start : ULong) :
    Except Fault CheckState :=
  preCheckRoutine s prepost fun r => r.genericFree prepost start originKmalloc

def iounmapMJRcheck (s : CheckState) (prepost : ℤ) (addr : ULong) : Except Fault CheckState :=
  preCheckRoutine s prepost fun r => r.genericFree prepost addr originIoremap

def pciUnmapSingleMJRcheck (s : CheckState) (prepost : ℤ) (dmaAddr : ULong) :
    Except Fault CheckState :=
  preCheckRoutine s prepost fun r => r.genericFree prepost dmaAddr originPciMapSingle

def pciUnmapPageMJRcheck (s : CheckState) (prepost : ℤ) (dmaAddr : ULong) :
    Except Fault CheckState :=
  preCheckRoutine s prepost fun r => r.genericFree prepost dmaAddr originPciMapPage

/-- The device may be recorded under either of the two origins that a registration leaves. -/
def deviceUnregisterMJRcheck (s : CheckState) (prepost : ℤ) (dev : ULong) :
    Except Fault CheckState :=
  preCheckRoutine s prepost
    fun r => r.genericFree prepost dev (originDeviceRegister ||| originGetDevice)

def deviceRemoveFileMJRcheck (s : CheckState) (prepost : ℤ) (attr : ULong) :
    Except Fault CheckState :=
  freeCheckRoutine .deviceRemoveFile s prepost
    fun r => r.genericFree prepost attr originDevicefileCreate

def classDestroyMJRcheck (s : CheckState) (prepost : ℤ) (cls : ULong) : Except Fault CheckState :=
  freeCheckRoutine .classDestroy s prepost fun r => r.genericFree prepost cls originClassCreate

/-! ## Calls -/

/-- A completed call of an allocator: what the kernel returned, and the arguments that matter.  The
`size` of `__alloc_skb` lies at `sizePtr`. -/
inductive AllocCall where
  | getFreePages (retval order : ULong)
  | dmaAllocCoherent (retval size : ULong)
  | skbDmaMap (skb : ULong)
  | allocEtherdevMqs (retval : ULong)
  | allocNetdevMqs (retval : ULong)
  | kmalloc (retval size flags : ULong)
  | kstrdup (retval flags : ULong)
  | vmalloc (retval size : ULong)
  | allocSkb (retval size sizePtr : ULong)
  | devAllocSkb (retval : ULong)
  | netdevAllocSkb (retval : ULong)
  | usbAllocUrb (retval : ULong)
  | requestRegion (retval start n : ULong)
  | ioremapNocache (retval size : ULong)
  | pciIoremapBar (retval : ULong)
  | pciMapSingle (retval size : ULong)
  | pciMapPage (retval size : ULong)
  | deviceRegister (retval dev : ULong)
  | deviceCreateFile (retval attr : ULong)
  | classCreate (retval : ULong)
  deriving DecidableEq

/-- A call that frees. -/
inductive FreeCall where
  | freePages (addr : ULong)
  | dmaFreeCoherent (vaddr : ULong)
  | skbDmaUnmap (skb : ULong)
  | freeNetdev (badPath : ℤ) (dev : ULong)
  | kfree (arg0 : Option ULong)
  | vfree (arg0 : Option ULong)
  | kfreeSkb (skb : ULong)
  | devKfreeSkbAny (skb : ULong)
  | consumeSkb (skb : ULong)
  | usbFreeUrb (urb : Option ULong)
  | releaseRegion (start : ULong)
  | iounmap (addr : ULong)
  | pciUnmapSingle (dmaAddr : ULong)
  | pciUnmapPage (dmaAddr : ULong)
  | deviceUnregister (dev : ULong)
  | deviceRemoveFile (attr : ULong)
  | classDestroy (cls : ULong)
  deriving DecidableEq

/-- What an allocator's check hands to `generic_allocator`. -/
structure Report where
  object : ULong
  size : ULong
  origin : Origin

namespace AllocCall

/-- The check routine the stub looks up. -/
def check (mem : Alloc) (head : ULong → ULong) (s : CheckState) (prepost : ℤ) :
    AllocCall → Except Fault CheckState
  | getFreePages retval order => getFreePagesMJRcheck s mem prepost retval order
  | dmaAllocCoherent retval size => dmaAllocCoherentMJRcheck s mem prepost retval size
  | skbDmaMap skb => skbDmaMapMJRcheck s mem prepost skb
  | allocEtherdevMqs retval => allocEtherdevMqsMJRcheck s mem prepost retval
  | allocNetdevMqs retval => allocNetdevMqsMJRcheck s mem prepost retval
  | kmalloc retval size flags => kmallocMJRcheck s mem prepost retval size flags
  | kstrdup retval flags => kstrdupMJRcheck s mem prepost retval flags
  | vmalloc retval size => vmallocMJRcheck s mem prepost retval size
  | allocSkb retval _ sizePtr => allocSkbMJRcheck s mem head prepost retval sizePtr
  | devAllocSkb retval => devAllocSkbMJRcheck s mem head prepost retval
  | netdevAllocSkb retval => netdevAllocSkbMJRcheck s mem head prepost retval
  | usbAllocUrb retval => usbAllocUrbMJRcheck s mem prepost retval
  | requestRegion retval start n => requestRegionMJRcheck s mem prepost retval start n
  | ioremapNocache retval size => ioremapNocacheMJRcheck s mem prepost retval size
  | pciIoremapBar retval => pciIoremapBarMJRcheck s mem prepost retval
  | pciMapSingle retval size => pciMapSingleMJRcheck s mem prepost retval size
  | pciMapPage retval size => pciMapPageMJRcheck s mem prepost retval size
  | deviceRegister retval dev => deviceRegisterMJRcheck s mem prepost retval dev
  | deviceCreateFile retval attr => deviceCreateFileMJRcheck s mem prepost retval attr
  | classCreate retval => classCreateMJRcheck s mem prepost retval

/-- What the check before the call does. -/
def pre (c : AllocCall) (r : Records) : Except Fault Records :=
  match c with
  | skbDmaMap _ => .error (.assertion (.check (.alloc .skbDmaMap)) "")
  | kmalloc _ _ flags | kstrdup _ flags => r.memFlagsTest flags
  | _ => .ok r

/-- What the check after the call hands to `generic_allocator`, if anything. -/
def report (head : ULong → ULong) : AllocCall → Except Fault (Option Report)
  | getFreePages retval order => .ok (some ⟨retval, 1 <<< order, originGetFreePages⟩)
  | dmaAllocCoherent retval size => .ok (some ⟨retval, size, originDmaAllocCoherent⟩)
  | skbDmaMap _ => .ok none
  | allocEtherdevMqs retval | allocNetdevMqs retval =>
      .ok (some ⟨retval, 0 - 1, originAllocEtherdevMqs⟩)
  | kmalloc retval size _ => .ok (some ⟨retval, size, originKmalloc⟩)
  | kstrdup retval _ => .ok (some ⟨retval, 0 - 1, originKmalloc⟩)
  | vmalloc retval size => .ok (some ⟨retval, size, originVmalloc⟩)
  | allocSkb retval _ sizePtr => (skbHead (.alloc .allocSkb) head retval).map
      fun object => some ⟨object, sizePtr, originDevAllocSkb⟩
  | devAllocSkb retval => (skbHead (.alloc .devAllocSkb) head retval).map
      fun object => some ⟨object, 0 - 1, originDevAllocSkb⟩
  | netdevAllocSkb retval =>
      if retval ≠ 0 then (skbHead (.alloc .netdevAllocSkb) head retval).map
        fun object => some ⟨object, 0 - 1, originDevAllocSkb⟩
      else .ok none
  | usbAllocUrb retval => .ok (some ⟨retval, 0 - 1, originAllocUrb⟩)
  | requestRegion _ start n => .ok (some ⟨start, n, originKmalloc⟩)
  | ioremapNocache retval size => .ok (some ⟨retval, size, originIoremap⟩)
  | pciIoremapBar retval => .ok (some ⟨retval, 0 - 1, originIoremap⟩)
  | pciMapSingle retval size => .ok (some ⟨retval, size, originPciMapSingle⟩)
  | pciMapPage retval size => .ok (some ⟨retval, size, originPciMapPage⟩)
  | deviceRegister retval dev =>
      .ok (some ⟨dev, 0 - 1, if retval = 0 then originDeviceRegister else originGetDevice⟩)
  | deviceCreateFile retval attr =>
      .ok (if isErr retval = false then some ⟨attr, 0 - 1, originDevicefileCreate⟩ else none)
  | classCreate retval =>
      .ok (if isErr retval = false then some ⟨retval, 0 - 1, originClassCreate⟩ else none)

end AllocCall

/-- What becomes of a report. -/
def Records.record (r : Records) (mem : Alloc) : Option Report → Except Fault Records
  | none => .ok r
  | some p => r.genericAllocator mem 1 p.object p.size p.origin

namespace FreeCall

/-- The check routine the stub looks up. -/
def check (head : ULong → ULong) (s : CheckState) (prepost : ℤ) :
    FreeCall → Except Fault CheckState
  | freePages addr => freePagesMJRcheck s prepost addr
  | dmaFreeCoherent vaddr => dmaFreeCoherentMJRcheck s prepost vaddr
  | skbDmaUnmap skb => skbDmaUnmapMJRcheck s prepost skb
  | freeNetdev badPath dev => (freeNetdevMJRcheck s badPath prepost dev).map Prod.fst
  | kfree arg0 => kfreeMJRcheck s prepost arg0
  | vfree arg0 => vfreeMJRcheck s prepost arg0
  | kfreeSkb skb => kfreeSkbMJRcheck s head prepost skb
  | devKfreeSkbAny skb => devKfreeSkbAnyMJRcheck s head prepost skb
  | consumeSkb skb => consumeSkbMJRcheck s head prepost skb
  | usbFreeUrb urb => usbFreeUrbMJRcheck s prepost urb
  | releaseRegion start => releaseRegionMJRcheck s prepost start
  | iounmap addr => iounmapMJRcheck s prepost addr
  | pciUnmapSingle dmaAddr => pciUnmapSingleMJRcheck s prepost dmaAddr
  | pciUnmapPage dmaAddr => pciUnmapPageMJRcheck s prepost dmaAddr
  | deviceUnregister dev => deviceUnregisterMJRcheck s prepost dev
  | deviceRemoveFile attr => deviceRemoveFileMJRcheck s prepost attr
  | classDestroy cls => classDestroyMJRcheck s prepost cls

/-- What a free of this pointer hands to `generic_free`. -/
def unlessNull (api : FreeApi) (name : String) (origin : Origin) :
    Option ULong → Except Fault (Option (ULong × Origin))
  | none => .error (.assertion (.check (.free api))
      s!"{name}, but you should be taking &thepointer so ...")
  | some object => .ok (if object = 0 then none else some (object, origin))

/-- What the check before the call hands to `generic_free`, if anything. -/
def report (head : ULong → ULong) : FreeCall → Except Fault (Option (ULong × Origin))
  | freePages addr => .ok (some (addr, originGetFreePages))
  | dmaFreeCoherent vaddr => .ok (some (vaddr, originDmaAllocCoherent))
  | skbDmaUnmap skb => .ok (some (skb, originSkbDmaMap))
  | freeNetdev _ dev => .ok (some (dev, originAllocEtherdevMqs))
  | kfree arg0 => unlessNull .kfree "kfree_MJRcheck requires non-null arg0" originKmalloc arg0
  | vfree arg0 => unlessNull .vfree "vfree_MJRcheck requires non-null arg0" originVmalloc arg0
  | kfreeSkb skb =>
      (skbHead (.free .kfreeSkb) head skb).map fun object => some (object, originDevAllocSkb)
  | devKfreeSkbAny skb =>
      (skbHead (.free .devKfreeSkbAny) head skb).map fun object => some (object, originDevAllocSkb)
  | consumeSkb skb =>
      (skbHead (.free .consumeSkb) head skb).map fun object => some (object, originDevAllocSkb)
  | usbFreeUrb urb =>
      unlessNull .usbFreeUrb "usb_free_urb_MJRcheck requires non-null urb" originAllocUrb urb
  | releaseRegion start => .ok (some (start, originKmalloc))
  | iounmap addr => .ok (some (addr, originIoremap))
  | pciUnmapSingle dmaAddr => .ok (some (dmaAddr, originPciMapSingle))
  | pciUnmapPage dmaAddr => .ok (some (dmaAddr, originPciMapPage))
  | deviceUnregister dev => .ok (some (dev, originDeviceRegister ||| originGetDevice))
  | deviceRemoveFile attr => .ok (some (attr, originDevicefileCreate))
  | classDestroy cls => .ok (some (cls, originClassCreate))

end FreeCall

/-- What becomes of the report of a free. -/
def Records.drop (r : Records) : Option (ULong × Origin) → Except Fault Records
  | none => .ok r
  | some p => r.genericFree 0 p.1 p.2

/-! ## The routines in terms of their reports -/

section

variable (mem : Alloc) (head : ULong → ULong) (r : Records)

/-- Before the call the check of an allocator lets everything be. -/
lemma allocCheckRoutine_zero (api : AllocApi) (object size : ULong) (origin : Origin) :
    allocCheckRoutine api (.free r) mem 0 object size origin = .ok (.free r) := by
  rw [allocCheckRoutine, prepostBody_zero, checkRoutine_free]
  rfl

/-- After the call it hands the object to the tracker. -/
lemma allocCheckRoutine_one (api : AllocApi) (object size : ULong) (origin : Origin) :
    allocCheckRoutine api (.free r) mem 1 object size origin =
      (r.genericAllocator mem 1 object size origin).map CheckState.free := by
  rw [allocCheckRoutine, prepostBody_one, checkRoutine_free]

/-- A check with a postcondition only lets everything be before the call. -/
lemma postCheckRoutine_zero (post : Records → Except Fault Records) :
    postCheckRoutine (.free r) 0 post = .ok (.free r) := by
  rw [postCheckRoutine, checkRoutine_free, if_neg (by decide)]
  rfl

lemma postCheckRoutine_one (post : Records → Except Fault Records) :
    postCheckRoutine (.free r) 1 post = (post r).map CheckState.free := by
  rw [postCheckRoutine, checkRoutine_free, if_pos rfl]

/-- Before the call the check of a free does its work. -/
lemma freeCheckRoutine_zero (api : FreeApi) (pre : Records → Except Fault Records) :
    freeCheckRoutine api (.free r) 0 pre = (pre r).map CheckState.free := by
  rw [freeCheckRoutine, prepostBody_zero, checkRoutine_free]

/-- After the call it lets everything be. -/
lemma freeCheckRoutine_one (api : FreeApi) (pre : Records → Except Fault Records) :
    freeCheckRoutine api (.free r) 1 pre = .ok (.free r) := by
  rw [freeCheckRoutine, prepostBody_one, checkRoutine_free]
  rfl

lemma preCheckRoutine_zero (pre : Records → Except Fault Records) :
    preCheckRoutine (.free r) 0 pre = (pre r).map CheckState.free := by
  rw [preCheckRoutine, checkRoutine_free, if_pos rfl]

lemma preCheckRoutine_one (pre : Records → Except Fault Records) :
    preCheckRoutine (.free r) 1 pre = .ok (.free r) := by
  rw [preCheckRoutine, checkRoutine_free, if_neg (by decide)]
  rfl

/-- A body that reads the head of a buffer first is its report. -/
lemma skbHead_record (check : Check) (skb size : ULong) (origin : Origin) :
    (skbHead check head skb >>= fun object => r.genericAllocator mem 1 object size origin) =
      ((skbHead check head skb).map fun object => some (Report.mk object size origin)) >>=
        r.record mem := by
  cases skbHead check head skb <;> rfl

/-- A free that reads the head of a buffer first is its report. -/
lemma skbHead_drop (check : Check) (skb : ULong) (origin : Origin) :
    (skbHead check head skb >>= fun object => r.genericFree 0 object origin) =
      ((skbHead check head skb).map fun object => some (object, origin)) >>= r.drop := by
  cases skbHead check head skb <;> rfl

/-- A free that lets NULL through is its report. -/
lemma freeUnlessNull_eq (api : FreeApi) (name : String) (arg : Option ULong) (origin : Origin) :
    freeUnlessNull api name arg origin r =
      FreeCall.unlessNull api name origin arg >>= r.drop := by
  cases arg with
  | none => rw [freeUnlessNull, tfassertDetail_of_false (by simp)]; rfl
  | some object =>
      rw [freeUnlessNull, tfassertDetail_of_true (by simp), ok_bind, FreeCall.unlessNull, ok_bind]
      split_ifs <;> rfl

end

/-- The check before the call. -/
lemma AllocCall.check_pre (mem : Alloc) (head : ULong → ULong) (r : Records) (c : AllocCall) :
    c.check mem head (.free r) 0 = (c.pre r).map CheckState.free := by
  cases c with
  | getFreePages | dmaAllocCoherent | allocEtherdevMqs | allocNetdevMqs | vmalloc =>
      exact allocCheckRoutine_zero mem r _ _ _ _
  | allocSkb => rw [check, allocSkbMJRcheck, postCheckRoutine_zero]; rfl
  | netdevAllocSkb => rw [check, netdevAllocSkbMJRcheck, postCheckRoutine_zero]; rfl
  | usbAllocUrb => rw [check, usbAllocUrbMJRcheck, postCheckRoutine_zero]; rfl
  | requestRegion => rw [check, requestRegionMJRcheck, postCheckRoutine_zero]; rfl
  | ioremapNocache => rw [check, ioremapNocacheMJRcheck, postCheckRoutine_zero]; rfl
  | pciIoremapBar => rw [check, pciIoremapBarMJRcheck, postCheckRoutine_zero]; rfl
  | pciMapSingle => rw [check, pciMapSingleMJRcheck, postCheckRoutine_zero]; rfl
  | pciMapPage => rw [check, pciMapPageMJRcheck, postCheckRoutine_zero]; rfl
  | deviceRegister => rw [check, deviceRegisterMJRcheck, postCheckRoutine_zero]; rfl
  | kmalloc => rw [check, kmallocMJRcheck, prepostBody_zero, checkRoutine_free]; rfl
  | devAllocSkb => rw [check, devAllocSkbMJRcheck, prepostBody_zero, checkRoutine_free]; rfl
  | deviceCreateFile =>
      rw [check, deviceCreateFileMJRcheck, prepostBody_zero, checkRoutine_free]; rfl
  | classCreate => rw [check, classCreateMJRcheck, prepostBody_zero, checkRoutine_free]; rfl
  | skbDmaMap => rw [check, skbDmaMapMJRcheck, checkRoutine_free]; rfl
  | kstrdup => rw [check, kstrdupMJRcheck, checkRoutine_free]; rfl

/-- The check after the call hands over the report. -/
lemma AllocCall.check_post (mem : Alloc) (head : ULong → ULong) (r : Records) (c : AllocCall) :
    c.check mem head (.free r) 1 = (c.report head >>= r.record mem).map CheckState.free := by
  cases c with
  | getFreePages | dmaAllocCoherent | allocEtherdevMqs | allocNetdevMqs | vmalloc =>
      exact allocCheckRoutine_one mem r _ _ _ _
  | usbAllocUrb => rw [check, usbAllocUrbMJRcheck, postCheckRoutine_one]; rfl
  | requestRegion => rw [check, requestRegionMJRcheck, postCheckRoutine_one]; rfl
  | ioremapNocache => rw [check, ioremapNocacheMJRcheck, postCheckRoutine_one]; rfl
  | pciIoremapBar => rw [check, pciIoremapBarMJRcheck, postCheckRoutine_one]; rfl
  | pciMapSingle => rw [check, pciMapSingleMJRcheck, postCheckRoutine_one]; rfl
  | pciMapPage => rw [check, pciMapPageMJRcheck, postCheckRoutine_one]; rfl
  | deviceRegister => rw [check, deviceRegisterMJRcheck, postCheckRoutine_one]; rfl
  | kmalloc => rw [check, kmallocMJRcheck, prepostBody_one, checkRoutine_free]; rfl
  | skbDmaMap => rw [check, skbDmaMapMJRcheck, checkRoutine_free]; rfl
  | kstrdup => rw [check, kstrdupMJRcheck, checkRoutine_free]; rfl
  | allocSkb retval size sizePtr =>
      rw [check, allocSkbMJRcheck, postCheckRoutine_one, report, skbHead_record]
  | devAllocSkb retval =>
      rw [check, devAllocSkbMJRcheck, prepostBody_one, checkRoutine_free, report, skbHead_record]
  | netdevAllocSkb retval =>
      rw [check, netdevAllocSkbMJRcheck, postCheckRoutine_one, report]
      split_ifs
      · rw [skbHead_record]
      · rfl
  | deviceCreateFile retval attr =>
      rw [check, deviceCreateFileMJRcheck, prepostBody_one, checkRoutine_free, report, ok_bind]
      split_ifs <;> rfl
  | classCreate retval =>
      rw [check, classCreateMJRcheck, prepostBody_one, checkRoutine_free, report, ok_bind]
      split_ifs <;> rfl

/-- The check before the call hands over the report. -/
lemma FreeCall.check_pre (head : ULong → ULong) (r : Records) (c : FreeCall) :
    c.check head (.free r) 0 = (c.report head >>= r.drop).map CheckState.free := by
  cases c with
  | freePages => rw [check, freePagesMJRcheck, freeCheckRoutine_zero]; rfl
  | dmaFreeCoherent => rw [check, dmaFreeCoherentMJRcheck, freeCheckRoutine_zero]; rfl
  | skbDmaUnmap => rw [check, skbDmaUnmapMJRcheck, freeCheckRoutine_zero]; rfl
  | deviceRemoveFile => rw [check, deviceRemoveFileMJRcheck, freeCheckRoutine_zero]; rfl
  | classDestroy => rw [check, classDestroyMJRcheck, freeCheckRoutine_zero]; rfl
  | releaseRegion => rw [check, releaseRegionMJRcheck, preCheckRoutine_zero]; rfl
  | iounmap => rw [check, iounmapMJRcheck, preCheckRoutine_zero]; rfl
  | pciUnmapSingle => rw [check, pciUnmapSingleMJRcheck, preCheckRoutine_zero]; rfl
  | pciUnmapPage => rw [check, pciUnmapPageMJRcheck, preCheckRoutine_zero]; rfl
  | deviceUnregister => rw [check, deviceUnregisterMJRcheck, preCheckRoutine_zero]; rfl
  | freeNetdev badPath dev =>
      rw [check, freeNetdevMJRcheck, preCheckRoutine_zero]
      show _ = (r.genericFree 0 dev originAllocEtherdevMqs).map CheckState.free
      cases r.genericFree 0 dev originAllocEtherdevMqs <;> rfl
  | kfree arg0 => rw [check, kfreeMJRcheck, freeCheckRoutine_zero, freeUnlessNull_eq, report]
  | vfree arg0 => rw [check, vfreeMJRcheck, freeCheckRoutine_zero, freeUnlessNull_eq, report]
  | usbFreeUrb urb =>
      rw [check, usbFreeUrbMJRcheck, freeCheckRoutine_zero, freeUnlessNull_eq, report]
  | kfreeSkb skb => rw [check, kfreeSkbMJRcheck, preCheckRoutine_zero, report, skbHead_drop]
  | devKfreeSkbAny skb =>
      rw [check, devKfreeSkbAnyMJRcheck, freeCheckRoutine_zero, report, skbHead_drop]
  | consumeSkb skb => rw [check, consumeSkbMJRcheck, freeCheckRoutine_zero, report, skbHead_drop]

/-- The check after the call does nothing. -/
lemma FreeCall.check_post (head : ULong → ULong) (r : Records) (c : FreeCall) :
    c.check head (.free r) 1 = .ok (.free r) := by
  cases c with
  | freePages | dmaFreeCoherent | skbDmaUnmap | deviceRemoveFile | classDestroy | kfree | vfree
  | usbFreeUrb | devKfreeSkbAny | consumeSkb => exact freeCheckRoutine_one r _ _
  | releaseRegion => rw [check, releaseRegionMJRcheck, preCheckRoutine_one]
  | iounmap => rw [check, iounmapMJRcheck, preCheckRoutine_one]
  | pciUnmapSingle => rw [check, pciUnmapSingleMJRcheck, preCheckRoutine_one]
  | pciUnmapPage => rw [check, pciUnmapPageMJRcheck, preCheckRoutine_one]
  | deviceUnregister => rw [check, deviceUnregisterMJRcheck, preCheckRoutine_one]
  | kfreeSkb => rw [check, kfreeSkbMJRcheck, preCheckRoutine_one]
  | freeNetdev badPath dev =>
      rw [check, freeNetdevMJRcheck, preCheckRoutine_one]
      rfl

end SymDrive

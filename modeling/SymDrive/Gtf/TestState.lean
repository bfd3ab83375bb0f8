import SymDrive.Gtf.Globals
import SymDrive.Gtf.Hashtable

/-!
# The test state

`test_state.c`: the stack of blocking contexts, the object tracker and the locking protocol, all
kept in one `global_state`.

The object tracker is the hash table of `Hashtable.lean`, keyed by addresses.  `ObjTable` carries
its shape as a field of the subtype, so every table a `GlobalState` can hold is well formed.  The
allocations a call makes are decided by an `Alloc`.
-/

namespace SymDrive

/-! ## The data -/

/-- `enum symdrive_blocking_context`: whether the code may block. -/
inductive BlockingContext where
  | undefined
  | yes
  | no
  deriving DecidableEq, Repr

/-- `enum symdrive_LOCK_TYPE`, in the order of its numbers. -/
inductive LockType where
  | undefined
  | spinLock
  | spinLockBh
  | spinLockIrqsave
  | spinLockIrq
  | mutex
  | rwsem
  | rwlock
  | genericLock
  deriving DecidableEq, Repr

/-- The slots of `lock_state`, in index order. -/
def LockType.all : List LockType :=
  [.undefined, .spinLock, .spinLockBh, .spinLockIrqsave, .spinLockIrq, .mutex, .rwsem, .rwlock,
    .genericLock]

@[simp] lemma LockType.mem_all (t : LockType) : t ∈ LockType.all := by
  cases t <;> decide

/-- `enum symdrive_OBJECT_ORIGIN`: a set of bits. -/
abbrev Origin := UInt32

def originSpinLock : Origin := 4096
def originMutex : Origin := 8192
def originRwsem : Origin := 16384
def originRwlock : Origin := 32768

/-- `struct hvalue`.  `origin_str` is only printed and is left out; a `lock_state` slot is a small
number, never far from 0 and 1. -/
structure HValue where
  origin : Origin
  size : ULong
  newObject : ℤ
  lockState : LockType → ℤ

/-- The record `objs_value` fills in: no lock held. -/
def HValue.fresh (origin : Origin) (size : ULong) (newObject : ℤ) : HValue :=
  { origin := origin, size := size, newObject := newObject, lockState := fun _ => 0 }

/-- `value->lock_state[lock_type] += n`. -/
def HValue.addLockState (value : HValue) (lockType : LockType) (n : ℤ) : HValue :=
  { value with lockState :=
      Function.update value.lockState lockType (value.lockState lockType + n) }

/-- The outcomes of the allocations of one call: `objs_value`, `objs_key_ptr`, and the two of
`hashtable_insert`. -/
structure Alloc where
  value : Bool
  key : Bool
  insert : InsertMem

/-- No allocation fails. -/
def Alloc.succeeds : Alloc := ⟨true, true, ⟨true, true⟩⟩

/-- An address is its own hash. -/
def hashFromKeyFn (k : ULong) : UInt32 := k

/-- Two keys are equal if they are the same address. -/
def hashKeysEqualFn (k1 k2 : ULong) : Bool := k1 == k2

/-- A well-formed table of tracked objects. -/
def ObjTable : Type := { h : Hashtable ULong HValue // h.Wf }

/-- `MAX_NESTING`, the length of the stack of contexts. -/
def maxNesting : ℕ := 16

/-- `struct global_state_struct`.  The current index is never negative: a pop asserts before it
decrements. -/
structure GlobalState where
  blockingContext : ℕ → BlockingContext
  blockingContextCurrent : ℕ
  objs : ObjTable
  objsDirty : ℤ

/-! ## The table of objects -/

namespace ObjTable

def search (t : ObjTable) (key : ULong) : Option HValue := hashtableSearch t.1 key

def insert (t : ObjTable) (key : ULong) (value : HValue) (mem : InsertMem) : ObjTable × ℤ :=
  (⟨(hashtableInsert t.1 key value mem).1, Hashtable.insert_wf t.2 key value mem⟩,
    (hashtableInsert t.1 key value mem).2)

def remove (t : ObjTable) (key : ULong) : ObjTable × Option HValue :=
  (⟨(hashtableRemove t.1 key).1, Hashtable.remove_wf t.2 key⟩, (hashtableRemove t.1 key).2)

/-- Writing through the pointer a search returned. -/
def modify (t : ObjTable) (key : ULong) (f : HValue → HValue) : ObjTable :=
  ⟨hashtableModify t.1 key f, Hashtable.modify_wf t.2 key f⟩

def enumerate (t : ObjTable) (enumKv : ULong → HValue → HValue) : ObjTable :=
  ⟨hashtableEnumerate t.1 enumKv, Hashtable.enumerate_wf t.2 enumKv⟩

def count (t : ObjTable) : UInt32 := hashtableCount t.1

lemma hashKeysEqualFn_iff (a b : ULong) : hashKeysEqualFn a b = true ↔ a = b := beq_iff_eq

/-- `create_hashtable(16, hash_from_key_fn, hash_keys_equal_fn)`. -/
def createTable : Hashtable ULong HValue :=
  (createHashtable 16 hashFromKeyFn hashKeysEqualFn true true).get rfl

/-- The table that the tracker starts with is the empty map. -/
lemma createTable_refines : createTable.Refines ∅ :=
  Hashtable.refines_create hashKeysEqualFn_iff (Option.some_get _).symm

def create : ObjTable := ⟨createTable, createTable_refines.wf⟩

end ObjTable

/-- `initialize_driver_state`, as far as the state kept here goes. -/
def initializeDriverState : GlobalState where
  blockingContext := fun _ => .undefined
  blockingContextCurrent := 0
  objs := ObjTable.create
  objsDirty := 0

/-- `free_driver_state` reports the number of leaked objects before it destroys the table. -/
def freeDriverState (g : GlobalState) : UInt32 := g.objs.count

/-- `hash_reset_objs_state`. -/
def hashResetObjsState (_ : ULong) (value : HValue) : HValue := { value with newObject := 0 }

/-- `reset_new_objects` goes through the table only if something was inserted since. -/
def resetNewObjects (g : GlobalState) : GlobalState :=
  if g.objsDirty ≠ 0 then
    { g with objs := g.objs.enumerate hashResetObjsState, objsDirty := 0 }
  else g

/-! ## Blocking contexts -/

/-- `set_blocking_state` throws the stack of contexts away. -/
def setBlockingState (g : GlobalState) (blockingContext : BlockingContext) : GlobalState :=
  { g with blockingContextCurrent := 0,
           blockingContext := Function.update g.blockingContext 0 blockingContext }

/-- `push_blocking_state`.  The entry is written before the nesting is checked, so a push at full
depth writes past the array. -/
def pushBlockingState (g : GlobalState) (blockingContext : BlockingContext) :
    Except Fault GlobalState :=
  let current := g.blockingContextCurrent + 1
  if current < maxNesting then
    .ok { g with blockingContextCurrent := current,
                 blockingContext := Function.update g.blockingContext current blockingContext }
  else .error (.outOfBounds .pushBlockingState)

/-- `pop_blocking_state`.  The entry itself is left in the array. -/
def popBlockingState (g : GlobalState) : Except Fault GlobalState := do
  tfassertDetail .popBlockingState (g.blockingContextCurrent > 0)
    s!"pop_blocking_state: set_blocking_state not called properly: {g.blockingContextCurrent}.\n"
  .ok { g with blockingContextCurrent := g.blockingContextCurrent - 1 }

/-- The entry on top of the stack. -/
def kernelBlockingState (g : GlobalState) : BlockingContext :=
  g.blockingContext g.blockingContextCurrent

/-! ## The object tracker -/

def objsSearch (g : GlobalState) (key : ULong) : Option HValue := g.objs.search key

def objsRemove (g : GlobalState) (key : ULong) : GlobalState × Option HValue :=
  ({ g with objs := (g.objs.remove key).1 }, (g.objs.remove key).2)

/-- `*value = f(*value)` for the `value` that `objs_search` returned under `key`. -/
def objsModify (g : GlobalState) (key : ULong) (f : HValue → HValue) : GlobalState :=
  { g with objs := g.objs.modify key f }

/-- A new record on the heap, which is written without a test of the allocation. -/
def objsValue (mem : Alloc) (origin : Origin) (size : ULong) (newObject : ℤ) :
    Except Fault HValue := do
  allocated .objsValue mem.value
  .ok (HValue.fresh origin size newObject)

/-- The key on the heap, which is written without a test of the allocation. -/
def objsKeyPtr (mem : Alloc) (object : ULong) : Except Fault ULong := do
  allocated .objsKeyPtr mem.key
  .ok object

/-- The sizes `objs_insert` complains about. -/
def insaneSize (size : ULong) : Prop := (size = 0 ∨ size > 10000000) ∧ size ≠ 0 - 1

instance (size : ULong) : Decidable (insaneSize size) := by unfold insaneSize; infer_instance

/-- `objs_insert`: an object is inserted once, and the size has to make sense. -/
def objsInsert (g : GlobalState) (mem : Alloc) (key : ULong) (value : HValue) :
    Except Fault GlobalState := do
  tfassert .objsInsert ((objsSearch g key).isNone = true)
  -- The complaint about the size prints the origin of `result`, which is NULL here.
  Checked.ensure (¬ insaneSize value.size) (.nullDeref .objsInsert)
  let (objs, result2) := g.objs.insert key value mem.insert
  tfassertDetail .objsInsert (result2 ≠ 0) "Failed insert"
  .ok { g with objs := objs, objsDirty := 1 }

/-- The object is known, and under one of the given origins. -/
def assertAllocated (g : GlobalState) (origin : Origin) (object : ULong) : Except Fault Unit :=
  match objsSearch g object with
  | none => tfassert .assertAllocated False
  | some onHeap => tfassert .assertAllocated (onHeap.origin &&& origin ≠ 0)

/-- What failed, or gave no object, is not recorded. -/
def genericAllocator (g : GlobalState) (mem : Alloc) (prepost : ℤ) (object objectSize : ULong)
    (origin : Origin) : Except Fault GlobalState :=
  if prepost = 0 then
    .error (.assertion .genericAllocator
      "Only call generic_allocator along the post condition branch")
  else if prepost = 1 then
    if isErr object ∨ object = 0 then .ok g
    else do
      let value ← objsValue mem origin objectSize 1
      let key ← objsKeyPtr mem object
      tfassert .genericAllocator ((objsSearch g key).isNone = true)
      let g ← objsInsert g mem key value
      assertAllocated g origin object
      .ok g
  else .error (.assertion .genericAllocator "")

/-- The object is taken out before its origin is looked at. -/
def genericFree (g : GlobalState) (prepost : ℤ) (object : ULong) (origin : Origin) :
    Except Fault GlobalState :=
  if prepost = 0 then
    let (g, value) := objsRemove g object
    match value with
    | some value => do
        tfassert .genericFree (value.origin &&& origin ≠ 0)
        .ok g
    | none => .error (.assertion .genericFree
        (s!"Freeing something that we never allocated! Obj {pointerText object} " ++
          s!"origin {origin}\n"))
  else if prepost = 1 then
    .error (.assertion .genericFree "Only call generic_free along the precondition branch")
  else .error (.assertion .genericFree "")

/-! ## The locking protocol -/

/-- The record `generic_lock_allocator` inserts: the one in the table, which is taken out with its
lock states, or a new one. -/
def takeRecord (g : GlobalState) (mem : Alloc) (key : ULong) (origin : Origin) :
    Except Fault (GlobalState × HValue) :=
  match objsSearch g key with
  | some value => .ok ((objsRemove g key).1, value)
  | none => do
      let value ← objsValue mem origin (0 - 1) 0
      .ok (g, value)

/-- A lock is put into the table with the states it has there, or as new; with `prepost` 1 nothing
is done. -/
def genericLockAllocator (g : GlobalState) (mem : Alloc) (prepost : ℤ) (lock : ULong)
    (origin : Origin) : Except Fault GlobalState :=
  if prepost = 0 then do
    tfassert .genericLockAllocator (lock ≠ 0)
    let key ← objsKeyPtr mem lock
    let record ← takeRecord g mem key origin
    let g ← objsInsert record.1 mem key record.2
    tfassert .genericLockAllocator ((objsSearch g lock).isSome = true)
    .ok g
  else if prepost = 1 then .ok g
  else .error (.assertion .genericLockAllocator "")

/-- One round of the loop of `verify_lock_state`. -/
def verifySlot (value : HValue) (foundLocked : ℤ) (i : LockType) : Except Fault ℤ := do
  tfassertDetail .verifyLockState (value.lockState i = 0 ∨ value.lockState i = 1)
    s!"Found lock_state[{LockType.all.idxOf i}] == {value.lockState i}\n"
  .ok (if value.lockState i = 1 then foundLocked + 1 else foundLocked)

/-- `verify_lock_state`: every slot is 0 or 1, and at most one is 1. -/
def verifyLockState (value : HValue) : Except Fault Unit := do
  let foundLocked ← LockType.all.foldlM (verifySlot value) 0
  tfassertDetail .verifyLockState (foundLocked = 0 ∨ foundLocked = 1)
    s!"Too many locks? {foundLocked}\n"

/-- A lock changes the context: a spin lock forbids blocking, and a blocking lock requires that it
is allowed. -/
def lockKernelState (g : GlobalState) (origin : Origin) (lockType : LockType) (addThis : ℤ) :
    Except Fault GlobalState :=
  match lockType with
  | .undefined => .error (.assertion .lockKernelState "")
  | .spinLock | .spinLockBh | .spinLockIrqsave | .spinLockIrq | .rwlock => do
      tfassertDetail .lockKernelState
        (origin &&& originSpinLock ≠ 0 ∨ origin &&& originRwlock ≠ 0)
        s!"Expected ORIGIN_SPIN_LOCK || ORIGIN_RWLOCK got {origin}\n"
      if addThis > 0 then pushBlockingState g .no else popBlockingState g
  | .mutex | .rwsem => do
      tfassertDetail .lockKernelState
        (origin &&& originMutex ≠ 0 ∨ origin &&& originRwsem ≠ 0)
        s!"Expected ORIGIN_MUTEX || ORIGIN_RWSEM got {origin}\n"
      if addThis > 0 then do
        tfassertDetail .lockKernelState
          (kernelBlockingState g = .yes ∨ kernelBlockingState g = .undefined)
          "Acquiring blocking lock on non-blocking path\n"
        pushBlockingState g .yes
      else popBlockingState g
  | .genericLock => .ok g

/-- `generic_lock_state` unlocking before the kernel does, on the record `value`. -/
def unlockPre (g : GlobalState) (lock : ULong) (value : HValue) (origin : Origin)
    (lockType : LockType) (addThis : ℤ) : Except Fault GlobalState := do
  tfassertDetail .genericLockState (lockType ≠ .genericLock) "Not supporting generic unlock"
  -- A lock taken by a trylock is transferred to the slot it is unlocked with.
  let unlockGeneric := value.lockState .genericLock = 1
  let value := if unlockGeneric then
      (value.addLockState .genericLock addThis).addLockState lockType (-addThis)
    else value
  let value := value.addLockState lockType addThis
  tfassertDetail .genericLockState (value.lockState lockType = 0)
    s!"Invalid lock state! 0 != {value.lockState lockType}\n"
  verifyLockState value
  let g := objsModify g lock fun _ => value
  lockKernelState g origin (if unlockGeneric then .genericLock else lockType) addThis

/-- `generic_lock_state` locking after the kernel did, on the record `value`. -/
def lockPost (g : GlobalState) (lock : ULong) (value : HValue) (origin : Origin)
    (lockType : LockType) (addThis : ℤ) : Except Fault GlobalState := do
  let value := value.addLockState lockType addThis
  tfassertDetail .genericLockState (value.lockState lockType = 1)
    s!"Invalid lock state!  1 != {value.lockState lockType}\n"
  verifyLockState value
  let g := objsModify g lock fun _ => value
  lockKernelState g origin lockType addThis

/-- What the assertion on the address of a lock prints. -/
def incorrectLockText (lock : ULong) : String :=
  s!"Incorrect lock provided in generic_lock_state, ptr: {pointerText lock}\n"

/-- The rest of `generic_lock_state` once the tracker knows the lock. -/
def genericLockStateKnown (g : GlobalState) (prepost : ℤ) (lock : ULong) (value : HValue)
    (origin : Origin) (lockType : LockType) (addThis : ℤ) : Except Fault GlobalState := do
  tfassertDetail .genericLockState (lock > 0x1000) (incorrectLockText lock)
  if prepost = 0 then
    if addThis = -1 then unlockPre g lock value origin lockType addThis
    else if addThis = 1 then .ok g
    else .error (.assertion .genericLockState "")
  else if prepost = 1 then
    if addThis = -1 then .ok g
    else if addThis = 1 then lockPost g lock value origin lockType addThis
    else .error (.assertion .genericLockState "")
  else .error (.assertion .genericLockState "")

/-- `generic_lock_state` with room for `fuel` calls of itself, the first one included.  The
allocations belong to the one `generic_lock_allocator` that can put the lock in the table. -/
def genericLockStateFuel : ℕ → GlobalState → Alloc → ℤ → ULong → Origin → LockType → ℤ →
    Except Fault GlobalState
  | 0, _, _, _, _, _, _, _ => .error .outOfFuel
  | fuel + 1, g, mem, prepost, lock, origin, lockType, addThis => do
      tfassertDetail .genericLockState (addThis = -1 ∨ addThis = 1) "Either lock or free\n"
      match objsSearch g lock with
      | none =>
          let g ← genericLockAllocator g mem prepost lock origin
          genericLockStateFuel fuel g mem prepost lock origin lockType addThis
      | some value => genericLockStateKnown g prepost lock value origin lockType addThis

/-- `generic_lock_state`: the call and one recursive call. -/
def genericLockState (g : GlobalState) (mem : Alloc) (prepost : ℤ) (lock : ULong)
    (origin : Origin) (lockType : LockType) (addThis : ℤ) : Except Fault GlobalState :=
  genericLockStateFuel 2 g mem prepost lock origin lockType addThis

end SymDrive

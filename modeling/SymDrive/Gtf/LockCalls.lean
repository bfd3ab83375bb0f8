import SymDrive.Gtf.LockState

/-!
# Acquisitions and releases

The driver takes or releases a lock through one kernel call, which the framework sees twice: before
it (`prepost` 0) and after it (`prepost` 1).  `LockCall.exec` is the pair of `generic_lock_state`
calls.  `acquire_inv` and `release_inv` say everything such a pair can do to the records and to the
blocking contexts; the runs of later modules are taken apart with them.
-/

namespace SymDrive

open Checked

/-- One kernel call on a lock, with the allocations the framework makes for it. -/
structure LockCall where
  lock : ULong
  origin : Origin
  lockType : LockType
  mem : Alloc

inductive LockEvent where
  | acquire (c : LockCall)
  | release (c : LockCall)

/-- The framework around one kernel call: `generic_lock_state` before it and after it. -/
def LockCall.exec (c : LockCall) (g : GlobalState) (addThis : ℤ) : Except Fault GlobalState := do
  let g ← genericLockState g c.mem 0 c.lock c.origin c.lockType addThis
  genericLockState g c.mem 1 c.lock c.origin c.lockType addThis

def LockEvent.exec (g : GlobalState) : LockEvent → Except Fault GlobalState
  | acquire c => c.exec g 1
  | release c => c.exec g (-1)

/-! ## Frames -/

/-- The blocking contexts are the same. -/
structure SameContext (g g' : GlobalState) : Prop where
  context : g'.blockingContext = g.blockingContext
  current : g'.blockingContextCurrent = g.blockingContextCurrent

lemma SameContext.refl (g : GlobalState) : SameContext g g := ⟨rfl, rfl⟩

lemma SameContext.trans {g₁ g₂ g₃ : GlobalState} (h : SameContext g₁ g₂) (h' : SameContext g₂ g₃) :
    SameContext g₁ g₃ :=
  ⟨h'.context.trans h.context, h'.current.trans h.current⟩

/-- The blocking contexts are not kept in the table. -/
lemma lockKernelState_objs {g g' : GlobalState} {origin : Origin} {t : LockType} {addThis : ℤ}
    (hadd : addThis = -1 ∨ addThis = 1) (h : lockKernelState g origin t addThis = .ok g') :
    g'.objs = g.objs := by
  rcases hadd with rfl | rfl
  · rcases lockKernelState_release h with ⟨_, rfl⟩ | ⟨_, hpop⟩
    · rfl
    · rw [(popBlockingState_eq_ok.mp hpop).2]
  · rcases lockKernelState_acquire h with ⟨_, rfl⟩ | ⟨_, _, _, hpush⟩
    · rfl
    · rw [(pushBlockingState_eq_ok.mp hpush).2]

/-! ## `generic_lock_state` on tracked states -/

lemma genericLockState_known {g : GlobalState} {mem : Alloc} {prepost : ℤ} {lock : ULong}
    {origin : Origin} {t : LockType} {addThis : ℤ} {value : HValue}
    (hknown : objsSearch g lock = some value) (hadd : addThis = -1 ∨ addThis = 1) :
    genericLockState g mem prepost lock origin t addThis =
      genericLockStateKnown g prepost lock value origin t addThis := by
  rw [genericLockState, genericLockStateFuel_known g mem prepost lock origin t addThis hknown 1,
    tfassertDetail_of_true hadd, ok_bind]

/-- What the allocator of locks does on its precondition branch: the record that was there, or a
new one, is in the table afterwards. -/
lemma genericLockAllocator_inv {g g' : GlobalState} {m : Tracked} (hm : g.Tracks m) {mem : Alloc}
    {lock : ULong} {origin : Origin} (h : genericLockAllocator g mem 0 lock origin = .ok g') :
    ∃ value, g'.Tracks (m.insert lock value) ∧ SameContext g g' ∧
      (m.lookup lock = some value ∨
        m.lookup lock = none ∧ value = HValue.fresh origin (0 - 1) 0) := by
  rw [genericLockAllocator, if_pos rfl] at h
  obtain ⟨_, h⟩ := tfassert_bind_eq_ok.mp h
  obtain ⟨key, hkey, h⟩ := bind_eq_ok.mp h
  obtain ⟨_, hkey⟩ := ensure_bind_eq_ok.mp hkey
  cases hkey
  obtain ⟨record, hrecord, h⟩ := bind_eq_ok.mp h
  obtain ⟨g₁, hinsert, h⟩ := bind_eq_ok.mp h
  obtain ⟨_, h⟩ := tfassert_bind_eq_ok.mp h
  cases h
  obtain ⟨_, _, hentry, rfl⟩ := objsInsert_eq_ok.mp hinsert
  rw [takeRecord, objsSearch_eq hm] at hrecord
  cases hlook : m.lookup lock with
  | some value =>
      rw [hlook] at hrecord
      cases hrecord
      refine ⟨value, ?_, ⟨rfl, rfl⟩, Or.inl rfl⟩
      have hins := tracks_inserted (tracks_removed hm lock) Finmap.notMem_erase_self value hentry
      have hback : (m.erase lock).insert lock value = m.insert lock value := by
        refine Finmap.ext_lookup fun a => ?_
        by_cases ha : a = lock
        · rw [ha, Finmap.lookup_insert, Finmap.lookup_insert]
        · rw [Finmap.lookup_insert_of_ne _ ha, Finmap.lookup_insert_of_ne _ ha,
            Finmap.lookup_erase_ne ha]
      rwa [hback] at hins
  | none =>
      rw [hlook] at hrecord
      obtain ⟨_, hvalue, hrecord⟩ := bind_eq_ok.mp hrecord
      obtain ⟨_, hvalue⟩ := ensure_bind_eq_ok.mp hvalue
      cases hvalue
      cases hrecord
      exact ⟨_, tracks_inserted hm (Finmap.lookup_eq_none.mp hlook) _ hentry, ⟨rfl, rfl⟩,
        Or.inr ⟨rfl, rfl⟩⟩

/-- The allocator makes a record for a lock without one iff its allocations succeed. -/
lemma genericLockAllocator_unknown {g g' : GlobalState} {mem : Alloc} {lock : ULong}
    {origin : Origin} (hunknown : objsSearch g lock = none) :
    genericLockAllocator g mem 0 lock origin = .ok g' ↔
      lock ≠ 0 ∧ mem.Suffices ∧
        g' = objsInserted g mem lock (HValue.fresh origin (0 - 1) 0) := by
  rw [genericLockAllocator, if_pos rfl]
  constructor
  · intro h
    obtain ⟨hlock, h⟩ := tfassert_bind_eq_ok.mp h
    obtain ⟨key, hkey, h⟩ := bind_eq_ok.mp h
    obtain ⟨hmkey, hkey⟩ := ensure_bind_eq_ok.mp hkey
    cases hkey
    obtain ⟨record, hrecord, h⟩ := bind_eq_ok.mp h
    rw [takeRecord, hunknown] at hrecord
    obtain ⟨value, hvalue, hrecord⟩ := bind_eq_ok.mp hrecord
    obtain ⟨hmvalue, hvalue⟩ := ensure_bind_eq_ok.mp hvalue
    cases hvalue
    cases hrecord
    obtain ⟨g₁, hinsert, h⟩ := bind_eq_ok.mp h
    obtain ⟨_, h⟩ := tfassert_bind_eq_ok.mp h
    cases h
    obtain ⟨_, _, hentry, rfl⟩ := objsInsert_eq_ok.mp hinsert
    exact ⟨hlock, ⟨hmvalue, hmkey, hentry⟩, rfl⟩
  · rintro ⟨hlock, ⟨hvalue, hkey, hentry⟩, rfl⟩
    have hinsert : objsInsert g mem lock (HValue.fresh origin (0 - 1) 0) =
        .ok (objsInserted g mem lock (HValue.fresh origin (0 - 1) 0)) :=
      objsInsert_eq_ok.mpr ⟨hunknown, fun h => h.2 rfl, hentry, rfl⟩
    have hfound := objsSearch_inserted g lock (HValue.fresh origin (0 - 1) 0) hentry
    rw [tfassert_of_true hlock, ok_bind, objsKeyPtr, allocated, ensure_of_true hkey, ok_bind,
      ok_bind, takeRecord, hunknown]
    dsimp only
    rw [objsValue, allocated, ensure_of_true hvalue, ok_bind, ok_bind, ok_bind, hinsert, ok_bind,
      tfassert_of_true (by rw [hfound]; rfl), ok_bind]

section

variable {g : GlobalState} {lock : ULong} {value : HValue} {origin : Origin} {t : LockType}

lemma known_pre_lock :
    genericLockStateKnown g 0 lock value origin t 1 =
      (tfassertDetail .genericLockState (lock > 0x1000) (incorrectLockText lock) >>=
        fun _ => .ok g) := rfl

lemma known_post_lock :
    genericLockStateKnown g 1 lock value origin t 1 =
      (tfassertDetail .genericLockState (lock > 0x1000) (incorrectLockText lock) >>=
        fun _ => lockPost g lock value origin t 1) := rfl

lemma known_pre_unlock :
    genericLockStateKnown g 0 lock value origin t (-1) =
      (tfassertDetail .genericLockState (lock > 0x1000) (incorrectLockText lock) >>=
        fun _ => unlockPre g lock value origin t (-1)) := rfl

lemma known_post_unlock :
    genericLockStateKnown g 1 lock value origin t (-1) =
      (tfassertDetail .genericLockState (lock > 0x1000) (incorrectLockText lock) >>=
        fun _ => .ok g) := rfl

end

/-- The precondition call works on the record of the lock, which is new if there was none. -/
lemma genericLockState_pre {g g' : GlobalState} {m : Tracked} (hm : g.Tracks m) {mem : Alloc}
    {lock : ULong} {origin : Origin} {t : LockType} {addThis : ℤ}
    (hadd : addThis = -1 ∨ addThis = 1)
    (h : genericLockState g mem 0 lock origin t addThis = .ok g') :
    ∃ g₁ m₁ value, g₁.Tracks m₁ ∧ SameContext g g₁ ∧ m₁.lookup lock = some value ∧
      (∀ l ≠ lock, m₁.lookup l = m.lookup l) ∧
      (m.lookup lock = some value ∨
        m.lookup lock = none ∧ value = HValue.fresh origin (0 - 1) 0) ∧
      genericLockStateKnown g₁ 0 lock value origin t addThis = .ok g' := by
  cases hlook : m.lookup lock with
  | some value =>
      have hknown : objsSearch g lock = some value := by rw [objsSearch_eq hm, hlook]
      rw [genericLockState_known hknown hadd] at h
      exact ⟨g, m, value, hm, SameContext.refl g, hlook, fun _ _ => rfl, Or.inl rfl, h⟩
  | none =>
      have hunknown : objsSearch g lock = none := by rw [objsSearch_eq hm, hlook]
      rw [genericLockState, genericLockStateFuel_unknown g mem 0 lock origin t addThis hunknown 1]
        at h
      obtain ⟨_, h⟩ := tfassertDetail_bind_eq_ok.mp h
      obtain ⟨g₁, halloc, h⟩ := bind_eq_ok.mp h
      obtain ⟨value, hm₁, hsame, hvalue⟩ := genericLockAllocator_inv hm halloc
      have hlook₁ : (m.insert lock value).lookup lock = some value := Finmap.lookup_insert m
      have hknown : objsSearch g₁ lock = some value := by rw [objsSearch_eq hm₁, hlook₁]
      rw [genericLockStateFuel_known g₁ mem 0 lock origin t addThis hknown 0] at h
      obtain ⟨_, h⟩ := tfassertDetail_bind_eq_ok.mp h
      rw [hlook] at hvalue
      exact ⟨g₁, _, value, hm₁, hsame, hlook₁, fun l hl => Finmap.lookup_insert_of_ne m hl,
        hvalue, h⟩

/-! ## What a pair of calls can do -/

/-- An acquisition that goes through: the lock was free or unknown, is now held under its slot, and
the blocking contexts change as `lock_kernel_state` says. -/
lemma acquire_inv {g g' : GlobalState} {m : Tracked} (hm : g.Tracks m) {c : LockCall}
    (h : c.exec g 1 = .ok g') :
    ∃ g₁ m₁ value, g₁.Tracks m₁ ∧ SameContext g g₁ ∧ m₁.lookup c.lock = some value ∧
      value.lockState = heldState (some c.lockType) ∧
      (∀ l ≠ c.lock, m₁.lookup l = m.lookup l) ∧
      (∀ v, m.lookup c.lock = some v → v.lockState = heldState none) ∧
      lockKernelState g₁ c.origin c.lockType 1 = .ok g' := by
  obtain ⟨g₀, hpre, hpost⟩ := bind_eq_ok.mp h
  obtain ⟨g₁, m₁, value, hm₁, hsame, hlook, hframe, hvalue, hknown⟩ :=
    genericLockState_pre hm (Or.inr rfl) hpre
  rw [known_pre_lock] at hknown
  obtain ⟨_, hknown⟩ := tfassertDetail_bind_eq_ok.mp hknown
  cases hknown
  rw [genericLockState_known (by rw [objsSearch_eq hm₁, hlook]) (Or.inr rfl), known_post_lock]
    at hpost
  obtain ⟨_, hpost⟩ := tfassertDetail_bind_eq_ok.mp hpost
  have hfree := free_of_lockPost hpost
  rw [lockPost_of_free hfree] at hpost
  refine ⟨_, _, value.addLockState c.lockType 1, tracks_modified hm₁ hlook _,
    ⟨hsame.context, hsame.current⟩, Finmap.lookup_insert m₁, acquire_heldState hfree, ?_, ?_, hpost⟩
  · intro l hl
    rw [Finmap.lookup_insert_of_ne m₁ hl, hframe l hl]
  · intro v hv
    rcases hvalue with hvalue | ⟨hvalue, _⟩
    · rw [hv] at hvalue
      cases hvalue
      exact hfree
    · rw [hv] at hvalue
      cases hvalue

/-- A release that goes through, of a lock held under the slot it is released with. -/
lemma release_inv {g g' : GlobalState} {m : Tracked} (hm : g.Tracks m) {c : LockCall}
    {value : HValue} (hlook : m.lookup c.lock = some value)
    (hheld : value.lockState = heldState (some c.lockType)) (ht : c.lockType ≠ .genericLock)
    (h : c.exec g (-1) = .ok g') :
    ∃ g₁ m₁ value₁, g₁.Tracks m₁ ∧ SameContext g g₁ ∧ m₁.lookup c.lock = some value₁ ∧
      value₁.lockState = heldState none ∧ (∀ l ≠ c.lock, m₁.lookup l = m.lookup l) ∧
      lockKernelState g₁ c.origin c.lockType (-1) = .ok g' := by
  obtain ⟨g₀, hpre, hpost⟩ := bind_eq_ok.mp h
  rw [genericLockState_known (by rw [objsSearch_eq hm, hlook]) (Or.inl rfl), known_pre_unlock]
    at hpre
  obtain ⟨_, hpre⟩ := tfassertDetail_bind_eq_ok.mp hpre
  rw [unlockPre_of_held hheld ht] at hpre
  have hm₁ := tracks_modified hm hlook fun _ => value.addLockState c.lockType (-1)
  have hobjs := lockKernelState_objs (Or.inl rfl) hpre
  have hm₀ : g₀.Tracks (m.insert c.lock (value.addLockState c.lockType (-1))) := by
    unfold GlobalState.Tracks
    rw [hobjs]
    exact hm₁
  rw [genericLockState_known (by rw [objsSearch_eq hm₀, Finmap.lookup_insert]) (Or.inl rfl),
    known_post_unlock] at hpost
  obtain ⟨_, hpost⟩ := tfassertDetail_bind_eq_ok.mp hpost
  cases hpost
  exact ⟨_, _, _, hm₁, ⟨rfl, rfl⟩, Finmap.lookup_insert m, release_heldState hheld,
    fun l hl => Finmap.lookup_insert_of_ne m hl, hpre⟩

/-! ## What a pair of calls does to a known lock -/

section

variable {g : GlobalState} {c : LockCall} {value : HValue}

/-- An acquisition of a free lock. -/
lemma exec_acquire (hsearch : objsSearch g c.lock = some value)
    (hfree : value.lockState = heldState none) (haddr : c.lock > 0x1000) :
    c.exec g 1 =
      lockKernelState (objsModify g c.lock fun _ => value.addLockState c.lockType 1) c.origin
        c.lockType 1 := by
  rw [LockCall.exec, genericLockState_known hsearch (Or.inr rfl), known_pre_lock,
    tfassertDetail_of_true haddr, ok_bind, ok_bind, genericLockState_known hsearch (Or.inr rfl),
    known_post_lock, tfassertDetail_of_true haddr, ok_bind, lockPost_of_free hfree]

/-- An acquisition of a lock without a record first makes one. -/
lemma exec_acquire_unknown (hunknown : objsSearch g c.lock = none) :
    c.exec g 1 =
      (genericLockAllocator g c.mem 0 c.lock c.origin >>= fun g₁ => c.exec g₁ 1) := by
  rw [LockCall.exec, genericLockState,
    genericLockStateFuel_unknown g c.mem 0 c.lock c.origin c.lockType 1 hunknown 1,
    tfassertDetail_of_true (Or.inr rfl), ok_bind]
  cases halloc : genericLockAllocator g c.mem 0 c.lock c.origin with
  | error e => rfl
  | ok g₁ =>
      obtain ⟨value, hvalue⟩ := genericLockAllocator_known g c.mem c.lock c.origin halloc
      rw [ok_bind, ok_bind, LockCall.exec, genericLockState_known hvalue (Or.inr rfl),
        genericLockStateFuel_known g₁ c.mem 0 c.lock c.origin c.lockType 1 hvalue 0,
        tfassertDetail_of_true (Or.inr rfl), ok_bind]

/-- After the release the second call finds the lock and does nothing. -/
lemma exec_post_unlock {m : Tracked} (hm : g.Tracks m) (hlook : m.lookup c.lock = some value)
    (haddr : c.lock > 0x1000) :
    genericLockState g c.mem 1 c.lock c.origin c.lockType (-1) = .ok g := by
  rw [genericLockState_known (by rw [objsSearch_eq hm, hlook]) (Or.inl rfl), known_post_unlock,
    tfassertDetail_of_true haddr, ok_bind]

/-- A release of a lock held under the slot it is released with. -/
lemma exec_release {m : Tracked} (hm : g.Tracks m) (hlook : m.lookup c.lock = some value)
    (hheld : value.lockState = heldState (some c.lockType)) (ht : c.lockType ≠ .genericLock)
    (haddr : c.lock > 0x1000) :
    c.exec g (-1) =
      lockKernelState (objsModify g c.lock fun _ => value.addLockState c.lockType (-1)) c.origin
        c.lockType (-1) := by
  rw [LockCall.exec, genericLockState_known (by rw [objsSearch_eq hm, hlook]) (Or.inl rfl),
    known_pre_unlock, tfassertDetail_of_true haddr, ok_bind, unlockPre_of_held hheld ht]
  cases hkernel : lockKernelState (objsModify g c.lock fun _ => value.addLockState c.lockType (-1))
      c.origin c.lockType (-1) with
  | error e => rfl
  | ok g' =>
      have hm' : g'.Tracks (m.insert c.lock (value.addLockState c.lockType (-1))) := by
        rw [GlobalState.Tracks, lockKernelState_objs (Or.inl rfl) hkernel]
        exact tracks_modified hm hlook _
      rw [ok_bind, exec_post_unlock hm' (Finmap.lookup_insert m) haddr]

/-- A release, by whichever unlock, of a lock that was taken by a trylock. -/
lemma exec_release_generic {m : Tracked} (hm : g.Tracks m) (hlook : m.lookup c.lock = some value)
    (hheld : value.lockState = heldState (some .genericLock)) (ht : c.lockType ≠ .genericLock)
    (haddr : c.lock > 0x1000) :
    c.exec g (-1) = .ok (objsModify g c.lock fun _ => value.unlockGeneric c.lockType) := by
  rw [LockCall.exec, genericLockState_known (by rw [objsSearch_eq hm, hlook]) (Or.inl rfl),
    known_pre_unlock, tfassertDetail_of_true haddr, ok_bind, unlockPre_of_generic hheld ht, ok_bind]
  exact exec_post_unlock (tracks_modified hm hlook _) (Finmap.lookup_insert m) haddr

end

/-! ## A state to start from -/

/-- A process context: sleeping is allowed. -/
def processContext : GlobalState := setBlockingState initializeDriverState .yes

lemma tracks_processContext : processContext.Tracks ∅ := tracks_initialized

end SymDrive

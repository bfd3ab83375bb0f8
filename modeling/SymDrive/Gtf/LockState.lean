import SymDrive.Gtf.ObjectTracker

/-!
# The lock records

What `generic_lock_state` does to the record of a lock, and when it returns at all.

A record that `verify_lock_state` passes has at most one slot set, so it says one thing: not held,
or held under one slot.  `heldState` is that record as a function of what it says, and the lemmas
below describe the two working branches, `lockPost` and `unlockPre`, on such records.
-/

namespace SymDrive

open Checked

/-! ## Records that say one thing -/

/-- The slots of a lock that is held under `o`, or not held. -/
def heldState (o : Option LockType) : LockType → ℤ := fun t => if o = some t then 1 else 0

@[simp] lemma heldState_self (t : LockType) : heldState (some t) t = 1 := if_pos rfl

@[simp] lemma heldState_none (t : LockType) : heldState none t = 0 := if_neg (by simp)

lemma heldState_of_ne {t t' : LockType} (h : t ≠ t') : heldState (some t) t' = 0 :=
  if_neg (by simpa using h)

lemma heldState_eq_one {o : Option LockType} {t : LockType} :
    heldState o t = 1 ↔ o = some t := by
  unfold heldState
  split_ifs with h
  · simp [h]
  · simp [h]

/-- The slots tell which lock type is held. -/
lemma heldState_injective {o o' : Option LockType} (h : heldState o = heldState o') : o = o' := by
  cases o with
  | some t => exact (heldState_eq_one.mp (by rw [← h, heldState_self])).symm
  | none =>
      cases o' with
      | none => rfl
      | some t' => exact heldState_eq_one.mp (by rw [h, heldState_self])

/-- `verify_lock_state` passes every record that says one thing. -/
lemma verifyLockState_of_heldState {value : HValue} {o : Option LockType}
    (h : value.lockState = heldState o) : verifyLockState value = .ok () := by
  obtain ⟨origin, size, newObject, lockState⟩ := value
  dsimp only at h
  subst h
  cases o with
  | none => rfl
  | some t => cases t <;> rfl

/-- The loop of `verify_lock_state` goes through only over slots that are 0 or 1, and counts. -/
lemma verify_loop_eq_ok {value : HValue} :
    ∀ (ts : List LockType) {n found : ℤ}, ts.foldlM (verifySlot value) n = .ok found →
      (∀ t ∈ ts, value.lockState t = 0 ∨ value.lockState t = 1) ∧
        found = n + (ts.countP fun t => value.lockState t = 1) := by
  intro ts
  induction ts with
  | nil =>
      intro n found h
      rw [List.foldlM_nil] at h
      cases h
      simp
  | cons t ts ih =>
      intro n found h
      rw [List.foldlM_cons] at h
      obtain ⟨n', h₁, h₂⟩ := bind_eq_ok.mp h
      obtain ⟨ht, hn'⟩ := tfassertDetail_bind_eq_ok.mp h₁
      obtain ⟨hts, hfound⟩ := ih h₂
      refine ⟨by simpa using ⟨ht, hts⟩, ?_⟩
      rw [hfound, List.countP_cons]
      cases hn'
      by_cases h1 : value.lockState t = 1
      · simp only [h1, if_true, decide_true]
        omega
      · simp only [h1, if_false, decide_false, Bool.false_eq_true]
        omega

/-- A record that passes `verify_lock_state` with slot `t` set says that `t` is held. -/
lemma heldState_of_verify {value : HValue} {t : LockType} (h : verifyLockState value = .ok ())
    (ht : value.lockState t = 1) : value.lockState = heldState (some t) := by
  unfold verifyLockState at h
  obtain ⟨found, hloop, hle⟩ := bind_eq_ok.mp h
  obtain ⟨hslots, hfound⟩ := verify_loop_eq_ok _ hloop
  have hcount : LockType.all.countP (fun t => value.lockState t = 1) ≤ 1 := by
    unfold tfassertDetail ensure at hle
    split_ifs at hle with hfl
    omega
  funext t'
  by_cases htt : t = t'
  · rw [← htt, ht, heldState_self]
  · rw [heldState_of_ne htt]
    refine (hslots t' (LockType.mem_all t')).resolve_right fun ht' => ?_
    have hsub : [t, t'].Subperm (LockType.all.filter fun t => value.lockState t = 1) := by
      refine List.subperm_of_subset (by simpa using htt) ?_
      intro a ha
      rcases List.mem_cons.mp ha with rfl | ha
      · simpa using ht
      · rw [List.mem_singleton.mp ha]
        simpa using ht'
    have hlen := hsub.length_le
    rw [← List.countP_eq_length_filter] at hlen
    simp only [List.length_cons, List.length_nil] at hlen
    omega

/-! ## Termination -/

section Termination

variable (g : GlobalState) (mem : Alloc) (prepost : ℤ) (lock : ULong) (origin : Origin)
  (lockType : LockType) (addThis : ℤ)

lemma pushBlockingState_fuel (context : BlockingContext) :
    FaultsIn (· ≠ .outOfFuel) (pushBlockingState g context) := by
  unfold pushBlockingState
  dsimp only
  split_ifs
  · simp
  · simp

/-- No function below `generic_lock_state` calls itself. -/
lemma popBlockingState_fuel : FaultsIn (· ≠ .outOfFuel) (popBlockingState g) :=
  (faultsIn_tfassertDetail (by simp)).bind fun _ _ => faultsIn_ok _

lemma objsInsert_fuel (key : ULong) (value : HValue) :
    FaultsIn (· ≠ .outOfFuel) (objsInsert g mem key value) := by
  unfold objsInsert
  refine (faultsIn_tfassert (by simp)).bind fun _ _ => ?_
  refine (faultsIn_ensure (by simp)).bind fun _ _ => ?_
  exact (faultsIn_tfassertDetail (by simp)).bind fun _ _ => faultsIn_ok _

lemma objsKeyPtr_fuel (object : ULong) : FaultsIn (· ≠ .outOfFuel) (objsKeyPtr mem object) :=
  (faultsIn_ensure (by simp)).bind fun _ _ => faultsIn_ok _

lemma objsValue_fuel (size : ULong) (newObject : ℤ) :
    FaultsIn (· ≠ .outOfFuel) (objsValue mem origin size newObject) :=
  (faultsIn_ensure (by simp)).bind fun _ _ => faultsIn_ok _

lemma takeRecord_fuel (key : ULong) :
    FaultsIn (· ≠ .outOfFuel) (takeRecord g mem key origin) := by
  unfold takeRecord
  cases objsSearch g key with
  | some value => exact faultsIn_ok _
  | none => exact (objsValue_fuel mem origin _ _).bind fun _ _ => faultsIn_ok _

lemma genericLockAllocator_fuel :
    FaultsIn (· ≠ .outOfFuel) (genericLockAllocator g mem prepost lock origin) := by
  unfold genericLockAllocator
  split_ifs
  · refine (faultsIn_tfassert (by simp)).bind fun _ _ => ?_
    refine (objsKeyPtr_fuel mem lock).bind fun key _ => ?_
    refine (takeRecord_fuel g mem origin key).bind fun record _ => ?_
    refine (objsInsert_fuel record.1 mem key record.2).bind fun g' _ => ?_
    exact (faultsIn_tfassert (by simp)).bind fun _ _ => faultsIn_ok _
  · exact faultsIn_ok _
  · simp

lemma verifyLockState_fuel (value : HValue) :
    FaultsIn (· ≠ .outOfFuel) (verifyLockState value) := by
  unfold verifyLockState
  refine FaultsIn.bind (FaultsIn.foldlM (fun n i => ?_) _ _) fun found _ => ?_
  · exact (faultsIn_tfassertDetail (by simp)).bind fun _ _ => faultsIn_ok _
  · exact faultsIn_tfassertDetail (by simp)

lemma lockKernelState_fuel :
    FaultsIn (· ≠ .outOfFuel) (lockKernelState g origin lockType addThis) := by
  cases lockType with
  | undefined => exact faultsIn_error.mpr (by simp)
  | genericLock => exact faultsIn_ok g
  | spinLock | spinLockBh | spinLockIrqsave | spinLockIrq | rwlock =>
      unfold lockKernelState
      refine (faultsIn_tfassertDetail (by simp)).bind fun _ _ => ?_
      split_ifs
      · exact pushBlockingState_fuel g _
      · exact popBlockingState_fuel g
  | mutex | rwsem =>
      unfold lockKernelState
      refine (faultsIn_tfassertDetail (by simp)).bind fun _ _ => ?_
      split_ifs
      · exact (faultsIn_tfassertDetail (by simp)).bind fun _ _ => pushBlockingState_fuel g _
      · exact popBlockingState_fuel g

lemma genericLockStateKnown_fuel (value : HValue) : FaultsIn (· ≠ .outOfFuel)
    (genericLockStateKnown g prepost lock value origin lockType addThis) := by
  unfold genericLockStateKnown
  refine (faultsIn_tfassertDetail (by simp)).bind fun _ _ => ?_
  split_ifs
  · refine (faultsIn_tfassertDetail (by simp)).bind fun _ _ => ?_
    refine (faultsIn_tfassertDetail (by simp)).bind fun _ _ => ?_
    exact (verifyLockState_fuel _).bind fun _ _ => lockKernelState_fuel _ _ _ _
  · exact faultsIn_ok g
  · simp
  · exact faultsIn_ok g
  · refine (faultsIn_tfassertDetail (by simp)).bind fun _ _ => ?_
    exact (verifyLockState_fuel _).bind fun _ _ => lockKernelState_fuel _ _ _ _
  · simp
  · simp

/-- A call on a lock the tracker knows makes no recursive call. -/
lemma genericLockStateFuel_known {value : HValue} (hknown : objsSearch g lock = some value)
    (fuel : ℕ) :
    genericLockStateFuel (fuel + 1) g mem prepost lock origin lockType addThis =
      (tfassertDetail .genericLockState (addThis = -1 ∨ addThis = 1) "Either lock or free\n" >>=
        fun _ => genericLockStateKnown g prepost lock value origin lockType addThis) := by
  rw [genericLockStateFuel, hknown]

/-- A lock that the tracker does not know is inserted first; then the function calls itself. -/
lemma genericLockStateFuel_unknown (hunknown : objsSearch g lock = none) (fuel : ℕ) :
    genericLockStateFuel (fuel + 1) g mem prepost lock origin lockType addThis =
      (tfassertDetail .genericLockState (addThis = -1 ∨ addThis = 1) "Either lock or free\n" >>=
        fun _ => genericLockAllocator g mem prepost lock origin >>=
          fun g => genericLockStateFuel fuel g mem prepost lock origin lockType addThis) := by
  rw [genericLockStateFuel, hunknown]

/-- On its precondition branch the allocator leaves the lock in the table. -/
lemma genericLockAllocator_known {g' : GlobalState}
    (h : genericLockAllocator g mem 0 lock origin = .ok g') :
    ∃ value, objsSearch g' lock = some value := by
  rw [genericLockAllocator, if_pos rfl] at h
  obtain ⟨_, h⟩ := tfassert_bind_eq_ok.mp h
  obtain ⟨key, _, h⟩ := bind_eq_ok.mp h
  obtain ⟨record, _, h⟩ := bind_eq_ok.mp h
  obtain ⟨g₁, _, h⟩ := bind_eq_ok.mp h
  obtain ⟨hsome, h⟩ := tfassert_bind_eq_ok.mp h
  cases h
  exact Option.isSome_iff_exists.mp hsome

/-- On the postcondition branch the allocator does nothing, so the call repeats itself. -/
lemma genericLockStateFuel_unknown_post (hunknown : objsSearch g lock = none)
    (hadd : addThis = -1 ∨ addThis = 1) :
    ∀ fuel, genericLockStateFuel fuel g mem 1 lock origin lockType addThis = .error .outOfFuel := by
  intro fuel
  induction fuel with
  | zero => rfl
  | succ fuel ih =>
      have hpost : genericLockAllocator g mem 1 lock origin = .ok g := by
        rw [genericLockAllocator, if_neg (by decide), if_pos rfl]
      rw [genericLockStateFuel_unknown g mem 1 lock origin lockType addThis hunknown,
        tfassertDetail_of_true hadd, ok_bind, hpost, ok_bind, ih]

/-- **When `generic_lock_state` returns.**  One recursive call is enough iff the tracker knows the
lock, or the call is not made from a postcondition (or is malformed and fails its first
assertion); otherwise no number of recursive calls is. -/
theorem genericLockState_returns_iff :
    (genericLockStateFuel 2 g mem prepost lock origin lockType addThis ≠ .error .outOfFuel ↔
      objsSearch g lock ≠ none ∨ prepost ≠ 1 ∨ ¬ (addThis = -1 ∨ addThis = 1)) ∧
    (¬ (objsSearch g lock ≠ none ∨ prepost ≠ 1 ∨ ¬ (addThis = -1 ∨ addThis = 1)) →
      ∀ fuel, genericLockStateFuel fuel g mem prepost lock origin lockType addThis =
        .error .outOfFuel) := by
  have hdiverges : ¬ (objsSearch g lock ≠ none ∨ prepost ≠ 1 ∨ ¬ (addThis = -1 ∨ addThis = 1)) →
      ∀ fuel, genericLockStateFuel fuel g mem prepost lock origin lockType addThis =
        .error .outOfFuel := by
    intro hcond
    push Not at hcond
    obtain ⟨hunknown, rfl, hadd⟩ := hcond
    exact genericLockStateFuel_unknown_post g mem lock origin lockType addThis hunknown hadd
  refine ⟨⟨fun hret => ?_, fun hcond => ?_⟩, hdiverges⟩
  · by_contra hcond
    exact hret (hdiverges hcond 2)
  · have hret : FaultsIn (· ≠ .outOfFuel)
        (genericLockStateFuel 2 g mem prepost lock origin lockType addThis) := by
      cases hsearch : objsSearch g lock with
      | some value =>
          rw [genericLockStateFuel_known g mem prepost lock origin lockType addThis hsearch 1]
          exact (faultsIn_tfassertDetail (by simp)).bind
            fun _ _ => genericLockStateKnown_fuel _ _ _ _ _ _ value
      | none =>
          rw [genericLockStateFuel_unknown g mem prepost lock origin lockType addThis hsearch 1]
          refine (faultsIn_tfassertDetail (by simp)).bind fun _ hadd => ?_
          refine (genericLockAllocator_fuel g mem prepost lock origin).bind fun g' hg' => ?_
          by_cases hpre : prepost = 0
          · subst hpre
            obtain ⟨value, hvalue⟩ := genericLockAllocator_known g mem lock origin hg'
            rw [genericLockStateFuel_known g' mem 0 lock origin lockType addThis hvalue 0]
            exact (faultsIn_tfassertDetail (by simp)).bind
              fun _ _ => genericLockStateKnown_fuel _ _ _ _ _ _ value
          · have hpost : prepost ≠ 1 := by
              rcases hcond with h | h | h
              · exact absurd hsearch h
              · exact h
              · exact absurd (tfassertDetail_eq_ok.mp hadd) h
            rw [genericLockAllocator, if_neg hpre, if_neg hpost] at hg'
            cases hg'
    exact fun h => hret _ h rfl

/-- More room than for one recursive call never changes the result. -/
theorem genericLockState_fuel (fuel : ℕ) :
    genericLockStateFuel (fuel + 2) g mem prepost lock origin lockType addThis =
      genericLockState g mem prepost lock origin lockType addThis := by
  unfold genericLockState
  cases hsearch : objsSearch g lock with
  | some value =>
      rw [genericLockStateFuel_known g mem prepost lock origin lockType addThis hsearch,
        genericLockStateFuel_known g mem prepost lock origin lockType addThis hsearch]
  | none =>
      by_cases hadd : addThis = -1 ∨ addThis = 1
      · by_cases hpost : prepost = 1
        · rw [hpost,
            genericLockStateFuel_unknown_post g mem lock origin lockType addThis hsearch hadd,
            genericLockStateFuel_unknown_post g mem lock origin lockType addThis hsearch hadd]
        · rw [genericLockStateFuel_unknown g mem prepost lock origin lockType addThis hsearch,
            genericLockStateFuel_unknown g mem prepost lock origin lockType addThis hsearch]
          cases halloc : genericLockAllocator g mem prepost lock origin with
          | error e => rfl
          | ok g' =>
              have hpre : prepost = 0 := by
                by_contra hpre
                rw [genericLockAllocator, if_neg hpre, if_neg hpost] at halloc
                cases halloc
              subst hpre
              obtain ⟨value, hvalue⟩ := genericLockAllocator_known g mem lock origin halloc
              rw [ok_bind, ok_bind,
                genericLockStateFuel_known g' mem 0 lock origin lockType addThis hvalue,
                genericLockStateFuel_known g' mem 0 lock origin lockType addThis hvalue]
      · rw [genericLockStateFuel_unknown g mem prepost lock origin lockType addThis hsearch,
          genericLockStateFuel_unknown g mem prepost lock origin lockType addThis hsearch,
          tfassertDetail_of_false hadd]
        rfl

end Termination

/-- A successful `spin_trylock` on a static lock that the tracker has not seen. -/
theorem trylock_static_lock_diverges :
    ¬ ∃ fuel, genericLockStateFuel fuel initializeDriverState Alloc.succeeds 1 0xc0100000
      originSpinLock .genericLock 1 ≠ .error .outOfFuel := by
  rintro ⟨fuel, hfuel⟩
  have hunknown : objsSearch initializeDriverState 0xc0100000 = none := by
    rw [objsSearch_eq tracks_initialized, Finmap.lookup_empty]
  exact hfuel (genericLockStateFuel_unknown_post _ _ _ _ _ _ hunknown (by decide) fuel)

/-! ## The working branches on a record that says one thing -/

@[simp] lemma addLockState_lockState (value : HValue) (t : LockType) (n : ℤ) :
    (value.addLockState t n).lockState =
      Function.update value.lockState t (value.lockState t + n) := rfl

/-- Taking a free lock in one way fills this slot. -/
lemma acquire_heldState {value : HValue} {t : LockType} (h : value.lockState = heldState none) :
    (value.addLockState t 1).lockState = heldState (some t) := by
  funext t'
  rw [addLockState_lockState, h, Function.update_apply]
  split_ifs with ht
  · rw [ht, heldState_self, heldState_none]
    rfl
  · rw [heldState_none, heldState_of_ne (Ne.symm ht)]

/-- Releasing the lock in the same way empties the slot. -/
lemma release_heldState {value : HValue} {t : LockType} (h : value.lockState = heldState (some t)) :
    (value.addLockState t (-1)).lockState = heldState none := by
  funext t'
  rw [addLockState_lockState, h, Function.update_apply]
  split_ifs with ht
  · rw [heldState_self, heldState_none]
    rfl
  · rw [heldState_none, heldState_of_ne (Ne.symm ht)]

/-- Locking after the kernel did, on a free lock. -/
lemma lockPost_of_free {g : GlobalState} {lock : ULong} {value : HValue} {origin : Origin}
    {t : LockType} (h : value.lockState = heldState none) :
    lockPost g lock value origin t 1 =
      lockKernelState (objsModify g lock fun _ => value.addLockState t 1) origin t 1 := by
  have hheld := acquire_heldState (t := t) h
  unfold lockPost
  dsimp only
  rw [tfassertDetail_of_true (by rw [hheld, heldState_self]), ok_bind,
    verifyLockState_of_heldState hheld, ok_bind]

/-- Locking goes through on a free lock only. -/
lemma free_of_lockPost {g g' : GlobalState} {lock : ULong} {value : HValue} {origin : Origin}
    {t : LockType} (h : lockPost g lock value origin t 1 = .ok g') :
    value.lockState = heldState none := by
  unfold lockPost at h
  obtain ⟨hslot, h⟩ := tfassertDetail_bind_eq_ok.mp h
  obtain ⟨_, hverify, _⟩ := bind_eq_ok.mp h
  have hheld := heldState_of_verify hverify hslot
  funext t'
  rw [addLockState_lockState] at hslot hheld
  rw [heldState_none]
  by_cases ht : t' = t
  · rw [Function.update_self] at hslot
    rw [ht]
    omega
  · have hother := congrFun hheld t'
    rwa [Function.update_of_ne ht, heldState_of_ne (Ne.symm ht)] at hother

/-- Unlocking before the kernel does, on a lock held under the slot it is unlocked with. -/
lemma unlockPre_of_held {g : GlobalState} {lock : ULong} {value : HValue} {origin : Origin}
    {t : LockType} (h : value.lockState = heldState (some t)) (ht : t ≠ .genericLock) :
    unlockPre g lock value origin t (-1) =
      lockKernelState (objsModify g lock fun _ => value.addLockState t (-1)) origin t (-1) := by
  have hfree := release_heldState h
  have hgeneric : ¬ value.lockState .genericLock = 1 := by
    rw [h, heldState_of_ne ht]
    decide
  unfold unlockPre
  rw [tfassertDetail_of_true ht, ok_bind]
  dsimp only
  rw [if_neg hgeneric, if_neg hgeneric, tfassertDetail_of_true (by rw [hfree, heldState_none]),
    ok_bind, verifyLockState_of_heldState hfree, ok_bind]

/-- The record of a lock taken by a trylock, after its transfer to slot `t` and the unlock. -/
def HValue.unlockGeneric (value : HValue) (t : LockType) : HValue :=
  ((value.addLockState .genericLock (-1)).addLockState t 1).addLockState t (-1)

/-- A lock taken by a trylock is released in any way: the slot is changed before. -/
lemma unlockGeneric_heldState {value : HValue} {t : LockType}
    (h : value.lockState = heldState (some .genericLock)) :
    (value.unlockGeneric t).lockState = heldState none :=
  release_heldState (acquire_heldState (release_heldState h))

/-- Unlocking a lock that was taken by a trylock, with whichever unlock. -/
lemma unlockPre_of_generic {g : GlobalState} {lock : ULong} {value : HValue} {origin : Origin}
    {t : LockType} (h : value.lockState = heldState (some .genericLock)) (ht : t ≠ .genericLock) :
    unlockPre g lock value origin t (-1) =
      .ok (objsModify g lock fun _ => value.unlockGeneric t) := by
  have hfree := unlockGeneric_heldState (t := t) h
  have hgeneric : value.lockState .genericLock = 1 := by
    rw [h, heldState_self]
  unfold unlockPre
  rw [tfassertDetail_of_true ht, ok_bind]
  dsimp only
  rw [if_pos hgeneric, if_pos hgeneric, neg_neg]
  show (tfassertDetail _ ((value.unlockGeneric t).lockState t = 0) _ >>= fun _ => _) = _
  rw [tfassertDetail_of_true (by rw [hfree, heldState_none]), ok_bind]
  show (verifyLockState (value.unlockGeneric t) >>= fun _ => _) = _
  rw [verifyLockState_of_heldState hfree, ok_bind]
  rfl

/-! ## What the blocking contexts see -/

/-- The blocking context that holding a lock of this type pushes. -/
def LockType.context : LockType → Option BlockingContext
  | .spinLock | .spinLockBh | .spinLockIrqsave | .spinLockIrq | .rwlock => some .no
  | .mutex | .rwsem => some .yes
  | .undefined | .genericLock => none

/-- A push succeeds while there is room on the stack. -/
lemma pushBlockingState_eq_ok {g g' : GlobalState} {c : BlockingContext} :
    pushBlockingState g c = .ok g' ↔
      g.blockingContextCurrent + 1 < maxNesting ∧
      g' = { g with blockingContextCurrent := g.blockingContextCurrent + 1,
                    blockingContext := Function.update g.blockingContext
                      (g.blockingContextCurrent + 1) c } := by
  unfold pushBlockingState
  dsimp only
  split_ifs with h
  · simp [h, eq_comm]
  · simp [h]

/-- A pop succeeds unless the first context is on top. -/
lemma popBlockingState_eq_ok {g g' : GlobalState} :
    popBlockingState g = .ok g' ↔
      0 < g.blockingContextCurrent ∧
      g' = { g with blockingContextCurrent := g.blockingContextCurrent - 1 } := by
  unfold popBlockingState
  rw [tfassertDetail_bind_eq_ok, Except.ok.injEq]
  exact and_congr_right fun _ => eq_comm

/-- What an acquisition does to the blocking contexts: a generic lock leaves them alone, any other
pushes its context, and a sleeping lock is not taken in a non-blocking context. -/
lemma lockKernelState_acquire {g g' : GlobalState} {origin : Origin} {t : LockType}
    (h : lockKernelState g origin t 1 = .ok g') :
    (t = .genericLock ∧ g' = g) ∨
      ∃ context, t.context = some context ∧
        (context = .yes → kernelBlockingState g ≠ .no) ∧ pushBlockingState g context = .ok g' := by
  cases t with
  | undefined => cases h
  | genericLock =>
      cases h
      exact Or.inl ⟨rfl, rfl⟩
  | spinLock | spinLockBh | spinLockIrqsave | spinLockIrq | rwlock =>
      unfold lockKernelState at h
      obtain ⟨_, h⟩ := tfassertDetail_bind_eq_ok.mp h
      rw [if_pos (by decide)] at h
      exact Or.inr ⟨.no, rfl, by simp, h⟩
  | mutex | rwsem =>
      unfold lockKernelState at h
      obtain ⟨_, h⟩ := tfassertDetail_bind_eq_ok.mp h
      rw [if_pos (by decide)] at h
      obtain ⟨hyes, h⟩ := tfassertDetail_bind_eq_ok.mp h
      refine Or.inr ⟨.yes, rfl, fun _ hno => ?_, h⟩
      rw [hno] at hyes
      exact absurd hyes (by decide)

/-- What a release does to the blocking contexts: it pops one, whichever lock pushed it. -/
lemma lockKernelState_release {g g' : GlobalState} {origin : Origin} {t : LockType}
    (h : lockKernelState g origin t (-1) = .ok g') :
    (t = .genericLock ∧ g' = g) ∨ (t.context.isSome = true ∧ popBlockingState g = .ok g') := by
  cases t with
  | undefined => cases h
  | genericLock =>
      cases h
      exact Or.inl ⟨rfl, rfl⟩
  | spinLock | spinLockBh | spinLockIrqsave | spinLockIrq | rwlock | mutex | rwsem =>
      unfold lockKernelState at h
      obtain ⟨_, h⟩ := tfassertDetail_bind_eq_ok.mp h
      rw [if_neg (by decide)] at h
      exact Or.inr ⟨rfl, h⟩

end SymDrive

import SymDrive.Gtf.LockRefinement

/-!
# Reader/writer locks

`misc_checks/main.c`: the checks around the functions that take and release an `rwlock_t`.  Those of
the readers report the same as those of the writers: the one slot `RWLOCK`, which holds one owner.

The reference model `RwState` keeps the acquisitions that have not been released.  Any number of
readers may hold a lock, or one writer.  `rwlocks_simulated_iff` says which legal runs the checks
follow: those in which a lock is never taken by a second reader while a first one holds it
(`second_reader_refused`).
-/

namespace SymDrive

open Checked

/-! ## The check routines -/

def writeLockIrqMJRcheck (f : Framework) (prepost : ℤ) (args : LockArgs) : Except Fault Framework :=
  stateCheckRoutine f prepost args originRwlock .rwlock 1

def writeUnlockIrqMJRcheck (f : Framework) (prepost : ℤ) (args : LockArgs) :
    Except Fault Framework :=
  stateCheckRoutine f prepost args originRwlock .rwlock (-1)

def readLockIrqMJRcheck (f : Framework) (prepost : ℤ) (args : LockArgs) : Except Fault Framework :=
  stateCheckRoutine f prepost args originRwlock .rwlock 1

def readUnlockIrqMJRcheck (f : Framework) (prepost : ℤ) (args : LockArgs) :
    Except Fault Framework :=
  stateCheckRoutine f prepost args originRwlock .rwlock (-1)

def readLockMJRcheck (f : Framework) (prepost : ℤ) (args : LockArgs) : Except Fault Framework :=
  stateCheckRoutine f prepost args originRwlock .rwlock 1

def readUnlockMJRcheck (f : Framework) (prepost : ℤ) (args : LockArgs) : Except Fault Framework :=
  stateCheckRoutine f prepost args originRwlock .rwlock (-1)

/-- `retval`, the saved flags, is not looked at. -/
def writeLockIrqsaveMJRcheck (f : Framework) (prepost : ℤ) (_retval : ULong) (args : LockArgs) :
    Except Fault Framework :=
  stateCheckRoutine f prepost args originRwlock .rwlock 1

/-- `flags` is not looked at. -/
def writeUnlockIrqrestoreMJRcheck (f : Framework) (prepost : ℤ) (args : LockArgs)
    (_flags : ULong) : Except Fault Framework :=
  stateCheckRoutine f prepost args originRwlock .rwlock (-1)

/-- `retval`, the saved flags, is not looked at. -/
def readLockIrqsaveMJRcheck (f : Framework) (prepost : ℤ) (_retval : ULong) (args : LockArgs) :
    Except Fault Framework :=
  stateCheckRoutine f prepost args originRwlock .rwlock 1

/-- `flags` is not looked at. -/
def readUnlockIrqrestoreMJRcheck (f : Framework) (prepost : ℤ) (args : LockArgs)
    (_flags : ULong) : Except Fault Framework :=
  stateCheckRoutine f prepost args originRwlock .rwlock (-1)

inductive RwApi where
  | writeLockIrq
  | writeUnlockIrq
  | readLockIrq
  | readUnlockIrq
  | readLock
  | readUnlock
  | writeLockIrqsave
  | writeUnlockIrqrestore
  | readLockIrqsave
  | readUnlockIrqrestore
  deriving DecidableEq, Repr

/-- One call of the driver; `flags` are those the `irqsave` functions return and the `irqrestore`
functions are given. -/
structure RwCall where
  api : RwApi
  args : LockArgs
  flags : ULong

/-- The check routine the stub of a function looks up. -/
def RwCall.check (c : RwCall) (f : Framework) (prepost : ℤ) : Except Fault Framework :=
  match c.api with
  | .writeLockIrq => writeLockIrqMJRcheck f prepost c.args
  | .writeUnlockIrq => writeUnlockIrqMJRcheck f prepost c.args
  | .readLockIrq => readLockIrqMJRcheck f prepost c.args
  | .readUnlockIrq => readUnlockIrqMJRcheck f prepost c.args
  | .readLock => readLockMJRcheck f prepost c.args
  | .readUnlock => readUnlockMJRcheck f prepost c.args
  | .writeLockIrqsave => writeLockIrqsaveMJRcheck f prepost c.flags c.args
  | .writeUnlockIrqrestore => writeUnlockIrqrestoreMJRcheck f prepost c.args c.flags
  | .readLockIrqsave => readLockIrqsaveMJRcheck f prepost c.flags c.args
  | .readUnlockIrqrestore => readUnlockIrqrestoreMJRcheck f prepost c.args c.flags

/-- A completed check: the precondition, the kernel function, the postcondition. -/
def RwCall.exec (f : Framework) (c : RwCall) : Except Fault Framework := do
  let f ← c.check f 0
  c.check f 1

/-! ## The reference model -/

inductive RwMode where
  | read
  | write
  deriving DecidableEq, Repr

inductive RwAction where
  | acquire (mode : RwMode)
  | release (mode : RwMode)

/-- What the kernel function does to the lock. -/
def RwApi.action : RwApi → RwAction
  | writeLockIrq | writeLockIrqsave => .acquire .write
  | writeUnlockIrq | writeUnlockIrqrestore => .release .write
  | readLock | readLockIrq | readLockIrqsave => .acquire .read
  | readUnlock | readUnlockIrq | readUnlockIrqrestore => .release .read

/-- The acquisitions that have not been released, and the locks the tracker has a record of. -/
structure RwState where
  held : List (ULong × RwMode)
  known : Set ULong

/-- No reader and no writer holds the lock. -/
def RwState.Free (t : RwState) (l : ULong) : Prop := ∀ mode, (l, mode) ∉ t.held

/-- Nothing is held at the start. -/
def RwState.start (f : Framework) : RwState where
  held := []
  known := { l | objsSearch f.test l ≠ none }

namespace RwCall

def after (t : RwState) (c : RwCall) : RwState :=
  match c.api.action with
  | .acquire mode =>
      { held := (c.args.lock, mode) :: t.held, known := insert c.args.lock t.known }
  | .release mode => { t with held := t.held.erase (c.args.lock, mode) }

/-- **Reader/writer semantics**: a reader gets a lock that no writer holds, a writer one that nobody
holds, and each releases what it holds.  The arguments are addresses of locks and of an argument on
the stack. -/
def Legal (locks : Set ULong) (t : RwState) (c : RwCall) : Prop :=
  c.args.lock ∈ locks ∧ c.args.lockPtr > 0x1000 ∧
    match c.api.action with
    | .acquire .read => (c.args.lock, .write) ∉ t.held
    | .acquire .write => t.Free c.args.lock
    | .release mode => (c.args.lock, mode) ∈ t.held

/-- **The condition for a call to be followed**: no reader holds the lock that is acquired, there is
room for its blocking context above the `base` the run started from, and it has a record or the
allocations for one succeed. -/
def Followed (base : ℕ) (t : RwState) (c : RwCall) : Prop :=
  match c.api.action with
  | .acquire _ => (c.args.lock, .read) ∉ t.held ∧ base + t.held.length + 1 < maxNesting ∧
      (c.args.lock ∈ t.known ∨ c.args.mem.Suffices)
  | .release _ => True

end RwCall

/-- The shadow state says that nobody holds the lock; a lock without a record was never taken. -/
def ShadowFree (g : GlobalState) (l : ULong) : Prop :=
  ∀ value, objsSearch g l = some value → ∀ t, value.lockState t = 0

/-- The shadow state says exactly of the free locks that they are free. -/
def Shadows (locks : Set ULong) (f : Framework) (t : RwState) : Prop :=
  ∀ l ∈ locks, ShadowFree f.test l ↔ t.Free l

/-! ## The invariant -/

/-- What the record of a lock says. -/
def RwState.slot (t : RwState) (l : ULong) : Option LockType :=
  if l ∈ t.held.map Prod.fst then some .rwlock else none

/-- **The invariant.**  No lock was acquired twice, the records say which locks are held, and there
is one blocking context for each. -/
structure RwInv (locks : Set ULong) (base : ℕ) (f : Framework) (t : RwState) : Prop where
  free : f.lock = ⟨0⟩
  depth : f.test.blockingContextCurrent = base + t.held.length
  once : (t.held.map Prod.fst).Nodup
  heldKnown : ∀ p ∈ t.held, p.1 ∈ t.known
  records : ∃ m, f.test.Tracks m ∧ (∀ l, l ∈ t.known ↔ m.lookup l ≠ none) ∧
    ∀ l ∈ locks, ∀ value, m.lookup l = some value → value.lockState = heldState (t.slot l)

lemma RwState.free_iff {t : RwState} {l : ULong} : t.Free l ↔ l ∉ t.held.map Prod.fst := by
  rw [List.mem_map]
  constructor
  · rintro hfree ⟨⟨_, mode⟩, hmem, rfl⟩
    exact hfree mode hmem
  · intro h mode hmem
    exact h ⟨_, hmem, rfl⟩

lemma RwState.slot_of_free {t : RwState} {l : ULong} (h : t.Free l) : t.slot l = none :=
  if_neg (RwState.free_iff.mp h)

lemma RwState.slot_of_held {t : RwState} {l : ULong} {mode : RwMode} (h : (l, mode) ∈ t.held) :
    t.slot l = some .rwlock :=
  if_pos (List.mem_map.mpr ⟨_, h, rfl⟩)

lemma RwInv.shadows {locks : Set ULong} {base : ℕ} {f : Framework} {t : RwState}
    (h : RwInv locks base f t) : Shadows locks f t := by
  obtain ⟨m, hm, hknown, hrecords⟩ := h.records
  intro l hl
  constructor
  · intro hshadow mode hmem
    obtain ⟨value, hvalue⟩ := Option.ne_none_iff_exists'.mp ((hknown l).mp (h.heldKnown _ hmem))
    have hheld := hrecords l hl value hvalue
    have hzero := hshadow value (by rw [objsSearch_eq hm, hvalue]) .rwlock
    rw [hheld, RwState.slot_of_held hmem, heldState_self] at hzero
    cases hzero
  · intro hfree value hvalue t'
    rw [objsSearch_eq hm] at hvalue
    rw [hrecords l hl value hvalue, RwState.slot_of_free hfree, heldState_none]

/-! ## One completed check -/

def RwAction.addThis : RwAction → ℤ
  | acquire _ => 1
  | release _ => -1

/-- All ten checks report to `generic_lock_state` in the same way, but for the direction. -/
lemma RwCall.check_eq (c : RwCall) (f : Framework) (prepost : ℤ) :
    c.check f prepost =
      stateCheckRoutine f prepost c.args originRwlock .rwlock c.api.action.addThis := by
  obtain ⟨api, args, flags⟩ := c
  cases api <;> rfl

/-- What the framework sees of the call. -/
def RwCall.call (c : RwCall) : LockCall := ⟨c.args.lock, originRwlock, .rwlock, c.args.mem⟩

lemma RwCall.exec_eq {c : RwCall} {f : Framework} (hfree : f.lock = ⟨0⟩)
    (hptr : c.args.lockPtr > 0x1000) :
    c.exec f =
      (c.call.exec f.test c.api.action.addThis >>= fun test => .ok { f with test := test }) := by
  rw [exec, check_eq, stateCheckRoutine, lockCheckRoutine_of_free hfree hptr, LockCall.exec]
  cases hpre : genericLockState f.test c.call.mem 0 c.call.lock c.call.origin c.call.lockType
      c.api.action.addThis with
  | error e =>
      have hpre' : genericLockState f.test c.args.mem 0 c.args.lock originRwlock .rwlock
          c.api.action.addThis = .error e := hpre
      rw [hpre']
      rfl
  | ok g =>
      have hpre' : genericLockState f.test c.args.mem 0 c.args.lock originRwlock .rwlock
          c.api.action.addThis = .ok g := hpre
      have hfree' : ({ f with test := g } : Framework).lock = ⟨0⟩ := hfree
      rw [hpre', ok_bind, ok_bind, ok_bind, check_eq, stateCheckRoutine,
        lockCheckRoutine_of_free hfree' hptr]
      rfl

/-- An rwlock pushes a context that forbids sleeping, like a spinlock. -/
lemma rwlock_push (g : GlobalState) :
    lockKernelState g originRwlock .rwlock 1 = pushBlockingState g .no := by
  rw [lockKernelState, tfassertDetail_of_true (Or.inr (by decide)), ok_bind, if_pos (by decide)]

lemma rwlock_pop (g : GlobalState) :
    lockKernelState g originRwlock .rwlock (-1) = popBlockingState g := by
  rw [lockKernelState, tfassertDetail_of_true (Or.inr (by decide)), ok_bind, if_neg (by decide)]

/-- What an acquisition or a release leaves of the tracker: the record of the one lock says `o`,
the others are as they were, and `depth` blocking contexts are in use. -/
def Leaves (m : Tracked) (lock : ULong) (o : Option LockType) (depth : ℕ) (g' : GlobalState) :
    Prop :=
  g'.blockingContextCurrent = depth ∧ ∃ m', g'.Tracks m' ∧
    (∀ l ≠ lock, m'.lookup l = m.lookup l) ∧
    ∃ value, m'.lookup lock = some value ∧ value.lockState = heldState o

section

variable {g : GlobalState} {m : Tracked} {c : RwCall} {value : HValue}

/-- Taking a free lock that has a record. -/
lemma acquire_known (hm : g.Tracks m) (hlook : m.lookup c.args.lock = some value)
    (hvalue : value.lockState = heldState none) (haddr : c.args.lock > 0x1000)
    (hroom : g.blockingContextCurrent + 1 < maxNesting) :
    ∃ g', c.call.exec g 1 = .ok g' ∧
      Leaves m c.args.lock (some .rwlock) (g.blockingContextCurrent + 1) g' := by
  have hsearch : objsSearch g c.call.lock = some value := by
    rw [objsSearch_eq hm]
    exact hlook
  have hexec : c.call.exec g 1 = pushBlockingState
      (objsModify g c.args.lock fun _ => value.addLockState .rwlock 1) .no := by
    rw [exec_acquire hsearch hvalue haddr]
    exact rwlock_push _
  refine ⟨_, hexec.trans (pushBlockingState_eq_ok.mpr ⟨hroom, rfl⟩), rfl, _,
    tracks_modified hm hlook _, fun l hl => Finmap.lookup_insert_of_ne m hl, _,
    Finmap.lookup_insert m, acquire_heldState hvalue⟩

/-- Taking a lock that has no record. -/
lemma acquire_unknown (hm : g.Tracks m) (hlook : m.lookup c.args.lock = none)
    (hmem : c.args.mem.Suffices) (haddr : c.args.lock > 0x1000)
    (hroom : g.blockingContextCurrent + 1 < maxNesting) :
    ∃ g', c.call.exec g 1 = .ok g' ∧
      Leaves m c.args.lock (some .rwlock) (g.blockingContextCurrent + 1) g' := by
  have hunknown : objsSearch g c.call.lock = none := by
    rw [objsSearch_eq hm]
    exact hlook
  have hnonzero : c.args.lock ≠ 0 := by
    intro hzero
    rw [hzero] at haddr
    exact absurd haddr (by decide)
  have hm₁ := tracks_inserted hm (Finmap.lookup_eq_none.mp hlook)
    (HValue.fresh originRwlock (0 - 1) 0) hmem.2.2
  have hnew : (HValue.fresh originRwlock (0 - 1) 0).lockState = heldState none := by
    funext t
    rw [heldState_none]
    rfl
  obtain ⟨g', hexec, hdepth, m', hm', hothers, hrecord⟩ :=
    acquire_known (c := c) hm₁ (Finmap.lookup_insert m) hnew haddr hroom
  have halloc : genericLockAllocator g c.call.mem 0 c.call.lock c.call.origin = .ok _ :=
    (genericLockAllocator_unknown hunknown).mpr ⟨hnonzero, hmem, rfl⟩
  refine ⟨g', ?_, hdepth, m', hm', fun l hl => ?_, hrecord⟩
  · rw [exec_acquire_unknown hunknown, halloc, ok_bind]
    exact hexec
  · rw [hothers l hl, Finmap.lookup_insert_of_ne m hl]

/-- An acquisition that goes through had room for its context, and the lock was free or could be
given a record. -/
lemma acquire_requires {g' : GlobalState} (hm : g.Tracks m) (h : c.call.exec g 1 = .ok g') :
    g.blockingContextCurrent + 1 < maxNesting ∧
      (∀ v, m.lookup c.args.lock = some v → v.lockState = heldState none) ∧
      (m.lookup c.args.lock = none → c.args.mem.Suffices) := by
  obtain ⟨g₁, _, _, _, hsame, _, _, _, hfree, hkernel⟩ := acquire_inv hm h
  have hpush := pushBlockingState_eq_ok.mp ((rwlock_push g₁).symm.trans hkernel)
  refine ⟨hsame.current ▸ hpush.1, hfree, fun hlook => ?_⟩
  have hunknown : objsSearch g c.call.lock = none := by
    rw [objsSearch_eq hm]
    exact hlook
  rw [exec_acquire_unknown hunknown] at h
  obtain ⟨g₂, halloc, _⟩ := bind_eq_ok.mp h
  exact ((genericLockAllocator_unknown hunknown).mp halloc).2.1

/-- Releasing a lock that is held. -/
lemma release_held (hm : g.Tracks m) (hlook : m.lookup c.args.lock = some value)
    (hvalue : value.lockState = heldState (some .rwlock)) (haddr : c.args.lock > 0x1000)
    (hdepth : 0 < g.blockingContextCurrent) :
    ∃ g', c.call.exec g (-1) = .ok g' ∧
      Leaves m c.args.lock none (g.blockingContextCurrent - 1) g' := by
  have hexec : c.call.exec g (-1) = popBlockingState
      (objsModify g c.args.lock fun _ => value.addLockState .rwlock (-1)) := by
    have ht : c.call.lockType ≠ .genericLock := LockType.noConfusion
    rw [exec_release hm hlook hvalue ht haddr]
    exact rwlock_pop _
  refine ⟨_, hexec.trans (popBlockingState_eq_ok.mpr ⟨hdepth, rfl⟩), rfl, _,
    tracks_modified hm hlook _, fun l hl => Finmap.lookup_insert_of_ne m hl, _,
    Finmap.lookup_insert m, release_heldState hvalue⟩

end

/-! ## A run of checks -/

section

variable {locks : Set ULong} {base : ℕ} {f : Framework} {t : RwState} {c : RwCall} {mode : RwMode}

lemma slot_acquire_self :
    ({ held := (c.args.lock, mode) :: t.held, known := insert c.args.lock t.known } :
      RwState).slot c.args.lock = some .rwlock :=
  RwState.slot_of_held List.mem_cons_self

lemma slot_acquire_of_ne {l : ULong} (hl : l ≠ c.args.lock) :
    ({ held := (c.args.lock, mode) :: t.held, known := insert c.args.lock t.known } :
      RwState).slot l = t.slot l := by
  have hiff : l ∈ ((c.args.lock, mode) :: t.held).map Prod.fst ↔ l ∈ t.held.map Prod.fst := by
    rw [List.map_cons, List.mem_cons, or_iff_right hl]
  exact if_congr hiff rfl rfl

/-- Once it is released, a lock that was taken once is held no more. -/
lemma slot_release_self (honce : (t.held.map Prod.fst).Nodup)
    (hheld : (c.args.lock, mode) ∈ t.held) :
    ({ t with held := t.held.erase (c.args.lock, mode) } : RwState).slot c.args.lock = none := by
  refine if_neg fun hmem => ?_
  have hperm := (List.perm_cons_erase hheld).map Prod.fst
  have hnodup := hperm.nodup_iff.mp honce
  rw [List.map_cons, List.nodup_cons] at hnodup
  exact hnodup.1 hmem

lemma slot_release_of_ne (hheld : (c.args.lock, mode) ∈ t.held) {l : ULong}
    (hl : l ≠ c.args.lock) :
    ({ t with held := t.held.erase (c.args.lock, mode) } : RwState).slot l = t.slot l := by
  have hperm := (List.perm_cons_erase hheld).map Prod.fst
  have hiff : l ∈ t.held.map Prod.fst ↔
      l ∈ (t.held.erase (c.args.lock, mode)).map Prod.fst := by
    rw [hperm.mem_iff, List.map_cons, List.mem_cons, or_iff_right hl]
  exact (if_congr hiff rfl rfl).symm

/-- A lock that nobody holds can be taken, with room for its context and for a record. -/
lemma RwInv.acquire (h : RwInv locks base f t) (hlow : c.args.lock > 0x1000)
    (hlock : c.args.lock ∈ locks) (hptr : c.args.lockPtr > 0x1000)
    (haction : c.api.action = .acquire mode) (hfree : t.Free c.args.lock)
    (hc : c.Followed base t) : ∃ f', c.exec f = .ok f' ∧ RwInv locks base f' (c.after t) := by
  obtain ⟨m, hm, hknown, hrecords⟩ := h.records
  rw [RwCall.Followed, haction] at hc
  obtain ⟨_, hroom, halloc⟩ := hc
  rw [← h.depth] at hroom
  -- The two ways to take it differ in whether the lock has a record.
  have htake : ∃ g', c.call.exec f.test 1 = .ok g' ∧
      Leaves m c.args.lock (some .rwlock) (f.test.blockingContextCurrent + 1) g' := by
    cases hlook : m.lookup c.args.lock with
    | some value =>
        have hvalue := hrecords _ hlock value hlook
        rw [RwState.slot_of_free hfree] at hvalue
        exact acquire_known hm hlook hvalue hlow hroom
    | none =>
        have hmem := halloc.resolve_left fun hk => (hknown _).mp hk hlook
        exact acquire_unknown hm hlook hmem hlow hroom
  obtain ⟨g', hexec, hdepth, m', hm', hothers, value, hvalue, hheld⟩ := htake
  refine ⟨{ f with test := g' }, ?_, ?_⟩
  · rw [RwCall.exec_eq h.free hptr, haction, RwAction.addThis, hexec, ok_bind]
  · rw [RwCall.after, haction]
    refine ⟨h.free, ?_, ?_, ?_, m', hm', ?_, ?_⟩
    · rw [hdepth, h.depth]
      exact Nat.add_assoc _ _ _
    · exact List.nodup_cons.mpr ⟨RwState.free_iff.mp hfree, h.once⟩
    · rintro p hp
      rcases List.mem_cons.mp hp with rfl | hp
      · exact Set.mem_insert _ _
      · exact Set.mem_insert_of_mem _ (h.heldKnown p hp)
    · intro l
      by_cases hl : l = c.args.lock
      · rw [hl, hvalue]
        exact iff_of_true (Set.mem_insert _ _) (by simp)
      · rw [hothers l hl, ← hknown l]
        exact Set.mem_insert_iff.trans (or_iff_right hl)
    · intro l hl v hv
      by_cases hne : l = c.args.lock
      · rw [hne, hvalue] at hv
        cases hv
        rw [hne, slot_acquire_self, hheld]
      · rw [hothers l hne] at hv
        rw [slot_acquire_of_ne hne, hrecords l hl v hv]

/-- A lock that is held can be released. -/
lemma RwInv.release (h : RwInv locks base f t) (hlow : c.args.lock > 0x1000)
    (hlock : c.args.lock ∈ locks) (hptr : c.args.lockPtr > 0x1000)
    (haction : c.api.action = .release mode) (hheld : (c.args.lock, mode) ∈ t.held) :
    ∃ f', c.exec f = .ok f' ∧ RwInv locks base f' (c.after t) := by
  obtain ⟨m, hm, hknown, hrecords⟩ := h.records
  obtain ⟨value, hlook⟩ := Option.ne_none_iff_exists'.mp ((hknown _).mp (h.heldKnown _ hheld))
  have hvalue := hrecords _ hlock value hlook
  rw [RwState.slot_of_held hheld] at hvalue
  have hlength := List.length_pos_of_mem hheld
  have hpos : 0 < f.test.blockingContextCurrent := by
    rw [h.depth]
    omega
  obtain ⟨g', hexec, hdepth, m', hm', hothers, value', hvalue', hstate⟩ :=
    release_held hm hlook hvalue hlow hpos
  refine ⟨{ f with test := g' }, ?_, ?_⟩
  · rw [RwCall.exec_eq h.free hptr, haction, RwAction.addThis, hexec, ok_bind]
  · rw [RwCall.after, haction]
    refine ⟨h.free, ?_, ?_, ?_, m', hm', ?_, ?_⟩
    · have herase := List.length_erase_of_mem hheld
      rw [hdepth, h.depth]
      dsimp only
      omega
    · exact h.once.sublist (List.erase_sublist.map _)
    · exact fun p hp => h.heldKnown p (List.mem_of_mem_erase hp)
    · intro l
      by_cases hl : l = c.args.lock
      · rw [hl, hvalue']
        exact iff_of_true (h.heldKnown _ hheld) (by simp)
      · rw [hothers l hl]
        exact hknown l
    · intro l hl v hv
      by_cases hne : l = c.args.lock
      · rw [hne, hvalue'] at hv
        cases hv
        rw [hne, slot_release_self h.once hheld, hstate]
      · rw [hothers l hne] at hv
        rw [slot_release_of_ne hheld hne, hrecords l hl v hv]

/-- A legal acquisition that the condition allows is one of a lock that nobody holds. -/
lemma free_of_followed (hlegal : c.Legal locks t) (haction : c.api.action = .acquire mode)
    (hc : c.Followed base t) : t.Free c.args.lock := by
  rw [RwCall.Legal, haction] at hlegal
  rw [RwCall.Followed, haction] at hc
  cases mode with
  | write => exact hlegal.2.2
  | read =>
      intro mode
      cases mode with
      | read => exact hc.1
      | write => exact hlegal.2.2

/-- **One legal call is followed** where the condition holds. -/
lemma RwInv.exec (haddr : ∀ l ∈ locks, l > 0x1000) (h : RwInv locks base f t)
    (hlegal : c.Legal locks t) (hc : c.Followed base t) :
    ∃ f', c.exec f = .ok f' ∧ RwInv locks base f' (c.after t) := by
  have hlow := haddr _ hlegal.1
  cases haction : c.api.action with
  | acquire mode =>
      exact h.acquire hlow hlegal.1 hlegal.2.1 haction (free_of_followed hlegal haction hc) hc
  | release mode =>
      have hheld := hlegal.2.2
      rw [haction] at hheld
      exact h.release hlow hlegal.1 hlegal.2.1 haction hheld

/-- A legal call that goes through meets the condition. -/
lemma RwInv.followed {f' : Framework} (h : RwInv locks base f t) (hlegal : c.Legal locks t)
    (hexec : c.exec f = .ok f') : c.Followed base t := by
  obtain ⟨m, hm, hknown, hrecords⟩ := h.records
  rw [RwCall.exec_eq h.free hlegal.2.1] at hexec
  obtain ⟨g', hexec, _⟩ := bind_eq_ok.mp hexec
  unfold RwCall.Followed
  cases haction : c.api.action with
  | release mode => trivial
  | acquire mode =>
      rw [haction] at hexec
      obtain ⟨hroom, hfree, hmem⟩ := acquire_requires hm hexec
      rw [h.depth] at hroom
      refine ⟨fun hread => ?_, hroom, ?_⟩
      · obtain ⟨value, hlook⟩ :=
          Option.ne_none_iff_exists'.mp ((hknown _).mp (h.heldKnown _ hread))
        have hheld := hrecords _ hlegal.1 value hlook
        rw [hfree value hlook, RwState.slot_of_held hread] at hheld
        cases heldState_injective hheld
      · by_cases hlook : m.lookup c.args.lock = none
        · exact Or.inr (hmem hlook)
        · exact Or.inl ((hknown _).mpr hlook)

end

/-- At the start of a run nothing is held. -/
lemma rwInv_start {locks : Set ULong} {f : Framework} (hlock : f.lock = ⟨0⟩) {m : Tracked}
    (hm : f.test.Tracks m)
    (hfree : ∀ l ∈ locks, ∀ value, m.lookup l = some value → value.lockState = heldState none) :
    RwInv locks f.test.blockingContextCurrent f (.start f) := by
  refine ⟨hlock, rfl, List.nodup_nil, fun p hp => absurd hp List.not_mem_nil, m, hm, ?_, ?_⟩
  · intro l
    rw [← objsSearch_eq hm]
    exact Iff.rfl
  · intro l hl value hvalue
    have hnone : (RwState.start f).slot l = none :=
      RwState.slot_of_free fun _ => List.not_mem_nil
    rw [hnone, hfree l hl value hvalue]

/-- **Reader/writer locks.**  On a legal run that starts with all rwlocks free the checks go through
and the shadow state says in every state which locks are free, iff every acquisition is one the
checks can follow: of a lock that no reader holds, with room for one more blocking context, and with
a record or the memory for one. -/
theorem rwlocks_simulated_iff (locks : Set ULong) (haddr : ∀ l ∈ locks, l > 0x1000)
    (calls : List RwCall) (f : Framework) (hlock : f.lock = ⟨0⟩) (m : Tracked)
    (hm : f.test.Tracks m)
    (hfree : ∀ l ∈ locks, ∀ value, m.lookup l = some value → value.lockState = heldState none)
    (hlegal : Along RwCall.after (RwCall.Legal locks) (.start f) calls) :
    Simulates RwCall.exec RwCall.after (Shadows locks) f (.start f) calls ↔
      Along RwCall.after (RwCall.Followed f.test.blockingContextCurrent) (.start f) calls := by
  have hstart := rwInv_start hlock hm hfree
  refine Simulates.iff_along (fun _ _ => RwInv.shadows) ?_ ?_ calls hstart hlegal
  · exact fun s t c hinv hL hC => hinv.exec haddr hL hC
  · exact fun s t c hinv hL hC s' hs' => absurd (hinv.followed hL hs') hC

/-- Process context, before any lock is known. -/
def rwProcess : Framework where
  lock := ⟨0⟩
  test := processContext
  driver := EnterExit.initial 0 ""

/-- One call on a lock the driver defined statically. -/
def rwCall (api : RwApi) : RwCall := ⟨api, ⟨0xc7fffff0, 0xc0001000, Alloc.succeeds⟩, 0⟩

theorem rwlocks_simulated_one_reader :
    Simulates RwCall.exec RwCall.after (Shadows {0xc0001000}) rwProcess (.start rwProcess)
      [rwCall .readLock, rwCall .readUnlock] := by
  refine (rwlocks_simulated_iff {0xc0001000} ?_ _ rwProcess rfl ∅ tracks_processContext ?_ ?_).mpr
    ?_
  · rintro l rfl
    decide
  · rintro l rfl value hvalue
    rw [Finmap.lookup_empty] at hvalue
    cases hvalue
  · exact ⟨⟨rfl, by decide, List.not_mem_nil⟩, ⟨rfl, by decide, List.mem_cons_self⟩, trivial⟩
  · exact ⟨⟨List.not_mem_nil, by decide, Or.inr Alloc.succeeds_suffices⟩, trivial, trivial⟩

/-- **Two readers at a time.**  The second acquisition counts the slot up to 2, which the check
takes for an error of the driver. -/
theorem second_reader_refused :
    Along RwCall.after (RwCall.Legal {0xc0001000}) (.start rwProcess)
      [rwCall .readLock, rwCall .readLock] ∧
    ¬ Simulates RwCall.exec RwCall.after (Shadows {0xc0001000}) rwProcess (.start rwProcess)
      [rwCall .readLock, rwCall .readLock] := by
  have hlegal : (rwCall .readLock).Legal {0xc0001000} (.start rwProcess) :=
    ⟨rfl, by decide, List.not_mem_nil⟩
  have hlegal' : (rwCall .readLock).Legal {0xc0001000}
      ((rwCall .readLock).after (.start rwProcess)) := by
    refine ⟨rfl, by decide, fun hmem => ?_⟩
    exact absurd (List.mem_singleton.mp hmem) (by decide)
  refine ⟨⟨hlegal, hlegal', trivial⟩, ?_⟩
  rintro ⟨_, f₁, hexec, _, f₂, hexec', _⟩
  have haddr : ∀ l ∈ ({0xc0001000} : Set ULong), l > 0x1000 := by
    rintro l rfl
    decide
  have hstart : RwInv {0xc0001000} 0 rwProcess (.start rwProcess) := by
    refine rwInv_start (f := rwProcess) rfl tracks_processContext ?_
    rintro l rfl value hvalue
    rw [Finmap.lookup_empty] at hvalue
    cases hvalue
  obtain ⟨f₁', hexec₁, hinv⟩ := hstart.exec haddr hlegal
    ⟨List.not_mem_nil, by decide, Or.inr Alloc.succeeds_suffices⟩
  cases hexec.symm.trans hexec₁
  exact (hinv.followed hlegal' hexec').1 List.mem_cons_self

end SymDrive

import SymDrive.Gtf.BlockingContext
import SymDrive.Gtf.EntryPoints

/-!
# The stacks of contexts as lists

`push_blocking_state` and its siblings work on arrays with an index.  Here the two arrays are read
as lists, the innermost context first, and each operation that touches them is shown to push, to pop
or to leave them alone.

A release pops the innermost entry, whichever lock pushed it, so all that counts is how many entries
there are; `RecordsHeld` ties the records of the tracker to the locks that were acquired, so that a
release that goes through pops exactly if the acquisition pushed.
-/

namespace SymDrive

open Checked

/-! ## Arrays as lists -/

/-- The contexts up to index `n`, the innermost first. -/
def contextStack {α : Type} (contexts : ℕ → α) : ℕ → List α
  | 0 => [contexts 0]
  | n + 1 => contexts (n + 1) :: contextStack contexts n

section

variable {α : Type} {contexts : ℕ → α} {n : ℕ} {c : α} {b : List α}

@[simp] lemma length_contextStack : (contextStack contexts n).length = n + 1 := by
  induction n with
  | zero => rfl
  | succ n ih => rw [contextStack, List.length_cons, ih]

lemma contextStack_update_of_lt {i : ℕ} (h : n < i) :
    contextStack (Function.update contexts i c) n = contextStack contexts n := by
  induction n with
  | zero => rw [contextStack, contextStack, Function.update_of_ne (by omega)]
  | succ n ih =>
      rw [contextStack, contextStack, Function.update_of_ne (by omega), ih (by omega)]

/-- Writing the next entry pushes it. -/
lemma contextStack_push :
    contextStack (Function.update contexts (n + 1) c) (n + 1) = c :: contextStack contexts n := by
  rw [contextStack, Function.update_self, contextStack_update_of_lt (Nat.lt_succ_self n)]

/-- A stack with an entry above others has a positive index, and the entries below are the stack at
the index before. -/
lemma contextStack_cons (h : contextStack contexts n = c :: b) (hb : b ≠ []) :
    0 < n ∧ contextStack contexts (n - 1) = b := by
  cases n with
  | zero =>
      rw [contextStack, List.cons.injEq] at h
      exact absurd h.2.symm hb
  | succ n =>
      rw [contextStack, List.cons.injEq] at h
      exact ⟨Nat.succ_pos n, h.2⟩

lemma head_contextStack (h : contextStack contexts n = c :: b) : contexts n = c := by
  cases n with
  | zero => exact (List.cons.inj h).1
  | succ n => exact (List.cons.inj h).1

end

/-! ## What the framework knows of the locks -/

/-- The lock an address was last acquired as. -/
def lastHeld (held : Held) (lock : ULong) : Option (ULong × LockType) :=
  held.find? fun p => decide (p.1 = lock)

/-- If the tracker still has a record of a lock that was acquired, then the record is that of the
last acquisition, or says that the lock is free. -/
def RecordsHeld (g : GlobalState) (held : Held) : Prop :=
  ∃ m, g.Tracks m ∧ ∀ p ∈ held, ∀ value, m.lookup p.1 = some value →
    ∃ o, value.lockState = heldState o ∧ ∀ t, o = some t → lastHeld held p.1 = some (p.1, t)

/-- The stacks as lists, and the locks that are held, the last acquired first. -/
structure StackView where
  blocking : List BlockingContext
  user : List UserContext
  held : Held

/-- The state shows the blocking contexts and the locks of the view. -/
structure TestShows (g : GlobalState) (v : StackView) : Prop where
  blocking : contextStack g.blockingContext g.blockingContextCurrent = v.blocking
  held : RecordsHeld g v.held

/-- The records show the whole view. -/
structure Shows (r : Records) (v : StackView) : Prop where
  test : TestShows r.test v
  user : contextStack r.userContext r.userContextCurrent = v.user

/-- An assertion about the stacks, or the write past the end of one that precedes it. -/
def Fault.OnStacks : Fault → Prop
  | .assertion func _ =>
      func ∈ [Func.pushBlockingState, .popBlockingState, .pushUserState, .popUserState]
  | .outOfBounds func => func ∈ [Func.pushBlockingState, .pushUserState]
  | _ => False

/-- The path ends for another reason. -/
def Fault.OutsideStacks (e : Fault) : Prop := ¬ e.OnStacks

/-! ## Pushing and popping -/

lemma outsideStacks_assertion {func : Func} {msg : String}
    (h : func ∉ [Func.pushBlockingState, .popBlockingState, .pushUserState, .popUserState]) :
    (Fault.assertion func msg).OutsideStacks :=
  h

section

variable {g g' : GlobalState} {r r' : Records} {v : StackView}

/-- Only the contexts and the table matter. -/
lemma TestShows.sameContext (h : TestShows g v) (hsame : SameContext g g')
    (hheld : RecordsHeld g' v.held) : TestShows g' v where
  blocking := by
    rw [hsame.context, hsame.current]
    exact h.blocking
  held := hheld

lemma Shows.congr (h : Shows r v) (htest : r'.test = r.test)
    (huser : r'.userContext = r.userContext)
    (hcurrent : r'.userContextCurrent = r.userContextCurrent) : Shows r' v where
  test := by
    rw [htest]
    exact h.test
  user := by
    rw [huser, hcurrent]
    exact h.user

lemma TestShows.length_blocking (h : TestShows g v) :
    v.blocking.length = g.blockingContextCurrent + 1 := by
  rw [← h.blocking, length_contextStack]

/-- An operation on the state of the locks leaves the user contexts alone. -/
lemma Shows.onTest {f : GlobalState → Except Fault GlobalState} {w : StackView} (h : Shows r v)
    (huser : w.user = v.user) (hf : Outcome TestShows Fault.OutsideStacks w (f r.test)) :
    Outcome Shows Fault.OutsideStacks w (r.onTest f) :=
  hf.map fun _ hg => ⟨hg, by rw [huser]; exact h.user⟩

lemma TestShows.push (h : TestShows g v) (hroom : v.blocking.length < maxNesting)
    (c : BlockingContext) :
    Outcome TestShows Fault.OutsideStacks { v with blocking := c :: v.blocking }
      (pushBlockingState g c) := by
  have hroom' : g.blockingContextCurrent + 1 < maxNesting := by rwa [← h.length_blocking]
  rw [(pushBlockingState_eq_ok (c := c)).mpr ⟨hroom', rfl⟩]
  refine ⟨?_, h.held⟩
  show contextStack (Function.update _ _ c) (g.blockingContextCurrent + 1) = _
  rw [contextStack_push, h.blocking]

lemma TestShows.pop {c : BlockingContext} {b : List BlockingContext} (h : TestShows g v)
    (hv : v.blocking = c :: b) (hb : b ≠ []) :
    Outcome TestShows Fault.OutsideStacks { v with blocking := b } (popBlockingState g) := by
  obtain ⟨hpos, hbelow⟩ := contextStack_cons (h.blocking.trans hv) hb
  rw [popBlockingState_eq_ok.mpr ⟨hpos, rfl⟩]
  exact ⟨hbelow, h.held⟩

lemma Shows.pushUser (h : Shows r v) (hroom : v.user.length < maxNesting) (c : UserContext) :
    Outcome Shows Fault.OutsideStacks { v with user := c :: v.user } (pushUserState r c) := by
  have hroom' : r.userContextCurrent + 1 < maxNesting := by
    rw [← h.user, length_contextStack] at hroom
    exact hroom
  simp only [pushUserState, if_pos hroom']
  refine ⟨⟨h.test.blocking, h.test.held⟩, ?_⟩
  show contextStack (Function.update _ _ c) (r.userContextCurrent + 1) = _
  rw [contextStack_push, h.user]

lemma Shows.popUser {c : UserContext} {u : List UserContext} (h : Shows r v)
    (hv : v.user = c :: u) (hu : u ≠ []) :
    Outcome Shows Fault.OutsideStacks { v with user := u } (popUserState r) := by
  obtain ⟨hpos, hbelow⟩ := contextStack_cons (h.user.trans hv) hu
  rw [popUserState, tfassertDetail_of_true hpos, ok_bind]
  exact ⟨⟨h.test.blocking, h.test.held⟩, hbelow⟩

lemma Shows.pushKernel (h : Shows r v) (hblocking : v.blocking.length < maxNesting)
    (huser : v.user.length < maxNesting) (b : BlockingContext) (u : UserContext) :
    Outcome Shows Fault.OutsideStacks
      { v with blocking := b :: v.blocking, user := u :: v.user } (pushKernelState r b u) := by
  have hpush := h.onTest (f := fun g => pushBlockingState g b)
    (w := { v with blocking := b :: v.blocking }) rfl (h.test.push hblocking b)
  exact hpush.bind fun _ hr => hr.pushUser huser u

lemma Shows.popKernel {b : BlockingContext} {bs : List BlockingContext} {u : UserContext}
    {us : List UserContext} (h : Shows r v) (hblocking : v.blocking = b :: bs) (hbs : bs ≠ [])
    (huser : v.user = u :: us) (hus : us ≠ []) :
    Outcome Shows Fault.OutsideStacks { v with blocking := bs, user := us } (popKernelState r) := by
  have hpop := h.onTest (w := { v with blocking := bs }) rfl (h.test.pop hblocking hbs)
  exact hpop.bind fun _ hr => hr.popUser huser hus

end

/-! ## Records of the tracker -/

section

variable {g g' : GlobalState} {held : Held} {v : StackView}

/-- A record that is added or replaced by one of a free lock, or taken out, says nothing new. -/
lemma RecordsHeld.of_lookup {m m' : Tracked}
    (hold : ∀ p ∈ held, ∀ value, m.lookup p.1 = some value →
      ∃ o, value.lockState = heldState o ∧ ∀ t, o = some t → lastHeld held p.1 = some (p.1, t))
    (hm' : g'.Tracks m')
    (hnew : ∀ l value, m'.lookup l = some value →
      m.lookup l = some value ∨ value.lockState = heldState none) : RecordsHeld g' held := by
  refine ⟨m', hm', fun p hp value hvalue => ?_⟩
  rcases hnew p.1 value hvalue with hsame | hfree
  · exact hold p hp value hsame
  · exact ⟨none, hfree, fun t ht => nomatch ht⟩

lemma RecordsHeld.inserted (h : RecordsHeld g held) {mem : Alloc} {object size : ULong}
    {origin : Origin} {newObject : ℤ} (hnew : objsSearch g object = none)
    (hentry : mem.insert.entry = true) :
    RecordsHeld (objsInserted g mem object (HValue.fresh origin size newObject)) held := by
  obtain ⟨m, hm, hold⟩ := h
  have hobject : object ∉ m := by
    rw [← Finmap.lookup_eq_none, ← objsSearch_eq hm]
    exact hnew
  refine .of_lookup hold (tracks_inserted hm hobject _ hentry) fun l value hvalue => ?_
  by_cases hl : l = object
  · rw [hl, Finmap.lookup_insert] at hvalue
    cases hvalue
    exact .inr (funext fun t => (heldState_none t).symm)
  · rw [Finmap.lookup_insert_of_ne m hl] at hvalue
    exact .inl hvalue

lemma RecordsHeld.removed (h : RecordsHeld g held) (object : ULong) :
    RecordsHeld (objsRemove g object).1 held := by
  obtain ⟨m, hm, hold⟩ := h
  refine .of_lookup hold (tracks_removed hm object) fun l value hvalue => ?_
  by_cases hl : l = object
  · rw [hl, Finmap.lookup_erase] at hvalue
    cases hvalue
  · rw [Finmap.lookup_erase_ne hl] at hvalue
    exact .inl hvalue

lemma lastHeld_cons_self (l : ULong) (t : LockType) : lastHeld ((l, t) :: held) l = some (l, t) :=
  List.find?_cons_of_pos (decide_eq_true rfl)

lemma lastHeld_cons_ne {l l' : ULong} (t : LockType) (h : l ≠ l') :
    lastHeld ((l, t) :: held) l' = lastHeld held l' :=
  List.find?_cons_of_neg (by simpa using h)

/-- The record of a lock that was just acquired. -/
lemma RecordsHeld.acquired {m m' : Tracked} {l : ULong} {t : LockType} {value : HValue}
    (hold : ∀ p ∈ held, ∀ value, m.lookup p.1 = some value →
      ∃ o, value.lockState = heldState o ∧ ∀ t, o = some t → lastHeld held p.1 = some (p.1, t))
    (hm' : g'.Tracks m') (hlook : m'.lookup l = some value)
    (hvalue : value.lockState = heldState (some t))
    (hframe : ∀ l' ≠ l, m'.lookup l' = m.lookup l') : RecordsHeld g' ((l, t) :: held) := by
  refine ⟨m', hm', fun p hp value' hvalue' => ?_⟩
  by_cases hpl : p.1 = l
  · rw [hpl, hlook] at hvalue'
    cases hvalue'
    refine ⟨some t, hvalue, fun t' ht' => ?_⟩
    cases ht'
    rw [hpl, lastHeld_cons_self]
  · rw [hframe p.1 hpl] at hvalue'
    have hmem : p ∈ held := by
      rcases List.mem_cons.mp hp with rfl | hmem
      · exact absurd rfl hpl
      · exact hmem
    obtain ⟨o, ho, hlast⟩ := hold p hmem value' hvalue'
    exact ⟨o, ho, fun t' ht' => by rw [lastHeld_cons_ne t (Ne.symm hpl), hlast t' ht']⟩

/-- The locks after the last acquisition of `l` has been undone. -/
def releaseLast (held : Held) (l : ULong) : Held := held.eraseP fun p => decide (p.1 = l)

lemma lastHeld_releaseLast {l l' : ULong} (h : l' ≠ l) :
    lastHeld (releaseLast held l) l' = lastHeld held l' := by
  induction held with
  | nil => rfl
  | cons p held ih =>
      by_cases hp : p.1 = l
      · have herase : releaseLast (p :: held) l = held := by simp [releaseLast, hp]
        rw [herase]
        exact (lastHeld_cons_ne p.2 (by rw [hp]; exact Ne.symm h)).symm
      · have herase : releaseLast (p :: held) l = p :: releaseLast held l := by
          simp [releaseLast, hp]
        rw [herase, lastHeld, lastHeld, List.find?_cons, List.find?_cons]
        split
        · rfl
        · exact ih

/-- The record of a lock that was just released. -/
lemma RecordsHeld.released {m m' : Tracked} {l : ULong} {value : HValue}
    (hold : ∀ p ∈ held, ∀ value, m.lookup p.1 = some value →
      ∃ o, value.lockState = heldState o ∧ ∀ t, o = some t → lastHeld held p.1 = some (p.1, t))
    (hm' : g'.Tracks m') (hlook : m'.lookup l = some value)
    (hvalue : value.lockState = heldState none)
    (hframe : ∀ l' ≠ l, m'.lookup l' = m.lookup l') : RecordsHeld g' (releaseLast held l) := by
  refine ⟨m', hm', fun p hp value' hvalue' => ?_⟩
  by_cases hpl : p.1 = l
  · rw [hpl, hlook] at hvalue'
    cases hvalue'
    exact ⟨none, hvalue, fun t ht => nomatch ht⟩
  · rw [hframe p.1 hpl] at hvalue'
    obtain ⟨o, ho, hlast⟩ := hold p (List.mem_of_mem_eraseP hp) value' hvalue'
    exact ⟨o, ho, fun t ht => by rw [lastHeld_releaseLast hpl, hlast t ht]⟩

lemma outsideStacks_objsInsert {mem : Alloc} {key : ULong} {value : HValue} :
    FaultsIn Fault.OutsideStacks (objsInsert g mem key value) := by
  rw [objsInsert]
  refine (faultsIn_tfassert (outsideStacks_assertion (by decide))).bind fun _ _ => ?_
  refine (faultsIn_ensure fun h => h).bind fun _ _ => ?_
  exact (faultsIn_tfassertDetail (outsideStacks_assertion (by decide))).bind
    fun _ _ => faultsIn_ok _

/-- `generic_allocator` and `generic_free` leave the stacks alone. -/
lemma TestShows.allocate (h : TestShows g v) (mem : Alloc) (object size : ULong)
    (origin : Origin) :
    Outcome TestShows Fault.OutsideStacks v (genericAllocator g mem 1 object size origin) := by
  rw [genericAllocator, if_neg (by decide), if_pos rfl]
  split_ifs with hskip
  · exact h
  · refine Outcome.of_faultsIn ?_ fun g' hok => ?_
    · refine FaultsIn.bind ?_ fun value _ => FaultsIn.bind ?_ fun key _ =>
        (faultsIn_tfassert (outsideStacks_assertion (by decide))).bind fun _ _ =>
        FaultsIn.bind ?_ fun g' _ => FaultsIn.bind ?_ fun _ _ => faultsIn_ok g'
      · exact (faultsIn_ensure fun h => h).bind fun _ _ => faultsIn_ok _
      · exact (faultsIn_ensure fun h => h).bind fun _ _ => faultsIn_ok _
      · exact outsideStacks_objsInsert
      · rw [assertAllocated]
        split
        · exact faultsIn_tfassert (outsideStacks_assertion (by decide))
        · exact faultsIn_tfassert (outsideStacks_assertion (by decide))
    · obtain ⟨value, hvalue, hok⟩ := bind_eq_ok.mp hok
      obtain ⟨_, hvalue⟩ := ensure_bind_eq_ok.mp hvalue
      cases hvalue
      obtain ⟨key, hkey, hok⟩ := bind_eq_ok.mp hok
      obtain ⟨_, hkey⟩ := ensure_bind_eq_ok.mp hkey
      cases hkey
      obtain ⟨_, hok⟩ := tfassert_bind_eq_ok.mp hok
      obtain ⟨g₁, hinsert, hok⟩ := bind_eq_ok.mp hok
      obtain ⟨_, _, hok⟩ := bind_eq_ok.mp hok
      cases hok
      obtain ⟨hnew, _, hentry, rfl⟩ := objsInsert_eq_ok.mp hinsert
      exact h.sameContext ⟨rfl, rfl⟩ (h.held.inserted hnew hentry)

lemma TestShows.free (h : TestShows g v) (object : ULong) (origin : Origin) :
    Outcome TestShows Fault.OutsideStacks v (genericFree g 0 object origin) := by
  rw [genericFree_eq]
  cases hsearch : objsSearch g object with
  | none => exact outsideStacks_assertion (by decide)
  | some value =>
      dsimp only
      split_ifs with horigin
      · exact h.sameContext ⟨rfl, rfl⟩ (h.held.removed object)
      · exact outsideStacks_assertion (by decide)

end

/-! ## Reports of the locks -/

/-- One call of `generic_lock_state`. -/
structure LockReport where
  mem : Alloc
  prepost : ℤ
  lock : ULong
  origin : Origin
  lockType : LockType
  addThis : ℤ

namespace LockReport

def exec (g : GlobalState) (c : LockReport) : Except Fault GlobalState :=
  genericLockState g c.mem c.prepost c.lock c.origin c.lockType c.addThis

/-- An acquisition is recorded after the kernel took the lock. -/
def Acquires (c : LockReport) : Prop := c.prepost = 1 ∧ c.addThis = 1

/-- A release is recorded before the kernel drops the lock. -/
def Releases (c : LockReport) : Prop := c.prepost = 0 ∧ c.addThis = -1

instance (c : LockReport) : Decidable c.Acquires :=
  inferInstanceAs (Decidable (c.prepost = 1 ∧ c.addThis = 1))

instance (c : LockReport) : Decidable c.Releases :=
  inferInstanceAs (Decidable (c.prepost = 0 ∧ c.addThis = -1))

end LockReport

section

variable {g g' : GlobalState} {v : StackView} {c : LockReport}

lemma outsideStacks_verifyLockState (value : HValue) :
    FaultsIn Fault.OutsideStacks (verifyLockState value) := by
  refine FaultsIn.bind (FaultsIn.foldlM (fun n i => ?_) _ _) fun found _ => ?_
  · exact (faultsIn_tfassertDetail (outsideStacks_assertion (by decide))).bind
      fun _ _ => faultsIn_ok _
  · exact faultsIn_tfassertDetail (outsideStacks_assertion (by decide))

lemma outsideStacks_genericLockAllocator {mem : Alloc} {prepost : ℤ} {lock : ULong}
    {origin : Origin} :
    FaultsIn Fault.OutsideStacks (genericLockAllocator g mem prepost lock origin) := by
  rw [genericLockAllocator]
  split_ifs
  · refine (faultsIn_tfassert (outsideStacks_assertion (by decide))).bind fun _ _ => ?_
    refine FaultsIn.bind ?_ fun key _ => FaultsIn.bind ?_ fun record _ =>
      outsideStacks_objsInsert.bind fun g' _ =>
        (faultsIn_tfassert (outsideStacks_assertion (by decide))).bind fun _ _ => faultsIn_ok g'
    · exact (faultsIn_ensure fun h => h).bind fun _ _ => faultsIn_ok _
    · rw [takeRecord]
      split
      · exact faultsIn_ok _
      · refine FaultsIn.bind ?_ fun _ _ => faultsIn_ok _
        exact (faultsIn_ensure fun h => h).bind fun _ _ => faultsIn_ok _
  · exact faultsIn_ok g
  · exact faultsIn_error.mpr (outsideStacks_assertion (by decide))

lemma genericLockAllocator_sameContext {mem : Alloc} {prepost : ℤ} {lock : ULong}
    {origin : Origin} {m : Tracked} (hm : g.Tracks m)
    (h : genericLockAllocator g mem prepost lock origin = .ok g') : SameContext g g' := by
  by_cases hpre : prepost = 0
  · rw [hpre] at h
    obtain ⟨_, _, hsame, _⟩ := genericLockAllocator_inv hm h
    exact hsame
  · rw [genericLockAllocator, if_neg hpre] at h
    split_ifs at h
    cases h
    exact .refl g

/-- Where there is room to push and an entry to pop, `lock_kernel_state` faults for reasons of its
own. -/
lemma outsideStacks_lockKernelState {origin : Origin} {t : LockType} {addThis : ℤ}
    (hpush : addThis > 0 → ∀ context, t.context = some context →
      FaultsIn Fault.OutsideStacks (pushBlockingState g context))
    (hpop : ¬ addThis > 0 → FaultsIn Fault.OutsideStacks (popBlockingState g)) :
    FaultsIn Fault.OutsideStacks (lockKernelState g origin t addThis) := by
  cases t with
  | undefined => exact faultsIn_error.mpr (outsideStacks_assertion (by decide))
  | genericLock => exact faultsIn_ok g
  | spinLock | spinLockBh | spinLockIrqsave | spinLockIrq | rwlock =>
      refine (faultsIn_tfassertDetail (outsideStacks_assertion (by decide))).bind fun _ _ => ?_
      split_ifs with hadd
      · exact hpush hadd _ rfl
      · exact hpop hadd
  | mutex | rwsem =>
      refine (faultsIn_tfassertDetail (outsideStacks_assertion (by decide))).bind fun _ _ => ?_
      split_ifs with hadd
      · exact (faultsIn_tfassertDetail (outsideStacks_assertion (by decide))).bind
          fun _ _ => hpush hadd _ rfl
      · exact hpop hadd

/-- The stacks are only touched where an acquisition or a release is recorded. -/
lemma outsideStacks_known {value : HValue} (hkernel : c.Acquires ∨ c.Releases → ∀ g₁ t,
      SameContext g g₁ → t = c.lockType ∨ t = .genericLock →
        FaultsIn Fault.OutsideStacks (lockKernelState g₁ c.origin t c.addThis)) :
    FaultsIn Fault.OutsideStacks
      (genericLockStateKnown g c.prepost c.lock value c.origin c.lockType c.addThis) := by
  rw [genericLockStateKnown]
  refine (faultsIn_tfassertDetail (outsideStacks_assertion (by decide))).bind fun _ _ => ?_
  split_ifs with hpre hrelease hacquire hpost hrelease hacquire
  · rw [unlockPre]
    refine (faultsIn_tfassertDetail (outsideStacks_assertion (by decide))).bind fun _ _ => ?_
    refine (faultsIn_tfassertDetail (outsideStacks_assertion (by decide))).bind fun _ _ => ?_
    refine (outsideStacks_verifyLockState _).bind fun _ _ => ?_
    refine hkernel (.inr ⟨hpre, hrelease⟩) _ _ ⟨rfl, rfl⟩ ?_
    split_ifs
    · exact .inr rfl
    · exact .inl rfl
  · exact faultsIn_ok g
  · exact faultsIn_error.mpr (outsideStacks_assertion (by decide))
  · exact faultsIn_ok g
  · rw [lockPost]
    refine (faultsIn_tfassertDetail (outsideStacks_assertion (by decide))).bind fun _ _ => ?_
    refine (outsideStacks_verifyLockState _).bind fun _ _ => ?_
    exact hkernel (.inl ⟨hpost, hacquire⟩) _ _ ⟨rfl, rfl⟩ (.inl rfl)
  · exact faultsIn_error.mpr (outsideStacks_assertion (by decide))
  · exact faultsIn_error.mpr (outsideStacks_assertion (by decide))

lemma outsideStacks_report {m : Tracked} (hm : g.Tracks m)
    (hkernel : c.Acquires ∨ c.Releases → ∀ g₁ t,
      SameContext g g₁ → t = c.lockType ∨ t = .genericLock →
        FaultsIn Fault.OutsideStacks (lockKernelState g₁ c.origin t c.addThis)) :
    FaultsIn Fault.OutsideStacks (c.exec g) := by
  rw [LockReport.exec, genericLockState]
  cases hsearch : objsSearch g c.lock with
  | some value =>
      rw [genericLockStateFuel_known g c.mem c.prepost c.lock c.origin c.lockType c.addThis hsearch
        1]
      exact (faultsIn_tfassertDetail (outsideStacks_assertion (by decide))).bind
        fun _ _ => outsideStacks_known hkernel
  | none =>
      rw [genericLockStateFuel_unknown g c.mem c.prepost c.lock c.origin c.lockType c.addThis
        hsearch 1]
      refine (faultsIn_tfassertDetail (outsideStacks_assertion (by decide))).bind fun _ _ => ?_
      refine outsideStacks_genericLockAllocator.bind fun g₁ hg₁ => ?_
      have hsame := genericLockAllocator_sameContext hm hg₁
      cases hsearch₁ : objsSearch g₁ c.lock with
      | some value =>
          rw [genericLockStateFuel_known g₁ c.mem c.prepost c.lock c.origin c.lockType c.addThis
            hsearch₁ 0]
          exact (faultsIn_tfassertDetail (outsideStacks_assertion (by decide))).bind
            fun _ _ => outsideStacks_known fun hc g₂ t hsame₂ ht =>
              hkernel hc g₂ t (hsame.trans hsame₂) ht
      | none =>
          rw [genericLockStateFuel_unknown g₁ c.mem c.prepost c.lock c.origin c.lockType c.addThis
            hsearch₁ 0]
          refine (faultsIn_tfassertDetail (outsideStacks_assertion (by decide))).bind fun _ _ => ?_
          refine outsideStacks_genericLockAllocator.bind fun g₂ _ => ?_
          exact faultsIn_error.mpr fun h => h

/-- A report on a postcondition of a lock the tracker does not know never returns. -/
lemma known_of_post (hpost : c.prepost = 1) (h : c.exec g = .ok g') :
    ∃ value, objsSearch g c.lock = some value := by
  rw [← Option.ne_none_iff_exists']
  intro hunknown
  by_cases hadd : c.addThis = -1 ∨ c.addThis = 1
  · rw [LockReport.exec, hpost, genericLockState,
      genericLockStateFuel_unknown_post g c.mem c.lock c.origin c.lockType c.addThis hunknown hadd]
      at h
    cases h
  · rw [LockReport.exec, genericLockState, genericLockStateFuel_unknown g c.mem c.prepost c.lock
      c.origin c.lockType c.addThis hunknown 1, tfassertDetail_of_false hadd] at h
    cases h

/-- The context a lock pushes, if it pushes one. -/
def pushedBy (t : LockType) (blocking : List BlockingContext) : List BlockingContext :=
  t.context.toList ++ blocking

/-- The context a lock pops, if it pops one. -/
def poppedBy (t : LockType) (blocking : List BlockingContext) : List BlockingContext :=
  if t.context.isSome then blocking.tail else blocking

/-- A recorded acquisition pushes the context of the lock. -/
lemma TestShows.acquire (h : TestShows g v) (hc : c.Acquires)
    (hroom : c.lockType.context.isSome = true → v.blocking.length < maxNesting) :
    Outcome TestShows Fault.OutsideStacks
      { v with blocking := pushedBy c.lockType v.blocking,
               held := (c.lock, c.lockType) :: v.held } (c.exec g) := by
  obtain ⟨m, hm, hold⟩ := h.held
  have hkernel : ∀ g₁ t, SameContext g g₁ → t = c.lockType ∨ t = .genericLock →
      FaultsIn Fault.OutsideStacks (lockKernelState g₁ c.origin t c.addThis) := by
    intro g₁ t hsame ht
    refine outsideStacks_lockKernelState (fun _ context hcontext => ?_) fun hneg => ?_
    · have hsome : c.lockType.context.isSome = true := by
        rcases ht with rfl | rfl
        · rw [hcontext]
          rfl
        · cases hcontext
      have hroom₁ : g₁.blockingContextCurrent + 1 < maxNesting := by
        rw [hsame.current, ← h.length_blocking]
        exact hroom hsome
      rw [(pushBlockingState_eq_ok (c := context)).mpr ⟨hroom₁, rfl⟩]
      exact faultsIn_ok _
    · rw [hc.2] at hneg
      exact absurd one_pos hneg
  refine Outcome.of_faultsIn (outsideStacks_report hm fun _ => hkernel) fun g' hok => ?_
  obtain ⟨value, hsearch⟩ := known_of_post hc.1 hok
  rw [LockReport.exec, hc.1, hc.2, genericLockState_known hsearch (.inr rfl), known_post_lock]
    at hok
  obtain ⟨_, hok⟩ := tfassertDetail_bind_eq_ok.mp hok
  have hfree := free_of_lockPost hok
  rw [lockPost_of_free hfree] at hok
  have hlook : m.lookup c.lock = some value := by rw [← objsSearch_eq hm, hsearch]
  have hacquired : RecordsHeld (objsModify g c.lock fun _ => value.addLockState c.lockType 1)
      ((c.lock, c.lockType) :: v.held) :=
    .acquired hold (tracks_modified hm hlook _) (Finmap.lookup_insert m) (acquire_heldState hfree)
      fun l hl => Finmap.lookup_insert_of_ne m hl
  rcases lockKernelState_acquire hok with ⟨ht, rfl⟩ | ⟨context, hcontext, _, hpush⟩
  · refine ⟨?_, hacquired⟩
    rw [ht]
    exact h.blocking
  · obtain ⟨_, rfl⟩ := pushBlockingState_eq_ok.mp hpush
    refine ⟨?_, hacquired⟩
    rw [pushedBy, hcontext]
    show contextStack (Function.update g.blockingContext _ context)
      (g.blockingContextCurrent + 1) = context :: v.blocking
    rw [← h.blocking]
    exact contextStack_push

/-- An unlock goes through on a lock that is held, by a trylock or under the slot it is unlocked
with. -/
lemma held_of_unlockPre {lock : ULong} {value : HValue} {origin : Origin} {t : LockType}
    {o : Option LockType} (hvalue : value.lockState = heldState o)
    (h : unlockPre g lock value origin t (-1) = .ok g') :
    t ≠ .genericLock ∧ (o = some .genericLock ∨ o = some t) := by
  rw [unlockPre] at h
  obtain ⟨ht, h⟩ := tfassertDetail_bind_eq_ok.mp h
  refine ⟨ht, ?_⟩
  dsimp only at h
  by_cases hgeneric : value.lockState .genericLock = 1
  · rw [hvalue, heldState_eq_one] at hgeneric
    exact .inl hgeneric
  · rw [if_neg hgeneric] at h
    obtain ⟨hslot, _⟩ := tfassertDetail_bind_eq_ok.mp h
    rw [addLockState_lockState, Function.update_self, hvalue] at hslot
    exact .inr (heldState_eq_one.mp (by omega))

/-- A recorded release pops one context, if the acquisition it undoes pushed one. -/
lemma TestShows.release (h : TestShows g v) (hc : c.Releases) {t : LockType}
    (hlast : lastHeld v.held c.lock = some (c.lock, t)) (hpos : 1 < v.blocking.length) :
    Outcome TestShows Fault.OutsideStacks
      { v with blocking := poppedBy t v.blocking, held := releaseLast v.held c.lock }
      (c.exec g) := by
  obtain ⟨m, hm, hold⟩ := h.held
  have hindex : 0 < g.blockingContextCurrent := by
    have hlength := h.length_blocking
    omega
  have hkernel : ∀ g₁ t, SameContext g g₁ → t = c.lockType ∨ t = .genericLock →
      FaultsIn Fault.OutsideStacks (lockKernelState g₁ c.origin t c.addThis) := by
    intro g₁ t hsame _
    refine outsideStacks_lockKernelState (fun hadd => ?_) fun _ => ?_
    · rw [hc.2] at hadd
      exact absurd hadd (by decide)
    · rw [popBlockingState_eq_ok.mpr ⟨by rw [hsame.current]; exact hindex, rfl⟩]
      exact faultsIn_ok _
  refine Outcome.of_faultsIn (outsideStacks_report hm fun _ => hkernel) fun g' hok => ?_
  rw [LockReport.exec, hc.1, hc.2] at hok
  obtain ⟨g₁, m₁, value, hm₁, hsame, hlook₁, hframe, hvalue, hknown⟩ :=
    genericLockState_pre hm (.inl rfl) hok
  rw [known_pre_unlock] at hknown
  obtain ⟨_, hknown⟩ := tfassertDetail_bind_eq_ok.mp hknown
  have hmem : (c.lock, t) ∈ v.held := List.mem_of_find?_eq_some hlast
  -- The record is the one of the last acquisition; a new one would say that the lock is free.
  obtain ⟨o, ho, hrecord⟩ : ∃ o, value.lockState = heldState o ∧ ∀ t', o = some t' → t' = t := by
    rcases hvalue with hlook | ⟨_, rfl⟩
    · obtain ⟨o, ho, hall⟩ := hold _ hmem value hlook
      refine ⟨o, ho, fun t' ht' => ?_⟩
      have heq := (hall t' ht').symm.trans hlast
      exact congrArg Prod.snd (Option.some.inj heq)
    · exact ⟨none, funext fun t' => (heldState_none t').symm, fun t' ht' => nomatch ht'⟩
  obtain ⟨hne, hheld⟩ := held_of_unlockPre ho hknown
  have hframe' : ∀ (value' : HValue) (l : ULong), l ≠ c.lock →
      (m₁.insert c.lock value').lookup l = m.lookup l := by
    intro value' l hl
    rw [Finmap.lookup_insert_of_ne m₁ hl, hframe l hl]
  have hblocking : contextStack g₁.blockingContext g₁.blockingContextCurrent = v.blocking := by
    rw [hsame.context, hsame.current]
    exact h.blocking
  rcases hheld with hgeneric | hslot
  · obtain rfl : LockType.genericLock = t := hrecord _ hgeneric
    rw [hgeneric] at ho
    rw [unlockPre_of_generic ho hne] at hknown
    cases hknown
    exact ⟨hblocking, .released hold (tracks_modified hm₁ hlook₁ _) (Finmap.lookup_insert m₁)
      (unlockGeneric_heldState ho) (hframe' _)⟩
  · obtain rfl : c.lockType = t := hrecord _ hslot
    rw [hslot] at ho
    rw [unlockPre_of_held ho hne] at hknown
    have hreleased : RecordsHeld (objsModify g₁ c.lock fun _ => value.addLockState c.lockType (-1))
        (releaseLast v.held c.lock) :=
      .released hold (tracks_modified hm₁ hlook₁ _) (Finmap.lookup_insert m₁)
        (release_heldState ho) (hframe' _)
    rcases lockKernelState_release hknown with ⟨ht, _⟩ | ⟨hcontext, hpop⟩
    · exact absurd ht hne
    · obtain ⟨_, rfl⟩ := popBlockingState_eq_ok.mp hpop
      refine ⟨?_, hreleased⟩
      rw [poppedBy, if_pos hcontext]
      obtain ⟨b, bs, hbs⟩ : ∃ b bs, v.blocking = b :: bs :=
        List.exists_cons_of_length_pos (by omega)
      have hne_nil : bs ≠ [] := by
        rintro rfl
        rw [hbs] at hpos
        simp at hpos
      rw [hbs, List.tail_cons]
      exact (contextStack_cons (hblocking.trans hbs) hne_nil).2

/-- A report that goes through is one of a precondition or of a postcondition, in one of the two
directions; on a postcondition the tracker knows the lock. -/
lemma report_cases (h : c.exec g = .ok g') :
    (c.prepost = 0 ∧ (c.addThis = -1 ∨ c.addThis = 1)) ∨
      (c.prepost = 1 ∧ (c.addThis = -1 ∨ c.addThis = 1) ∧
        ∃ value, objsSearch g c.lock = some value) := by
  have hadd : c.addThis = -1 ∨ c.addThis = 1 := by
    rw [LockReport.exec, genericLockState, genericLockStateFuel] at h
    exact (tfassertDetail_bind_eq_ok.mp h).1
  by_cases hpre : c.prepost = 0
  · exact .inl ⟨hpre, hadd⟩
  by_cases hpost : c.prepost = 1
  · exact .inr ⟨hpost, hadd, known_of_post hpost h⟩
  rw [LockReport.exec] at h
  cases hsearch : objsSearch g c.lock with
  | some value =>
      rw [genericLockState_known hsearch hadd, genericLockStateKnown, if_neg hpre, if_neg hpost]
        at h
      obtain ⟨_, h⟩ := tfassertDetail_bind_eq_ok.mp h
      cases h
  | none =>
      rw [genericLockState, genericLockStateFuel_unknown g c.mem c.prepost c.lock c.origin
        c.lockType c.addThis hsearch 1, tfassertDetail_of_true hadd, ok_bind, genericLockAllocator,
        if_neg hpre, if_neg hpost] at h
      cases h

/-- Any other report leaves the stacks alone. -/
lemma TestShows.report (h : TestShows g v) (hacquire : ¬ c.Acquires) (hrelease : ¬ c.Releases) :
    Outcome TestShows Fault.OutsideStacks v (c.exec g) := by
  obtain ⟨m, hm, hold⟩ := h.held
  refine Outcome.of_faultsIn (outsideStacks_report hm fun hc => ?_) fun g' hok => ?_
  · exact absurd hc (not_or.mpr ⟨hacquire, hrelease⟩)
  obtain hpre | ⟨hpost, hadd, value, hsearch⟩ := report_cases hok
  · have hadd : c.addThis = 1 := hpre.2.resolve_left fun hneg => hrelease ⟨hpre.1, hneg⟩
    rw [LockReport.exec, hpre.1, hadd] at hok
    obtain ⟨g₁, m₁, value, hm₁, hsame, hlook₁, hframe, hvalue, hknown⟩ :=
      genericLockState_pre hm (.inr rfl) hok
    rw [known_pre_lock] at hknown
    obtain ⟨_, hknown⟩ := tfassertDetail_bind_eq_ok.mp hknown
    cases hknown
    refine h.sameContext hsame (.of_lookup hold hm₁ fun l value' hvalue' => ?_)
    by_cases hl : l = c.lock
    · rw [hl, hlook₁] at hvalue'
      cases hvalue'
      rcases hvalue with hlook | ⟨_, rfl⟩
      · exact .inl (by rw [hl, hlook])
      · exact .inr (funext fun t => (heldState_none t).symm)
    · rw [hframe l hl] at hvalue'
      exact .inl hvalue'
  · have hadd : c.addThis = -1 := hadd.resolve_right fun hpos => hacquire ⟨hpost, hpos⟩
    rw [LockReport.exec, hpost, hadd, genericLockState_known hsearch (.inl rfl), known_post_unlock]
      at hok
    obtain ⟨_, hok⟩ := tfassertDetail_bind_eq_ok.mp hok
    cases hok
    exact h

end

end SymDrive
import SymDrive.Gtf.AllocFailure
import SymDrive.Gtf.LockCalls

/-!
# Recorded sizes

The size of a live object is what `assert_allocated_weak` compares a copy with.  An allocator's
check should record the number of bytes the kernel allocated, or -1 where it does not know.

`recorded_sizes_cover` says which checks do.  Where they do, the sizes in the table cover the
allocations in every state of a run, whatever else happens to the table: frees, locks, transmitted
buffers, and the reset of the marks for new objects.  Then no copy from user space into an object it
fits in is refused.
-/

namespace SymDrive

open Checked

/-! ## Copies from user space -/

def assertAllocatedWeak (g : GlobalState) (object minsize : ULong) : Except Fault Unit :=
  match objsSearch g object with
  | none => .ok ()
  | some onHeap => tfassert .assertAllocatedWeak (¬ onHeap.size < minsize)

/-- The check of the destination does not look at `prepost`. -/
def copyFromUserMJRcheck (s : CheckState) (_prepost : ℤ) (dest n : ULong) :
    Except Fault CheckState :=
  checkRoutine s fun r => do
    assertAllocatedWeak r.test dest n
    .ok r

/-! ## Allocations -/

/-- What `generic_allocator` calls a bogus object. -/
def IsBogus (object : ULong) : Prop := isErr object = true ∨ object = 0

instance (object : ULong) : Decidable (IsBogus object) := by unfold IsBogus; infer_instance

/-- A call of an allocator and the number of bytes the kernel allocated: those requested, where the
arguments say it, and none if the call failed. -/
structure Allocation where
  call : AllocCall
  bytes : ℕ
  requested : ¬ call.Failed → ∀ n ∈ call.bytes, bytes = n
  failed : call.Failed → bytes = 0

/-- A size that covers an allocation: its bytes, or unknown. -/
def Covers (size : ULong) (bytes : ℕ) : Prop := size = 0 - 1 ∨ size.toNat = bytes

namespace Allocation

/-- Whatever the check after the call hands over to be recorded has a size that covers the
allocation. -/
def RecordsCovering (head : ULong → ULong) (a : Allocation) : Prop :=
  ∀ p, a.call.report head = .ok (some p) → ¬ IsBogus p.object → Covers p.size a.bytes

/-- **The condition for the size to be right**, where something is recorded: pages are never counted
in bytes, for `__alloc_skb` the address of the size would have to be its value, and for
`__request_region` the region must have been obtained. -/
def SizeGiven (head : ULong → ULong) (a : Allocation) : Prop :=
  match a.call with
  | .getFreePages retval _ => IsBogus retval
  | .allocSkb retval size sizePtr =>
      IsBogus retval ∨ IsBogus (head retval) ∨ sizePtr = 0 - 1 ∨ sizePtr = size
  | .requestRegion retval start n => ¬ IsBogus retval ∨ IsBogus start ∨ n = 0 - 1 ∨ n = 0
  | _ => True

end Allocation

/-! ## Runs -/

/-- The checks before and after a call. -/
inductive Phase where
  | pre
  | post
  deriving DecidableEq

def Phase.prepost : Phase → ℤ
  | pre => 0
  | post => 1

/-- What can happen to the tracker, with the framework's allocations `mem` and the memory `head` of
its moment.  Of a buffer that the kernel hands over to be transmitted, `bytes` are allocated.  What
the framework does `elsewhere` leaves the table alone. -/
inductive TrackerEvent where
  | alloc (phase : Phase) (mem : Alloc) (head : ULong → ULong) (a : Allocation)
  | free (phase : Phase) (head : ULong → ULong) (c : FreeCall)
  | startXmit (phase : Phase) (mem : Alloc) (retval : ℤ) (skb : SkBuff) (bytes : ℕ)
  | lockState (mem : Alloc) (prepost : ℤ) (lock : ULong) (origin : Origin) (lockType : LockType)
      (addThis : ℤ)
  | lockAllocator (mem : Alloc) (prepost : ℤ) (lock : ULong) (origin : Origin)
  | resetNewObjects
  | elsewhere (body : Records → Except Fault Records)
      (table : ∀ r r', body r = .ok r' → r'.test.objs = r.test.objs)

namespace TrackerEvent

def exec (s : CheckState) : TrackerEvent → Except Fault CheckState
  | alloc phase mem head a => a.call.check mem head s phase.prepost
  | free phase head c => c.check head s phase.prepost
  | startXmit phase mem retval skb _ =>
      netDeviceOpsNdoStartXmitMJRcheck s mem phase.prepost retval skb
  | lockState mem prepost lock origin lockType addThis =>
      checkRoutine s fun r =>
        r.onTest fun g => genericLockState g mem prepost lock origin lockType addThis
  | lockAllocator mem prepost lock origin =>
      checkRoutine s fun r => r.onTest fun g => genericLockAllocator g mem prepost lock origin
  | resetNewObjects =>
      checkRoutine s fun r => .ok { r with test := SymDrive.resetNewObjects r.test }
  | elsewhere body _ => checkRoutine s body

/-- The number of bytes last allocated at each address. -/
def allocated (bytes : ULong → ℕ) : TrackerEvent → ULong → ℕ
  | alloc .post _ head a =>
      match a.call.report head with
      | .ok (some p) => if IsBogus p.object then bytes else Function.update bytes p.object a.bytes
      | _ => bytes
  | startXmit .pre _ _ skb n =>
      if IsBogus skb.head then bytes else Function.update bytes skb.head n
  | _ => bytes

/-- An allocation whose size is right. -/
def SizeGiven : TrackerEvent → Prop
  | alloc .post _ head a => a.SizeGiven head
  | _ => True

end TrackerEvent

/-- Every size in the table covers the allocation at its address. -/
def Covered (g : GlobalState) (bytes : ULong → ℕ) : Prop :=
  ∃ m : Tracked, g.Tracks m ∧ ∀ a value, m.lookup a = some value → Covers value.size (bytes a)

/-- A copy into an object it fits in passes. -/
def CopiesPass (s : CheckState) (bytes : ULong → ℕ) : Prop :=
  ∀ (phase : Phase) (dest n : ULong), n.toNat ≤ bytes dest →
    copyFromUserMJRcheck s phase.prepost dest n = .ok s

/-! ## Single allocations -/

/-- A number of pages is never the number of their bytes, and it is never -1. -/
lemma not_covers_pages (order : ULong) :
    ¬ Covers (1 <<< order) (pageSize * 2 ^ order.toNat) := by
  have hsmall : ∀ k < 32, (1 <<< k : ℕ) % 2 ^ 32 = 2 ^ k ∧ 2 ^ k ≠ 2 ^ 32 - 1 := by decide
  have hlt : order.toNat % 32 < 32 := Nat.mod_lt _ (by decide)
  obtain ⟨hshift, hne⟩ := hsmall _ hlt
  have hnat : (1 <<< order : ULong).toNat = 2 ^ (order.toNat % 32) := by
    rw [UInt32.toNat_shiftLeft]
    exact hshift
  rintro (hunknown | hbytes)
  · have hnat' := congrArg UInt32.toNat hunknown
    rw [hnat] at hnat'
    exact hne hnat'
  · have hpow := Nat.pow_le_pow_right (Nat.two_pos) (Nat.mod_le order.toNat 32)
    rw [hnat, pageSize] at hbytes
    have hpos : 0 < 2 ^ order.toNat := Nat.two_pow_pos _
    omega

namespace Allocation

section

variable {head : ULong → ULong} {a : Allocation}

lemma recordsCovering_of_report {p : Report} (h : a.call.report head = .ok (some p)) :
    a.RecordsCovering head ↔ IsBogus p.object ∨ Covers p.size a.bytes := by
  rw [or_iff_not_imp_left]
  constructor
  · exact fun hall => hall p h
  · intro hcovers p' hp'
    rw [h] at hp'
    cases hp'
    exact hcovers

/-- An unknown size covers everything. -/
lemma recordsCovering_of_unknown
    (h : ∀ p, a.call.report head = .ok (some p) → p.size = 0 - 1) : a.RecordsCovering head :=
  fun p hp _ => Or.inl (h p hp)

/-- The size handed over is the one requested, for a call that returns the object. -/
lemma recordsCovering_of_requested {p : Report} (h : a.call.report head = .ok (some p))
    (hfailed : a.call.Failed → IsBogus p.object) (hbytes : a.call.bytes = some p.size.toNat) :
    a.RecordsCovering head := by
  rw [recordsCovering_of_report h, or_iff_not_imp_left]
  exact fun hok => Or.inr (a.requested (mt hfailed hok) _ hbytes).symm

lemma size_of_skbHead {check : Check} {skb : ULong} {p : Report}
    (h : ((skbHead check head skb).map fun object =>
      some (Report.mk object (0 - 1) originDevAllocSkb)) = .ok (some p)) : p.size = 0 - 1 := by
  obtain ⟨object, _, hp⟩ := map_eq_ok.mp h
  cases hp
  rfl

end

lemma recordsCovering_iff (head : ULong → ULong) (a : Allocation) :
    a.RecordsCovering head ↔ a.SizeGiven head := by
  obtain ⟨call, bytes, requested, failed⟩ := a
  cases call with
  | getFreePages retval order =>
      refine (recordsCovering_of_report rfl).trans (or_iff_left_of_imp fun hcovers => ?_)
      by_contra hok
      change Covers (1 <<< order) bytes at hcovers
      rw [requested hok _ rfl] at hcovers
      exact not_covers_pages order hcovers
  | dmaAllocCoherent | kmalloc | vmalloc | ioremapNocache | pciMapSingle | pciMapPage =>
      exact iff_true_intro (recordsCovering_of_requested rfl id rfl)
  | skbDmaMap =>
      refine iff_true_intro (recordsCovering_of_unknown fun p hp => ?_)
      cases hp
  | allocEtherdevMqs | allocNetdevMqs | kstrdup | usbAllocUrb | pciIoremapBar | deviceRegister =>
      refine iff_true_intro (recordsCovering_of_unknown fun p hp => ?_)
      cases hp
      rfl
  | devAllocSkb retval =>
      exact iff_true_intro (recordsCovering_of_unknown fun p hp => size_of_skbHead hp)
  | netdevAllocSkb retval =>
      refine iff_true_intro (recordsCovering_of_unknown fun p hp => ?_)
      rw [AllocCall.report] at hp
      split_ifs at hp
      · exact size_of_skbHead hp
      · cases hp
  | deviceCreateFile retval attr =>
      refine iff_true_intro (recordsCovering_of_unknown fun p hp => ?_)
      rw [AllocCall.report] at hp
      split_ifs at hp
      · cases hp
        rfl
      · cases hp
  | classCreate retval =>
      refine iff_true_intro (recordsCovering_of_unknown fun p hp => ?_)
      rw [AllocCall.report] at hp
      split_ifs at hp
      · cases hp
        rfl
      · cases hp
  | allocSkb retval size sizePtr =>
      by_cases hbogus : IsBogus retval
      · refine iff_of_true (fun p hp _ => ?_) (Or.inl hbogus)
        rw [AllocCall.report, skbHead_of_failed hbogus] at hp
        cases hp
      · have hreport : (AllocCall.allocSkb retval size sizePtr).report head =
            .ok (some ⟨head retval, sizePtr, originDevAllocSkb⟩) := by
          have hvalid : retval ≠ 0 ∧ isErr retval = false := by
            rw [IsBogus, not_or, Bool.not_eq_true] at hbogus
            exact ⟨hbogus.2, hbogus.1⟩
          rw [AllocCall.report, skbHead, ensure_of_true hvalid]
          rfl
        refine (recordsCovering_of_report hreport).trans ?_
        show IsBogus (head retval) ∨ Covers sizePtr bytes ↔
          IsBogus retval ∨ IsBogus (head retval) ∨ sizePtr = 0 - 1 ∨ sizePtr = size
        rw [or_iff_right hbogus, Covers, requested hbogus _ rfl, UInt32.toNat_inj]
  | requestRegion retval start n =>
      refine (recordsCovering_of_report rfl).trans ?_
      show IsBogus start ∨ Covers n bytes ↔
        ¬ IsBogus retval ∨ IsBogus start ∨ n = 0 - 1 ∨ n = 0
      by_cases hbogus : IsBogus retval
      · rw [or_iff_right (not_not.mpr hbogus), Covers, failed hbogus]
        have hzero : n.toNat = 0 ↔ n = 0 := UInt32.toNat_inj (b := 0)
        exact or_congr_right (or_congr_right hzero)
      · exact iff_of_true (Or.inr (Or.inr (requested hbogus _ rfl).symm)) (Or.inl hbogus)

end Allocation

/-! ## What happens to the sizes -/

section

variable {g g' : GlobalState} {bytes : ULong → ℕ}

lemma covered_initial (bytes : ULong → ℕ) : Covered initializeDriverState bytes := by
  refine ⟨∅, tracks_initialized, fun a value hvalue => ?_⟩
  rw [Finmap.lookup_empty] at hvalue
  cases hvalue

/-- Contexts are not kept in the table. -/
lemma Covered.of_objs (h : Covered g bytes) (hobjs : g'.objs = g.objs) : Covered g' bytes := by
  obtain ⟨m, hm, hsizes⟩ := h
  refine ⟨m, ?_, hsizes⟩
  rw [GlobalState.Tracks, hobjs]
  exact hm

/-- A record with the right size. -/
lemma Covered.insert {m : Tracked} (hm : g'.Tracks m) {key : ULong} {value : HValue} {n : ℕ}
    (hvalue : m.lookup key = some value) (hcovers : Covers value.size n)
    (hrest : ∀ a ≠ key, ∀ v, m.lookup a = some v → Covers v.size (bytes a)) :
    Covered g' (Function.update bytes key n) := by
  refine ⟨m, hm, fun a v hv => ?_⟩
  by_cases ha : a = key
  · rw [ha] at hv
    obtain rfl := Option.some.inj (hvalue.symm.trans hv)
    rwa [ha, Function.update_self]
  · rw [Function.update_of_ne ha]
    exact hrest a ha v hv

/-- Recording an object whose size covers its allocation. -/
lemma Covered.genericAllocator (h : Covered g bytes) {mem : Alloc} {object size : ULong}
    {origin : Origin} (hrun : genericAllocator g mem 1 object size origin = .ok g') {n : ℕ}
    (hcovers : ¬ IsBogus object → Covers size n) :
    Covered g' (if IsBogus object then bytes else Function.update bytes object n) := by
  obtain ⟨m, hm, hsizes⟩ := h
  by_cases hbogus : IsBogus object
  · rw [genericAllocator_of_bogus g mem hbogus] at hrun
    cases hrun
    rw [if_pos hbogus]
    exact ⟨m, hm, hsizes⟩
  · obtain ⟨hsearch, _, _, hmem, rfl⟩ := (genericAllocator_eq_ok hbogus).mp hrun
    rw [objsSearch_eq hm, Finmap.lookup_eq_none] at hsearch
    rw [if_neg hbogus]
    refine Covered.insert (tracks_inserted hm hsearch (HValue.fresh origin size 1) hmem.2.2)
      (Finmap.lookup_insert m) (hcovers hbogus) fun a ha v hv => ?_
    rw [Finmap.lookup_insert_of_ne m ha] at hv
    exact hsizes a v hv

lemma Covered.genericFree (h : Covered g bytes) {object : ULong} {origin : Origin}
    (hrun : genericFree g 0 object origin = .ok g') : Covered g' bytes := by
  obtain ⟨m, hm, hsizes⟩ := h
  refine ⟨m.erase object, (genericFree_ok hm hrun).2, fun a v hv => ?_⟩
  by_cases ha : a = object
  · rw [ha, Finmap.lookup_erase] at hv
    cases hv
  · rw [Finmap.lookup_erase_ne ha] at hv
    exact hsizes a v hv

/-- A record put in the place of one with the same size. -/
lemma Covered.replace {m : Tracked} (hsizes : ∀ a v, m.lookup a = some v → Covers v.size (bytes a))
    {key : ULong} {value : HValue} (hcovers : Covers value.size (bytes key))
    (hm : g'.Tracks (m.insert key value)) : Covered g' bytes := by
  have hins := Covered.insert hm (Finmap.lookup_insert m) hcovers fun a ha v hv => by
    rw [Finmap.lookup_insert_of_ne m ha] at hv
    exact hsizes a v hv
  rwa [Function.update_eq_self] at hins

/-- A lock keeps the size of its record, or gets a record without a size. -/
lemma Covered.genericLockAllocator (h : Covered g bytes) {mem : Alloc} {prepost : ℤ}
    {lock : ULong} {origin : Origin}
    (hrun : genericLockAllocator g mem prepost lock origin = .ok g') : Covered g' bytes := by
  by_cases hpre : prepost = 0
  · rw [hpre] at hrun
    obtain ⟨m, hm, hsizes⟩ := h
    obtain ⟨value, hm', _, hvalue | ⟨_, rfl⟩⟩ := genericLockAllocator_inv hm hrun
    · exact Covered.replace hsizes (hsizes lock value hvalue) hm'
    · exact Covered.replace hsizes (Or.inl rfl) hm'
  · rw [SymDrive.genericLockAllocator, if_neg hpre] at hrun
    split_ifs at hrun
    cases hrun
    exact h

/-- The states of a lock are not its size. -/
lemma Covered.lockRecord (h : Covered g bytes) {lock : ULong} {value value' : HValue}
    (hvalue : objsSearch g lock = some value) (hsize : value'.size = value.size) :
    Covered (objsModify g lock fun _ => value') bytes := by
  obtain ⟨m, hm, hsizes⟩ := h
  rw [objsSearch_eq hm] at hvalue
  refine Covered.replace hsizes ?_ (tracks_modified hm hvalue fun _ => value')
  rw [hsize]
  exact hsizes lock value hvalue

lemma Covered.unlockPre (h : Covered g bytes) {lock : ULong} {value : HValue} {origin : Origin}
    {t : LockType} (hvalue : objsSearch g lock = some value)
    (hrun : unlockPre g lock value origin t (-1) = .ok g') : Covered g' bytes := by
  unfold SymDrive.unlockPre at hrun
  obtain ⟨_, hrun⟩ := tfassertDetail_bind_eq_ok.mp hrun
  dsimp only at hrun
  obtain ⟨_, hrun⟩ := tfassertDetail_bind_eq_ok.mp hrun
  obtain ⟨_, _, hrun⟩ := bind_eq_ok.mp hrun
  refine Covered.of_objs (h.lockRecord hvalue ?_) (lockKernelState_objs (Or.inl rfl) hrun)
  split_ifs <;> rfl

lemma Covered.lockPost (h : Covered g bytes) {lock : ULong} {value : HValue} {origin : Origin}
    {t : LockType} (hvalue : objsSearch g lock = some value)
    (hrun : lockPost g lock value origin t 1 = .ok g') : Covered g' bytes := by
  unfold SymDrive.lockPost at hrun
  dsimp only at hrun
  obtain ⟨_, hrun⟩ := tfassertDetail_bind_eq_ok.mp hrun
  obtain ⟨_, _, hrun⟩ := bind_eq_ok.mp hrun
  have hsize : (value.addLockState t 1).size = value.size := rfl
  exact Covered.of_objs (h.lockRecord hvalue hsize) (lockKernelState_objs (Or.inr rfl) hrun)

lemma Covered.genericLockStateKnown (h : Covered g bytes) {prepost : ℤ} {lock : ULong}
    {value : HValue} {origin : Origin} {t : LockType} {addThis : ℤ}
    (hvalue : objsSearch g lock = some value)
    (hrun : genericLockStateKnown g prepost lock value origin t addThis = .ok g') :
    Covered g' bytes := by
  unfold SymDrive.genericLockStateKnown at hrun
  obtain ⟨_, hrun⟩ := tfassertDetail_bind_eq_ok.mp hrun
  split_ifs at hrun with hpre hunlock hlock hpost hunlock hlock
  · rw [hunlock] at hrun
    exact h.unlockPre hvalue hrun
  · cases hrun
    exact h
  · cases hrun
    exact h
  · rw [hlock] at hrun
    exact h.lockPost hvalue hrun

/-- The induction is on the room for recursive calls. -/
lemma Covered.genericLockStateFuel {mem : Alloc} {prepost : ℤ} {lock : ULong} {origin : Origin}
    {t : LockType} {addThis : ℤ} :
    ∀ (fuel : ℕ) {g : GlobalState}, Covered g bytes →
      genericLockStateFuel fuel g mem prepost lock origin t addThis = .ok g' →
      Covered g' bytes := by
  intro fuel
  induction fuel with
  | zero =>
      intro g _ hrun
      cases hrun
  | succ fuel ih =>
      intro g h hrun
      rw [SymDrive.genericLockStateFuel] at hrun
      obtain ⟨_, hrun⟩ := tfassertDetail_bind_eq_ok.mp hrun
      cases hsearch : objsSearch g lock with
      | some value =>
          rw [hsearch] at hrun
          exact h.genericLockStateKnown hsearch hrun
      | none =>
          rw [hsearch] at hrun
          obtain ⟨g₁, halloc, hrun⟩ := bind_eq_ok.mp hrun
          exact ih (h.genericLockAllocator halloc) hrun

lemma Covered.resetNewObjects (h : Covered g bytes) : Covered (resetNewObjects g) bytes := by
  obtain ⟨m, hm, hsizes⟩ := h
  rw [SymDrive.resetNewObjects]
  split_ifs with hdirty
  · refine ⟨Hashtable.mapValues m hashResetObjsState, Hashtable.refines_enumerate hm _, ?_⟩
    intro a v hv
    rw [Hashtable.lookup_mapValues] at hv
    obtain ⟨v', hv', rfl⟩ := Option.map_eq_some_iff.mp hv
    exact hsizes a v' hv'
  · exact ⟨m, hm, hsizes⟩

end

/-! ## What an event does -/

lemma pushKernelState_objs {r r' : Records} {b : BlockingContext} {u : UserContext}
    (h : pushKernelState r b u = .ok r') : r'.test.objs = r.test.objs := by
  obtain ⟨r₁, hblocking, huser⟩ := bind_eq_ok.mp h
  obtain ⟨g, hpush, rfl⟩ := map_eq_ok.mp hblocking
  obtain ⟨_, rfl⟩ := pushBlockingState_eq_ok.mp hpush
  unfold pushUserState at huser
  dsimp only at huser
  split_ifs at huser
  cases huser
  rfl

lemma popKernelState_objs {r r' : Records} (h : popKernelState r = .ok r') :
    r'.test.objs = r.test.objs := by
  obtain ⟨r₁, hblocking, huser⟩ := bind_eq_ok.mp h
  obtain ⟨g, hpop, rfl⟩ := map_eq_ok.mp hblocking
  obtain ⟨_, rfl⟩ := popBlockingState_eq_ok.mp hpop
  obtain ⟨_, huser⟩ := tfassertDetail_bind_eq_ok.mp huser
  cases huser
  rfl

section

variable {r : Records} {s : CheckState} {bytes : ULong → ℕ}

/-- A routine on a free lock whose body keeps the sizes covered. -/
lemma covered_of_body {body : Records → Except Fault Records}
    (hbody : ∀ r', body r = .ok r' → Covered r'.test bytes)
    (hrun : checkRoutine (.free r) body = .ok s) : ∃ r', s = .free r' ∧ Covered r'.test bytes := by
  rw [checkRoutine_free] at hrun
  obtain ⟨r', hr', rfl⟩ := map_eq_ok.mp hrun
  exact ⟨r', rfl, hbody r' hr'⟩

lemma covered_alloc (h : Covered r.test bytes) {mem : Alloc} {head : ULong → ULong}
    {a : Allocation} (hsize : a.SizeGiven head)
    (hrun : a.call.check mem head (.free r) 1 = .ok s) :
    ∃ r', s = .free r' ∧
      Covered r'.test ((TrackerEvent.alloc .post mem head a).allocated bytes) := by
  rw [AllocCall.check_post] at hrun
  obtain ⟨r', hbody, rfl⟩ := map_eq_ok.mp hrun
  refine ⟨r', rfl, ?_⟩
  obtain ⟨report, hreport, hrecord⟩ := bind_eq_ok.mp hbody
  rw [TrackerEvent.allocated, hreport]
  cases report with
  | none =>
      cases hrecord
      exact h
  | some p =>
      obtain ⟨g, halloc, rfl⟩ := record_eq_ok.mp hrecord
      exact h.genericAllocator halloc ((a.recordsCovering_iff head).mpr hsize p hreport)

lemma covered_free (h : Covered r.test bytes) {head : ULong → ULong} {c : FreeCall}
    (hrun : c.check head (.free r) 0 = .ok s) : ∃ r', s = .free r' ∧ Covered r'.test bytes := by
  rw [FreeCall.check_pre] at hrun
  obtain ⟨r', hbody, rfl⟩ := map_eq_ok.mp hrun
  refine ⟨r', rfl, ?_⟩
  obtain ⟨report, _, hdrop⟩ := bind_eq_ok.mp hbody
  cases report with
  | none =>
      cases hdrop
      exact h
  | some p =>
      obtain ⟨g, hfree, rfl⟩ := drop_eq_ok.mp hdrop
      exact h.genericFree hfree

lemma covered_startXmit (h : Covered r.test bytes) {phase : Phase} {mem : Alloc} {retval : ℤ}
    {skb : SkBuff} {n : ℕ}
    (hrun : netDeviceOpsNdoStartXmitMJRcheck (.free r) mem phase.prepost retval skb = .ok s) :
    ∃ r', s = .free r' ∧
      Covered r'.test ((TrackerEvent.startXmit phase mem retval skb n).allocated bytes) := by
  refine covered_of_body (fun r' hbody => ?_) hrun
  cases phase with
  | pre =>
      rw [Phase.prepost, if_pos rfl] at hbody
      obtain ⟨_, hbody⟩ := tfassert_bind_eq_ok.mp hbody
      obtain ⟨_, hbody⟩ := tfassert_bind_eq_ok.mp hbody
      obtain ⟨r₁, hpush, hbody⟩ := bind_eq_ok.mp hbody
      obtain ⟨g, halloc, rfl⟩ := map_eq_ok.mp hbody
      exact (h.of_objs (pushKernelState_objs hpush)).genericAllocator halloc
        fun _ => Or.inl rfl
  | post =>
      rw [Phase.prepost, if_neg (by decide), if_pos rfl] at hbody
      dsimp only at hbody
      split_ifs at hbody
      · obtain ⟨r₁, hdrop, hpop⟩ := bind_eq_ok.mp hbody
        obtain ⟨g, hfree, rfl⟩ := map_eq_ok.mp hdrop
        exact (h.genericFree hfree).of_objs (popKernelState_objs hpop)
      · exact h.of_objs (popKernelState_objs hbody)

/-- **One event** with a right size keeps the sizes covered. -/
lemma covered_event {e : TrackerEvent} (h : Covered r.test bytes) (hsize : e.SizeGiven)
    (hrun : e.exec (.free r) = .ok s) :
    ∃ r', s = .free r' ∧ Covered r'.test (e.allocated bytes) := by
  cases e with
  | alloc phase mem head a =>
      cases phase with
      | pre =>
          rw [TrackerEvent.exec, Phase.prepost, AllocCall.check_pre] at hrun
          obtain ⟨r', hpre, rfl⟩ := map_eq_ok.mp hrun
          obtain ⟨_, rfl⟩ := AllocCall.pre_eq_ok.mp hpre
          exact ⟨_, rfl, h⟩
      | post => exact covered_alloc h hsize hrun
  | free phase head c =>
      cases phase with
      | pre => exact covered_free h hrun
      | post =>
          rw [TrackerEvent.exec, Phase.prepost, FreeCall.check_post] at hrun
          cases hrun
          exact ⟨r, rfl, h⟩
  | startXmit phase mem retval skb n => exact covered_startXmit h hrun
  | lockState mem prepost lock origin lockType addThis =>
      rw [TrackerEvent.exec] at hrun
      refine covered_of_body (fun r' hbody => ?_) hrun
      obtain ⟨g, hlock, rfl⟩ := map_eq_ok.mp hbody
      exact Covered.genericLockStateFuel 2 h hlock
  | lockAllocator mem prepost lock origin =>
      rw [TrackerEvent.exec] at hrun
      refine covered_of_body (fun r' hbody => ?_) hrun
      obtain ⟨g, hlock, rfl⟩ := map_eq_ok.mp hbody
      exact h.genericLockAllocator hlock
  | resetNewObjects =>
      refine covered_of_body (fun r' hbody => ?_) hrun
      cases hbody
      exact h.resetNewObjects
  | elsewhere body table =>
      exact covered_of_body (fun r' hbody => h.of_objs (table r r' hbody)) hrun

/-- Where the sizes are covered, no copy into an object it fits in is refused. -/
lemma copiesPass_of_covered (h : Covered r.test bytes) : CopiesPass (.free r) bytes := by
  intro phase dest n hn
  obtain ⟨m, hm, hsizes⟩ := h
  have hweak : assertAllocatedWeak r.test dest n = .ok () := by
    rw [assertAllocatedWeak, objsSearch_eq hm]
    cases hvalue : m.lookup dest with
    | none => rfl
    | some value =>
        refine tfassert_of_true ?_
        rw [UInt32.not_lt, UInt32.le_iff_toNat_le]
        rcases hsizes dest value hvalue with hunknown | hbytes
        · have hmax : (0 - 1 : ULong).toNat = 2 ^ 32 - 1 := by decide
          have hlt := n.toNat_lt
          rw [hunknown, hmax]
          omega
        · rw [hbytes]
          exact hn
  rw [copyFromUserMJRcheck, checkRoutine_free, hweak]
  rfl

end

/-! ## The sizes of a run -/

/-- The bytes allocated at each address after the events, where nothing was allocated before. -/
def allocatedBytes (events : List TrackerEvent) : ULong → ℕ :=
  events.foldl TrackerEvent.allocated fun _ => 0

/-- **Recorded sizes cover the allocations** iff they are right.  For every call of an allocator,
the check after it hands its report to `generic_allocator`, and what it hands over to be recorded
has a size that covers the allocation iff the condition holds.  In every state reached by
allocations that meet the condition, among any other events, a copy from user space passes at every
address for every number of bytes up to those allocated there. -/
theorem recorded_sizes_cover (events : List TrackerEvent) (s : CheckState) :
    (∀ (a : Allocation) (mem : Alloc) (head : ULong → ULong) (r : Records),
      a.call.check mem head (.free r) 1 =
          (a.call.report head >>= r.record mem).map CheckState.free ∧
        (a.RecordsCovering head ↔ a.SizeGiven head)) ∧
    ((∀ e ∈ events, e.SizeGiven) →
      events.foldlM TrackerEvent.exec (.free .initial) = .ok s →
        CopiesPass s (allocatedBytes events)) := by
  refine ⟨fun a mem head r => ⟨a.call.check_post mem head r, a.recordsCovering_iff head⟩, ?_⟩
  intro hsizes hrun
  have hstep : ∀ (s : CheckState) (bytes : ULong → ℕ) (e : TrackerEvent) (s' : CheckState),
      (∃ r, s = .free r ∧ Covered r.test bytes) → e.SizeGiven → e.exec s = .ok s' →
      ∃ r', s' = .free r' ∧ Covered r'.test (e.allocated bytes) := by
    rintro _ bytes e s' ⟨r, rfl, hcovered⟩ hsize hexec
    exact covered_event hcovered hsize hexec
  obtain ⟨r, rfl, hcovered⟩ := Along.invariant hstep events
    ⟨.initial, rfl, covered_initial fun _ => 0⟩ (Along.forall_iff.mpr hsizes) hrun
  exact copiesPass_of_covered hcovered

/-- One page from `__get_free_pages`. -/
def onePage : Allocation where
  call := .getFreePages 0xc0001000 0
  bytes := 4096
  requested := by
    rintro _ n ⟨⟩
    rfl
  failed := fun h => absurd h (show ¬ IsBogus 0xc0001000 by decide)

/-- Sixty-four bytes from `__kmalloc`. -/
def smallBlock : Allocation where
  call := .kmalloc 0xc0001000 64 gfpKernel
  bytes := 64
  requested := by
    rintro _ n ⟨⟩
    rfl
  failed := fun h => absurd h (show ¬ IsBogus 0xc0001000 by decide)

/-- Both checks of an allocation. -/
def bothChecks (a : Allocation) : List TrackerEvent :=
  [.alloc .pre Alloc.succeeds (fun _ => 0) a, .alloc .post Alloc.succeeds (fun _ => 0) a]

theorem recorded_sizes_cover_kmalloc :
    ∃ s, (bothChecks smallBlock).foldlM TrackerEvent.exec (.free .initial) = .ok s ∧
      CopiesPass s (allocatedBytes (bothChecks smallBlock)) := by
  have hok : ((bothChecks smallBlock).foldlM TrackerEvent.exec (.free .initial)).isOk = true := rfl
  cases hrun : (bothChecks smallBlock).foldlM TrackerEvent.exec (.free .initial) with
  | error e =>
      rw [hrun] at hok
      cases hok
  | ok s =>
      refine ⟨s, rfl, (recorded_sizes_cover (bothChecks smallBlock) s).2 ?_ hrun⟩
      intro e he
      simp only [bothChecks, List.mem_cons, List.not_mem_nil, or_false] at he
      rcases he with rfl | rfl <;> trivial

/-- **A page recorded as one byte.**  The check after `__get_free_pages` records the number of
pages, and the copy of a page into the page is refused.  What the check after `__alloc_skb` hands
over is the address of the size. -/
theorem pages_recorded_as_bytes :
    ¬ onePage.RecordsCovering (fun _ => 0) ∧
    (∃ s, (bothChecks onePage).foldlM TrackerEvent.exec (.free .initial) = .ok s ∧
      4096 ≤ allocatedBytes (bothChecks onePage) 0xc0001000 ∧
      copyFromUserMJRcheck s 0 0xc0001000 4096 =
        .error (.assertion .assertAllocatedWeak "")) ∧
    (AllocCall.allocSkb 0xc0001000 1500 0xc0abcdf0).report (fun _ => 0xc0002000) =
      .ok (some ⟨0xc0002000, 0xc0abcdf0, originDevAllocSkb⟩) := by
  refine ⟨?_, ⟨_, rfl, by decide, rfl⟩, rfl⟩
  rw [onePage.recordsCovering_iff]
  show ¬ IsBogus 0xc0001000
  decide

end SymDrive

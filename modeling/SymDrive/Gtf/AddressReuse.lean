import SymDrive.Gtf.BlockingContext
import SymDrive.Gtf.LockRefinement

/-!
# Locks inside objects, and addresses that are used again

Objects and locks share one table, keyed by a bare address, but an object covers a range.
`generic_free` removes the entry of the object's address and nothing else, so the entry of a lock
that was initialised further inside stays behind, and a later allocation at that address is taken
for a double one (`lock_inside_freed_object`).

`Memory` is the reference: the live objects with their ranges, and the locks in them.  `Mirrors`
relates it to the table, address by address.  The tracker raises no false alarm, and a free leaves
nothing behind, in exactly the runs in which no object is freed that has a lock beyond its first
address (`no_false_alarm_iff`).
-/

namespace SymDrive

open Checked

/-! ## The reference -/

structure MemObject where
  size : ULong
  origin : Origin

/-- Live objects by address; initialised locks with what they are held under, if they are held. -/
structure Memory where
  objects : ULong → Option MemObject
  locks : ULong → Option (Option LockType)

def Memory.empty : Memory := ⟨fun _ => none, fun _ => none⟩

/-- `a` lies in `[object, object + size)`. -/
def Inside (object size a : ULong) : Prop :=
  object.toNat ≤ a.toNat ∧ a.toNat < object.toNat + size.toNat

instance (object size a : ULong) : Decidable (Inside object size a) := by
  unfold Inside
  infer_instance

/-- What a driver does with memory and the locks in it. -/
inductive MemoryEvent where
  | allocate (object size : ULong) (origin : Origin)
  | initLock (lock : ULong) (origin : Origin)
  | acquire (c : LockCall)
  | release (c : LockCall)
  | free (object : ULong) (origin : Origin)

namespace MemoryEvent

def exec (g : GlobalState) : MemoryEvent → Except Fault GlobalState
  | allocate object size origin => genericAllocator g Alloc.succeeds 1 object size origin
  | initLock lock origin => genericLockAllocator g Alloc.succeeds 0 lock origin
  | acquire c => c.exec g 1
  | release c => c.exec g (-1)
  | free object origin => genericFree g 0 object origin

/-- With an object its locks are gone. -/
def after (mem : Memory) : MemoryEvent → Memory
  | allocate object size origin =>
      if isErr object ∨ object = 0 then mem
      else { mem with objects := Function.update mem.objects object (some ⟨size, origin⟩) }
  | initLock lock _ => { mem with locks := Function.update mem.locks lock (some none) }
  | acquire c => { mem with locks := Function.update mem.locks c.lock (some (some c.lockType)) }
  | release c => { mem with locks := Function.update mem.locks c.lock (some none) }
  | free object _ =>
      match mem.objects object with
      | none => mem
      | some o =>
          { objects := Function.update mem.objects object none,
            locks := fun l => if Inside object o.size l then none else mem.locks l }

/-- What the kernel and a correct driver do: memory is handed out that nothing live covers, locks
are initialised inside live objects, acquired while free and released by the unlock of their
variant (after a trylock by any), and an object is freed with its locks released. -/
def Legal (mem : Memory) : MemoryEvent → Prop
  | allocate object size origin => isErr object = false → object ≠ 0 →
      origin ≠ 0 ∧ 0 < size ∧
        ∀ p o, mem.objects p = some o → ∀ a, Inside object size a → ¬ Inside p o.size a
  | initLock lock _ => lock ≠ 0 ∧ (mem.locks lock).join = none ∧
      ∃ p o, mem.objects p = some o ∧ Inside p o.size lock
  | acquire c => c.lock > 0x1000 ∧ mem.locks c.lock = some none
  | release c => c.lock > 0x1000 ∧ c.lockType ≠ .genericLock ∧
      (mem.locks c.lock = some (some c.lockType) ∨ mem.locks c.lock = some (some .genericLock))
  | free object origin => ∃ o, mem.objects object = some o ∧ o.origin &&& origin ≠ 0 ∧
      ∀ l, Inside object o.size l → (mem.locks l).join = none

/-- An object that is freed has no lock beyond its first address. -/
def NoInnerLock (mem : Memory) : MemoryEvent → Prop
  | free object _ => ∀ o, mem.objects object = some o →
      ∀ l, Inside object o.size l → mem.locks l ≠ none → l = object
  | _ => True

end MemoryEvent

/-- A failed assertion that is not about blocking contexts. -/
def Fault.FromTracker (e : Fault) : Prop := e.IsAssertion ∧ ¬ e.FromContext

/-- The framework next to the reference. -/
abbrev Monitored := GlobalState × Memory

namespace MemoryEvent

def monitor (s : Monitored) (e : MemoryEvent) : Except Fault Monitored := do
  let g ← e.exec s.1
  .ok (g, e.after s.2)

/-- After the free of an object the table has no entry in its range. -/
def LeavesNothing (s : Monitored) : MemoryEvent → Prop
  | free object origin => ∀ g', exec s.1 (free object origin) = .ok g' →
      ∀ o, s.2.objects object = some o → ∀ a, Inside object o.size a → objsSearch g' a = none
  | _ => True

/-- No assertion of the tracker fires, and a free leaves nothing behind. -/
def NoFalseAlarm (s : Monitored) (e : MemoryEvent) : Prop :=
  (∀ fault, e.exec s.1 = .error fault → ¬ fault.FromTracker) ∧ e.LeavesNothing s

end MemoryEvent

/-! ## The invariant -/

/-- Live objects do not overlap, and every lock lies in one. -/
structure Memory.WellFormed (mem : Memory) : Prop where
  nonempty : ∀ p o, mem.objects p = some o → 0 < o.size
  disjoint : ∀ p o q o' a, mem.objects p = some o → mem.objects q = some o' →
    Inside p o.size a → Inside q o'.size a → p = q
  embedded : ∀ l, mem.locks l ≠ none → ∃ p o, mem.objects p = some o ∧ Inside p o.size l

/-- What the table has under one address, against the object and the lock there. -/
def Mirror (record : Option HValue) (object : Option MemObject) (lock : Option (Option LockType)) :
    Prop :=
  match record with
  | none => object = none ∧ lock = none
  | some value => (object ≠ none ∨ lock ≠ none) ∧ (∀ o, object = some o → value.origin = o.origin) ∧
      value.lockState = heldState lock.join ∧ ¬ insaneSize value.size

def Mirrors (m : Tracked) (mem : Memory) : Prop :=
  ∀ a, Mirror (m.lookup a) (mem.objects a) (mem.locks a)

structure MemoryInv (s : Monitored) : Prop where
  wellFormed : s.2.WellFormed
  mirrored : ∃ m, s.1.Tracks m ∧ Mirrors m s.2

lemma inside_first {object size : ULong} (h : 0 < size) : Inside object size object :=
  ⟨Nat.le_refl _, Nat.lt_add_of_pos_right (UInt32.lt_iff_toNat_lt.mp h)⟩

namespace Mirrors

variable {m : Tracked} {mem : Memory}

lemma lookup_object (h : Mirrors m mem) {p : ULong} {o : MemObject} (ho : mem.objects p = some o) :
    ∃ value, m.lookup p = some value ∧ value.origin = o.origin := by
  have hp := h p
  cases hlook : m.lookup p with
  | none =>
      rw [hlook, ho] at hp
      cases hp.1
  | some value =>
      rw [hlook] at hp
      exact ⟨value, rfl, hp.2.1 o ho⟩

lemma lookup_lock (h : Mirrors m mem) {l : ULong} {held : Option LockType}
    (hl : mem.locks l = some held) :
    ∃ value, m.lookup l = some value ∧ value.lockState = heldState held ∧
      (∀ o, mem.objects l = some o → value.origin = o.origin) ∧ ¬ insaneSize value.size := by
  have hlock := h l
  cases hlook : m.lookup l with
  | none =>
      rw [hlook, hl] at hlock
      cases hlock.2
  | some value =>
      rw [hlook, hl] at hlock
      exact ⟨value, rfl, hlock.2.2.1, hlock.2.1, hlock.2.2.2⟩

lemma lookup_none (h : Mirrors m mem) {a : ULong} (hobject : mem.objects a = none)
    (hlock : mem.locks a = none) : m.lookup a = none := by
  have ha := h a
  cases hlook : m.lookup a with
  | none => rfl
  | some value =>
      rw [hlook, hobject, hlock] at ha
      simp [Mirror] at ha

/-- A change of one record is matched by a change at one address. -/
lemma insert (h : Mirrors m mem) {a : ULong} {value : HValue} {object : Option MemObject}
    {lock : Option (Option LockType)} (ha : Mirror (some value) object lock) :
    Mirrors (m.insert a value)
      ⟨Function.update mem.objects a object, Function.update mem.locks a lock⟩ := by
  intro b
  by_cases hb : b = a
  · rw [hb, Finmap.lookup_insert]
    simpa only [Function.update_self] using ha
  · rw [Finmap.lookup_insert_of_ne m hb]
    simpa only [Function.update_of_ne hb] using h b

/-- The record of a lock is changed. -/
lemma insert_lock (h : Mirrors m mem) {l : ULong} {value : HValue} {held : Option LockType}
    (horigin : ∀ o, mem.objects l = some o → value.origin = o.origin)
    (hheld : value.lockState = heldState held) (hsane : ¬ insaneSize value.size) :
    Mirrors (m.insert l value) { mem with locks := Function.update mem.locks l (some held) } := by
  have hmirror : Mirror (some value) (mem.objects l) (some held) :=
    ⟨Or.inr (by simp), horigin, hheld, hsane⟩
  have hins := h.insert (a := l) hmirror
  rwa [Function.update_eq_self] at hins

end Mirrors

/-! ## The reference stays well formed -/

namespace Memory.WellFormed

variable {mem : Memory}

lemma update_locks (h : mem.WellFormed) {l : ULong} (held : Option LockType)
    (hl : ∃ p o, mem.objects p = some o ∧ Inside p o.size l) :
    WellFormed { mem with locks := Function.update mem.locks l (some held) } where
  nonempty := h.nonempty
  disjoint := h.disjoint
  embedded := by
    intro l' hl'
    by_cases heq : l' = l
    · rw [heq]
      exact hl
    · exact h.embedded l' (by simpa only [Function.update_of_ne heq] using hl')

/-- An object is added where nothing live is. -/
lemma add (h : mem.WellFormed) {object size : ULong} {origin : Origin} (hsize : 0 < size)
    (hnew : ∀ p o, mem.objects p = some o → ∀ a, Inside object size a → ¬ Inside p o.size a) :
    WellFormed
      { mem with objects := Function.update mem.objects object (some ⟨size, origin⟩) } := by
  have hcases : ∀ p o, Function.update mem.objects object (some ⟨size, origin⟩) p = some o →
      (p = object ∧ o.size = size) ∨ mem.objects p = some o := by
    intro p o ho
    by_cases hp : p = object
    · rw [hp, Function.update_self, Option.some.injEq] at ho
      exact Or.inl ⟨hp, by rw [← ho]⟩
    · rw [Function.update_of_ne hp] at ho
      exact Or.inr ho
  refine ⟨?_, ?_, ?_⟩
  · intro p o ho
    rcases hcases p o ho with ⟨_, hs⟩ | ho
    · rwa [hs]
    · exact h.nonempty p o ho
  · intro p o q o' a ho ho' ha ha'
    rcases hcases p o ho with ⟨hp, hs⟩ | ho <;> rcases hcases q o' ho' with ⟨hq, hs'⟩ | ho'
    · rw [hp, hq]
    · rw [hp, hs] at ha
      exact absurd ha' (hnew q o' ho' a ha)
    · rw [hq, hs'] at ha'
      exact absurd ha (hnew p o ho a ha')
    · exact h.disjoint p o q o' a ho ho' ha ha'
  · intro l hl
    obtain ⟨p, o, ho, hin⟩ := h.embedded l hl
    have hne : p ≠ object := by
      rintro rfl
      exact hnew p o ho p (inside_first hsize) (inside_first (h.nonempty p o ho))
    exact ⟨p, o, by simpa only [Function.update_of_ne hne] using ho, hin⟩

/-- An object is taken out with its locks. -/
lemma free (h : mem.WellFormed) {object : ULong} {o : MemObject}
    (ho : mem.objects object = some o) :
    WellFormed
      { objects := Function.update mem.objects object none,
        locks := fun l => if Inside object o.size l then none else mem.locks l } := by
  have hback : ∀ p o', Function.update mem.objects object none p = some o' →
      mem.objects p = some o' := by
    intro p o' hp
    by_cases heq : p = object
    · rw [heq, Function.update_self] at hp
      cases hp
    · rwa [Function.update_of_ne heq] at hp
  refine ⟨fun p o' hp => h.nonempty p o' (hback p o' hp), ?_, ?_⟩
  · exact fun p o₁ q o₂ a h₁ h₂ => h.disjoint p o₁ q o₂ a (hback p o₁ h₁) (hback q o₂ h₂)
  · intro l hl
    dsimp only at hl
    by_cases hin : Inside object o.size l
    · rw [if_pos hin] at hl
      exact absurd rfl hl
    · rw [if_neg hin] at hl
      obtain ⟨p, o', hp, hin'⟩ := h.embedded l hl
      have hne : p ≠ object := by
        rintro rfl
        rw [ho] at hp
        cases hp
        exact hin hin'
      exact ⟨p, o', by simpa only [Function.update_of_ne hne] using hp, hin'⟩

end Memory.WellFormed

/-! ## One event -/

section

variable {g : GlobalState} {m : Tracked} {mem : Memory}

/-- Memory that nothing live covers has no entry at its address. -/
lemma lookup_new (hwf : mem.WellFormed) (hmir : Mirrors m mem) {object size : ULong}
    (hsize : 0 < size)
    (hnew : ∀ p o, mem.objects p = some o → ∀ a, Inside object size a → ¬ Inside p o.size a) :
    m.lookup object = none := by
  refine hmir.lookup_none ?_ ?_
  · by_contra hlive
    obtain ⟨o, ho⟩ := Option.ne_none_iff_exists'.mp hlive
    exact hnew object o ho object (inside_first hsize) (inside_first (hwf.nonempty object o ho))
  · by_contra hlock
    obtain ⟨p, o, ho, hin⟩ := hwf.embedded object hlock
    exact hnew p o ho object (inside_first hsize) hin

/-- A size that `objs_insert` complains about ends the path there, for want of a record to print. -/
lemma genericAllocator_insane {object objectSize : ULong} {origin : Origin}
    (hsearch : objsSearch g object = none) (hobject : ¬ (isErr object = true ∨ object = 0))
    (hsize : insaneSize objectSize) :
    genericAllocator g Alloc.succeeds 1 object objectSize origin =
      .error (.nullDeref .objsInsert) := by
  have hvalue : objsValue Alloc.succeeds origin objectSize 1 =
      .ok (HValue.fresh origin objectSize 1) := rfl
  have hkey : objsKeyPtr Alloc.succeeds object = .ok object := rfl
  have hinsert : objsInsert g Alloc.succeeds object (HValue.fresh origin objectSize 1) =
      .error (.nullDeref .objsInsert) := by
    have hinsane : ¬ ¬ insaneSize (HValue.fresh origin objectSize 1).size := not_not.mpr hsize
    rw [objsInsert, hsearch, tfassert_of_true Option.isNone_none, ok_bind,
      ensure_of_false hinsane, error_bind]
  rw [genericAllocator, if_neg (by decide), if_pos rfl, if_neg hobject, hvalue, ok_bind, hkey,
    ok_bind, hsearch, tfassert_of_true Option.isNone_none, ok_bind, hinsert, error_bind]

/-- The allocator of locks goes through wherever the record that is there has a sane size. -/
lemma genericLockAllocator_ok (hm : g.Tracks m) {lock : ULong} (origin : Origin)
    (hlock : lock ≠ 0) (hsane : ∀ value, m.lookup lock = some value → ¬ insaneSize value.size) :
    ∃ g', genericLockAllocator g Alloc.succeeds 0 lock origin = .ok g' := by
  have hkey : objsKeyPtr Alloc.succeeds lock = .ok lock := rfl
  obtain ⟨record, hrecord, hgone, hsize⟩ :
      ∃ record, takeRecord g Alloc.succeeds lock origin = .ok record ∧
        objsSearch record.1 lock = none ∧ ¬ insaneSize record.2.size := by
    rw [takeRecord, objsSearch_eq hm]
    cases hlook : m.lookup lock with
    | some value =>
        refine ⟨_, rfl, ?_, hsane value hlook⟩
        rw [objsSearch_eq (tracks_removed hm lock), Finmap.lookup_erase]
    | none =>
        refine ⟨(g, HValue.fresh origin (0 - 1) 0), rfl, ?_, ?_⟩
        · rw [objsSearch_eq hm, hlook]
        · exact fun h => h.2 rfl
  have hinsert := objsInsert_eq_ok.mpr
    ⟨hgone, hsize, (rfl : Alloc.succeeds.insert.entry = true), rfl⟩
  refine ⟨objsInserted record.1 Alloc.succeeds lock record.2, ?_⟩
  rw [genericLockAllocator, if_pos rfl, tfassert_of_true hlock, ok_bind, hkey, ok_bind, hrecord,
    ok_bind, hinsert, ok_bind, objsSearch_inserted _ _ _ rfl, tfassert_of_true Option.isSome_some,
    ok_bind]

/-- What the tracker makes of an event of the reference: a state that mirrors it, or a stop that is
no failed assertion of the tracker. -/
def Tracked.Outcome (mem : Memory) (x : Except Fault GlobalState) : Prop :=
  Checked.Outcome (fun g mem => MemoryInv (g, mem)) (fun e => ¬ e.FromTracker) mem x

lemma not_fromTracker_of_fromContext {e : Fault} (h : e.FromContext) : ¬ e.FromTracker :=
  fun htracker => htracker.2 h

/-- The record of a lock is changed, and then the blocking contexts. -/
lemma outcome_relock (hwf : mem.WellFormed) (hm : g.Tracks m) (hmir : Mirrors m mem)
    {lock : ULong} {old held : Option LockType} (hknown : mem.locks lock = some old)
    {value value' : HValue} (hlook : m.lookup lock = some value)
    (hheld : value'.lockState = heldState held)
    (hsame : value'.origin = value.origin ∧ value'.size = value.size) {origin : Origin}
    {t : LockType} {addThis : ℤ} (hadd : addThis = -1 ∨ addThis = 1) :
    Tracked.Outcome { mem with locks := Function.update mem.locks lock (some held) }
      (lockKernelState (objsModify g lock fun _ => value') origin t addThis) := by
  obtain ⟨v, hv, _, horigin, hsane⟩ := hmir.lookup_lock hknown
  rw [hlook] at hv
  cases hv
  cases hkernel : lockKernelState (objsModify g lock fun _ => value') origin t addThis with
  | error e =>
      exact not_fromTracker_of_fromContext (lockKernelState_fromContext _ _ _ _ e hkernel)
  | ok g' =>
      refine ⟨hwf.update_locks held (hwf.embedded lock (by simp [hknown])), m.insert lock value',
        ?_, ?_⟩
      · rw [GlobalState.Tracks, lockKernelState_objs hadd hkernel]
        exact tracks_modified hm hlook fun _ => value'
      · refine hmir.insert_lock (fun o ho => ?_) hheld ?_
        · rw [hsame.1, horigin o ho]
        · rwa [hsame.2]

lemma outcome_allocate (hwf : mem.WellFormed) (hm : g.Tracks m) (hmir : Mirrors m mem)
    {object size : ULong} {origin : Origin}
    (hlegal : (MemoryEvent.allocate object size origin).Legal mem) :
    Tracked.Outcome ((MemoryEvent.allocate object size origin).after mem)
      (genericAllocator g Alloc.succeeds 1 object size origin) := by
  by_cases hbogus : isErr object = true ∨ object = 0
  · rw [MemoryEvent.after, if_pos hbogus, genericAllocator, if_neg (by decide), if_pos rfl,
      if_pos hbogus]
    exact ⟨hwf, m, hm, hmir⟩
  · rw [MemoryEvent.after, if_neg hbogus]
    have hreal := hbogus
    rw [not_or, Bool.not_eq_true] at hreal
    obtain ⟨horigin, hsize, hnew⟩ := hlegal hreal.1 hreal.2
    have hlook := lookup_new hwf hmir hsize hnew
    have hsearch : objsSearch g object = none := by rw [objsSearch_eq hm, hlook]
    by_cases hinsane : insaneSize size
    · rw [genericAllocator_insane hsearch hbogus hinsane]
      exact fun h => h.1
    · rw [genericAllocator_eq g horigin hinsane, if_neg hbogus, if_pos hsearch]
      refine ⟨hwf.add hsize hnew, _, tracks_inserted hm (Finmap.lookup_eq_none.mp hlook) _ rfl, ?_⟩
      have hlock : mem.locks object = none := by
        have hobject := hmir object
        rw [hlook] at hobject
        exact hobject.2
      have hmirror : Mirror (some (HValue.fresh origin size 1)) (some ⟨size, origin⟩)
          (mem.locks object) := by
        refine ⟨Or.inl (by simp), ?_, ?_, hinsane⟩
        · rintro o ⟨⟩
          rfl
        · rw [hlock]
          funext t
          exact (heldState_none t).symm
      have hins := hmir.insert (a := object) hmirror
      rwa [Function.update_eq_self] at hins

lemma outcome_initLock (hwf : mem.WellFormed) (hm : g.Tracks m) (hmir : Mirrors m mem)
    {lock : ULong} {origin : Origin} (hlegal : (MemoryEvent.initLock lock origin).Legal mem) :
    Tracked.Outcome ((MemoryEvent.initLock lock origin).after mem)
      (genericLockAllocator g Alloc.succeeds 0 lock origin) := by
  obtain ⟨hlock, hfree, hinside⟩ := hlegal
  have hrecord := hmir lock
  obtain ⟨g', hok⟩ := genericLockAllocator_ok hm origin hlock (by
    intro value hlook
    rw [hlook] at hrecord
    exact hrecord.2.2.2)
  obtain ⟨value, hm', _, hvalue⟩ := genericLockAllocator_inv hm hok
  rw [hok]
  refine ⟨hwf.update_locks none hinside, _, hm', ?_⟩
  rcases hvalue with hlook | ⟨hlook, rfl⟩
  · rw [hlook] at hrecord
    rw [Mirror, hfree] at hrecord
    exact hmir.insert_lock hrecord.2.1 hrecord.2.2.1 hrecord.2.2.2
  · rw [hlook] at hrecord
    refine hmir.insert_lock ?_ ?_ ?_
    · intro o ho
      rw [hrecord.1] at ho
      cases ho
    · funext t
      exact (heldState_none t).symm
    · exact fun h => h.2 rfl

lemma outcome_acquire (hwf : mem.WellFormed) (hm : g.Tracks m) (hmir : Mirrors m mem)
    {c : LockCall} (hlegal : (MemoryEvent.acquire c).Legal mem) :
    Tracked.Outcome ((MemoryEvent.acquire c).after mem) (c.exec g 1) := by
  obtain ⟨haddr, hknown⟩ := hlegal
  obtain ⟨value, hlook, hheld, _⟩ := hmir.lookup_lock hknown
  rw [exec_acquire (by rw [objsSearch_eq hm, hlook]) hheld haddr]
  exact outcome_relock hwf hm hmir hknown hlook (acquire_heldState hheld) ⟨rfl, rfl⟩ (Or.inr rfl)

lemma outcome_release (hwf : mem.WellFormed) (hm : g.Tracks m) (hmir : Mirrors m mem)
    {c : LockCall} (hlegal : (MemoryEvent.release c).Legal mem) :
    Tracked.Outcome ((MemoryEvent.release c).after mem) (c.exec g (-1)) := by
  obtain ⟨haddr, ht, hknown | hknown⟩ := hlegal
  · obtain ⟨value, hlook, hheld, _⟩ := hmir.lookup_lock hknown
    rw [exec_release hm hlook hheld ht haddr]
    exact outcome_relock hwf hm hmir hknown hlook (release_heldState hheld) ⟨rfl, rfl⟩ (Or.inl rfl)
  · obtain ⟨value, hlook, hheld, _⟩ := hmir.lookup_lock hknown
    rw [exec_release_generic hm hlook hheld ht haddr]
    -- Nothing is reported to the blocking contexts.
    have hkernel : (.ok (objsModify g c.lock fun _ => value.unlockGeneric c.lockType)) =
        lockKernelState (objsModify g c.lock fun _ => value.unlockGeneric c.lockType) c.origin
          .genericLock (-1) := rfl
    rw [hkernel]
    exact outcome_relock hwf hm hmir hknown hlook (unlockGeneric_heldState hheld) ⟨rfl, rfl⟩
      (Or.inl rfl)

/-- A legal free goes through and takes the entry of the address out. -/
lemma exec_free (hm : g.Tracks m) (hmir : Mirrors m mem) {object : ULong} {origin : Origin}
    {o : MemObject} (ho : mem.objects object = some o) (horigin : o.origin &&& origin ≠ 0) :
    genericFree g 0 object origin = .ok (objsRemove g object).1 := by
  obtain ⟨value, hlook, hvalue⟩ := hmir.lookup_object ho
  rw [genericFree_eq, objsSearch_eq hm, hlook]
  dsimp only
  rw [if_pos (by rwa [hvalue])]

lemma outcome_free (hwf : mem.WellFormed) (hm : g.Tracks m) (hmir : Mirrors m mem)
    {object : ULong} {origin : Origin} (hlegal : (MemoryEvent.free object origin).Legal mem)
    (hinner : (MemoryEvent.free object origin).NoInnerLock mem) :
    Tracked.Outcome ((MemoryEvent.free object origin).after mem)
      (genericFree g 0 object origin) := by
  obtain ⟨o, ho, horigin, _⟩ := hlegal
  rw [exec_free hm hmir ho horigin, MemoryEvent.after, ho]
  refine ⟨hwf.free ho, _, tracks_removed hm object, ?_⟩
  intro a
  dsimp only
  by_cases ha : a = object
  · rw [ha, Finmap.lookup_erase, Function.update_self,
      if_pos (inside_first (hwf.nonempty object o ho))]
    exact ⟨rfl, rfl⟩
  · rw [Finmap.lookup_erase_ne ha, Function.update_of_ne ha]
    split_ifs with hin
    · -- Inside the object and not at its address: there was neither an object nor a lock.
      have hobject : mem.objects a = none := by
        by_contra hlive
        obtain ⟨o', ho'⟩ := Option.ne_none_iff_exists'.mp hlive
        exact ha (hwf.disjoint a o' object o a ho' ho (inside_first (hwf.nonempty a o' ho')) hin)
      have hlock : mem.locks a = none := by
        by_contra hlock
        exact ha (hinner o ho a hin hlock)
      rw [hmir.lookup_none hobject hlock]
      exact ⟨hobject, rfl⟩
    · exact hmir a

/-- What is left in the range of a freed object are the locks beyond its first address. -/
lemma leavesNothing_free_iff (hwf : mem.WellFormed) (hm : g.Tracks m) (hmir : Mirrors m mem)
    {object : ULong} {origin : Origin} (hlegal : (MemoryEvent.free object origin).Legal mem) :
    (MemoryEvent.free object origin).LeavesNothing (g, mem) ↔
      (MemoryEvent.free object origin).NoInnerLock mem := by
  constructor
  · intro hnothing o ho l hin hlock
    obtain ⟨o', ho', horigin, _⟩ := hlegal
    by_contra hne
    obtain ⟨held, hheld⟩ := Option.ne_none_iff_exists'.mp hlock
    obtain ⟨value, hlook, _⟩ := hmir.lookup_lock hheld
    have hgone := hnothing _ (exec_free hm hmir ho' horigin) o ho l hin
    rw [objsSearch_eq (tracks_removed hm object), Finmap.lookup_erase_ne hne, hlook] at hgone
    cases hgone
  · intro hinner g' hok o ho a hin
    have hout := outcome_free hwf hm hmir hlegal hinner
    rw [MemoryEvent.exec] at hok
    rw [hok, MemoryEvent.after, ho] at hout
    obtain ⟨hwf', m', hm', hmir'⟩ := hout
    rw [objsSearch_eq hm']
    refine hmir'.lookup_none ?_ (if_pos hin)
    dsimp only
    by_contra hlive
    obtain ⟨o', ho'⟩ := Option.ne_none_iff_exists'.mp hlive
    have hne : a ≠ object := by
      rintro rfl
      rw [Function.update_self] at ho'
      cases ho'
    rw [Function.update_of_ne hne] at ho'
    exact hne (hwf.disjoint a o' object o a ho' ho (inside_first (hwf.nonempty a o' ho')) hin)

end

namespace MemoryEvent

lemma outcome_exec {s : Monitored} (hinv : MemoryInv s) {e : MemoryEvent} (hlegal : e.Legal s.2)
    (hinner : e.NoInnerLock s.2) : Tracked.Outcome (e.after s.2) (e.exec s.1) := by
  obtain ⟨hwf, m, hm, hmir⟩ := hinv
  cases e with
  | allocate object size origin => exact outcome_allocate hwf hm hmir hlegal
  | initLock lock origin => exact outcome_initLock hwf hm hmir hlegal
  | acquire c => exact outcome_acquire hwf hm hmir hlegal
  | release c => exact outcome_release hwf hm hmir hlegal
  | free object origin => exact outcome_free hwf hm hmir hlegal hinner

/-- A legal event raises no false alarm and leaves nothing behind iff it is no free of an object
with an inner lock. -/
lemma noFalseAlarm_iff {s : Monitored} (hinv : MemoryInv s) {e : MemoryEvent}
    (hlegal : e.Legal s.2) : e.NoFalseAlarm s ↔ e.NoInnerLock s.2 := by
  constructor
  · rintro ⟨_, hnothing⟩
    obtain ⟨hwf, m, hm, hmir⟩ := hinv
    cases e with
    | free object origin => exact (leavesNothing_free_iff hwf hm hmir hlegal).mp hnothing
    | allocate _ _ _ | initLock _ _ | acquire _ | release _ => trivial
  · intro hinner
    have hout := outcome_exec hinv hlegal hinner
    refine ⟨fun fault hfault => ?_, ?_⟩
    · rw [hfault] at hout
      exact hout
    · obtain ⟨hwf, m, hm, hmir⟩ := hinv
      cases e with
      | free object origin => exact (leavesNothing_free_iff hwf hm hmir hlegal).mpr hinner
      | allocate _ _ _ | initLock _ _ | acquire _ | release _ => trivial

end MemoryEvent

/-! ## Runs -/

/-- **Address reuse.**  In a legal run the tracker raises no false alarm and every free leaves
nothing in the freed range iff no object is freed that has a lock beyond its first address. -/
theorem no_false_alarm_iff (events : List MemoryEvent) (g : GlobalState) (mem : Memory)
    (hinv : MemoryInv (g, mem))
    (hlegal : Throughout MemoryEvent.monitor (fun s e => e.Legal s.2) (g, mem) events) :
    Throughout MemoryEvent.monitor (fun s e => e.NoFalseAlarm s) (g, mem) events ↔
      Throughout MemoryEvent.monitor (fun s e => e.NoInnerLock s.2) (g, mem) events := by
  refine Throughout.iff_of_invariant MemoryInv (fun s e s' hs hl hinner hstep => ?_)
    (fun s e hs hl => e.noFalseAlarm_iff hs hl) events hinv hlegal
  obtain ⟨g', hexec, hstep⟩ := bind_eq_ok.mp hstep
  cases hstep
  have hout := e.outcome_exec hs hl hinner
  rw [hexec] at hout
  exact hout

/-- Nothing is tracked and nothing is live. -/
lemma memoryInv_start {g : GlobalState} (hm : g.Tracks ∅) : MemoryInv (g, Memory.empty) where
  wellFormed := ⟨by simp [Memory.empty], by simp [Memory.empty], by simp [Memory.empty]⟩
  mirrored := by
    refine ⟨∅, hm, fun a => ?_⟩
    rw [Finmap.lookup_empty]
    exact ⟨rfl, rfl⟩

/-- An object with one lock in it. -/
def lockedObject (lock : ULong) : List MemoryEvent :=
  [.allocate 0xc0001000 64 1, .initLock lock originSpinLock, .acquire (spinLockCall lock),
    .release (spinLockCall lock), .free 0xc0001000 1]

lemma monitor_spec {s s' : Monitored} {e : MemoryEvent} (h : e.monitor s = .ok s') :
    s'.2 = e.after s.2 := by
  obtain ⟨g', _, h⟩ := bind_eq_ok.mp h
  cases h
  rfl

lemma lockedObject_legal {lock : ULong} (hin : Inside 0xc0001000 64 lock) (haddr : lock > 0x1000) :
    Along MemoryEvent.after MemoryEvent.Legal Memory.empty (lockedObject lock) := by
  have hne : lock ≠ 0 := by
    rintro rfl
    exact absurd haddr (by decide)
  refine ⟨fun _ _ => ⟨by decide, by decide, fun p o h => by cases h⟩,
    ⟨hne, rfl, 0xc0001000, ⟨64, 1⟩, rfl, hin⟩, ⟨haddr, Function.update_self ..⟩,
    ⟨haddr, by simp [spinLockCall], Or.inl (Function.update_self ..)⟩,
    ⟨⟨64, 1⟩, rfl, by decide, fun l _ => ?_⟩, trivial⟩
  simp only [MemoryEvent.after, Memory.empty, Function.update_apply]
  split_ifs <;> rfl

theorem no_false_alarm_first_address :
    Throughout MemoryEvent.monitor (fun s e => e.NoFalseAlarm s) (processContext, Memory.empty)
      (lockedObject 0xc0001000) := by
  refine (no_false_alarm_iff _ _ _ (memoryInv_start tracks_processContext) ?_).mpr ?_
  · exact Along.throughout (fun s e s' => monitor_spec) _
      (lockedObject_legal (by decide) (by decide))
  · have hinner : Along MemoryEvent.after (fun mem e => e.NoInnerLock mem) Memory.empty
        (lockedObject 0xc0001000) := by
      refine ⟨trivial, trivial, trivial, trivial, fun o _ l _ hlock => ?_, trivial⟩
      by_contra hl
      refine hlock ?_
      simp only [MemoryEvent.after, Memory.empty, spinLockCall, Function.update_of_ne hl]
      split_ifs <;> rfl
    exact Along.throughout (fun s e s' => monitor_spec) _ hinner

/-- The object is freed and its lock's address used again. -/
def reusedAddress : List MemoryEvent :=
  lockedObject 0xc0001008 ++ [.allocate 0xc0001008 16 1]

/-- **A lock inside a freed object.**  The run is legal, the lock is still in the table after the
free, and the allocation that reuses its address fails an assertion. -/
theorem lock_inside_freed_object :
    Throughout MemoryEvent.monitor (fun s e => e.Legal s.2) (processContext, Memory.empty)
      reusedAddress ∧
    ¬ Throughout MemoryEvent.monitor (fun s e => e.NoFalseAlarm s) (processContext, Memory.empty)
      reusedAddress ∧
    reusedAddress.foldlM MemoryEvent.monitor (processContext, Memory.empty) =
      .error (.assertion .genericAllocator "") := by
  refine ⟨?_, ?_, rfl⟩
  · refine Along.throughout (fun s e s' => monitor_spec) _
      ((lockedObject_legal (by decide) (by decide)).append ⟨fun _ _ => ?_, trivial⟩)
    refine ⟨by decide, by decide, fun p o h => ?_⟩
    have hnone : (List.foldl MemoryEvent.after Memory.empty (lockedObject 0xc0001008)).objects p =
        none := by
      by_cases hp : p = 0xc0001000
      · rw [hp]
        rfl
      · exact (Function.update_of_ne hp _ _).trans (Function.update_of_ne hp _ _)
    rw [hnone] at h
    cases h
  · intro h
    obtain ⟨_, _, _, _, _, hlast, _⟩ := h
    exact hlast.1 _ rfl ⟨trivial, by simp [Fault.FromContext]⟩

end SymDrive

import SymDrive.Gtf.LockCalls

/-!
# Blocking contexts along a run of locks

Taking a spinlock or an rwlock pushes `BLOCKING_NO`, taking a mutex or an rwsem pushes
`BLOCKING_YES`, and every release pops one entry, whichever lock pushed it.  Releases need not be
last-in first-out, so the stack is right only as long as each pop removes an entry of the kind its
lock pushed.

`ContextInv` is the invariant: above the entry the run started from stand the entries of the
sleeping locks, then those of the atomic ones.  Acquisitions keep it, because a sleeping lock is
refused while an atomic one is held; a release keeps it unless a sleeping lock is released under an
atomic one (`mutex_released_under_spinlock`).
-/

namespace SymDrive

open Checked

/-- The locks a run has acquired and not released, with the slots they are held under. -/
abbrev Held := List (ULong × LockType)

/-- Held under a type that sleeps. -/
def sleeping (p : ULong × LockType) : Bool := p.2.context = some .yes

/-- Held under a type that forbids sleeping. -/
def atomic (p : ULong × LockType) : Bool := p.2.context = some .no

namespace LockEvent

def after (held : Held) : LockEvent → Held
  | acquire c => (c.lock, c.lockType) :: held
  | release c => held.erase (c.lock, c.lockType)

/-- What the driver does right: it releases what it holds, with the type it was taken with, and
uses no generic lock. -/
def Correct (held : Held) : LockEvent → Prop
  | acquire c => c.lockType ≠ .genericLock
  | release c => c.lockType ≠ .genericLock ∧ (c.lock, c.lockType) ∈ held

instance (held : Held) : ∀ e : LockEvent, Decidable (e.Correct held)
  | acquire c => inferInstanceAs (Decidable (c.lockType ≠ .genericLock))
  | release c =>
      inferInstanceAs (Decidable (c.lockType ≠ .genericLock ∧ (c.lock, c.lockType) ∈ held))

/-- No sleeping lock is released while an atomic one is held. -/
def SleepersLast (held : Held) : LockEvent → Prop
  | acquire _ => True
  | release c => sleeping (c.lock, c.lockType) = true → ∀ p ∈ held, atomic p = false

instance (held : Held) : ∀ e : LockEvent, Decidable (e.SleepersLast held)
  | acquire _ => .isTrue trivial
  | release c => inferInstanceAs
      (Decidable (sleeping (c.lock, c.lockType) = true → ∀ p ∈ held, atomic p = false))

end LockEvent

/-- The locks held after a run that starts with none. -/
def heldAfter (events : List LockEvent) : Held := events.foldl LockEvent.after []

/-- The run of the framework over a sequence of lock events. -/
def runLocks (g : GlobalState) (events : List LockEvent) : Except Fault GlobalState :=
  events.foldlM LockEvent.exec g

/-- Every event of the run is correct at its moment. -/
def CorrectRun (events : List LockEvent) : Prop :=
  Along LockEvent.after LockEvent.Correct [] events

/-! ## The layers of the stack -/

/-- Above entry `base` stand `s` entries of sleeping locks, then `a` entries of atomic ones. -/
structure Layered (base s a : ℕ) (g : GlobalState) : Prop where
  current : g.blockingContextCurrent = base + s + a
  sleepers : ∀ i ≤ s, g.blockingContext (base + i) = .yes
  atomics : ∀ i < a, g.blockingContext (base + s + i + 1) = .no

namespace Layered

variable {base s a : ℕ} {g g' : GlobalState}

lemma start (hyes : kernelBlockingState g = .yes) : Layered g.blockingContextCurrent 0 0 g where
  current := rfl
  sleepers := by
    intro i hi
    rw [Nat.le_zero.mp hi]
    exact hyes
  atomics := fun i hi => absurd hi (Nat.not_lt_zero i)

lemma sameContext (h : Layered base s a g) (hsame : SameContext g g') : Layered base s a g' where
  current := hsame.current.trans h.current
  sleepers := by
    rw [hsame.context]
    exact h.sleepers
  atomics := by
    rw [hsame.context]
    exact h.atomics

/-- The innermost context forbids sleeping iff there is an atomic layer. -/
lemma kernelBlockingState_iff (h : Layered base s a g) : kernelBlockingState g = .no ↔ 0 < a := by
  unfold kernelBlockingState
  rw [h.current]
  cases a with
  | zero =>
      rw [Nat.add_zero, h.sleepers s (Nat.le_refl s)]
      decide
  | succ a =>
      have htop := h.atomics a (Nat.lt_succ_self a)
      rw [← Nat.add_assoc, htop]
      simp

lemma push_no (h : Layered base s a g) (hpush : pushBlockingState g .no = .ok g') :
    Layered base s (a + 1) g' := by
  obtain ⟨_, rfl⟩ := pushBlockingState_eq_ok.mp hpush
  refine ⟨by simp only [h.current]; omega, ?_, ?_⟩
  · intro i hi
    have hne : base + i ≠ g.blockingContextCurrent + 1 := by
      rw [h.current]
      omega
    dsimp only
    rw [Function.update_of_ne hne, h.sleepers i hi]
  · intro i hi
    dsimp only
    rw [Function.update_apply, h.current]
    split_ifs with htop
    · rfl
    · exact h.atomics i (by omega)

/-- A sleeping lock is pushed on a stack without an atomic layer. -/
lemma push_yes (h : Layered base s a g) (hctx : kernelBlockingState g ≠ .no)
    (hpush : pushBlockingState g .yes = .ok g') : a = 0 ∧ Layered base (s + 1) 0 g' := by
  have ha : a = 0 := by
    rw [Ne, h.kernelBlockingState_iff] at hctx
    omega
  subst ha
  obtain ⟨_, rfl⟩ := pushBlockingState_eq_ok.mp hpush
  refine ⟨rfl, by simp only [h.current]; omega, ?_, fun i hi => absurd hi (Nat.not_lt_zero i)⟩
  intro i hi
  dsimp only
  rw [Function.update_apply, h.current]
  split_ifs with htop
  · rfl
  · exact h.sleepers i (by omega)

lemma pop_no (h : Layered base s (a + 1) g) (hpop : popBlockingState g = .ok g') :
    Layered base s a g' := by
  obtain ⟨_, rfl⟩ := popBlockingState_eq_ok.mp hpop
  exact ⟨by simp only [h.current]; omega, h.sleepers, fun i hi => h.atomics i (by omega)⟩

/-- A pop takes the entry of a sleeping lock if there is no atomic layer above it. -/
lemma pop_yes (h : Layered base (s + 1) 0 g) (hpop : popBlockingState g = .ok g') :
    Layered base s 0 g' := by
  obtain ⟨_, rfl⟩ := popBlockingState_eq_ok.mp hpop
  refine ⟨by simp only [h.current]; omega, ?_, fun i hi => absurd hi (Nat.not_lt_zero i)⟩
  exact fun i hi => h.sleepers i (by omega)

end Layered

/-! ## The records of the held locks -/

/-- The tracker's record of every held lock says so, and a lock is held once. -/
structure Recorded (g : GlobalState) (held : Held) : Prop where
  records : ∃ m, g.Tracks m ∧
    ∀ p ∈ held, ∃ value, m.lookup p.1 = some value ∧ value.lockState = heldState (some p.2)
  distinct : (held.map Prod.fst).Nodup

namespace Recorded

variable {g g' : GlobalState} {held : Held} {c : LockCall}

lemma start {m : Tracked} (hm : g.Tracks m) : Recorded g [] where
  records := ⟨m, hm, by simp⟩
  distinct := List.nodup_nil

/-- An acquisition that goes through adds a lock that was not held, and changes the blocking
contexts as `lock_kernel_state` says. -/
lemma acquire (h : Recorded g held) (hexec : c.exec g 1 = .ok g') :
    Recorded g' ((c.lock, c.lockType) :: held) ∧
      ∃ g₁, SameContext g g₁ ∧ lockKernelState g₁ c.origin c.lockType 1 = .ok g' := by
  obtain ⟨m, hm, hrec⟩ := h.records
  obtain ⟨g₁, m₁, value, hm₁, hsame, hlook, hheld, hframe, hfree, hkernel⟩ := acquire_inv hm hexec
  have hnew : c.lock ∉ held.map Prod.fst := by
    intro hmem
    obtain ⟨p, hp, hpc⟩ := List.mem_map.mp hmem
    obtain ⟨v, hv, hvheld⟩ := hrec p hp
    rw [hpc] at hv
    have hnone := hfree v hv
    rw [hvheld] at hnone
    cases heldState_injective hnone
  refine ⟨⟨⟨m₁, ?_, ?_⟩, ?_⟩, g₁, hsame, hkernel⟩
  · unfold GlobalState.Tracks
    rw [lockKernelState_objs (Or.inr rfl) hkernel]
    exact hm₁
  · intro p hp
    rcases List.mem_cons.mp hp with rfl | hp
    · exact ⟨value, hlook, hheld⟩
    · have hne : p.1 ≠ c.lock := fun heq => hnew (List.mem_map.mpr ⟨p, hp, heq⟩)
      rw [hframe p.1 hne]
      exact hrec p hp
  · rw [List.map_cons, List.nodup_cons]
    exact ⟨hnew, h.distinct⟩

/-- A release that goes through takes away the one entry of its lock. -/
lemma release (h : Recorded g held) (hgeneric : c.lockType ≠ .genericLock)
    (hmem : (c.lock, c.lockType) ∈ held) (hexec : c.exec g (-1) = .ok g') :
    Recorded g' (held.erase (c.lock, c.lockType)) ∧
      ∃ g₁, SameContext g g₁ ∧ lockKernelState g₁ c.origin c.lockType (-1) = .ok g' := by
  obtain ⟨m, hm, hrec⟩ := h.records
  obtain ⟨value, hlook, hheld⟩ := hrec _ hmem
  obtain ⟨g₁, m₁, _, hm₁, hsame, _, _, hframe, hkernel⟩ :=
    release_inv hm hlook hheld hgeneric hexec
  have hperm := (List.perm_cons_erase hmem).map Prod.fst
  have hdistinct := hperm.nodup_iff.mp h.distinct
  rw [List.map_cons, List.nodup_cons] at hdistinct
  refine ⟨⟨⟨m₁, ?_, ?_⟩, hdistinct.2⟩, g₁, hsame, hkernel⟩
  · unfold GlobalState.Tracks
    rw [lockKernelState_objs (Or.inl rfl) hkernel]
    exact hm₁
  · intro p hp
    have hne : p.1 ≠ c.lock := fun heq => hdistinct.1 (List.mem_map.mpr ⟨p, hp, heq⟩)
    rw [hframe p.1 hne]
    exact hrec p (List.mem_of_mem_erase hp)

end Recorded

/-! ## The invariant of a run -/

/-- The records and the blocking contexts agree with the locks held. -/
structure ContextInv (base : ℕ) (g : GlobalState) (held : Held) : Prop where
  recorded : Recorded g held
  layered : Layered base (held.countP sleeping) (held.countP atomic) g

lemma context_cases {t : LockType} {context : BlockingContext} (h : t.context = some context) :
    context = .yes ∨ context = .no := by
  cases t <;> cases h <;> simp

lemma contextInv_acquire {base : ℕ} {g g' : GlobalState} {held : Held} {c : LockCall}
    (h : ContextInv base g held) (hgeneric : c.lockType ≠ .genericLock)
    (hexec : c.exec g 1 = .ok g') : ContextInv base g' ((c.lock, c.lockType) :: held) := by
  obtain ⟨hrec, g₁, hsame, hkernel⟩ := h.recorded.acquire hexec
  have hlayered := h.layered.sameContext hsame
  refine ⟨hrec, ?_⟩
  rcases lockKernelState_acquire hkernel with ⟨ht, _⟩ | ⟨context, hcontext, hallowed, hpush⟩
  · exact absurd ht hgeneric
  rw [List.countP_cons, List.countP_cons]
  rcases context_cases hcontext with rfl | rfl
  · obtain ⟨ha, hpushed⟩ := hlayered.push_yes (hallowed rfl) hpush
    simpa [sleeping, atomic, hcontext, ha] using hpushed
  · have hpushed := hlayered.push_no hpush
    simpa [sleeping, atomic, hcontext] using hpushed

lemma contextInv_release {base : ℕ} {g g' : GlobalState} {held : Held} {c : LockCall}
    (h : ContextInv base g held) (hgeneric : c.lockType ≠ .genericLock)
    (hmem : (c.lock, c.lockType) ∈ held)
    (hlast : sleeping (c.lock, c.lockType) = true → ∀ p ∈ held, atomic p = false)
    (hexec : c.exec g (-1) = .ok g') :
    ContextInv base g' (held.erase (c.lock, c.lockType)) := by
  obtain ⟨hrec, g₁, hsame, hkernel⟩ := h.recorded.release hgeneric hmem hexec
  have hlayered := h.layered.sameContext hsame
  refine ⟨hrec, ?_⟩
  rcases lockKernelState_release hkernel with ⟨ht, _⟩ | ⟨hcontext, hpop⟩
  · exact absurd ht hgeneric
  obtain ⟨context, hcontext⟩ := Option.isSome_iff_exists.mp hcontext
  have hperm := List.perm_cons_erase hmem
  have hs := hperm.countP_eq sleeping
  have ha := hperm.countP_eq atomic
  rw [List.countP_cons] at hs ha
  rcases context_cases hcontext with rfl | rfl
  · have hnone : held.countP atomic = 0 := by
      rw [List.countP_eq_zero]
      intro p hp
      simp [hlast (by simp [sleeping, hcontext]) p hp]
    rw [hnone] at hlayered ha
    rw [hs] at hlayered
    have hpopped := Layered.pop_yes (by simpa [sleeping, hcontext] using hlayered) hpop
    have hzero : (held.erase (c.lock, c.lockType)).countP atomic = 0 := by omega
    rwa [hzero]
  · rw [hs, ha] at hlayered
    exact Layered.pop_no (by simpa [sleeping, atomic, hcontext] using hlayered) hpop

/-- **Blocking contexts are sound** along every correct run in which no sleeping lock is released
while an atomic one is held: sleeping is forbidden in the state reached iff an atomic lock acquired
in the run is still held. -/
theorem kernelBlockingState_sound (events : List LockEvent) (g g' : GlobalState) (m : Tracked)
    (hm : g.Tracks m) (hyes : kernelBlockingState g = .yes) (hcorrect : CorrectRun events)
    (hlast : Along LockEvent.after LockEvent.SleepersLast [] events)
    (hrun : runLocks g events = .ok g') :
    kernelBlockingState g' = .no ↔ ∃ p ∈ heldAfter events, atomic p = true := by
  have hstep : ∀ base g held e g', ContextInv base g held →
      (LockEvent.Correct held e ∧ LockEvent.SleepersLast held e) → LockEvent.exec g e = .ok g' →
      ContextInv base g' (e.after held) := by
    intro base g held e g' hinv hP hexec
    cases e with
    | acquire c => exact contextInv_acquire hinv hP.1 hexec
    | release c => exact contextInv_release hinv hP.1.1 hP.1.2 hP.2 hexec
  have hinv := Along.invariant (hstep _) events ⟨Recorded.start hm, Layered.start hyes⟩
    (hcorrect.and hlast) hrun
  rw [hinv.layered.kernelBlockingState_iff, List.countP_pos_iff]
  rfl

/-- The call of `_raw_spin_lock_MJRcheck` and `_raw_spin_unlock_MJRcheck`. -/
def spinLockCall (lock : ULong) : LockCall := ⟨lock, originSpinLock, .spinLock, Alloc.succeeds⟩

/-- The call of `mutex_lock_nested_MJRcheck` and `mutex_unlock_MJRcheck`. -/
def mutexCall (lock : ULong) : LockCall := ⟨lock, originMutex, .mutex, Alloc.succeeds⟩

/-- A spinlock is taken inside a mutex. -/
def nestedAcquire : List LockEvent :=
  [.acquire (mutexCall 0xc0001000), .acquire (spinLockCall 0xc0002000)]

/-- And they are released, the inner one first. -/
def nestedRun : List LockEvent :=
  nestedAcquire ++ [.release (spinLockCall 0xc0002000), .release (mutexCall 0xc0001000)]

theorem kernelBlockingState_sound_nested :
    ∃ g', runLocks processContext nestedRun = .ok g' ∧
      (kernelBlockingState g' = .no ↔ ∃ p ∈ heldAfter nestedRun, atomic p = true) := by
  have hok : (runLocks processContext nestedRun).isOk = true := rfl
  cases hrun : runLocks processContext nestedRun with
  | error e =>
      rw [hrun] at hok
      cases hok
  | ok g' =>
      exact ⟨g', rfl, kernelBlockingState_sound _ processContext g' ∅ tracks_processContext rfl
        ⟨by decide, by decide, by decide, by decide, trivial⟩
        ⟨trivial, trivial, by decide, by decide, trivial⟩ hrun⟩

/-- **A mutex released under a spinlock.**  The release pops the spinlock's entry, and sleeping is
allowed again while the spinlock is held. -/
theorem mutex_released_under_spinlock :
    CorrectRun (nestedAcquire ++ [.release (mutexCall 0xc0001000)]) ∧
    (∃ p ∈ heldAfter (nestedAcquire ++ [.release (mutexCall 0xc0001000)]), atomic p = true) ∧
    ∃ g', runLocks processContext (nestedAcquire ++ [.release (mutexCall 0xc0001000)]) = .ok g' ∧
      kernelBlockingState g' ≠ .no := by
  refine ⟨⟨by decide, by decide, by decide, trivial⟩, by decide, ?_⟩
  have hyes : ((runLocks processContext (nestedAcquire ++ [.release (mutexCall 0xc0001000)])).map
      kernelBlockingState).toOption = some .yes := rfl
  cases hrun : runLocks processContext (nestedAcquire ++ [.release (mutexCall 0xc0001000)]) with
  | error e =>
      rw [hrun] at hyes
      cases hyes
  | ok g' =>
      rw [hrun] at hyes
      refine ⟨g', rfl, ?_⟩
      rw [Option.some.inj hyes]
      decide

end SymDrive

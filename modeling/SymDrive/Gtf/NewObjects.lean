import SymDrive.Gtf.BadPath
import SymDrive.Gtf.LockCalls

/-!
# New objects

An object is new from its allocation until control leaves the driver.  `reset_new_objects` clears
the flag of every object in the table, and saves itself the walk as long as `objs_dirty` says that
nothing was inserted since the last one.

`clearNewObjects` is the walk without the short cut.  The short cut is right because of `Settled`:
in a table that is not dirty no object is new.  Every operation keeps it, because an insertion,
the only way for a new object into the table, makes the table dirty: also when the record of a
lock is taken out and put back (`Settles`).
-/

namespace SymDrive

open Checked

/-! ## The calls on the tracker -/

/-- What a check routine can ask of the object tracker. -/
inductive ObjectOp where
  | allocator (mem : Alloc) (prepost : ℤ) (object objectSize : ULong) (origin : Origin)
  | free (prepost : ℤ) (object : ULong) (origin : Origin)
  | lockAllocator (mem : Alloc) (prepost : ℤ) (lock : ULong) (origin : Origin)
  | lockState (mem : Alloc) (prepost : ℤ) (lock : ULong) (origin : Origin) (lockType : LockType)
      (addThis : ℤ)
  | resetNew

/-- The calls, for a given way to reset the new objects. -/
def ObjectOp.exec (reset : GlobalState → GlobalState) (g : GlobalState) :
    ObjectOp → Except Fault GlobalState
  | allocator mem prepost object objectSize origin =>
      genericAllocator g mem prepost object objectSize origin
  | free prepost object origin => genericFree g prepost object origin
  | lockAllocator mem prepost lock origin => genericLockAllocator g mem prepost lock origin
  | lockState mem prepost lock origin lockType addThis =>
      genericLockState g mem prepost lock origin lockType addThis
  | resetNew => .ok (reset g)

/-- The specification of the reset: every object is visited, whatever happened before. -/
def clearNewObjects (g : GlobalState) : GlobalState :=
  { g with objs := g.objs.enumerate hashResetObjsState, objsDirty := 0 }

/-- No object in the table is new. -/
def NoneNew (g : GlobalState) : Prop := ∀ e ∈ g.objs.1.entries, e.v.newObject = 0

/-- **The invariant.**  A table with a new object is dirty. -/
def Settled (g : GlobalState) : Prop := g.objsDirty = 0 → NoneNew g

/-! ## The two resets -/

/-- A walk that changes no value changes nothing. -/
lemma hashtableEnumerate_of_fixed {κ ν : Type} {h : Hashtable κ ν} {enumKv : κ → ν → ν}
    (hfix : ∀ e ∈ h.entries, enumKv e.k e.v = e.v) : hashtableEnumerate h enumKv = h := by
  have htable : (fun i => if i < h.tablelength
      then (h.table i).map fun e => { e with v := enumKv e.k e.v } else h.table i) = h.table := by
    funext i
    split_ifs with hi
    · have hid : ∀ e ∈ h.table i, { e with v := enumKv e.k e.v } = e := by
        intro e he
        rw [hfix e (Buckets.mem_contents_iff.mpr ⟨i, hi, he⟩)]
      exact (List.map_congr_left hid).trans (List.map_id _)
    · rfl
  unfold hashtableEnumerate
  rw [htable]

lemma noneNew_clear (g : GlobalState) : NoneNew (clearNewObjects g) := by
  intro e he
  have hentries : (clearNewObjects g).objs.1.entries =
      g.objs.1.entries.map fun e => { e with v := hashResetObjsState e.k e.v } :=
    Hashtable.entries_enumerate g.objs.1 hashResetObjsState
  rw [hentries] at he
  obtain ⟨e', _, rfl⟩ := List.mem_map.mp he
  rfl

/-- Clearing where nothing is new, in a table that is not dirty, does nothing. -/
lemma clearNewObjects_of_noneNew {g : GlobalState} (hdirty : g.objsDirty = 0) (hnew : NoneNew g) :
    clearNewObjects g = g := by
  have henum : g.objs.enumerate hashResetObjsState = g.objs := by
    refine Subtype.ext (hashtableEnumerate_of_fixed fun e he => ?_)
    rw [hashResetObjsState, ← hnew e he]
  unfold clearNewObjects
  rw [henum, ← hdirty]

lemma resetNewObjects_eq {g : GlobalState} (hg : Settled g) :
    resetNewObjects g = clearNewObjects g := by
  unfold resetNewObjects
  split_ifs with hdirty
  · rfl
  · rw [not_not] at hdirty
    exact (clearNewObjects_of_noneNew hdirty (hg hdirty)).symm

lemma settled_initialized : Settled initializeDriverState := by
  intro _ e he
  have hempty : ObjTable.createTable.entries = [] := by
    have hcard := congrArg Multiset.card ObjTable.createTable_refines.entries
    rw [Multiset.coe_card, List.length_map] at hcard
    exact List.length_eq_zero_iff.mp hcard
  rw [initializeDriverState, ObjTable.create, hempty] at he
  exact absurd he (by simp)

/-! ## What the calls do to the table -/

/-- The table is dirty afterwards, or it is as dirty as before and no object became new. -/
def Settles (g g' : GlobalState) : Prop :=
  g'.objsDirty = 1 ∨ g'.objsDirty = g.objsDirty ∧
    ∀ e' ∈ g'.objs.1.entries, ∃ e ∈ g.objs.1.entries, e'.v.newObject = e.v.newObject

namespace Settles

lemma settled {g g' : GlobalState} (h : Settles g g') (hg : Settled g) : Settled g' := by
  intro hclean
  rcases h with hdirty | ⟨hsame, hentries⟩
  · rw [hdirty] at hclean
    cases hclean
  · intro e' he'
    obtain ⟨e, he, hnew⟩ := hentries e' he'
    rw [hnew]
    exact hg (hsame ▸ hclean) e he

lemma of_same {g g' : GlobalState} (hobjs : g'.objs = g.objs)
    (hdirty : g'.objsDirty = g.objsDirty) : Settles g g' := by
  refine Or.inr ⟨hdirty, fun e he => ?_⟩
  rw [hobjs] at he
  exact ⟨e, he, rfl⟩

lemma refl (g : GlobalState) : Settles g g := of_same rfl rfl

lemma trans {g₁ g₂ g₃ : GlobalState} (h : Settles g₁ g₂) (h' : Settles g₂ g₃) :
    Settles g₁ g₃ := by
  rcases h' with hdirty' | ⟨hsame', hentries'⟩
  · exact Or.inl hdirty'
  · rcases h with hdirty | ⟨hsame, hentries⟩
    · exact Or.inl (hsame'.trans hdirty)
    · refine Or.inr ⟨hsame'.trans hsame, fun e₃ he₃ => ?_⟩
      obtain ⟨e₂, he₂, hnew₂⟩ := hentries' e₃ he₃
      obtain ⟨e₁, he₁, hnew₁⟩ := hentries e₂ he₂
      exact ⟨e₁, he₁, hnew₂.trans hnew₁⟩

end Settles

lemma settles_insert {g g' : GlobalState} {mem : Alloc} {key : ULong} {value : HValue}
    (h : objsInsert g mem key value = .ok g') : Settles g g' := by
  obtain ⟨_, _, _, rfl⟩ := objsInsert_eq_ok.mp h
  exact Or.inl rfl

lemma settles_remove (g : GlobalState) (key : ULong) : Settles g (objsRemove g key).1 := by
  refine Or.inr ⟨rfl, fun e he => ?_⟩
  have hsub : (hashtableRemove g.objs.1 key).1.entries ⊆ g.objs.1.entries :=
    Hashtable.remove_entries_subset g.objs.2 key
  exact ⟨e, hsub he, rfl⟩

/-- Writing through the pointer of a search, with the flag left as it is. -/
lemma settles_modify {g : GlobalState} {key : ULong} {value value' : HValue}
    (hsearch : objsSearch g key = some value) (hnew : value'.newObject = value.newObject) :
    Settles g (objsModify g key fun _ => value') := by
  refine Or.inr ⟨rfl, fun e he => ?_⟩
  obtain ⟨e', he', rfl | rfl⟩ := Buckets.mem_contents_modifyFirst he
  · exact ⟨_, he', rfl⟩
  · obtain ⟨found, hfound, rfl⟩ := Hashtable.exists_of_search g.objs.2 hsearch
    exact ⟨found, hfound, hnew⟩

/-- The blocking contexts are kept outside the table. -/
lemma settles_lockKernelState {g g' : GlobalState} {origin : Origin} {t : LockType} {addThis : ℤ}
    (hadd : addThis = -1 ∨ addThis = 1) (h : lockKernelState g origin t addThis = .ok g') :
    Settles g g' := by
  rcases hadd with rfl | rfl
  · rcases lockKernelState_release h with ⟨_, rfl⟩ | ⟨_, hpop⟩
    · exact Settles.refl _
    · obtain ⟨_, rfl⟩ := popBlockingState_eq_ok.mp hpop
      exact Settles.of_same rfl rfl
  · rcases lockKernelState_acquire h with ⟨_, rfl⟩ | ⟨_, _, _, hpush⟩
    · exact Settles.refl _
    · obtain ⟨_, rfl⟩ := pushBlockingState_eq_ok.mp hpush
      exact Settles.of_same rfl rfl

lemma settles_allocator {g g' : GlobalState} {mem : Alloc} {prepost : ℤ}
    {object objectSize : ULong} {origin : Origin}
    (h : genericAllocator g mem prepost object objectSize origin = .ok g') : Settles g g' := by
  unfold genericAllocator at h
  split_ifs at h with hpre hpost hbogus
  · cases h
    exact Settles.refl _
  · obtain ⟨value, _, h⟩ := bind_eq_ok.mp h
    obtain ⟨key, _, h⟩ := bind_eq_ok.mp h
    obtain ⟨_, h⟩ := tfassert_bind_eq_ok.mp h
    obtain ⟨g₁, hinsert, h⟩ := bind_eq_ok.mp h
    obtain ⟨_, _, h⟩ := bind_eq_ok.mp h
    cases h
    exact settles_insert hinsert

lemma settles_free {g g' : GlobalState} {prepost : ℤ} {object : ULong} {origin : Origin}
    (h : genericFree g prepost object origin = .ok g') : Settles g g' := by
  unfold genericFree at h
  split_ifs at h with hpre hpost
  dsimp only at h
  cases hvalue : (objsRemove g object).2 with
  | none =>
      rw [hvalue] at h
      cases h
  | some value =>
      rw [hvalue] at h
      obtain ⟨_, h⟩ := tfassert_bind_eq_ok.mp h
      cases h
      exact settles_remove g object

/-- A record that is taken out is put back by an insertion, which makes the table dirty. -/
lemma settles_lockAllocator {g g' : GlobalState} {mem : Alloc} {prepost : ℤ} {lock : ULong}
    {origin : Origin} (h : genericLockAllocator g mem prepost lock origin = .ok g') :
    Settles g g' := by
  unfold genericLockAllocator at h
  split_ifs at h with hpre hpost
  · obtain ⟨_, h⟩ := tfassert_bind_eq_ok.mp h
    obtain ⟨key, _, h⟩ := bind_eq_ok.mp h
    obtain ⟨record, _, h⟩ := bind_eq_ok.mp h
    obtain ⟨g₁, hinsert, h⟩ := bind_eq_ok.mp h
    obtain ⟨_, h⟩ := tfassert_bind_eq_ok.mp h
    cases h
    obtain ⟨_, _, _, rfl⟩ := objsInsert_eq_ok.mp hinsert
    exact Or.inl rfl
  · cases h
    exact Settles.refl _

lemma settles_known {g g' : GlobalState} {prepost : ℤ} {lock : ULong} {value : HValue}
    {origin : Origin} {t : LockType} {addThis : ℤ} (hsearch : objsSearch g lock = some value)
    (h : genericLockStateKnown g prepost lock value origin t addThis = .ok g') :
    Settles g g' := by
  unfold genericLockStateKnown at h
  obtain ⟨_, h⟩ := tfassertDetail_bind_eq_ok.mp h
  split_ifs at h with hpre hunlock hlock hpost hunlock hlock
  · obtain ⟨_, h⟩ := tfassertDetail_bind_eq_ok.mp h
    obtain ⟨_, h⟩ := tfassertDetail_bind_eq_ok.mp h
    obtain ⟨_, _, h⟩ := bind_eq_ok.mp h
    refine (settles_modify hsearch ?_).trans (settles_lockKernelState (Or.inl hunlock) h)
    split_ifs <;> rfl
  · cases h
    exact Settles.refl _
  · cases h
    exact Settles.refl _
  · obtain ⟨_, h⟩ := tfassertDetail_bind_eq_ok.mp h
    obtain ⟨_, _, h⟩ := bind_eq_ok.mp h
    have hnew : (value.addLockState t addThis).newObject = value.newObject := rfl
    exact (settles_modify hsearch hnew).trans (settles_lockKernelState (Or.inr hlock) h)

lemma settles_lockState {g' : GlobalState} {mem : Alloc} {prepost : ℤ} {lock : ULong}
    {origin : Origin} {t : LockType} {addThis : ℤ} :
    ∀ {fuel : ℕ} {g : GlobalState},
      genericLockStateFuel fuel g mem prepost lock origin t addThis = .ok g' → Settles g g' := by
  intro fuel
  induction fuel with
  | zero =>
      intro g h
      cases h
  | succ fuel ih =>
      intro g h
      cases hsearch : objsSearch g lock with
      | some value =>
          rw [genericLockStateFuel_known g mem prepost lock origin t addThis hsearch] at h
          obtain ⟨_, h⟩ := tfassertDetail_bind_eq_ok.mp h
          exact settles_known hsearch h
      | none =>
          rw [genericLockStateFuel_unknown g mem prepost lock origin t addThis hsearch] at h
          obtain ⟨_, h⟩ := tfassertDetail_bind_eq_ok.mp h
          obtain ⟨g₁, halloc, h⟩ := bind_eq_ok.mp h
          exact (settles_lockAllocator halloc).trans (ih h)

/-- Every call keeps the invariant. -/
lemma settled_exec {g g' : GlobalState} {op : ObjectOp} (hg : Settled g)
    (h : op.exec resetNewObjects g = .ok g') : Settled g' := by
  cases op with
  | allocator mem prepost object objectSize origin => exact (settles_allocator h).settled hg
  | free prepost object origin => exact (settles_free h).settled hg
  | lockAllocator mem prepost lock origin => exact (settles_lockAllocator h).settled hg
  | lockState mem prepost lock origin t addThis => exact (settles_lockState h).settled hg
  | resetNew =>
      cases h
      rw [resetNewObjects_eq hg]
      exact fun _ => noneNew_clear g

/-- A call does the same under both resets. -/
lemma exec_reset_eq {g : GlobalState} (hg : Settled g) (op : ObjectOp) :
    op.exec resetNewObjects g = op.exec clearNewObjects g := by
  cases op with
  | resetNew => exact congrArg Except.ok (resetNewObjects_eq hg)
  | allocator _ _ _ _ _ => rfl
  | free _ _ _ => rfl
  | lockAllocator _ _ _ _ => rfl
  | lockState _ _ _ _ _ _ => rfl

/-! ## The whole framework -/

/-- What happens in the framework: the generated entries and exits, and the check routines, whose
body runs under the global lock. -/
inductive FrameworkEvent where
  | driver (e : DriverEvent)
  | check (ops : List ObjectOp)

def FrameworkEvent.exec (f : Framework) : FrameworkEvent → Except Fault Framework
  | driver e => e.exec f
  | check ops => f.locked fun f => do
      let g ← ops.foldlM (ObjectOp.exec resetNewObjects) f.test
      .ok { f with test := g }

/-- The framework when the driver is loaded, for given module parameters. -/
def Framework.initial (gSymRetval : ℤ) (gSymStartingFn : String) : Framework where
  lock := ⟨0⟩
  test := initializeDriverState
  driver := EnterExit.initial gSymRetval gSymStartingFn

/-- An exit that empties the call stack resets the new objects; any other leaves the tracker
alone. -/
lemma genExitDriver_test {f f' : Framework} {fn : String} {wrapperType : WrapperType}
    {retvalValid : ℤ} {retval : ULong} {symbolic : Bool}
    (h : genExitDriver f fn wrapperType retvalValid retval symbolic = .ok f') :
    f'.test = if f'.driver.driverCallStack = 0 then resetNewObjects f.test else f.test := by
  rw [genExitDriver] at h
  obtain ⟨_, f₁, hbody, rfl⟩ := locked_inv h
  obtain ⟨d₁, _, h⟩ := bind_eq_ok.mp hbody
  dsimp only at h
  obtain ⟨d₂, _, h⟩ := bind_eq_ok.mp h
  by_cases hzero : d₂.driverCallStack = 0
  · rw [if_pos hzero] at h
    obtain ⟨d₃, hd₃, h⟩ := bind_eq_ok.mp h
    cases h
    obtain ⟨⟨flags, rfl⟩, _⟩ := verifyRetval_eq_ok hd₃
    exact (if_pos hzero).symm
  · rw [if_neg hzero] at h
    cases h
    exact (if_neg hzero).symm

lemma genEnterDriver_test {f f' : Framework} {fn : String} {wrapperType : WrapperType}
    {retvalValid : ℤ} {retval : ULong}
    (h : genEnterDriver f fn wrapperType retvalValid retval = .ok f') : f'.test = f.test := by
  rw [genEnterDriver] at h
  obtain ⟨_, f₁, hbody, rfl⟩ := locked_inv h
  obtain ⟨d₁, _, h⟩ := bind_eq_ok.mp hbody
  obtain ⟨d₂, _, h⟩ := bind_eq_ok.mp h
  obtain ⟨d₃, _, h⟩ := bind_eq_ok.mp h
  cases h
  rfl

lemma genMakeSymbolicPtr_test {f f' : Framework} {origRetval value : ULong}
    (h : genMakeSymbolicPtr f origRetval value = .ok f') : f'.test = f.test := by
  rw [genMakeSymbolicPtr] at h
  by_cases hsym : f.driver.gSymRetval = 0
  · rw [if_pos hsym] at h
    cases h
    rfl
  · rw [if_neg hsym] at h
    obtain ⟨_, f₁, hbody, rfl⟩ := locked_inv h
    split_ifs at hbody
    · cases hbody
      rfl
    · cases hbody
      rfl

lemma genMakeSymbolicInt_test {f f' : Framework} {size origRetval value : ℕ}
    (h : genMakeSymbolicInt f size origRetval value = .ok f') : f'.test = f.test := by
  rw [genMakeSymbolicInt] at h
  by_cases hsym : f.driver.gSymRetval = 0
  · rw [if_pos hsym] at h
    cases h
    rfl
  · rw [if_neg hsym] at h
    obtain ⟨_, f₁, hbody, rfl⟩ := locked_inv h
    obtain ⟨_, hbody⟩ := tfassertDetail_bind_eq_ok.mp hbody
    dsimp only at hbody
    split_ifs at hbody
    · cases hbody
      rfl
    · cases hbody
      rfl

/-- Every event keeps the invariant. -/
lemma settled_event {f f' : Framework} {e : FrameworkEvent} (hf : Settled f.test)
    (h : e.exec f = .ok f') : Settled f'.test := by
  cases e with
  | check ops =>
      rw [FrameworkEvent.exec] at h
      obtain ⟨_, f₁, hbody, rfl⟩ := locked_inv h
      obtain ⟨g, hrun, hbody⟩ := bind_eq_ok.mp hbody
      cases hbody
      exact run_invariant (fun _ _ _ => settled_exec) ops hf hrun
  | driver e =>
      cases e with
      | exit fn wrapperType retvalValid retval symbolic =>
          rw [genExitDriver_test h]
          split_ifs
          · rw [resetNewObjects_eq hf]
            exact fun _ => noneNew_clear f.test
          · exact hf
      | enter fn wrapperType retvalValid retval =>
          rw [genEnterDriver_test h]
          exact hf
      | makeSymbolicPtr origRetval value =>
          rw [genMakeSymbolicPtr_test h]
          exact hf
      | makeSymbolicInt size origRetval value =>
          rw [genMakeSymbolicInt_test h]
          exact hf
      | annotation flags =>
          cases h
          exact hf

/-- **The short cut of `reset_new_objects`.**  A run of calls on the tracker is the same run when
every reset visits every object.  After an exit that leaves no driver function on the call stack,
whatever happened before, no object is new. -/
theorem reset_visits_enough :
    (∀ ops : List ObjectOp,
      ops.foldlM (ObjectOp.exec resetNewObjects) initializeDriverState =
        ops.foldlM (ObjectOp.exec clearNewObjects) initializeDriverState) ∧
    ∀ (gSymRetval : ℤ) (gSymStartingFn : String) (events : List FrameworkEvent) (f f' : Framework)
      (fn : String) (wrapperType : WrapperType) (retvalValid : ℤ) (retval : ULong)
      (symbolic : Bool),
      events.foldlM FrameworkEvent.exec (Framework.initial gSymRetval gSymStartingFn) = .ok f →
      genExitDriver f fn wrapperType retvalValid retval symbolic = .ok f' →
      f'.driver.driverCallStack = 0 → NoneNew f'.test := by
  refine ⟨fun ops => ?_, ?_⟩
  · exact run_congr (fun _ _ _ => settled_exec) (fun _ op hg => exec_reset_eq hg op) ops
      settled_initialized
  · intro gSymRetval gSymStartingFn events f f' fn wrapperType retvalValid retval symbolic hrun
      hexit hzero
    have hstep : ∀ (f : Framework) (e : FrameworkEvent) (f' : Framework),
        Settled f.test → e.exec f = .ok f' → Settled f'.test := fun _ _ _ => settled_event
    have hf : Settled f.test := run_invariant hstep events settled_initialized hrun
    rw [genExitDriver_test hexit, if_pos hzero, resetNewObjects_eq hf]
    exact noneNew_clear f.test

/-- `probe` is entered and allocates an object with `kmalloc`. -/
def probeEvents : List FrameworkEvent :=
  [.driver (.enter "probe" .prepostFn 0 0), .check [.allocator .succeeds 1 0xc0001000 64 1]]

/-- The object is not new any more when `probe` has returned. -/
theorem reset_visits_enough_probe : ∃ f f',
    probeEvents.foldlM FrameworkEvent.exec (Framework.initial 0 "") = .ok f ∧
      f.test.objsDirty = 1 ∧
      genExitDriver f "probe" .prepostFn 1 0 false = .ok f' ∧ f'.driver.driverCallStack = 0 ∧
      NoneNew f'.test := by
  refine ⟨_, _, rfl, rfl, rfl, rfl, ?_⟩
  exact reset_visits_enough.2 0 "" probeEvents _ _ "probe" .prepostFn 1 0 false rfl rfl rfl

end SymDrive

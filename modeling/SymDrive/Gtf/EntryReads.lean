import SymDrive.Gtf.Allocators
import SymDrive.Gtf.ObjectTracker

/-!
# What is read through the pointer of a search

`hashtable_search` returns the address of an entry, or NULL.  This file has the insertions of
`test_state.c` once more with every read through such a pointer written out, the printed fields of
the diagnostics included, which `TestState.lean` leaves out.  Both say the same (`objsInsert_eq`,
`assertAllocated_eq`, `genericAllocator_eq`), so that an absent entry is read exactly where the
condition of `absent_entry_read_iff` says.
-/

namespace SymDrive

open Checked

namespace EntryReads

/-- `entry->origin`, where `entry` is what a search returned. -/
def originAt (func : Func) : Option HValue → Except Fault Origin
  | some entry => .ok entry.origin
  | none => .error (.nullDeref func)

/-- `objs_insert`: the complaint about an object that is already present. -/
def alreadyPresent (result : Option HValue) : Except Fault Unit :=
  if result.isSome then do
    let _origin ← originAt .objsInsert result
    tfassert .objsInsert False
  else .ok ()

/-- `objs_insert`: the complaint about the size.  It prints the origin of `result`, not of
`value`. -/
def sizeIsInsane (result : Option HValue) (value : HValue) : Except Fault Unit :=
  if insaneSize value.size then do
    let _origin ← originAt .objsInsert result
    tfassert .objsInsert False
  else .ok ()

def objsInsert (g : GlobalState) (mem : Alloc) (key : ULong) (value : HValue) :
    Except Fault GlobalState := do
  let result := objsSearch g key
  alreadyPresent result
  sizeIsInsane result value
  let (objs, result2) := g.objs.insert key value mem.insert
  tfassertDetail .objsInsert (result2 ≠ 0) "Failed insert"
  .ok { g with objs := objs, objsDirty := 1 }

def assertAllocated (g : GlobalState) (origin : Origin) (object : ULong) : Except Fault Unit := do
  let onHeap := objsSearch g object
  if onHeap.isNone then tfassert .assertAllocated False
  else do
    let found ← originAt .assertAllocated onHeap
    tfassert .assertAllocated (found &&& origin ≠ 0)

/-- The complaint about an object that is already recorded prints the fields of the new record, not
of the entry. -/
def genericAllocator (g : GlobalState) (mem : Alloc) (prepost : ℤ) (object objectSize : ULong)
    (origin : Origin) : Except Fault GlobalState :=
  if prepost = 0 then
    .error (.assertion .genericAllocator
      "Only call generic_allocator along the post condition branch")
  else if prepost = 1 then
    if isErr object ∨ object = 0 then .ok g
    else do
      let value ← objsValue mem origin objectSize 1
      let key ← objsKeyPtr mem object
      let existingValue := objsSearch g key
      tfassert .genericAllocator (existingValue.isNone = true)
      let g ← objsInsert g mem key value
      assertAllocated g origin object
      .ok g
  else .error (.assertion .genericAllocator "")

/-! ## The same functions -/

theorem objsInsert_eq (g : GlobalState) (mem : Alloc) (key : ULong) (value : HValue) :
    objsInsert g mem key value = SymDrive.objsInsert g mem key value := by
  unfold objsInsert SymDrive.objsInsert
  dsimp only
  cases hsearch : objsSearch g key with
  | some entry => rfl
  | none =>
      rw [tfassert_of_true Option.isNone_none, ok_bind]
      by_cases hsize : insaneSize value.size
      · rw [ensure_of_false (not_not.mpr hsize), sizeIsInsane, if_pos hsize]
        rfl
      · rw [ensure_of_true hsize, sizeIsInsane, if_neg hsize]
        rfl

theorem assertAllocated_eq (g : GlobalState) (origin : Origin) (object : ULong) :
    assertAllocated g origin object = SymDrive.assertAllocated g origin object := by
  unfold assertAllocated SymDrive.assertAllocated
  dsimp only
  cases objsSearch g object with
  | some entry => rfl
  | none => rfl

theorem genericAllocator_eq (g : GlobalState) (mem : Alloc) (prepost : ℤ)
    (object objectSize : ULong) (origin : Origin) :
    genericAllocator g mem prepost object objectSize origin =
      SymDrive.genericAllocator g mem prepost object objectSize origin := by
  unfold genericAllocator SymDrive.genericAllocator
  simp only [objsInsert_eq, assertAllocated_eq]

/-! ## Reads of an absent entry -/

/-- The call goes through a pointer with which a search said that there is no entry. -/
def ReadsAbsent (x : Except Fault GlobalState) : Prop :=
  ∃ func, x = .error (.nullDeref func) ∧ (func = .objsInsert ∨ func = .assertAllocated)

lemma not_readsAbsent_ok (g : GlobalState) : ¬ ReadsAbsent (.ok g) := by
  rintro ⟨func, h, _⟩
  cases h

lemma not_readsAbsent_assertion {func : Func} {msg : String} :
    ¬ ReadsAbsent (.error (.assertion func msg)) := by
  rintro ⟨func', h, _⟩
  cases h

/-- An insertion reads an absent entry when it complains about the size of a new object. -/
lemma readsAbsent_objsInsert {g : GlobalState} {mem : Alloc} {key : ULong} {value : HValue} :
    ReadsAbsent (objsInsert g mem key value) ↔
      objsSearch g key = none ∧ insaneSize value.size := by
  rw [objsInsert_eq, SymDrive.objsInsert]
  cases hsearch : objsSearch g key with
  | some entry =>
      rw [tfassert_of_false (by simp), error_bind]
      exact iff_of_false not_readsAbsent_assertion (by simp)
  | none =>
      rw [tfassert_of_true Option.isNone_none, ok_bind]
      by_cases hsize : insaneSize value.size
      · rw [ensure_of_false (not_not.mpr hsize), error_bind]
        exact iff_of_true ⟨_, rfl, Or.inl rfl⟩ ⟨rfl, hsize⟩
      · rw [ensure_of_true hsize, ok_bind]
        refine iff_of_false ?_ fun h => hsize h.2
        dsimp only
        by_cases hinsert : (g.objs.insert key value mem.insert).2 = 0
        · rw [tfassertDetail_of_false (not_not.mpr hinsert), error_bind]
          exact not_readsAbsent_assertion
        · rw [tfassertDetail_of_true hinsert, ok_bind]
          exact not_readsAbsent_ok _

/-- The test of a recorded object only reads an entry it has found. -/
lemma not_readsAbsent_assertAllocated (g : GlobalState) (origin : Origin) (object : ULong) :
    ¬ ReadsAbsent (assertAllocated g origin object >>= fun _ => .ok g) := by
  rw [assertAllocated_eq, SymDrive.assertAllocated]
  cases objsSearch g object with
  | none => exact not_readsAbsent_assertion
  | some onHeap =>
      dsimp only
      by_cases horigin : onHeap.origin &&& origin ≠ 0
      · rw [tfassert_of_true horigin, ok_bind]
        exact not_readsAbsent_ok g
      · rw [tfassert_of_false horigin, error_bind]
        exact not_readsAbsent_assertion

/-- A successful insertion is followed by the test, a failed one ends the allocation. -/
lemma readsAbsent_inserted {g : GlobalState} {mem : Alloc} {key : ULong} {value : HValue}
    {origin : Origin} {object : ULong} :
    ReadsAbsent (objsInsert g mem key value >>= fun g =>
      assertAllocated g origin object >>= fun _ => .ok g) ↔
      ReadsAbsent (objsInsert g mem key value) := by
  cases objsInsert g mem key value with
  | error e => exact Iff.rfl
  | ok g' =>
      rw [ok_bind]
      exact iff_of_false (not_readsAbsent_assertAllocated g' origin object) (not_readsAbsent_ok g')

/-- When `generic_allocator` gets as far as the insertion with a size that `objs_insert` complains
about. -/
def ReportsSize (g : GlobalState) (mem : Alloc) (prepost : ℤ) (object objectSize : ULong) : Prop :=
  prepost = 1 ∧ ¬ (isErr object = true ∨ object = 0) ∧ mem.value = true ∧ mem.key = true ∧
    objsSearch g object = none ∧ insaneSize objectSize

lemma readsAbsent_genericAllocator {g : GlobalState} {mem : Alloc} {prepost : ℤ}
    {object objectSize : ULong} {origin : Origin} :
    ReadsAbsent (genericAllocator g mem prepost object objectSize origin) ↔
      ReportsSize g mem prepost object objectSize := by
  unfold genericAllocator ReportsSize
  split_ifs with hpre hpost hbogus
  · refine iff_of_false not_readsAbsent_assertion fun h => ?_
    rw [h.1] at hpre
    cases hpre
  · exact iff_of_false (not_readsAbsent_ok g) fun h => h.2.1 hbogus
  · rw [objsValue, objsKeyPtr, allocated, allocated]
    by_cases hvalue : mem.value = true
    · rw [ensure_of_true hvalue, ok_bind, ok_bind]
      by_cases hkey : mem.key = true
      · rw [ensure_of_true hkey, ok_bind, ok_bind]
        dsimp only
        by_cases hsearch : objsSearch g object = none
        · rw [hsearch, tfassert_of_true Option.isNone_none, ok_bind, readsAbsent_inserted,
            readsAbsent_objsInsert]
          exact ⟨fun h => ⟨hpost, hbogus, hvalue, hkey, rfl, h.2⟩, fun h => ⟨hsearch, h.2.2.2.2.2⟩⟩
        · rw [tfassert_of_false (by rwa [Option.isNone_iff_eq_none]), error_bind]
          exact iff_of_false not_readsAbsent_assertion fun h => hsearch h.2.2.2.2.1
      · rw [ensure_of_false hkey, error_bind]
        refine iff_of_false ?_ fun h => hkey h.2.2.2.1
        rintro ⟨func, h, rfl | rfl⟩ <;> cases h
    · rw [ensure_of_false hvalue, error_bind]
      refine iff_of_false ?_ fun h => hvalue h.2.2.1
      rintro ⟨func, h, rfl | rfl⟩ <;> cases h
  · exact iff_of_false not_readsAbsent_assertion fun h => hpost h.1

/-- **Absent entries.**  An insertion reads no absent entry iff the object is already in the table
or its size is not one that is complained about; `generic_allocator` reads none iff it does not get
to the insertion of a new object with such a size. -/
theorem absent_entry_read_iff (g : GlobalState) (mem : Alloc) (key : ULong) (value : HValue)
    (prepost : ℤ) (object objectSize : ULong) (origin : Origin) :
    (¬ ReadsAbsent (objsInsert g mem key value) ↔
      objsSearch g key ≠ none ∨ ¬ insaneSize value.size) ∧
    (¬ ReadsAbsent (genericAllocator g mem prepost object objectSize origin) ↔
      ¬ ReportsSize g mem prepost object objectSize) := by
  constructor
  · rw [readsAbsent_objsInsert, not_and_or]
  · rw [readsAbsent_genericAllocator]

/-- `kmalloc(0)`: the kernel returns the address 16, the check passes on the size 0. -/
theorem kmalloc_zero_reads_absent_entry :
    ¬ ∀ (g : GlobalState) (mem : Alloc) (object objectSize : ULong) (origin : Origin),
      ¬ ReadsAbsent (genericAllocator g mem 1 object objectSize origin) := by
  intro h
  have hunknown : objsSearch initializeDriverState 0x10 = none := by
    rw [objsSearch_eq tracks_initialized, Finmap.lookup_empty]
  refine h initializeDriverState Alloc.succeeds 0x10 0 originKmalloc ?_
  exact readsAbsent_genericAllocator.mpr ⟨rfl, by decide, rfl, rfl, hunknown, by decide⟩

end EntryReads

end SymDrive

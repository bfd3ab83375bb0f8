import SymDrive.Gtf.Framework

/-!
# The function tracker

`function_tracker.c`: the table that maps a function of the driver to its record, and through it to
the routine that checks its calls.  `gen_register_all` fills the table through `gen_register_one`,
a stub notes through `gen_convert_fn` what a function pointer is used for, and every generated body
asks through `gen_lookup_MJRcheck` for its check routine.

Which addresses a run of these functions has registered is a set.  `FunctionTracker.Registered t ks`
says that `ks` is the set of the addresses in the table; each function has one lemma that says what
it does to the set, and that the two assertions about the table hold.
-/

namespace SymDrive

open Checked

/-- `struct hvalue`. -/
structure FnValue where
  driverFnPtr : ULong
  wrapperFnPtr : ULong
  strDriverFn : String
  strWrapperFn : String
  str1 : String
  str2 : String

/-- `global_state`, and the lock its users take. -/
structure FunctionTracker where
  lock : GlobalLock
  objs : Hashtable ULong FnValue

/-- `create_hashtable(16, hash_from_key_fn, hash_keys_equal_fn)`. -/
def FunctionTracker.createTable : Hashtable ULong FnValue :=
  (createHashtable 16 hashFromKeyFn hashKeysEqualFn true true).get rfl

def initializeFunctionTracker : FunctionTracker where
  lock := ⟨0⟩
  objs := FunctionTracker.createTable

/-! ## The functions -/

/-- `objs_insert` of the function tracker. -/
def trackerObjsInsert (t : FunctionTracker) (mem : InsertMem) (key : ULong) (value : FnValue) :
    Except Fault FunctionTracker := do
  tfassertDetail .trackerObjsInsert (hashtableSearch t.objs key).isNone
    "Object already present in table!"
  let r := hashtableInsert t.objs key value mem
  tfassertDetail .trackerObjsInsert (r.2 ≠ 0) "Failed to insert into table"
  .ok { t with objs := r.1 }

def genRegisterOne (t : FunctionTracker) (mem : Alloc) (wrapperFn driverFn : ULong)
    (wrapperFnStr driverFnStr : String) : Except Fault FunctionTracker := do
  allocated .trackerObjsKeyPtr mem.key
  allocated .trackerObjsValue mem.value
  trackerObjsInsert t mem.insert driverFn
    { driverFnPtr := driverFn, wrapperFnPtr := wrapperFn, strDriverFn := driverFnStr,
      strWrapperFn := wrapperFnStr, str1 := "", str2 := "" }

/-- `gen_convert_fn`; `origFn` is what `orig_fn_ptr` points to. -/
def genConvertFn (t : FunctionTracker) (origFnPtr origFn : ULong) (str1 str2 : String) :
    Except Fault FunctionTracker :=
  if origFnPtr < 0xC0000000 ∨ origFnPtr > 0xFFFF0000 then .ok t
  else do
    let lock ← acquireGlobalLock t.lock
    let objs := match hashtableSearch t.objs origFn with
      | none => t.objs
      | some _ => hashtableModify t.objs origFn fun value =>
          { value with str1 := str1, str2 := str2 }
    let lock ← releaseGlobalLock lock
    .ok { lock := lock, objs := objs }

/-- The buffers for the names of check routines have 128 characters. -/
def fitsTemp (func : Func) (temp : String) : Except Fault Unit :=
  ensure (temp.utf8ByteSize < 128) (.outOfBounds func)

/-- What `symbol_lookup` finds is a parameter: NULL is 0. -/
def simpleLookupMJRcheck (symbolLookup : String → ULong) (value : FnValue) :
    Except Fault ULong := do
  let temp := value.strDriverFn ++ "_MJRcheck"
  fitsTemp .simpleLookupMJRcheck temp
  .ok (symbolLookup temp)

def complexLookupMJRcheck (symbolLookup : String → ULong) (value : FnValue) :
    Except Fault ULong :=
  if value.str1 ≠ "" ∧ value.str2 ≠ "" then do
    let temp := value.str1 ++ "_" ++ value.str2 ++ "_" ++ "MJRcheck"
    fitsTemp .complexLookupMJRcheck temp
    .ok (symbolLookup temp)
  else if (value.str1 ≠ "" ∧ value.str2 = "") ∨ (value.str1 = "" ∧ value.str2 ≠ "") then
    .error (.assertion .complexLookupMJRcheck "Unknown lookup_MJRcheck parameters")
  else simpleLookupMJRcheck symbolLookup value

/-- `wrapper_type[0] == '0' || wrapper_type[0] == '1'`. -/
def isStandardWrapper (wrapperType : String) : Bool :=
  wrapperType.toList.head? = some '0' || wrapperType.toList.head? = some '1'

/-- The branch of `gen_lookup_MJRcheck` on the type of the wrapper. -/
def lookupByWrapperType (symbolLookup : String → ULong) (wrapperType : String) (value : FnValue) :
    Except Fault ULong :=
  if isStandardWrapper wrapperType then complexLookupMJRcheck symbolLookup value
  else do
    let fnName := wrapperType ++ "_MJRcheck"
    fitsTemp .genLookupMJRcheck fnName
    .ok (symbolLookup fnName)

/-- `gen_lookup_MJRcheck`.  What it prints at the end reads the record. -/
def genLookupMJRcheck (t : FunctionTracker) (symbolLookup : String → ULong)
    (defaultMJRcheck : ULong) (wrapperType : String) (driverFnPtr : ULong) :
    Except Fault (ULong × FunctionTracker) := do
  let lock ← acquireGlobalLock t.lock
  let value := hashtableSearch t.objs driverFnPtr
  tfassertDetail .genLookupMJRcheck (¬ (value.isNone ∧ isStandardWrapper wrapperType))
    "gen_lookup_MJRcheck failed to lookup\n"
  match value with
  | none => do
      fitsTemp .genLookupMJRcheck (wrapperType ++ "_MJRcheck")
      .error (.nullDeref .genLookupMJRcheck)
  | some value => do
      let retval ← lookupByWrapperType symbolLookup wrapperType value
      let lock ← releaseGlobalLock lock
      .ok (if retval = 0 then defaultMJRcheck else retval, { t with lock := lock })

/-! ## The registered addresses -/

/-- The faults other than the two assertions about what is in the table. -/
def Fault.NotAboutRegistration (e : Fault) : Prop :=
  e ≠ .assertion .trackerObjsInsert "Object already present in table!" ∧
    e ≠ .assertion .genLookupMJRcheck "gen_lookup_MJRcheck failed to lookup\n"

/-- The lock is free, and `ks` are the addresses in the table. -/
def FunctionTracker.Registered (t : FunctionTracker) (ks : Set ULong) : Prop :=
  t.lock.globalLockAcquired = 0 ∧
    ∃ m : Finmap fun _ : ULong => FnValue, t.objs.Refines m ∧ ∀ k, k ∈ m ↔ k ∈ ks

lemma createTable_refines : FunctionTracker.createTable.Refines ∅ :=
  Hashtable.refines_create ObjTable.hashKeysEqualFn_iff (Option.some_get _).symm

lemma registered_initialize : initializeFunctionTracker.Registered ∅ :=
  ⟨rfl, ∅, createTable_refines, fun k => iff_of_false Finmap.notMem_empty (Set.notMem_empty k)⟩

lemma hashtableInsert_snd {κ ν : Type} (h : Hashtable κ ν) (k : κ) (v : ν) (mem : InsertMem) :
    (hashtableInsert h k v mem).2 = if mem.entry then -1 else 0 := by
  unfold hashtableInsert
  dsimp only
  split_ifs <;> rfl

section

variable {t : FunctionTracker} {ks : Set ULong}

/-- Registering a new address adds it, unless an allocation fails. -/
lemma genRegisterOne_outcome (ht : t.Registered ks) (mem : Alloc) (wrapperFn : ULong)
    {driverFn : ULong} (hnew : driverFn ∉ ks) (wrapperFnStr driverFnStr : String) :
    Outcome FunctionTracker.Registered Fault.NotAboutRegistration (insert driverFn ks)
      (genRegisterOne t mem wrapperFn driverFn wrapperFnStr driverFnStr) := by
  obtain ⟨hlock, m, hm, hkeys⟩ := ht
  have hkey : driverFn ∉ m := fun h => hnew ((hkeys _).mp h)
  unfold genRegisterOne trackerObjsInsert
  refine Outcome.ensure_bind ⟨by simp, by simp⟩ fun _ => ?_
  refine Outcome.ensure_bind ⟨by simp, by simp⟩ fun _ => ?_
  rw [Hashtable.hashtableSearch_eq hm, Finmap.lookup_eq_none.mpr hkey,
    tfassertDetail_of_true Option.isNone_none, ok_bind]
  refine Outcome.ensure_bind ⟨by decide, by decide⟩ fun hinsert => ?_
  have hentry : mem.insert.entry = true := by
    rw [hashtableInsert_snd] at hinsert
    by_contra hentry
    exact hinsert (if_neg hentry)
  refine ⟨hlock, _, Hashtable.refines_insert hm hkey _ hentry, fun k => ?_⟩
  rw [Finmap.mem_insert, hkeys, Set.mem_insert_iff]

/-- Noting what a function is used for registers nothing. -/
lemma genConvertFn_outcome (ht : t.Registered ks) (origFnPtr origFn : ULong) (str1 str2 : String) :
    Outcome FunctionTracker.Registered Fault.NotAboutRegistration ks
      (genConvertFn t origFnPtr origFn str1 str2) := by
  obtain ⟨hlock, m, hm, hkeys⟩ := ht
  unfold genConvertFn
  split_ifs with hptr
  · exact ⟨hlock, m, hm, hkeys⟩
  · rw [acquireGlobalLock_eq_ok.mpr ⟨hlock, rfl⟩, ok_bind,
      releaseGlobalLock_eq_ok.mpr ⟨rfl, rfl⟩, ok_bind, Hashtable.hashtableSearch_eq hm]
    refine ⟨rfl, ?_⟩
    cases hlook : m.lookup origFn with
    | none => exact ⟨m, hm, hkeys⟩
    | some value =>
        have hmod := Hashtable.refines_modify hm hlook fun value =>
          { value with str1 := str1, str2 := str2 }
        refine ⟨_, hmod, fun k => ?_⟩
        rw [Finmap.mem_insert, hkeys]
        refine or_iff_right_of_imp ?_
        rintro rfl
        exact (hkeys _).mp (Finmap.mem_of_lookup_eq_some hlook)

lemma faultsIn_fitsTemp (func : Func) (temp : String) :
    FaultsIn Fault.NotAboutRegistration (fitsTemp func temp) :=
  faultsIn_ensure ⟨by simp, by simp⟩

lemma faultsIn_complexLookupMJRcheck (symbolLookup : String → ULong) (value : FnValue) :
    FaultsIn Fault.NotAboutRegistration (complexLookupMJRcheck symbolLookup value) := by
  unfold complexLookupMJRcheck simpleLookupMJRcheck
  split_ifs with hboth hone
  · exact (faultsIn_fitsTemp _ _).bind fun _ _ => faultsIn_ok _
  · exact faultsIn_error.mpr ⟨by simp, by simp⟩
  · exact (faultsIn_fitsTemp _ _).bind fun _ _ => faultsIn_ok _

lemma faultsIn_lookupByWrapperType (symbolLookup : String → ULong) (wrapperType : String)
    (value : FnValue) :
    FaultsIn Fault.NotAboutRegistration (lookupByWrapperType symbolLookup wrapperType value) := by
  unfold lookupByWrapperType
  split_ifs with hstandard
  · exact faultsIn_complexLookupMJRcheck symbolLookup value
  · exact (faultsIn_fitsTemp _ _).bind fun _ _ => faultsIn_ok _

/-- Looking up a registered function finds its record and leaves the table alone. -/
lemma genLookupMJRcheck_outcome (ht : t.Registered ks) (symbolLookup : String → ULong)
    (defaultMJRcheck : ULong) (wrapperType : String) {driverFnPtr : ULong}
    (hmem : driverFnPtr ∈ ks) :
    Outcome (fun r => FunctionTracker.Registered r.2) Fault.NotAboutRegistration ks
      (genLookupMJRcheck t symbolLookup defaultMJRcheck wrapperType driverFnPtr) := by
  obtain ⟨hlock, m, hm, hkeys⟩ := ht
  obtain ⟨value, hvalue⟩ := Finmap.mem_iff.mp ((hkeys _).mpr hmem)
  unfold genLookupMJRcheck
  rw [acquireGlobalLock_eq_ok.mpr ⟨hlock, rfl⟩, ok_bind, Hashtable.hashtableSearch_eq hm, hvalue]
  dsimp only
  rw [tfassertDetail_of_true (by simp), ok_bind, releaseGlobalLock_eq_ok.mpr ⟨rfl, rfl⟩]
  refine Outcome.of_faultsIn ?_ ?_
  · exact (faultsIn_lookupByWrapperType symbolLookup wrapperType value).bind fun _ _ =>
      faultsIn_ok _
  · intro r hr
    obtain ⟨retval, _, hr⟩ := bind_eq_ok.mp hr
    cases hr
    exact ⟨rfl, m, hm, hkeys⟩

end

end SymDrive

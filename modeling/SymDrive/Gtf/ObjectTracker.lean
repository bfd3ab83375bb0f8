import SymDrive.Gtf.TestState

/-!
# The object tracker is a finite map

The abstract state of the tracker is `Tracked`, a finite map from addresses to records.
`GlobalState.Tracks g m` connects a state to it through the refinement of the hash table, and each
operation on the table has one lemma that says what it does to the map.  On top of these,
`generic_allocator` and `generic_free` accept exactly the calls that make sense for the live
addresses (`tracker_accepts_exactly`).
-/

namespace SymDrive

/-- What the tracker knows: the live addresses and their records. -/
abbrev Tracked := Finmap fun _ : ULong => HValue

/-- The table of `g` holds exactly the records of `m`. -/
def GlobalState.Tracks (g : GlobalState) (m : Tracked) : Prop := g.objs.1.Refines m

/-! ## The operations on the table -/

theorem tracks_initialized : initializeDriverState.Tracks ∅ := ObjTable.createTable_refines

lemma objsSearch_eq {g : GlobalState} {m : Tracked} (hm : g.Tracks m) (key : ULong) :
    objsSearch g key = m.lookup key :=
  Hashtable.hashtableSearch_eq hm key

/-- The table determines the map. -/
lemma GlobalState.Tracks.unique {g : GlobalState} {m m' : Tracked} (hm : g.Tracks m)
    (hm' : g.Tracks m') : m = m' :=
  Finmap.ext_lookup fun key => by rw [← objsSearch_eq hm, objsSearch_eq hm']

lemma freeDriverState_eq {g : GlobalState} {m : Tracked} (hm : g.Tracks m) :
    freeDriverState g = UInt32.ofNat m.keys.card :=
  hm.count

/-- The state after a successful `objs_insert`. -/
def objsInserted (g : GlobalState) (mem : Alloc) (key : ULong) (value : HValue) : GlobalState :=
  { g with objs := (g.objs.insert key value mem.insert).1, objsDirty := 1 }

lemma insert_result (t : ObjTable) (key : ULong) (value : HValue) (mem : InsertMem) :
    (t.insert key value mem).2 = if mem.entry then -1 else 0 := by
  unfold ObjTable.insert hashtableInsert
  dsimp only
  split_ifs <;> rfl

lemma objsInsert_eq_ok {g g' : GlobalState} {mem : Alloc} {key : ULong} {value : HValue} :
    objsInsert g mem key value = .ok g' ↔
      objsSearch g key = none ∧ ¬ insaneSize value.size ∧ mem.insert.entry = true ∧
        g' = objsInserted g mem key value := by
  unfold objsInsert
  rw [tfassert_bind_eq_ok, Checked.ensure_bind_eq_ok, Option.isNone_iff_eq_none]
  dsimp only
  rw [tfassertDetail_bind_eq_ok, insert_result]
  refine and_congr_right fun _ => and_congr_right fun _ => and_congr ?_ ?_
  · cases mem.insert.entry <;> simp
  · rw [Except.ok.injEq]
    exact eq_comm

lemma tracks_inserted {g : GlobalState} {m : Tracked} (hm : g.Tracks m) {key : ULong}
    (hkey : key ∉ m) (value : HValue) {mem : Alloc} (hmem : mem.insert.entry = true) :
    (objsInserted g mem key value).Tracks (m.insert key value) :=
  Hashtable.refines_insert hm hkey value hmem

/-- Whatever the table, the record just inserted is found. -/
lemma objsSearch_inserted (g : GlobalState) {mem : Alloc} (key : ULong) (value : HValue)
    (hmem : mem.insert.entry = true) : objsSearch (objsInserted g mem key value) key = some value :=
  Hashtable.search_insert g.objs.2 key value hmem

lemma objsRemove_snd (g : GlobalState) (key : ULong) : (objsRemove g key).2 = objsSearch g key :=
  Hashtable.remove_snd g.objs.1 key

lemma tracks_removed {g : GlobalState} {m : Tracked} (hm : g.Tracks m) (key : ULong) :
    (objsRemove g key).1.Tracks (m.erase key) :=
  Hashtable.refines_remove hm key

lemma tracks_modified {g : GlobalState} {m : Tracked} (hm : g.Tracks m) {key : ULong}
    {value : HValue} (hkey : m.lookup key = some value) (f : HValue → HValue) :
    (objsModify g key f).Tracks (m.insert key (f value)) :=
  Hashtable.refines_modify hm hkey f

/-! ## Allocations and frees -/

/-- The calls the rest of the framework makes on the object tracker. -/
inductive TrackerCall where
  | allocator (object objectSize : ULong) (origin : Origin)
  | free (object : ULong) (origin : Origin)

namespace TrackerCall

/-- An allocation is recorded with an origin and with a size in the expected range. -/
def WellFormed : TrackerCall → Prop
  | allocator _ objectSize origin =>
      origin ≠ 0 ∧ (1 ≤ objectSize ∧ objectSize ≤ 10000000 ∨ objectSize = 0 - 1)
  | free _ _ => True

/-- What the framework does: the postcondition of an allocation, the precondition of a free. -/
def exec (g : GlobalState) : TrackerCall → Except Fault GlobalState
  | allocator object objectSize origin =>
      genericAllocator g Alloc.succeeds 1 object objectSize origin
  | free object origin => genericFree g 0 object origin

/-- **The specification.**  An address that is neither NULL nor an error pointer must not be
live already when it is allocated; a freed address must be live, with an origin in common. -/
def Acceptable (m : Tracked) : TrackerCall → Prop
  | allocator object _ _ => isErr object = false → object ≠ 0 → object ∉ m
  | free object origin => ∃ value, m.lookup object = some value ∧ value.origin &&& origin ≠ 0

/-- The live addresses after a call. -/
def after (m : Tracked) : TrackerCall → Tracked
  | allocator object objectSize origin =>
      if isErr object ∨ object = 0 then m
      else m.insert object (HValue.fresh origin objectSize 1)
  | free object _ => m.erase object

end TrackerCall

/-- The live addresses after a sequence of calls. -/
def live (m : Tracked) (calls : List TrackerCall) : Tracked := calls.foldl TrackerCall.after m

/-- Every call is acceptable at its moment. -/
def AllAcceptable : Tracked → List TrackerCall → Prop :=
  Checked.Along TrackerCall.after TrackerCall.Acceptable

/-- The run of the framework over a sequence of calls. -/
def runTracker (g : GlobalState) (calls : List TrackerCall) : Except Fault GlobalState :=
  calls.foldlM TrackerCall.exec g

/-! ## Exact acceptance -/

lemma sane_of_range {size : ULong} (h : 1 ≤ size ∧ size ≤ 10000000 ∨ size = 0 - 1) :
    ¬ insaneSize size := by
  unfold insaneSize
  rintro ⟨hrange, hne⟩
  rcases h with ⟨hlo, hhi⟩ | h
  · rcases hrange with rfl | hgt
    · exact absurd hlo (by decide)
    · exact absurd hhi (UInt32.not_le.mpr hgt)
  · exact hne h

/-- What `generic_allocator` does on its postcondition branch when no allocation fails. -/
lemma genericAllocator_eq (g : GlobalState) {object objectSize : ULong} {origin : Origin}
    (horigin : origin ≠ 0) (hsize : ¬ insaneSize objectSize) :
    genericAllocator g Alloc.succeeds 1 object objectSize origin =
      if isErr object ∨ object = 0 then .ok g
      else if objsSearch g object = none then
        .ok (objsInserted g Alloc.succeeds object (HValue.fresh origin objectSize 1))
      else .error (.assertion .genericAllocator "") := by
  unfold genericAllocator
  rw [if_neg (by decide), if_pos rfl]
  refine if_congr Iff.rfl rfl ?_
  have hvalue : objsValue Alloc.succeeds origin objectSize 1 =
      .ok (HValue.fresh origin objectSize 1) := rfl
  have hkey : objsKeyPtr Alloc.succeeds object = .ok object := rfl
  rw [hvalue, Checked.ok_bind, hkey, Checked.ok_bind]
  by_cases hsearch : objsSearch g object = none
  · have hins : objsInsert g Alloc.succeeds object (HValue.fresh origin objectSize 1) =
        .ok (objsInserted g Alloc.succeeds object (HValue.fresh origin objectSize 1)) :=
      objsInsert_eq_ok.mpr ⟨hsearch, hsize, rfl, rfl⟩
    have hallocated : assertAllocated
        (objsInserted g Alloc.succeeds object (HValue.fresh origin objectSize 1)) origin object =
          .ok () := by
      rw [assertAllocated, objsSearch_inserted g object _ rfl]
      exact tfassert_of_true (by simpa [HValue.fresh] using horigin)
    rw [if_pos hsearch, hsearch, tfassert_of_true Option.isNone_none, Checked.ok_bind, hins,
      Checked.ok_bind, hallocated, Checked.ok_bind]
  · rw [if_neg hsearch, tfassert_of_false (by rwa [Option.isNone_iff_eq_none]),
      Checked.error_bind]

/-- The allocations that have to succeed for an object to be recorded: all but the larger array of
an expansion. -/
def Alloc.Suffices (mem : Alloc) : Prop :=
  mem.value = true ∧ mem.key = true ∧ mem.insert.entry = true

lemma Alloc.succeeds_suffices : Alloc.succeeds.Suffices := ⟨rfl, rfl, rfl⟩

/-- An address that cannot be told from a failed allocation is not recorded. -/
lemma genericAllocator_of_bogus (g : GlobalState) (mem : Alloc) {object : ULong}
    (h : isErr object = true ∨ object = 0) (objectSize : ULong) (origin : Origin) :
    genericAllocator g mem 1 object objectSize origin = .ok g := by
  unfold genericAllocator
  rw [if_neg (by decide), if_pos rfl, if_pos h]

/-- When `generic_allocator` records an object on its postcondition branch. -/
lemma genericAllocator_eq_ok {g g' : GlobalState} {mem : Alloc} {object objectSize : ULong}
    {origin : Origin} (h : ¬ (isErr object = true ∨ object = 0)) :
    genericAllocator g mem 1 object objectSize origin = .ok g' ↔
      objsSearch g object = none ∧ ¬ insaneSize objectSize ∧ origin ≠ 0 ∧ mem.Suffices ∧
        g' = objsInserted g mem object (HValue.fresh origin objectSize 1) := by
  unfold genericAllocator
  rw [if_neg (by decide), if_pos rfl, if_neg h, Alloc.Suffices]
  constructor
  · intro hrun
    obtain ⟨value, hvalue, hrun⟩ := Checked.bind_eq_ok.mp hrun
    obtain ⟨hmvalue, hvalue⟩ := Checked.ensure_bind_eq_ok.mp hvalue
    cases hvalue
    obtain ⟨key, hkey, hrun⟩ := Checked.bind_eq_ok.mp hrun
    obtain ⟨hmkey, hkey⟩ := Checked.ensure_bind_eq_ok.mp hkey
    cases hkey
    obtain ⟨hsearch, hrun⟩ := tfassert_bind_eq_ok.mp hrun
    obtain ⟨g₁, hins, hrun⟩ := Checked.bind_eq_ok.mp hrun
    obtain ⟨_, hsize, hentry, rfl⟩ := objsInsert_eq_ok.mp hins
    obtain ⟨_, halloc, hrun⟩ := Checked.bind_eq_ok.mp hrun
    cases hrun
    rw [assertAllocated, objsSearch_inserted g object _ hentry] at halloc
    have horigin := Checked.ensure_eq_ok.mp halloc
    rw [HValue.fresh, UInt32.and_self] at horigin
    exact ⟨Option.isNone_iff_eq_none.mp hsearch, hsize, horigin, ⟨hmvalue, hmkey, hentry⟩, rfl⟩
  · rintro ⟨hsearch, hsize, horigin, ⟨hmvalue, hmkey, hentry⟩, rfl⟩
    have hins : objsInsert g mem object (HValue.fresh origin objectSize 1) =
        .ok (objsInserted g mem object (HValue.fresh origin objectSize 1)) :=
      objsInsert_eq_ok.mpr ⟨hsearch, hsize, hentry, rfl⟩
    have halloc : assertAllocated (objsInserted g mem object (HValue.fresh origin objectSize 1))
        origin object = .ok () := by
      rw [assertAllocated, objsSearch_inserted g object _ hentry]
      exact tfassert_of_true (by rwa [HValue.fresh, UInt32.and_self])
    rw [objsValue, hmvalue, allocated, Checked.ensure_of_true rfl, Checked.ok_bind, Checked.ok_bind,
      objsKeyPtr, hmkey, allocated, Checked.ensure_of_true rfl, Checked.ok_bind, Checked.ok_bind,
      tfassert_of_true (Option.isNone_iff_eq_none.mpr hsearch), Checked.ok_bind]
    rw [hins, Checked.ok_bind, halloc, Checked.ok_bind]

/-- What `generic_free` does on its precondition branch. -/
lemma genericFree_eq (g : GlobalState) (object : ULong) (origin : Origin) :
    genericFree g 0 object origin =
      match objsSearch g object with
      | some value =>
          if value.origin &&& origin ≠ 0 then .ok (objsRemove g object).1
          else .error (.assertion .genericFree "")
      | none => .error (.assertion .genericFree
          (s!"Freeing something that we never allocated! Obj {pointerText object} " ++
            s!"origin {origin}\n")) := by
  unfold genericFree
  rw [if_pos rfl]
  dsimp only
  rw [objsRemove_snd]
  cases objsSearch g object with
  | none => rfl
  | some value =>
      by_cases h : value.origin &&& origin ≠ 0
      · simp [h]
      · simp [h]

namespace TrackerCall

/-- An acceptable call goes through and does to the map what the specification says. -/
lemma exec_of_acceptable (g : GlobalState) (m : Tracked) (c : TrackerCall) (hm : g.Tracks m)
    (hc : c.WellFormed) (hacc : c.Acceptable m) :
    ∃ g', exec g c = .ok g' ∧ g'.Tracks (c.after m) := by
  cases c with
  | allocator object objectSize origin =>
      obtain ⟨horigin, hrange⟩ := hc
      rw [exec, after, genericAllocator_eq g horigin (sane_of_range hrange)]
      by_cases hbogus : isErr object = true ∨ object = 0
      · rw [if_pos hbogus, if_pos hbogus]
        exact ⟨g, rfl, hm⟩
      · rw [if_neg hbogus, if_neg hbogus]
        rw [not_or, Bool.not_eq_true] at hbogus
        have hnew := hacc hbogus.1 hbogus.2
        rw [if_pos (by rw [objsSearch_eq hm, Finmap.lookup_eq_none.mpr hnew])]
        exact ⟨_, rfl, tracks_inserted hm hnew _ rfl⟩
  | free object origin =>
      obtain ⟨value, hvalue, hbits⟩ := hacc
      rw [exec, after, genericFree_eq, objsSearch_eq hm, hvalue]
      dsimp only
      rw [if_pos hbits]
      exact ⟨_, rfl, tracks_removed hm object⟩

/-- An unacceptable call fails an assertion. -/
lemma exec_of_not_acceptable (g : GlobalState) (m : Tracked) (c : TrackerCall) (hm : g.Tracks m)
    (hc : c.WellFormed) (hacc : ¬ c.Acceptable m) :
    ∃ e, exec g c = .error e ∧ e.IsAssertion := by
  cases c with
  | allocator object objectSize origin =>
      obtain ⟨horigin, hrange⟩ := hc
      unfold Acceptable at hacc
      push Not at hacc
      obtain ⟨herr, hnull, hlive⟩ := hacc
      have hsearch : objsSearch g object ≠ none := by
        rw [objsSearch_eq hm]
        exact fun h => Finmap.lookup_eq_none.mp h hlive
      rw [exec, genericAllocator_eq g horigin (sane_of_range hrange),
        if_neg (by simp [herr, hnull]), if_neg hsearch]
      exact ⟨_, rfl, trivial⟩
  | free object origin =>
      rw [exec, genericFree_eq, objsSearch_eq hm]
      cases hvalue : m.lookup object with
      | none => exact ⟨_, rfl, trivial⟩
      | some value =>
          have hbits : ¬ value.origin &&& origin ≠ 0 := fun h => hacc ⟨value, hvalue, h⟩
          dsimp only
          rw [if_neg hbits]
          exact ⟨_, rfl, trivial⟩

end TrackerCall

/-- NULL is never live: `generic_allocator` does not record it. -/
lemma live_not_null :
    ∀ (calls : List TrackerCall) {m : Tracked}, (0 : ULong) ∉ m → (0 : ULong) ∉ live m calls := by
  intro calls
  induction calls with
  | nil => exact fun h => h
  | cons c calls ih =>
      intro m hm
      refine ih ?_
      cases c with
      | allocator object objectSize origin =>
          rw [TrackerCall.after]
          split_ifs with h
          · exact hm
          · rw [Finmap.mem_insert, not_or]
            exact ⟨fun h0 => h (Or.inr h0.symm), hm⟩
      | free object origin =>
          rw [TrackerCall.after, Finmap.mem_erase]
          exact fun h => hm h.2

/-- There are fewer live addresses than machine words, so the count does not wrap. -/
lemma card_keys_lt {m : Tracked} (hm : (0 : ULong) ∉ m) : m.keys.card < 2 ^ 32 := by
  have hsub : m.keys.image UInt32.toNat ⊆ (Finset.range (2 ^ 32)).erase 0 := by
    intro n hn
    obtain ⟨key, hkey, rfl⟩ := Finset.mem_image.mp hn
    rw [Finset.mem_erase, Finset.mem_range]
    refine ⟨fun h0 => ?_, key.toNat_lt⟩
    have hkey0 : key = 0 := UInt32.toNat_inj.mp h0
    rw [hkey0] at hkey
    exact hm (Finmap.mem_keys.mp hkey)
  have hcard := Finset.card_le_card hsub
  rw [Finset.card_image_of_injective _ fun _ _ => UInt32.toNat_inj.mp,
    Finset.card_erase_of_mem (Finset.mem_range.mpr (Nat.two_pow_pos 32)), Finset.card_range]
    at hcard
  omega

/-- **Exact acceptance of the object tracker.**  For every sequence of allocations and frees, a
run of the framework goes through iff every call is acceptable at its moment; a run that does not
go through fails an assertion.  Along a run that goes through, a search answers as the map of
live addresses does and the reported count is the number of live addresses. -/
theorem tracker_accepts_exactly (calls : List TrackerCall) (g : GlobalState) (m : Tracked)
    (hm : g.Tracks m) (hnull : (0 : ULong) ∉ m) (hwf : ∀ c ∈ calls, c.WellFormed) :
    ((∃ g', runTracker g calls = .ok g') ↔ AllAcceptable m calls) ∧
    (∀ e, runTracker g calls = .error e → e.IsAssertion) ∧
    ∀ g', runTracker g calls = .ok g' →
      (∀ key, objsSearch g' key = (live m calls).lookup key) ∧
      (freeDriverState g').toNat = (live m calls).keys.card := by
  by_cases hacc : AllAcceptable m calls
  · obtain ⟨g₁, hrun, hm₁⟩ :=
      Checked.Along.run_ok TrackerCall.exec_of_acceptable calls hm hwf hacc
    change runTracker g calls = .ok g₁ at hrun
    refine ⟨⟨fun _ => hacc, fun _ => ⟨g₁, hrun⟩⟩, ?_, ?_⟩
    · intro e he
      rw [hrun] at he
      cases he
    · intro g' hg'
      rw [hrun] at hg'
      cases hg'
      refine ⟨objsSearch_eq hm₁, ?_⟩
      rw [freeDriverState_eq hm₁]
      exact UInt32.toNat_ofNat_of_lt' (card_keys_lt (live_not_null calls hnull))
  · obtain ⟨e, hrun, he⟩ := Checked.Along.run_error TrackerCall.exec_of_acceptable
      TrackerCall.exec_of_not_acceptable calls hm hwf hacc
    change runTracker g calls = .error e at hrun
    refine ⟨⟨?_, fun h => absurd h hacc⟩, ?_, ?_⟩
    · rintro ⟨g', hg'⟩
      rw [hrun] at hg'
      cases hg'
    · intro e' he'
      rw [hrun] at he'
      cases he'
      exact he
    · intro g' hg'
      rw [hrun] at hg'
      cases hg'

theorem tracker_accepts_kmalloc_kfree :
    ∃ g', runTracker initializeDriverState [.allocator 0xc0001000 64 1, .free 0xc0001000 1] =
      .ok g' := by
  refine (tracker_accepts_exactly [.allocator 0xc0001000 64 1, .free 0xc0001000 1] _ ∅
    tracks_initialized Finmap.notMem_empty ?_).1.mpr ⟨?_, ?_, trivial⟩
  · intro c hc
    simp only [List.mem_cons, List.not_mem_nil, or_false] at hc
    rcases hc with rfl | rfl
    · exact ⟨by decide, Or.inl (by decide)⟩
    · trivial
  · exact fun _ _ => Finmap.notMem_empty
  · refine ⟨HValue.fresh 1 64 1, ?_, by decide⟩
    rw [TrackerCall.after, if_neg (by decide), Finmap.lookup_insert]

end SymDrive

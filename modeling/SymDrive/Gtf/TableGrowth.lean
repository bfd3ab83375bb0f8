import SymDrive.Library.Checked
import SymDrive.Gtf.ObjectTracker

/-!
# The growth of the hash table

`hashtable_expand` moves the table to the next prime.  It takes the next prime index before it asks
for the memory, and when there is none the index stays where it is: the table keeps its length but
has lost a size, and every further failure loses one more.

`Hashtable.Consistent` says what should hold between operations.  `table_growth_iff` says which runs
keep it and undo their failed expansions: those in which no expansion fails for want of memory.
-/

namespace SymDrive

open Checked

variable {κ ν : Type}

/-! ## Runs of operations -/

/-- An operation on the table, with the allocations of its moment. -/
inductive TableOp (κ ν : Type) where
  | insert (k : κ) (v : ν) (mem : InsertMem)
  | remove (k : κ)

def TableOp.exec (h : Hashtable κ ν) : TableOp κ ν → Hashtable κ ν
  | insert k v mem => (hashtableInsert h k v mem).1
  | remove k => (hashtableRemove h k).1

namespace Hashtable

/-- The length and the load limit are those of the prime index, and every entry stands in the bucket
of its cached hash. -/
structure Sized (h : Hashtable κ ν) : Prop where
  primeindex_lt : h.primeindex < primeTableLength
  tablelength_eq : h.tablelength = primes.getD h.primeindex 0
  loadlimit_eq : h.loadlimit = h.tablelength / 2
  placed : Buckets.Placed h.bucketOf h.tablelength h.table

/-- **The invariant**, between operations: the sizes are right, and the entries are counted. -/
structure Consistent (h : Hashtable κ ν) : Prop extends Sized h where
  entrycount_eq : h.entrycount.toNat = h.entries.length

/-- The table on which an insertion calls `hashtable_expand`: the new entry is counted. -/
def counted (h : Hashtable κ ν) : Hashtable κ ν := { h with entrycount := h.entrycount + 1 }

/-- The insertion of one more entry passes the load limit. -/
def Expands (h : Hashtable κ ν) : Prop := h.loadlimit < h.counted.entrycount.toNat

end Hashtable

namespace TableOp

/-- If the expansion an insertion calls reports a failure, it leaves the table as it was. -/
def FailureRestores (h : Hashtable κ ν) : TableOp κ ν → Prop
  | insert _ _ mem => h.Expands → (hashtableExpand h.counted mem.newtable).2 = 0 →
      (hashtableExpand h.counted mem.newtable).1 = h.counted
  | remove _ => True

/-- **The specification** of one operation: the invariant holds after it, and a failed expansion did
nothing. -/
def Sound (h : Hashtable κ ν) (op : TableOp κ ν) : Prop :=
  op.FailureRestores h ∧ (op.exec h).Consistent

/-- **The condition**: the memory for a larger table is there when it is asked for, and the number
of entries fits its 32-bit counter. -/
def Safe (h : Hashtable κ ν) : TableOp κ ν → Prop
  | insert _ _ mem =>
      (h.Expands → h.primeindex ≠ primeTableLength - 1 → mem.newtable = true) ∧
        (mem.entry = true → h.entrycount ≠ 0 - 1)
  | remove _ => True

end TableOp

/-! ## Expansions -/

namespace Hashtable

variable {h : Hashtable κ ν}

lemma Sized.length_pos (hs : h.Sized) : 0 < h.tablelength := by
  rw [hs.tablelength_eq]
  exact primes_pos _ hs.primeindex_lt

lemma Sized.counted (hs : h.Sized) : h.counted.Sized where
  primeindex_lt := hs.primeindex_lt
  tablelength_eq := hs.tablelength_eq
  loadlimit_eq := hs.loadlimit_eq
  placed := hs.placed

/-- At the last prime, or with the memory, an expansion keeps the sizes right. -/
lemma Sized.expand (hs : h.Sized) {b : Bool} (hb : h.primeindex ≠ primeTableLength - 1 → b = true) :
    (hashtableExpand h b).1.Sized := by
  unfold hashtableExpand
  dsimp only
  split_ifs with hlast hmem
  · exact hs
  · have hlt : h.primeindex + 1 < primeTableLength := by
      have := hs.primeindex_lt
      omega
    refine ⟨hlt, rfl, ?_, Buckets.placed_rehash _ _ _⟩
    dsimp only
    rw [loadlimitOf, Nat.mul_one]
  · exact absurd (hb hlast) hmem

/-- Which failed expansions do nothing. -/
lemma expand_restores_iff (b : Bool) :
    ((hashtableExpand h b).2 = 0 → (hashtableExpand h b).1 = h) ↔
      (h.primeindex ≠ primeTableLength - 1 → b = true) := by
  unfold hashtableExpand
  dsimp only
  split_ifs with hlast hmem
  · exact iff_of_true (fun _ => rfl) fun hne => absurd hlast hne
  · refine iff_of_true (fun hfail => ?_) fun _ => hmem
    have hsuccess : (-1 : ℤ) = 0 := hfail
    cases hsuccess
  · refine iff_of_false (fun hkeep => ?_) fun hb => hmem (hb hlast)
    have hindex := congrArg Hashtable.primeindex (hkeep rfl)
    exact Nat.succ_ne_self _ hindex

lemma Sized.reserve (hs : h.Sized) {b : Bool}
    (hb : h.Expands → h.primeindex ≠ primeTableLength - 1 → b = true) :
    (hashtableReserve h b).Sized := by
  unfold hashtableReserve
  dsimp only
  split_ifs with hexp
  · exact hs.counted.expand (hb hexp)
  · exact hs.counted

/-! ## One operation -/

/-- Counting one more entry wraps around at the last number only. -/
lemma toNat_succ {n : UInt32} (hn : n ≠ 0 - 1) : (n + 1).toNat = n.toNat + 1 := by
  have hlt := n.toNat_lt
  have hne : n.toNat ≠ 4294967295 := fun heq => hn (UInt32.toNat_inj.mp heq)
  have hone : (1 : UInt32).toNat = 1 := rfl
  rw [UInt32.toNat_add, hone]
  exact Nat.mod_eq_of_lt (by omega)

/-- An insertion that gets memory for its entry adds one. -/
lemma insert_length (hlt : h.primeindex < primeTableLength) {mem : InsertMem}
    (hr : (hashtableReserve h mem.newtable).Sized) (k : κ) (v : ν) (hentry : mem.entry = true) :
    (hashtableInsert h k v mem).1.entries.length = h.entries.length + 1 := by
  have hperm := reserve_entries_perm hlt mem.newtable
  have hidx : (hashtableReserve h mem.newtable).bucketOf
      { k := k, v := v, h := (hashtableReserve h mem.newtable).hash k } <
      (hashtableReserve h mem.newtable).tablelength := indexFor_lt hr.length_pos _
  have hpush := Buckets.contents_push_perm hidx (hashtableReserve h mem.newtable).table
  rw [insert_ok h k v hentry]
  exact (hpush.trans (hperm.cons _)).length_eq

lemma insert_entrycount (k : κ) (v : ν) {mem : InsertMem} (hentry : mem.entry = true) :
    (hashtableInsert h k v mem).1.entrycount = h.entrycount + 1 := by
  rw [insert_ok h k v hentry]
  exact reserve_entrycount h mem.newtable

/-- An insertion that meets the condition keeps the invariant. -/
lemma Consistent.insert (hc : h.Consistent) {k : κ} {v : ν} {mem : InsertMem}
    (hsafe : (TableOp.insert k v mem).Safe h) : (hashtableInsert h k v mem).1.Consistent := by
  have hr := hc.toSized.reserve hsafe.1
  by_cases hentry : mem.entry = true
  · have hcount : (hashtableInsert h k v mem).1.entrycount.toNat =
        (hashtableInsert h k v mem).1.entries.length := by
      rw [insert_length hc.primeindex_lt hr k v hentry, insert_entrycount k v hentry,
        toNat_succ (hsafe.2 hentry), hc.entrycount_eq]
    rw [insert_ok h k v hentry] at hcount ⊢
    exact ⟨⟨hr.primeindex_lt, hr.tablelength_eq, hr.loadlimit_eq,
      Buckets.placed_push hr.placed _⟩, hcount⟩
  · unfold hashtableInsert
    dsimp only
    rw [if_neg hentry]
    refine ⟨⟨hr.primeindex_lt, hr.tablelength_eq, hr.loadlimit_eq, hr.placed⟩, ?_⟩
    dsimp only
    rw [reserve_entrycount, UInt32.add_sub_cancel, hc.entrycount_eq]
    exact (reserve_entries_perm hc.primeindex_lt mem.newtable).length_eq.symm

lemma Consistent.remove (hc : h.Consistent) (k : κ) : (hashtableRemove h k).1.Consistent := by
  unfold hashtableRemove
  dsimp only
  split
  · rename_i e hfind
    have hsub := List.eraseP_subset (p := h.isKey k)
      (l := h.table (indexFor h.tablelength (h.hash k)))
    have hperm := Buckets.contents_eraseP_perm (indexFor_lt hc.length_pos (h.hash k)) h.table hfind
    refine ⟨⟨hc.primeindex_lt, hc.tablelength_eq, hc.loadlimit_eq,
      Buckets.placed_update_sublist hc.placed hsub⟩, ?_⟩
    have hlength := hperm.length_eq
    have hcount := hc.entrycount_eq
    rw [entries, hlength, List.length_cons] at hcount
    have hone : (1 : UInt32).toNat ≤ h.entrycount.toNat := by
      rw [hcount]
      exact Nat.le_add_left 1 _
    dsimp only
    rw [UInt32.toNat_sub_of_le _ _ (UInt32.le_iff_toNat_le.mpr hone), hcount]
    rfl
  · exact hc

/-- With the counter at its last number, an insertion that adds an entry counts 0 of them. -/
lemma Consistent.room (hc : h.Consistent) {k : κ} {v : ν} {mem : InsertMem}
    (hentry : mem.entry = true) (hafter : (hashtableInsert h k v mem).1.Consistent) :
    h.entrycount ≠ 0 - 1 := by
  intro hfull
  have hwraps : h.counted.entrycount = 0 := by
    rw [counted, hfull]
    rfl
  have hnot : ¬ h.Expands := by
    rw [Expands, hwraps]
    exact Nat.not_lt_zero _
  have hr := hc.toSized.reserve (b := mem.newtable) fun hexp => absurd hexp hnot
  have hcount := hafter.entrycount_eq
  rw [insert_length hc.primeindex_lt hr k v hentry, insert_entrycount k v hentry] at hcount
  exact Nat.succ_ne_zero _ (hcount.symm.trans (congrArg UInt32.toNat hwraps))

end Hashtable

/-- **One operation** meets the specification iff it meets the condition. -/
lemma TableOp.sound_iff {h : Hashtable κ ν} (hc : h.Consistent) (op : TableOp κ ν) :
    op.Sound h ↔ op.Safe h := by
  cases op with
  | remove k => exact iff_of_true ⟨trivial, hc.remove k⟩ trivial
  | insert k v mem =>
      have hrestores : (TableOp.insert k v mem).FailureRestores h ↔
          (h.Expands → h.primeindex ≠ primeTableLength - 1 → mem.newtable = true) :=
        imp_congr_right fun _ => Hashtable.expand_restores_iff mem.newtable
      constructor
      · rintro ⟨hfail, hafter⟩
        exact ⟨hrestores.mp hfail, fun hentry => hc.room hentry hafter⟩
      · intro hsafe
        exact ⟨hrestores.mpr hsafe.1, hc.insert hsafe⟩

/-- A new table is consistent. -/
lemma Hashtable.consistent_create {minsize : ℕ} {hashf : κ → UInt32} {eqf : κ → κ → Bool}
    {h : Hashtable κ ν} (hcreate : createHashtable minsize hashf eqf true true = some h) :
    h.Consistent := by
  unfold createHashtable at hcreate
  split_ifs at hcreate with hmin
  cases hcreate
  have hidx := pindex_lt hmin
  refine ⟨⟨hidx, ?_, ?_, fun i _ e he => absurd he List.not_mem_nil⟩, ?_⟩
  · dsimp only
    rw [List.getD_eq_getElem _ _ hidx, List.getD_eq_getElem _ _ hidx]
  · dsimp only
    rw [loadlimitOf, Nat.mul_one]
  · rw [entries]
    dsimp only
    rw [Buckets.contents_empty]
    rfl

/-- **The growth of the table.**  From a new table, in every run of insertions and removals, the
invariant holds between operations and every failed expansion is undone, iff every insertion finds
the memory for the larger table it asks for and room in the counter. -/
theorem table_growth_iff {minsize : ℕ} {hashf : κ → UInt32} {eqf : κ → κ → Bool}
    {h : Hashtable κ ν} (hcreate : createHashtable minsize hashf eqf true true = some h)
    (ops : List (TableOp κ ν)) :
    h.Consistent ∧ Along TableOp.exec TableOp.Sound h ops ↔
      Along TableOp.exec TableOp.Safe h ops := by
  have hc := Hashtable.consistent_create hcreate
  rw [and_iff_right hc]
  refine Along.iff_of_invariant ?_ (fun h op hc => op.sound_iff hc) ops hc
  intro h op hc hsafe
  exact ((op.sound_iff hc).mpr hsafe).2

/-! ## The table of objects -/

lemma ObjTable.createTable_eq :
    createHashtable 16 hashFromKeyFn hashKeysEqualFn true true = some ObjTable.createTable :=
  (Option.some_get _).symm

/-- An allocation and its free. -/
theorem table_growth_insert_remove :
    ObjTable.createTable.Consistent ∧
      Along TableOp.exec TableOp.Sound ObjTable.createTable
        [.insert 0xc0001000 (HValue.fresh 1 64 1) ⟨true, true⟩, .remove 0xc0001000] := by
  refine (table_growth_iff ObjTable.createTable_eq _).mpr ⟨⟨fun _ _ => rfl, fun _ => ?_⟩, trivial,
    trivial⟩
  have hcount : ObjTable.createTable.entrycount = 0 := rfl
  rw [hcount]
  decide

/-- So many objects, recorded while there is no memory for a larger table. -/
def crowd (n : ℕ) : List (TableOp ULong HValue) :=
  (List.range n).map fun i =>
    .insert (0xc0000000 + 64 * UInt32.ofNat i) (HValue.fresh 1 64 1) ⟨false, true⟩

lemma crowd_succ (n : ℕ) :
    crowd (n + 1) = crowd n ++
      [.insert (0xc0000000 + 64 * UInt32.ofNat n) (HValue.fresh 1 64 1) ⟨false, true⟩] := by
  rw [crowd, crowd, List.range_succ, List.map_append, List.map_singleton]

/-- Up to the load limit nothing but the entries changes. -/
lemma foldl_crowd {n : ℕ} (hn : n ≤ 1539) :
    ((crowd n).foldl TableOp.exec ObjTable.createTable).entrycount.toNat = n ∧
      ((crowd n).foldl TableOp.exec ObjTable.createTable).loadlimit = 1539 ∧
      ((crowd n).foldl TableOp.exec ObjTable.createTable).primeindex = 0 := by
  induction n with
  | zero => exact ⟨rfl, rfl, rfl⟩
  | succ n ih =>
      obtain ⟨hcount, hlimit, hindex⟩ := ih (Nat.le_of_succ_le hn)
      rw [crowd_succ, List.foldl_append, List.foldl_cons, List.foldl_nil]
      generalize (crowd n).foldl TableOp.exec ObjTable.createTable = h at hcount hlimit hindex
      have hne : h.entrycount ≠ 0 - 1 := by
        intro hfull
        have hmax : h.entrycount.toNat = 4294967295 := congrArg UInt32.toNat hfull
        omega
      have hsucc := Hashtable.toNat_succ hne
      have hnot : ¬ h.loadlimit < (h.entrycount + 1).toNat := by omega
      have hreserve : hashtableReserve h false = h.counted := if_neg hnot
      rw [TableOp.exec, Hashtable.insert_ok h _ _ rfl, hreserve]
      exact ⟨hsucc.trans (congrArg (· + 1) hcount), hlimit, hindex⟩

/-- The object that passes the load limit asks for a larger table. -/
lemma not_sound_crowd {n : ℕ} (hn : n = 1539) :
    ¬ Along TableOp.exec TableOp.Sound ObjTable.createTable (crowd (n + 1)) := by
  intro hsound
  rw [crowd_succ, Along.append_iff] at hsound
  obtain ⟨_, ⟨hrestores, _⟩, _⟩ := hsound
  obtain ⟨hcount, hlimit, hindex⟩ := foldl_crowd (Nat.le_of_eq hn)
  generalize (crowd n).foldl TableOp.exec ObjTable.createTable = h at *
  have hne : h.entrycount ≠ 0 - 1 := by
    intro hfull
    have hmax : h.entrycount.toNat = 4294967295 := congrArg UInt32.toNat hfull
    omega
  have hexpands : h.Expands := by
    have hsucc : h.counted.entrycount.toNat = h.entrycount.toNat + 1 := Hashtable.toNat_succ hne
    rw [Hashtable.Expands]
    omega
  have hlast : h.counted.primeindex ≠ primeTableLength - 1 := by
    have hzero : h.counted.primeindex = 0 := hindex
    rw [hzero]
    decide
  exact absurd ((Hashtable.expand_restores_iff false).mp (hrestores hexpands) hlast) (by decide)

/-- **The lost size.**  With 1540 objects and no memory for a larger table the prime index is no
longer that of the length. -/
theorem failed_expansion_loses_size :
    ¬ (ObjTable.createTable.Consistent ∧
      Along TableOp.exec TableOp.Sound ObjTable.createTable (crowd 1540)) :=
  not_and_of_not_right _ (not_sound_crowd rfl)

end SymDrive

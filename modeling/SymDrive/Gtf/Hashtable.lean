import Mathlib.Data.Finmap
import Mathlib.Data.List.Find
import Mathlib.Data.List.GetD
import SymDrive.Library.Buckets

/-!
# The chained hash table

`hashtable/hashtable.c`: a table of chains indexed by a cached 32-bit hash, which moves to the
next size of a fixed list of primes once it holds more than half as many entries as buckets.
The framework is built for 32-bit x86, so `unsigned int` is `UInt32`; the bucket array is a
function of the bucket number, of which the numbers below `tablelength` are used.

Every allocation may fail.  An operation that allocates takes the outcomes as an argument; an
allocation that succeeds has the requested number of slots.

**What the table means.**  `Hashtable.Refines h m` says that `h` holds exactly the bindings of the
finite map `m`, each in the bucket its cached hash names, and counts them.  The operations refine
those of the map: `refines_insert` (through every expansion), `hashtableSearch_eq`,
`refines_remove`, `refines_modify`.
-/

namespace SymDrive

/-! ## The table and its operations -/

/-- `struct entry`: the chain is the list the entry stands in, so `next` is not a field. -/
structure Entry (κ ν : Type) where
  k : κ
  v : ν
  h : UInt32

/-- `struct hashtable`. -/
structure Hashtable (κ ν : Type) where
  tablelength : ℕ
  table : ℕ → List (Entry κ ν)
  entrycount : UInt32
  loadlimit : ℕ
  primeindex : ℕ
  hashfn : κ → UInt32
  eqfn : κ → κ → Bool

/-- Whether the allocations an insertion makes succeed: the larger bucket array, the entry. -/
structure InsertMem where
  newtable : Bool
  entry : Bool

def primes : List ℕ :=
  [3079, 6151, 12289, 24593, 49157, 98317, 196613, 393241, 786433, 1572869, 3145739, 6291469,
    12582917, 25165843, 50331653, 100663319, 201326611, 402653189, 805306457, 1610612741]

def primeTableLength : ℕ := primes.length

/-- `size * max_load_factor`, where `max_load_factor` is the text `1 / 2`. -/
def loadlimitOf (size : ℕ) : ℕ := size * 1 / 2

def indexFor (tablelength : ℕ) (hashvalue : UInt32) : ℕ := hashvalue.toNat % tablelength

variable {κ ν : Type}

/-- `create_hashtable`; `handle` and `table` are the outcomes of its two allocations. -/
def createHashtable (minsize : ℕ) (hashf : κ → UInt32) (eqf : κ → κ → Bool)
    (handle table : Bool) : Option (Hashtable κ ν) :=
  if minsize > 1 <<< 30 then none
  else
    let pindex := primes.findIdx (· > minsize)
    let size := primes.getD pindex (primes.getD 0 0)
    if handle && table then
      some { tablelength := size, table := fun _ => [], entrycount := 0,
             loadlimit := loadlimitOf size, primeindex := pindex, hashfn := hashf, eqfn := eqf }
    else none

def Hashtable.hash (h : Hashtable κ ν) (k : κ) : UInt32 :=
  let i := h.hashfn k
  let i := i + ~~~(i <<< 9)
  let i := i ^^^ ((i >>> 14) ||| (i <<< 18))
  let i := i + (i <<< 4)
  i ^^^ ((i >>> 10) ||| (i <<< 22))

/-- The bucket of an entry, by its cached hash. -/
def Hashtable.bucketOf (h : Hashtable κ ν) (e : Entry κ ν) : ℕ := indexFor h.tablelength e.h

/-- All entries, bucket by bucket. -/
def Hashtable.entries (h : Hashtable κ ν) : List (Entry κ ν) :=
  Buckets.contents h.tablelength h.table

/-- `hashtable_expand`.  Every entry of the old buckets, in bucket order, is put at the head of
its new bucket.  A failed allocation of the new array leaves `primeindex` advanced. -/
def hashtableExpand (h : Hashtable κ ν) (newtable : Bool) : Hashtable κ ν × ℤ :=
  if h.primeindex = primeTableLength - 1 then (h, 0)
  else
    let newsize := primes.getD (h.primeindex + 1) 0
    if newtable then
      ({ h with primeindex := h.primeindex + 1,
                table := Buckets.rehash (fun e => indexFor newsize e.h) h.entries,
                tablelength := newsize,
                loadlimit := loadlimitOf newsize }, -1)
    else ({ h with primeindex := h.primeindex + 1 }, 0)

def hashtableCount (h : Hashtable κ ν) : UInt32 := h.entrycount

/-- The first half of `hashtable_insert`: count the entry, expand when the load limit is passed
(the return value of the expansion is ignored). -/
def hashtableReserve (h : Hashtable κ ν) (newtable : Bool) : Hashtable κ ν :=
  let h := { h with entrycount := h.entrycount + 1 }
  if h.loadlimit < h.entrycount.toNat then (hashtableExpand h newtable).1 else h

def hashtableInsert (h : Hashtable κ ν) (k : κ) (v : ν) (mem : InsertMem) :
    Hashtable κ ν × ℤ :=
  let h := hashtableReserve h mem.newtable
  if mem.entry then
    let e : Entry κ ν := { k := k, v := v, h := h.hash k }
    let index := indexFor h.tablelength e.h
    ({ h with table := Function.update h.table index (e :: h.table index) }, -1)
  else ({ h with entrycount := h.entrycount - 1 }, 0)

/-- The test both lookups make: the cached hash first, then the keys. -/
def Hashtable.isKey (h : Hashtable κ ν) (k : κ) (e : Entry κ ν) : Bool :=
  h.hash k == e.h && h.eqfn k e.k

def hashtableSearch (h : Hashtable κ ν) (k : κ) : Option ν :=
  let index := indexFor h.tablelength (h.hash k)
  ((h.table index).find? (h.isKey k)).map Entry.v

def hashtableRemove (h : Hashtable κ ν) (k : κ) : Hashtable κ ν × Option ν :=
  let index := indexFor h.tablelength (h.hash k)
  match (h.table index).find? (h.isKey k) with
  | some e =>
      ({ h with table := Function.update h.table index ((h.table index).eraseP (h.isKey k)),
                entrycount := h.entrycount - 1 }, some e.v)
  | none => (h, none)

/-- Writing through the pointer that `hashtable_search` returns. -/
def hashtableModify (h : Hashtable κ ν) (k : κ) (f : ν → ν) : Hashtable κ ν :=
  let index := indexFor h.tablelength (h.hash k)
  let chain := Buckets.modifyFirst (h.isKey k) (fun e => { e with v := f e.v }) (h.table index)
  { h with table := Function.update h.table index chain }

/-- `hashtable_enumerate` with a callback that only rewrites the value it is given. -/
def hashtableEnumerate (h : Hashtable κ ν) (enumKv : κ → ν → ν) : Hashtable κ ν :=
  { h with table := fun i =>
      if i < h.tablelength then (h.table i).map (fun e => { e with v := enumKv e.k e.v })
      else h.table i }

/-! ## Well-formed tables -/

/-- The shape every operation keeps: entries stand in the bucket of their cached hash, the cached
hash is the hash of the key, and the comparison function decides equality of keys. -/
structure Hashtable.Wf (h : Hashtable κ ν) : Prop where
  length_pos : 0 < h.tablelength
  primeindex_lt : h.primeindex < primeTableLength
  placed : Buckets.Placed h.bucketOf h.tablelength h.table
  hashed : ∀ e ∈ h.entries, e.h = h.hash e.k
  eqfn : ∀ a b, h.eqfn a b = true ↔ a = b

lemma indexFor_lt {n : ℕ} (hn : 0 < n) (v : UInt32) : indexFor n v < n := Nat.mod_lt _ hn

lemma primes_pos : ∀ i < primeTableLength, 0 < primes.getD i 0 := by decide

namespace Hashtable

/-- The entry count is not part of the shape. -/
lemma Wf.setEntrycount {h : Hashtable κ ν} (hw : h.Wf) (n : UInt32) :
    ({ h with entrycount := n } : Hashtable κ ν).Wf where
  length_pos := hw.length_pos
  primeindex_lt := hw.primeindex_lt
  placed := hw.placed
  hashed := hw.hashed
  eqfn := hw.eqfn

lemma Wf.bucketOf_lt {h : Hashtable κ ν} (hw : h.Wf) (e : Entry κ ν) :
    h.bucketOf e < h.tablelength := indexFor_lt hw.length_pos e.h

/-- An expansion keeps the hash function, the comparison and the entry count. -/
lemma expand_hash (h : Hashtable κ ν) (b : Bool) : (hashtableExpand h b).1.hash = h.hash := by
  unfold hashtableExpand
  split_ifs <;> rfl

lemma expand_entrycount (h : Hashtable κ ν) (b : Bool) :
    (hashtableExpand h b).1.entrycount = h.entrycount := by
  unfold hashtableExpand
  split_ifs <;> rfl

/-- An expansion moves entries but neither loses nor adds one. -/
lemma expand_entries_perm {h : Hashtable κ ν} (hlt : h.primeindex < primeTableLength) (b : Bool) :
    ((hashtableExpand h b).1.entries).Perm h.entries := by
  unfold hashtableExpand
  dsimp only
  split_ifs with hi
  · exact List.Perm.refl _
  · have hpos := primes_pos (h.primeindex + 1) (by omega)
    exact Buckets.contents_rehash_perm (fun e => indexFor_lt hpos e.h) h.entries
  · exact List.Perm.refl _

lemma expand_wf {h : Hashtable κ ν} (hw : h.Wf) (b : Bool) : (hashtableExpand h b).1.Wf := by
  have hhashed : ∀ e ∈ (hashtableExpand h b).1.entries,
      e.h = (hashtableExpand h b).1.hash e.k := by
    intro e he
    rw [expand_hash h b]
    exact hw.hashed e ((expand_entries_perm hw.primeindex_lt b).mem_iff.mp he)
  revert hhashed
  unfold hashtableExpand
  dsimp only
  split_ifs with hi
  · intro _
    exact hw
  · have hlt := hw.primeindex_lt
    have hlt' : h.primeindex + 1 < primeTableLength := by omega
    intro hhashed
    exact ⟨primes_pos _ hlt', hlt', Buckets.placed_rehash _ _ _, hhashed, hw.eqfn⟩
  · have hlt := hw.primeindex_lt
    intro hhashed
    exact ⟨hw.length_pos, by dsimp only; omega, hw.placed, hhashed, hw.eqfn⟩

lemma reserve_entrycount (h : Hashtable κ ν) (b : Bool) :
    (hashtableReserve h b).entrycount = h.entrycount + 1 := by
  unfold hashtableReserve
  dsimp only
  split_ifs
  · rw [expand_entrycount]
  · rfl

lemma reserve_wf {h : Hashtable κ ν} (hw : h.Wf) (b : Bool) : (hashtableReserve h b).Wf := by
  unfold hashtableReserve
  dsimp only
  split_ifs
  · exact expand_wf (hw.setEntrycount _) b
  · exact hw.setEntrycount _

lemma reserve_entries_perm {h : Hashtable κ ν} (hlt : h.primeindex < primeTableLength) (b : Bool) :
    ((hashtableReserve h b).entries).Perm h.entries := by
  unfold hashtableReserve
  dsimp only
  split_ifs
  · exact expand_entries_perm (h := { h with entrycount := h.entrycount + 1 }) hlt b
  · exact List.Perm.refl _

/-! ### Insertion, removal and modification keep the shape -/

/-- A successful insertion is a push on the reserved table. -/
lemma insert_ok (h : Hashtable κ ν) (k : κ) (v : ν) {mem : InsertMem} (hmem : mem.entry = true) :
    (hashtableInsert h k v mem).1 =
      let h' := hashtableReserve h mem.newtable
      { h' with
        table := Buckets.push h'.bucketOf h'.table { k := k, v := v, h := h'.hash k } } := by
  unfold hashtableInsert
  dsimp only
  rw [if_pos hmem]
  rfl

lemma insert_wf {h : Hashtable κ ν} (hw : h.Wf) (k : κ) (v : ν) (mem : InsertMem) :
    (hashtableInsert h k v mem).1.Wf := by
  have hr := reserve_wf hw mem.newtable
  by_cases hmem : mem.entry = true
  · rw [insert_ok h k v hmem]
    refine ⟨hr.length_pos, hr.primeindex_lt, Buckets.placed_push hr.placed _, ?_, hr.eqfn⟩
    intro e he
    have hmem' := (Buckets.contents_push_perm (hr.bucketOf_lt _) _).mem_iff.mp he
    rcases List.mem_cons.mp hmem' with rfl | he
    · rfl
    · exact hr.hashed e he
  · unfold hashtableInsert
    dsimp only
    rw [if_neg hmem]
    exact hr.setEntrycount _

/-- A removal adds no entry. -/
lemma remove_entries_subset {h : Hashtable κ ν} (hw : h.Wf) (k : κ) :
    (hashtableRemove h k).1.entries ⊆ h.entries := by
  unfold hashtableRemove
  dsimp only
  split
  · rename_i e hfind
    have hperm := Buckets.contents_eraseP_perm (indexFor_lt hw.length_pos (h.hash k)) h.table hfind
    exact fun e' he' => hperm.mem_iff.mpr (List.mem_cons_of_mem e he')
  · exact fun e he => he

lemma remove_wf {h : Hashtable κ ν} (hw : h.Wf) (k : κ) : (hashtableRemove h k).1.Wf := by
  have hentries := remove_entries_subset hw k
  revert hentries
  unfold hashtableRemove
  dsimp only
  split
  · have hsub := List.eraseP_subset (p := h.isKey k)
      (l := h.table (indexFor h.tablelength (h.hash k)))
    intro hentries
    exact ⟨hw.length_pos, hw.primeindex_lt, Buckets.placed_update_sublist hw.placed hsub,
      fun e he => hw.hashed e (hentries he), hw.eqfn⟩
  · exact fun _ => hw

/-- Rewriting the value of an entry keeps its key and its cached hash. -/
lemma modify_wf {h : Hashtable κ ν} (hw : h.Wf) (k : κ) (f : ν → ν) :
    (hashtableModify h k f).Wf := by
  have hplaced := Buckets.placed_modifyFirst (p := h.isKey k)
    (f := fun e : Entry κ ν => { e with v := f e.v }) (i := indexFor h.tablelength (h.hash k))
    (fun e => rfl) hw.placed
  refine ⟨hw.length_pos, hw.primeindex_lt, hplaced, ?_, hw.eqfn⟩
  intro e he
  obtain ⟨e', he', rfl | rfl⟩ := Buckets.mem_contents_modifyFirst he
  · exact hw.hashed _ he'
  · exact hw.hashed e' he'

lemma enumerate_wf {h : Hashtable κ ν} (hw : h.Wf) (enumKv : κ → ν → ν) :
    (hashtableEnumerate h enumKv).Wf := by
  have hmem : ∀ i, ∀ e ∈ (hashtableEnumerate h enumKv).table i,
      ∃ e' ∈ h.table i, e'.h = e.h ∧ e'.k = e.k := by
    intro i e he
    simp only [hashtableEnumerate] at he
    split_ifs at he with hi
    · obtain ⟨e', he', rfl⟩ := List.mem_map.mp he
      exact ⟨e', he', rfl, rfl⟩
    · exact ⟨e, he, rfl, rfl⟩
  refine ⟨hw.length_pos, hw.primeindex_lt, ?_, ?_, hw.eqfn⟩
  · intro i hi e he
    obtain ⟨e', he', hh, _⟩ := hmem i e he
    have hplace := hw.placed i hi e' he'
    rwa [bucketOf, hh] at hplace
  · intro e he
    obtain ⟨i, hi, hei⟩ := Buckets.mem_contents_iff.mp he
    obtain ⟨e', he', hh, hk⟩ := hmem i e hei
    have hhash := hw.hashed e' (Buckets.mem_contents_iff.mpr ⟨i, hi, he'⟩)
    rwa [hh, hk] at hhash

/-! ## What a search finds -/

/-- On the entries of a well-formed table the two tests of `isKey` amount to equality of keys. -/
lemma isKey_iff {h : Hashtable κ ν} (hw : h.Wf) {k : κ} {e : Entry κ ν} (he : e ∈ h.entries) :
    h.isKey k e = true ↔ k = e.k := by
  rw [isKey, Bool.and_eq_true, beq_iff_eq, hw.eqfn]
  constructor
  · exact fun hk => hk.2
  · rintro rfl
    exact ⟨(hw.hashed e he).symm, rfl⟩

lemma search_table (h : Hashtable κ ν) (t : ℕ → List (Entry κ ν)) (k : κ) :
    hashtableSearch { h with table := t } k =
      ((t (indexFor h.tablelength (h.hash k))).find? (h.isKey k)).map Entry.v :=
  rfl

/-- What a search finds stands in the table. -/
lemma exists_of_search {h : Hashtable κ ν} (hw : h.Wf) {k : κ} {v : ν}
    (hsearch : hashtableSearch h k = some v) : ∃ e ∈ h.entries, e.v = v := by
  obtain ⟨e, hfind, hv⟩ := Option.map_eq_some_iff.mp hsearch
  have hlt := indexFor_lt hw.length_pos (h.hash k)
  exact ⟨e, Buckets.mem_contents_iff.mpr ⟨_, hlt, List.mem_of_find?_eq_some hfind⟩, hv⟩

/-- Right after a successful insertion the key is found, with the inserted value. -/
lemma search_insert {h : Hashtable κ ν} (hw : h.Wf) (k : κ) (v : ν) {mem : InsertMem}
    (hmem : mem.entry = true) : hashtableSearch (hashtableInsert h k v mem).1 k = some v := by
  have heq := (reserve_wf hw mem.newtable).eqfn
  rw [insert_ok h k v hmem]
  generalize hashtableReserve h mem.newtable = h' at heq ⊢
  have hk : h'.isKey k { k := k, v := v, h := h'.hash k } = true := by
    simp [isKey, heq]
  dsimp only
  rw [search_table, Buckets.push, bucketOf, Function.update_self, List.find?_cons_of_pos hk,
    Option.map_some]

end Hashtable

/-! ## Refinement of the finite map -/

/-- What an entry says about the table. -/
def Entry.binding (e : Entry κ ν) : Sigma fun _ : κ => ν := ⟨e.k, e.v⟩

/-- `h` holds exactly the bindings of `m`, and its entry count is their number. -/
structure Hashtable.Refines (h : Hashtable κ ν) (m : Finmap fun _ : κ => ν) : Prop where
  wf : h.Wf
  entries : ((h.entries.map Entry.binding : List _) : Multiset _) = m.entries
  count : h.entrycount = UInt32.ofNat m.keys.card

namespace Hashtable

lemma card_keys (m : Finmap fun _ : κ => ν) : m.keys.card = Multiset.card m.entries := by
  simp [Finmap.keys, Finset.card, Multiset.keys]

lemma entries_insert {m : Finmap fun _ : κ => ν} [DecidableEq κ] (k : κ) (v : ν) :
    (m.insert k v).entries = ⟨k, v⟩ ::ₘ (m.erase k).entries := by
  have hm : m.insert k v = (m.erase k).insert k v := by
    refine Finmap.ext_lookup fun a => ?_
    by_cases ha : a = k
    · rw [ha, Finmap.lookup_insert, Finmap.lookup_insert]
    · rw [Finmap.lookup_insert_of_ne _ ha, Finmap.lookup_insert_of_ne _ ha,
        Finmap.lookup_erase_ne ha]
  rw [hm, Finmap.entries_insert_of_notMem Finmap.notMem_erase_self]

lemma entries_erase {m : Finmap fun _ : κ => ν} [DecidableEq κ] {k : κ} {v : ν}
    (hk : m.lookup k = some v) : m.entries = ⟨k, v⟩ ::ₘ (m.erase k).entries := by
  have hm : m.insert k v = m := by
    refine Finmap.ext_lookup fun a => ?_
    by_cases ha : a = k
    · rw [ha, hk, Finmap.lookup_insert]
    · rw [Finmap.lookup_insert_of_ne _ ha]
  rw [← entries_insert, hm]

/-- There is a prime for every size that is not refused. -/
lemma pindex_lt {minsize : ℕ} (hmin : ¬ minsize > 1 <<< 30) :
    primes.findIdx (· > minsize) < primeTableLength := by
  refine List.findIdx_lt_length_of_exists ⟨1610612741, by decide, ?_⟩
  have hsize : (1 <<< 30 : ℕ) = 1073741824 := rfl
  rw [decide_eq_true_iff]
  omega

/-- A new table is the empty map. -/
theorem refines_create {minsize : ℕ} {hashf : κ → UInt32} {eqf : κ → κ → Bool}
    {h : Hashtable κ ν} (heq : ∀ a b, eqf a b = true ↔ a = b)
    (h₀ : createHashtable minsize hashf eqf true true = some h) : h.Refines ∅ := by
  unfold createHashtable at h₀
  split_ifs at h₀ with hmin
  cases h₀
  have hidx := pindex_lt hmin
  have hpos := primes_pos _ hidx
  rw [List.getD_eq_getElem _ _ hidx] at hpos
  have hempty : ∀ n, Buckets.contents n (fun _ => ([] : List (Entry κ ν))) = [] :=
    fun n => Buckets.contents_empty n
  refine ⟨⟨?_, hidx, ?_, ?_, heq⟩, ?_, rfl⟩
  · dsimp only
    rwa [List.getD_eq_getElem _ _ hidx]
  · intro i _ e he
    exact absurd he (by simp)
  · intro e he
    exact absurd he (by simp [entries])
  · simp only [entries, hempty]
    rfl

lemma nodup_keys {h : Hashtable κ ν} {m : Finmap fun _ : κ => ν} (hr : h.Refines m) :
    (h.entries.map Entry.k).Nodup := by
  have hm := m.nodupKeys
  rw [← hr.entries, Multiset.coe_nodupKeys, List.NodupKeys, List.keys, List.map_map] at hm
  exact hm

lemma mem_entries_iff {h : Hashtable κ ν} {m : Finmap fun _ : κ => ν} (hr : h.Refines m) {k : κ}
    {v : ν} : (∃ e ∈ h.entries, e.k = k ∧ e.v = v) ↔ ⟨k, v⟩ ∈ m.entries := by
  rw [← hr.entries, Multiset.mem_coe, List.mem_map]
  constructor
  · rintro ⟨e, he, rfl, rfl⟩
    exact ⟨e, he, rfl⟩
  · rintro ⟨e, he, hb⟩
    cases hb
    exact ⟨e, he, rfl, rfl⟩

/-- The chain a key belongs to holds the one entry under that key, if there is one. -/
lemma find?_isKey {h : Hashtable κ ν} {m : Finmap fun _ : κ => ν} (hr : h.Refines m) [DecidableEq κ]
    {k : κ} {e : Entry κ ν} :
    (h.table (indexFor h.tablelength (h.hash k))).find? (h.isKey k) = some e ↔
      e ∈ h.entries ∧ e.k = k := by
  have hlt := indexFor_lt hr.wf.length_pos (h.hash k)
  have hmem : ∀ e ∈ h.table (indexFor h.tablelength (h.hash k)), e ∈ h.entries :=
    fun e he => Buckets.mem_contents_iff.mpr ⟨_, hlt, he⟩
  have hkey : ∀ e ∈ h.table (indexFor h.tablelength (h.hash k)),
      h.isKey k e = decide (k = e.k) := by
    intro e he
    rw [Bool.eq_iff_iff, isKey_iff hr.wf (hmem e he), decide_eq_true_iff]
  have hnodup : ((h.table (indexFor h.tablelength (h.hash k))).map Entry.k).Nodup :=
    (nodup_keys hr).sublist ((Buckets.sublist_contents hlt h.table).map _)
  rw [List.find?_congr hkey, Buckets.find?_key hnodup]
  constructor
  · rintro ⟨he, hk⟩
    exact ⟨hmem e he, hk⟩
  · rintro ⟨he, rfl⟩
    have hidx : h.bucketOf e = indexFor h.tablelength (h.hash e.k) := by
      rw [bucketOf, hr.wf.hashed e he]
    rw [← hidx]
    exact ⟨(Buckets.mem_contents hr.wf.placed (hr.wf.bucketOf_lt e)).mp he, rfl⟩

/-- **Search.**  The table answers as the map does. -/
theorem hashtableSearch_eq {h : Hashtable κ ν} {m : Finmap fun _ : κ => ν} [DecidableEq κ]
    (hr : h.Refines m) (k : κ) : hashtableSearch h k = m.lookup k := by
  refine Option.ext fun v => ?_
  rw [Finmap.lookup_eq_some_iff, ← mem_entries_iff hr]
  unfold hashtableSearch
  dsimp only
  rw [Option.map_eq_some_iff]
  constructor
  · rintro ⟨e, he, hv⟩
    obtain ⟨hmem, hk⟩ := (find?_isKey hr).mp he
    exact ⟨e, hmem, hk, hv⟩
  · rintro ⟨e, hmem, hk, hv⟩
    exact ⟨e, (find?_isKey hr).mpr ⟨hmem, hk⟩, hv⟩

/-- **Insertion** under a new key, through a possible expansion. -/
theorem refines_insert {h : Hashtable κ ν} {m : Finmap fun _ : κ => ν} [DecidableEq κ]
    (hr : h.Refines m) {k : κ} (hk : k ∉ m) (v : ν) {mem : InsertMem} (hmem : mem.entry = true) :
    (hashtableInsert h k v mem).1.Refines (m.insert k v) := by
  refine ⟨insert_wf hr.wf k v mem, ?_, ?_⟩
  · rw [insert_ok h k v hmem, Finmap.entries_insert_of_notMem hk, ← hr.entries, Multiset.cons_coe,
      Multiset.coe_eq_coe]
    have hres := reserve_wf hr.wf mem.newtable
    have hpush := Buckets.contents_push_perm
      (hres.bucketOf_lt { k := k, v := v, h := (hashtableReserve h mem.newtable).hash k })
      (hashtableReserve h mem.newtable).table
    have hperm := hpush.trans ((reserve_entries_perm hr.wf.primeindex_lt mem.newtable).cons _)
    exact hperm.map Entry.binding
  · have hcard : (m.insert k v).keys.card = m.keys.card + 1 := by
      rw [card_keys, card_keys, Finmap.entries_insert_of_notMem hk, Multiset.card_cons]
    rw [hcard, insert_ok h k v hmem]
    dsimp only
    rw [reserve_entrycount, hr.count, UInt32.ofNat_add]
    rfl

/-- A removal returns what a search would have found. -/
lemma remove_snd (h : Hashtable κ ν) (k : κ) : (hashtableRemove h k).2 = hashtableSearch h k := by
  unfold hashtableRemove hashtableSearch
  dsimp only
  split
  · rename_i e he
    rw [he, Option.map_some]
  · rename_i he
    rw [he, Option.map_none]

lemma remove_of_notMem {h : Hashtable κ ν} {m : Finmap fun _ : κ => ν} [DecidableEq κ]
    (hr : h.Refines m) {k : κ} (hk : k ∉ m) : hashtableRemove h k = (h, none) := by
  have hnone : (h.table (indexFor h.tablelength (h.hash k))).find? (h.isKey k) = none := by
    rw [Option.eq_none_iff_forall_ne_some]
    intro e he
    obtain ⟨hmem, hek⟩ := (find?_isKey hr).mp he
    have hlook := Finmap.lookup_eq_some_iff.mpr ((mem_entries_iff hr).mp ⟨e, hmem, hek, rfl⟩)
    exact hk (Finmap.mem_of_lookup_eq_some hlook)
  unfold hashtableRemove
  dsimp only
  rw [hnone]

lemma refines_remove_of_lookup {h : Hashtable κ ν} {m : Finmap fun _ : κ => ν} [DecidableEq κ]
    (hr : h.Refines m) {k : κ} {v : ν} (hk : m.lookup k = some v) :
    (hashtableRemove h k).1.Refines (m.erase k) := by
  have hw := remove_wf hr.wf k
  have hm := entries_erase hk
  obtain ⟨e, he, hek, hev⟩ := (mem_entries_iff hr).mpr (Finmap.lookup_eq_some_iff.mp hk)
  have hfind := (find?_isKey hr).mpr ⟨he, hek⟩
  unfold hashtableRemove at hw ⊢
  dsimp only at hw ⊢
  rw [hfind] at hw ⊢
  have hperm := Buckets.contents_eraseP_perm (indexFor_lt hr.wf.length_pos (h.hash k)) h.table hfind
  have hbind : e.binding = ⟨k, v⟩ := by
    rw [Entry.binding, hek, hev]
  refine ⟨hw, ?_, ?_⟩
  · have hcons := Multiset.coe_eq_coe.mpr (hperm.map Entry.binding)
    rw [List.map_cons, ← Multiset.cons_coe, hbind] at hcons
    refine (Multiset.cons_inj_right (⟨k, v⟩ : Sigma fun _ : κ => ν)).mp ?_
    rw [← hm, ← hr.entries]
    exact hcons.symm
  · have hcard : m.keys.card = (m.erase k).keys.card + 1 := by
      rw [card_keys, card_keys, hm, Multiset.card_cons]
    dsimp only
    rw [hr.count, hcard, UInt32.ofNat_add]
    exact UInt32.add_sub_cancel _ _

/-- **Removal**, of a key that may or may not be there. -/
theorem refines_remove {h : Hashtable κ ν} {m : Finmap fun _ : κ => ν} [DecidableEq κ]
    (hr : h.Refines m) (k : κ) : (hashtableRemove h k).1.Refines (m.erase k) := by
  cases hk : m.lookup k with
  | some v => exact refines_remove_of_lookup hr hk
  | none =>
      have herase : m.erase k = m := by
        refine Finmap.ext_lookup fun a => ?_
        by_cases ha : a = k
        · rw [ha, Finmap.lookup_erase, hk]
        · rw [Finmap.lookup_erase_ne ha]
      rw [herase, remove_of_notMem hr (Finmap.lookup_eq_none.mp hk)]
      exact hr

/-- **Writing through a found pointer** changes the value of that one key. -/
theorem refines_modify {h : Hashtable κ ν} {m : Finmap fun _ : κ => ν} [DecidableEq κ]
    (hr : h.Refines m) {k : κ} {v : ν} (hk : m.lookup k = some v) (f : ν → ν) :
    (hashtableModify h k f).Refines (m.insert k (f v)) := by
  obtain ⟨e, he, hek, hev⟩ := (mem_entries_iff hr).mpr (Finmap.lookup_eq_some_iff.mp hk)
  have hfind := (find?_isKey hr).mpr ⟨he, hek⟩
  have hm := entries_erase hk
  refine ⟨modify_wf hr.wf k f, ?_, ?_⟩
  · have hperm := Buckets.contents_modifyFirst_perm
      (f := fun e : Entry κ ν => { e with v := f e.v }) (indexFor_lt hr.wf.length_pos (h.hash k))
      h.table hfind
    have hcons := Multiset.coe_eq_coe.mpr (hperm.map Entry.binding)
    have hold := hr.entries
    rw [entries] at hold
    have hbind : e.binding = ⟨k, v⟩ := by
      rw [Entry.binding, hek, hev]
    have hbind' : ({ e with v := f e.v } : Entry κ ν).binding = ⟨k, f v⟩ := by
      rw [Entry.binding, hek, hev]
    rw [List.map_cons, List.map_cons, ← Multiset.cons_coe, ← Multiset.cons_coe, hold, hm,
      hbind, hbind', Multiset.cons_swap, ← entries_insert] at hcons
    exact (Multiset.cons_inj_right _).mp hcons
  · rw [card_keys, entries_insert, Multiset.card_cons]
    exact hr.count.trans (by rw [card_keys, hm, Multiset.card_cons])

lemma entries_enumerate (h : Hashtable κ ν) (enumKv : κ → ν → ν) :
    (hashtableEnumerate h enumKv).entries =
      h.entries.map fun e => { e with v := enumKv e.k e.v } := by
  rw [entries, entries, Buckets.contents, Buckets.contents, List.map_flatMap]
  refine List.flatMap_congr fun i hi => ?_
  exact if_pos (List.mem_range.mp hi)

/-- The map with every value rewritten. -/
def mapValues (m : Finmap fun _ : κ => ν) (f : κ → ν → ν) : Finmap fun _ : κ => ν where
  entries := m.entries.map fun p => ⟨p.1, f p.1 p.2⟩
  nodupKeys := by
    have hkeys : (m.entries.map fun p => (⟨p.1, f p.1 p.2⟩ : Sigma fun _ : κ => ν)).keys =
        m.entries.keys := by
      rw [Multiset.keys, Multiset.keys, Multiset.map_map]
      rfl
    rw [← Multiset.nodup_keys, hkeys]
    exact m.nodupKeys.nodup_keys

lemma lookup_mapValues [DecidableEq κ] (m : Finmap fun _ : κ => ν) (f : κ → ν → ν) (k : κ) :
    (mapValues m f).lookup k = (m.lookup k).map (f k) := by
  refine Option.ext fun v => ?_
  rw [Finmap.lookup_eq_some_iff, Option.map_eq_some_iff]
  simp only [Finmap.lookup_eq_some_iff]
  refine Multiset.mem_map.trans ⟨?_, ?_⟩
  · rintro ⟨⟨k', v'⟩, hmem, heq⟩
    cases heq
    exact ⟨v', hmem, rfl⟩
  · rintro ⟨v', hmem, rfl⟩
    exact ⟨⟨k, v'⟩, hmem, rfl⟩

/-- **Going through the table** rewrites every value. -/
theorem refines_enumerate {h : Hashtable κ ν} {m : Finmap fun _ : κ => ν} (hr : h.Refines m)
    (enumKv : κ → ν → ν) : (hashtableEnumerate h enumKv).Refines (mapValues m enumKv) where
  wf := enumerate_wf hr.wf enumKv
  entries := by
    have hm : (mapValues m enumKv).entries =
        m.entries.map fun p => ⟨p.1, enumKv p.1 p.2⟩ := rfl
    rw [hm, entries_enumerate, ← hr.entries, Multiset.map_coe, List.map_map, List.map_map]
    rfl
  count := by
    have hcard : (mapValues m enumKv).keys.card = m.keys.card := by
      rw [card_keys, card_keys]
      exact Multiset.card_map _ _
    rw [hcard]
    exact hr.count

end Hashtable

end SymDrive

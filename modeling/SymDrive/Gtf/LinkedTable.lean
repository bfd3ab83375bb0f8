import Mathlib.Tactic.Abel
import SymDrive.Gtf.Hashtable
import SymDrive.Library.Chains

/-!
# The hash table in memory

`hashtable/hashtable.c` and `hashtable_change` of `hashtable_utility.c` on the memory they run in:
entries with `next` pointers, which are allocated and freed one by one.  An operation fails where it
would use a null pointer or an entry that is not allocated, and where a loop goes on for longer than
`fuel` allows.

* `Hashtable.view` — the table of lists that stands in the memory.  Each operation does there what
  the operation on lists does: `insert_eq`, `search_eq`, `remove_eq`, `change_eq`, `enumerate_eq`.
* `TableCall.Legal` — a key is inserted once.  Then a run of calls answers as a finite map does
  (`linked_table_is_map`), and the table frees what it was given (`linked_table_frees`).
-/

namespace SymDrive.Linked

open Checked Chains

variable {κ ν : Type}

/-! ## The table and its operations -/

/-- A key or a value that is given to `mjr_kfree`. -/
inductive Freed (κ ν : Type) where
  | key (k : κ)
  | value (v : ν)

/-- `struct hashtable`, with the entries it has allocated and what it has freed. -/
structure Hashtable (κ ν : Type) where
  tablelength : ℕ
  table : ℕ → Option ℕ
  entrycount : UInt32
  loadlimit : ℕ
  primeindex : ℕ
  hashfn : κ → UInt32
  eqfn : κ → κ → Bool
  mem : Heap (Entry κ ν)
  freed : List (Freed κ ν)

/-- The table with the chains `b`, as lists of entries. -/
def Hashtable.view (h : Hashtable κ ν) (b : ℕ → List (ℕ × Entry κ ν)) : SymDrive.Hashtable κ ν where
  tablelength := h.tablelength
  table := fun i => (b i).map Prod.snd
  entrycount := h.entrycount
  loadlimit := h.loadlimit
  primeindex := h.primeindex
  hashfn := h.hashfn
  eqfn := h.eqfn

/-- `hash`, which reads the hash function only. -/
def Hashtable.hash (h : Hashtable κ ν) (k : κ) : UInt32 := (h.view fun _ => []).hash k

/-- An entry matches if its hash is that of the key and the keys are equal. -/
def Hashtable.isKey (h : Hashtable κ ν) (k : κ) (e : Entry κ ν) : Bool :=
  h.hash k == e.h && h.eqfn k e.k

/-- `create_hashtable`: the smallest prime above `minsize`, and nothing if an allocation fails. -/
def createHashtable (minsize : ℕ) (hashf : κ → UInt32) (eqf : κ → κ → Bool)
    (handle table : Bool) : Option (Hashtable κ ν) :=
  if minsize > 1 <<< 30 then none
  else
    let pindex := primes.findIdx (· > minsize)
    let size := primes.getD pindex (primes.getD 0 0)
    if handle && table then
      some { tablelength := size, table := fun _ => none, entrycount := 0,
             loadlimit := loadlimitOf size, primeindex := pindex, hashfn := hashf, eqfn := eqf,
             mem := fun _ => none, freed := [] }
    else none

/-- `hashtable_expand`.  The old array is not looked at again, so that its slots keep their values
here. -/
def hashtableExpand (fuel : ℕ) (h : Hashtable κ ν) (newtable : Bool) :
    Except Misuse (Hashtable κ ν × ℤ) :=
  if h.primeindex = primeTableLength - 1 then .ok (h, 0)
  else
    let newsize := primes.getD (h.primeindex + 1) 0
    if newtable then do
      let (mem, table) ← (List.range h.tablelength).foldlM
        (fun s i => moveChain (fun e => indexFor newsize e.h) fuel (h.table i) s.1 s.2)
        (h.mem, fun _ => none)
      return ({ h with primeindex := h.primeindex + 1, table := table, tablelength := newsize,
                       loadlimit := loadlimitOf newsize, mem := mem }, -1)
    else .ok ({ h with primeindex := h.primeindex + 1 }, 0)

/-- The first half of `hashtable_insert`. -/
def hashtableReserve (fuel : ℕ) (h : Hashtable κ ν) (newtable : Bool) :
    Except Misuse (Hashtable κ ν) :=
  let h := { h with entrycount := h.entrycount + 1 }
  if h.loadlimit < h.entrycount.toNat then (hashtableExpand fuel h newtable).map Prod.fst
  else .ok h

/-- `alloc` chooses the address of the new entry. -/
def hashtableInsert (fuel : ℕ) (h : Hashtable κ ν) (k : κ) (v : ν) (mem : InsertMem)
    (alloc : Allocator (Entry κ ν)) : Except Misuse (Hashtable κ ν × ℤ) := do
  let h ← hashtableReserve fuel h mem.newtable
  if mem.entry then
    let a := alloc.get h.mem
    let e : Entry κ ν := { k := k, v := v, h := h.hash k }
    let index := indexFor h.tablelength e.h
    return ({ h with mem := store h.mem a ⟨e, h.table index⟩,
                     table := Function.update h.table index (some a) }, -1)
  else return ({ h with entrycount := h.entrycount - 1 }, 0)

/-- `hashtable_search` walks along the chain of the key. -/
def hashtableSearch (fuel : ℕ) (h : Hashtable κ ν) (k : κ) : Except Misuse (Option ν) := do
  let hashvalue := h.hash k
  let index := indexFor h.tablelength hashvalue
  let found ← seek (h.isKey k) h.mem fuel none (h.table index)
  return found.map fun (_, _, c) => c.data.v

/-- `hashtable_remove` frees the entry and its key, and returns the value. -/
def hashtableRemove (fuel : ℕ) (h : Hashtable κ ν) (k : κ) :
    Except Misuse (Hashtable κ ν × Option ν) := do
  let hashvalue := h.hash k
  let index := indexFor h.tablelength hashvalue
  let found ← seek (h.isKey k) h.mem fuel none (h.table index)
  match found with
  | some (parent, a, c) =>
      let (head, mem) ← setLink h.mem (h.table index) parent c.next
      let e ← load mem (some a)
      let mem ← free mem a
      return ({ h with table := Function.update h.table index head, mem := mem,
                       entrycount := h.entrycount - 1, freed := .key e.data.k :: h.freed },
        some e.data.v)
  | none => return (h, none)

/-- `hashtable_change` frees the old value. -/
def hashtableChange (fuel : ℕ) (h : Hashtable κ ν) (k : κ) (v : ν) :
    Except Misuse (Hashtable κ ν × ℤ) := do
  let hashvalue := h.hash k
  let index := indexFor h.tablelength hashvalue
  let found ← seek (h.isKey k) h.mem fuel none (h.table index)
  match found with
  | some (_, a, c) =>
      return ({ h with mem := store h.mem a { c with data := { c.data with v := v } },
                       freed := .value c.data.v :: h.freed }, -1)
  | none => return (h, 0)

/-- `hashtable_enumerate`: the pairs that the callback is called with. -/
def hashtableEnumerate (fuel : ℕ) (h : Hashtable κ ν) : Except Misuse (List (κ × ν)) :=
  (List.range h.tablelength).foldlM (fun pairs i => do
    let es ← readChain fuel (h.table i) h.mem
    return pairs ++ es.map fun e => (e.k, e.v)) []

/-- `hashtable_destroy`: the memory that is left, and what has been freed. -/
def hashtableDestroy (fuel : ℕ) (h : Hashtable κ ν) (freeValues : Bool) :
    Except Misuse (Heap (Entry κ ν) × List (Freed κ ν)) := do
  let (es, mem) ← (List.range h.tablelength).foldlM (fun s i => do
    let (ds, m) ← freeChain fuel (h.table i) s.2
    return (s.1 ++ ds, m)) ([], h.mem)
  let freed := es.flatMap fun e =>
    if freeValues then [.key e.k, .value e.v] else [.key e.k]
  return (mem, freed ++ h.freed)

/-! ## The operations on lists -/

/-- The memory holds the chains `b`. -/
def Hashtable.Holds (h : Hashtable κ ν) (b : ℕ → List (ℕ × Entry κ ν)) : Prop :=
  Chained h.mem h.tablelength h.table b

namespace Hashtable

variable {h : Hashtable κ ν} {b : ℕ → List (ℕ × Entry κ ν)} {fuel : ℕ}

lemma view_update (b : ℕ → List (ℕ × Entry κ ν)) (i : ℕ) (l : List (ℕ × Entry κ ν)) :
    (fun j => (Function.update b i l j).map Prod.snd) =
      Function.update (fun j => (b j).map Prod.snd) i (l.map Prod.snd) := by
  funext j
  rcases eq_or_ne j i with rfl | hne
  · rw [Function.update_self, Function.update_self]
  · rw [Function.update_of_ne hne, Function.update_of_ne hne]

/-- Another chain in one bucket. -/
lemma view_setChain (b : ℕ → List (ℕ × Entry κ ν)) (i : ℕ) (l : List (ℕ × Entry κ ν))
    (table : ℕ → Option ℕ) (mem : Heap (Entry κ ν)) (entrycount : UInt32)
    (freed : List (Freed κ ν)) :
    ({ h with table := table, mem := mem, entrycount := entrycount, freed := freed } :
        Hashtable κ ν).view (Function.update b i l) =
      { h.view b with
        table := Function.update (h.view b).table i (l.map Prod.snd)
        entrycount := entrycount } := by
  simp only [view, view_update]

lemma entries_view : (h.view b).entries = (Buckets.contents h.tablelength b).map Prod.snd :=
  (Buckets.contents_map Prod.snd h.tablelength b).symm

/-- No chain is longer than there are entries. -/
lemma length_lt_fuel (hfuel : (h.view b).entries.length < fuel) :
    ∀ i < h.tablelength, (b i).length < fuel := by
  intro i hi
  have hle := (Buckets.sublist_contents hi b).length_le
  rw [entries_view, List.length_map] at hfuel
  exact Nat.lt_of_le_of_lt hle hfuel

/-- Expanding the table does to its view what the expansion of buckets does. -/
lemma expand_eq (hb : h.Holds b) (hlt : h.primeindex < primeTableLength)
    (hfuel : (h.view b).entries.length < fuel) (newtable : Bool) :
    ∃ h' b' n, hashtableExpand fuel h newtable = .ok (h', n) ∧ h'.Holds b' ∧
      SymDrive.hashtableExpand (h.view b) newtable = (h'.view b', n) ∧ h'.freed = h.freed := by
  rw [hashtableExpand, SymDrive.hashtableExpand]
  by_cases hlast : h.primeindex = primeTableLength - 1
  · exact ⟨h, b, 0, if_pos hlast, hb, if_pos hlast, rfl⟩
  · have hlast' : ¬ (h.view b).primeindex = primeTableLength - 1 := hlast
    rw [if_neg hlast, if_neg hlast']
    cases newtable with
    | false => exact ⟨_, b, 0, rfl, hb, rfl, rfl⟩
    | true =>
        have hpos := primes_pos (h.primeindex + 1) (by omega)
        obtain ⟨mem, table, hrun, hmoved⟩ := hb.move
          (fun e => indexFor (primes.getD (h.primeindex + 1) 0) e.h)
          (fun e => indexFor_lt hpos e.h) (length_lt_fuel hfuel)
        let h' : Hashtable κ ν :=
          { h with primeindex := h.primeindex + 1, table := table,
                   tablelength := primes.getD (h.primeindex + 1) 0,
                   loadlimit := loadlimitOf (primes.getD (h.primeindex + 1) 0), mem := mem }
        have hb' : h'.Holds _ := hmoved
        refine ⟨h', _, -1, ?_, hb', ?_, rfl⟩
        · simp only [if_true, hrun, ok_bind]
          rfl
        · simp only [if_true, entries_view]
          congr 2
          funext i
          exact (Buckets.map_rehash Prod.snd (fun e : Entry κ ν => indexFor _ e.h) _ i).symm

/-- So does the test in front of an insertion. -/
lemma reserve_eq (hb : h.Holds b) (hlt : h.primeindex < primeTableLength)
    (hfuel : (h.view b).entries.length < fuel) (newtable : Bool) :
    ∃ h' b', hashtableReserve fuel h newtable = .ok h' ∧ h'.Holds b' ∧
      SymDrive.hashtableReserve (h.view b) newtable = h'.view b' ∧ h'.freed = h.freed := by
  let counted : Hashtable κ ν := { h with entrycount := h.entrycount + 1 }
  have hcounted : counted.Holds b := hb
  obtain ⟨h', b', n, hrun, hb', hview, hfreed⟩ :=
    expand_eq hcounted hlt hfuel newtable
  rw [hashtableReserve, SymDrive.hashtableReserve]
  by_cases hload : h.loadlimit < (h.entrycount + 1).toNat
  · refine ⟨h', b', ?_, hb', ?_, hfreed⟩
    · dsimp only
      rw [if_pos hload, hrun]
      rfl
    · have hload' : (h.view b).loadlimit < ((h.view b).entrycount + 1).toNat := hload
      dsimp only
      rw [if_pos hload']
      exact congrArg Prod.fst hview
  · have hload' : ¬ (h.view b).loadlimit < ((h.view b).entrycount + 1).toNat := hload
    refine ⟨counted, b, ?_, hb, ?_, rfl⟩
    · dsimp only
      rw [if_neg hload]
    · dsimp only
      rw [if_neg hload']
      rfl

/-- **Insertion** does on the memory what it does on lists. -/
theorem insert_eq (hb : h.Holds b) (hw : (h.view b).Wf) (hfuel : (h.view b).entries.length < fuel)
    (k : κ) (v : ν) (mem : InsertMem) (alloc : Allocator (Entry κ ν)) :
    ∃ h' b' n, hashtableInsert fuel h k v mem alloc = .ok (h', n) ∧ h'.Holds b' ∧
      SymDrive.hashtableInsert (h.view b) k v mem = (h'.view b', n) ∧ h'.freed = h.freed := by
  obtain ⟨h₁, b₁, hrun, hb₁, hview, hfreed⟩ :=
    reserve_eq hb hw.primeindex_lt hfuel mem.newtable
  have hw₁ : (h₁.view b₁).Wf := hview ▸ Hashtable.reserve_wf hw mem.newtable
  rw [hashtableInsert, SymDrive.hashtableInsert, hrun, hview, ok_bind]
  cases mem.entry with
  | false => exact ⟨_, b₁, 0, rfl, hb₁, rfl, hfreed⟩
  | true =>
      have hlt : indexFor h₁.tablelength (h₁.hash k) < h₁.tablelength :=
        indexFor_lt hw₁.length_pos _
      refine ⟨_, _, -1, rfl, hb₁.push hlt (hb₁.fresh alloc) ⟨k, v, h₁.hash k⟩, ?_, hfreed⟩
      simp only [if_true, view, view_update]
      rfl

/-- The chain that a key belongs to, in the table of lists. -/
def chainOf (h : Hashtable κ ν) (b : ℕ → List (ℕ × Entry κ ν)) (k : κ) : List (Entry κ ν) :=
  (h.view b).table (indexFor (h.view b).tablelength ((h.view b).hash k))

lemma chainOf_eq {k : κ} {l₁ l₂ : List (ℕ × Entry κ ν)} {a : ℕ} {e : Entry κ ν}
    (hchain : b (indexFor h.tablelength (h.hash k)) = l₁ ++ (a, e) :: l₂) :
    h.chainOf b k = l₁.map Prod.snd ++ e :: l₂.map Prod.snd := by
  have hmap := congrArg (List.map Prod.snd) hchain
  rwa [List.map_append, List.map_cons] at hmap

/-- The entry that a search finds, if there is one. -/
def found (h : Hashtable κ ν) (b : ℕ → List (ℕ × Entry κ ν)) (k : κ) : Option (Entry κ ν) :=
  (h.chainOf b k).find? ((h.view b).isKey k)

/-- The loop over the chain of a key. -/
lemma seek_chain (hb : h.Holds b) (hw : (h.view b).Wf)
    (hfuel : (h.view b).entries.length < fuel) (k : κ) :
    (seek (h.isKey k) h.mem fuel none (h.table (indexFor h.tablelength (h.hash k))) = .ok none ∧
        h.found b k = none) ∨
      ∃ l₁ a e r l₂, b (indexFor h.tablelength (h.hash k)) = l₁ ++ (a, e) :: l₂ ∧
        h.mem a = some ⟨e, r⟩ ∧ (∀ x ∈ l₁.map Prod.snd, h.isKey k x = false) ∧
        h.isKey k e = true ∧ h.found b k = some e ∧
        seek (h.isKey k) h.mem fuel none (h.table (indexFor h.tablelength (h.hash k))) =
          .ok (some (lastAddr l₁, a, ⟨e, r⟩)) := by
  have hlt : indexFor h.tablelength (h.hash k) < h.tablelength := indexFor_lt hw.length_pos _
  rcases hb.seek_cases hlt (length_lt_fuel hfuel _ hlt) (h.isKey k) with
    hnone | ⟨l₁, a, e, r, l₂, hchain, hr, hnot, he, hseek⟩
  · exact Or.inl hnone
  · refine Or.inr ⟨l₁, a, e, r, l₂, hchain, hr, hnot, he, ?_, hseek⟩
    rw [found, chainOf_eq hchain]
    exact List.find?_eq_some_iff_append.mpr
      ⟨he, _, _, rfl, fun x hx => by rw [Bool.not_eq_true']; exact hnot x hx⟩

/-- **Search** finds what it finds on lists. -/
theorem search_eq (hb : h.Holds b) (hw : (h.view b).Wf)
    (hfuel : (h.view b).entries.length < fuel) (k : κ) :
    hashtableSearch fuel h k = .ok (SymDrive.hashtableSearch (h.view b) k) := by
  have hfound : SymDrive.hashtableSearch (h.view b) k = (h.found b k).map Entry.v := rfl
  rw [hashtableSearch, hfound]
  rcases seek_chain hb hw hfuel k with ⟨hseek, hnone⟩ | ⟨_, _, _, _, _, -, -, -, -, hsome, hseek⟩
  · rw [hseek, hnone]
    rfl
  · rw [hseek, hsome]
    rfl

/-- Without a match nothing is removed. -/
lemma remove_of_found_eq_none {k : κ} (hfound : h.found b k = none) :
    SymDrive.hashtableRemove (h.view b) k = (h.view b, none) := by
  rw [found, chainOf] at hfound
  rw [SymDrive.hashtableRemove]
  simp only [hfound]

/-- The entry found is taken out of its chain. -/
lemma remove_of_found_eq_some {k : κ} {e : Entry κ ν} (hfound : h.found b k = some e) :
    SymDrive.hashtableRemove (h.view b) k =
      ({ h.view b with
        table := Function.update (h.view b).table
          (indexFor (h.view b).tablelength ((h.view b).hash k))
          ((h.chainOf b k).eraseP ((h.view b).isKey k))
        entrycount := h.entrycount - 1 }, some e.v) := by
  rw [found, chainOf] at hfound
  rw [SymDrive.hashtableRemove, chainOf]
  simp only [hfound]
  rfl

/-- **Removal** takes out and frees the entry, and its key. -/
theorem remove_eq (hb : h.Holds b) (hw : (h.view b).Wf)
    (hfuel : (h.view b).entries.length < fuel) (k : κ) :
    ∃ h' b' o, hashtableRemove fuel h k = .ok (h', o) ∧ h'.Holds b' ∧
      SymDrive.hashtableRemove (h.view b) k = (h'.view b', o) ∧
      h'.freed = ((h.found b k).map fun e => .key e.k).toList ++ h.freed := by
  rw [hashtableRemove]
  rcases seek_chain hb hw hfuel k with
    ⟨hseek, hnone⟩ | ⟨l₁, a, e, r, l₂, hchain, hr, hnot, he, hsome, hseek⟩
  · refine ⟨h, b, none, ?_, hb, ?_, ?_⟩
    · rw [hseek]
      rfl
    · exact remove_of_found_eq_none hnone
    · rw [hnone]
      rfl
  · have hlt : indexFor h.tablelength (h.hash k) < h.tablelength := indexFor_lt hw.length_pos _
    obtain ⟨head, mem, hlink, hload, hunlinked⟩ := hb.unlink hlt hchain hr
    let h' : Hashtable κ ν :=
      { h with table := Function.update h.table (indexFor h.tablelength (h.hash k)) head,
               mem := Function.update mem a none, entrycount := h.entrycount - 1,
               freed := .key e.k :: h.freed }
    have hb' : h'.Holds (Function.update b (indexFor h.tablelength (h.hash k)) (l₁ ++ l₂)) :=
      hunlinked
    refine ⟨h', _, some e.v, ?_, hb', ?_, ?_⟩
    · simp only [hseek, ok_bind, hlink, load_eq_ok hload, free_eq_ok hload]
      rfl
    · have herase : (h.chainOf b k).eraseP ((h.view b).isKey k) = (l₁ ++ l₂).map Prod.snd := by
        rw [chainOf_eq hchain, List.map_append]
        exact Buckets.eraseP_append he hnot
      rw [remove_of_found_eq_some hsome, herase]
      exact congrArg (fun t => (t, some e.v)) (view_setChain ..).symm
    · rw [hsome]
      rfl

/-- **A change** of the value of a key that is there frees the value before. -/
theorem change_of_found (hb : h.Holds b) (hw : (h.view b).Wf)
    (hfuel : (h.view b).entries.length < fuel) {k : κ} {e : Entry κ ν}
    (hfound : h.found b k = some e) (v : ν) :
    ∃ h' b', hashtableChange fuel h k v = .ok (h', -1) ∧ h'.Holds b' ∧
      h'.view b' = hashtableModify (h.view b) k (fun _ => v) ∧
      h'.freed = .value e.v :: h.freed := by
  rcases seek_chain hb hw hfuel k with
    ⟨-, hnone⟩ | ⟨l₁, a, e', r, l₂, hchain, hr, hnot, he, hsome, hseek⟩
  · cases hnone.symm.trans hfound
  · obtain rfl := Option.some.inj (hsome.symm.trans hfound)
    have hlt : indexFor h.tablelength (h.hash k) < h.tablelength := indexFor_lt hw.length_pos _
    let h' : Hashtable κ ν :=
      { h with mem := store h.mem a ⟨{ e' with v := v }, r⟩, freed := .value e'.v :: h.freed }
    have hb' : h'.Holds _ := hb.setData hlt hchain hr
    refine ⟨h', _, ?_, hb', ?_, rfl⟩
    · rw [hashtableChange, hseek]
      rfl
    · have hmodify : Buckets.modifyFirst ((h.view b).isKey k) (fun e => { e with v := v })
          (h.chainOf b k) = (l₁ ++ (a, { e' with v := v }) :: l₂).map Prod.snd := by
        rw [chainOf_eq hchain, List.map_append, List.map_cons]
        exact Buckets.modifyFirst_append he hnot
      refine (view_setChain ..).trans ?_
      rw [← hmodify]
      rfl

/-- Nothing is changed for a key that is not there. -/
lemma change_of_notFound (hb : h.Holds b) (hw : (h.view b).Wf)
    (hfuel : (h.view b).entries.length < fuel) {k : κ} (hfound : h.found b k = none) (v : ν) :
    hashtableChange fuel h k v = .ok (h, 0) := by
  rcases seek_chain hb hw hfuel k with ⟨hseek, -⟩ | ⟨_, _, _, _, _, -, -, -, -, hsome, -⟩
  · rw [hashtableChange, hseek]
    rfl
  · cases hfound.symm.trans hsome

/-- The enumeration comes by every entry of the view. -/
lemma enumerate_eq (hb : h.Holds b) (hfuel : (h.view b).entries.length < fuel) :
    hashtableEnumerate fuel h = .ok ((h.view b).entries.map fun e => (e.k, e.v)) := by
  rw [entries_view, List.map_map]
  exact hb.readAll (fun e => (e.k, e.v)) (length_lt_fuel hfuel)

/-- What is freed with an entry. -/
def freedWith (freeValues : Bool) (e : Entry κ ν) : List (Freed κ ν) :=
  if freeValues then [.key e.k, .value e.v] else [.key e.k]

/-- **The end**: no entry is left. -/
theorem destroy_eq (hb : h.Holds b) (hfuel : (h.view b).entries.length < fuel)
    (freeValues : Bool) :
    hashtableDestroy fuel h freeValues =
      .ok (fun _ => none, (h.view b).entries.flatMap (freedWith freeValues) ++ h.freed) := by
  rw [hashtableDestroy, hb.freeAll (length_lt_fuel hfuel), entries_view]
  rfl

/-- What is found is what the map has under the key. -/
lemma found_eq_some [DecidableEq κ] {m : Finmap fun _ : κ => ν} (hr : (h.view b).Refines m) {k : κ}
    {e : Entry κ ν} (hfound : h.found b k = some e) : m.lookup k = some e.v ∧ e.k = k := by
  constructor
  · rw [← SymDrive.Hashtable.hashtableSearch_eq hr]
    exact Option.map_eq_some_iff.mpr ⟨e, hfound, rfl⟩
  · exact ((SymDrive.Hashtable.find?_isKey hr).mp hfound).2

lemma found_eq_none [DecidableEq κ] {m : Finmap fun _ : κ => ν} (hr : (h.view b).Refines m) {k : κ}
    (hfound : h.found b k = none) : m.lookup k = none := by
  rw [← SymDrive.Hashtable.hashtableSearch_eq hr]
  exact Option.map_eq_none_iff.mpr hfound

lemma length_entries {m : Finmap fun _ : κ => ν} (hr : (h.view b).Refines m) :
    (h.view b).entries.length = Multiset.card m.entries := by
  rw [← hr.entries, Multiset.coe_card, List.length_map]

end Hashtable

/-- An insertion that gets no memory leaves the map as it is. -/
lemma refines_insert_of_entry_eq_false {h : SymDrive.Hashtable κ ν} {m : Finmap fun _ : κ => ν}
    (hr : h.Refines m) (k : κ) (v : ν) {mem : InsertMem} (hmem : mem.entry = false) :
    (SymDrive.hashtableInsert h k v mem).1.Refines m := by
  have hw := SymDrive.Hashtable.insert_wf hr.wf k v mem
  rw [SymDrive.hashtableInsert, hmem] at hw ⊢
  refine ⟨hw, ?_, ?_⟩
  · rw [← hr.entries]
    exact Multiset.coe_eq_coe.mpr
      ((SymDrive.Hashtable.reserve_entries_perm hr.wf.primeindex_lt mem.newtable).map Entry.binding)
  · have hcount := SymDrive.Hashtable.reserve_entrycount h mem.newtable
    rw [hr.count] at hcount
    exact (congrArg (· - 1) hcount).trans (UInt32.add_sub_cancel _ _)

/-! ## Runs of calls -/

/-- A call on the table, with the allocations of its moment. -/
inductive TableCall (κ ν : Type) where
  | insert (k : κ) (v : ν) (mem : InsertMem) (alloc : Allocator (Entry κ ν))
  | search (k : κ)
  | remove (k : κ)
  | change (k : κ) (v : ν)
  | enumerate

/-- What a call returns. -/
inductive Reply (κ ν : Type) where
  | int (n : ℤ)
  | pointer (v : Option ν)
  | pairs (l : List (κ × ν))

namespace TableCall

def exec (fuel : ℕ) (h : Hashtable κ ν) : TableCall κ ν → Except Misuse (Hashtable κ ν × Reply κ ν)
  | insert k v mem alloc => (hashtableInsert fuel h k v mem alloc).map fun (h, n) => (h, .int n)
  | search k => (hashtableSearch fuel h k).map fun v => (h, .pointer v)
  | remove k => (hashtableRemove fuel h k).map fun (h, v) => (h, .pointer v)
  | change k v => (hashtableChange fuel h k v).map fun (h, n) => (h, .int n)
  | enumerate => (hashtableEnumerate fuel h).map fun l => (h, .pairs l)

end TableCall

/-- A run of calls, with the replies. -/
def runCalls (fuel : ℕ) :
    Hashtable κ ν → List (TableCall κ ν) → Except Misuse (Hashtable κ ν × List (Reply κ ν))
  | h, [] => .ok (h, [])
  | h, c :: cs => do
      let (h, r) ← c.exec fuel h
      let (h, rs) ← runCalls fuel h cs
      return (h, r :: rs)

/-! ### The map -/

section

variable [DecidableEq κ]

namespace TableCall

def next (m : Finmap fun _ : κ => ν) : TableCall κ ν → Finmap fun _ : κ => ν
  | insert k v mem _ => if mem.entry then m.insert k v else m
  | search _ => m
  | remove k => m.erase k
  | change k v => if k ∈ m then m.insert k v else m
  | enumerate => m

/-- The calls that return an `int` return -1 when they have done what they were called for. -/
def Answers (m : Finmap fun _ : κ => ν) : TableCall κ ν → Reply κ ν → Prop
  | insert _ _ mem _, r => r = .int (if mem.entry then -1 else 0)
  | search k, r => r = .pointer (m.lookup k)
  | remove k, r => r = .pointer (m.lookup k)
  | change k _, r => r = .int (if k ∈ m then -1 else 0)
  | enumerate, r => ∃ l, r = .pairs l ∧
      ((l.map fun p => (⟨p.1, p.2⟩ : Sigma fun _ : κ => ν) : List _) : Multiset _) = m.entries

/-- Keys are not inserted twice. -/
def Legal (m : Finmap fun _ : κ => ν) : TableCall κ ν → Prop
  | insert k _ _ _ => k ∉ m
  | search _ | remove _ | change _ _ | enumerate => True

/-- What the caller gives to the table. -/
def given (m : Finmap fun _ : κ => ν) : TableCall κ ν → Multiset (Freed κ ν)
  | insert k v mem _ => if mem.entry then {.key k} + {.value v} else 0
  | change k v => if k ∈ m then {.value v} else 0
  | search _ | remove _ | enumerate => 0

/-- What the caller gets back. -/
def taken (m : Finmap fun _ : κ => ν) : TableCall κ ν → Multiset (Freed κ ν)
  | remove k => ((m.lookup k).map fun v => {.value v}).getD 0
  | insert _ _ _ _ | search _ | change _ _ | enumerate => 0

end TableCall

/-- The replies are those of a map. -/
def Answered (m : Finmap fun _ : κ => ν) : List (TableCall κ ν) → List (Reply κ ν) → Prop
  | [], [] => True
  | c :: cs, r :: rs => c.Answers m r ∧ Answered (c.next m) cs rs
  | [], _ :: _ | _ :: _, [] => False

def given (m : Finmap fun _ : κ => ν) : List (TableCall κ ν) → Multiset (Freed κ ν)
  | [] => 0
  | c :: cs => c.given m + given (c.next m) cs

def taken (m : Finmap fun _ : κ => ν) : List (TableCall κ ν) → Multiset (Freed κ ν)
  | [] => 0
  | c :: cs => c.taken m + taken (c.next m) cs

end

/-- The values in the map. -/
def heldValues (m : Finmap fun _ : κ => ν) : Multiset (Freed κ ν) :=
  m.entries.map fun p => .value p.2

/-- The keys and the values in the map. -/
def held (m : Finmap fun _ : κ => ν) : Multiset (Freed κ ν) :=
  (m.entries.map fun p => .key p.1) + heldValues m

/-- What a map holds, with one pair taken out. -/
lemma held_of_entries {m : Finmap fun _ : κ => ν} {k : κ} {v : ν}
    {s : Multiset (Sigma fun _ : κ => ν)} (hm : m.entries = ⟨k, v⟩ ::ₘ s) :
    held m = {.key k} + {.value v} + (s.map (fun p => .key p.1) + s.map fun p => .value p.2) := by
  rw [held, heldValues, hm, Multiset.map_cons, Multiset.map_cons, ← Multiset.singleton_add,
    ← Multiset.singleton_add (Freed.value v)]
  abel

/-! ### What one call does -/

section

variable [DecidableEq κ] {h : Hashtable κ ν} {b : ℕ → List (ℕ × Entry κ ν)} {fuel : ℕ}
  {m : Finmap fun _ : κ => ν}

lemma erase_of_lookup_eq_none {k : κ} (hlookup : m.lookup k = none) : m.erase k = m := by
  refine Finmap.ext_lookup fun a => ?_
  rcases eq_or_ne a k with rfl | hne
  · rw [Finmap.lookup_erase, hlookup]
  · rw [Finmap.lookup_erase_ne hne]

/-- What a call that goes through has done: the memory holds the map of the specification, and what
was given is freed, taken back or held. -/
structure Done (h : Hashtable κ ν) (m : Finmap fun _ : κ => ν) (c : TableCall κ ν)
    (h' : Hashtable κ ν) (r : Reply κ ν) : Prop where
  holds : ∃ b', h'.Holds b' ∧ (h'.view b').Refines (c.next m)
  answers : c.Answers m r
  balance : (h'.freed : Multiset (Freed κ ν)) + c.taken m + held (c.next m) =
    h.freed + c.given m + held m

/-- A call that changes neither the map nor the heap. -/
lemma Done.of_unchanged {c : TableCall κ ν} {r : Reply κ ν} (hb : h.Holds b)
    (hr : (h.view b).Refines m) (hnext : c.next m = m) (hgiven : c.given m = 0)
    (htaken : c.taken m = 0) (hanswers : c.Answers m r) : Done h m c h r where
  holds := ⟨b, hb, by rwa [hnext]⟩
  answers := hanswers
  balance := by rw [hnext, hgiven, htaken]

/-- An insertion is the insertion into the map, or fails and frees nothing. -/
lemma insert_done (hb : h.Holds b) (hr : (h.view b).Refines m)
    (hfuel : (h.view b).entries.length < fuel) {k : κ} (hk : k ∉ m) (v : ν) (mem : InsertMem)
    (alloc : Allocator (Entry κ ν)) :
    ∃ h' r, (TableCall.insert k v mem alloc).exec fuel h = .ok (h', r) ∧
      Done h m (.insert k v mem alloc) h' r := by
  obtain ⟨h', b', n, hrun, hb', hview, hfreed⟩ :=
    Hashtable.insert_eq hb hr.wf hfuel k v mem alloc
  refine ⟨h', .int n, ?_, ?_⟩
  · rw [TableCall.exec, hrun]
    rfl
  · have hview₁ : (SymDrive.hashtableInsert (h.view b) k v mem).1 = h'.view b' :=
      congrArg Prod.fst hview
    have hview₂ : (SymDrive.hashtableInsert (h.view b) k v mem).2 = n := congrArg Prod.snd hview
    cases hmem : mem.entry with
    | false =>
        have hnext : (TableCall.insert k v mem alloc).next m = m := by simp [TableCall.next, hmem]
        refine ⟨⟨b', hb', ?_⟩, ?_, ?_⟩
        · rw [hnext, ← hview₁]
          exact refines_insert_of_entry_eq_false hr k v hmem
        · rw [TableCall.Answers, ← hview₂, SymDrive.hashtableInsert, hmem]
          rfl
        · rw [hnext, hfreed]
          simp [TableCall.given, TableCall.taken, hmem]
    | true =>
        have hnext : (TableCall.insert k v mem alloc).next m = m.insert k v := by
          simp [TableCall.next, hmem]
        refine ⟨⟨b', hb', ?_⟩, ?_, ?_⟩
        · rw [hnext, ← hview₁]
          exact SymDrive.Hashtable.refines_insert hr hk v hmem
        · rw [TableCall.Answers, ← hview₂, SymDrive.hashtableInsert, hmem]
          rfl
        · have hgiven : (TableCall.insert k v mem alloc).given m = {.key k} + {.value v} := by
            simp [TableCall.given, hmem]
          rw [hnext, hfreed, hgiven, held_of_entries (Finmap.entries_insert_of_notMem hk), held,
            heldValues, TableCall.taken]
          abel

/-- A removal frees the key and hands out the value. -/
lemma remove_done (hb : h.Holds b) (hr : (h.view b).Refines m)
    (hfuel : (h.view b).entries.length < fuel) (k : κ) :
    ∃ h' r, (TableCall.remove k).exec fuel h = .ok (h', r) ∧ Done h m (.remove k) h' r := by
  obtain ⟨h', b', o, hrun, hb', hview, hfreed⟩ := Hashtable.remove_eq hb hr.wf hfuel k
  have hview₁ : (SymDrive.hashtableRemove (h.view b) k).1 = h'.view b' := congrArg Prod.fst hview
  refine ⟨h', .pointer o, ?_, ⟨b', hb', ?_⟩, ?_, ?_⟩
  · rw [TableCall.exec, hrun]
    rfl
  · rw [TableCall.next, ← hview₁]
    exact SymDrive.Hashtable.refines_remove hr k
  · rw [TableCall.Answers, ← SymDrive.Hashtable.hashtableSearch_eq hr,
      ← SymDrive.Hashtable.remove_snd, hview]
  · rw [TableCall.next, TableCall.given, TableCall.taken, hfreed]
    cases hfound : h.found b k with
    | none =>
        have hlookup := Hashtable.found_eq_none hr hfound
        rw [erase_of_lookup_eq_none hlookup, hlookup]
        rfl
    | some e =>
        obtain ⟨hlookup, rfl⟩ := Hashtable.found_eq_some hr hfound
        rw [held_of_entries (SymDrive.Hashtable.entries_erase hlookup), held, heldValues, hlookup]
        simp only [Option.map_some, Option.getD_some, Option.toList_some, List.singleton_append,
          ← Multiset.cons_coe, ← Multiset.singleton_add]
        abel

/-- A change frees the value that it replaces. -/
lemma change_done (hb : h.Holds b) (hr : (h.view b).Refines m)
    (hfuel : (h.view b).entries.length < fuel) (k : κ) (v : ν) :
    ∃ h' r, (TableCall.change k v).exec fuel h = .ok (h', r) ∧ Done h m (.change k v) h' r := by
  cases hfound : h.found b k with
  | none =>
      have hk : k ∉ m := Finmap.lookup_eq_none.mp (Hashtable.found_eq_none hr hfound)
      refine ⟨h, .int 0, ?_, Done.of_unchanged hb hr (if_neg hk) (if_neg hk) rfl ?_⟩
      · rw [TableCall.exec, Hashtable.change_of_notFound hb hr.wf hfuel hfound v]
        rfl
      · rw [TableCall.Answers, if_neg hk]
  | some e =>
      obtain ⟨hlookup, -⟩ := Hashtable.found_eq_some hr hfound
      have hk : k ∈ m := Finmap.mem_of_lookup_eq_some hlookup
      obtain ⟨h', b', hrun, hb', hview, hfreed⟩ :=
        Hashtable.change_of_found hb hr.wf hfuel hfound v
      refine ⟨h', .int (-1), ?_, ⟨b', hb', ?_⟩, ?_, ?_⟩
      · rw [TableCall.exec, hrun]
        rfl
      · rw [TableCall.next, if_pos hk, hview]
        exact SymDrive.Hashtable.refines_modify hr hlookup fun _ => v
      · rw [TableCall.Answers, if_pos hk]
      · rw [TableCall.next, TableCall.given, TableCall.taken, if_pos hk, if_pos hk, hfreed,
          held_of_entries (SymDrive.Hashtable.entries_insert k v),
          held_of_entries (SymDrive.Hashtable.entries_erase hlookup), ← Multiset.cons_coe,
          ← Multiset.singleton_add]
        abel

/-- **One call** goes through, and does what it does on the map. -/
lemma exec_done (hb : h.Holds b) (hr : (h.view b).Refines m)
    (hfuel : Multiset.card m.entries < fuel) {c : TableCall κ ν} (hlegal : c.Legal m) :
    ∃ h' r, c.exec fuel h = .ok (h', r) ∧ Done h m c h' r := by
  rw [← Hashtable.length_entries hr] at hfuel
  cases c with
  | insert k v mem alloc => exact insert_done hb hr hfuel hlegal v mem alloc
  | search k =>
      refine ⟨h, .pointer (m.lookup k), ?_, Done.of_unchanged hb hr rfl rfl rfl rfl⟩
      rw [TableCall.exec, Hashtable.search_eq hb hr.wf hfuel,
        SymDrive.Hashtable.hashtableSearch_eq hr]
      rfl
  | remove k => exact remove_done hb hr hfuel k
  | change k v => exact change_done hb hr hfuel k v
  | enumerate =>
      refine ⟨h, .pairs ((h.view b).entries.map fun e => (e.k, e.v)), ?_,
        Done.of_unchanged hb hr rfl rfl rfl ⟨_, rfl, ?_⟩⟩
      · rw [TableCall.exec, Hashtable.enumerate_eq hb hfuel]
        rfl
      · rw [List.map_map, ← hr.entries]
        rfl

/-- A call adds one pair at most. -/
lemma card_next (c : TableCall κ ν) (hlegal : c.Legal m) :
    Multiset.card (c.next m).entries ≤ Multiset.card m.entries + 1 := by
  cases c with
  | insert k v mem alloc =>
      rw [TableCall.next]
      split_ifs
      · rw [Finmap.entries_insert_of_notMem hlegal, Multiset.card_cons]
      · exact Nat.le_succ _
  | search k => exact Nat.le_succ _
  | remove k =>
      rw [TableCall.next]
      cases hlookup : m.lookup k with
      | none =>
          rw [erase_of_lookup_eq_none hlookup]
          exact Nat.le_succ _
      | some v =>
          rw [SymDrive.Hashtable.entries_erase hlookup, Multiset.card_cons]
          omega
  | change k v =>
      rw [TableCall.next]
      split_ifs with hk
      · obtain ⟨v', hlookup⟩ := Finmap.mem_iff.mp hk
        rw [SymDrive.Hashtable.entries_insert, SymDrive.Hashtable.entries_erase hlookup,
          Multiset.card_cons, Multiset.card_cons]
        exact Nat.le_succ _
      · exact Nat.le_succ _
  | enumerate => exact Nat.le_succ _

/-- A run adds at most one pair for each call. -/
lemma card_foldl_next : ∀ {cs : List (TableCall κ ν)} {m : Finmap fun _ : κ => ν},
    Along TableCall.next TableCall.Legal m cs →
      Multiset.card (cs.foldl TableCall.next m).entries ≤ Multiset.card m.entries + cs.length
  | [], _, _ => Nat.le_refl _
  | c :: cs, m, ⟨hlegal, hrest⟩ => by
      have hc := card_next c hlegal
      have hcs := card_foldl_next hrest
      rw [List.foldl_cons, List.length_cons]
      omega

/-- **A run** goes through, and does what it does on the map. -/
lemma run_done : ∀ {cs : List (TableCall κ ν)} {h : Hashtable κ ν} {b : ℕ → List (ℕ × Entry κ ν)}
    {m : Finmap fun _ : κ => ν}, h.Holds b → (h.view b).Refines m →
      Along TableCall.next TableCall.Legal m cs → Multiset.card m.entries + cs.length < fuel →
      ∃ h' rs, runCalls fuel h cs = .ok (h', rs) ∧ Answered m cs rs ∧
        (∃ b', h'.Holds b' ∧ (h'.view b').Refines (cs.foldl TableCall.next m)) ∧
        (h'.freed : Multiset (Freed κ ν)) + taken m cs + held (cs.foldl TableCall.next m) =
          h.freed + given m cs + held m
  | [], h, b, m, hb, hr, _, _ => ⟨h, [], rfl, trivial, ⟨b, hb, hr⟩, rfl⟩
  | c :: cs, h, b, m, hb, hr, ⟨hlegal, hrest⟩, hfuel => by
      rw [List.length_cons] at hfuel
      have hcard := card_next c hlegal
      have hfuel₀ : Multiset.card m.entries < fuel := by omega
      obtain ⟨h₁, r, hexec, ⟨b₁, hb₁, hr₁⟩, hanswers, hbalance⟩ := exec_done hb hr hfuel₀ hlegal
      obtain ⟨h', rs, hrun, hanswered, hholds, hbalance'⟩ :=
        run_done hb₁ hr₁ hrest (by omega)
      refine ⟨h', r :: rs, ?_, ⟨hanswers, hanswered⟩, hholds, ?_⟩
      · rw [runCalls]
        exact bind_eq_ok.mpr ⟨_, hexec, bind_eq_ok.mpr ⟨_, hrun, rfl⟩⟩
      · rw [List.foldl_cons, taken, given]
        calc (h'.freed : Multiset (Freed κ ν)) + (c.taken m + taken (c.next m) cs) +
                held (cs.foldl TableCall.next (c.next m))
            = (h'.freed + taken (c.next m) cs + held (cs.foldl TableCall.next (c.next m))) +
                c.taken m := by abel
          _ = (h₁.freed + c.taken m + held (c.next m)) + given (c.next m) cs := by
                rw [hbalance']
                abel
          _ = h.freed + (c.given m + given (c.next m) cs) + held m := by
                rw [hbalance]
                abel

end

/-! ### From creation to destruction -/

section

variable {minsize : ℕ} {hashf : κ → UInt32} {eqf : κ → κ → Bool} {handle table : Bool}
  {h₀ : Hashtable κ ν}

/-- A new table is empty. -/
lemma holds_create (hcreate : createHashtable minsize hashf eqf handle table = some h₀) :
    h₀.Holds (fun _ => []) ∧ h₀.freed = [] ∧
      SymDrive.createHashtable minsize hashf eqf true true = some (h₀.view fun _ => []) := by
  rw [createHashtable] at hcreate
  rw [SymDrive.createHashtable]
  split_ifs at hcreate with hsize hmem
  cases hcreate
  exact ⟨Chained.empty _, rfl, if_neg hsize⟩

lemma flatMap_freedWith_false (es : List (Entry κ ν)) :
    es.flatMap (Hashtable.freedWith false) = es.map fun e => .key e.k := by
  induction es with
  | nil => rfl
  | cons e es ih =>
      rw [List.flatMap_cons, ih]
      rfl

lemma flatMap_freedWith_true (es : List (Entry κ ν)) :
    (es.flatMap (Hashtable.freedWith true) : Multiset (Freed κ ν)) =
      (es.map fun e => .key e.k : List (Freed κ ν)) +
        (es.map fun e => .value e.v : List (Freed κ ν)) := by
  induction es with
  | nil => rfl
  | cons e es ih =>
      have hcons : (e :: es).flatMap (Hashtable.freedWith true) =
          .key e.k :: .value e.v :: es.flatMap (Hashtable.freedWith true) := rfl
      rw [hcons, ← Multiset.cons_coe, ← Multiset.cons_coe, ih, List.map_cons, List.map_cons,
        ← Multiset.cons_coe, ← Multiset.cons_coe, Multiset.cons_add, Multiset.add_cons]

/-- What `hashtable_destroy` frees and what it leaves to the caller is what the map holds. -/
lemma freedWith_add_left {h : SymDrive.Hashtable κ ν} {m : Finmap fun _ : κ => ν} (hr : h.Refines m)
    (freeValues : Bool) :
    (h.entries.flatMap (Hashtable.freedWith freeValues) : Multiset (Freed κ ν)) +
      (if freeValues then 0 else heldValues m) = held m := by
  have hkeys : ((h.entries.map fun e => .key e.k : List (Freed κ ν)) : Multiset (Freed κ ν)) =
      m.entries.map fun p => .key p.1 := by
    rw [← hr.entries, Multiset.map_coe, List.map_map]
    rfl
  have hvalues : ((h.entries.map fun e => .value e.v : List (Freed κ ν)) : Multiset (Freed κ ν)) =
      m.entries.map fun p => .value p.2 := by
    rw [← hr.entries, Multiset.map_coe, List.map_map]
    rfl
  cases freeValues with
  | false =>
      rw [flatMap_freedWith_false, hkeys]
      rfl
  | true =>
      rw [flatMap_freedWith_true, hkeys, hvalues]
      exact add_zero _

open Classical in
/-- The lowest address that is not in use. -/
noncomputable def lowestFree (δ : Type) : Allocator δ where
  get m := if h : ∃ a, m a = none then Nat.find h else 0
  fresh m a ha := by
    have hfree : ∃ a, m a = none := ⟨a, ha⟩
    rw [dif_pos hfree]
    exact Nat.find_spec hfree

/-- Two insertions, the second one without memory for the entry, a change and a removal. -/
noncomputable def exampleCalls : List (TableCall ℕ String) :=
  [.insert 1 "a" ⟨true, true⟩ (lowestFree _), .insert 2 "b" ⟨true, false⟩ (lowestFree _),
    .change 1 "c", .remove 1, .remove 2]

lemma exampleCalls_legal :
    Along TableCall.next TableCall.Legal (∅ : Finmap fun _ : ℕ => String) exampleCalls := by
  refine ⟨Finmap.notMem_empty, ?_, trivial, trivial, trivial, trivial⟩
  rw [TableCall.Legal, TableCall.next, if_pos rfl, Finmap.mem_insert]
  rintro (hk | hk)
  · exact absurd hk (by decide)
  · exact Finmap.notMem_empty hk

/-- Insertions of the keys below `n`. -/
noncomputable def insertions (n : ℕ) : List (TableCall ℕ String) :=
  (List.range n).map fun k => .insert k "a" ⟨true, true⟩ (lowestFree _)

@[simp] lemma length_insertions (n : ℕ) : (insertions n).length = n := by
  rw [insertions, List.length_map, List.length_range]

lemma insertions_succ (n : ℕ) :
    insertions (n + 1) = insertions n ++ [.insert n "a" ⟨true, true⟩ (lowestFree _)] := by
  rw [insertions, List.range_succ, List.map_append]
  rfl

/-- The insertions put in the numbers below `n`. -/
lemma mem_insertions {n k : ℕ} :
    k ∈ (insertions n).foldl TableCall.next (∅ : Finmap fun _ : ℕ => String) ↔ k < n := by
  induction n with
  | zero => exact iff_of_false Finmap.notMem_empty k.not_lt_zero
  | succ n ih =>
      rw [insertions_succ, List.foldl_append, List.foldl_cons, List.foldl_nil, TableCall.next,
        if_pos rfl, Finmap.mem_insert, ih]
      omega

/-- No key is inserted twice. -/
lemma insertions_legal (n : ℕ) :
    Along TableCall.next TableCall.Legal (∅ : Finmap fun _ : ℕ => String) (insertions n) := by
  induction n with
  | zero => exact trivial
  | succ n ih =>
      rw [insertions_succ]
      exact ih.append ⟨fun hmem => lt_irrefl n (mem_insertions.mp hmem), trivial⟩

/-- One of the keys is searched and removed at the end. -/
noncomputable def fillingCalls (n k : ℕ) : List (TableCall ℕ String) :=
  insertions n ++ [.search k, .remove k]

lemma fillingCalls_legal (n k : ℕ) :
    Along TableCall.next TableCall.Legal (∅ : Finmap fun _ : ℕ => String) (fillingCalls n k) :=
  (insertions_legal n).append ⟨trivial, trivial, trivial⟩

lemma length_fillingCalls (n k : ℕ) : (fillingCalls n k).length = n + 2 := by
  simp [fillingCalls]

/-- A run that starts with an empty table needs fuel for its calls only. -/
lemma start_lt_fuel {cs : List (TableCall κ ν)} {fuel : ℕ} (hfuel : cs.length < fuel) :
    Multiset.card (∅ : Finmap fun _ : κ => ν).entries + cs.length < fuel := by
  have hempty : Multiset.card (∅ : Finmap fun _ : κ => ν).entries = 0 := rfl
  omega

variable [DecidableEq κ]

/-- **The table in memory is a map.**  In every run of calls on a new table that inserts no key
twice, whichever allocations fail, no null pointer and no freed entry is used, every loop ends, the
calls answer as a finite map does, and the memory holds the map's bindings and nothing else. -/
theorem linked_table_is_map (heq : ∀ a b, eqf a b = true ↔ a = b)
    (hcreate : createHashtable minsize hashf eqf handle table = some h₀)
    (cs : List (TableCall κ ν)) (hlegal : Along TableCall.next TableCall.Legal ∅ cs) (fuel : ℕ)
    (hfuel : cs.length < fuel) :
    ∃ h rs, runCalls fuel h₀ cs = .ok (h, rs) ∧ Answered ∅ cs rs ∧
      ∃ b, h.Holds b ∧ (h.view b).Refines (cs.foldl TableCall.next ∅) := by
  obtain ⟨hb, -, hview⟩ := holds_create hcreate
  have hr := SymDrive.Hashtable.refines_create heq hview
  obtain ⟨h, rs, hrun, hanswered, hholds, -⟩ := run_done hb hr hlegal (start_lt_fuel hfuel)
  exact ⟨h, rs, hrun, hanswered, hholds⟩

/-- A table of 3079 slots is for 1539 entries, so that the last insertion expands it. -/
theorem fillingCalls_is_map : ∃ (h₀ h : Hashtable ℕ String) (rs : List (Reply ℕ String)),
    createHashtable 10 UInt32.ofNat (· == ·) true true = some h₀ ∧ h₀.loadlimit = 1539 ∧
      runCalls 1543 h₀ (fillingCalls 1540 7) = .ok (h, rs) ∧
      Answered ∅ (fillingCalls 1540 7) rs := by
  obtain ⟨h₀, hcreate, hlimit⟩ : ∃ h₀ : Hashtable ℕ String,
      createHashtable 10 UInt32.ofNat (· == ·) true true = some h₀ ∧ h₀.loadlimit = 1539 :=
    ⟨_, rfl, rfl⟩
  -- the calls are not to be unfolded
  generalize hn : 1540 = n
  obtain ⟨h, rs, hrun, hanswered, -⟩ := linked_table_is_map (fun _ _ => beq_iff_eq) hcreate
    (fillingCalls n 7) (fillingCalls_legal n 7) 1543 (by rw [length_fillingCalls]; omega)
  exact ⟨h₀, h, rs, hcreate, hlimit, hrun, hanswered⟩

/-- **The table frees what it was given.**  After every such run `hashtable_destroy` leaves no entry
allocated, and each key and each value that was given to the table has been freed once, but for the
values that removals have returned, and for those that `hashtable_destroy` is told to leave. -/
theorem linked_table_frees (heq : ∀ a b, eqf a b = true ↔ a = b)
    (hcreate : createHashtable minsize hashf eqf handle table = some h₀)
    (cs : List (TableCall κ ν)) (hlegal : Along TableCall.next TableCall.Legal ∅ cs) (fuel : ℕ)
    (hfuel : cs.length < fuel) (freeValues : Bool) :
    ∃ h rs freed, runCalls fuel h₀ cs = .ok (h, rs) ∧
      hashtableDestroy fuel h freeValues = .ok (fun _ => none, freed) ∧
      (freed : Multiset (Freed κ ν)) + taken ∅ cs +
        (if freeValues then 0 else heldValues (cs.foldl TableCall.next ∅)) = given ∅ cs := by
  obtain ⟨hb₀, hfreed₀, hview⟩ := holds_create hcreate
  have hr₀ := SymDrive.Hashtable.refines_create heq hview
  obtain ⟨h, rs, hrun, -, ⟨b, hb, hr⟩, hbalance⟩ :=
    run_done hb₀ hr₀ hlegal (start_lt_fuel hfuel)
  have hcard := card_foldl_next hlegal
  have hlength := Hashtable.length_entries hr
  have hstart := start_lt_fuel (κ := κ) hfuel
  refine ⟨h, rs, _, hrun, Hashtable.destroy_eq hb (by omega) freeValues, ?_⟩
  have hdestroyed := freedWith_add_left hr freeValues
  have hempty : held (∅ : Finmap fun _ : κ => ν) = 0 := rfl
  rw [← Multiset.coe_add]
  calc _ = ((h.view b).entries.flatMap (Hashtable.freedWith freeValues) : Multiset (Freed κ ν)) +
          (if freeValues then 0 else heldValues (cs.foldl TableCall.next ∅)) +
          (h.freed + taken ∅ cs) := by abel
    _ = h.freed + taken ∅ cs + held (cs.foldl TableCall.next ∅) := by
          rw [hdestroyed]
          abel
    _ = given ∅ cs := by
          rw [hbalance, hfreed₀, hempty, Multiset.coe_nil]
          abel

/-- Everything that was handed over is freed, or was handed out. -/
theorem exampleCalls_frees : ∃ (h₀ h : Hashtable ℕ String) (rs : List (Reply ℕ String))
    (freed : List (Freed ℕ String)), createHashtable 10 UInt32.ofNat (· == ·) true true = some h₀ ∧
      runCalls 6 h₀ exampleCalls = .ok (h, rs) ∧
      hashtableDestroy 6 h true = .ok (fun _ => none, freed) ∧
      (freed : Multiset (Freed ℕ String)) + taken ∅ exampleCalls + 0 = given ∅ exampleCalls := by
  have hcreate : (createHashtable 10 UInt32.ofNat (· == ·) true true :
      Option (Hashtable ℕ String)) = some _ := rfl
  obtain ⟨h, rs, freed, hrun, hdestroy, hfreed⟩ := linked_table_frees (fun _ _ => beq_iff_eq)
    hcreate exampleCalls exampleCalls_legal 6 (by decide) true
  exact ⟨_, h, rs, freed, hcreate, hrun, hdestroy, hfreed⟩

end

end SymDrive.Linked

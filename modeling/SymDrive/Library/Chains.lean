import Mathlib.Data.Finset.Dedup
import Mathlib.Data.Fintype.EquivFin
import SymDrive.Library.Buckets
import SymDrive.Library.Checked

/-!
# Chains of cells

Linked lists as they stand in memory: cells on a heap, each with the address of the next one.

* `Seg` — the cells that follow one another from a pointer on.
* `seek`, `setLink` and `free` — the loop that looks for a cell, and how it is taken out.
* `Chained` — the chains of the buckets of a table, which have no cell in common and are all the
  cells there are.  `Chained.push`, `Chained.unlink` and `Chained.setData` say what the operations
  on one cell do to the chains.
-/

namespace Chains

open Checked

variable {δ : Type}

/-- A cell of a chain: what it holds, and the address of the next one. -/
structure Cell (δ : Type) where
  data : δ
  next : Option ℕ

/-- The allocated cells, by address. -/
abbrev Heap (δ : Type) := ℕ → Option (Cell δ)

/-- A wrong use of the memory, or a loop that goes on for too long. -/
inductive Misuse where
  | null
  | notAllocated (a : ℕ)
  | endless

/-- An allocator gives an address that is not in use, where there is one. -/
structure Allocator (δ : Type) where
  get : Heap δ → ℕ
  fresh : ∀ (m : Heap δ) a, m a = none → m (get m) = none

/-- Reading a cell goes wrong at null, and where no cell is allocated. -/
def load (m : Heap δ) : Option ℕ → Except Misuse (Cell δ)
  | none => .error .null
  | some a =>
      match m a with
      | some c => .ok c
      | none => .error (.notAllocated a)

/-- Writing a cell. -/
def store (m : Heap δ) (a : ℕ) (c : Cell δ) : Heap δ := Function.update m a (some c)

/-- Freeing a cell, which must be allocated. -/
def free (m : Heap δ) (a : ℕ) : Except Misuse (Heap δ) :=
  match m a with
  | some _ => .ok (Function.update m a none)
  | none => .error (.notAllocated a)

lemma load_eq_ok {m : Heap δ} {a : ℕ} {c : Cell δ} (h : m a = some c) :
    load m (some a) = .ok c := by
  rw [load, h]

lemma free_eq_ok {m : Heap δ} {a : ℕ} {c : Cell δ} (h : m a = some c) :
    free m a = .ok (Function.update m a none) := by
  rw [free, h]

/-- The addresses of cells. -/
def addrs (l : List (ℕ × δ)) : List ℕ := l.map Prod.fst

@[simp] lemma addrs_nil : addrs ([] : List (ℕ × δ)) = [] := rfl

@[simp] lemma addrs_cons (x : ℕ × δ) (l : List (ℕ × δ)) : addrs (x :: l) = x.1 :: addrs l := rfl

@[simp] lemma addrs_append (l l' : List (ℕ × δ)) : addrs (l ++ l') = addrs l ++ addrs l' :=
  List.map_append

/-! ## Segments -/

/-- From `p` on the cells of `l` follow one another, and the last one points to `q`. -/
def Seg (m : Heap δ) : Option ℕ → List (ℕ × δ) → Option ℕ → Prop
  | p, [], q => p = q
  | p, (a, d) :: l, q => p = some a ∧ ∃ r, m a = some ⟨d, r⟩ ∧ Seg m r l q

variable {m m' : Heap δ} {p q : Option ℕ} {l l₁ l₂ : List (ℕ × δ)}

/-- A chain can be cut anywhere. -/
lemma seg_append :
    ∀ {l₁ : List (ℕ × δ)} {p : Option ℕ}, Seg m p (l₁ ++ l₂) q ↔ ∃ r, Seg m p l₁ r ∧ Seg m r l₂ q
  | [], p => by
      constructor
      · exact fun h => ⟨p, rfl, h⟩
      · rintro ⟨r, rfl, h⟩
        exact h
  | (a, d) :: l₁, p => by
      constructor
      · rintro ⟨rfl, r, hr, h⟩
        obtain ⟨r', h₁, h₂⟩ := seg_append.mp h
        exact ⟨r', ⟨rfl, r, hr, h₁⟩, h₂⟩
      · rintro ⟨r', ⟨rfl, r, hr, h₁⟩, h₂⟩
        exact ⟨rfl, r, hr, seg_append.mpr ⟨r', h₁, h₂⟩⟩

/-- A segment stands as long as its cells do. -/
lemma Seg.congr : ∀ {l : List (ℕ × δ)} {p : Option ℕ}, (∀ a ∈ addrs l, m' a = m a) →
    Seg m p l q → Seg m' p l q
  | [], _, _, h => h
  | (a, _) :: _, _, hm, ⟨hp, r, hr, h⟩ =>
      ⟨hp, r, (hm a List.mem_cons_self).trans hr,
        h.congr fun b hb => hm b (List.mem_cons_of_mem a hb)⟩

/-- Changes at other addresses leave a chain as it is. -/
lemma Seg.update {a : ℕ} {c : Option (Cell δ)} (ha : a ∉ addrs l) (h : Seg m p l q) :
    Seg (Function.update m a c) p l q := by
  refine h.congr fun b hb => Function.update_of_ne ?_ _ _
  rintro rfl
  exact ha hb

/-- The cells of a chain are allocated. -/
lemma Seg.allocated : ∀ {l : List (ℕ × δ)} {p : Option ℕ}, Seg m p l q →
    ∀ a ∈ addrs l, m a ≠ none
  | (b, d) :: _, _, ⟨_, r, hr, h⟩, a, ha => by
      rcases List.mem_cons.mp ha with rfl | ha
      · rw [hr]
        exact Option.some_ne_none _
      · exact h.allocated a ha

/-- The address of the last cell. -/
def lastAddr (l : List (ℕ × δ)) : Option ℕ := l.getLast?.map Prod.fst

@[simp] lemma lastAddr_nil : lastAddr ([] : List (ℕ × δ)) = none := rfl

@[simp] lemma lastAddr_concat (l : List (ℕ × δ)) (x : ℕ × δ) :
    lastAddr (l ++ [x]) = some x.1 := by
  simp [lastAddr]

/-! ## The loop that looks for a cell -/

/-- From the pointer `e` on, the first cell with `found`, and the cell before it. -/
def seek (found : δ → Bool) (m : Heap δ) :
    ℕ → Option ℕ → Option ℕ → Except Misuse (Option (Option ℕ × ℕ × Cell δ))
  | 0, _, _ => .error .endless
  | _ + 1, _, none => .ok none
  | fuel + 1, parent, some a => do
      let c ← load m (some a)
      if found c.data then return some (parent, a, c)
      else seek found m fuel (some a) c.next

variable {found : δ → Bool} {fuel : ℕ}

/-- A search along a chain without a match comes to its end. -/
lemma seek_none : ∀ {l : List (ℕ × δ)} {fuel : ℕ} {parent e : Option ℕ}, Seg m e l none →
    l.length < fuel → (∀ x ∈ l, found x.2 = false) → seek found m fuel parent e = .ok none
  | [], _ + 1, _, _, h, _, _ => by
      rw [Seg] at h
      rw [h, seek]
  | (a, d) :: l, fuel + 1, parent, _, ⟨he, r, hr, h⟩, hfuel, hfound => by
      have hd : found d = false := hfound (a, d) List.mem_cons_self
      rw [he, seek, load_eq_ok hr, ok_bind, hd]
      exact seek_none h (by simpa using hfuel) fun x hx => hfound x (List.mem_cons_of_mem _ hx)

/-- A search stops at the first match, and knows the cell in front of it. -/
lemma seek_some {a : ℕ} {d : δ} : ∀ {l₁ : List (ℕ × δ)} {fuel : ℕ} (parent : Option ℕ)
    {e r : Option ℕ}, Seg m e l₁ (some a) → m a = some ⟨d, r⟩ → l₁.length < fuel →
      (∀ x ∈ l₁, found x.2 = false) → found d = true →
      seek found m fuel parent e = .ok (some ((lastAddr l₁).or parent, a, ⟨d, r⟩))
  | [], fuel + 1, _, _, _, h, ha, _, _, hd => by
      rw [Seg] at h
      rw [h, seek, load_eq_ok ha, ok_bind, if_pos hd]
      rfl
  | (b, d') :: l₁, fuel + 1, parent, _, r, ⟨he, r', hr', h⟩, ha, hfuel, hfound, hd => by
      have hd' : found d' = false := hfound (b, d') List.mem_cons_self
      have hrest := seek_some (some b) h ha (by simpa using hfuel)
        (fun x hx => hfound x (List.mem_cons_of_mem _ hx)) hd
      have hlast : (lastAddr l₁).or (some b) = (lastAddr ((b, d') :: l₁)).or parent := by
        rcases List.eq_nil_or_concat l₁ with rfl | ⟨init, x, rfl⟩
        · rfl
        · rw [List.concat_eq_append, ← List.cons_append, lastAddr_concat, lastAddr_concat]
          rfl
      rw [he, seek, load_eq_ok hr', ok_bind, hd']
      rw [← hlast]
      exact hrest

/-! ## Taking a cell out -/

/-- Writes the pointer behind the cell `parent`, or `head` where there is none. -/
def setLink (m : Heap δ) (head parent q : Option ℕ) : Except Misuse (Option ℕ × Heap δ) :=
  match parent with
  | none => .ok (q, m)
  | some a => do
      let c ← load m (some a)
      return (head, store m a { c with next := q })

/-- The link behind a chain is that of its last cell, or the one the chain is found at. -/
lemma setLink_eq_ok (h : Seg m p l q) (hnodup : (addrs l).Nodup) (r : Option ℕ) :
    ∃ p' m', setLink m p (lastAddr l) r = .ok (p', m') ∧ Seg m' p' l r ∧
      (∀ a ∉ addrs l, m' a = m a) ∧ ∀ a, m' a = none ↔ m a = none := by
  rcases List.eq_nil_or_concat l with rfl | ⟨init, ⟨a, d⟩, rfl⟩
  · exact ⟨r, m, rfl, rfl, fun _ _ => rfl, fun _ => Iff.rfl⟩
  · rw [List.concat_eq_append] at h hnodup ⊢
    obtain ⟨_, hinit, rfl, q', ha, hq⟩ := seg_append.mp h
    cases hq
    rw [addrs_append, List.nodup_append'] at hnodup
    have hout : a ∉ addrs init := fun hmem => hnodup.2.2 hmem List.mem_cons_self
    refine ⟨p, store m a ⟨d, r⟩, ?_, ?_, ?_, ?_⟩
    · rw [lastAddr_concat, setLink, load_eq_ok ha]
      rfl
    · refine seg_append.mpr ⟨some a, hinit.update hout, rfl, r, ?_, rfl⟩
      exact Function.update_self ..
    · intro b hb
      refine Function.update_of_ne ?_ _ _
      rintro rfl
      exact hb (by simp)
    · intro b
      rcases eq_or_ne b a with rfl | hne
      · rw [store, Function.update_self, ha]
        exact iff_of_false (Option.some_ne_none _) (Option.some_ne_none _)
      · rw [store, Function.update_of_ne hne]

/-! ## Loops over a chain -/

/-- Every cell of the chain at `e` goes to the head of the chain that `idx` names. -/
def moveChain (idx : δ → ℕ) : ℕ → Option ℕ → Heap δ → (ℕ → Option ℕ) →
    Except Misuse (Heap δ × (ℕ → Option ℕ))
  | 0, _, _, _ => .error .endless
  | _ + 1, none, m, newtable => .ok (m, newtable)
  | fuel + 1, some a, m, newtable => do
      let c ← load m (some a)
      let index := idx c.data
      moveChain idx fuel c.next (store m a { c with next := newtable index })
        (Function.update newtable index (some a))

/-- Every cell of the chain at `e` is freed, and gives what it held. -/
def freeChain : ℕ → Option ℕ → Heap δ → Except Misuse (List δ × Heap δ)
  | 0, _, _ => .error .endless
  | _ + 1, none, m => .ok ([], m)
  | fuel + 1, some a, m => do
      let c ← load m (some a)
      let m ← free m a
      let (ds, m) ← freeChain fuel c.next m
      return (c.data :: ds, m)

/-- What the cells of the chain at `e` hold. -/
def readChain : ℕ → Option ℕ → Heap δ → Except Misuse (List δ)
  | 0, _, _ => .error .endless
  | _ + 1, none, _ => .ok []
  | fuel + 1, some a, m => do
      let c ← load m (some a)
      let ds ← readChain fuel c.next m
      return c.data :: ds

/-- `b` has chains of cells at `table`, none of them in `l`. -/
def Apart (m : Heap δ) (table : ℕ → Option ℕ) (b : ℕ → List (ℕ × δ)) (as : List ℕ) : Prop :=
  ∀ i, Seg m (table i) (b i) none ∧ ∀ a ∈ addrs (b i), a ∉ as

lemma Apart.push {table : ℕ → Option ℕ} {b : ℕ → List (ℕ × δ)} {a : ℕ} {as : List ℕ}
    (h : Apart m table b (a :: as)) (ha : a ∉ as) (d : δ) (idx : δ → ℕ) :
    Apart (store m a ⟨d, table (idx d)⟩) (Function.update table (idx d) (some a))
      (Buckets.push (fun x => idx x.2) b (a, d)) as := by
  have hout : ∀ i, a ∉ addrs (b i) := fun i hmem => (h i).2 a hmem List.mem_cons_self
  intro i
  rw [Buckets.push]
  rcases eq_or_ne i (idx d) with rfl | hne
  · rw [Function.update_self, Function.update_self]
    refine ⟨⟨rfl, _, Function.update_self .., (h _).1.update (hout _)⟩, fun c hc => ?_⟩
    rcases List.mem_cons.mp hc with rfl | hc
    · exact ha
    · exact fun hmem => (h _).2 c hc (List.mem_cons_of_mem _ hmem)
  · rw [Function.update_of_ne hne, Function.update_of_ne hne]
    exact ⟨(h i).1.update (hout i), fun c hc hmem =>
      (h i).2 c hc (List.mem_cons_of_mem _ hmem)⟩

/-- Moving a chain into other buckets takes its cells over, one by one. -/
lemma moveChain_eq_ok (idx : δ → ℕ) : ∀ {l : List (ℕ × δ)} {fuel : ℕ} {e : Option ℕ} {m : Heap δ}
    {table : ℕ → Option ℕ} {b : ℕ → List (ℕ × δ)}, Seg m e l none → (addrs l).Nodup →
      Apart m table b (addrs l) → l.length < fuel →
      ∃ m' table', moveChain idx fuel e m table = .ok (m', table') ∧
        (∀ i, Seg m' (table' i) (l.foldl (Buckets.push fun x => idx x.2) b i) none) ∧
        (∀ a ∉ addrs l, m' a = m a) ∧ ∀ a, m' a = none ↔ m a = none
  | [], _ + 1, _, m, table, b, h, _, hb, _ => by
      rw [Seg] at h
      rw [h, moveChain]
      exact ⟨m, table, rfl, fun i => (hb i).1, fun _ _ => rfl, fun _ => Iff.rfl⟩
  | (a, d) :: l, fuel + 1, _, m, table, b, ⟨he, r, hr, h⟩, hnodup, hb, hfuel => by
      rw [addrs_cons, List.nodup_cons] at hnodup
      rw [addrs_cons] at hb
      obtain ⟨m', table', hmove, hsegs, hsame, hdomain⟩ :=
        moveChain_eq_ok idx (h.update hnodup.1) hnodup.2 (hb.push hnodup.1 d idx)
          (by simpa using hfuel)
      refine ⟨m', table', ?_, hsegs, fun c hc => ?_, fun c => (hdomain c).trans ?_⟩
      · rw [he, moveChain, load_eq_ok hr]
        exact hmove
      · rw [addrs_cons, List.mem_cons, not_or] at hc
        rw [hsame c hc.2, Function.update_of_ne hc.1]
      · rcases eq_or_ne c a with rfl | hne
        · rw [Function.update_self, hr]
          exact iff_of_false (Option.some_ne_none _) (Option.some_ne_none _)
        · rw [Function.update_of_ne hne]

/-- Freeing a chain frees its cells and no others. -/
lemma freeChain_eq_ok : ∀ {l : List (ℕ × δ)} {fuel : ℕ} {e : Option ℕ} {m : Heap δ},
    Seg m e l none → (addrs l).Nodup → l.length < fuel →
      ∃ m', freeChain fuel e m = .ok (l.map Prod.snd, m') ∧ (∀ a ∈ addrs l, m' a = none) ∧
        ∀ a ∉ addrs l, m' a = m a
  | [], _ + 1, _, m, h, _, _ => by
      rw [Seg] at h
      rw [h, freeChain]
      exact ⟨m, rfl, fun a ha => absurd ha List.not_mem_nil, fun _ _ => rfl⟩
  | (a, d) :: l, fuel + 1, _, m, ⟨he, r, hr, h⟩, hnodup, hfuel => by
      rw [addrs_cons, List.nodup_cons] at hnodup
      obtain ⟨m', hfree, hfreed, hsame⟩ :=
        freeChain_eq_ok (h.update hnodup.1) hnodup.2 (by simpa using hfuel)
      refine ⟨m', ?_, fun c hc => ?_, fun c hc => ?_⟩
      · rw [he, freeChain, load_eq_ok hr, ok_bind, free_eq_ok hr, ok_bind, hfree]
        rfl
      · by_cases hl : c ∈ addrs l
        · exact hfreed c hl
        · rcases List.mem_cons.mp hc with rfl | hc
          · rw [hsame _ hl, Function.update_self]
          · exact absurd hc hl
      · rw [addrs_cons, List.mem_cons, not_or] at hc
        rw [hsame c hc.2, Function.update_of_ne hc.1]

/-- A walk along a chain reads its cells in order. -/
lemma readChain_eq_ok : ∀ {l : List (ℕ × δ)} {fuel : ℕ} {e : Option ℕ}, Seg m e l none →
    l.length < fuel → readChain fuel e m = .ok (l.map Prod.snd)
  | [], _ + 1, _, h, _ => by
      rw [Seg] at h
      rw [h, readChain]
      rfl
  | (a, d) :: l, fuel + 1, _, ⟨he, r, hr, h⟩, hfuel => by
      rw [he, readChain, load_eq_ok hr, ok_bind, readChain_eq_ok h (by simpa using hfuel)]
      rfl

/-! ## The chains of a table -/

/-- The chains of the first `n` buckets.  They have no cell in common, and are all the cells there
are. -/
structure Chained (m : Heap δ) (n : ℕ) (table : ℕ → Option ℕ) (b : ℕ → List (ℕ × δ)) : Prop where
  chain : ∀ i < n, Seg m (table i) (b i) none
  nodup : (addrs (Buckets.contents n b)).Nodup
  allocated : ∀ a, m a ≠ none ↔ a ∈ addrs (Buckets.contents n b)

namespace Chained

variable {n i : ℕ} {table : ℕ → Option ℕ} {b : ℕ → List (ℕ × δ)}

lemma empty (n : ℕ) :
    Chained (fun _ => none : Heap δ) n (fun _ => none) (fun _ => []) where
  chain _ _ := rfl
  nodup := by simp
  allocated a := by simp

/-- There are always addresses left. -/
lemma fresh (h : Chained m n table b) (alloc : Allocator δ) : m (alloc.get m) = none := by
  obtain ⟨a, ha⟩ := Infinite.exists_notMem_finset (addrs (Buckets.contents n b)).toFinset
  rw [List.mem_toFinset, ← h.allocated, not_not] at ha
  exact alloc.fresh m a ha

/-- No cell stands in a chain twice. -/
lemma addrs_bucket_nodup (h : Chained m n table b) (hi : i < n) : (addrs (b i)).Nodup :=
  h.nodup.sublist ((Buckets.sublist_contents hi b).map Prod.fst)

/-- **Another chain in one bucket**, made of its cells and of new ones. -/
lemma update (h : Chained m n table b) (hi : i < n) {p' : Option ℕ} (hseg : Seg m' p' l none)
    (hnodup : (addrs l).Nodup) (hnew : ∀ a ∈ addrs l, a ∉ addrs (b i) → m a = none)
    (hout : ∀ a, a ∉ addrs (b i) → a ∉ addrs l → m' a = m a)
    (hfreed : ∀ a ∈ addrs (b i), a ∉ addrs l → m' a = none) :
    Chained m' n (Function.update table i p') (Function.update b i l) := by
  obtain ⟨others, hperm, hperm', hothers⟩ := Buckets.exists_others hi b
  have hnodupAll := ((hperm.map Prod.fst).nodup_iff).mp h.nodup
  rw [List.map_append, List.nodup_append'] at hnodupAll
  obtain ⟨-, hnodupOthers, hdisjoint⟩ := hnodupAll
  -- the other cells are neither in the old chain nor in the new one
  have hotherAlloc : ∀ a ∈ addrs others, m a ≠ none := by
    intro a ha
    refine (h.allocated a).mpr ((hperm.map Prod.fst).mem_iff.mpr ?_)
    rw [List.map_append]
    exact List.mem_append_right _ ha
  have hotherOld : ∀ a ∈ addrs others, a ∉ addrs (b i) := fun a ha ha' => hdisjoint ha' ha
  have hotherNew : ∀ a ∈ addrs others, a ∉ addrs l := fun a ha ha' =>
    hotherAlloc a ha (hnew a ha' (hotherOld a ha))
  refine ⟨fun j hj => ?_, ?_, fun a => ?_⟩
  · rcases eq_or_ne j i with rfl | hne
    · rwa [Function.update_self, Function.update_self]
    · rw [Function.update_of_ne hne, Function.update_of_ne hne]
      have hsub : ∀ a ∈ addrs (b j), a ∈ addrs others := fun a ha =>
        List.map_subset Prod.fst (hothers j hj hne) ha
      exact (h.chain j hj).congr fun a ha =>
        hout a (hotherOld a (hsub a ha)) (hotherNew a (hsub a ha))
  · rw [addrs, ((hperm' l).map Prod.fst).nodup_iff, List.map_append, List.nodup_append']
    exact ⟨hnodup, hnodupOthers, fun a ha ha' => hotherNew a ha' ha⟩
  · have hmem' : a ∈ addrs (Buckets.contents n (Function.update b i l)) ↔
        a ∈ addrs l ∨ a ∈ addrs others := by
      rw [addrs, ((hperm' l).map Prod.fst).mem_iff, List.map_append, List.mem_append]
      rfl
    have hmem : a ∈ addrs (Buckets.contents n b) ↔ a ∈ addrs (b i) ∨ a ∈ addrs others := by
      rw [addrs, (hperm.map Prod.fst).mem_iff, List.map_append, List.mem_append]
      rfl
    rw [hmem']
    by_cases hl : a ∈ addrs l
    · exact iff_of_true (hseg.allocated a hl) (Or.inl hl)
    · by_cases hold : a ∈ addrs (b i)
      · refine iff_of_false (not_not_intro (hfreed a hold hl)) ?_
        rintro (ha | ha)
        · exact hl ha
        · exact hotherOld a ha hold
      · rw [hout a hold hl, h.allocated, hmem]
        simp [hl, hold]

/-- What the loop that looks for a cell of bucket `i` comes to. -/
lemma seek_cases (h : Chained m n table b) (hi : i < n) (hfuel : (b i).length < fuel)
    (found : δ → Bool) :
    (seek found m fuel none (table i) = .ok none ∧ ((b i).map Prod.snd).find? found = none) ∨
      ∃ l₁ a d r l₂, b i = l₁ ++ (a, d) :: l₂ ∧ m a = some ⟨d, r⟩ ∧
        (∀ x ∈ l₁.map Prod.snd, found x = false) ∧ found d = true ∧
        seek found m fuel none (table i) = .ok (some (lastAddr l₁, a, ⟨d, r⟩)) := by
  have hseg := h.chain i hi
  cases hfind : (b i).find? fun x => found x.2 with
  | none =>
      have hnone : ∀ x ∈ b i, found x.2 = false := by simpa using hfind
      refine Or.inl ⟨seek_none hseg hfuel hnone, ?_⟩
      rw [List.find?_map]
      exact Option.map_eq_none_iff.mpr hfind
  | some x =>
      obtain ⟨a, d⟩ := x
      obtain ⟨hd, l₁, l₂, hb, hnot⟩ := List.find?_eq_some_iff_append.mp hfind
      have hnot' : ∀ x ∈ l₁, found x.2 = false := fun x hx => by simpa using hnot x hx
      rw [hb] at hseg hfuel
      obtain ⟨_, hseg₁, rfl, r, hr, -⟩ := seg_append.mp hseg
      refine Or.inr ⟨l₁, a, d, r, l₂, hb, hr, ?_, hd, ?_⟩
      · intro y hy
        obtain ⟨x, hx, rfl⟩ := List.mem_map.mp hy
        exact hnot' x hx
      · have hlen : l₁.length < fuel := by
          rw [List.length_append] at hfuel
          omega
        rw [seek_some none hseg₁ hr hlen hnot' hd, Option.or_none]

/-- A new cell at the head of its chain. -/
lemma push (h : Chained m n table b) (hi : i < n) {a : ℕ} (ha : m a = none) (d : δ) :
    Chained (store m a ⟨d, table i⟩) n (Function.update table i (some a))
      (Function.update b i ((a, d) :: b i)) := by
  have hout : a ∉ addrs (b i) := fun hmem => (h.chain i hi).allocated a hmem ha
  refine h.update hi ⟨rfl, table i, Function.update_self .., (h.chain i hi).update hout⟩
    (List.nodup_cons.mpr ⟨hout, h.addrs_bucket_nodup hi⟩) ?_ ?_ ?_
  · intro c hc hc'
    rcases List.mem_cons.mp hc with rfl | hc
    · exact ha
    · exact absurd hc hc'
  · intro c _ hc
    refine Function.update_of_ne ?_ _ _
    rintro rfl
    exact hc List.mem_cons_self
  · exact fun c hc hc' => absurd (List.mem_cons_of_mem _ hc) hc'

/-- Other data in a cell. -/
lemma setData (h : Chained m n table b) (hi : i < n) {a : ℕ} {d d' : δ} {r : Option ℕ}
    (hb : b i = l₁ ++ (a, d) :: l₂) (ha : m a = some ⟨d, r⟩) :
    Chained (store m a ⟨d', r⟩) n table (Function.update b i (l₁ ++ (a, d') :: l₂)) := by
  have hseg := h.chain i hi
  have hnodup := h.addrs_bucket_nodup hi
  rw [hb] at hseg hnodup
  have haddrs : addrs (l₁ ++ (a, d') :: l₂) = addrs (b i) := by simp [hb]
  obtain ⟨_, hseg₁, rfl, r', hr', hseg₂⟩ := seg_append.mp hseg
  cases ha.symm.trans hr'
  rw [addrs_append, addrs_cons, List.nodup_append', List.nodup_cons] at hnodup
  obtain ⟨-, ⟨hout₂, -⟩, hdisjoint⟩ := hnodup
  have hout₁ : a ∉ addrs l₁ := fun hmem => hdisjoint hmem List.mem_cons_self
  have hself : Function.update table i (table i) = table := Function.update_eq_self i table
  rw [← hself]
  refine h.update hi (seg_append.mpr ⟨some a, hseg₁.update hout₁, rfl, r,
    Function.update_self .., hseg₂.update hout₂⟩) ?_ ?_ ?_ ?_
  · rw [haddrs]
    exact h.addrs_bucket_nodup hi
  · intro c hc hc'
    rw [haddrs] at hc
    exact absurd hc hc'
  · intro c hc _
    refine Function.update_of_ne ?_ _ _
    rintro rfl
    exact hc (by simp [hb])
  · intro c hc hc'
    rw [haddrs] at hc'
    exact absurd hc hc'

/-- **Taking a cell out**: the pointer to it is set to the cell behind it, and it is freed. -/
lemma unlink (h : Chained m n table b) (hi : i < n) {a : ℕ} {d : δ} {r : Option ℕ}
    (hb : b i = l₁ ++ (a, d) :: l₂) (ha : m a = some ⟨d, r⟩) :
    ∃ p' m', setLink m (table i) (lastAddr l₁) r = .ok (p', m') ∧ m' a = some ⟨d, r⟩ ∧
      Chained (Function.update m' a none) n (Function.update table i p')
        (Function.update b i (l₁ ++ l₂)) := by
  have hseg := h.chain i hi
  have hnodup := h.addrs_bucket_nodup hi
  rw [hb] at hseg hnodup
  obtain ⟨_, hseg₁, rfl, r', hr', hseg₂⟩ := seg_append.mp hseg
  cases ha.symm.trans hr'
  rw [addrs_append, addrs_cons, List.nodup_append', List.nodup_cons] at hnodup
  obtain ⟨hnodup₁, ⟨hout₂, hnodup₂⟩, hdisjoint⟩ := hnodup
  have hout₁ : a ∉ addrs l₁ := fun hmem => hdisjoint hmem List.mem_cons_self
  have hdisjoint₂ : ∀ c ∈ addrs l₂, c ∉ addrs l₁ := fun c hc hc' =>
    hdisjoint hc' (List.mem_cons_of_mem _ hc)
  obtain ⟨p', m', hset, hseg', hsame, -⟩ := setLink_eq_ok hseg₁ hnodup₁ r
  refine ⟨p', m', hset, (hsame a hout₁).trans ha, ?_⟩
  have hsegAll : Seg m' p' (l₁ ++ l₂) none :=
    seg_append.mpr ⟨r, hseg', hseg₂.congr fun c hc => hsame c (hdisjoint₂ c hc)⟩
  have haout : a ∉ addrs (l₁ ++ l₂) := by simp [hout₁, hout₂]
  refine h.update hi (hsegAll.update haout) ?_ ?_ ?_ ?_
  · rw [addrs_append, List.nodup_append']
    exact ⟨hnodup₁, hnodup₂, fun c hc hc' => hdisjoint₂ c hc' hc⟩
  · intro c hc hc'
    refine absurd ?_ hc'
    rw [hb, addrs_append, addrs_cons]
    rw [addrs_append, List.mem_append] at hc
    rcases hc with hc | hc
    · exact List.mem_append_left _ hc
    · exact List.mem_append_right _ (List.mem_cons_of_mem _ hc)
  · intro c hc _
    have hca : c ≠ a := by
      rintro rfl
      exact hc (by simp [hb])
    rw [Function.update_of_ne hca]
    exact hsame c fun hmem => hc (by rw [hb, addrs_append]; exact List.mem_append_left _ hmem)
  · intro c hc hc'
    have hca : c = a := by
      rw [hb] at hc
      simp only [addrs_append, addrs_cons, List.mem_append, List.mem_cons, not_or] at hc hc'
      tauto
    rw [hca, Function.update_self]

/-! ### Loops over all buckets -/

lemma addrs_contents_disjoint (h : Chained m n table b) {k : ℕ} (hk : k < n) :
    ∀ a ∈ addrs (b k), a ∉ addrs (Buckets.contents k b) := by
  have hnodup := h.nodup
  rw [Buckets.contents_eq_append (Nat.le_of_lt hk), Buckets.contentsFrom_of_lt hk, addrs_append,
    addrs_append, List.nodup_append'] at hnodup
  exact fun a ha ha' => hnodup.2.2 ha' (List.mem_append_left _ ha)

/-- **All cells go to new chains.** -/
lemma move (h : Chained m n table b) (idx : δ → ℕ) {n' : ℕ} (hidx : ∀ d, idx d < n')
    (hfuel : ∀ i < n, (b i).length < fuel) :
    ∃ m' table', (List.range n).foldlM (fun s i => moveChain idx fuel (table i) s.1 s.2)
        (m, fun _ => none) = .ok (m', table') ∧
      Chained m' n' table' (Buckets.rehash (fun x => idx x.2) (Buckets.contents n b)) := by
  have hloop : ∀ k ≤ n, ∃ m' table',
      (List.range k).foldlM (fun s i => moveChain idx fuel (table i) s.1 s.2) (m, fun _ => none) =
        .ok (m', table') ∧
      (∀ i, Seg m' (table' i)
        (Buckets.rehash (fun x => idx x.2) (Buckets.contents k b) i) none) ∧
      (∀ a ∉ addrs (Buckets.contents k b), m' a = m a) ∧ ∀ a, m' a = none ↔ m a = none := by
    intro k
    induction k with
    | zero => exact fun _ => ⟨m, _, rfl, fun _ => rfl, fun _ _ => rfl, fun _ => Iff.rfl⟩
    | succ k ih =>
        intro hk
        obtain ⟨m₁, table₁, hrun, hsegs, hsame, hdomain⟩ := ih (by omega)
        have hdisjoint := h.addrs_contents_disjoint hk
        have hseg : Seg m₁ (table k) (b k) none :=
          (h.chain k hk).congr fun a ha => hsame a (hdisjoint a ha)
        have hapart : Apart m₁ table₁
            (Buckets.rehash (fun x => idx x.2) (Buckets.contents k b)) (addrs (b k)) := by
          refine fun i => ⟨hsegs i, fun a ha hmem => hdisjoint a hmem ?_⟩
          obtain ⟨x, hx, rfl⟩ := List.mem_map.mp ha
          exact List.mem_map_of_mem (Buckets.mem_rehash hx)
        obtain ⟨m₂, table₂, hmove, hsegs₂, hsame₂, hdomain₂⟩ :=
          moveChain_eq_ok idx hseg (h.addrs_bucket_nodup hk) hapart (hfuel k hk)
        refine ⟨m₂, table₂, ?_, fun i => ?_, fun a ha => ?_,
          fun a => (hdomain₂ a).trans (hdomain a)⟩
        · rw [List.range_succ, List.foldlM_append, hrun, ok_bind, List.foldlM_cons, hmove]
          rfl
        · rw [Buckets.contents_succ, Buckets.rehash, List.foldl_append]
          exact hsegs₂ i
        · rw [Buckets.contents_succ, addrs_append, List.mem_append, not_or] at ha
          rw [hsame₂ a ha.2, hsame a ha.1]
  obtain ⟨m', table', hrun, hsegs, -, hdomain⟩ := hloop n (Nat.le_refl n)
  have hperm : (Buckets.contents n' (Buckets.rehash (fun x : ℕ × δ => idx x.2)
      (Buckets.contents n b))).Perm (Buckets.contents n b) :=
    Buckets.contents_rehash_perm (fun x : ℕ × δ => hidx x.2) _
  refine ⟨m', table', hrun, fun i _ => hsegs i, ?_, fun a => ?_⟩
  · exact ((hperm.map Prod.fst).nodup_iff).mpr h.nodup
  · rw [addrs, (hperm.map Prod.fst).mem_iff, Ne, hdomain a]
    exact h.allocated a

/-- **All cells are freed**, each of them once. -/
lemma freeAll (h : Chained m n table b) (hfuel : ∀ i < n, (b i).length < fuel) :
    (List.range n).foldlM (fun s i => do
        let (ds, m) ← freeChain fuel (table i) s.2
        return (s.1 ++ ds, m)) ([], m) =
      .ok ((Buckets.contents n b).map Prod.snd, fun _ => none) := by
  have hloop : ∀ k ≤ n, ∃ m', (List.range k).foldlM (fun s i => do
        let (ds, m) ← freeChain fuel (table i) s.2
        return (s.1 ++ ds, m)) ([], m) = .ok ((Buckets.contents k b).map Prod.snd, m') ∧
      (∀ a ∈ addrs (Buckets.contents k b), m' a = none) ∧
      ∀ a ∉ addrs (Buckets.contents k b), m' a = m a := by
    intro k
    induction k with
    | zero => exact fun _ => ⟨m, rfl, fun a ha => absurd ha List.not_mem_nil, fun _ _ => rfl⟩
    | succ k ih =>
        intro hk
        obtain ⟨m₁, hrun, hfreed, hsame⟩ := ih (by omega)
        have hdisjoint := h.addrs_contents_disjoint hk
        have hseg : Seg m₁ (table k) (b k) none :=
          (h.chain k hk).congr fun a ha => hsame a (hdisjoint a ha)
        obtain ⟨m₂, hfree, hfreed₂, hsame₂⟩ :=
          freeChain_eq_ok hseg (h.addrs_bucket_nodup hk) (hfuel k hk)
        refine ⟨m₂, ?_, fun a ha => ?_, fun a ha => ?_⟩
        · rw [List.range_succ, List.foldlM_append, hrun, ok_bind, List.foldlM_cons, hfree,
            Buckets.contents_succ, List.map_append]
          rfl
        · rw [Buckets.contents_succ, addrs_append, List.mem_append] at ha
          by_cases hmem : a ∈ addrs (b k)
          · exact hfreed₂ a hmem
          · rw [hsame₂ a hmem]
            exact hfreed a (ha.resolve_right hmem)
        · rw [Buckets.contents_succ, addrs_append, List.mem_append, not_or] at ha
          rw [hsame₂ a ha.2, hsame a ha.1]
  obtain ⟨m', hrun, hfreed, hsame⟩ := hloop n (Nat.le_refl n)
  have hm' : m' = fun _ => none := by
    funext a
    by_cases ha : a ∈ addrs (Buckets.contents n b)
    · exact hfreed a ha
    · rw [hsame a ha]
      exact not_not.mp fun hne => ha ((h.allocated a).mp hne)
  rw [hrun, hm']

/-- **All cells are read**, in order. -/
lemma readAll {α : Type} (h : Chained m n table b) (f : δ → α)
    (hfuel : ∀ i < n, (b i).length < fuel) :
    (List.range n).foldlM (fun xs i => do
        let ds ← readChain fuel (table i) m
        return xs ++ ds.map f) [] = .ok ((Buckets.contents n b).map fun x => f x.2) := by
  have hloop : ∀ k ≤ n, (List.range k).foldlM (fun xs i => do
        let ds ← readChain fuel (table i) m
        return xs ++ ds.map f) [] = .ok ((Buckets.contents k b).map fun x => f x.2) := by
    intro k
    induction k with
    | zero => exact fun _ => rfl
    | succ k ih =>
        intro hk
        rw [List.range_succ, List.foldlM_append, ih (by omega), ok_bind, List.foldlM_cons,
          readChain_eq_ok (h.chain k hk) (hfuel k hk), Buckets.contents_succ, List.map_append]
        simp only [ok_bind, List.map_map]
        rfl
  exact hloop n (Nat.le_refl n)

end Chained

end Chains

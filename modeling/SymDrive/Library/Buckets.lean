import Mathlib.Data.List.Perm.Basic
import Mathlib.Data.List.Nodup
import Mathlib.Logic.Function.Basic

/-!
# Chained buckets

A chained hash table spreads its entries over numbered buckets, each a list.  What the table
*contains* does not depend on how the entries are spread, so the facts about it are stated on
`contents`, the entries of the first `n` buckets taken in bucket order, and up to permutation.

* `Placed` — every entry stands in the bucket its index names; then an entry of the table is an
  entry of that one bucket (`mem_contents`).
* `contents_update_perm` — the one computation: replacing bucket `i` replaces its part of the
  contents.  `push`, unlinking and `rehash` are read off it.
* `contentsFrom` — the contents from one bucket on, which is what an iteration still has before it.
* `find?_key` — where no key occurs twice, the first entry under a key is the only one, so a
  search does not depend on the order of a chain.
-/

namespace Buckets

variable {ε κ : Type}

/-- The contents of the buckets `0, …, n - 1`, in bucket order. -/
def contents (n : ℕ) (b : ℕ → List ε) : List ε := (List.range n).flatMap b

/-- Each of the first `n` buckets holds entries of its own index only. -/
def Placed (idx : ε → ℕ) (n : ℕ) (b : ℕ → List ε) : Prop :=
  ∀ i < n, ∀ e ∈ b i, idx e = i

/-- Put one entry at the head of its bucket. -/
def push (idx : ε → ℕ) (b : ℕ → List ε) (e : ε) : ℕ → List ε :=
  Function.update b (idx e) (e :: b (idx e))

/-- Move a list of entries, first to last, to empty buckets. -/
def rehash (idx : ε → ℕ) (es : List ε) : ℕ → List ε := es.foldl (push idx) (fun _ => [])

/-- The last bucket comes last. -/
lemma contents_succ (n : ℕ) (b : ℕ → List ε) : contents (n + 1) b = contents n b ++ b n := by
  simp [contents, List.range_succ]

@[simp] lemma contents_empty (n : ℕ) : contents n (fun _ => ([] : List ε)) = [] := by
  simp [contents]

lemma mem_contents_iff {n : ℕ} {b : ℕ → List ε} {e : ε} :
    e ∈ contents n b ↔ ∃ i < n, e ∈ b i := by
  simp [contents]

lemma sublist_contents {n i : ℕ} (hi : i < n) (b : ℕ → List ε) : (b i).Sublist (contents n b) :=
  List.sublist_flatten_of_mem (List.mem_map.mpr ⟨i, List.mem_range.mpr hi, rfl⟩)

/-- An entry of the table is an entry of the bucket its index names. -/
lemma mem_contents {idx : ε → ℕ} {n : ℕ} {b : ℕ → List ε} (hb : Placed idx n b) {e : ε}
    (he : idx e < n) : e ∈ contents n b ↔ e ∈ b (idx e) := by
  rw [mem_contents_iff]
  constructor
  · rintro ⟨i, hi, hmem⟩
    rwa [hb i hi e hmem]
  · intro hmem
    exact ⟨idx e, he, hmem⟩

lemma contents_congr {n : ℕ} {b b' : ℕ → List ε} (h : ∀ i < n, b i = b' i) :
    contents n b = contents n b' := by
  induction n with
  | zero => rfl
  | succ n ih =>
      rw [contents_succ, contents_succ, ih fun i hi => h i (by omega), h n (by omega)]

/-- A bucket behind the end does not count. -/
lemma contents_update_of_le {n i : ℕ} (hi : n ≤ i) (b : ℕ → List ε) (l : List ε) :
    contents n (Function.update b i l) = contents n b :=
  contents_congr fun j hj => Function.update_of_ne (show j ≠ i by omega) l b

/-- **Replacing one bucket.**  The contents lose the old bucket and gain the new one. -/
theorem contents_update_perm {n i : ℕ} (hi : i < n) (b : ℕ → List ε) (l : List ε) :
    (b i ++ contents n (Function.update b i l)).Perm (l ++ contents n b) := by
  induction n with
  | zero => omega
  | succ n ih =>
      rw [contents_succ, contents_succ]
      rcases Nat.lt_succ_iff_lt_or_eq.mp hi with h | rfl
      · rw [Function.update_of_ne (by omega : n ≠ i)]
        simpa only [List.append_assoc] using (ih h).append_right (b n)
      · rw [contents_update_of_le (Nat.le_refl i), Function.update_self]
        calc (b i ++ (contents i b ++ l)).Perm ((contents i b ++ l) ++ b i) :=
              List.perm_append_comm
          _ = contents i b ++ (l ++ b i) := List.append_assoc ..
          _ |>.Perm ((l ++ b i) ++ contents i b) := List.perm_append_comm
          _ = l ++ (b i ++ contents i b) := List.append_assoc ..
          _ |>.Perm (l ++ (contents i b ++ b i)) := List.perm_append_comm.append_left l

/-! ## The buckets before and behind one -/

/-- The contents of the buckets from `i` on. -/
def contentsFrom (i n : ℕ) (b : ℕ → List ε) : List ε := (List.range' i (n - i)).flatMap b

lemma contentsFrom_of_le {n i : ℕ} (h : n ≤ i) (b : ℕ → List ε) : contentsFrom i n b = [] := by
  rw [contentsFrom, Nat.sub_eq_zero_of_le h]
  rfl

/-- The walk takes the first bucket, and goes on behind it. -/
lemma contentsFrom_of_lt {n i : ℕ} (h : i < n) (b : ℕ → List ε) :
    contentsFrom i n b = b i ++ contentsFrom (i + 1) n b := by
  have hlen : n - i = (n - (i + 1)) + 1 := by omega
  rw [contentsFrom, hlen, List.range'_succ, List.flatMap_cons]
  rfl

lemma mem_contentsFrom_iff {n i : ℕ} {b : ℕ → List ε} {e : ε} :
    e ∈ contentsFrom i n b ↔ ∃ j, i ≤ j ∧ j < n ∧ e ∈ b j := by
  simp only [contentsFrom, List.mem_flatMap, List.mem_range'_1]
  constructor
  · rintro ⟨j, ⟨hj, hj'⟩, he⟩
    exact ⟨j, hj, by omega, he⟩
  · rintro ⟨j, hj, hj', he⟩
    exact ⟨j, ⟨hj, by omega⟩, he⟩

lemma contentsFrom_congr {n i : ℕ} {b b' : ℕ → List ε} (h : ∀ j, i ≤ j → j < n → b j = b' j) :
    contentsFrom i n b = contentsFrom i n b' := by
  refine List.flatMap_congr fun j hj => ?_
  rw [List.mem_range'_1] at hj
  exact h j hj.1 (by omega)

/-- The contents, cut in front of a bucket. -/
lemma contents_eq_append {n i : ℕ} (h : i ≤ n) (b : ℕ → List ε) :
    contents n b = contents i b ++ contentsFrom i n b := by
  have hn : i + (n - i) = n := by omega
  have hrange : List.range n = List.range i ++ List.range' i (n - i) := by
    have happend := List.range'_append_1 (s := 0) (m := i) (n := n - i)
    rwa [Nat.zero_add, hn, ← List.range_eq_range', ← List.range_eq_range', eq_comm] at happend
  rw [contents, hrange, List.flatMap_append]
  rfl

/-- The contents after a change of one bucket. -/
lemma contents_update {n i : ℕ} (hi : i < n) (b : ℕ → List ε) (l : List ε) :
    contents n (Function.update b i l) = contents i b ++ (l ++ contentsFrom (i + 1) n b) := by
  rw [contents_eq_append (Nat.le_of_lt hi), contentsFrom_of_lt hi, Function.update_self,
    contents_update_of_le (Nat.le_refl i)]
  congr 2
  exact contentsFrom_congr fun j hj _ => Function.update_of_ne (show j ≠ i by omega) l b

/-- What stands in the other buckets. -/
lemma exists_others {n i : ℕ} (hi : i < n) (b : ℕ → List ε) :
    ∃ others, (contents n b).Perm (b i ++ others) ∧
      (∀ l, (contents n (Function.update b i l)).Perm (l ++ others)) ∧
      ∀ j < n, j ≠ i → b j ⊆ others := by
  refine ⟨contents i b ++ contentsFrom (i + 1) n b, ?_, fun l => ?_, fun j hj hne e he => ?_⟩
  · rw [contents_eq_append (Nat.le_of_lt hi), contentsFrom_of_lt hi]
    exact List.perm_append_comm_assoc ..
  · rw [contents_update hi]
    exact List.perm_append_comm_assoc ..
  · rcases Nat.lt_or_gt_of_ne hne with hlt | hgt
    · exact List.mem_append_left _ (mem_contents_iff.mpr ⟨j, hlt, he⟩)
    · exact List.mem_append_right _ (mem_contentsFrom_iff.mpr ⟨j, hgt, hj, he⟩)

/-! ## Pushing and unlinking one entry -/

/-- Pushing an element adds it to the contents. -/
lemma contents_push_perm {idx : ε → ℕ} {n : ℕ} {e : ε} (he : idx e < n) (b : ℕ → List ε) :
    (contents n (push idx b e)).Perm (e :: contents n b) := by
  have h := contents_update_perm he b (e :: b (idx e))
  rw [List.cons_append] at h
  refine (List.perm_append_left_iff (b (idx e))).mp (h.trans ?_)
  exact List.perm_middle.symm

/-- A pushed element is in its own bucket. -/
lemma placed_push {idx : ε → ℕ} {n : ℕ} {b : ℕ → List ε} (hb : Placed idx n b) (e : ε) :
    Placed idx n (push idx b e) := by
  intro i hi e' he'
  rw [push, Function.update_apply] at he'
  split_ifs at he' with h
  · rcases List.mem_cons.mp he' with rfl | he'
    · exact h.symm
    · rw [h]
      exact hb (idx e) (h ▸ hi) e' he'
  · exact hb i hi e' he'

/-- Unlinking an entry of bucket `i` takes that one entry out of the contents. -/
lemma contents_eraseP_perm {n i : ℕ} (hi : i < n) (b : ℕ → List ε) {p : ε → Bool} {e : ε}
    (he : (b i).find? p = some e) :
    (contents n b).Perm (e :: contents n (Function.update b i ((b i).eraseP p))) := by
  have hperm : (b i).Perm (e :: (b i).eraseP p) := by
    obtain ⟨hp, l₁, l₂, hl, hne⟩ := List.find?_eq_some_iff_append.mp he
    rw [hl, List.eraseP_append_right]
    · rw [List.eraseP_cons_of_pos hp]
      exact List.perm_middle
    · intro a ha
      simpa using hne a ha
  have h := contents_update_perm hi b ((b i).eraseP p)
  have h' : (b i ++ contents n (Function.update b i ((b i).eraseP p))).Perm
      ((b i).eraseP p ++ e :: contents n (Function.update b i ((b i).eraseP p))) :=
    (hperm.append_right _).trans List.perm_middle.symm
  exact (List.perm_append_left_iff _).mp (h.symm.trans h')

/-- Taking elements out of a bucket leaves the others where they belong. -/
lemma placed_update_sublist {idx : ε → ℕ} {n i : ℕ} {b : ℕ → List ε} {l : List ε}
    (hb : Placed idx n b) (hl : l ⊆ b i) : Placed idx n (Function.update b i l) := by
  intro j hj e he
  rw [Function.update_apply] at he
  split_ifs at he with h
  · rw [h] at hj ⊢
    exact hb i hj e (hl he)
  · exact hb j hj e he

/-! ## Changing one entry in place -/

/-- Apply `f` to the first entry of a chain that satisfies `p`. -/
def modifyFirst (p : ε → Bool) (f : ε → ε) : List ε → List ε
  | [] => []
  | e :: l => if p e then f e :: l else e :: modifyFirst p f l

/-- Changing the first match exchanges one element. -/
lemma modifyFirst_perm {p : ε → Bool} {f : ε → ε} {e : ε} :
    ∀ {l : List ε}, l.find? p = some e → (e :: modifyFirst p f l).Perm (f e :: l)
  | a :: l, h => by
      by_cases hp : p a = true
      · rw [List.find?_cons_of_pos hp] at h
        cases h
        rw [modifyFirst, if_pos hp]
        exact List.Perm.swap ..
      · rw [List.find?_cons_of_neg hp] at h
        rw [modifyFirst, if_neg hp]
        calc (e :: a :: modifyFirst p f l).Perm (a :: e :: modifyFirst p f l) :=
              List.Perm.swap ..
          _ |>.Perm (a :: f e :: l) := (modifyFirst_perm h).cons a
          _ |>.Perm (f e :: a :: l) := List.Perm.swap ..

/-- The first match is behind those that do not match. -/
lemma modifyFirst_append {p : ε → Bool} {f : ε → ε} {e : ε} {l₂ : List ε} (he : p e = true) :
    ∀ {l₁ : List ε}, (∀ a ∈ l₁, p a = false) →
      modifyFirst p f (l₁ ++ e :: l₂) = l₁ ++ f e :: l₂
  | [], _ => if_pos he
  | a :: l₁, h => by
      have ha : p a = false := h a List.mem_cons_self
      rw [List.cons_append, modifyFirst, ha,
        modifyFirst_append he fun x hx => h x (List.mem_cons_of_mem a hx)]
      rfl

lemma eraseP_append {p : ε → Bool} {e : ε} {l₁ l₂ : List ε} (he : p e = true)
    (h : ∀ a ∈ l₁, p a = false) : (l₁ ++ e :: l₂).eraseP p = l₁ ++ l₂ := by
  rw [List.eraseP_append_right _ fun a ha => by simp [h a ha], List.eraseP_cons_of_pos he]

/-- Changing the first match in a bucket exchanges one element of the contents. -/
lemma contents_modifyFirst_perm {n i : ℕ} (hi : i < n) (b : ℕ → List ε) {p : ε → Bool}
    {f : ε → ε} {e : ε} (he : (b i).find? p = some e) :
    (e :: contents n (Function.update b i (modifyFirst p f (b i)))).Perm
      (f e :: contents n b) := by
  have h := contents_update_perm hi b (modifyFirst p f (b i))
  have hswap := (modifyFirst_perm (f := f) he).append_right (contents n b)
  refine (List.perm_append_left_iff (b i)).mp ?_
  calc (b i ++ e :: contents n (Function.update b i (modifyFirst p f (b i)))).Perm
        (e :: (b i ++ contents n (Function.update b i (modifyFirst p f (b i))))) :=
        List.perm_middle
    _ |>.Perm (e :: (modifyFirst p f (b i) ++ contents n b)) := h.cons e
    _ |>.Perm (f e :: (b i ++ contents n b)) := hswap
    _ |>.Perm (b i ++ f e :: contents n b) := List.perm_middle.symm

/-- What stands in a chain after a change stood there before, changed or not. -/
lemma mem_modifyFirst {p : ε → Bool} {f : ε → ε} {e : ε} :
    ∀ {l : List ε}, e ∈ modifyFirst p f l → ∃ e' ∈ l, e = e' ∨ e = f e'
  | [], he => absurd he (by simp [modifyFirst])
  | a :: l, he => by
      rw [modifyFirst] at he
      split_ifs at he with h
      · rcases List.mem_cons.mp he with rfl | he
        · exact ⟨a, by simp, Or.inr rfl⟩
        · exact ⟨e, by simp [he], Or.inl rfl⟩
      · rcases List.mem_cons.mp he with rfl | he
        · exact ⟨e, by simp, Or.inl rfl⟩
        · obtain ⟨e', he', heq⟩ := mem_modifyFirst he
          exact ⟨e', by simp [he'], heq⟩

lemma mem_contents_modifyFirst {n i : ℕ} {b : ℕ → List ε} {p : ε → Bool} {f : ε → ε} {e : ε}
    (he : e ∈ contents n (Function.update b i (modifyFirst p f (b i)))) :
    ∃ e' ∈ contents n b, e = e' ∨ e = f e' := by
  obtain ⟨j, hj, hmem⟩ := mem_contents_iff.mp he
  rw [Function.update_apply] at hmem
  split_ifs at hmem with h
  · obtain ⟨e', he', heq⟩ := mem_modifyFirst hmem
    exact ⟨e', mem_contents_iff.mpr ⟨i, h ▸ hj, he'⟩, heq⟩
  · exact ⟨e, mem_contents_iff.mpr ⟨j, hj, hmem⟩, Or.inl rfl⟩

/-- An element that keeps its index stays in its bucket. -/
lemma placed_modifyFirst {idx : ε → ℕ} {n i : ℕ} {b : ℕ → List ε} {p : ε → Bool} {f : ε → ε}
    (hf : ∀ e, idx (f e) = idx e) (hb : Placed idx n b) :
    Placed idx n (Function.update b i (modifyFirst p f (b i))) := by
  intro j hj e he
  rw [Function.update_apply] at he
  split_ifs at he with h
  · rw [h] at hj ⊢
    obtain ⟨e', he', rfl | rfl⟩ := mem_modifyFirst he
    · exact hb i hj _ he'
    · rw [hf]
      exact hb i hj e' he'
  · exact hb j hj e he

/-! ## Moving everything to new buckets -/

/-- Pushing many elements adds them all. -/
lemma foldl_push_perm {idx : ε → ℕ} {n : ℕ} (hidx : ∀ e, idx e < n) :
    ∀ (es : List ε) (b : ℕ → List ε),
      (contents n (es.foldl (push idx) b)).Perm (es ++ contents n b)
  | [], _ => List.Perm.refl _
  | e :: es, b =>
      calc (contents n (es.foldl (push idx) (push idx b e))).Perm
              (es ++ contents n (push idx b e)) := foldl_push_perm hidx es _
        _ |>.Perm (es ++ e :: contents n b) := (contents_push_perm (hidx e) b).append_left es
        _ |>.Perm (e :: (es ++ contents n b)) := List.perm_middle

lemma foldl_push_placed {idx : ε → ℕ} {n : ℕ} :
    ∀ (es : List ε) {b : ℕ → List ε}, Placed idx n b → Placed idx n (es.foldl (push idx) b)
  | [], _, hb => hb
  | e :: es, _, hb => foldl_push_placed es (placed_push hb e)

/-- **Rehashing keeps the contents**, whatever the new index and number of buckets. -/
theorem contents_rehash_perm {idx : ε → ℕ} {n : ℕ} (hidx : ∀ e, idx e < n) (es : List ε) :
    (contents n (rehash idx es)).Perm es := by
  have h := foldl_push_perm hidx es (fun _ => [])
  rwa [contents_empty, List.append_nil] at h

/-- After a rehash every element is in its own bucket. -/
lemma placed_rehash (idx : ε → ℕ) (n : ℕ) (es : List ε) : Placed idx n (rehash idx es) :=
  foldl_push_placed es fun i _ e he => absurd he (by simp)

lemma mem_foldl_push {idx : ε → ℕ} {e : ε} {i : ℕ} :
    ∀ (es : List ε) {b : ℕ → List ε}, e ∈ es.foldl (push idx) b i → e ∈ es ∨ e ∈ b i
  | [], _, h => Or.inr h
  | a :: es, b, h => by
      rcases mem_foldl_push es h with h | h
      · exact Or.inl (List.mem_cons_of_mem a h)
      · rw [push, Function.update_apply] at h
        split_ifs at h with hi
        · rcases List.mem_cons.mp h with rfl | h
          · exact Or.inl List.mem_cons_self
          · rw [← hi] at h
            exact Or.inr h
        · exact Or.inr h

/-- A rehash makes no elements up. -/
lemma mem_rehash {idx : ε → ℕ} {es : List ε} {e : ε} {i : ℕ} (h : e ∈ rehash idx es i) : e ∈ es :=
  (mem_foldl_push es h).resolve_right List.not_mem_nil

/-- Entries that carry more than the index depends on. -/
lemma map_rehash {ε' : Type} (f : ε' → ε) (idx : ε → ℕ) (es : List ε') (i : ℕ) :
    (rehash (fun e => idx (f e)) es i).map f = rehash idx (es.map f) i := by
  have hpush : ∀ (b : ℕ → List ε') (e : ε'),
      (fun i => (push (fun e => idx (f e)) b e i).map f) =
        push idx (fun i => (b i).map f) (f e) := by
    intro b e
    funext j
    rw [push, push, Function.update_apply, Function.update_apply]
    split_ifs <;> rfl
  have hfold : ∀ (es : List ε') (b : ℕ → List ε'),
      (fun i => (es.foldl (push fun e => idx (f e)) b i).map f) =
        (es.map f).foldl (push idx) fun i => (b i).map f := by
    intro es
    induction es with
    | nil => exact fun _ => rfl
    | cons e es ih =>
        intro b
        rw [List.foldl_cons, ih, hpush, List.map_cons, List.foldl_cons]
  exact congrFun (hfold es _) i

lemma contents_map {ε' : Type} (f : ε → ε') (n : ℕ) (b : ℕ → List ε) :
    (contents n b).map f = contents n fun i => (b i).map f := by
  rw [contents, contents, List.map_flatMap]

/-! ## Searching a chain -/

/-- With distinct keys the first entry under a key is the only one: a search finds exactly the
entry that is there, in whatever order the chain stands. -/
lemma find?_key {key : ε → κ} [DecidableEq κ] {l : List ε} (hl : (l.map key).Nodup) {k : κ}
    {e : ε} : l.find? (fun e => decide (k = key e)) = some e ↔ e ∈ l ∧ key e = k := by
  induction l with
  | nil => simp
  | cons a l ih =>
      rw [List.map_cons, List.nodup_cons] at hl
      by_cases h : k = key a
      · rw [List.find?_cons_of_pos (by simpa using h), List.mem_cons]
        constructor
        · rintro ⟨rfl⟩
          exact ⟨Or.inl rfl, h.symm⟩
        · rintro ⟨rfl | he, hk⟩
          · rfl
          · exact absurd (List.mem_map.mpr ⟨e, he, hk.trans h⟩) hl.1
      · rw [List.find?_cons_of_neg (by simpa using h), ih hl.2, List.mem_cons]
        constructor
        · rintro ⟨he, hk⟩
          exact ⟨Or.inr he, hk⟩
        · rintro ⟨rfl | he, hk⟩
          · exact absurd hk.symm h
          · exact ⟨he, hk⟩

end Buckets

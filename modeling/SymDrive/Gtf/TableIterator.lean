import SymDrive.Gtf.LinkedTable

/-!
# The iterator of the hash table

`hashtable/hashtable_itr.c`: an iterator holds the current entry, the entry before it in its chain
and the number of the bucket.  It goes on to the next entry, and it may take the current entry out
of the table on its way.

* `At` — where an iterator stands: the entries it has left behind, and those before it.
* `advance_at`, `remove_at` and `search_at` — what the operations do to the position.
* `iteration_visits_each_once` — so an iteration comes to every entry once, whichever entries it
  takes out, and `search_then_remove` — so an entry that is looked up can be taken out.
-/

namespace SymDrive.Linked

open Checked Chains

variable {κ ν : Type}

/-! ## The iterator and its operations -/

/-- `struct hashtable_itr`, but for the table, which the operations are given. -/
structure HashtableItr where
  e : Option ℕ
  parent : Option ℕ
  index : ℕ

/-- The first bucket that is not empty, of `count` buckets from `i` on, and its first entry. -/
def nextBucket (table : ℕ → Option ℕ) : ℕ → ℕ → Option (ℕ × ℕ)
  | _, 0 => none
  | i, count + 1 =>
      match table i with
      | some a => some (i, a)
      | none => nextBucket table (i + 1) count

/-- `hashtable_iterator`; `mem` is the outcome of the allocation. -/
def hashtableIterator (h : Hashtable κ ν) (mem : Bool) : Option HashtableItr :=
  if mem then
    if h.entrycount = 0 then some ⟨none, none, h.tablelength⟩
    else
      match nextBucket h.table 0 h.tablelength with
      | some (i, a) => some ⟨some a, none, i⟩
      | none => some ⟨none, none, h.tablelength⟩
  else none

/-- The end of `hashtable_iterator_advance`, where the chain has no more entries: the search goes on
at bucket `j`. -/
def advanceBucket (h : Hashtable κ ν) (j : ℕ) : HashtableItr × ℤ :=
  if h.tablelength ≤ j then (⟨none, none, j⟩, 0)
  else
    match nextBucket h.table j (h.tablelength - j) with
    | some (j, next) => (⟨some next, none, j⟩, -1)
    | none => (⟨none, none, h.tablelength⟩, 0)

def hashtableIteratorAdvance (h : Hashtable κ ν) (itr : HashtableItr) :
    Except Misuse (HashtableItr × ℤ) :=
  match itr.e with
  | none => .ok (itr, 0)
  | some a => do
      let c ← load h.mem (some a)
      match c.next with
      | some next => return (⟨some next, some a, itr.index⟩, -1)
      | none => return advanceBucket h (itr.index + 1)

/-- `hashtable_iterator_remove`.  The entry is freed at the end, when the iterator has read where it
pointed to. -/
def hashtableIteratorRemove (h : Hashtable κ ν) (itr : HashtableItr) :
    Except Misuse (Hashtable κ ν × HashtableItr × ℤ) :=
  match itr.e with
  | none => .error .null
  | some a => do
      let c ← load h.mem (some a)
      let (head, mem) ← setLink h.mem (h.table itr.index) itr.parent c.next
      let c ← load mem (some a)
      let h := { h with table := Function.update h.table itr.index head, mem := mem,
                        entrycount := h.entrycount - 1, freed := .key c.data.k :: h.freed }
      let (itr', ret) ← hashtableIteratorAdvance h itr
      let itr' := if itr'.parent = some a then { itr' with parent := itr.parent } else itr'
      let mem ← free h.mem a
      return ({ h with mem := mem }, itr', ret)

def hashtableIteratorSearch (fuel : ℕ) (h : Hashtable κ ν) (itr : HashtableItr) (k : κ) :
    Except Misuse (HashtableItr × ℤ) := do
  let hashvalue := h.hash k
  let index := indexFor h.tablelength hashvalue
  let found ← seek (h.isKey k) h.mem fuel none (h.table index)
  match found with
  | some (parent, a, _) => return (⟨some a, parent, index⟩, -1)
  | none => return (itr, 0)

/-! ## Where an iterator stands -/

/-- The iterator has the entries of `front` behind it, and those of `rest` before it.  The current
entry is the first of `rest`. -/
inductive At (h : Hashtable κ ν) (b : ℕ → List (ℕ × Entry κ ν)) (itr : HashtableItr) :
    List (ℕ × Entry κ ν) → List (ℕ × Entry κ ν) → Prop
  | entry {a d l₂ front rest} (l₁ : List (ℕ × Entry κ ν)) : itr.index < h.tablelength →
      b itr.index = l₁ ++ (a, d) :: l₂ → itr.e = some a → itr.parent = lastAddr l₁ →
      front = Buckets.contents itr.index b ++ l₁ →
      rest = l₂ ++ Buckets.contentsFrom (itr.index + 1) h.tablelength b →
      At h b itr front ((a, d) :: rest)
  | finished {front} : itr.e = none → front = Buckets.contents h.tablelength b → At h b itr front []

section

variable {h : Hashtable κ ν} {b : ℕ → List (ℕ × Entry κ ν)} {itr : HashtableItr}
  {front rest : List (ℕ × Entry κ ν)}

/-- The first bucket that is not empty starts with the first entry that is left. -/
lemma nextBucket_cases (hb : h.Holds b) : ∀ {count i : ℕ}, i + count = h.tablelength →
    (nextBucket h.table i count = none ∧ Buckets.contentsFrom i h.tablelength b = []) ∨
      ∃ j a d l₂, nextBucket h.table i count = some (j, a) ∧ j < h.tablelength ∧
        b j = (a, d) :: l₂ ∧ Buckets.contents j b = Buckets.contents i b ∧
        Buckets.contentsFrom i h.tablelength b =
          (a, d) :: (l₂ ++ Buckets.contentsFrom (j + 1) h.tablelength b)
  | 0, i, hi => Or.inl ⟨rfl, Buckets.contentsFrom_of_le (by omega) b⟩
  | count + 1, i, hi => by
      have hlt : i < h.tablelength := by omega
      have hseg := hb.chain i hlt
      rw [nextBucket, Buckets.contentsFrom_of_lt hlt]
      cases hchain : b i with
      | nil =>
          rw [hchain, Seg] at hseg
          have hcontents : Buckets.contents (i + 1) b = Buckets.contents i b := by
            rw [Buckets.contents_succ, hchain, List.append_nil]
          rw [hseg, ← hcontents, List.nil_append]
          exact nextBucket_cases hb (by omega)
      | cons x l₂ =>
          obtain ⟨a, d⟩ := x
          rw [hchain] at hseg
          rw [hseg.1]
          exact Or.inr ⟨i, a, d, l₂, rfl, hlt, hchain, rfl, rfl⟩

/-- A new iterator has all entries before it. -/
lemma iterator_at (hb : h.Holds b)
    (hcount : h.entrycount = 0 → Buckets.contents h.tablelength b = []) :
    ∃ itr, hashtableIterator h true = some itr ∧
      At h b itr [] (Buckets.contents h.tablelength b) := by
  rw [hashtableIterator, if_pos rfl]
  by_cases hzero : h.entrycount = 0
  · refine ⟨_, if_pos hzero, ?_⟩
    rw [hcount hzero]
    exact .finished rfl (hcount hzero).symm
  · rw [if_neg hzero]
    have hall : Buckets.contents h.tablelength b = Buckets.contentsFrom 0 h.tablelength b :=
      Buckets.contents_eq_append (Nat.zero_le _) b
    rcases nextBucket_cases hb (Nat.zero_add h.tablelength) with
      ⟨hnone, hnil⟩ | ⟨j, a, d, l₂, hsome, hlt, hchain, hcontents, hrest⟩
    · rw [hnone, hall, hnil]
      exact ⟨_, rfl, .finished rfl (hall.trans hnil).symm⟩
    · rw [hsome, hall, hrest]
      refine ⟨_, rfl, .entry [] hlt hchain rfl rfl ?_ rfl⟩
      rw [hcontents]
      rfl

lemma advanceBucket_at (hb : h.Holds b) {i : ℕ} (hi : i ≤ h.tablelength) :
    At h b (advanceBucket h i).1 (Buckets.contents i b)
        (Buckets.contentsFrom i h.tablelength b) ∧
      ((advanceBucket h i).2 = 0 ↔ Buckets.contentsFrom i h.tablelength b = []) ∧
      (advanceBucket h i).1.parent = none := by
  rw [advanceBucket]
  by_cases hlast : h.tablelength ≤ i
  · have hlen : i = h.tablelength := Nat.le_antisymm hi hlast
    rw [if_pos hlast, Buckets.contentsFrom_of_le hlast]
    exact ⟨.finished rfl (by rw [hlen]), iff_of_true rfl rfl, rfl⟩
  · rw [if_neg hlast]
    have hcount : i + (h.tablelength - i) = h.tablelength := by omega
    rcases nextBucket_cases hb hcount with
      ⟨hnone, hnil⟩ | ⟨j, a, d, l₂, hsome, hlt, hchain, hcontents, hfrom⟩
    · rw [hnone, hnil]
      refine ⟨.finished rfl ?_, iff_of_true rfl rfl, rfl⟩
      rw [Buckets.contents_eq_append hi, hnil, List.append_nil]
    · rw [hsome, hfrom]
      refine ⟨.entry [] hlt hchain rfl rfl ?_ rfl,
        iff_of_false (show ¬ (-1 : ℤ) = 0 by decide) (List.cons_ne_nil _ _), rfl⟩
      rw [hcontents, List.append_nil]

lemma advance_of_next {a a' : ℕ} {d : Entry κ ν} (he : itr.e = some a)
    (ha : h.mem a = some ⟨d, some a'⟩) :
    hashtableIteratorAdvance h itr = .ok (⟨some a', some a, itr.index⟩, -1) := by
  rw [hashtableIteratorAdvance, he]
  simp only [load_eq_ok ha, ok_bind]
  rfl

lemma advance_of_last {a : ℕ} {d : Entry κ ν} (he : itr.e = some a)
    (ha : h.mem a = some ⟨d, none⟩) :
    hashtableIteratorAdvance h itr = .ok (advanceBucket h (itr.index + 1)) := by
  rw [hashtableIteratorAdvance, he]
  simp only [load_eq_ok ha, ok_bind]
  rfl

/-- **Going on** to the next entry, if there is one. -/
lemma advance_at (hb : h.Holds b) {x : ℕ × Entry κ ν} (hat : At h b itr front (x :: rest)) :
    ∃ itr' ret, hashtableIteratorAdvance h itr = .ok (itr', ret) ∧
      At h b itr' (front ++ [x]) rest ∧ (ret = 0 ↔ rest = []) := by
  cases hat with
  | @entry a d l₂ _ _ l₁ hlt hchain he hparent hfront hrest =>
      have hseg := hb.chain itr.index hlt
      rw [hchain] at hseg
      obtain ⟨_, hseg₁, rfl, r, hr, hseg₂⟩ := seg_append.mp hseg
      cases l₂ with
      | cons y l₂ =>
          obtain ⟨a', d'⟩ := y
          obtain ⟨rfl, -⟩ := hseg₂
          rw [hrest, List.cons_append]
          refine ⟨_, -1, advance_of_next he hr, .entry (l₁ ++ [(a, d)]) hlt ?_ rfl ?_ ?_ rfl, ?_⟩
          · rw [hchain, List.append_assoc]
            rfl
          · rw [lastAddr_concat]
          · rw [hfront, List.append_assoc]
          · exact iff_of_false (by decide) (List.cons_ne_nil _ _)
      | nil =>
          rw [Seg] at hseg₂
          subst hseg₂
          obtain ⟨hat', hret, -⟩ :=
            advanceBucket_at hb (show itr.index + 1 ≤ h.tablelength from hlt)
          rw [Buckets.contents_succ, hchain, ← List.append_assoc, ← hfront] at hat'
          rw [hrest, List.nil_append]
          exact ⟨_, _, advance_of_last he hr, hat', hret⟩

/-- **Taking out** the current entry, and going on to the next one. -/
lemma remove_at (hb : h.Holds b) {x : ℕ × Entry κ ν} (hat : At h b itr front (x :: rest)) :
    ∃ h' b' itr' ret, hashtableIteratorRemove h itr = .ok (h', itr', ret) ∧ h'.Holds b' ∧
      At h' b' itr' front rest ∧ (ret = 0 ↔ rest = []) ∧ h'.freed = .key x.2.k :: h.freed ∧
      ∃ l₁ l₂, b itr.index = l₁ ++ x :: l₂ ∧
        h'.view b' = { h.view b with
          table := Function.update (h.view b).table itr.index ((l₁ ++ l₂).map Prod.snd)
          entrycount := h.entrycount - 1 } := by
  cases hat with
  | @entry a d l₂ _ _ l₁ hlt hchain he hparent hfront hrest =>
      have hseg := hb.chain itr.index hlt
      rw [hchain] at hseg
      obtain ⟨_, hseg₁, rfl, r, hr, hseg₂⟩ := seg_append.mp hseg
      obtain ⟨head, mem, hlink, hload, hunlinked⟩ := hb.unlink hlt hchain hr
      rw [← hparent] at hlink
      -- the table between the removal and the freeing of the entry, and the one at the end
      let h₁ : Hashtable κ ν :=
        { h with table := Function.update h.table itr.index head, mem := mem,
                 entrycount := h.entrycount - 1, freed := .key d.k :: h.freed }
      let h' : Hashtable κ ν := { h₁ with mem := Function.update mem a none }
      have hb' : h'.Holds (Function.update b itr.index (l₁ ++ l₂)) := hunlinked
      have hbefore : Buckets.contents itr.index (Function.update b itr.index (l₁ ++ l₂)) =
          Buckets.contents itr.index b := Buckets.contents_update_of_le (Nat.le_refl _) b _
      have hbehind : Buckets.contentsFrom (itr.index + 1) h.tablelength
          (Function.update b itr.index (l₁ ++ l₂)) =
            Buckets.contentsFrom (itr.index + 1) h.tablelength b :=
        Buckets.contentsFrom_congr fun j hj _ =>
          Function.update_of_ne (show j ≠ itr.index by omega) _ _
      have hremove : ∀ itr₁ ret, hashtableIteratorAdvance h₁ itr = .ok (itr₁, ret) →
          hashtableIteratorRemove h itr = .ok (h',
            if itr₁.parent = some a then { itr₁ with parent := itr.parent } else itr₁, ret) := by
        intro itr₁ ret hadvance
        rw [hashtableIteratorRemove, he]
        simp only [load_eq_ok hr, ok_bind, hlink, load_eq_ok hload, free_eq_ok hload]
        exact bind_eq_ok.mpr ⟨(itr₁, ret), hadvance, rfl⟩
      refine ⟨h', Function.update b itr.index (l₁ ++ l₂), ?_⟩
      cases l₂ with
      | cons y l₂ =>
          obtain ⟨a', d'⟩ := y
          obtain ⟨rfl, -⟩ := hseg₂
          refine ⟨_, -1, hremove _ _ (advance_of_next he hload), hb', ?_, ?_, rfl, l₁, _, hchain,
            Hashtable.view_setChain ..⟩
          · rw [if_pos rfl, hrest, List.cons_append]
            refine .entry l₁ hlt (Function.update_self ..) rfl hparent ?_ ?_
            · rw [hfront, hbefore]
            · rw [hbehind]
          · rw [hrest]
            exact iff_of_false (by decide) (List.cons_ne_nil _ _)
      | nil =>
          rw [Seg] at hseg₂
          subst hseg₂
          obtain ⟨hat', hret, hnone⟩ :=
            advanceBucket_at hb' (show itr.index + 1 ≤ h'.tablelength from hlt)
          rw [hbehind] at hat' hret
          refine ⟨_, _, hremove (advanceBucket h₁ (itr.index + 1)).1
            (advanceBucket h₁ (itr.index + 1)).2 (advance_of_last he hload), hb', ?_, ?_, rfl, l₁,
            [], hchain, Hashtable.view_setChain ..⟩
          · have hparent' : (advanceBucket h₁ (itr.index + 1)).1.parent ≠ some a := by
              rw [show (advanceBucket h₁ (itr.index + 1)).1.parent = none from hnone]
              exact (Option.some_ne_none a).symm
            rw [if_neg hparent', hrest, List.nil_append, hfront, List.append_nil]
            rw [Buckets.contents_succ, hbefore, Function.update_self, List.append_nil] at hat'
            exact hat'
          · rw [hrest, List.nil_append]
            exact hret

/-- The entry that an iterator stands at. -/
lemma At.load_eq (hb : h.Holds b) {x : ℕ × Entry κ ν} (hat : At h b itr front (x :: rest)) :
    ∃ r, load h.mem itr.e = .ok ⟨x.2, r⟩ := by
  cases hat with
  | @entry a d l₂ _ _ l₁ hlt hchain he hparent hfront hrest =>
      have hseg := hb.chain itr.index hlt
      rw [hchain] at hseg
      obtain ⟨_, -, rfl, r, hr, -⟩ := seg_append.mp hseg
      exact ⟨r, by rw [he, load_eq_ok hr]⟩

/-- An iterator that `hashtable_iterator_search` returns stands at the entry of the key. -/
lemma search_at (hb : h.Holds b) (hw : (h.view b).Wf) {fuel : ℕ}
    (hfuel : (h.view b).entries.length < fuel) {k : κ} {e : Entry κ ν}
    (hfound : h.found b k = some e) (itr : HashtableItr) :
    ∃ itr' front a rest, hashtableIteratorSearch fuel h itr k = .ok (itr', -1) ∧
      At h b itr' front ((a, e) :: rest) := by
  rcases Hashtable.seek_chain hb hw hfuel k with
    ⟨-, hnone⟩ | ⟨l₁, a, e', r, l₂, hchain, hr, -, -, hsome, hseek⟩
  · cases hnone.symm.trans hfound
  · obtain rfl := Option.some.inj (hsome.symm.trans hfound)
    have hlt : indexFor h.tablelength (h.hash k) < h.tablelength := indexFor_lt hw.length_pos _
    refine ⟨⟨some a, lastAddr l₁, indexFor h.tablelength (h.hash k)⟩, _, a, _, ?_,
      .entry l₁ hlt hchain rfl rfl rfl rfl⟩
    rw [hashtableIteratorSearch, hseek]
    rfl

lemma search_of_notFound (hb : h.Holds b) (hw : (h.view b).Wf) {fuel : ℕ}
    (hfuel : (h.view b).entries.length < fuel) {k : κ} (hfound : h.found b k = none)
    (itr : HashtableItr) : hashtableIteratorSearch fuel h itr k = .ok (itr, 0) := by
  rcases Hashtable.seek_chain hb hw hfuel k with ⟨hseek, -⟩ | ⟨_, _, _, _, _, -, -, -, -, hsome, -⟩
  · rw [hashtableIteratorSearch, hseek]
    rfl
  · cases hfound.symm.trans hsome

end

/-! ## The map that an iterator goes through -/

section

variable [DecidableEq κ] {h : Hashtable κ ν} {b : ℕ → List (ℕ × Entry κ ν)}
  {m : Finmap fun _ : κ => ν} {itr : HashtableItr} {front rest : List (ℕ × Entry κ ν)}

/-- What is taken out of a chain by its place is taken out of the map by its key. -/
lemma refines_erase_of_chain (hr : (h.view b).Refines m) {i : ℕ} (hlt : i < h.tablelength)
    {x : ℕ × Entry κ ν} {l₁ l₂ : List (ℕ × Entry κ ν)} (hchain : b i = l₁ ++ x :: l₂) :
    ({ h.view b with
      table := Function.update (h.view b).table i ((l₁ ++ l₂).map Prod.snd)
      entrycount := h.entrycount - 1 } : SymDrive.Hashtable κ ν).Refines (m.erase x.2.k) := by
  have hmem : ∀ y ∈ b i, y.2 ∈ (h.view b).entries := fun y hy =>
    Buckets.mem_contents_iff.mpr ⟨i, hlt, List.mem_map_of_mem hy⟩
  have hx : x ∈ b i := by simp [hchain]
  -- the bucket is that of the key
  have hindex : indexFor h.tablelength (h.hash x.2.k) = i := by
    have hplaced := hr.wf.placed i hlt x.2 (List.mem_map_of_mem hx)
    rwa [SymDrive.Hashtable.bucketOf, hr.wf.hashed x.2 (hmem x hx)] at hplaced
  have hfound : h.found b x.2.k = some x.2 :=
    (SymDrive.Hashtable.find?_isKey hr).mpr ⟨hmem x hx, rfl⟩
  -- no entry before it has the same key
  have hkeys : ((b i).map fun y => y.2.k).Nodup := by
    have hnodup := SymDrive.Hashtable.nodup_keys hr
    have hsub := Buckets.sublist_contents hlt (h.view b).table
    have hchainKeys := hnodup.sublist (hsub.map Entry.k)
    have htable : (h.view b).table i = (b i).map Prod.snd := rfl
    rwa [htable, List.map_map] at hchainKeys
  have hnot : ∀ y ∈ l₁.map Prod.snd, (h.view b).isKey x.2.k y = false := by
    intro y hy
    obtain ⟨z, hz, rfl⟩ := List.mem_map.mp hy
    have hzmem : z ∈ b i := by
      rw [hchain]
      exact List.mem_append_left _ hz
    rw [Bool.eq_false_iff, Ne, SymDrive.Hashtable.isKey_iff hr.wf (hmem z hzmem)]
    intro hk
    rw [hchain, List.map_append, List.map_cons, List.nodup_append'] at hkeys
    refine hkeys.2.2 (List.mem_map_of_mem hz) ?_
    rw [← hk]
    exact List.mem_cons_self
  have hkey : (h.view b).isKey x.2.k x.2 = true :=
    (SymDrive.Hashtable.isKey_iff hr.wf (hmem x hx)).mpr rfl
  have hview : h.chainOf b x.2.k = l₁.map Prod.snd ++ x.2 :: l₂.map Prod.snd := by
    rw [← hindex] at hchain
    exact Hashtable.chainOf_eq hchain
  have hremove := SymDrive.Hashtable.refines_remove hr x.2.k
  rw [Hashtable.remove_of_found_eq_some hfound, hview, Buckets.eraseP_append hkey hnot,
    ← List.map_append] at hremove
  have hindex' : indexFor (h.view b).tablelength ((h.view b).hash x.2.k) = i := hindex
  rwa [hindex'] at hremove

/-- A step of an iteration: the current entry stays or is taken out. -/
inductive ItrStep where
  | advance
  | remove

def ItrStep.exec (h : Hashtable κ ν) (itr : HashtableItr) :
    ItrStep → Except Misuse (Hashtable κ ν × HashtableItr × ℤ)
  | advance => (hashtableIteratorAdvance h itr).map fun (itr, ret) => (h, itr, ret)
  | remove => hashtableIteratorRemove h itr

/-- An iteration that reads the key and the value of the current entry before each step, and what
the step returns. -/
def runSteps : Hashtable κ ν → HashtableItr → List ItrStep →
    Except Misuse (Hashtable κ ν × HashtableItr × List ((κ × ν) × ℤ))
  | h, itr, [] => .ok (h, itr, [])
  | h, itr, s :: ss => do
      let c ← load h.mem itr.e
      let (h, itr, ret) ← s.exec h itr
      let (h, itr, visits) ← runSteps h itr ss
      return (h, itr, ((c.data.k, c.data.v), ret) :: visits)

/-- The keys of the entries that are taken out. -/
def takenOut : List ItrStep → List κ → List κ
  | .remove :: ss, k :: ks => k :: takenOut ss ks
  | .advance :: ss, _ :: ks => takenOut ss ks
  | [], _ | _ :: _, [] => []

/-- The map without some keys. -/
def eraseAll (m : Finmap fun _ : κ => ν) (ks : List κ) : Finmap fun _ : κ => ν :=
  ks.foldl (fun m k => m.erase k) m

/-- What the caller reads at an entry. -/
def pairOf (x : ℕ × Entry κ ν) : κ × ν := (x.2.k, x.2.v)

/-- A step keeps the entries before the iterator, but for the current one. -/
lemma step_at (hb : h.Holds b) (hr : (h.view b).Refines m) {x : ℕ × Entry κ ν}
    (hat : At h b itr front (x :: rest)) (s : ItrStep) :
    ∃ h' itr' ret b' front', s.exec h itr = .ok (h', itr', ret) ∧ h'.Holds b' ∧
      (h'.view b').Refines (eraseAll m (takenOut [s] [x.2.k])) ∧ At h' b' itr' front' rest ∧
      (ret = 0 ↔ rest = []) := by
  cases s with
  | advance =>
      obtain ⟨itr', ret, hadvance, hat', hret⟩ := advance_at hb hat
      refine ⟨h, itr', ret, b, _, ?_, hb, hr, hat', hret⟩
      rw [ItrStep.exec, hadvance]
      rfl
  | remove =>
      have hlt : itr.index < h.tablelength := by
        cases hat
        assumption
      obtain ⟨h', b', itr', ret, hremove, hb', hat', hret, -, l₁, l₂, hchain, hview⟩ :=
        remove_at hb hat
      refine ⟨h', itr', ret, b', front, hremove, hb', ?_, hat', hret⟩
      rw [hview]
      exact refines_erase_of_chain hr hlt hchain

lemma eraseAll_takenOut_cons (m : Finmap fun _ : κ => ν) (s : ItrStep) (ss : List ItrStep) (k : κ)
    (ks : List κ) : eraseAll m (takenOut (s :: ss) (k :: ks)) =
      eraseAll (eraseAll m (takenOut [s] [k])) (takenOut ss ks) := by
  cases s <;> rfl

/-- **An iteration** comes to the entries before the iterator one after the other. -/
lemma runSteps_at : ∀ {ss : List ItrStep} {h : Hashtable κ ν} {b : ℕ → List (ℕ × Entry κ ν)}
    {m : Finmap fun _ : κ => ν} {itr : HashtableItr} {front rest : List (ℕ × Entry κ ν)},
    h.Holds b → (h.view b).Refines m → At h b itr front rest → ss.length ≤ rest.length →
      ∃ h' itr' visits, runSteps h itr ss = .ok (h', itr', visits) ∧
        visits.map Prod.fst = (rest.map pairOf).take ss.length ∧
        (∀ i v, visits[i]? = some v → (v.2 = 0 ↔ i + 1 = rest.length)) ∧
        ∃ b', h'.Holds b' ∧
          (h'.view b').Refines (eraseAll m (takenOut ss (rest.map fun x => x.2.k)))
  | [], h, b, _, itr, _, _, hb, hr, _, _ => by
      refine ⟨h, itr, [], rfl, rfl, ?_, b, hb, hr⟩
      intro i v hv
      cases hv
  | s :: ss, h, b, m, itr, front, x :: rest, hb, hr, hat, hlen => by
      obtain ⟨r, hload⟩ := hat.load_eq hb
      obtain ⟨h₁, itr₁, ret, b₁, front₁, hexec, hb₁, hr₁, hat₁, hret⟩ := step_at hb hr hat s
      have hlen' : ss.length ≤ rest.length := by simpa using hlen
      obtain ⟨h', itr', visits, hrun, hvisits, hrets, b', hb', hr'⟩ :=
        runSteps_at hb₁ hr₁ hat₁ hlen'
      refine ⟨h', itr', (pairOf x, ret) :: visits, ?_, ?_, ?_, b', hb', ?_⟩
      · rw [runSteps]
        exact bind_eq_ok.mpr ⟨_, hload, bind_eq_ok.mpr ⟨_, hexec, bind_eq_ok.mpr ⟨_, hrun, rfl⟩⟩⟩
      · rw [List.map_cons, hvisits]
        rfl
      · intro i v hv
        cases i with
        | zero =>
            cases hv
            rw [hret, List.length_cons, ← List.length_eq_zero_iff]
            omega
        | succ i =>
            rw [hrets i v hv, List.length_cons]
            omega
      · rw [List.map_cons, eraseAll_takenOut_cons]
        exact hr'

/-! ## Iterations over a table in use -/

variable {minsize : ℕ} {hashf : κ → UInt32} {eqf : κ → κ → Bool} {handle table : Bool}
  {h₀ : Hashtable κ ν}

/-- **Every entry once.**  After every run of calls on a new table, an iteration comes to each
binding of the map once, whichever entries it takes out on its way; a step returns zero where it
leaves the last one; and the entries that are taken out are those that are missing afterwards. -/
theorem iteration_visits_each_once (heq : ∀ a b, eqf a b = true ↔ a = b)
    (hcreate : createHashtable minsize hashf eqf handle table = some h₀)
    (cs : List (TableCall κ ν)) (hlegal : Along TableCall.next TableCall.Legal ∅ cs)
    (hcount : cs.length < UInt32.size) (fuel : ℕ) (hfuel : cs.length < fuel) :
    ∃ h rs itr, ∃ pairs : List (κ × ν), runCalls fuel h₀ cs = .ok (h, rs) ∧
      hashtableIterator h true = some itr ∧
      ((pairs.map fun p => (⟨p.1, p.2⟩ : Sigma fun _ : κ => ν) : List _) : Multiset _) =
        (cs.foldl TableCall.next ∅).entries ∧
      ∀ ss : List ItrStep, ss.length ≤ pairs.length →
        ∃ h' itr' visits, runSteps h itr ss = .ok (h', itr', visits) ∧
          visits.map Prod.fst = pairs.take ss.length ∧
          (∀ i v, visits[i]? = some v → (v.2 = 0 ↔ i + 1 = pairs.length)) ∧
          ∃ b', h'.Holds b' ∧ (h'.view b').Refines
            (eraseAll (cs.foldl TableCall.next ∅) (takenOut ss (pairs.map Prod.fst))) := by
  obtain ⟨hb₀, -, hview⟩ := holds_create hcreate
  have hr₀ := SymDrive.Hashtable.refines_create heq hview
  obtain ⟨h, rs, hrun, -, ⟨b, hb, hr⟩, -⟩ := run_done hb₀ hr₀ hlegal (start_lt_fuel hfuel)
  have hempty : h.entrycount = 0 → Buckets.contents h.tablelength b = [] := by
    intro hzero
    have hcard := hr.count
    have hle := card_foldl_next hlegal
    have hnone : Multiset.card (∅ : Finmap fun _ : κ => ν).entries = 0 := rfl
    rw [SymDrive.Hashtable.card_keys] at hcard
    have hlt : Multiset.card (cs.foldl TableCall.next ∅).entries < UInt32.size := by omega
    have hnat := congrArg UInt32.toNat (hcard.symm.trans hzero)
    rw [UInt32.toNat_ofNat_of_lt' hlt, UInt32.toNat_zero, ← Hashtable.length_entries hr,
      Hashtable.entries_view, List.length_map] at hnat
    exact List.length_eq_zero_iff.mp hnat
  obtain ⟨itr, hitr, hat⟩ := iterator_at hb hempty
  refine ⟨h, rs, itr, (Buckets.contents h.tablelength b).map pairOf, hrun, hitr, ?_, ?_⟩
  · rw [← hr.entries, Hashtable.entries_view, List.map_map, List.map_map]
    rfl
  · intro ss hss
    rw [List.length_map] at hss
    obtain ⟨h', itr', visits, hsteps, hvisits, hrets, hholds⟩ := runSteps_at hb hr hat hss
    refine ⟨h', itr', visits, hsteps, hvisits, ?_, ?_⟩
    · rw [List.length_map]
      exact hrets
    · rw [List.map_map]
      exact hholds

/-- An iteration over three entries that takes out the first and the last one. -/
theorem insertions_iterate : ∃ (h h' : Hashtable ℕ String) (itr itr' : HashtableItr)
    (p₁ p₂ p₃ : ℕ × String) (visits : List ((ℕ × String) × ℤ)),
    hashtableIterator h true = some itr ∧
      runSteps h itr [.remove, .advance, .remove] = .ok (h', itr', visits) ∧
      visits.map Prod.fst = [p₁, p₂, p₃] ∧
      ∃ b', h'.Holds b' ∧ (h'.view b').Refines
        (eraseAll ((insertions 3).foldl TableCall.next ∅) [p₁.1, p₃.1]) := by
  have hcreate : (createHashtable 10 UInt32.ofNat (· == ·) true true :
      Option (Hashtable ℕ String)) = some _ := rfl
  obtain ⟨h, rs, itr, pairs, -, hitr, hpairs, hall⟩ := iteration_visits_each_once
    (fun _ _ => beq_iff_eq) hcreate (insertions 3) (insertions_legal 3)
    (by rw [length_insertions]; decide) 4 (by rw [length_insertions]; decide)
  have hlength : pairs.length = 3 := by
    have hcard := congrArg Multiset.card hpairs
    rwa [Multiset.coe_card, List.length_map] at hcard
  obtain ⟨p₁, p₂, p₃, rfl⟩ := List.length_eq_three.mp hlength
  obtain ⟨h', itr', visits, hsteps, hvisits, -, hleft⟩ :=
    hall [.remove, .advance, .remove] (Nat.le_refl 3)
  exact ⟨h, h', itr, itr', p₁, p₂, p₃, visits, hitr, hsteps, hvisits, hleft⟩

/-- **Looking up and taking out.**  After every run of calls on a new table, an iterator that has
been set to a key stands at its entry, which the iterator then takes out of the map. -/
theorem search_then_remove (heq : ∀ a b, eqf a b = true ↔ a = b)
    (hcreate : createHashtable minsize hashf eqf handle table = some h₀)
    (cs : List (TableCall κ ν)) (hlegal : Along TableCall.next TableCall.Legal ∅ cs) (fuel : ℕ)
    (hfuel : cs.length < fuel) :
    ∃ h rs, runCalls fuel h₀ cs = .ok (h, rs) ∧ ∀ (itr : HashtableItr) (k : κ),
      match (cs.foldl TableCall.next ∅).lookup k with
      | none => hashtableIteratorSearch fuel h itr k = .ok (itr, 0)
      | some v => ∃ itr' hash next, hashtableIteratorSearch fuel h itr k = .ok (itr', -1) ∧
          load h.mem itr'.e = .ok ⟨⟨k, v, hash⟩, next⟩ ∧
          ∃ h' itr'' ret b', hashtableIteratorRemove h itr' = .ok (h', itr'', ret) ∧ h'.Holds b' ∧
            (h'.view b').Refines ((cs.foldl TableCall.next ∅).erase k) ∧
            h'.freed = .key k :: h.freed := by
  obtain ⟨hb₀, -, hview⟩ := holds_create hcreate
  have hr₀ := SymDrive.Hashtable.refines_create heq hview
  obtain ⟨h, rs, hrun, -, ⟨b, hb, hr⟩, -⟩ := run_done hb₀ hr₀ hlegal (start_lt_fuel hfuel)
  have hlength : (h.view b).entries.length < fuel := by
    rw [Hashtable.length_entries hr]
    exact Nat.lt_of_le_of_lt (card_foldl_next hlegal) (start_lt_fuel hfuel)
  refine ⟨h, rs, hrun, fun itr k => ?_⟩
  cases hfound : h.found b k with
  | none =>
      rw [Hashtable.found_eq_none hr hfound]
      exact search_of_notFound hb hr.wf hlength hfound itr
  | some e =>
      obtain ⟨hlookup, rfl⟩ := Hashtable.found_eq_some hr hfound
      obtain ⟨itr', front, a, rest, hsearch, hat⟩ := search_at hb hr.wf hlength hfound itr
      obtain ⟨r, hload⟩ := hat.load_eq hb
      have hlt : itr'.index < h.tablelength := by
        cases hat
        assumption
      obtain ⟨h', b', itr'', ret, hremove, hb', -, -, hfreed, l₁, l₂, hchain, hview'⟩ :=
        remove_at hb hat
      rw [hlookup]
      refine ⟨itr', e.h, r, hsearch, hload, h', itr'', ret, b', hremove, hb', ?_, hfreed⟩
      rw [hview']
      exact refines_erase_of_chain hr hlt hchain

theorem exampleCall_search_then_remove : ∃ (h h' : Hashtable ℕ String) (itr itr' : HashtableItr)
    (ret : ℤ), hashtableIteratorSearch 2 h ⟨none, none, 0⟩ 1 = .ok (itr, -1) ∧
      hashtableIteratorRemove h itr = .ok (h', itr', ret) ∧ h'.freed = .key 1 :: h.freed := by
  have hcreate : (createHashtable 10 UInt32.ofNat (· == ·) true true :
      Option (Hashtable ℕ String)) = some _ := rfl
  obtain ⟨h, rs, -, hall⟩ := search_then_remove (fun _ _ => beq_iff_eq) hcreate
    [.insert 1 "a" ⟨true, true⟩ (lowestFree _)] ⟨Finmap.notMem_empty, trivial⟩ 2 (by decide)
  have hone := hall ⟨none, none, 0⟩ 1
  rw [List.foldl_cons, List.foldl_nil, TableCall.next, if_pos rfl, Finmap.lookup_insert] at hone
  obtain ⟨itr, hash, next, hsearch, -, h', itr', ret, b', hremove, -, -, hfreed⟩ := hone
  exact ⟨h, h', itr, itr', ret, hsearch, hremove, hfreed⟩

end

end SymDrive.Linked

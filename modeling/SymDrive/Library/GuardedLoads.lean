import Mathlib.Data.List.Basic
import Mathlib.Tactic.Basic

/-!
# Loads behind tests

Code without loops and assignments, over any type of pointers.  A path of the code is the sequence
of its loads and of its successful tests, when every condition comes out one way or the other.  As
nothing is assigned, a pointer keeps its value along a path.

`nullSafe_iff`: every load of every path comes after a successful test of the pointer exactly when
every load stands inside the tests that it needs.
-/

namespace SymDrive.Guarded

variable {π : Type*}

/-- A statement that loads through some pointers, or a conditional statement.  Its condition loads
through some pointers too; where it compares a pointer with null, `tested` is the pointer, which is
not null in the first block. -/
inductive Code (π : Type*) where
  | use (loads : List π)
  | cond (loads : List π) (tested : Option π) (b1 b2 : List (Code π))

inductive Event (π : Type*) where
  | load (p : π)
  | notNull (p : π)

/-- The paths of a block. -/
inductive Path : List (Code π) → List (Event π) → Prop where
  | nil : Path [] []
  | use {ls cs tail} : Path cs tail → Path (.use ls :: cs) (ls.map .load ++ tail)
  | condTrue {ls t b1 b2 cs inner tail} : Path b1 inner → Path cs tail →
      Path (.cond ls t b1 b2 :: cs)
        (ls.map .load ++ (t.toList.map .notNull ++ (inner ++ tail)))
  | condFalse {ls t b1 b2 cs inner tail} : Path b2 inner → Path cs tail →
      Path (.cond ls t b1 b2 :: cs) (ls.map .load ++ (inner ++ tail))

/-- On every path, every pointer is tested to be non-null before a load through it. -/
def NullSafe (cs : List (Code π)) : Prop :=
  ∀ path, Path cs path → ∀ before p after, path = before ++ .load p :: after →
    .notNull p ∈ before

/-- Somewhere in the block stands a load through `p`, inside the successful tests `gs`. -/
inductive LoadsInside : List (Code π) → List π → π → Prop where
  | use {ls cs p} : p ∈ ls → LoadsInside (.use ls :: cs) [] p
  | condition {ls t b1 b2 cs p} : p ∈ ls → LoadsInside (.cond ls t b1 b2 :: cs) [] p
  | condTrue {ls t b1 b2 cs gs p} : LoadsInside b1 gs p →
      LoadsInside (.cond ls t b1 b2 :: cs) (t.toList ++ gs) p
  | condFalse {ls t b1 b2 cs gs p} : LoadsInside b2 gs p →
      LoadsInside (.cond ls t b1 b2 :: cs) gs p
  | tail {c cs gs p} : LoadsInside cs gs p → LoadsInside (c :: cs) gs p

section

variable {gs : List π} {p : π}

lemma loadsInside_nil : ¬ LoadsInside [] gs p := nofun

lemma loadsInside_cons {c : Code π} {cs : List (Code π)} :
    LoadsInside (c :: cs) gs p ↔ LoadsInside [c] gs p ∨ LoadsInside cs gs p := by
  constructor
  · intro h
    cases h with
    | use h => exact Or.inl (.use h)
    | condition h => exact Or.inl (.condition h)
    | condTrue h => exact Or.inl (.condTrue h)
    | condFalse h => exact Or.inl (.condFalse h)
    | tail h => exact Or.inr h
  · rintro (h | h)
    · cases h with
      | use h => exact .use h
      | condition h => exact .condition h
      | condTrue h => exact .condTrue h
      | condFalse h => exact .condFalse h
      | tail h => exact absurd h loadsInside_nil
    · exact h.tail

lemma loadsInside_append {cs cs' : List (Code π)} :
    LoadsInside (cs ++ cs') gs p ↔ LoadsInside cs gs p ∨ LoadsInside cs' gs p := by
  induction cs with
  | nil => simp [loadsInside_nil]
  | cons c cs ih => rw [List.cons_append, loadsInside_cons, ih, ← or_assoc, ← loadsInside_cons]

lemma loadsInside_use {ls : List π} : LoadsInside [.use ls] gs p ↔ gs = [] ∧ p ∈ ls := by
  constructor
  · intro h
    cases h with
    | use h => exact ⟨rfl, h⟩
    | tail h => exact absurd h loadsInside_nil
  · rintro ⟨rfl, h⟩
    exact .use h

lemma loadsInside_cond {ls : List π} {t : Option π} {b1 b2 : List (Code π)} :
    LoadsInside [.cond ls t b1 b2] gs p ↔ (gs = [] ∧ p ∈ ls) ∨
      (∃ gs', gs = t.toList ++ gs' ∧ LoadsInside b1 gs' p) ∨ LoadsInside b2 gs p := by
  constructor
  · intro h
    cases h with
    | condition h => exact Or.inl ⟨rfl, h⟩
    | condTrue h => exact Or.inr (Or.inl ⟨_, rfl, h⟩)
    | condFalse h => exact Or.inr (Or.inr h)
    | tail h => exact absurd h loadsInside_nil
  · rintro (⟨rfl, h⟩ | ⟨gs', rfl, h⟩ | h)
    · exact .condition h
    · exact .condTrue h
    · exact .condFalse h

end

/-! ## From paths to loads -/

/-- An element of an append stands in one of the two parts. -/
lemma append_eq_append_cons {α : Type*} {as bs before after : List α} {x : α}
    (h : as ++ bs = before ++ x :: after) :
    (∃ rest, as = before ++ x :: rest) ∨
      ∃ front, before = as ++ front ∧ bs = front ++ x :: after := by
  rcases List.append_eq_append_iff.mp h with ⟨front, hbefore, hbs⟩ | ⟨rest, has, hrest⟩
  · exact Or.inr ⟨front, hbefore, hbs⟩
  · cases rest with
    | nil => exact Or.inr ⟨[], by simpa using has.symm, by simpa using hrest.symm⟩
    | cons y rest =>
        obtain ⟨rfl, -⟩ := List.cons.inj hrest
        exact Or.inl ⟨rest, has⟩

lemma mem_of_map_load {ls : List π} {before after : List (Event π)} {p : π}
    (h : ls.map .load = before ++ .load p :: after) : p ∈ ls := by
  have hmem : Event.load p ∈ ls.map .load := by
    rw [h]
    exact List.mem_append_right _ List.mem_cons_self
  obtain ⟨q, hq, heq⟩ := List.mem_map.mp hmem
  cases heq
  exact hq

lemma not_load_of_map_notNull {t : Option π} {before after : List (Event π)} {p : π} :
    t.toList.map .notNull ≠ before ++ .load p :: after := by
  intro h
  have hmem : Event.load p ∈ t.toList.map .notNull := by
    rw [h]
    exact List.mem_append_right _ List.mem_cons_self
  obtain ⟨q, -, heq⟩ := List.mem_map.mp hmem
  cases heq

/-- A load on a path stands in the block, and the tests around it succeed before it. -/
lemma Path.loadsInside {cs : List (Code π)} {path : List (Event π)} (h : Path cs path) :
    ∀ {before p after}, path = before ++ .load p :: after →
      ∃ gs, LoadsInside cs gs p ∧ ∀ g ∈ gs, .notNull g ∈ before := by
  induction h with
  | nil =>
      intro before p after heq
      simp at heq
  | use _ ih =>
      intro before p after heq
      rcases append_eq_append_cons heq with ⟨rest, hls⟩ | ⟨front, rfl, htail⟩
      · exact ⟨[], .use (mem_of_map_load hls), by simp⟩
      · obtain ⟨gs, hgs, htests⟩ := ih htail
        exact ⟨gs, hgs.tail, fun g hg => List.mem_append_right _ (htests g hg)⟩
  | condTrue _ _ ihinner ih =>
      intro before p after heq
      rcases append_eq_append_cons heq with ⟨rest, hls⟩ | ⟨front, rfl, hrest⟩
      · exact ⟨[], .condition (mem_of_map_load hls), by simp⟩
      rcases append_eq_append_cons hrest with ⟨rest, htest⟩ | ⟨front, rfl, hblock⟩
      · exact absurd htest not_load_of_map_notNull
      rcases append_eq_append_cons hblock with ⟨rest, hinner⟩ | ⟨front, rfl, htail⟩
      · obtain ⟨gs, hgs, htests⟩ := ihinner hinner
        refine ⟨_, hgs.condTrue, fun g hg => ?_⟩
        rcases List.mem_append.mp hg with hg | hg
        · have hmem : Event.notNull g ∈ _ := List.mem_map_of_mem hg
          exact List.mem_append_right _ (List.mem_append_left _ hmem)
        · simp [htests g hg]
      · obtain ⟨gs, hgs, htests⟩ := ih htail
        exact ⟨gs, hgs.tail, fun g hg => by simp [htests g hg]⟩
  | condFalse _ _ ihinner ih =>
      intro before p after heq
      rcases append_eq_append_cons heq with ⟨rest, hls⟩ | ⟨front, rfl, hrest⟩
      · exact ⟨[], .condition (mem_of_map_load hls), by simp⟩
      rcases append_eq_append_cons hrest with ⟨rest, hinner⟩ | ⟨front, rfl, htail⟩
      · obtain ⟨gs, hgs, htests⟩ := ihinner hinner
        exact ⟨gs, hgs.condFalse, fun g hg => by simp [htests g hg]⟩
      · obtain ⟨gs, hgs, htests⟩ := ih htail
        exact ⟨gs, hgs.tail, fun g hg => by simp [htests g hg]⟩

/-! ## From loads to paths -/

/-- When every condition is false, no test succeeds. -/
lemma exists_path_no_test : ∀ cs : List (Code π), ∃ path, Path cs path ∧ ∀ p, .notNull p ∉ path
  | [] => ⟨[], .nil, by simp⟩
  | .use ls :: cs => by
      obtain ⟨tail, htail, htests⟩ := exists_path_no_test cs
      exact ⟨_, htail.use, by simpa using htests⟩
  | .cond ls t b1 b2 :: cs => by
      obtain ⟨inner, hinner, hnone⟩ := exists_path_no_test b2
      obtain ⟨tail, htail, htests⟩ := exists_path_no_test cs
      exact ⟨_, hinner.condFalse htail, by simpa using fun p => ⟨hnone p, htests p⟩⟩

/-- Some path reaches the load after no other successful tests than those around it. -/
lemma LoadsInside.exists_path {cs : List (Code π)} {gs : List π} {p : π}
    (h : LoadsInside cs gs p) : ∃ before after, Path cs (before ++ .load p :: after) ∧
      ∀ q, .notNull q ∈ before → q ∈ gs := by
  induction h with
  | @use ls cs p hp =>
      obtain ⟨front, back, rfl⟩ := List.append_of_mem hp
      obtain ⟨tail, htail, -⟩ := exists_path_no_test cs
      refine ⟨front.map .load, back.map .load ++ tail, ?_, by simp⟩
      have hpath : Path (.use (front ++ p :: back) :: cs) _ := htail.use
      simpa using hpath
  | @condition ls t b1 b2 cs p hp =>
      obtain ⟨front, back, rfl⟩ := List.append_of_mem hp
      obtain ⟨inner, hinner, -⟩ := exists_path_no_test b2
      obtain ⟨tail, htail, -⟩ := exists_path_no_test cs
      refine ⟨front.map .load, back.map .load ++ (inner ++ tail), ?_, by simp⟩
      have hpath : Path (.cond (front ++ p :: back) t b1 b2 :: cs) _ := hinner.condFalse htail
      simpa using hpath
  | @condTrue ls t b1 b2 cs gs p _ ih =>
      obtain ⟨before, after, hinner, htests⟩ := ih
      obtain ⟨tail, htail, -⟩ := exists_path_no_test cs
      refine ⟨ls.map .load ++ (t.toList.map .notNull ++ before), after ++ tail, ?_, fun q hq => ?_⟩
      · have hpath : Path (.cond ls t b1 b2 :: cs) _ := hinner.condTrue htail
        simpa using hpath
      · have hmem : q ∈ t.toList ∨ .notNull q ∈ before := by simpa using hq
        exact List.mem_append.mpr (hmem.imp_right (htests q))
  | @condFalse ls t b1 b2 cs gs p _ ih =>
      obtain ⟨before, after, hinner, htests⟩ := ih
      obtain ⟨tail, htail, -⟩ := exists_path_no_test cs
      refine ⟨ls.map .load ++ before, after ++ tail, ?_, fun q hq => ?_⟩
      · have hpath : Path (.cond ls t b1 b2 :: cs) _ := hinner.condFalse htail
        simpa using hpath
      · exact htests q (by simpa using hq)
  | @tail c cs gs p _ ih =>
      obtain ⟨before, after, hpath, htests⟩ := ih
      cases c with
      | use ls =>
          refine ⟨ls.map .load ++ before, after, ?_, fun q hq => htests q (by simpa using hq)⟩
          rw [List.append_assoc]
          exact hpath.use
      | cond ls t b1 b2 =>
          obtain ⟨inner, hinner, hnone⟩ := exists_path_no_test b2
          refine ⟨ls.map .load ++ (inner ++ before), after, ?_, fun q hq => ?_⟩
          · rw [List.append_assoc, List.append_assoc]
            exact hinner.condFalse hpath
          · have hmem : .notNull q ∈ inner ∨ .notNull q ∈ before := by simpa using hq
            exact htests q (hmem.resolve_left (hnone q))

/-- **Null safety** of the paths is a property of the nesting. -/
theorem nullSafe_iff (cs : List (Code π)) :
    NullSafe cs ↔ ∀ gs p, LoadsInside cs gs p → p ∈ gs := by
  constructor
  · intro hsafe gs p hload
    obtain ⟨before, after, hpath, htests⟩ := hload.exists_path
    exact htests p (hsafe _ hpath before p after rfl)
  · intro hinside path hpath before p after heq
    obtain ⟨gs, hload, htests⟩ := hpath.loadsInside heq
    exact htests p (hinside gs p hload)

end SymDrive.Guarded

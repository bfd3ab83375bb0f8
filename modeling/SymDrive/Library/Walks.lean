import Mathlib.Data.List.Chain
import Mathlib.Data.List.Basic

/-!
# Machines along a walk

A machine reads the places of a walk one after the other and may refuse one.  An annotation says
which state the machine should be in at each place.

* `annotated_iff` — the machine is in the annotated state all along the walk when it is at the start
  and every step leads from one annotation to the next: a condition on every prefix becomes one on
  neighbours.
* `annotated_iff_of_edges` — the same in a graph, where it is enough to know of every edge when its
  step is right.
-/

namespace Walks

variable {σ ι : Type*} (act : σ → ι → Option σ) (A : ι → σ)

/-- Before each place of the walk the machine is in the annotated state. -/
def Annotated (s : σ) (walk : List ι) : Prop :=
  ∀ front x back, walk = front ++ x :: back → front.foldlM act s = some (A x)

/-- The machine goes from the annotation of `x` to that of `y`. -/
def Lawful (x y : ι) : Prop := act (A x) x = some (A y)

variable {act A}

lemma annotated_singleton {s : σ} {x : ι} : Annotated act A s [x] ↔ s = A x := by
  constructor
  · intro h
    simpa using h [] x [] rfl
  · rintro rfl front y back hwalk
    rcases List.append_eq_singleton_iff.mp hwalk.symm with ⟨rfl, hy⟩ | ⟨rfl, hy⟩
    · cases hy
      rfl
    · cases hy

lemma annotated_cons_cons {s : σ} {x y : ι} {walk : List ι} :
    Annotated act A s (x :: y :: walk) ↔
      s = A x ∧ Lawful act A x y ∧ Annotated act A (A y) (y :: walk) := by
  constructor
  · intro h
    have hs : s = A x := by simpa using h [] x (y :: walk) rfl
    have hlaw : act s x = some (A y) := by simpa using h [x] y walk rfl
    refine ⟨hs, by rw [Lawful, ← hs]; exact hlaw, fun front z back hwalk => ?_⟩
    have hz := h (x :: front) z back (by rw [hwalk]; rfl)
    rwa [List.foldlM_cons, hlaw] at hz
  · rintro ⟨rfl, hlaw, h⟩ front z back hwalk
    cases front with
    | nil =>
        cases hwalk
        rfl
    | cons x' front =>
        rw [List.cons_append, List.cons.injEq] at hwalk
        obtain ⟨rfl, hwalk⟩ := hwalk
        rw [List.foldlM_cons, hlaw]
        exact h front z back hwalk

/-- **An annotation is a condition on neighbours.** -/
theorem annotated_iff {s : σ} {walk : List ι} : Annotated act A s walk ↔
    (∀ x, walk.head? = some x → s = A x) ∧ walk.IsChain (Lawful act A) := by
  induction walk generalizing s with
  | nil => simp [Annotated]
  | cons x walk ih =>
      cases walk with
      | nil => simp [annotated_singleton]
      | cons y walk =>
          rw [annotated_cons_cons, ih, List.isChain_cons_cons]
          simp

/-- On a walk in a graph two relations that agree on its edges hold together. -/
lemma isChain_congr {E R S : ι → ι → Prop} {walk : List ι} (hwalk : walk.IsChain E)
    (h : ∀ x y, E x y → (R x y ↔ S x y)) : walk.IsChain R ↔ walk.IsChain S := by
  rw [List.isChain_iff_forall_rel_of_append_cons_cons] at hwalk ⊢
  rw [List.isChain_iff_forall_rel_of_append_cons_cons]
  constructor
  · exact fun hR x y front back hsplit => (h x y (hwalk hsplit)).mp (hR hsplit)
  · exact fun hS x y front back hsplit => (h x y (hwalk hsplit)).mpr (hS hsplit)

/-- **Annotations in a graph.** -/
theorem annotated_iff_of_edges {E C : ι → ι → Prop} {s : σ} {walk : List ι}
    (hwalk : walk.IsChain E) (hstart : ∀ x, walk.head? = some x → s = A x)
    (hedge : ∀ x y, E x y → (Lawful act A x y ↔ C x y)) :
    Annotated act A s walk ↔ walk.IsChain C := by
  rw [annotated_iff, isChain_congr hwalk hedge]
  exact and_iff_right hstart

end Walks

import Mathlib.Data.Finset.Card
import Mathlib.Data.Finset.SDiff
import Mathlib.Tactic.Basic

/-!
# Marking what is reachable

A traversal of a cyclic structure that marks every node it enters, and enters no marked one.  What
an occurrence of a node brings with it (`inside`) is looked at only where this occurrence enters the
node, so the marks depend on the order.

* `Visit`, `visitAll` — the traversal, for any graph.  Entering a node uses fuel, and as much as
  there are unmarked nodes is enough.
* `visitAll_sound` — only what is reachable is marked.
* `visitAll_closed` — what is marked is closed under the successors that do not stand inside.
* `markRoots_sound`, `markRoots_closed` — the same for a traversal from roots, which are entered
  marked or not.
-/

namespace Marking

/-- What a traversal meets: an occurrence of a node, or one that only marks it.  Only leaves are
marked so. -/
inductive Visit (N : Type) (Leaf : N → Prop) where
  | visit (n : N) (inside : List (Visit N Leaf))
  | touch (n : N) (leaf : Leaf n)

variable {N : Type} {Leaf : N → Prop}

namespace Visit

def node : Visit N Leaf → N
  | visit n _ | touch n _ => n

mutual

/-- All nodes that may be met. -/
def nodes : Visit N Leaf → List N
  | visit n inside => n :: nodesOf inside
  | touch n _ => [n]

def nodesOf : List (Visit N Leaf) → List N
  | [] => []
  | v :: vs => v.nodes ++ nodesOf vs

end

lemma mem_nodesOf {n : N} {vs : List (Visit N Leaf)} :
    n ∈ nodesOf vs ↔ ∃ v ∈ vs, n ∈ v.nodes := by
  induction vs with
  | nil => simp [nodesOf]
  | cons v vs ih => simp [nodesOf, ih]

lemma mem_nodesOf_append {n : N} {vs ws : List (Visit N Leaf)} :
    n ∈ nodesOf (vs ++ ws) ↔ n ∈ nodesOf vs ∨ n ∈ nodesOf ws := by
  simp only [mem_nodesOf, List.mem_append, or_and_right, exists_or]

lemma mem_nodesOf_flatMap {α : Type} {f : α → List (Visit N Leaf)} {n : N} {as : List α} :
    n ∈ nodesOf (as.flatMap f) ↔ ∃ a ∈ as, n ∈ nodesOf (f a) := by
  induction as with
  | nil => simp [nodesOf]
  | cons a as ih => simp [mem_nodesOf_append, ih]

end Visit

open Visit

/-- What a traversal meets on entering a node, before and after what stands inside. -/
structure Graph (N : Type) (Leaf : N → Prop) where
  before : N → List (Visit N Leaf)
  after : N → List (Visit N Leaf)

namespace Graph

variable (G : Graph N Leaf)

/-- What stands inside is looked at twice. -/
def entering (n : N) (inside : List (Visit N Leaf)) : List (Visit N Leaf) :=
  G.before n ++ inside ++ G.after n ++ inside

/-- What can be met behind the occurrences. -/
inductive Reach (vs : List (Visit N Leaf)) : N → Prop where
  | met {n : N} : n ∈ nodesOf vs → Reach vs n
  | before {m n : N} : Reach vs m → n ∈ nodesOf (G.before m) → Reach vs n
  | after {m n : N} : Reach vs m → n ∈ nodesOf (G.after m) → Reach vs n

/-- A set of nodes that is not left. -/
def Closed (U : Finset N) : Prop :=
  ∀ n ∈ U, ∀ m, m ∈ nodesOf (G.before n) ∨ m ∈ nodesOf (G.after n) → m ∈ U

variable {G}

lemma Reach.trans {vs ws : List (Visit N Leaf)} {n : N} (h : G.Reach vs n)
    (hvs : ∀ m ∈ nodesOf vs, G.Reach ws m) : G.Reach ws n := by
  induction h with
  | met h => exact hvs _ h
  | before _ h ih => exact ih.before h
  | after _ h ih => exact ih.after h

lemma Reach.mono {vs ws : List (Visit N Leaf)} {n : N} (h : G.Reach vs n)
    (hvs : ∀ m ∈ nodesOf vs, m ∈ nodesOf ws) : G.Reach ws n :=
  h.trans fun m hm => .met (hvs m hm)

/-- What is met on entering a node is reachable from where the node occurs. -/
lemma Reach.of_entering {n m : N} {inside : List (Visit N Leaf)}
    (h : G.Reach (G.entering n inside) m) : G.Reach [.visit n inside] m := by
  have hn : G.Reach [.visit n inside] n := .met (by simp [nodesOf, nodes])
  have hinside : ∀ k ∈ nodesOf inside, G.Reach [.visit n inside] k := fun k hk =>
    .met (by simp [nodesOf, nodes, hk])
  refine h.trans fun k hk => ?_
  simp only [entering, mem_nodesOf_append] at hk
  rcases hk with ((hk | hk) | hk) | hk
  · exact hn.before hk
  · exact hinside k hk
  · exact hn.after hk
  · exact hinside k hk

/-! ## The traversal -/

variable [DecidableEq N] (G)

def visitOne : ℕ → Finset N → Visit N Leaf → Finset N
  | _, marked, .touch n _ => insert n marked
  | 0, marked, .visit _ _ => marked
  | fuel + 1, marked, .visit n inside =>
      if n ∈ marked then marked
      else (G.entering n inside).foldl (visitOne fuel) (insert n marked)

def visitAll (fuel : ℕ) (marked : Finset N) (vs : List (Visit N Leaf)) : Finset N :=
  vs.foldl (G.visitOne fuel) marked

/-- A root is marked, and what occurs in it is met, whether it was marked before or not. -/
def markRoots (fuel : ℕ) (marked : Finset N) (roots : List (N × List (Visit N Leaf))) : Finset N :=
  roots.foldl (fun marked root => G.visitAll fuel (insert root.1 marked) root.2) marked

variable {G} {fuel : ℕ} {marked : Finset N}

lemma visitAll_cons (v : Visit N Leaf) (vs : List (Visit N Leaf)) :
    G.visitAll fuel marked (v :: vs) = G.visitAll fuel (G.visitOne fuel marked v) vs :=
  rfl

lemma markRoots_cons (root : N × List (Visit N Leaf)) (roots : List (N × List (Visit N Leaf))) :
    G.markRoots fuel marked (root :: roots) =
      G.markRoots fuel (G.visitAll fuel (insert root.1 marked) root.2) roots :=
  rfl

lemma visitOne_succ (n : N) (inside : List (Visit N Leaf)) :
    G.visitOne (fuel + 1) marked (.visit n inside) =
      if n ∈ marked then marked
      else G.visitAll fuel (insert n marked) (G.entering n inside) := by
  rw [visitOne]
  rfl

/-- No mark is taken back. -/
lemma subset_visitAll (vs : List (Visit N Leaf)) : marked ⊆ G.visitAll fuel marked vs := by
  have hall : ∀ fuel, (∀ marked v, marked ⊆ G.visitOne fuel marked v) →
      ∀ (vs : List (Visit N Leaf)) marked, marked ⊆ G.visitAll fuel marked vs := by
    intro fuel hone vs
    induction vs with
    | nil => exact fun marked => Finset.Subset.refl _
    | cons v vs ih => exact fun marked => (hone marked v).trans (ih _)
  induction fuel generalizing marked vs with
  | zero =>
      refine hall 0 (fun marked v => ?_) vs marked
      cases v with
      | visit n inside => exact Finset.Subset.refl _
      | touch n leaf => exact Finset.subset_insert n marked
  | succ fuel ih =>
      refine hall (fuel + 1) (fun marked v => ?_) vs marked
      cases v with
      | visit n inside =>
          rw [visitOne_succ]
          split_ifs
          · exact Finset.Subset.refl _
          · exact (Finset.subset_insert n marked).trans (ih _)
      | touch n leaf => exact Finset.subset_insert n marked

/-- **Only what is reachable is marked.** -/
theorem visitAll_sound {vs : List (Visit N Leaf)} {n : N} (h : n ∈ G.visitAll fuel marked vs) :
    n ∈ marked ∨ G.Reach vs n := by
  have hall : ∀ fuel, (∀ marked v m, m ∈ G.visitOne fuel marked v →
      m ∈ marked ∨ G.Reach [v] m) → ∀ (vs : List (Visit N Leaf)) marked n,
      n ∈ G.visitAll fuel marked vs → n ∈ marked ∨ G.Reach vs n := by
    intro fuel hone vs
    induction vs with
    | nil => exact fun marked n hn => Or.inl hn
    | cons v vs ih =>
        intro marked n hn
        rw [visitAll_cons] at hn
        rcases ih _ n hn with hn | hn
        · exact (hone marked v n hn).imp id fun hv => hv.mono fun m hm => by
            rw [nodesOf, nodesOf, List.append_nil] at hm
            exact List.mem_append_left _ hm
        · exact Or.inr (hn.mono fun m hm => List.mem_append_right _ hm)
  have htouch : ∀ fuel marked m (leaf : Leaf m) n, n ∈ G.visitOne fuel marked (.touch m leaf) →
      n ∈ marked ∨ G.Reach [.touch m leaf] n := by
    intro fuel marked m leaf n hn
    rw [visitOne] at hn
    rcases Finset.mem_insert.mp hn with rfl | hn
    · exact Or.inr (.met (by simp [nodesOf, nodes]))
    · exact Or.inl hn
  induction fuel generalizing marked vs n with
  | zero =>
      refine hall 0 (fun marked v m hm => ?_) vs marked n h
      cases v with
      | visit k inside => exact Or.inl hm
      | touch k leaf => exact htouch 0 marked k leaf m hm
  | succ fuel ih =>
      refine hall (fuel + 1) (fun marked v m hm => ?_) vs marked n h
      cases v with
      | visit k inside =>
          rw [visitOne_succ] at hm
          split_ifs at hm with hk
          · exact Or.inl hm
          · rcases ih hm with hm | hm
            · rcases Finset.mem_insert.mp hm with rfl | hm
              · exact Or.inr (.met (by simp [nodesOf, nodes]))
              · exact Or.inl hm
            · exact Or.inr hm.of_entering
      | touch k leaf => exact htouch (fuel + 1) marked k leaf m hm

/-! ## Everything reachable -/

/-- The occurrences behind a node are marked. -/
def Covered (G : Graph N Leaf) (marked : Finset N) (n : N) : Prop :=
  ∀ v ∈ G.before n ++ G.after n, v.node ∈ marked

omit [DecidableEq N] in
lemma Covered.mono {n : N} {marked' : Finset N} (h : G.Covered marked n)
    (hsub : marked ⊆ marked') : G.Covered marked' n :=
  fun v hv => hsub (h v hv)

/-- `marked'` is what a traversal of `vs` from `marked` should give. -/
structure Closes (G : Graph N Leaf) (vs : List (Visit N Leaf)) (marked marked' : Finset N) :
    Prop where
  marks : ∀ v ∈ vs, v.node ∈ marked'
  covers : ∀ n ∈ marked', n ∉ marked → Leaf n ∨ G.Covered marked' n

/-- One occurrence after the other. -/
lemma Closes.visitAll {U : Finset N}
    (hone : ∀ marked v, (∀ n ∈ v.nodes, n ∈ U) → (U \ marked).card ≤ fuel →
      G.Closes [v] marked (G.visitOne fuel marked v))
    {vs : List (Visit N Leaf)} (hvs : ∀ n ∈ nodesOf vs, n ∈ U) (hfuel : (U \ marked).card ≤ fuel) :
    G.Closes vs marked (G.visitAll fuel marked vs) := by
  induction vs generalizing marked with
  | nil => exact ⟨by simp, fun n hn hnot => absurd hn hnot⟩
  | cons v vs ih =>
      rw [nodesOf] at hvs
      have hv : G.Closes [v] marked (G.visitOne fuel marked v) :=
        hone marked v (fun n hn => hvs n (List.mem_append_left _ hn)) hfuel
      have hsub : marked ⊆ G.visitOne fuel marked v := subset_visitAll [v]
      have hrest : G.Closes vs (G.visitOne fuel marked v)
          (G.visitAll fuel (G.visitOne fuel marked v) vs) :=
        ih (fun n hn => hvs n (List.mem_append_right _ hn))
          ((Finset.card_le_card (Finset.sdiff_subset_sdiff (Finset.Subset.refl U) hsub)).trans
            hfuel)
      have hsub' : G.visitOne fuel marked v ⊆ G.visitAll fuel marked (v :: vs) :=
        subset_visitAll vs
      constructor
      · intro w hw
        rcases List.mem_cons.mp hw with rfl | hw
        · exact hsub' (hv.marks w (List.mem_singleton_self w))
        · exact hrest.marks w hw
      · intro n hn hnot
        by_cases hone : n ∈ G.visitOne fuel marked v
        · exact (hv.covers n hone hnot).imp id fun h => h.mono hsub'
        · exact hrest.covers n hn hone

/-- **With enough fuel** every occurrence is marked, and so are those behind a node that is marked
on the way. -/
theorem visitAll_closed {U : Finset N} (hU : G.Closed U) {vs : List (Visit N Leaf)}
    (hvs : ∀ n ∈ nodesOf vs, n ∈ U) (hfuel : (U \ marked).card ≤ fuel) :
    G.Closes vs marked (G.visitAll fuel marked vs) := by
  have htouch : ∀ fuel marked n (leaf : Leaf n),
      G.Closes [.touch n leaf] marked (G.visitOne fuel marked (.touch n leaf)) := by
    intro fuel marked n leaf
    rw [visitOne]
    constructor
    · intro v hv
      rw [List.mem_singleton.mp hv]
      exact Finset.mem_insert_self n marked
    · intro m hm hnot
      obtain rfl := (Finset.mem_insert.mp hm).resolve_right hnot
      exact Or.inl leaf
  have hmarked : ∀ marked n (inside : List (Visit N Leaf)), n ∈ marked →
      G.Closes [.visit n inside] marked marked := by
    intro marked n inside hn
    constructor
    · intro v hv
      rw [List.mem_singleton.mp hv]
      exact hn
    · exact fun m hm hnot => absurd hm hnot
  induction fuel generalizing marked vs with
  | zero =>
      refine Closes.visitAll (fun marked v hv hcard => ?_) hvs hfuel
      cases v with
      | visit n inside =>
          have hempty : U \ marked = ∅ := Finset.card_eq_zero.mp (Nat.le_zero.mp hcard)
          exact hmarked marked n inside
            (Finset.sdiff_eq_empty_iff_subset.mp hempty (hv n (by simp [nodes])))
      | touch n leaf => exact htouch 0 marked n leaf
  | succ fuel ih =>
      refine Closes.visitAll (fun marked v hv hcard => ?_) hvs hfuel
      cases v with
      | visit n inside =>
          rw [visitOne_succ]
          split_ifs with hn
          · exact hmarked marked n inside hn
          · have hnU : n ∈ U := hv n (by simp [nodes])
            have hinside : ∀ m ∈ nodesOf (G.entering n inside), m ∈ U := by
              intro m hm
              simp only [entering, mem_nodesOf_append] at hm
              rcases hm with ((hm | hm) | hm) | hm
              · exact hU n hnU m (Or.inl hm)
              · exact hv m (by simp [nodes, hm])
              · exact hU n hnU m (Or.inr hm)
              · exact hv m (by simp [nodes, hm])
            have hless : (U \ insert n marked).card < (U \ marked).card := by
              rw [Finset.sdiff_insert]
              exact Finset.card_erase_lt_of_mem (Finset.mem_sdiff.mpr ⟨hnU, hn⟩)
            have hrec := ih hinside (Nat.le_of_lt_succ (hless.trans_le hcard))
            constructor
            · intro v hv
              rw [List.mem_singleton.mp hv]
              exact subset_visitAll _ (Finset.mem_insert_self n marked)
            · intro m hm hnot
              by_cases hmn : m = n
              · subst hmn
                refine Or.inr fun v hv => hrec.marks v ?_
                simp only [entering, List.mem_append] at hv ⊢
                tauto
              · exact hrec.covers m hm (by simp [hmn, hnot])
      | touch n leaf => exact htouch (fuel + 1) marked n leaf

/-! ## Traversals from roots -/

lemma subset_markRoots (roots : List (N × List (Visit N Leaf))) :
    marked ⊆ G.markRoots fuel marked roots := by
  induction roots generalizing marked with
  | nil => exact Finset.Subset.refl _
  | cons root roots ih =>
      exact ((Finset.subset_insert root.1 marked).trans (subset_visitAll root.2)).trans ih

/-- Only roots and what is reachable from them is marked. -/
theorem markRoots_sound {roots : List (N × List (Visit N Leaf))} {n : N}
    (h : n ∈ G.markRoots fuel marked roots) :
    n ∈ marked ∨ ∃ root ∈ roots, n = root.1 ∨ G.Reach root.2 n := by
  induction roots generalizing marked with
  | nil => exact Or.inl h
  | cons root roots ih =>
      rcases ih h with h | ⟨r, hr, h⟩
      · rcases visitAll_sound h with h | h
        · rcases Finset.mem_insert.mp h with rfl | h
          · exact Or.inr ⟨root, List.mem_cons_self, Or.inl rfl⟩
          · exact Or.inl h
        · exact Or.inr ⟨root, List.mem_cons_self, Or.inr h⟩
      · exact Or.inr ⟨r, List.mem_cons_of_mem _ hr, h⟩

/-- **From roots**, every root and every occurrence in one is marked, and so are those behind a node
that is marked on the way. -/
theorem markRoots_closed (marked : Finset N) {U : Finset N} (hU : G.Closed U)
    {roots : List (N × List (Visit N Leaf))}
    (hroots : ∀ root ∈ roots, ∀ n ∈ nodesOf root.2, n ∈ U) (hfuel : U.card ≤ fuel) :
    (∀ root ∈ roots, root.1 ∈ G.markRoots fuel marked roots ∧
      ∀ v ∈ root.2, v.node ∈ G.markRoots fuel marked roots) ∧
    ∀ n ∈ G.markRoots fuel marked roots, n ∉ marked →
      Leaf n ∨ (∃ root ∈ roots, root.1 = n) ∨ G.Covered (G.markRoots fuel marked roots) n := by
  induction roots generalizing marked with
  | nil => exact ⟨by simp, fun n hn hnot => absurd hn hnot⟩
  | cons root roots ih =>
      have hvisit : G.Closes root.2 (insert root.1 marked)
          (G.visitAll fuel (insert root.1 marked) root.2) :=
        visitAll_closed hU (hroots root List.mem_cons_self)
          ((Finset.card_le_card Finset.sdiff_subset).trans hfuel)
      obtain ⟨hmarks, hcovers⟩ := ih (G.visitAll fuel (insert root.1 marked) root.2)
        fun r hr => hroots r (List.mem_cons_of_mem _ hr)
      have hsub : G.visitAll fuel (insert root.1 marked) root.2 ⊆
          G.markRoots fuel (G.visitAll fuel (insert root.1 marked) root.2) roots :=
        subset_markRoots roots
      rw [markRoots_cons]
      constructor
      · intro r hr
        rcases List.mem_cons.mp hr with rfl | hr
        · exact ⟨hsub (subset_visitAll _ (Finset.mem_insert_self _ _)),
            fun v hv => hsub (hvisit.marks v hv)⟩
        · exact hmarks r hr
      · intro n hn hnot
        by_cases hbefore : n ∈ G.visitAll fuel (insert root.1 marked) root.2
        · by_cases hroot : n = root.1
          · exact Or.inr (Or.inl ⟨root, List.mem_cons_self, hroot.symm⟩)
          · rcases hvisit.covers n hbefore (by simp [hroot, hnot]) with h | h
            · exact Or.inl h
            · exact Or.inr (Or.inr (h.mono hsub))
        · rcases hcovers n hn hbefore with h | ⟨r, hr, h⟩ | h
          · exact Or.inl h
          · exact Or.inr (Or.inl ⟨r, List.mem_cons_of_mem _ hr, h⟩)
          · exact Or.inr (Or.inr h)

end Graph

end Marking

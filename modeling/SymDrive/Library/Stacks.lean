import Mathlib.Data.List.Flatten
import Mathlib.Data.List.Forall2
import SymDrive.Library.Checked

/-!
# Stacks of threads and one shared bag

Threads open and close things.  Each thread closes what it opened last, and what is open is kept in
one place for all threads, where a thread closes a thing by its name.

`Run.disciplined`: in every run, in whatever order the threads take their steps, what is closed is
open, and what is open is what the threads have open together.
-/

namespace Stacks

open Checked

variable {α ι θ : Type}

/-- What a step does to what is open. -/
inductive Move (α : Type) where
  | quiet
  | opens (a : α)
  | closes (a : α)

namespace Move

/-- On the stack of the thread. -/
inductive OnStack : Move α → List α → List α → Prop
  | quiet (s : List α) : OnStack .quiet s s
  | opens (a : α) (s : List α) : OnStack (.opens a) s (a :: s)
  | closes (a : α) (s : List α) : OnStack (.closes a) (a :: s) s

/-- On the bag of all threads. -/
inductive OnBag : Move α → List α → List α → Prop
  | quiet {xs xs' : List α} : xs'.Perm xs → OnBag .quiet xs xs'
  | opens {a : α} {xs xs' : List α} : xs'.Perm (a :: xs) → OnBag (.opens a) xs xs'
  | closes {a : α} {xs xs' : List α} : xs.Perm (a :: xs') → OnBag (.closes a) xs xs'

/-- What is closed is open. -/
def Legal (xs : List α) : Move α → Prop
  | .closes a => a ∈ xs
  | .quiet | .opens _ => True

variable {m : Move α} {s s' xs xs' others : List α}

lemma OnStack.legal (h : m.OnStack s s') (hxs : xs.Perm (s ++ others)) : m.Legal xs := by
  cases h with
  | quiet | opens => trivial
  | closes a => exact hxs.mem_iff.mpr (List.mem_append_left _ List.mem_cons_self)

lemma OnStack.onBag (h : m.OnStack s s') (hbag : m.OnBag xs xs') (hxs : xs.Perm (s ++ others)) :
    xs'.Perm (s' ++ others) := by
  cases h with
  | quiet =>
      cases hbag with
      | quiet hperm => exact hperm.trans hxs
  | opens a =>
      cases hbag with
      | opens hperm => exact hperm.trans (hxs.cons a)
  | closes a =>
      cases hbag with
      | closes hperm => exact (hperm.symm.trans hxs).cons_inv

end Move

/-! ## Runs of a pool of threads -/

variable (step : θ → Option ι → θ → Prop) (idle : θ)

/-- The threads, and what they have done so far, in any order. -/
inductive Run : List θ → List ι → Prop
  | nil : Run [] []
  | spawn {ts : List θ} {es : List ι} : Run ts es → Run (idle :: ts) es
  | step (front back : List θ) {t t' : θ} {e : Option ι} {es : List ι} :
      Run (front ++ t :: back) es → step t e t' → Run (front ++ t' :: back) (es ++ e.toList)

/-- What a thread does, if it does anything that the bag is told of. -/
def moveOf (move : ι → Move α) (e : Option ι) : Move α := (e.map move).getD .quiet

variable {step idle}

lemma perm_flatten {front back : List (List α)} (s : List α) :
    (front ++ s :: back).flatten.Perm (s ++ (front.flatten ++ back.flatten)) := by
  rw [List.flatten_append, List.flatten_cons, ← List.append_assoc, ← List.append_assoc]
  exact List.perm_append_comm.append_right _

/-- One thread among the others. -/
lemma forall₂_middle {R : θ → List α → Prop} {front back : List θ} {t : θ} {ss : List (List α)}
    (h : List.Forall₂ R (front ++ t :: back) ss) :
    ∃ ss₁ s ss₂, ss = ss₁ ++ s :: ss₂ ∧ R t s ∧
      ∀ t' s', R t' s' → List.Forall₂ R (front ++ t' :: back) (ss₁ ++ s' :: ss₂) := by
  induction front generalizing ss with
  | nil =>
      cases h with
      | cons hs hrest => exact ⟨[], _, _, rfl, hs, fun t' s' hs' => .cons hs' hrest⟩
  | cons t₁ front ih =>
      cases h with
      | @cons _ s₁ _ _ hs₁ hrest =>
          obtain ⟨ss₁, s, ss₂, rfl, hs, hnew⟩ := ih hrest
          exact ⟨s₁ :: ss₁, s, ss₂, rfl, hs, fun t' s' hs' => .cons hs₁ (hnew t' s' hs')⟩

/-- **Safety of the bag** in every run.  `R` says what a thread has open. -/
theorem Run.disciplined {move : ι → Move α} {next : List α → ι → List α}
    {R : θ → List α → Prop} (hidle : R idle [])
    (hstep : ∀ t s e t', R t s → step t e t' →
      ∃ s', (moveOf move e).OnStack s s' ∧ R t' s')
    (hnext : ∀ xs i, (move i).Legal xs → (move i).OnBag xs (next xs i))
    {ts : List θ} {es : List ι} (h : Run step idle ts es) :
    ∃ ss, List.Forall₂ R ts ss ∧ (es.foldl next []).Perm ss.flatten ∧
      Along next (fun xs i => (move i).Legal xs) [] es := by
  induction h with
  | nil => exact ⟨[], .nil, .nil, trivial⟩
  | spawn _ ih =>
      obtain ⟨ss, hholds, hperm, halong⟩ := ih
      exact ⟨[] :: ss, .cons hidle hholds, hperm, halong⟩
  | @step front back t t' e es _ hgo ih =>
      obtain ⟨ss, hholds, hperm, halong⟩ := ih
      obtain ⟨ss₁, s, ss₂, rfl, hs, hnew⟩ := forall₂_middle hholds
      obtain ⟨s', hmove, hs'⟩ := hstep t s e t' hs hgo
      have hbag := hperm.trans (perm_flatten s)
      refine ⟨ss₁ ++ s' :: ss₂, hnew t' s' hs', ?_⟩
      cases e with
      | none =>
          cases hmove
          rw [Option.toList_none, List.append_nil]
          exact ⟨hperm, halong⟩
      | some i =>
          have hlegal := hmove.legal hbag
          rw [Option.toList_some, List.foldl_append, List.foldl_cons, List.foldl_nil]
          exact ⟨(hmove.onBag (hnext _ i hlegal) hbag).trans (perm_flatten s').symm,
            halong.append ⟨hlegal, trivial⟩⟩

end Stacks

import Mathlib.Logic.Function.Iterate
import Mathlib.Tactic.Basic

/-!
# Work lists

The control flow of a few procedures that call one another can be run on a list of actions: the
first action is replaced by the actions it consists of, and some actions halt the machine.  The
list is the call stack.

`Reaches` says that the machine halts after finitely many steps.  `Blocked` is the reason why it
may not: before every halting action stands a *barrier*, and a barrier consists of a blocked list
again (`not_reaches_of_blocked`).
-/

namespace WorkList

variable {α : Type}

/-- A work list, or the element that ended the search has been found. -/
inductive Status (α : Type) where
  | running (todo : List α)
  | halted

section

variable (expand : α → List α) (halts : α → Prop) [DecidablePred halts]

/-- One step looks at the first element of the work list. -/
def step : Status α → Status α
  | .running [] => .running []
  | .running (a :: rest) => if halts a then .halted else .running (expand a ++ rest)
  | .halted => .halted

/-- The machine halts after finitely many steps. -/
def Reaches (todo : List α) : Prop := ∃ n, (step expand halts)^[n] (.running todo) = .halted

lemma reaches_of_halts {a : α} {rest : List α} (h : halts a) :
    Reaches expand halts (a :: rest) :=
  ⟨1, by rw [Function.iterate_one, step, if_pos h]⟩

/-- An element that does not halt is replaced by its expansion. -/
lemma reaches_cons {a : α} {rest : List α} (h : ¬ halts a) :
    Reaches expand halts (a :: rest) ↔ Reaches expand halts (expand a ++ rest) := by
  have hstep : step expand halts (.running (a :: rest)) = .running (expand a ++ rest) := by
    rw [step, if_neg h]
  constructor
  · rintro ⟨n, hn⟩
    cases n with
    | zero => cases hn
    | succ n =>
        rw [Function.iterate_succ_apply, hstep] at hn
        exact ⟨n, hn⟩
  · rintro ⟨n, hn⟩
    refine ⟨n + 1, ?_⟩
    rw [Function.iterate_succ_apply, hstep, hn]

/-- Actions that consist of nothing are passed over. -/
lemma Reaches.prepend {ys : List α} (h : Reaches expand halts ys) :
    ∀ xs : List α, (∀ a ∈ xs, ¬ halts a ∧ expand a = []) → Reaches expand halts (xs ++ ys)
  | [], _ => h
  | a :: xs, hxs => by
      obtain ⟨hrun, hnil⟩ := hxs a (by simp)
      rw [List.cons_append, reaches_cons expand halts hrun, hnil]
      exact h.prepend xs fun b hb => hxs b (by simp [hb])

end

variable {expand : α → List α} {halts : α → Prop}

/-- A barrier stands before the first halting action. -/
def Blocked (halts barrier : α → Prop) : List α → Prop
  | [] => False
  | a :: rest => barrier a ∨ (¬ halts a ∧ Blocked halts barrier rest)

/-- What stands behind a barrier is not looked at. -/
lemma Blocked.append {barrier : α → Prop} :
    ∀ {xs : List α} (ys : List α), Blocked halts barrier xs → Blocked halts barrier (xs ++ ys)
  | _ :: _, _, Or.inl h => Or.inl h
  | _ :: _, ys, Or.inr ⟨h, hrest⟩ => Or.inr ⟨h, hrest.append ys⟩

/-- Elements in front that do not halt leave the barrier where it is. -/
lemma Blocked.prepend {barrier : α → Prop} {ys : List α} (h : Blocked halts barrier ys) :
    ∀ {xs : List α}, (∀ a ∈ xs, ¬ halts a) → Blocked halts barrier (xs ++ ys)
  | [], _ => h
  | a :: _, hxs => Or.inr ⟨hxs a (by simp), h.prepend fun b hb => hxs b (by simp [hb])⟩

/-- **A blocked machine runs forever**, if barriers stay blocked and everything else comes to an end
without halting. -/
theorem not_reaches_of_blocked [DecidablePred halts] {barrier : α → Prop}
    (hbarrier : ∀ a, barrier a → ¬ halts a)
    (hblocked : ∀ a, barrier a → Blocked halts barrier (expand a))
    (hplain : ∀ a, ¬ halts a → ¬ barrier a → ∀ b ∈ expand a, ¬ halts b)
    {todo : List α} (h : Blocked halts barrier todo) : ¬ Reaches expand halts todo := by
  rintro ⟨n, hn⟩
  induction n generalizing todo with
  | zero => cases hn
  | succ n ih =>
      cases todo with
      | nil => exact h
      | cons a rest =>
          have hrun : ¬ halts a := h.elim (hbarrier a) And.left
          rw [Function.iterate_succ_apply, step, if_neg hrun] at hn
          refine ih ?_ hn
          by_cases hb : barrier a
          · exact (hblocked a hb).append rest
          · exact (h.resolve_left hb).2.prepend (hplain a hrun hb)

end WorkList

import Mathlib.Data.Nat.Notation
import Mathlib.Tactic.Basic

/-!
# Machines that step

A machine says of a state whether it goes on to another state, halts with an outcome, or is stuck.

`Simulation` relates two machines of which the second takes at least one step for every step of the
first, and it is stuck where the first is stuck.  Then the two have the same outcomes:
`Simulation.returns` from the first machine to the second, and `Simulation.returned` back, which is
by induction on the number of steps that the second machine has left.
-/

namespace Stepping

/-- What a step gives: the next state, an outcome, or nothing. -/
inductive Next (σ ω : Type) where
  | goes (s : σ)
  | halts (o : ω)
  | stuck

variable {σ ω σ' ω' : Type}

/-- The machine gets from one state to another in `n` steps. -/
inductive Takes (m : σ → Next σ ω) : ℕ → σ → σ → Prop
  | refl (s : σ) : Takes m 0 s s
  | step {n : ℕ} {s s₁ s₂ : σ} : m s = .goes s₁ → Takes m n s₁ s₂ → Takes m (n + 1) s s₂

/-- The machine halts with an outcome after `n` steps. -/
inductive Ends (m : σ → Next σ ω) : ℕ → σ → ω → Prop
  | halt {s : σ} {o : ω} : m s = .halts o → Ends m 0 s o
  | step {n : ℕ} {s s₁ : σ} {o : ω} : m s = .goes s₁ → Ends m n s₁ o → Ends m (n + 1) s o

/-- The machine comes to an outcome. -/
def Returns (m : σ → Next σ ω) (s : σ) (o : ω) : Prop := ∃ n, Ends m n s o

section

variable {m : σ → Next σ ω} {s s₁ s₂ : σ} {o : ω} {n k : ℕ}

lemma Takes.single (h : m s = .goes s₁) : Takes m 1 s s₁ := .step h (.refl s₁)

/-- Two runs, one after the other. -/
lemma Takes.trans (h : Takes m n s s₁) (h' : Takes m k s₁ s₂) : Takes m (n + k) s s₂ := by
  induction h with
  | refl s => rwa [Nat.zero_add]
  | step hgo _ ih =>
      rw [Nat.add_right_comm]
      exact .step hgo (ih h')

lemma Returns.halt (h : m s = .halts o) : Returns m s o := ⟨0, .halt h⟩

/-- A run that comes to a state comes to the outcomes of that state. -/
lemma Takes.returns (h : Takes m n s s₁) (hr : Returns m s₁ o) : Returns m s o := by
  induction h with
  | refl s => exact hr
  | step hgo _ ih =>
      obtain ⟨k, hk⟩ := ih hr
      exact ⟨k + 1, .step hgo hk⟩

/-- A run that ends goes through every state that the machine gets to. -/
lemma Takes.ends (h : Takes m n s s₁) (he : Ends m k s o) : n ≤ k ∧ Ends m (k - n) s₁ o := by
  induction h generalizing k with
  | refl s => exact ⟨Nat.zero_le k, he⟩
  | @step n s s₁ s₂ hgo _ ih =>
      cases he with
      | halt hhalt =>
          rw [hgo] at hhalt
          cases hhalt
      | @step k _ s₁' _ hgo' he =>
          rw [hgo] at hgo'
          cases hgo'
          obtain ⟨hle, hends⟩ := ih he
          rw [Nat.add_sub_add_right]
          exact ⟨Nat.succ_le_succ hle, hends⟩

/-- A machine comes to one outcome at most. -/
lemma Returns.unique {o' : ω} (h : Returns m s o) (h' : Returns m s o') : o = o' := by
  obtain ⟨n, hn⟩ := h
  obtain ⟨k, hk⟩ := h'
  induction hn generalizing k with
  | halt hhalt =>
      cases hk with
      | halt hhalt' =>
          rw [hhalt] at hhalt'
          cases hhalt'
          rfl
      | step hgo' _ =>
          rw [hhalt] at hgo'
          cases hgo'
  | step hgo _ ih =>
      cases hk with
      | halt hhalt' =>
          rw [hgo] at hhalt'
          cases hhalt'
      | step hgo' hk =>
          rw [hgo] at hgo'
          cases hgo'
          exact ih _ hk

/-- Where the machine gets stuck, it does not return. -/
lemma Takes.not_returns (h : Takes m n s s₁) (hstuck : m s₁ = .stuck) : ¬ Returns m s o := by
  rintro ⟨k, hk⟩
  obtain ⟨-, hends⟩ := h.ends hk
  generalize k - n = j at hends
  cases hends with
  | halt hhalt =>
      rw [hstuck] at hhalt
      cases hhalt
  | step hgo _ =>
      rw [hstuck] at hgo
      cases hgo

end

/-! ## Simulations -/

/-- The second machine does with at least as many steps what the first one does. -/
structure Simulation (m : σ → Next σ ω) (m' : σ' → Next σ' ω') (R : σ → σ' → Prop)
    (Q : ω → ω' → Prop) : Prop where
  goes : ∀ s t s₁, R s t → m s = .goes s₁ → ∃ n t₁, Takes m' (n + 1) t t₁ ∧ R s₁ t₁
  halts : ∀ s t o, R s t → m s = .halts o → ∃ o', Returns m' t o' ∧ Q o o'
  stuck : ∀ s t, R s t → m s = .stuck → ∃ n t₁, Takes m' n t t₁ ∧ m' t₁ = .stuck

namespace Simulation

variable {m : σ → Next σ ω} {m' : σ' → Next σ' ω'} {R : σ → σ' → Prop} {Q : ω → ω' → Prop}
  (h : Simulation m m' R Q)

include h

/-- **Simulation**, forwards: what the first machine returns, the second returns too. -/
theorem returns {s : σ} {t : σ'} {o : ω} (hst : R s t) (hr : Returns m s o) :
    ∃ o', Returns m' t o' ∧ Q o o' := by
  obtain ⟨n, hn⟩ := hr
  induction hn generalizing t with
  | halt hhalt => exact h.halts _ _ _ hst hhalt
  | step hgo _ ih =>
      obtain ⟨k, t₁, htakes, hst₁⟩ := h.goes _ _ _ hst hgo
      obtain ⟨o', hr', hQ⟩ := ih hst₁
      exact ⟨o', htakes.returns hr', hQ⟩

/-- **Simulation**, backwards: what the second machine returns comes from the first. -/
theorem returned {s : σ} {t : σ'} {o' : ω'} (hst : R s t) (hr : Returns m' t o') :
    ∃ o, Returns m s o ∧ Q o o' := by
  obtain ⟨n, hn⟩ := hr
  induction n using Nat.strongRecOn generalizing s t with
  | ind n ih =>
      cases hs : m s with
      | goes s₁ =>
          obtain ⟨k, t₁, htakes, hst₁⟩ := h.goes _ _ _ hst hs
          obtain ⟨hle, hends⟩ := htakes.ends hn
          obtain ⟨o, hret, hQ⟩ := ih (n - (k + 1)) (by omega) hst₁ hends
          exact ⟨o, (Takes.single hs).returns hret, hQ⟩
      | halts o =>
          obtain ⟨o'', hret, hQ⟩ := h.halts _ _ _ hst hs
          rw [hret.unique ⟨n, hn⟩] at hQ
          exact ⟨o, .halt hs, hQ⟩
      | stuck =>
          obtain ⟨k, t₁, htakes, hstuck⟩ := h.stuck _ _ hst hs
          exact absurd ⟨n, hn⟩ (htakes.not_returns hstuck)

end Simulation

end Stepping

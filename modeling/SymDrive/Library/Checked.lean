import Mathlib.Data.List.Basic
import Mathlib.Tactic.Basic

/-!
# Checked computations and their runs

A *checked* computation either goes on with a result or stops with a fault: `Except ε α`.
This file collects the rules for such computations that do not depend on what is computed.

* `ensure` — the assertion: go on if a condition holds, stop with the given fault if not.
* The inversion lemmas of `>>=` (`bind_eq_ok`, `ensure_bind_eq_ok`), which take a computation
  apart without unfolding it.
* `FaultsIn` — which faults a computation can end with, composed along `>>=` and along runs.
* **Runs.**  A run of a step function over a list of inputs is `List.foldlM`.
* `Throughout` — what holds at every input of a run, in the state the run itself has reached.
* `Simulates` — runs that go through and stay related to a specification in every state.
* `Along` — runs whose inputs a specification accepts, each in the state reached by then.
  `Along.invariant`, `Along.run_ok`, `Along.run_error` and `Along.outcome` lift what one step does
  to a whole run: keep a relation to the specification, go through, fault, or go through up to a
  set of allowed faults.
* `Simulates.iff_along`, `Throughout.iff_along` — when a run stays related, and when a condition
  on its states holds, read off the inputs alone.
-/

namespace Checked

variable {ε α β σ τ ι : Type}

/-! ## Assertions and binds -/

/-- Go on if `c` holds, stop with the fault `e` if it does not. -/
def ensure (c : Prop) [Decidable c] (e : ε) : Except ε Unit :=
  if c then .ok () else .error e

@[simp] lemma ensure_of_true {c : Prop} [Decidable c] (h : c) (e : ε) :
    ensure c e = .ok () := by
  simp [ensure, h]

@[simp] lemma ensure_of_false {c : Prop} [Decidable c] (h : ¬ c) (e : ε) :
    ensure c e = .error e := by
  simp [ensure, h]

lemma ensure_eq_ok {c : Prop} [Decidable c] {e : ε} {u : Unit} : ensure c e = .ok u ↔ c := by
  by_cases h : c
  · simp [h]
  · simp [h]

@[simp] lemma ok_bind (a : α) (f : α → Except ε β) : ((Except.ok a : Except ε α) >>= f) = f a :=
  rfl

@[simp] lemma error_bind (e : ε) (f : α → Except ε β) :
    ((Except.error e : Except ε α) >>= f) = .error e :=
  rfl

lemma bind_eq_ok {x : Except ε α} {f : α → Except ε β} {b : β} :
    (x >>= f) = .ok b ↔ ∃ a, x = .ok a ∧ f a = .ok b := by
  cases x with
  | error e => simp
  | ok a => simp

lemma bind_eq_error {x : Except ε α} {f : α → Except ε β} {e : ε} :
    (x >>= f) = .error e ↔ x = .error e ∨ ∃ a, x = .ok a ∧ f a = .error e := by
  cases x with
  | error e' => simp
  | ok a => simp

lemma map_eq_ok {x : Except ε α} {f : α → β} {b : β} :
    x.map f = .ok b ↔ ∃ a, x = .ok a ∧ f a = b := by
  cases x with
  | error e => simp [Except.map]
  | ok a => simp [Except.map]

/-- A computation in sequence goes through if its first part does, and what follows it does
whatever the first part gives. -/
lemma bind_ok_iff {x : Except ε α} {f : α → Except ε β} {c : Prop}
    (hf : ∀ a, x = .ok a → ((∃ b, f a = .ok b) ↔ c)) :
    (∃ b, (x >>= f) = .ok b) ↔ (∃ a, x = .ok a) ∧ c := by
  cases x with
  | error e => simp
  | ok a => simpa using hf a rfl

lemma ensure_bind_eq_ok {c : Prop} [Decidable c] {e : ε} {f : Unit → Except ε β} {b : β} :
    (ensure c e >>= f) = .ok b ↔ c ∧ f () = .ok b := by
  by_cases h : c
  · simp [h]
  · simp [h]

/-- A list gone through element by element: each result comes from an element. -/
lemma mem_mapM {f : α → Except ε β} {b : β} :
    ∀ {as : List α} {bs : List β}, as.mapM f = .ok bs → b ∈ bs → ∃ a ∈ as, f a = .ok b
  | [], _, h, hb => by
      rw [List.mapM_nil] at h
      cases h
      exact absurd hb List.not_mem_nil
  | a :: as, _, h, hb => by
      rw [List.mapM_cons] at h
      obtain ⟨b', hb', h⟩ := bind_eq_ok.mp h
      obtain ⟨bs, hbs, h⟩ := bind_eq_ok.mp h
      cases h
      rcases List.mem_cons.mp hb with rfl | hb
      · exact ⟨a, by simp, hb'⟩
      · obtain ⟨x, hx, hxb⟩ := mem_mapM hbs hb
        exact ⟨x, List.mem_cons_of_mem _ hx, hxb⟩

/-- The list is gone through if every element is. -/
lemma exists_mapM {f : α → Except ε β} {as : List α} (h : ∀ a ∈ as, ∃ b, f a = .ok b) :
    ∃ bs, as.mapM f = .ok bs := by
  induction as with
  | nil => exact ⟨[], rfl⟩
  | cons a as ih =>
      obtain ⟨b, hb⟩ := h a List.mem_cons_self
      obtain ⟨bs, hbs⟩ := ih fun x hx => h x (List.mem_cons_of_mem _ hx)
      exact ⟨b :: bs, by rw [List.mapM_cons, hb, hbs]; rfl⟩

/-- A run goes through if every step does. -/
lemma exists_foldlM {f : β → α → Except ε β} (h : ∀ b a, ∃ b', f b a = .ok b') (as : List α)
    (b : β) : ∃ b', as.foldlM f b = .ok b' := by
  induction as generalizing b with
  | nil => exact ⟨b, rfl⟩
  | cons a as ih =>
      obtain ⟨b₁, hb₁⟩ := h b a
      obtain ⟨b', hb'⟩ := ih b₁
      exact ⟨b', by rw [List.foldlM_cons, hb₁, ok_bind, hb']⟩

/-- What every result keeps of its element, the list of results keeps of the list. -/
lemma mapM_map {δ : Type} {f : α → Except ε β} {p : β → δ} {q : α → δ}
    (hf : ∀ a b, f a = .ok b → p b = q a) :
    ∀ {as : List α} {bs : List β}, as.mapM f = .ok bs → bs.map p = as.map q
  | [], _, h => by
      rw [List.mapM_nil] at h
      cases h
      rfl
  | a :: as, _, h => by
      rw [List.mapM_cons] at h
      obtain ⟨b, hb, h⟩ := bind_eq_ok.mp h
      obtain ⟨bs, hbs, h⟩ := bind_eq_ok.mp h
      cases h
      rw [List.map_cons, List.map_cons, hf a b hb, mapM_map hf hbs]

/-! ## Computations with a state -/

/-- Whatever the state, a computation that goes through gives a result with the property. -/
def Gives (m : StateT σ (Except ε) α) (P : α → Prop) : Prop :=
  ∀ s a s', m s = .ok (a, s') → P a

lemma gives_pure {a : α} {P : α → Prop} (h : P a) :
    Gives (pure a : StateT σ (Except ε) α) P := by
  intro s b s' hb
  cases hb
  exact h

lemma gives_throw {e : ε} {P : α → Prop} : Gives (throw e : StateT σ (Except ε) α) P := by
  intro s b s' hb
  cases hb

lemma gives_true {m : StateT σ (Except ε) α} : Gives m fun _ => True := fun _ _ _ _ => trivial

lemma Gives.bind {m : StateT σ (Except ε) α} {f : α → StateT σ (Except ε) β} {P : α → Prop}
    {Q : β → Prop} (hm : Gives m P) (hf : ∀ a, P a → Gives (f a) Q) : Gives (m >>= f) Q := by
  intro s b s' h
  obtain ⟨⟨a, s₁⟩, ha, hb⟩ := bind_eq_ok.mp h
  exact hf a (hm s a s₁ ha) s₁ b s' hb

/-! ## Which faults can occur -/

/-- Every fault of `x` satisfies `P`. -/
def FaultsIn (P : ε → Prop) (x : Except ε α) : Prop := ∀ e, x = .error e → P e

@[simp] lemma faultsIn_ok {P : ε → Prop} (a : α) : FaultsIn P (.ok a : Except ε α) := by
  intro e he
  cases he

@[simp] lemma faultsIn_error {P : ε → Prop} {e : ε} :
    FaultsIn P (.error e : Except ε α) ↔ P e := by
  constructor
  · exact fun h => h e rfl
  · intro h e' he'
    cases he'
    exact h

lemma faultsIn_ensure {P : ε → Prop} {c : Prop} [Decidable c] {e : ε} (he : P e) :
    FaultsIn P (ensure c e) := by
  by_cases h : c
  · simp [h]
  · simpa [h] using he

/-- A computation in sequence faults where one of its parts does. -/
lemma FaultsIn.bind {P : ε → Prop} {x : Except ε α} {f : α → Except ε β} (hx : FaultsIn P x)
    (hf : ∀ a, x = .ok a → FaultsIn P (f a)) : FaultsIn P (x >>= f) := by
  intro e he
  rcases bind_eq_error.mp he with h | ⟨a, ha, h⟩
  · exact hx e h
  · exact hf a ha e h

lemma FaultsIn.map {P : ε → Prop} {x : Except ε α} (hx : FaultsIn P x) (f : α → β) :
    FaultsIn P (x.map f) := by
  cases x with
  | error e => exact faultsIn_error.mpr (hx e rfl)
  | ok a => exact faultsIn_ok (f a)

/-- Every fault of a run is a fault of one of its steps. -/
lemma FaultsIn.foldlM {P : ε → Prop} {step : σ → ι → Except ε σ}
    (hstep : ∀ s i, FaultsIn P (step s i)) :
    ∀ (is : List ι) (s : σ), FaultsIn P (is.foldlM step s) := by
  intro is
  induction is with
  | nil =>
      intro s
      rw [List.foldlM_nil]
      exact faultsIn_ok s
  | cons i is ih =>
      intro s
      rw [List.foldlM_cons]
      exact (hstep s i).bind fun s' _ => ih s'

/-! ## Runs -/

/-- A run over an appended list is the run over the first part, then over the second. -/
lemma foldlM_append_eq_ok {step : σ → ι → Except ε σ} {is js : List ι} {s s' : σ} :
    (is ++ js).foldlM step s = .ok s' ↔
      ∃ s₁, is.foldlM step s = .ok s₁ ∧ js.foldlM step s₁ = .ok s' := by
  rw [List.foldlM_append, bind_eq_ok]

section Throughout

variable {step : σ → ι → Except ε σ} {P Q : σ → ι → Prop} {Inv : σ → Prop}

/-- `P` holds at every input of a run of `step` from `s`, for as long as the run goes on. -/
def Throughout (step : σ → ι → Except ε σ) (P : σ → ι → Prop) : σ → List ι → Prop
  | _, [] => True
  | s, i :: is => P s i ∧
      match step s i with
      | .ok s' => Throughout step P s' is
      | .error _ => True

lemma Throughout.cons {s s' : σ} {i : ι} {is : List ι} (hi : P s i) (h : step s i = .ok s')
    (hrest : Throughout step P s' is) : Throughout step P s (i :: is) := by
  refine ⟨hi, ?_⟩
  rw [h]
  exact hrest

/-- The last input may fault. -/
lemma Throughout.singleton {s : σ} {i : ι} (hi : P s i) : Throughout step P s [i] := by
  refine ⟨hi, ?_⟩
  cases step s i <;> trivial

lemma Throughout.of_forall (h : ∀ s i, P s i) :
    ∀ (is : List ι) (s : σ), Throughout step P s is
  | [], _ => trivial
  | i :: is, s => by
      refine ⟨h s i, ?_⟩
      cases step s i with
      | error e => trivial
      | ok s' => exact Throughout.of_forall h is s'

/-- What follows from `P` in the states an invariant allows holds throughout every run on which
`P` does. -/
theorem Throughout.imp (hstep : ∀ s i s', Inv s → step s i = .ok s' → Inv s')
    (hPQ : ∀ s i, Inv s → P s i → Q s i) :
    ∀ (is : List ι) {s : σ}, Inv s → Throughout step P s is → Throughout step Q s is := by
  intro is
  induction is with
  | nil => exact fun _ _ => trivial
  | cons i is ih =>
      rintro s hs ⟨hP, hrest⟩
      refine ⟨hPQ s i hs hP, ?_⟩
      cases h : step s i with
      | error e => trivial
      | ok s' =>
          rw [h] at hrest
          exact ih (hstep s i s' hs h) hrest

/-- On runs on which `L` holds throughout, `P` and `Q` hold throughout the same ones if they agree
in the states an invariant allows, and the steps that meet `Q` keep the invariant. -/
theorem Throughout.iff_of_invariant (Inv : σ → Prop) {L : σ → ι → Prop}
    (hstep : ∀ s i s', Inv s → L s i → Q s i → step s i = .ok s' → Inv s')
    (hPQ : ∀ s i, Inv s → L s i → (P s i ↔ Q s i)) :
    ∀ (is : List ι) {s : σ}, Inv s → Throughout step L s is →
      (Throughout step P s is ↔ Throughout step Q s is) := by
  intro is
  induction is with
  | nil => exact fun _ _ => Iff.rfl
  | cons i is ih =>
      rintro s hs ⟨hL, hrest⟩
      rw [Throughout, Throughout, hPQ s i hs hL]
      refine and_congr_right fun hQ => ?_
      cases h : step s i with
      | error e => rfl
      | ok s' =>
          rw [h] at hrest
          exact ih (hstep s i s' hs hL hQ h) hrest

/-- In a run that goes through it is enough to look at the steps that go on. -/
theorem Throughout.of_run_ok (hstep : ∀ s i s', Inv s → step s i = .ok s' → Inv s')
    (hPQ : ∀ s i s', Inv s → step s i = .ok s' → P s i → Q s i) :
    ∀ (is : List ι) {s s' : σ}, Inv s → is.foldlM step s = .ok s' →
      Throughout step P s is → Throughout step Q s is := by
  intro is
  induction is with
  | nil => exact fun _ _ _ => trivial
  | cons i is ih =>
      rintro s s' hs hrun ⟨hP, hrest⟩
      rw [List.foldlM_cons] at hrun
      obtain ⟨s₁, h, hrun⟩ := bind_eq_ok.mp hrun
      refine ⟨hPQ s i s₁ hs h hP, ?_⟩
      rw [h] at hrest ⊢
      exact ih (hstep s i s₁ hs h) hrun hrest

/-- A run whose inputs satisfy `P` keeps an invariant that such a step keeps. -/
theorem Throughout.invariant (hstep : ∀ s i s', Inv s → P s i → step s i = .ok s' → Inv s') :
    ∀ (is : List ι) {s s' : σ}, Inv s → Throughout step P s is → is.foldlM step s = .ok s' →
      Inv s' := by
  intro is
  induction is with
  | nil =>
      intro s s' hs _ hrun
      cases hrun
      exact hs
  | cons i is ih =>
      rintro s s' hs ⟨hP, hrest⟩ hrun
      rw [List.foldlM_cons] at hrun
      obtain ⟨s₁, h, hrun⟩ := bind_eq_ok.mp hrun
      rw [h] at hrest
      exact ih (hstep s i s₁ hs hP h) hrest hrun

end Throughout

/-- A run keeps an invariant that every step keeps. -/
theorem run_invariant {step : σ → ι → Except ε σ} {Inv : σ → Prop}
    (hstep : ∀ s i s', Inv s → step s i = .ok s' → Inv s') :
    ∀ (is : List ι) {s s' : σ}, Inv s → is.foldlM step s = .ok s' → Inv s' := by
  intro is
  induction is with
  | nil =>
      intro s s' hs hrun
      cases hrun
      exact hs
  | cons i is ih =>
      intro s s' hs hrun
      rw [List.foldlM_cons] at hrun
      obtain ⟨s₁, h, hrun⟩ := bind_eq_ok.mp hrun
      exact ih (hstep s i s₁ hs h) hrun

/-- Two step functions that agree under an invariant of the first have the same runs. -/
theorem run_congr {step step' : σ → ι → Except ε σ} {Inv : σ → Prop}
    (hstep : ∀ s i s', Inv s → step s i = .ok s' → Inv s')
    (heq : ∀ s i, Inv s → step s i = step' s i) :
    ∀ (is : List ι) {s : σ}, Inv s → is.foldlM step s = is.foldlM step' s := by
  intro is
  induction is with
  | nil => exact fun _ => rfl
  | cons i is ih =>
      intro s hs
      rw [List.foldlM_cons, List.foldlM_cons, ← heq s i hs]
      cases h : step s i with
      | error e => rfl
      | ok s' => exact ih (hstep s i s' hs h)

/-- What does not hold at the start of a run and holds at its end was brought about by a step. -/
theorem run_becomes {step : σ → ι → Except ε σ} {Q : σ → Prop} :
    ∀ (is : List ι) {s s' : σ}, ¬ Q s → is.foldlM step s = .ok s' → Q s' →
      ∃ before i after s₁ s₂, is = before ++ i :: after ∧ before.foldlM step s = .ok s₁ ∧ ¬ Q s₁ ∧
        step s₁ i = .ok s₂ ∧ Q s₂ ∧ after.foldlM step s₂ = .ok s' := by
  intro is
  induction is with
  | nil =>
      intro s s' hs hrun hs'
      cases hrun
      exact absurd hs' hs
  | cons i is ih =>
      intro s s' hs hrun hs'
      rw [List.foldlM_cons] at hrun
      obtain ⟨s₁, h, hrun⟩ := bind_eq_ok.mp hrun
      by_cases hs₁ : Q s₁
      · exact ⟨[], i, is, s, s₁, rfl, rfl, hs, h, hs₁, hrun⟩
      · obtain ⟨before, j, after, s₂, s₃, rfl, hbefore, hrest⟩ := ih hs₁ hrun hs'
        refine ⟨i :: before, j, after, s₂, s₃, rfl, ?_, hrest⟩
        rw [List.foldlM_cons, h, ok_bind]
        exact hbefore

/-! ## Runs that follow a specification

A specification often has a total next-state function and says separately which inputs are
acceptable in which state.  `Along next P t is` says that `P` holds at each input of `is`, in the
state the specification has reached by then. -/

/-- `P` holds at every input of a run of `next` from `t`. -/
def Along (next : τ → ι → τ) (P : τ → ι → Prop) : τ → List ι → Prop
  | _, [] => True
  | t, i :: is => P t i ∧ Along next P (next t i) is

/-- What a checked result owes to the specification state `t`: to be related to it if it goes
on, to be an allowed fault if it stops. -/
def Outcome (R : σ → τ → Prop) (Allowed : ε → Prop) (t : τ) : Except ε σ → Prop
  | .ok s => R s t
  | .error e => Allowed e

lemma Outcome.of_faultsIn {R : σ → τ → Prop} {Allowed : ε → Prop} {t : τ} {x : Except ε σ}
    (hfaults : FaultsIn Allowed x) (hok : ∀ s, x = .ok s → R s t) : Outcome R Allowed t x := by
  cases x with
  | error e => exact hfaults e rfl
  | ok s => exact hok s rfl

section Outcome

variable {σ' τ' : Type} {R : σ → τ → Prop} {R' : σ' → τ' → Prop} {Allowed : ε → Prop} {t : τ}
  {t' : τ'} {x : Except ε σ}

lemma Outcome.bind {f : σ → Except ε σ'} (hx : Outcome R Allowed t x)
    (hf : ∀ s, R s t → Outcome R' Allowed t' (f s)) : Outcome R' Allowed t' (x >>= f) := by
  cases x with
  | error e => exact hx
  | ok s => exact hf s hx

lemma Outcome.imp {R' : σ → τ' → Prop} (hx : Outcome R Allowed t x)
    (h : ∀ s, R s t → R' s t') : Outcome R' Allowed t' x := by
  cases x with
  | error e => exact hx
  | ok s => exact h s hx

lemma Outcome.map {f : σ → σ'} (hx : Outcome R Allowed t x) (hf : ∀ s, R s t → R' (f s) t') :
    Outcome R' Allowed t' (x.map f) := by
  cases x with
  | error e => exact hx
  | ok s => exact hf s hx

lemma Outcome.ensure_bind {c : Prop} [Decidable c] {e : ε} {f : Unit → Except ε σ}
    (he : Allowed e) (hf : c → Outcome R Allowed t (f ())) :
    Outcome R Allowed t (ensure c e >>= f) := by
  by_cases hc : c
  · rw [ensure_of_true hc, ok_bind]
    exact hf hc
  · rw [ensure_of_false hc, error_bind]
    exact he

end Outcome

section Along

variable {step : σ → ι → Except ε σ} {next : τ → ι → τ} {P : τ → ι → Prop} {V : ι → Prop}
  {R : σ → τ → Prop} {Q : ε → Prop}

lemma Along.and {P' : τ → ι → Prop} :
    ∀ {is : List ι} {t : τ}, Along next P t is → Along next P' t is →
      Along next (fun t i => P t i ∧ P' t i) t is
  | [], _, _, _ => trivial
  | _ :: _, _, h, h' => ⟨⟨h.1, h'.1⟩, h.2.and h'.2⟩

lemma Along.imp {P' : τ → ι → Prop} (h : ∀ t i, P t i → P' t i) :
    ∀ {is : List ι} {t : τ}, Along next P t is → Along next P' t is
  | [], _, _ => trivial
  | _ :: _, _, hP => ⟨h _ _ hP.1, hP.2.imp h⟩

/-- A condition on the inputs alone. -/
lemma Along.of_forall {V : ι → Prop} :
    ∀ {is : List ι} {t : τ}, (∀ i ∈ is, V i) → Along next (fun _ i => V i) t is
  | [], _, _ => trivial
  | i :: _, _, h => ⟨h i (by simp), Along.of_forall fun j hj => h j (by simp [hj])⟩

/-- The converse: a condition on the inputs alone says nothing about the states. -/
lemma Along.forall_iff {V : ι → Prop} :
    ∀ {is : List ι} {t : τ}, Along next (fun _ i => V i) t is ↔ ∀ i ∈ is, V i
  | [], _ => by simp [Along]
  | i :: is, t => by rw [Along, Along.forall_iff, List.forall_mem_cons]

/-- Along a run, two conditions hold at the same inputs if they agree in the states an invariant
allows, and the inputs that meet them keep the invariant. -/
theorem Along.iff_of_invariant {P' : τ → ι → Prop} {Inv : τ → Prop}
    (hnext : ∀ t i, Inv t → P' t i → Inv (next t i))
    (hPP' : ∀ t i, Inv t → (P t i ↔ P' t i)) :
    ∀ (is : List ι) {t : τ}, Inv t → (Along next P t is ↔ Along next P' t is) := by
  intro is
  induction is with
  | nil => exact fun _ => Iff.rfl
  | cons i is ih =>
      intro t ht
      rw [Along, Along, hPP' t i ht]
      exact and_congr_right fun hP' => ih (hnext t i ht hP')

/-- A run in two parts. -/
lemma Along.append_iff :
    ∀ {is js : List ι} {t : τ}, Along next P t (is ++ js) ↔
      Along next P t is ∧ Along next P (is.foldl next t) js
  | [], _, _ => iff_of_eq (true_and _).symm
  | i :: is, js, t => by
      rw [List.cons_append, Along, Along, Along.append_iff, List.foldl_cons, and_assoc]

lemma Along.append {is js : List ι} {t : τ} (h : Along next P t is)
    (h' : Along next P (is.foldl next t) js) : Along next P t (is ++ js) :=
  Along.append_iff.mpr ⟨h, h'⟩

/-- A step that carries the specification state along makes an acceptable run acceptable throughout.
-/
lemma Along.throughout {spec : σ → τ}
    (hspec : ∀ s i s', step s i = .ok s' → spec s' = next (spec s) i) :
    ∀ (is : List ι) {s : σ}, Along next P (spec s) is →
      Throughout step (fun s i => P (spec s) i) s is := by
  intro is
  induction is with
  | nil => exact fun _ => trivial
  | cons i is ih =>
      rintro s ⟨hP, hrest⟩
      refine ⟨hP, ?_⟩
      cases h : step s i with
      | error e => trivial
      | ok s' =>
          rw [← hspec s i s' h] at hrest
          exact ih hrest

/-- What every step that goes on keeps, every run that goes on keeps. -/
theorem Along.invariant (hstep : ∀ s t i s', R s t → P t i → step s i = .ok s' → R s' (next t i)) :
    ∀ (is : List ι) {s s' : σ} {t : τ}, R s t → Along next P t is →
      is.foldlM step s = .ok s' → R s' (is.foldl next t) := by
  intro is
  induction is with
  | nil =>
      intro s s' t hR _ h
      rw [List.foldlM_nil] at h
      cases h
      exact hR
  | cons i is ih =>
      intro s s' t hR hP h
      rw [List.foldlM_cons] at h
      obtain ⟨s₁, h₁, h₂⟩ := bind_eq_ok.mp h
      exact ih (hstep s t i s₁ hR hP.1 h₁) hP.2 h₂

/-- If acceptable inputs go through, so do acceptable runs. -/
theorem Along.run_ok
    (hstep : ∀ s t i, R s t → V i → P t i → ∃ s', step s i = .ok s' ∧ R s' (next t i)) :
    ∀ (is : List ι) {s : σ} {t : τ}, R s t → (∀ i ∈ is, V i) → Along next P t is →
      ∃ s', is.foldlM step s = .ok s' ∧ R s' (is.foldl next t) := by
  intro is
  induction is with
  | nil =>
      intro s t hR _ _
      exact ⟨s, rfl, hR⟩
  | cons i is ih =>
      intro s t hR hV hP
      obtain ⟨s₁, h₁, hR₁⟩ := hstep s t i hR (hV i (by simp)) hP.1
      obtain ⟨s', h₂, hR'⟩ := ih hR₁ (fun j hj => hV j (by simp [hj])) hP.2
      refine ⟨s', ?_, hR'⟩
      rw [List.foldlM_cons, h₁]
      exact h₂

/-- If in addition unacceptable inputs fault, so do runs that are not acceptable throughout. -/
theorem Along.run_error
    (hstep : ∀ s t i, R s t → V i → P t i → ∃ s', step s i = .ok s' ∧ R s' (next t i))
    (hfault : ∀ s t i, R s t → V i → ¬ P t i → ∃ e, step s i = .error e ∧ Q e) :
    ∀ (is : List ι) {s : σ} {t : τ}, R s t → (∀ i ∈ is, V i) → ¬ Along next P t is →
      ∃ e, is.foldlM step s = .error e ∧ Q e := by
  intro is
  induction is with
  | nil =>
      intro s t _ _ hP
      exact absurd trivial hP
  | cons i is ih =>
      intro s t hR hV hP
      rw [List.foldlM_cons]
      by_cases hi : P t i
      · obtain ⟨s₁, h₁, hR₁⟩ := hstep s t i hR (hV i (by simp)) hi
        rw [h₁]
        exact ih hR₁ (fun j hj => hV j (by simp [hj])) fun h => hP ⟨hi, h⟩
      · obtain ⟨e, he, hQ⟩ := hfault s t i hR (hV i (by simp)) hi
        rw [he]
        exact ⟨e, rfl, hQ⟩

/-- If every acceptable input is matched by the checked step, up to the allowed faults, then so is
every acceptable run. -/
theorem Along.outcome {Allowed : ε → Prop}
    (hstep : ∀ s t i, R s t → P t i → Outcome R Allowed (next t i) (step s i)) :
    ∀ (is : List ι) {s : σ} {t : τ}, R s t → Along next P t is →
      Outcome R Allowed (is.foldl next t) (is.foldlM step s) := by
  intro is
  induction is with
  | nil => exact fun hR _ => hR
  | cons i is ih =>
      intro s t hR hP
      have hi := hstep s t i hR hP.1
      rw [List.foldlM_cons]
      cases hs : step s i with
      | error e =>
          rw [hs] at hi
          exact hi
      | ok s₁ =>
          rw [hs] at hi
          exact ih hi hP.2

end Along

/-! ## Runs that stay related to a specification -/

section Simulates

variable {step : σ → ι → Except ε σ} {next : τ → ι → τ} {R : σ → τ → Prop}

/-- The run goes through, and every state it reaches is related to the one the specification has
reached by then. -/
def Simulates (step : σ → ι → Except ε σ) (next : τ → ι → τ) (R : σ → τ → Prop) :
    σ → τ → List ι → Prop
  | s, t, [] => R s t
  | s, t, i :: is => R s t ∧ ∃ s', step s i = .ok s' ∧ Simulates step next R s' (next t i) is

lemma Simulates.related : ∀ {is : List ι} {s : σ} {t : τ}, Simulates step next R s t is → R s t
  | [], _, _, h => h
  | _ :: _, _, _, h => h.1

/-- The last state of the run is related to the last state of the specification. -/
lemma Simulates.run_ok :
    ∀ {is : List ι} {s : σ} {t : τ}, Simulates step next R s t is →
      ∃ s', is.foldlM step s = .ok s' ∧ R s' (is.foldl next t)
  | [], s, _, h => ⟨s, rfl, h⟩
  | i :: is, s, t, ⟨_, s₁, h₁, h⟩ => by
      obtain ⟨s', hrun, hR⟩ := Simulates.run_ok h
      refine ⟨s', ?_, hR⟩
      rw [List.foldlM_cons, h₁]
      exact hrun

/-- On runs of legal inputs, staying related to the specification is the same as meeting `C` at
every input, if the inputs that meet `C` keep an invariant and the others break the relation at
once. -/
theorem Simulates.iff_along {Inv : σ → τ → Prop} {L C : τ → ι → Prop}
    (hR : ∀ s t, Inv s t → R s t)
    (hok : ∀ s t i, Inv s t → L t i → C t i → ∃ s', step s i = .ok s' ∧ Inv s' (next t i))
    (hbad : ∀ s t i, Inv s t → L t i → ¬ C t i →
      ∀ s', step s i = .ok s' → ¬ R s' (next t i)) :
    ∀ (is : List ι) {s : σ} {t : τ}, Inv s t → Along next L t is →
      (Simulates step next R s t is ↔ Along next C t is) := by
  intro is
  induction is with
  | nil => exact fun hinv _ => ⟨fun _ => trivial, fun _ => hR _ _ hinv⟩
  | cons i is ih =>
      rintro s t hinv ⟨hL, hrest⟩
      by_cases hC : C t i
      · obtain ⟨s₁, h₁, hinv₁⟩ := hok s t i hinv hL hC
        constructor
        · rintro ⟨_, s', h', hsim⟩
          cases h₁.symm.trans h'
          exact ⟨hC, (ih hinv₁ hrest).mp hsim⟩
        · rintro ⟨_, hC'⟩
          exact ⟨hR _ _ hinv, s₁, h₁, (ih hinv₁ hrest).mpr hC'⟩
      · refine iff_of_false ?_ fun h => hC h.1
        rintro ⟨_, s', h', hsim⟩
        exact hbad s t i hinv hL hC s' h' hsim.related

/-- The same with a condition on the state of the run itself. -/
theorem Simulates.iff_throughout {Inv : σ → τ → Prop} {L : τ → ι → Prop} {C : σ → ι → Prop}
    (hR : ∀ s t, Inv s t → R s t)
    (hok : ∀ s t i, Inv s t → L t i → C s i → ∃ s', step s i = .ok s' ∧ Inv s' (next t i))
    (hbad : ∀ s t i, Inv s t → L t i → ¬ C s i →
      ∀ s', step s i = .ok s' → ¬ R s' (next t i)) :
    ∀ (is : List ι) {s : σ} {t : τ}, Inv s t → Along next L t is →
      (Simulates step next R s t is ↔ Throughout step C s is) := by
  intro is
  induction is with
  | nil => exact fun hinv _ => ⟨fun _ => trivial, fun _ => hR _ _ hinv⟩
  | cons i is ih =>
      rintro s t hinv ⟨hL, hrest⟩
      by_cases hC : C s i
      · obtain ⟨s₁, h₁, hinv₁⟩ := hok s t i hinv hL hC
        constructor
        · rintro ⟨_, s', h', hsim⟩
          cases h₁.symm.trans h'
          exact .cons hC h₁ ((ih hinv₁ hrest).mp hsim)
        · rintro ⟨_, hC'⟩
          rw [h₁] at hC'
          exact ⟨hR _ _ hinv, s₁, h₁, (ih hinv₁ hrest).mpr hC'⟩
      · refine iff_of_false ?_ fun h => hC h.1
        rintro ⟨_, s', h', hsim⟩
        exact hbad s t i hinv hL hC s' h' hsim.related

/-- A condition on the states of a run, read off its inputs alone: `next'` computes from them what
the condition looks at. -/
theorem Throughout.iff_along {υ : Type} {next' : υ → ι → υ} {Inv : σ → τ → υ → Prop}
    {L : τ → ι → Prop} {C : σ → ι → Prop} {C' : υ → ι → Prop}
    (hC : ∀ s t u i, Inv s t u → L t i → (C s i ↔ C' u i))
    (hok : ∀ s t u i, Inv s t u → L t i → C s i →
      ∃ s', step s i = .ok s' ∧ Inv s' (next t i) (next' u i)) :
    ∀ (is : List ι) {s : σ} {t : τ} {u : υ}, Inv s t u → Along next L t is →
      (Throughout step C s is ↔ Along next' C' u is) := by
  intro is
  induction is with
  | nil => exact fun _ _ => Iff.rfl
  | cons i is ih =>
      rintro s t u hinv ⟨hL, hrest⟩
      rw [Throughout, Along, ← hC s t u i hinv hL]
      refine and_congr_right fun hCi => ?_
      obtain ⟨s', h', hinv'⟩ := hok s t u i hinv hL hCi
      rw [h']
      exact ih hinv' hrest

end Simulates

end Checked

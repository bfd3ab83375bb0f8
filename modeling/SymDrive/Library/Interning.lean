import Mathlib.Data.List.Basic
import Mathlib.Tactic.Basic

/-!
# Interning

A memo table of what was made so far.  Asking for a value gives the first value that was made under
the same key, and makes the value that was asked for if there is none.

* `find?_internAll` — what the table holds under a key is the first value asked for with that key.
* `mem_internAll` — a value is made exactly if it is the first one asked for with its key.
* `Asks` — a computation that asks for certain values, whatever the table holds, and does nothing
  else to it.  Its result is described under an assignment `env` of values to what is asked for,
  which agrees with the table.
-/

namespace SymDrive.Interning

variable {α κ ε : Type} [DecidableEq κ] (key : α → κ)

def find? (made : List α) (k : κ) : Option α := made.find? fun b => key b = k

/-- The table after asking for `a`. -/
def intern (made : List α) (a : α) : List α :=
  match find? key made (key a) with
  | some _ => made
  | none => made ++ [a]

/-- Many requests, one after the other. -/
def internAll (made as : List α) : List α := as.foldl (intern key) made

/-- Asking for a value. -/
def ask (a : α) : StateT (List α) (Except ε) α := fun made =>
  match find? key made (key a) with
  | some b => .ok (b, made)
  | none => .ok (a, made ++ [a])

/-! ## The table -/

lemma find?_append (made made' : List α) (k : κ) :
    find? key (made ++ made') k = (find? key made k).or (find? key made' k) :=
  List.find?_append

/-- An answer is the first element with the key, made before or on request. -/
lemma find?_intern (made as : List α) (a : α) (k : κ) :
    find? key (intern key made a ++ as) k = find? key (made ++ a :: as) k := by
  rw [intern]
  split
  · next b hb =>
      rw [find?_append, find?_append]
      by_cases hk : key a = k
      · subst hk
        rw [hb]
        rfl
      · rw [find?, find?, find?, List.find?_cons_of_neg (by simpa using hk)]
  · next hb => rw [List.append_assoc, List.singleton_append]

/-- **The first value asked for** is the one that the table holds. -/
theorem find?_internAll (made as : List α) (k : κ) :
    find? key (internAll key made as) k = find? key (made ++ as) k := by
  induction as generalizing made with
  | nil => rw [List.append_nil, internAll, List.foldl_nil]
  | cons a as ih =>
      rw [internAll, List.foldl_cons, ← find?_intern]
      exact ih (intern key made a)

lemma internAll_append (made as as' : List α) :
    internAll key made (as ++ as') = internAll key (internAll key made as) as' :=
  List.foldl_append

/-- Every value stands in the table under its own key. -/
def Consistent (made : List α) : Prop := ∀ a ∈ made, find? key made (key a) = some a

lemma mem_of_find? {made : List α} {k : κ} {a : α} (h : find? key made k = some a) : a ∈ made :=
  List.mem_of_find?_eq_some h

/-- No request makes a second element with one key. -/
lemma Consistent.intern {made : List α} (h : Consistent key made) (a : α) :
    Consistent key (intern key made a) := by
  intro b hb
  have happend :
      find? key (made ++ [a]) (key b) = find? key (Interning.intern key made a) (key b) :=
    by rw [← find?_intern, List.append_nil]
  rw [← happend, find?_append]
  rw [Interning.intern] at hb
  split at hb
  · rw [h b hb]
    rfl
  · next hnone =>
      rcases List.mem_append.mp hb with hb | hb
      · rw [h b hb]
        rfl
      · obtain rfl := List.mem_singleton.mp hb
        rw [hnone]
        simp [find?]

lemma Consistent.internAll {made : List α} (h : Consistent key made) (as : List α) :
    Consistent key (internAll key made as) := by
  induction as generalizing made with
  | nil => exact h
  | cons a as ih => exact ih (h.intern key a)

/-- **What is made** are the values that are the first ones asked for with their keys. -/
theorem mem_internAll (as : List α) (a : α) :
    a ∈ internAll key [] as ↔ find? key as (key a) = some a := by
  have hfind : find? key (internAll key [] as) (key a) = find? key as (key a) :=
    find?_internAll key [] as (key a)
  rw [← hfind]
  have hconsistent : Consistent key (internAll key [] as) :=
    Consistent.internAll key (fun _ h => absurd h List.not_mem_nil) as
  exact ⟨hconsistent a, mem_of_find? key⟩

/-! ## Computations -/

/-- `env` gives every value that the table holds something for what the table holds. -/
def Agrees (env : α → α) (made : List α) : Prop :=
  ∀ a b, find? key made (key a) = some b → env a = b

/-- The first value that is asked for with the key of `a`. -/
def first (as : List α) (a : α) : α := (find? key as (key a)).getD a

/-- What was asked for is found. -/
lemma find?_of_mem {as : List α} {a : α} (h : a ∈ as) :
    find? key as (key a) = some (first key as a) := by
  cases hfind : find? key as (key a) with
  | none =>
      exact absurd (decide_eq_true rfl) (List.find?_eq_none.mp hfind a h)
  | some b => rw [first, hfind, Option.getD_some]

/-- What is made are the values that were the first ones asked for with their keys. -/
lemma mem_internAll_iff_first (as : List α) (a : α) :
    a ∈ internAll key [] as ↔ a ∈ as ∧ first key as a = a := by
  rw [mem_internAll]
  constructor
  · intro h
    have hmem := mem_of_find? _ h
    rw [find?_of_mem _ hmem] at h
    exact ⟨hmem, Option.some.inj h⟩
  · rintro ⟨hmem, h⟩
    rw [find?_of_mem _ hmem, h]

lemma agrees_first_made (made : List α) : Agrees key (first key made) made := by
  intro a b h
  rw [first, h, Option.getD_some]

/-- What a table holds is not replaced. -/
lemma Agrees.of_internAll {env : α → α} {made as : List α}
    (h : Agrees key env (internAll key made as)) : Agrees key env made := by
  intro a b hb
  refine h a b ?_
  rw [find?_internAll, find?_append, hb]
  rfl

/-- The computation asks for `as`, and its results have the property `P`. -/
def Asks (env : α → α) {β : Type} (m : StateT (List α) (Except ε) β) (as : List α)
    (P : β → Prop) : Prop :=
  ∀ made b made', m made = .ok (b, made') →
    made' = internAll key made as ∧ (Agrees key env made' → P b)

variable {env : α → α} {β γ : Type}

/-- One request, answered from the environment. -/
lemma asks_ask (a : α) :
    Asks key env (ask key a : StateT (List α) (Except ε) α) [a] (· = env a) := by
  intro made b made' h
  rw [ask] at h
  cases hfind : find? key made (key a) with
  | some b' =>
      rw [hfind] at h
      obtain ⟨rfl, rfl⟩ := Prod.mk.inj (Except.ok.inj h)
      refine ⟨?_, fun hagrees => (hagrees a b' hfind).symm⟩
      rw [internAll, List.foldl_cons, List.foldl_nil, intern, hfind]
  | none =>
      rw [hfind] at h
      obtain ⟨rfl, rfl⟩ := Prod.mk.inj (Except.ok.inj h)
      refine ⟨?_, fun hagrees => (hagrees a a ?_).symm⟩
      · rw [internAll, List.foldl_cons, List.foldl_nil, intern, hfind]
      · rw [find?_append, hfind]
        simp [find?]

lemma asks_pure {b : β} {P : β → Prop} (h : P b) :
    Asks key env (pure b : StateT (List α) (Except ε) β) [] P := by
  intro made b' made' heq
  obtain ⟨rfl, rfl⟩ := Prod.mk.inj (Except.ok.inj heq)
  exact ⟨rfl, fun _ => h⟩

/-- A computation that stops satisfies every specification. -/
lemma asks_error {e : ε} {as : List α} {P : β → Prop} :
    Asks key env (throw e : StateT (List α) (Except ε) β) as P := by
  intro made b made' heq
  cases heq

variable {key} in
/-- **Sequencing**: requests are appended, and the result of the first part is known to the
second. -/
lemma Asks.bind {m : StateT (List α) (Except ε) β} {f : β → StateT (List α) (Except ε) γ}
    {as as' : List α} {P : β → Prop} {Q : γ → Prop} (hm : Asks key env m as P)
    (hf : ∀ b, Asks key env (f b) as' fun c => P b → Q c) :
    Asks key env (m >>= f) (as ++ as') Q := by
  intro made c made'' h
  cases hmade : m made with
  | error e =>
      have herror : (m >>= f) made = .error e := by
        show (m made >>= fun r => f r.1 r.2) = .error e
        rw [hmade]
        rfl
      rw [herror] at h
      cases h
  | ok r =>
      obtain ⟨b, made'⟩ := r
      have hok : (m >>= f) made = f b made' := by
        show (m made >>= fun r => f r.1 r.2) = f b made'
        rw [hmade]
        rfl
      rw [hok] at h
      obtain ⟨hmade', hP⟩ := hm made b made' hmade
      obtain ⟨hmade'', hQ⟩ := hf b made' c made'' h
      refine ⟨by rw [hmade'', hmade', internAll_append], fun hagrees => hQ hagrees (hP ?_)⟩
      rw [hmade''] at hagrees
      exact hagrees.of_internAll

variable {key} in
/-- A weaker result. -/
lemma Asks.mono {m : StateT (List α) (Except ε) β} {as : List α} {P Q : β → Prop}
    (hm : Asks key env m as P) (h : ∀ b, P b → Q b) : Asks key env m as Q := by
  intro made b made' heq
  obtain ⟨hmade, hP⟩ := hm made b made' heq
  exact ⟨hmade, fun hagrees => h b (hP hagrees)⟩

end SymDrive.Interning

import Mathlib.Data.List.Nodup
import Mathlib.Data.List.Perm.Basic
import Mathlib.Tactic.Common

/-!
# Circular search

A search through the slots of a ring that starts in the middle: it runs to the last slot, wraps
around once, and stops in front of the slot where it started.

`Search.next` is the end of one turn of the loop, with the flag that says whether it has wrapped
around, and `Search.run` is the loop with a bound on the number of turns.

* `order_perm` — the search goes through all slots, in the order `order`.
* `ahead_cons` — one turn takes the first of the slots that are ahead.
* `run_eq` — with as many turns as there are slots the loop ends, and has examined the slots up to
  the first one that is wanted.
-/

namespace CircularSearch

/-- The slots in the order in which a search from `start` goes through them. -/
def order (n start : ℕ) : List ℕ := List.range' start (n - start) ++ List.range start

lemma order_perm {n start : ℕ} (h : start ≤ n) : (order n start).Perm (List.range n) := by
  have hrange : List.range n = List.range start ++ List.range' start (n - start) := by
    have happend := List.range'_append_1 (s := 0) (m := start) (n := n - start)
    rw [Nat.zero_add, Nat.add_sub_cancel' h] at happend
    rw [List.range_eq_range', List.range_eq_range', happend]
  rw [hrange, order]
  exact List.perm_append_comm

lemma mem_order {n start i : ℕ} (h : start ≤ n) : i ∈ order n start ↔ i < n := by
  rw [(order_perm h).mem_iff, List.mem_range]

lemma nodup_order {n start : ℕ} (h : start ≤ n) : (order n start).Nodup :=
  (order_perm h).nodup_iff.mpr List.nodup_range

lemma length_order {n start : ℕ} (h : start ≤ n) : (order n start).length = n := by
  rw [(order_perm h).length_eq, List.length_range]

/-! ## The loop -/

/-- The variables of the loop. -/
structure Search where
  i : ℕ
  looped : Bool
  deriving DecidableEq, Repr

section

variable (n start : ℕ)

/-- The end of a turn, unless it is the last one. -/
def Search.next (s : Search) : Option Search :=
  let s : Search := { s with i := s.i + 1 }
  let s : Search := if s.i ≥ n then { i := 0, looped := true } else s
  if s.looped ∧ s.i ≥ start then none else some s

/-- The slots that are examined, and the one that is found; `none` when the bound is reached. -/
def Search.run (wanted : ℕ → Bool) : ℕ → Search → Option (List ℕ × Option ℕ)
  | 0, _ => none
  | fuel + 1, s =>
      if wanted s.i then some ([s.i], some s.i)
      else
        match s.next n start with
        | some s' => (s'.run wanted fuel).map fun r => (s.i :: r.1, r.2)
        | none => some ([s.i], none)

/-- The slots that are ahead, the current one included. -/
def Search.ahead (s : Search) : List ℕ :=
  if s.looped then List.range' s.i (start - s.i)
  else List.range' s.i (n - s.i) ++ List.range start

end

/-! ## What the loop examines -/

section

variable {n start : ℕ} {s : Search}

/-- The current slot is one that is to be examined. -/
def Search.Valid (n start : ℕ) (s : Search) : Prop :=
  if s.looped then s.i < start else s.i < n

/-- One turn takes the first slot that is ahead. -/
lemma ahead_cons (hstart : start < n) (h : s.Valid n start) :
    s.ahead n start = s.i :: ((s.next n start).map fun s' => s'.ahead n start).getD [] ∧
      ∀ s', s.next n start = some s' → s'.Valid n start := by
  obtain ⟨i, looped⟩ := s
  cases looped with
  | true =>
      have hi : i < start := h
      have hlength : start - i = (start - (i + 1)) + 1 := by omega
      have hnot : ¬ i + 1 ≥ n := by omega
      simp only [Search.ahead, Search.next, Search.Valid, hnot, if_true, if_false, true_and]
      rw [hlength, List.range'_succ]
      by_cases hlast : i + 1 ≥ start
      · have hzero : start - (i + 1) = 0 := by omega
        simp [hlast, hzero]
      · simp only [hlast, if_false, Option.map_some, Option.getD_some, Option.some.injEq,
          forall_eq', if_true, true_and]
        omega
  | false =>
      have hi : i < n := h
      have hlength : n - i = (n - (i + 1)) + 1 := by omega
      simp only [Search.ahead, Search.next, Search.Valid, Bool.false_eq_true, if_false]
      rw [hlength, List.range'_succ, List.cons_append]
      by_cases hwrap : i + 1 ≥ n
      · -- the slots from 0 on are left
        have hzero : n - (i + 1) = 0 := by omega
        rw [hzero, List.range'_zero, List.nil_append]
        simp only [hwrap, if_true, true_and]
        by_cases hnone : start = 0
        · simp [hnone]
        · have hpos : ¬ 0 ≥ start := by omega
          simp only [hpos, if_false, Option.map_some, Option.getD_some, if_true, Nat.sub_zero,
            Option.some.injEq, forall_eq', List.range_eq_range', true_and]
          omega
      · simp only [hwrap, if_false, Bool.false_eq_true, false_and, Option.map_some,
          Option.getD_some, Option.some.injEq, forall_eq', true_and]
        omega

/-- The slots up to the first one that is wanted. -/
def upTo (wanted : ℕ → Bool) : List ℕ → List ℕ
  | [] => []
  | i :: is => if wanted i then [i] else i :: upTo wanted is

lemma upTo_sublist (wanted : ℕ → Bool) : ∀ is : List ℕ, (upTo wanted is).Sublist is
  | [] => .slnil
  | i :: is => by
      rw [upTo]
      split_ifs
      · exact .cons_cons i (List.nil_sublist is)
      · exact .cons_cons i (upTo_sublist wanted is)

lemma run_ahead (hstart : start < n) (wanted : ℕ → Bool) (fuel : ℕ) {s : Search}
    (h : s.Valid n start) (hfuel : (s.ahead n start).length ≤ fuel) :
    s.run n start wanted fuel =
      some (upTo wanted (s.ahead n start), (s.ahead n start).find? wanted) := by
  obtain ⟨hahead, hnext⟩ := ahead_cons hstart h
  rw [hahead] at hfuel ⊢
  cases fuel with
  | zero => simp at hfuel
  | succ fuel =>
      rw [Search.run, upTo, List.find?_cons]
      cases hwanted : wanted s.i with
      | true => simp
      | false =>
          cases hs : s.next n start with
          | none => simp [upTo]
          | some s' =>
              rw [hs, Option.map_some, Option.getD_some, List.length_cons] at hfuel
              simp [run_ahead hstart wanted fuel (hnext s' hs) (by omega)]

/-- **The loop ends**, and finds what is wanted if there is any. -/
theorem run_eq (hstart : start < n) (wanted : ℕ → Bool) {fuel : ℕ} (hfuel : n ≤ fuel) :
    (Search.mk start false).run n start wanted fuel =
      some (upTo wanted (order n start), (order n start).find? wanted) := by
  refine run_ahead hstart wanted fuel (s := ⟨start, false⟩) hstart ?_
  show (order n start).length ≤ fuel
  rwa [length_order (Nat.le_of_lt hstart)]

end

end CircularSearch

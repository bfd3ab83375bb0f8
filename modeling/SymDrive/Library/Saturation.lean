import Mathlib.Data.List.Infix
import Mathlib.Tactic.Common

/-!
# Saturation of a growing list

A loop that goes over some input again and again and adds to a list, until the list is as long as
it was before.  Nothing is ever taken out of the list, so it has stopped growing then.

`exists_stable` says that such a loop ends if the list is bounded, with a list to which one more
sweep adds nothing, and which has every property that a sweep preserves.
-/

namespace Saturation

variable {α : Type}

/-- The list before the last sweep is `core`; at most `fuel - 1` more sweeps are made. -/
def untilStable (sweep : List α → List α) : ℕ → List α → List α → Option (List α)
  | 0, _, _ => none
  | fuel + 1, core, driver =>
      if driver.length ≠ core.length then untilStable sweep fuel driver (sweep driver)
      else some driver

variable {sweep : List α → List α}

section

variable {core driver : List α} {fuel : ℕ}

lemma untilStable_of_eq (h : driver.length = core.length) (hfuel : 1 ≤ fuel) :
    untilStable sweep fuel core driver = some driver := by
  obtain ⟨fuel, rfl⟩ := Nat.exists_eq_add_of_le' hfuel
  rw [untilStable, if_neg (not_not.mpr h)]

lemma untilStable_of_ne (h : driver.length ≠ core.length) (hfuel : 1 ≤ fuel) :
    untilStable sweep fuel core driver =
      untilStable sweep (fuel - 1) driver (sweep driver) := by
  obtain ⟨fuel, rfl⟩ := Nat.exists_eq_add_of_le' hfuel
  rw [untilStable, if_pos h, Nat.add_sub_cancel]

/-- A list that is complete is returned, at the latest after one more sweep. -/
lemma untilStable_of_complete (h : sweep driver = driver) (hfuel : 2 ≤ fuel) :
    untilStable sweep fuel core driver = some driver := by
  by_cases hlength : driver.length = core.length
  · exact untilStable_of_eq hlength (by omega)
  · rw [untilStable_of_ne hlength (by omega), h]
    exact untilStable_of_eq rfl (by omega)

end

/-- **The loop ends** with a list that is complete.  The induction is on the room that is left. -/
theorem exists_stable {P : List α → Prop} {n : ℕ} (hgrows : ∀ l, P l → l <+: sweep l)
    (hsweep : ∀ l, P l → P (sweep l)) (hbound : ∀ l, P l → l.length ≤ n) (k : ℕ) :
    ∀ core driver, P driver → (driver.length = core.length → sweep driver = driver) →
      n ≤ driver.length + k →
        ∃ r, P r ∧ sweep r = r ∧ ∀ fuel, k + 2 ≤ fuel →
          untilStable sweep fuel core driver = some r := by
  induction k with
  | zero =>
      intro core driver hP hstable hroom
      have hcomplete : sweep driver = driver := by
        have hle := hbound _ (hsweep driver hP)
        have hge := (hgrows driver hP).length_le
        exact ((hgrows driver hP).eq_of_length (by omega)).symm
      exact ⟨driver, hP, hcomplete, fun fuel hfuel => untilStable_of_complete hcomplete hfuel⟩
  | succ k ih =>
      intro core driver hP hstable hroom
      by_cases hcomplete : sweep driver = driver
      · exact ⟨driver, hP, hcomplete, fun fuel hfuel =>
          untilStable_of_complete hcomplete (by omega)⟩
      · have hlength : driver.length ≠ core.length := fun h => hcomplete (hstable h)
        have hgrown : (sweep driver).length ≠ driver.length := fun h =>
          hcomplete ((hgrows driver hP).eq_of_length h.symm).symm
        have hge := (hgrows driver hP).length_le
        obtain ⟨r, hr, hfull, hrun⟩ := ih driver (sweep driver) (hsweep driver hP)
          (fun heq => absurd heq hgrown) (by omega)
        refine ⟨r, hr, hfull, fun fuel hfuel => ?_⟩
        rw [untilStable_of_ne hlength (by omega)]
        exact hrun _ (by omega)

end Saturation

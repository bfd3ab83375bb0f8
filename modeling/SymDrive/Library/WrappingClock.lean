import Mathlib.Algebra.Group.Even
import Mathlib.Data.BitVec
import Mathlib.Tactic.Ring

/-!
# Clocks that wrap around

Times are `w`-bit counters that wrap around, compared by the sign of their difference, so that a
time is not before the `2 ^ (w - 1)` times that precede it.  This file says when scaling or shifting
a time does not move it to an earlier one.
-/

namespace Clock

variable {w : ℕ} {a b c : BitVec w}

/-- The difference is not negative. -/
def AfterEq (a b : BitVec w) : Prop := 0 ≤ (a - b).toInt

instance (a b : BitVec w) : Decidable (AfterEq a b) := inferInstanceAs (Decidable (0 ≤ _))

lemma afterEq_iff : AfterEq a b ↔ 2 * (a - b).toNat < 2 ^ w := by
  rw [AfterEq, BitVec.toInt_eq_toNat_cond]
  have hlt := (a - b).isLt
  split_ifs with h <;> omega

lemma AfterEq.refl (a : BitVec w) : AfterEq a a := by
  rw [afterEq_iff, BitVec.sub_self]
  simp

/-- The comparison depends on the distance only. -/
lemma add_afterEq_add (c : BitVec w) : AfterEq (c + a) (c + b) ↔ AfterEq a b := by
  have hdiff : c + a - (c + b) = a - b := by ring
  rw [AfterEq, AfterEq, hdiff]

/-- A shift by a number that the counter can hold with its sign. -/
lemma add_ofInt_afterEq (hw : 0 < w) {x : ℤ} (hlow : -2 ^ (w - 1) ≤ x) (hhigh : x < 2 ^ (w - 1)) :
    AfterEq (a + BitVec.ofInt w x) a ↔ 0 ≤ x := by
  have hdiff : a + BitVec.ofInt w x - a = BitVec.ofInt w x := by ring
  rw [AfterEq, hdiff, BitVec.toInt_ofInt_eq_self hw hlow hhigh]

/-- The distance from a time to its multiple. -/
lemma mul_sub_toNat {k : ℕ} (hk : 1 ≤ k) :
    (a * BitVec.ofNat w k - a).toNat = (k - 1) * a.toNat % 2 ^ w := by
  obtain ⟨k, rfl⟩ : ∃ n, k = n + 1 := ⟨k - 1, by omega⟩
  have hdiff : a * BitVec.ofNat w (k + 1) - a = a * BitVec.ofNat w k := by
    rw [BitVec.ofNat_add, mul_add, BitVec.mul_one, add_sub_cancel_right]
  rw [hdiff, BitVec.toNat_mul, BitVec.toNat_ofNat, Nat.mul_mod_mod, Nat.add_sub_cancel,
    Nat.mul_comm]

/-- A multiple that does not leave the half of the counter that lies ahead. -/
lemma mul_afterEq_of_lt (hw : 0 < w) {k : ℕ} (hk : 1 ≤ k) (h : k * a.toNat < 2 ^ (w - 1)) :
    AfterEq (a * BitVec.ofNat w k) a := by
  have hle : (k - 1) * a.toNat ≤ k * a.toNat := Nat.mul_le_mul_right _ (by omega)
  have hpow : 2 ^ w = 2 * 2 ^ (w - 1) := by rw [← pow_succ', Nat.sub_add_cancel hw]
  rw [afterEq_iff, mul_sub_toNat hk, Nat.mod_eq_of_lt (by omega)]
  omega

/-- Which half of its range a counter is in. -/
lemma two_mul_mod_lt_iff {n m : ℕ} (hm : 0 < m) : 2 * (n % (2 * m)) < 2 * m ↔ Even (n / m) := by
  rw [Nat.even_iff]
  have hdiv : n % (2 * m) / m = n / m % 2 := by
    rw [Nat.mul_comm, Nat.mod_mul_right_div_self]
  rw [← hdiv, Nat.div_eq_zero_iff]
  omega

/-- A multiple is not before the time itself if the additional part ends in an even half-turn of the
counter. -/
lemma mul_afterEq_iff (hw : 0 < w) {k : ℕ} (hk : 1 ≤ k) :
    AfterEq (a * BitVec.ofNat w k) a ↔ Even ((k - 1) * a.toNat / 2 ^ (w - 1)) := by
  have hpow : 2 ^ w = 2 * 2 ^ (w - 1) := by rw [← pow_succ', Nat.sub_add_cancel hw]
  rw [afterEq_iff, mul_sub_toNat hk, hpow, two_mul_mod_lt_iff (Nat.two_pow_pos _)]

end Clock

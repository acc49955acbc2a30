/-
Compound growth, cut after the third power.

At a rate of `y` a period, `n` periods grow one unit to `(1 + y) ^ n`. A program that cannot afford
the power adds up the binomial terms of the first three powers of `y` and leaves out the rest; and
as it cannot square a rate exactly either, it works with approximations `a` and `b` of the second
and the third power. The sum is `cubic y a b n`.

With exact powers the sum is never above the growth, since what is left out is not negative. With
rounded powers it is above the growth just when rounding adds more than is left out
(`cubic_le_pow_iff`).
-/
import Mathlib.Algebra.Order.Field.Basic
import Mathlib.Algebra.Order.BigOperators.Group.Finset
import Mathlib.Data.Nat.Choose.Sum
import Mathlib.Tactic.Ring
import Mathlib.Tactic.Linarith
import Mathlib.Tactic.Positivity
import Mathlib.Tactic.GCongr

set_option autoImplicit false

namespace Compound

variable {K : Type*} [Field K]

/-- The growth of `n` periods up to the third power, with `a` and `b` for the second and third power
of the rate. -/
def cubic (y a b : K) (n : ℕ) : K := 1 + n * y + n.choose 2 * a + n.choose 3 * b

/-- The binomial terms from the fourth power on. -/
def leftOut (y : K) (n : ℕ) : K :=
  ∑ j ∈ Finset.range n, (n.choose (j + 4) : K) * y ^ (j + 4)

/-! ## The binomial expansion -/

/-- The growth is a sum of binomial terms, of which those beyond `n` vanish. -/
theorem pow_eq_sum (y : K) (n m : ℕ) (h : n < m) :
    (1 + y) ^ n = ∑ k ∈ Finset.range m, (n.choose k : K) * y ^ k := by
  rw [add_comm, add_pow]
  have hsub : Finset.range (n + 1) ⊆ Finset.range m := Finset.range_mono h
  rw [← Finset.sum_subset hsub]
  · apply Finset.sum_congr rfl
    intro k _
    rw [one_pow, mul_one, mul_comm]
  · intro k _ hk
    have hlt : n < k := by
      rw [Finset.mem_range] at hk
      omega
    rw [Nat.choose_eq_zero_of_lt hlt, Nat.cast_zero, zero_mul]

/-- **The growth** is the cubic sum of the exact powers and what is left out. -/
theorem pow_eq_cubic_add_leftOut (y : K) (n : ℕ) :
    (1 + y) ^ n = cubic y (y ^ 2) (y ^ 3) n + leftOut y n := by
  rw [pow_eq_sum y n (n + 4) (by omega), Finset.sum_range_succ', Finset.sum_range_succ',
    Finset.sum_range_succ', Finset.sum_range_succ']
  unfold cubic leftOut
  simp only [Nat.choose_zero_right, Nat.choose_one_right, Nat.cast_one, pow_zero, pow_one, mul_one,
    Nat.reduceAdd]
  ring

variable [LinearOrder K] [IsStrictOrderedRing K] {y a b a' b' : K} {n n' : ℕ}

theorem leftOut_nonneg (hy : 0 ≤ y) : 0 ≤ leftOut y n := by
  unfold leftOut
  apply Finset.sum_nonneg
  intro j _
  positivity

/-- **When the sum is below the growth.** Just when what the approximations add to the powers is no
more than what is left out. -/
theorem cubic_le_pow_iff :
    cubic y a b n ≤ (1 + y) ^ n ↔
      n.choose 2 * (a - y ^ 2) + n.choose 3 * (b - y ^ 3) ≤ leftOut y n := by
  have hgain : cubic y a b n = cubic y (y ^ 2) (y ^ 3) n
      + (n.choose 2 * (a - y ^ 2) + n.choose 3 * (b - y ^ 3)) := by
    unfold cubic
    ring
  rw [pow_eq_cubic_add_leftOut, hgain]
  exact add_le_add_iff_left _

/-- The sum is at least the linear growth. -/
theorem linear_le_cubic (ha : 0 ≤ a) (hb : 0 ≤ b) : 1 + n * y ≤ cubic y a b n := by
  have h₂ : 0 ≤ (n.choose 2 : K) * a := by positivity
  have h₃ : 0 ≤ (n.choose 3 : K) * b := by positivity
  unfold cubic
  linarith

/-- The sum grows with the number of periods and with the rate. -/
theorem cubic_mono {y' : K} (hn : n ≤ n') (hy : 0 ≤ y) (ha : 0 ≤ a) (hb : 0 ≤ b) (hyy : y ≤ y')
    (haa : a ≤ a') (hbb : b ≤ b') : cubic y a b n ≤ cubic y' a' b' n' := by
  have h₂ : n.choose 2 ≤ n'.choose 2 := Nat.choose_le_choose 2 hn
  have h₃ : n.choose 3 ≤ n'.choose 3 := Nat.choose_le_choose 3 hn
  unfold cubic
  gcongr

end Compound

/-
Compounded interest against compound interest.

Borrowers are charged by the second, at the rate of a year divided by its seconds and rounded down.
`calculateCompoundedInterest` adds up the first three binomial terms and leaves out the rest, so
that borrowers are charged too little rather than too much. But it takes the second and the third
power of the rate with `rayMul`, which rounds half up, and multiplies them with the square and the
cube of the time. What is left out starts with the fourth power of the rate and is tiny over a short
time. So whether the borrower is charged too much is a matter of the two roundings.

The result is never below the linear growth, and never falls as the time or the rate grows.
-/
import Unlockd.Math
import Unlockd.Lib.Compound
import Mathlib.Algebra.Order.Ring.Rat
import Mathlib.Tactic.FieldSimp
import Mathlib.Tactic.LinearCombination
import Mathlib.Tactic.NormNum

set_option autoImplicit false

namespace Unlockd

open Outcome FixedPoint Compound

/-! ## The closed form -/

/-- The square of a rate, as the code rounds it. -/
def basePowerTwo (ratePerSecond : ℕ) : ℕ := divHalfUp (ratePerSecond * ratePerSecond) RAY

/-- Its third power. -/
def basePowerThree (ratePerSecond : ℕ) : ℕ :=
  divHalfUp (basePowerTwo ratePerSecond * ratePerSecond) RAY

theorem basePowerTwo_mono {x x' : ℕ} (h : x ≤ x') : basePowerTwo x ≤ basePowerTwo x' :=
  divHalfUp_mono (Nat.mul_le_mul h h) RAY

theorem basePowerThree_mono {x x' : ℕ} (h : x ≤ x') : basePowerThree x ≤ basePowerThree x' :=
  divHalfUp_mono (Nat.mul_le_mul (basePowerTwo_mono h) h) RAY

/-- The second binomial coefficient, as the code computes it; nothing is rounded there. -/
theorem secondTerm_eq (n p : ℕ) : n * (n - 1) * p / 2 = n.choose 2 * p := by
  have h : n * (n - 1) = 2 * n.choose 2 := by
    have hfactorial := Nat.descFactorial_eq_factorial_mul_choose n 2
    rw [show Nat.factorial 2 = 2 from rfl] at hfactorial
    rw [← hfactorial, Nat.descFactorial_succ, Nat.descFactorial_succ, Nat.descFactorial_zero,
      Nat.sub_zero, Nat.mul_one]
    ring
  rw [h, Nat.mul_assoc, Nat.mul_div_cancel_left _ (by decide)]

/-- And the third. Below three seconds both are zero. -/
theorem thirdTerm_eq (n p : ℕ) :
    n * (n - 1) * (if n > 2 then n - 2 else 0) * p / 6 = n.choose 3 * p := by
  have hsub : (if n > 2 then n - 2 else 0) = n - 2 := by
    split <;> omega
  have h : n * (n - 1) * (n - 2) = 6 * n.choose 3 := by
    have hfactorial := Nat.descFactorial_eq_factorial_mul_choose n 3
    rw [show Nat.factorial 3 = 6 from rfl] at hfactorial
    rw [← hfactorial, Nat.descFactorial_succ, Nat.descFactorial_succ, Nat.descFactorial_succ,
      Nat.descFactorial_zero, Nat.sub_zero, Nat.mul_one]
    ring
  rw [hsub, h, Nat.mul_assoc, Nat.mul_div_cancel_left _ (by decide)]

/-- **The compounded factor in closed form.** -/
theorem calculateCompoundedInterest_eq {rate last now f : ℕ}
    (h : calculateCompoundedInterest rate last now = .ok f) :
    f = RAY + (now - last) * (rate / SECONDS_PER_YEAR)
      + (now - last).choose 2 * basePowerTwo (rate / SECONDS_PER_YEAR)
      + (now - last).choose 3 * basePowerThree (rate / SECONDS_PER_YEAR) := by
  obtain ⟨n, hn, h⟩ := bind_eq_ok.mp h
  obtain ⟨-, rfl⟩ := checkedSub_eq_ok.mp hn
  split at h
  · rename_i hzero
    rw [hzero, ← Except.ok.inj h]
    simp
  · obtain ⟨p₂, h₂, h⟩ := bind_eq_ok.mp h
    obtain ⟨p₃, h₃, h⟩ := bind_eq_ok.mp h
    obtain rfl := rayMul_spec h₂
    obtain rfl := rayMul_spec h₃
    rw [← Except.ok.inj h, secondTerm_eq, thirdTerm_eq, Nat.mul_comm (now - last)]
    rfl

/-- In units of one ray it is a cubic sum of the growth of a rate. -/
theorem calculateCompoundedInterest_cubic {rate last now f : ℕ}
    (h : calculateCompoundedInterest rate last now = .ok f) :
    (f : ℚ) = RAY * cubic (((rate / SECONDS_PER_YEAR : ℕ) : ℚ) / RAY)
      ((basePowerTwo (rate / SECONDS_PER_YEAR) : ℚ) / RAY)
      ((basePowerThree (rate / SECONDS_PER_YEAR) : ℚ) / RAY) (now - last) := by
  have hray : (RAY : ℚ) ≠ 0 := Nat.cast_ne_zero.mpr RAY_pos.ne'
  rw [calculateCompoundedInterest_eq h]
  generalize rate / SECONDS_PER_YEAR = x
  unfold cubic
  push_cast
  field_simp

/-! ## What rounding adds -/

/-- What the code adds to the square of a rate by rounding it, in units of one ray squared. -/
def squareGain (ratePerSecond : ℕ) : ℤ := gain (ratePerSecond * ratePerSecond) RAY

/-- What it adds to the third power, on top of what the square brings along. -/
def cubeGain (ratePerSecond : ℕ) : ℤ := gain (basePowerTwo ratePerSecond * ratePerSecond) RAY

/-- What rounding adds over a time is no more than what is left out of the binomial expansion. -/
def RoundingCovered (rate elapsed : ℕ) : Prop :=
  let x := rate / SECONDS_PER_YEAR
  ((elapsed.choose 2 * RAY + elapsed.choose 3 * x) * squareGain x
    + elapsed.choose 3 * RAY * cubeGain x : ℚ) ≤ RAY ^ 3 * leftOut ((x : ℚ) / RAY) elapsed

theorem basePowerTwo_sub (x : ℕ) :
    (basePowerTwo x : ℚ) / RAY - ((x : ℚ) / RAY) ^ 2 = squareGain x / RAY ^ 2 := by
  have hray : (RAY : ℚ) ≠ 0 := Nat.cast_ne_zero.mpr RAY_pos.ne'
  have h : ((basePowerTwo x * RAY : ℕ) : ℚ) = (x * x : ℕ) + squareGain x :=
    mod_cast congrArg (fun z : ℤ => (z : ℚ)) (divHalfUp_mul_eq (x * x) RAY_pos)
  push_cast at h
  field_simp
  linear_combination h

theorem basePowerThree_sub (x : ℕ) :
    (basePowerThree x : ℚ) / RAY - ((x : ℚ) / RAY) ^ 3
      = (x * squareGain x + RAY * cubeGain x) / RAY ^ 3 := by
  have hray : (RAY : ℚ) ≠ 0 := Nat.cast_ne_zero.mpr RAY_pos.ne'
  have h₂ : ((basePowerTwo x * RAY : ℕ) : ℚ) = (x * x : ℕ) + squareGain x :=
    mod_cast congrArg (fun z : ℤ => (z : ℚ)) (divHalfUp_mul_eq (x * x) RAY_pos)
  have h₃ : ((basePowerThree x * RAY : ℕ) : ℚ) = (basePowerTwo x * x : ℕ) + cubeGain x :=
    mod_cast congrArg (fun z : ℤ => (z : ℚ)) (divHalfUp_mul_eq (basePowerTwo x * x) RAY_pos)
  push_cast at h₂ h₃
  field_simp
  linear_combination RAY * h₃ + x * h₂

/-- The approximated growth is at most the exact one just when the rounding is covered. -/
theorem cubic_le_pow_iff_covered (rate n : ℕ) :
    cubic (((rate / SECONDS_PER_YEAR : ℕ) : ℚ) / RAY)
        ((basePowerTwo (rate / SECONDS_PER_YEAR) : ℚ) / RAY)
        ((basePowerThree (rate / SECONDS_PER_YEAR) : ℚ) / RAY) n
      ≤ (1 + ((rate / SECONDS_PER_YEAR : ℕ) : ℚ) / RAY) ^ n ↔ RoundingCovered rate n := by
  have hray : (0 : ℚ) < RAY ^ 3 := by
    have hpos : (0 : ℚ) < RAY := Nat.cast_pos.mpr RAY_pos
    positivity
  have hne : (RAY : ℚ) ≠ 0 := Nat.cast_ne_zero.mpr RAY_pos.ne'
  unfold RoundingCovered
  generalize rate / SECONDS_PER_YEAR = x
  rw [cubic_le_pow_iff, basePowerTwo_sub, basePowerThree_sub, ← mul_le_mul_iff_right₀ hray]
  have hsum : (RAY : ℚ) ^ 3 * (n.choose 2 * (squareGain x / RAY ^ 2)
      + n.choose 3 * ((x * squareGain x + RAY * cubeGain x) / RAY ^ 3))
      = (n.choose 2 * RAY + n.choose 3 * x) * squareGain x
        + n.choose 3 * RAY * cubeGain x := by
    field_simp
    ring
  rw [hsum]

/-- Where neither power is rounded up, it is covered over any time. -/
theorem RoundingCovered.of_gains_nonpos {rate : ℕ} (elapsed : ℕ)
    (hsquare : squareGain (rate / SECONDS_PER_YEAR) ≤ 0)
    (hcube : cubeGain (rate / SECONDS_PER_YEAR) ≤ 0) : RoundingCovered rate elapsed := by
  unfold RoundingCovered
  dsimp only
  generalize rate / SECONDS_PER_YEAR = x at hsquare hcube ⊢
  have hsquare' : (squareGain x : ℚ) ≤ 0 := Int.cast_nonpos.mpr hsquare
  have hcube' : (cubeGain x : ℚ) ≤ 0 := Int.cast_nonpos.mpr hcube
  have hleft : 0 ≤ (RAY : ℚ) ^ 3 * leftOut ((x : ℚ) / RAY) elapsed :=
    mul_nonneg (by positivity) (leftOut_nonneg (by positivity))
  have h₂ : ((elapsed.choose 2 * RAY + elapsed.choose 3 * x : ℚ)) * squareGain x ≤ 0 :=
    mul_nonpos_of_nonneg_of_nonpos (by positivity) hsquare'
  have h₃ : (elapsed.choose 3 * RAY : ℚ) * cubeGain x ≤ 0 :=
    mul_nonpos_of_nonneg_of_nonpos (by positivity) hcube'
  linarith

/-- In the first second there is nothing to round. -/
theorem RoundingCovered.of_le_one (rate : ℕ) {elapsed : ℕ} (h : elapsed ≤ 1) :
    RoundingCovered rate elapsed := by
  have h₂ : elapsed.choose 2 = 0 := Nat.choose_eq_zero_of_lt (by omega)
  have h₃ : elapsed.choose 3 = 0 := Nat.choose_eq_zero_of_lt (by omega)
  have hleft : 0 ≤ leftOut (((rate / SECONDS_PER_YEAR : ℕ) : ℚ) / RAY) elapsed :=
    leftOut_nonneg (by positivity)
  unfold RoundingCovered
  dsimp only
  rw [h₂, h₃]
  simp only [Nat.cast_zero, zero_mul, add_zero]
  positivity

/-- After two seconds nothing is left out yet, and it all depends on the square. -/
theorem roundingCovered_two_iff (rate : ℕ) :
    RoundingCovered rate 2 ↔ squareGain (rate / SECONDS_PER_YEAR) ≤ 0 := by
  have hray : (0 : ℚ) < RAY := Nat.cast_pos.mpr RAY_pos
  have hleft : ∀ y : ℚ, leftOut y 2 = 0 := by
    intro y
    simp [leftOut, Nat.choose]
  unfold RoundingCovered
  dsimp only
  rw [hleft, mul_zero, show Nat.choose 2 2 = 1 from rfl, show Nat.choose 2 3 = 0 from rfl]
  simp only [Nat.cast_one, Nat.cast_zero, one_mul, zero_mul, add_zero]
  rw [← not_lt, mul_pos_iff_of_pos_left hray, not_lt, Int.cast_nonpos]

/-! ## The bracket -/

/-- A factor of growth lies between the linear and the compound growth of a rate over a time, and
no longer time at no higher rate leads to a smaller one. -/
structure Bracketed (rate elapsed f : ℕ) : Prop where
  lower : RAY + elapsed * (rate / SECONDS_PER_YEAR) ≤ f
  upper : (f : ℚ) ≤ RAY * (1 + ((rate / SECONDS_PER_YEAR : ℕ) : ℚ) / RAY) ^ elapsed
  mono : ∀ rate' last' now' f', rate ≤ rate' → elapsed ≤ now' - last' →
    calculateCompoundedInterest rate' last' now' = .ok f' → f ≤ f'

/-- The factor never falls as the time or the rate grows. -/
theorem calculateCompoundedInterest_mono {rate rate' last last' now now' f f' : ℕ}
    (h : calculateCompoundedInterest rate last now = .ok f)
    (h' : calculateCompoundedInterest rate' last' now' = .ok f') (hrate : rate ≤ rate')
    (htime : now - last ≤ now' - last') : f ≤ f' := by
  have hx : rate / SECONDS_PER_YEAR ≤ rate' / SECONDS_PER_YEAR := Nat.div_le_div_right hrate
  have hray : (0 : ℚ) ≤ RAY := Nat.cast_nonneg RAY
  -- in units of one ray the rate and its two powers grow together
  have hunits : ∀ {m n : ℕ}, m ≤ n → (m : ℚ) / RAY ≤ (n : ℚ) / RAY := by
    intro m n hmn
    exact div_le_div_of_nonneg_right (Nat.cast_le.mpr hmn) hray
  have hcubic := cubic_mono htime (div_nonneg (Nat.cast_nonneg _) hray)
    (div_nonneg (Nat.cast_nonneg _) hray) (div_nonneg (Nat.cast_nonneg _) hray) (hunits hx)
    (hunits (basePowerTwo_mono hx)) (hunits (basePowerThree_mono hx))
  have hfactors : (f : ℚ) ≤ f' := by
    rw [calculateCompoundedInterest_cubic h, calculateCompoundedInterest_cubic h']
    exact mul_le_mul_of_nonneg_left hcubic hray
  exact Nat.cast_le.mp hfactors

/-- Nor is it below the linear growth. -/
theorem le_calculateCompoundedInterest {rate last now f : ℕ}
    (h : calculateCompoundedInterest rate last now = .ok f) :
    RAY + (now - last) * (rate / SECONDS_PER_YEAR) ≤ f := by
  have hray : (0 : ℚ) < RAY := Nat.cast_pos.mpr RAY_pos
  have hcubic : _ ≤ cubic (((rate / SECONDS_PER_YEAR : ℕ) : ℚ) / RAY)
      ((basePowerTwo (rate / SECONDS_PER_YEAR) : ℚ) / RAY)
      ((basePowerThree (rate / SECONDS_PER_YEAR) : ℚ) / RAY) (now - last) :=
    linear_le_cubic (by positivity) (by positivity)
  have hfactor := mul_le_mul_of_nonneg_left hcubic hray.le
  rw [← calculateCompoundedInterest_cubic h, mul_add, mul_one, mul_left_comm,
    mul_div_cancel₀ _ hray.ne'] at hfactor
  exact_mod_cast hfactor

/-- **Compounded interest is bracketed** just when rounding is covered by what is left out. -/
theorem calculateCompoundedInterest_bracketed_iff {rate last now f : ℕ}
    (h : calculateCompoundedInterest rate last now = .ok f) :
    Bracketed rate (now - last) f ↔ RoundingCovered rate (now - last) := by
  have hray : (0 : ℚ) < RAY := Nat.cast_pos.mpr RAY_pos
  rw [← cubic_le_pow_iff_covered, ← mul_le_mul_iff_right₀ hray,
    ← calculateCompoundedInterest_cubic h]
  constructor
  · intro hbracketed
    exact hbracketed.upper
  · intro hupper
    refine ⟨le_calculateCompoundedInterest h, hupper, ?_⟩
    intro rate' last' now' f' hrate htime h'
    exact calculateCompoundedInterest_mono h h' hrate htime

/-- At a rate of 5% a year the squares and cubes of two seconds are rounded down. -/
theorem calculateCompoundedInterest_bracketed_sample :
    Bracketed (5 * 10 ^ 25) 2 1000000003170979200890235919 := by
  have hrun : calculateCompoundedInterest (5 * 10 ^ 25) 0 2 = .ok 1000000003170979200890235919 :=
    rfl
  exact (calculateCompoundedInterest_bracketed_iff hrun).mpr
    ((roundingCovered_two_iff _).mpr (by decide))

/-- **Borrowers can be charged too much.** At 10% a year, over two seconds. -/
theorem calculateCompoundedInterest_overcharges :
    ∃ f, calculateCompoundedInterest (10 ^ 26) 0 2 = .ok f ∧
      (RAY : ℚ) * (1 + ((10 ^ 26 / SECONDS_PER_YEAR : ℕ) : ℚ) / RAY) ^ 2 < f := by
  refine ⟨1000000006341958406808026377, rfl, ?_⟩
  norm_num [RAY, SECONDS_PER_YEAR]

end Unlockd

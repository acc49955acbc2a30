/-
Interest on a reserve, in and out.

The suppliers are paid linearly at the liquidity rate on everything they have in the reserve, the
borrowers are charged at the borrow rate on what is lent, and the treasury gets its part of what
they are charged as new uTokens. The liquidity rate is computed so that the one pays for the other.
Every number in this is rounded, the rates were computed some time before they are charged, and the
two sides grow by different formulas. Here it is worked out by how many shares this may leave the
suppliers uncovered: two for every second, and three for the update itself.
-/
import Unlockd.RateCurve
import Unlockd.Lib.LentPool
import Mathlib.Algebra.Order.Ring.Rat
import Mathlib.Data.Nat.Cast.Order.Field
import Mathlib.Tactic.FieldSimp
import Mathlib.Tactic.GCongr
import Mathlib.Tactic.NormNum

set_option autoImplicit false

namespace Unlockd

open Outcome FixedPoint LentPool

/-! ## Rays as fractions -/

/-- The fraction that a number of rays stands for. -/
def inRay (n : ℕ) : ℚ := n / RAY

section Rays

variable {a b c d n m : ℕ}

theorem RAY_cast_pos : (0 : ℚ) < RAY := by exact_mod_cast RAY_pos

theorem inRay_nonneg (n : ℕ) : 0 ≤ inRay n := div_nonneg (Nat.cast_nonneg _) RAY_cast_pos.le

theorem inRay_mul_RAY (n : ℕ) : inRay n * RAY = n := div_mul_cancel₀ _ RAY_cast_pos.ne'

theorem inRay_mono (h : n ≤ m) : inRay n ≤ inRay m :=
  div_le_div_of_nonneg_right (by exact_mod_cast h) RAY_cast_pos.le

theorem one_le_inRay (h : RAY ≤ n) : 1 ≤ inRay n := by
  rw [inRay, le_div_iff₀ RAY_cast_pos, one_mul]
  exact_mod_cast h

/-- A product is within half a unit of the exact one. -/
theorem rayMul_le (h : rayMul a b = .ok c) : (c : ℚ) ≤ a * inRay b + 1 / 2 := by
  have hle := divHalfUp_le_div (a * b) RAY_pos
  rw [← rayMul_spec h, Nat.cast_mul, mul_div_assoc] at hle
  exact hle

@[inherit_doc rayMul_le]
theorem le_rayMul_add (h : rayMul a b = .ok c) : a * inRay b ≤ (c : ℚ) + 1 / 2 := by
  have hle := div_le_divHalfUp (a * b) RAY_pos
  rw [← rayMul_spec h, Nat.cast_mul, mul_div_assoc] at hle
  exact hle

/-- What an amount scales down to is worth the amount, up to half an index. -/
theorem rayDiv_mul_le (h : rayDiv a b = .ok c) : c * inRay b ≤ (a : ℚ) + inRay b / 2 := by
  obtain ⟨hpos, hc⟩ := rayDiv_spec h
  have hle := divHalfUp_le_div (a * RAY) hpos
  have hb : (0 : ℚ) < b := by exact_mod_cast hpos
  rw [← hc, Nat.cast_mul] at hle
  calc (c : ℚ) * inRay b ≤ (a * RAY / b + 1 / 2) * inRay b :=
        mul_le_mul_of_nonneg_right hle (inRay_nonneg b)
    _ = a + inRay b / 2 := by
        have hray := RAY_cast_pos.ne'
        unfold inRay
        field_simp

@[inherit_doc rayDiv_mul_le]
theorem le_rayDiv_mul_add (h : rayDiv a b = .ok c) : (a : ℚ) ≤ c * inRay b + inRay b / 2 := by
  obtain ⟨hpos, hc⟩ := rayDiv_spec h
  have hle := div_le_divHalfUp (a * RAY) hpos
  have hb : (0 : ℚ) < b := by exact_mod_cast hpos
  rw [← hc, Nat.cast_mul] at hle
  calc (a : ℚ) = a * RAY / b * inRay b := by
        have hray := RAY_cast_pos.ne'
        unfold inRay
        field_simp
    _ ≤ (c + 1 / 2) * inRay b := mul_le_mul_of_nonneg_right hle (inRay_nonneg b)
    _ = c * inRay b + inRay b / 2 := by ring

end Rays

/-! ## Rates that pay for each other -/

/-- The part of the interest that goes to the treasury. -/
def treasuryPart (reserveFactor : ℕ) : ℚ := reserveFactor / PERCENTAGE_FACTOR

theorem treasuryPart_nonneg (reserveFactor : ℕ) : 0 ≤ treasuryPart reserveFactor :=
  div_nonneg (Nat.cast_nonneg _) (Nat.cast_nonneg _)

theorem treasuryPart_mono {f f' : ℕ} (h : f ≤ f') : treasuryPart f ≤ treasuryPart f' :=
  div_le_div_of_nonneg_right (by exact_mod_cast h) (Nat.cast_nonneg _)

theorem treasuryPart_le_one {f : ℕ} (h : f ≤ PERCENTAGE_FACTOR) : treasuryPart f ≤ 1 := by
  have hpos : (0 : ℚ) < PERCENTAGE_FACTOR := by norm_num [PERCENTAGE_FACTOR]
  rw [treasuryPart, div_le_one hpos]
  exact_mod_cast h

namespace InterestRate

variable {ir : InterestRate} {available debt reserveFactor u o r : ℕ} {rates : ℕ × ℕ}

/-- The liquidity rate is the suppliers' part of the overall rate on what is lent. -/
theorem Computed.liquidityRate_le (c : Computed ir available debt reserveFactor u o rates) :
    inRay rates.1 ≤ (1 - treasuryPart reserveFactor) * (inRay o * inRay u) + 1 / RAY := by
  have hpos : 0 < PERCENTAGE_FACTOR := by decide
  have hgross := divHalfUp_le_div (o * u) RAY_pos
  have hshare := divHalfUp_le_div
    (divHalfUp (o * u) RAY * (PERCENTAGE_FACTOR - reserveFactor)) hpos
  rw [← c.liquidityRate, Nat.cast_mul, Nat.cast_sub c.factor, mul_div_assoc,
    sub_div, div_self (by exact_mod_cast hpos.ne')] at hshare
  change _ ≤ _ * (1 - treasuryPart reserveFactor) + _ at hshare
  have hpart : 0 ≤ 1 - treasuryPart reserveFactor := sub_nonneg.mpr (treasuryPart_le_one c.factor)
  have hpart' : 1 - treasuryPart reserveFactor ≤ 1 := by
    linarith [treasuryPart_nonneg reserveFactor]
  -- both roundings, in units of the rate
  have hmul := mul_le_mul_of_nonneg_right hgross hpart
  have hsum : (rates.1 : ℚ) ≤ (o * u : ℕ) / RAY * (1 - treasuryPart reserveFactor) + 1 := by
    linarith
  rw [inRay, div_le_iff₀ RAY_cast_pos, add_mul, div_mul_cancel₀ _ RAY_cast_pos.ne']
  refine hsum.trans (le_of_eq ?_)
  have hray := RAY_cast_pos.ne'
  rw [Nat.cast_mul]
  unfold inRay
  field_simp

/-- The overall rate is the borrow rate, up to what scaling the debt loses. -/
theorem overall_le (hdebt : debt ≠ 0) (h : _getOverallBorrowRate debt r = .ok o) :
    inRay o ≤ inRay r + 1 / (2 * debt * WAD_RAY_RATIO) + 1 / (2 * RAY) := by
  unfold _getOverallBorrowRate at h
  rw [if_neg hdebt] at h
  obtain ⟨weight, hweight, h⟩ := bind_eq_ok.mp h
  obtain ⟨weighted, hweighted, h⟩ := bind_eq_ok.mp h
  obtain ⟨-, hweight⟩ := require_bind_eq_ok.mp hweight
  obtain rfl := Except.ok.inj hweight
  have hmul := rayMul_le hweighted
  have hdiv := rayDiv_mul_le h
  have hratio : (0 : ℚ) < WAD_RAY_RATIO := by norm_num [ WAD_RAY_RATIO]
  have hpos : (0 : ℚ) < debt := by exact_mod_cast Nat.pos_of_ne_zero hdebt
  have hray := RAY_cast_pos
  have hsum : o * inRay (debt * WAD_RAY_RATIO)
      ≤ (debt * WAD_RAY_RATIO : ℕ) * inRay r + 1 / 2 + inRay (debt * WAD_RAY_RATIO) / 2 := by
    linarith
  unfold inRay at hsum ⊢
  push_cast at hsum
  have hexpand : (r : ℚ) / RAY + 1 / (2 * debt * WAD_RAY_RATIO) + 1 / (2 * RAY)
      = (debt * WAD_RAY_RATIO * (r / RAY) + 1 / 2 + debt * WAD_RAY_RATIO / RAY / 2)
        / (debt * WAD_RAY_RATIO) := by
    field_simp
  rw [hexpand, le_div_iff₀ (by positivity)]
  refine le_trans (le_of_eq ?_) hsum
  ring

/-- What is lent, read off the utilization. -/
theorem utilization_le (h : utilizationRate available debt = .ok u) :
    inRay u * (available + debt) ≤ debt + 1 / (2 * RAY) * (available + debt) := by
  have hray := RAY_cast_pos
  unfold utilizationRate at h
  split at h
  · rename_i hdebt
    rw [← Except.ok.inj h, hdebt]
    simp only [inRay, Nat.cast_zero, zero_div, zero_mul, add_zero]
    positivity
  · have hle := rayDiv_mul_le h
    unfold inRay at hle ⊢
    push_cast at hle
    calc (u : ℚ) / RAY * (available + debt) = u * ((available + debt) / RAY) := by ring
      _ ≤ debt + (available + debt) / RAY / 2 := hle
      _ = debt + 1 / (2 * RAY) * (available + debt) := by ring

section Pays

variable {N j jp : ℕ}

/-- What a scaled debt comes to at a later index, against the debt at an earlier one. -/
theorem owed_div_le (hd : rayMul N jp = .ok debt) (hpos : 0 < debt) (hjp : RAY ≤ jp)
    (hfits : j ≤ maxUint128) : N * inRay j / (2 * debt * WAD_RAY_RATIO) ≤ 341 := by
  have hdebt : (1 : ℚ) ≤ debt := by exact_mod_cast hpos
  have hN : (N : ℚ) ≤ 2 * debt := by
    have hle := le_mul_of_one_le_right (Nat.cast_nonneg (α := ℚ) N) (one_le_inRay hjp)
    linarith [le_rayMul_add hd]
  have hj : inRay j ≤ 341 * 10 ^ 9 := by
    refine (inRay_mono hfits).trans ?_
    norm_num [inRay, maxUint128, RAY]
  rw [div_le_iff₀ (by norm_num [ WAD_RAY_RATIO]; linarith)]
  calc (N : ℚ) * inRay j ≤ 2 * debt * (341 * 10 ^ 9) :=
        mul_le_mul hN hj (inRay_nonneg j) (by linarith)
    _ = 341 * (2 * debt * WAD_RAY_RATIO) := by norm_num [ WAD_RAY_RATIO]; ring

/-- **The rates pay for each other.** On all there is in a reserve the suppliers are promised no
more than their part of what the borrowers are charged, up to one token a year for each second of
it; the borrowers may owe more by now than when the rates were computed. -/
theorem Computed.pays (c : Computed ir available debt reserveFactor u o rates)
    (hd : rayMul N jp = .ok debt) (hjp : RAY ≤ jp) (hj : jp ≤ j) (hfits : j ≤ maxUint128)
    (havailable : available ≤ RAY) (howed : N * inRay j ≤ RAY)
    (hrate : inRay rates.2 ≤ 10 ^ 6) :
    inRay rates.1 * (available + N * inRay j)
      ≤ (1 - treasuryPart reserveFactor) * (inRay rates.2 * (N * inRay j)) + SECONDS_PER_YEAR := by
  have hray := RAY_cast_pos
  have ha : (available : ℚ) ≤ RAY := by exact_mod_cast havailable
  have hw : 0 ≤ N * inRay j := mul_nonneg (Nat.cast_nonneg _) (inRay_nonneg j)
  have hpart : 0 ≤ 1 - treasuryPart reserveFactor := sub_nonneg.mpr (treasuryPart_le_one c.factor)
  have hpart' : 1 - treasuryPart reserveFactor ≤ 1 := by
    linarith [treasuryPart_nonneg reserveFactor]
  have hfunds : 0 ≤ available + N * inRay j := add_nonneg (Nat.cast_nonneg _) hw
  have hrounded : 1 / RAY * (available + N * inRay j) ≤ 2 := by
    rw [one_div, inv_mul_le_iff₀ hray]
    linarith
  have hyear : (SECONDS_PER_YEAR : ℚ) = 31536000 := by norm_num [SECONDS_PER_YEAR]
  -- it is enough to bound the gross interest
  suffices hgross : inRay o * inRay u * (available + N * inRay j)
      ≤ inRay rates.2 * (N * inRay j) + 2 * 10 ^ 6 by
    have hrates := mul_le_mul_of_nonneg_right c.liquidityRate_le hfunds
    have hshare := mul_le_mul_of_nonneg_left hgross hpart
    have hloss := mul_le_of_le_one_left (by norm_num : (0 : ℚ) ≤ 2 * 10 ^ 6) hpart'
    have hexpand : ((1 - treasuryPart reserveFactor) * (inRay o * inRay u) + 1 / RAY)
          * (available + N * inRay j)
        = (1 - treasuryPart reserveFactor) * (inRay o * inRay u * (available + N * inRay j))
          + 1 / RAY * (available + N * inRay j) := by ring
    rw [hexpand] at hrates
    rw [mul_add] at hshare
    linarith
  have hborrow : 0 ≤ inRay rates.2 * (N * inRay j) := mul_nonneg (inRay_nonneg _) hw
  rcases Nat.eq_zero_or_pos debt with hzero | hpos
  · -- nothing was lent
    have hu := c.utilization
    rw [utilizationRate, if_pos hzero] at hu
    obtain rfl := Except.ok.inj hu
    simp only [inRay, Nat.cast_zero, zero_div, mul_zero, zero_mul]
    exact add_nonneg hborrow (by norm_num)
  · have hdebt : (1 : ℚ) ≤ debt := by exact_mod_cast hpos
    have hgrown : N * inRay jp ≤ N * inRay j :=
      mul_le_mul_of_nonneg_left (inRay_mono hj) (Nat.cast_nonneg _)
    have hd' : (debt : ℚ) ≤ N * inRay j + 1 / 2 := (rayMul_le hd).trans (by linarith)
    -- the part that is lent, with the debt as it is now
    have hlent := Pool.utilized_le (Nat.cast_nonneg available) hw (by norm_num)
      (by positivity) (utilization_le c.utilization) hd' (Nat.cast_nonneg debt)
    have hlent' : inRay u * (available + N * inRay j) ≤ N * inRay j + 3 / 2 := by
      have hhalf : 1 / (2 * RAY) * (available + N * inRay j)
          = 1 / RAY * (available + N * inRay j) / 2 := by ring
      rw [hhalf] at hlent
      linarith
    -- the overall rate is a little above the borrow rate, which is then charged on the debt
    have hoverall := overall_le hpos.ne' c.overallRate
    have hless := owed_div_le hd hpos hjp hfits
    have hcharged : inRay o * (N * inRay j + 3 / 2) ≤ (inRay rates.2
        + 1 / (2 * debt * WAD_RAY_RATIO) + 1 / (2 * RAY)) * (N * inRay j + 3 / 2) :=
      mul_le_mul_of_nonneg_right hoverall (by linarith)
    have hsmall : 1 / (2 * RAY) * (N * inRay j) ≤ (1 : ℚ) := by
      rw [one_div, inv_mul_le_iff₀ (by positivity)]
      linarith
    have hsmall' : (1 : ℚ) / (2 * debt * WAD_RAY_RATIO) ≤ 1 := by
      rw [div_le_one (by norm_num [ WAD_RAY_RATIO]; linarith)]
      norm_num [ WAD_RAY_RATIO]
      linarith
    have hsmall'' : (1 : ℚ) / (2 * RAY) ≤ 1 := by norm_num [RAY]
    have hexpand : (inRay rates.2 + 1 / (2 * debt * WAD_RAY_RATIO) + 1 / (2 * RAY))
          * (N * inRay j + 3 / 2)
        = inRay rates.2 * (N * inRay j) + N * inRay j / (2 * debt * WAD_RAY_RATIO)
          + 1 / (2 * RAY) * (N * inRay j)
          + 3 / 2 * (inRay rates.2 + 1 / (2 * debt * WAD_RAY_RATIO) + 1 / (2 * RAY)) := by ring
    rw [hexpand] at hcharged
    calc inRay o * inRay u * (available + N * inRay j)
        = inRay o * (inRay u * (available + N * inRay j)) := by ring
      _ ≤ inRay o * (N * inRay j + 3 / 2) := mul_le_mul_of_nonneg_left hlent' (inRay_nonneg o)
      _ ≤ inRay rates.2 * (N * inRay j) + 2 * 10 ^ 6 := by linarith

end Pays

end InterestRate

/-! ## What an update adds -/

/-- The interest of a rate over a time, as a fraction. -/
def interest (rate time : ℕ) : ℚ := inRay rate * time / SECONDS_PER_YEAR

theorem interest_nonneg (rate time : ℕ) : 0 ≤ interest rate time :=
  div_nonneg (mul_nonneg (inRay_nonneg _) (Nat.cast_nonneg _)) (Nat.cast_nonneg _)

section Update

variable {R : ReserveData} {N now i j m reserveFactor : ℕ}

/-- The suppliers get the interest of the liquidity rate. -/
theorem ReserveData.NextLiquidityIndex.inRay_le (h : R.NextLiquidityIndex now i)
    (hrate : R.currentLiquidityRate ≠ 0) : inRay i ≤ inRay R.liquidityIndex
      * (1 + interest R.currentLiquidityRate (now - R.lastUpdateTimestamp)) + 1 / (2 * RAY) := by
  obtain ⟨f, hf, hi⟩ := h.2 hrate
  obtain ⟨-, rfl⟩ := calculateLinearInterest_spec hf
  have hray := RAY_cast_pos
  have hle := rayMul_le hi
  have hfloor := Nat.cast_div_le (α := ℚ)
    (m := R.currentLiquidityRate * (now - R.lastUpdateTimestamp)) (n := SECONDS_PER_YEAR)
  rw [Nat.cast_mul] at hfloor
  have hgrowth : ((R.currentLiquidityRate * (now - R.lastUpdateTimestamp) / SECONDS_PER_YEAR
      + RAY : ℕ) : ℚ) ≤ RAY
        * (1 + interest R.currentLiquidityRate (now - R.lastUpdateTimestamp)) := by
    have hexpand : RAY * (1 + interest R.currentLiquidityRate (now - R.lastUpdateTimestamp))
        = R.currentLiquidityRate * (now - R.lastUpdateTimestamp : ℕ) / SECONDS_PER_YEAR + RAY := by
      unfold interest inRay
      field_simp
      ring
    rw [hexpand]
    push_cast
    exact add_le_add_left hfloor _
  have hscaled := mul_le_mul_of_nonneg_right hgrowth (inRay_nonneg R.liquidityIndex)
  rw [inRay, div_le_iff₀ hray]
  calc (i : ℚ) ≤ RAY * (1 + interest R.currentLiquidityRate (now - R.lastUpdateTimestamp))
        * inRay R.liquidityIndex + 1 / 2 := by linarith
    _ = _ := by field_simp

/-- The borrowers are charged the interest of the borrow rate, but for the part of a rate that does
not make up a second. -/
theorem ReserveData.NextBorrowIndex.le_inRay (h : R.NextBorrowIndex N now j)
    (hrate : R.currentLiquidityRate ≠ 0) (howed : N * inRay R.variableBorrowIndex ≤ RAY)
    (hindex : RAY ≤ R.variableBorrowIndex) :
    N * inRay R.variableBorrowIndex + interest R.currentVariableBorrowRate
        (now - R.lastUpdateTimestamp) * (N * inRay R.variableBorrowIndex)
      ≤ N * inRay j + ((now - R.lastUpdateTimestamp : ℕ) + 1 / 2) := by
  have hray := RAY_cast_pos
  rcases Nat.eq_zero_or_pos N with hzero | hpos
  · simp only [hzero, Nat.cast_zero, zero_mul, mul_zero, zero_add]
    positivity
  obtain ⟨g, hg, hj⟩ := h.2 hrate hpos.ne'
  obtain ⟨-, -, more, hgrowth, -⟩ := calculateCompoundedInterest_spec hg
  -- the growth, with the rate by the second cut off
  have hsecond : (R.currentVariableBorrowRate : ℚ) / SECONDS_PER_YEAR - 1
      ≤ (R.currentVariableBorrowRate / SECONDS_PER_YEAR : ℕ) := by
    have hlt := Nat.lt_div_mul_add (b := SECONDS_PER_YEAR) (by decide)
      (a := R.currentVariableBorrowRate)
    have hlt' : (R.currentVariableBorrowRate : ℚ)
        < (R.currentVariableBorrowRate / SECONDS_PER_YEAR : ℕ) * SECONDS_PER_YEAR
          + SECONDS_PER_YEAR := by exact_mod_cast hlt
    have hyear : (0 : ℚ) < SECONDS_PER_YEAR := by norm_num [SECONDS_PER_YEAR]
    rw [sub_le_iff_le_add, div_le_iff₀ hyear]
    linarith
  have htime := mul_le_mul_of_nonneg_right hsecond
    (Nat.cast_nonneg (α := ℚ) (now - R.lastUpdateTimestamp))
  have hg' : RAY * (1 + interest R.currentVariableBorrowRate (now - R.lastUpdateTimestamp))
      - (now - R.lastUpdateTimestamp : ℕ) ≤ (g : ℚ) := by
    have hexpand : RAY * (1 + interest R.currentVariableBorrowRate (now - R.lastUpdateTimestamp))
        = RAY + R.currentVariableBorrowRate / SECONDS_PER_YEAR
          * (now - R.lastUpdateTimestamp : ℕ) := by
      unfold interest inRay
      field_simp
    rw [hgrowth, hexpand]
    have hmore : (0 : ℚ) ≤ more := Nat.cast_nonneg _
    push_cast
    linarith
  have hscaled := mul_le_mul_of_nonneg_right hg' (inRay_nonneg R.variableBorrowIndex)
  have hj' : (RAY * (1 + interest R.currentVariableBorrowRate (now - R.lastUpdateTimestamp))
        - (now - R.lastUpdateTimestamp : ℕ)) * inRay R.variableBorrowIndex
      ≤ inRay j * RAY + 1 / 2 := by
    rw [inRay_mul_RAY]
    exact hscaled.trans (le_rayMul_add hj)
  -- in tokens: of what is owed, and of the scaled debt itself, there is at most one ray
  have htokens := mul_le_mul_of_nonneg_left hj'
    (div_nonneg (Nat.cast_nonneg (α := ℚ) N) hray.le)
  have hleft : N / RAY * ((RAY * (1 + interest R.currentVariableBorrowRate
        (now - R.lastUpdateTimestamp)) - (now - R.lastUpdateTimestamp : ℕ))
          * inRay R.variableBorrowIndex)
      = N * inRay R.variableBorrowIndex + interest R.currentVariableBorrowRate
          (now - R.lastUpdateTimestamp) * (N * inRay R.variableBorrowIndex)
        - (now - R.lastUpdateTimestamp : ℕ) * (N * inRay R.variableBorrowIndex / RAY) := by
    field_simp
  have hright : (N : ℚ) / RAY * (inRay j * RAY + 1 / 2) = N * inRay j + N / RAY / 2 := by
    field_simp
  rw [hleft, hright] at htokens
  have hN : (N : ℚ) / RAY ≤ 1 := by
    rw [div_le_one hray]
    exact (le_mul_of_one_le_right (Nat.cast_nonneg _) (one_le_inRay hindex)).trans howed
  have hcut : (now - R.lastUpdateTimestamp : ℕ) * (N * inRay R.variableBorrowIndex / RAY)
      ≤ ((now - R.lastUpdateTimestamp : ℕ) : ℚ) :=
    mul_le_of_le_one_right (Nat.cast_nonneg _) (by rw [div_le_one hray]; exact howed)
  linarith

/-- The treasury gets its part of what the borrowers were charged. -/
theorem ReserveData.amountToMint_le (h : R.amountToMint N i j = .ok m)
    (hpart : ReserveConfiguration.getReserveFactor R.configuration ≤ PERCENTAGE_FACTOR)
    (hij : i ≤ j) : (m : ℚ) ≤ treasuryPart (ReserveConfiguration.getReserveFactor R.configuration)
      * (N * inRay j - N * inRay i) + 3 / 2 := by
  have hnonneg := treasuryPart_nonneg (ReserveConfiguration.getReserveFactor R.configuration)
  have hgrown : 0 ≤ N * inRay j - N * inRay i :=
    sub_nonneg.mpr (mul_le_mul_of_nonneg_left (inRay_mono hij) (Nat.cast_nonneg _))
  unfold amountToMint at h
  dsimp only at h
  split at h
  · rw [← Except.ok.inj h, Nat.cast_zero]
    exact add_nonneg (mul_nonneg hnonneg hgrown) (by norm_num)
  · obtain ⟨previous, hprevious, h⟩ := bind_eq_ok.mp h
    obtain ⟨current, hcurrent, h⟩ := bind_eq_ok.mp h
    obtain ⟨accrued, haccrued, h⟩ := bind_eq_ok.mp h
    obtain ⟨hle, rfl⟩ := checkedSub_eq_ok.mp haccrued
    have hround := divHalfUp_le_div ((current - previous)
      * ReserveConfiguration.getReserveFactor R.configuration) (d := PERCENTAGE_FACTOR) (by decide)
    rw [← unitMul_spec h, Nat.cast_mul, Nat.cast_sub hle, mul_div_assoc] at hround
    have hcharged : (current : ℚ) - previous ≤ N * inRay j - N * inRay i + 1 := by
      linarith [rayMul_le hcurrent, le_rayMul_add hprevious]
    have hshare := mul_le_mul_of_nonneg_right hcharged hnonneg
    rw [add_mul, one_mul] at hshare
    change (m : ℚ) ≤ _ * treasuryPart _ + _ at hround
    linarith [treasuryPart_le_one hpart]

end Update

/-! ## A reserve as a pool -/

namespace ReserveData

variable {R R' : ReserveData} {S S' N i j m now : ℕ} {a k : ℚ}

/-- A reserve with `S` scaled uTokens and a scaled debt of `N`, of which `a` can be paid out. -/
def lent (R : ReserveData) (S N : ℕ) (a : ℚ) : Pool ℚ where
  supply := S
  index := inRay R.liquidityIndex
  debt := N
  debtIndex := inRay R.variableBorrowIndex
  available := a

theorem lent_funds : (R.lent S N a).funds = a + N * inRay R.variableBorrowIndex := rfl

/-- What is covered stays so when there is more to pay from. -/
theorem covered_of_le {a' : ℚ} (h : (R.lent S N a).Covered k) (ha : a ≤ a') :
    (R.lent S N a').Covered k := by
  refine h.funded rfl rfl ?_
  rw [lent_funds, lent_funds]
  exact add_le_add_left ha _

/-- Nothing is promised to the suppliers; or what is was computed for `a` and the debt, at an index
that was no higher and a reserve factor that was no lower. -/
def RatesFrom (R : ReserveData) (N : ℕ) (a : ℕ) : Prop :=
  R.currentLiquidityRate = 0 ∨ ∃ ir u o debt jp reserveFactor,
    InterestRate.Computed ir a debt reserveFactor u o
      (R.currentLiquidityRate, R.currentVariableBorrowRate) ∧
    rayMul N jp = .ok debt ∧ RAY ≤ jp ∧ jp ≤ R.variableBorrowIndex ∧
    ReserveConfiguration.getReserveFactor R.configuration ≤ reserveFactor

/-- The scaled uTokens that are new are the treasury's, for the amount `m`. -/
def TreasuryPaid (S S' i m : ℕ) : Prop := (m = 0 ∧ S' = S) ∨ ∃ n, rayDiv m i = .ok n ∧ S' = S + n

theorem TreasuryPaid.claims_le (h : TreasuryPaid S S' i m) :
    S' * inRay i ≤ S * inRay i + m + inRay i / 2 := by
  rcases h with ⟨rfl, rfl⟩ | ⟨n, hn, rfl⟩
  · have hindex := inRay_nonneg i
    simp only [Nat.cast_zero, add_zero]
    linarith
  · have hn' := rayDiv_mul_le hn
    rw [Nat.cast_add, add_mul]
    linarith

/-- The shares that an update may leave uncovered. -/
def accrualLoss (R : ReserveData) (now : ℕ) : ℚ :=
  if R.currentLiquidityRate = 0 then 0 else 3 + 2 * (now - R.lastUpdateTimestamp : ℕ)

/-- **Bringing a reserve up to date** leaves two shares uncovered for every second, and three. -/
theorem covered_accrued (h : (R.lent S N a).Covered k) (hk : 0 ≤ k) {available : ℕ}
    (ha : a = available) (hrates : R.RatesFrom N available)
    (hi : R.NextLiquidityIndex now i) (hj : R.NextBorrowIndex N now j)
    (hmint : (R.withIndices i j now).amountToMint N R.variableBorrowIndex j = .ok m)
    (hpaid : TreasuryPaid S S' i m) (hindex : RAY ≤ R.liquidityIndex)
    (hindex' : RAY ≤ R.variableBorrowIndex) (hfits : R.variableBorrowIndex ≤ maxUint128)
    (hsupply : S ≤ RAY) (havailable : available ≤ RAY)
    (howed : N * inRay R.variableBorrowIndex ≤ RAY)
    (hrate : inRay R.currentVariableBorrowRate ≤ 10 ^ 6) :
    ((R.withIndices i j now).lent S' N a).Covered (k + R.accrualLoss now) := by
  unfold accrualLoss
  by_cases hzero : R.currentLiquidityRate = 0
  · -- nothing grows, and so nothing is minted
    obtain rfl := hi.1 hzero
    obtain rfl := hj.1 (.inl hzero)
    have hm : m = 0 := by
      unfold amountToMint at hmint
      dsimp only at hmint
      split at hmint
      · exact (Except.ok.inj hmint).symm
      · obtain ⟨d, hd, hmint⟩ := bind_eq_ok.mp hmint
        obtain ⟨d', hd', hmint⟩ := bind_eq_ok.mp hmint
        obtain rfl := Except.ok.inj (hd.symm.trans hd')
        obtain ⟨accrued, haccrued, hmint⟩ := bind_eq_ok.mp hmint
        obtain ⟨-, rfl⟩ := checkedSub_eq_ok.mp haccrued
        rw [unitMul_spec hmint, Nat.sub_self, Nat.zero_mul, divHalfUp_zero]
    have hS : S' = S := by
      rcases hpaid with ⟨-, hS⟩ | ⟨n, hn, hS⟩
      · exact hS
      · rw [hS, (rayDiv_spec hn).2, hm, Nat.zero_mul, divHalfUp_zero, Nat.add_zero]
    rw [if_pos hzero, add_zero, hS]
    exact h
  · rw [if_neg hzero]
    obtain ⟨ir, u, o, debt, jp, reserveFactor, hc, hd, hjp, hle, hfactor⟩ :=
      hrates.resolve_left hzero
    have hray := RAY_cast_pos
    have hone : 1 ≤ inRay i := one_le_inRay (hindex.trans hi.le)
    have hfactor' := hfactor.trans hc.factor
    have hgrown : (R.lent S N a).owed ≤ ((R.withIndices i j now).lent S' N a).owed :=
      mul_le_mul_of_nonneg_left (inRay_mono hj.le) (Nat.cast_nonneg _)
    have howed' : 0 ≤ (R.lent S N a).owed := mul_nonneg (Nat.cast_nonneg _) (inRay_nonneg _)
    have hfunds : (R.lent S N a).funds = available + N * inRay R.variableBorrowIndex := by
      rw [lent_funds, ha]
    -- the rates, over the time that has passed
    have hpays : interest R.currentLiquidityRate (now - R.lastUpdateTimestamp)
          * (R.lent S N a).funds
        ≤ (1 - treasuryPart (ReserveConfiguration.getReserveFactor R.configuration))
            * (interest R.currentVariableBorrowRate (now - R.lastUpdateTimestamp)
              * (R.lent S N a).owed) + (now - R.lastUpdateTimestamp : ℕ) := by
      have hyear : (0 : ℚ) < SECONDS_PER_YEAR := by norm_num [SECONDS_PER_YEAR]
      have hcharged : 0 ≤ inRay R.currentVariableBorrowRate * (N * inRay R.variableBorrowIndex) :=
        mul_nonneg (inRay_nonneg _) howed'
      have hless : (1 - treasuryPart reserveFactor)
            * (inRay R.currentVariableBorrowRate * (N * inRay R.variableBorrowIndex))
          ≤ (1 - treasuryPart (ReserveConfiguration.getReserveFactor R.configuration))
            * (inRay R.currentVariableBorrowRate * (N * inRay R.variableBorrowIndex)) :=
        mul_le_mul_of_nonneg_right (sub_le_sub_left (treasuryPart_mono hfactor) 1) hcharged
      have hrates' := (hc.pays hd hjp hle hfits havailable howed hrate).trans
        (add_le_add_left hless _)
      have htime := mul_le_mul_of_nonneg_right hrates'
        (div_nonneg (Nat.cast_nonneg (α := ℚ) (now - R.lastUpdateTimestamp)) hyear.le)
      rw [hfunds]
      unfold interest
      refine le_trans (le_of_eq ?_) (htime.trans (le_of_eq ?_))
      · ring
      · change _ = _ * (_ * (N * inRay R.variableBorrowIndex)) + _
        field_simp
    -- what the treasury gets is new supply
    have hclaims : ((R.withIndices i j now).lent S' N a).claims
        ≤ (R.lent S N a).supply * ((R.withIndices i j now).lent S' N a).index
          + treasuryPart (ReserveConfiguration.getReserveFactor R.configuration)
            * (((R.withIndices i j now).lent S' N a).owed - (R.lent S N a).owed)
          + 2 * ((R.withIndices i j now).lent S' N a).index := by
      have hsupplied := hpaid.claims_le
      have htreasury := amountToMint_le hmint hfactor' hj.le
      change (S' : ℚ) * inRay i ≤ S * inRay i
        + treasuryPart (ReserveConfiguration.getReserveFactor R.configuration)
          * (N * inRay j - N * inRay R.variableBorrowIndex) + 2 * inRay i
      change (m : ℚ) ≤ treasuryPart (ReserveConfiguration.getReserveFactor R.configuration) * _ + _
        at htreasury
      linarith
    have hcovered : ((R.withIndices i j now).lent S' N a).Covered (k + (S * (1 / (2 * RAY))
        + ((now - R.lastUpdateTimestamp : ℕ) + 1 / 2) + 2 + (now - R.lastUpdateTimestamp : ℕ))) :=
      h.accrued hk (interest_nonneg _ _) (treasuryPart_nonneg _) (treasuryPart_le_one hfactor')
        (by positivity) (by positivity) (Nat.cast_nonneg _) (Nat.cast_nonneg _)
        (by rw [ha]; exact Nat.cast_nonneg _) howed' (hi.inRay_le hzero) hone
        (hj.le_inRay hzero howed hindex') hgrown hclaims hpays rfl
    refine hcovered.weaken (inRay_nonneg _) ?_
    have hS : (S : ℚ) * (1 / (2 * RAY)) ≤ 1 / 2 := by
      have hS' : (S : ℚ) ≤ RAY := by exact_mod_cast hsupply
      rw [mul_one_div, div_le_iff₀ (by positivity)]
      linarith
    linarith

end ReserveData

end Unlockd

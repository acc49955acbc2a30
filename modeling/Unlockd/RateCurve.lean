/-
The curve of interest rates.

The borrow rate starts at a base and climbs with the share of the reserve that is lent out: along a
first slope up to the optimal share, along a second one beyond it. The code reads the first slope
off in two roundings, a product with the share and a quotient by the optimal share, and the second
of them magnifies what the first has added. So just below the kink the rate can be above the point
at which the second slope starts.

The rate is a function of the share alone, so everything about the curve is proved of that function
first. Then come the conditions under which a rate can be computed at all.
-/
import Unlockd.Words

set_option autoImplicit false

namespace Unlockd

open Outcome FixedPoint

namespace InterestRate

/-- The constructor of `InterestRate.sol`, and `configInterestRate`. -/
def config (optimalUtilizationRate baseVariableBorrowRate variableRateSlope1
    variableRateSlope2 : ℕ) : Except Error InterestRate := do
  let excess ← checkedSub RAY optimalUtilizationRate
  return ⟨optimalUtilizationRate, excess, baseVariableBorrowRate, variableRateSlope1,
    variableRateSlope2⟩

/-- The setting of the administration is this one. -/
theorem configure_configInterestRate (D : Deployment) (s : State) (a : Address) (o b s₁ s₂ : ℕ) :
    s.configure D (.configInterestRate a o b s₁ s₂) = (do
      let ir ← config o b s₁ s₂
      return { s with interestRates := Function.update s.interestRates a ir }) := by
  show (checkedSub RAY o >>= _) = ((checkedSub RAY o >>= _) >>= _)
  cases checkedSub RAY o <;> rfl

/-- `getMaxVariableBorrowRate`. -/
def getMaxVariableBorrowRate (ir : InterestRate) : ℕ :=
  ir.baseVariableBorrowRate + ir.variableRateSlope1 + ir.variableRateSlope2

variable {ir : InterestRate} {u u' r r' liquidity liquidity' debt debt' reserveFactor : ℕ}
  {rates rates' : ℕ × ℕ}

/-- What a configuration that is accepted satisfies. -/
theorem config_spec {o b s₁ s₂ : ℕ} (h : config o b s₁ s₂ = .ok ir) :
    ir = ⟨o, RAY - o, b, s₁, s₂⟩ ∧ o ≤ RAY := by
  obtain ⟨_, hexcess, h⟩ := bind_eq_ok.mp h
  obtain ⟨hle, rfl⟩ := checkedSub_eq_ok.mp hexcess
  exact ⟨(Except.ok.inj h).symm, hle⟩

/-! ## The share that is lent out -/

/-- Never more than everything is lent out. -/
theorem utilizationRate_le (h : utilizationRate liquidity debt = .ok u) : u ≤ RAY := by
  unfold utilizationRate at h
  split at h
  · rw [← Except.ok.inj h]
    exact Nat.zero_le _
  · obtain ⟨hpos, rfl⟩ := rayDiv_spec h
    calc divHalfUp (debt * RAY) (liquidity + debt)
        ≤ divHalfUp (RAY * (liquidity + debt)) (liquidity + debt) := by
          rw [Nat.mul_comm]
          exact divHalfUp_mono (Nat.mul_le_mul_left RAY (Nat.le_add_left _ _)) _
      _ = RAY := divHalfUp_mul_self RAY hpos

/-- More debt and less liquidity is a larger share. -/
theorem utilizationRate_mono (hdebt : debt ≤ debt') (hliquidity : liquidity' ≤ liquidity)
    (h : utilizationRate liquidity debt = .ok u) (h' : utilizationRate liquidity' debt' = .ok u') :
    u ≤ u' := by
  unfold utilizationRate at h h'
  split at h
  · rw [← Except.ok.inj h]
    exact Nat.zero_le _
  · rename_i hne
    rw [if_neg (by omega)] at h'
    obtain ⟨hpos, rfl⟩ := rayDiv_spec h
    obtain ⟨hpos', rfl⟩ := rayDiv_spec h'
    -- both are shares of one ray, so the fractions are compared crosswise
    apply divHalfUp_cross_mono hpos hpos'
    have hcross : debt * (liquidity' + debt') ≤ debt' * (liquidity + debt) := by
      have hmul := Nat.mul_le_mul hdebt hliquidity
      rw [Nat.mul_add, Nat.mul_add, Nat.mul_comm debt' debt]
      omega
    calc debt * RAY * (liquidity' + debt') = debt * (liquidity' + debt') * RAY := by ring
      _ ≤ debt' * (liquidity + debt) * RAY := Nat.mul_le_mul_right RAY hcross
      _ = debt' * RAY * (liquidity + debt) := by ring

/-! ## The two slopes -/

/-- What the first slope adds to the base at a share. -/
def below (ir : InterestRate) (u : ℕ) : ℕ :=
  divHalfUp (divHalfUp (u * ir.variableRateSlope1) RAY * RAY) ir.OPTIMAL_UTILIZATION_RATE

/-- What the second slope adds to the first at a share. -/
def above (ir : InterestRate) (u : ℕ) : ℕ :=
  divHalfUp (ir.variableRateSlope2
    * divHalfUp ((u - ir.OPTIMAL_UTILIZATION_RATE) * RAY) ir.EXCESS_UTILIZATION_RATE) RAY

theorem variableBorrowRate_spec (h : ir.variableBorrowRate u = .ok r) :
    r = ir.baseVariableBorrowRate + if u > ir.OPTIMAL_UTILIZATION_RATE
      then ir.variableRateSlope1 + ir.above u else ir.below u := by
  unfold variableBorrowRate at h
  split at h
  · rename_i hgt
    obtain ⟨_, hratio, h⟩ := bind_eq_ok.mp h
    obtain ⟨_, hexcess, h⟩ := bind_eq_ok.mp h
    rw [← Except.ok.inj h, if_pos hgt, rayMul_spec hexcess, (rayDiv_spec hratio).2, Nat.add_assoc]
    rfl
  · rename_i hle
    obtain ⟨_, hscaled, h⟩ := bind_eq_ok.mp h
    obtain ⟨_, hslope, h⟩ := bind_eq_ok.mp h
    rw [← Except.ok.inj h, if_neg hle, (rayDiv_spec hslope).2, rayMul_spec hscaled]
    rfl

theorem below_mono (ir : InterestRate) (h : u ≤ u') : ir.below u ≤ ir.below u' := by
  apply divHalfUp_mono
  apply Nat.mul_le_mul_right
  exact divHalfUp_mono (Nat.mul_le_mul_right _ h) RAY

theorem above_mono (ir : InterestRate) (h : u ≤ u') : ir.above u ≤ ir.above u' := by
  apply divHalfUp_mono
  apply Nat.mul_le_mul_left
  apply divHalfUp_mono
  exact Nat.mul_le_mul_right RAY (Nat.sub_le_sub_right h _)

/-- The second slope adds at most all of itself. -/
theorem above_le (hexcess : ir.EXCESS_UTILIZATION_RATE = RAY - ir.OPTIMAL_UTILIZATION_RATE)
    (hkink : ir.OPTIMAL_UTILIZATION_RATE < RAY) (hu : u ≤ RAY) :
    ir.above u ≤ ir.variableRateSlope2 := by
  have hpos : 0 < ir.EXCESS_UTILIZATION_RATE := by omega
  have hratio : divHalfUp ((u - ir.OPTIMAL_UTILIZATION_RATE) * RAY) ir.EXCESS_UTILIZATION_RATE
      ≤ RAY := by
    rw [Nat.mul_comm]
    calc _ ≤ divHalfUp (RAY * ir.EXCESS_UTILIZATION_RATE) ir.EXCESS_UTILIZATION_RATE :=
          divHalfUp_mono (Nat.mul_le_mul_left RAY (by omega)) _
      _ = RAY := divHalfUp_mul_self RAY hpos
  exact divHalfUp_mul_le_self RAY_pos hratio _

/-! ## The kink -/

/-- What the roundings of the first slope add to it at the optimal share. -/
def overshoot (ir : InterestRate) : ℕ :=
  divHalfUp (gain (ir.OPTIMAL_UTILIZATION_RATE * ir.variableRateSlope1) RAY).toNat
    ir.OPTIMAL_UTILIZATION_RATE

/-- What the second slope adds in its first step. -/
def firstStep (ir : InterestRate) : ℕ :=
  divHalfUp (ir.variableRateSlope2 * divHalfUp RAY ir.EXCESS_UTILIZATION_RATE) RAY

/-- The roundings of the first slope add no more than the first step of the second. -/
def KinkOrdered (ir : InterestRate) : Prop := ir.overshoot ≤ ir.firstStep

instance (ir : InterestRate) : Decidable ir.KinkOrdered :=
  inferInstanceAs (Decidable (_ ≤ _))

/-- At the kink the first slope exceeds itself by the overshoot. -/
theorem below_kink_le_iff (hpos : 0 < ir.OPTIMAL_UTILIZATION_RATE) (step : ℕ) :
    ir.below ir.OPTIMAL_UTILIZATION_RATE ≤ ir.variableRateSlope1 + step ↔ ir.overshoot ≤ step := by
  obtain ⟨hle, heq⟩ := divHalfUp_share_back ir.variableRateSlope1 hpos RAY_pos
  unfold below overshoot
  constructor
  · intro h
    by_cases hgain : 0 ≤ gain (ir.OPTIMAL_UTILIZATION_RATE * ir.variableRateSlope1) RAY
    · rw [heq hgain] at h
      omega
    · -- rounded down on the way, the first slope stays below itself
      rw [Int.toNat_of_nonpos (by omega), divHalfUp_zero]
      exact Nat.zero_le step
  · intro h
    omega

/-- The second slope starts with its first step. -/
theorem above_kink : ir.above (ir.OPTIMAL_UTILIZATION_RATE + 1) = ir.firstStep := by
  unfold above firstStep
  rw [Nat.add_sub_cancel_left, Nat.one_mul]

theorem firstStep_le (hexcess : ir.EXCESS_UTILIZATION_RATE = RAY - ir.OPTIMAL_UTILIZATION_RATE)
    (hkink : ir.OPTIMAL_UTILIZATION_RATE < RAY) : ir.firstStep ≤ ir.variableRateSlope2 := by
  rw [← above_kink]
  exact above_le hexcess hkink hkink

/-- **Across the kink.** With the kink in order, a larger share has no smaller rate. -/
theorem variableBorrowRate_mono (hpos : 0 < ir.OPTIMAL_UTILIZATION_RATE) (hk : ir.KinkOrdered)
    (hle : u ≤ u') (h : ir.variableBorrowRate u = .ok r) (h' : ir.variableBorrowRate u' = .ok r') :
    r ≤ r' := by
  rw [variableBorrowRate_spec h, variableBorrowRate_spec h']
  apply Nat.add_le_add_left
  by_cases hu : u > ir.OPTIMAL_UTILIZATION_RATE
  · rw [if_pos hu, if_pos (by omega)]
    exact Nat.add_le_add_left (above_mono ir hle) _
  · rw [if_neg hu]
    by_cases hu' : u' > ir.OPTIMAL_UTILIZATION_RATE
    · -- the kink lies between the two shares
      rw [if_pos hu']
      have hkink := (below_kink_le_iff hpos ir.firstStep).mpr hk
      have hbelow := below_mono ir (Nat.le_of_not_lt hu)
      have habove := above_mono ir hu'
      rw [above_kink] at habove
      omega
    · rw [if_neg hu']
      exact below_mono ir hle

/-- With the kink in order, no rate exceeds the largest. -/
theorem variableBorrowRate_le (hpos : 0 < ir.OPTIMAL_UTILIZATION_RATE)
    (hkink : ir.OPTIMAL_UTILIZATION_RATE < RAY)
    (hexcess : ir.EXCESS_UTILIZATION_RATE = RAY - ir.OPTIMAL_UTILIZATION_RATE)
    (hk : ir.KinkOrdered) (hu : u ≤ RAY) (h : ir.variableBorrowRate u = .ok r) :
    ir.baseVariableBorrowRate ≤ r ∧ r ≤ ir.getMaxVariableBorrowRate := by
  rw [variableBorrowRate_spec h]
  refine ⟨Nat.le_add_right _ _, ?_⟩
  rw [getMaxVariableBorrowRate, Nat.add_assoc]
  apply Nat.add_le_add_left
  split
  · exact Nat.add_le_add_left (above_le hexcess hkink hu) _
  · -- below the kink the second slope has to make up for the overshoot
    rename_i hle
    have hkink' := (below_kink_le_iff hpos ir.firstStep).mpr hk
    have hbelow := below_mono ir (Nat.le_of_not_lt hle)
    have hstep := firstStep_le hexcess hkink
    omega

/-! ## Both rates -/

/-- How the two rates of a reserve come about. -/
structure Computed (ir : InterestRate) (liquidity debt reserveFactor u overall : ℕ)
    (rates : ℕ × ℕ) : Prop where
  utilization : utilizationRate liquidity debt = .ok u
  borrowRate : ir.variableBorrowRate u = .ok rates.2
  overallRate : _getOverallBorrowRate debt rates.2 = .ok overall
  factor : reserveFactor ≤ PERCENTAGE_FACTOR
  liquidityRate : rates.1
    = divHalfUp (divHalfUp (overall * u) RAY * (PERCENTAGE_FACTOR - reserveFactor))
        PERCENTAGE_FACTOR

theorem calculateInterestRates_computed
    (h : ir.calculateInterestRates liquidity debt reserveFactor = .ok rates) :
    ∃ u overall, Computed ir liquidity debt reserveFactor u overall rates := by
  obtain ⟨u, hu, h⟩ := bind_eq_ok.mp h
  obtain ⟨r, hr, h⟩ := bind_eq_ok.mp h
  obtain ⟨overall, hoverall, h⟩ := bind_eq_ok.mp h
  obtain ⟨gross, hgross, h⟩ := bind_eq_ok.mp h
  obtain ⟨share, hshare, h⟩ := bind_eq_ok.mp h
  obtain ⟨l, hl, h⟩ := bind_eq_ok.mp h
  obtain rfl := Except.ok.inj h
  obtain ⟨hfactor, rfl⟩ := checkedSub_eq_ok.mp hshare
  refine ⟨u, overall, hu, hr, hoverall, hfactor, ?_⟩
  rw [unitMul_spec hl, rayMul_spec hgross]

/-- Of a debt of at least one wad the overall rate is the borrow rate. -/
theorem overall_eq (hdebt : WAD ≤ debt) (h : _getOverallBorrowRate debt r = .ok u) : u = r := by
  have hwad : 0 < WAD := by decide
  have hne : debt ≠ 0 := by omega
  unfold _getOverallBorrowRate at h
  rw [if_neg hne] at h
  obtain ⟨weight, hweight, h⟩ := bind_eq_ok.mp h
  obtain ⟨weighted, hweighted, h⟩ := bind_eq_ok.mp h
  obtain ⟨-, hweight⟩ := require_bind_eq_ok.mp hweight
  obtain rfl := Except.ok.inj hweight
  -- the weight is at least one ray, so scaling by it and back is exact
  have hray : RAY ≤ debt * WAD_RAY_RATIO := by
    calc RAY = WAD * WAD_RAY_RATIO := by decide
      _ ≤ debt * WAD_RAY_RATIO := Nat.mul_le_mul_right _ hdebt
  rw [(rayDiv_spec h).2, rayMul_spec hweighted, Nat.mul_comm (debt * WAD_RAY_RATIO)]
  exact divHalfUp_scale_unscale r RAY_pos hray

/-- **The rate of deposits** does not exceed that of loans. -/
theorem Computed.liquidity_le {overall : ℕ}
    (c : Computed ir liquidity debt reserveFactor u overall rates) (hdebt : WAD ≤ debt) :
    rates.1 ≤ rates.2 := by
  have hu := utilizationRate_le c.utilization
  have hshare : PERCENTAGE_FACTOR - reserveFactor ≤ PERCENTAGE_FACTOR := Nat.sub_le _ _
  rw [c.liquidityRate, overall_eq hdebt c.overallRate]
  calc _ ≤ divHalfUp (rates.2 * u) RAY := divHalfUp_mul_le_self (by decide) hshare _
    _ ≤ rates.2 := divHalfUp_mul_le_self RAY_pos hu _

/-- The curve has the shape it is meant to have: more debt and less liquidity never lower the borrow
rate, which lies between the base rate and the largest one; and from a debt of one wad on the
liquidity rate does not exceed it. -/
structure Shape (ir : InterestRate) : Prop where
  mono : ∀ {liquidity liquidity' debt debt' reserveFactor reserveFactor' rates rates'},
    debt ≤ debt' → liquidity' ≤ liquidity →
    ir.calculateInterestRates liquidity debt reserveFactor = .ok rates →
    ir.calculateInterestRates liquidity' debt' reserveFactor' = .ok rates' → rates.2 ≤ rates'.2
  bounds : ∀ {liquidity debt reserveFactor rates},
    ir.calculateInterestRates liquidity debt reserveFactor = .ok rates →
    ir.baseVariableBorrowRate ≤ rates.2 ∧ rates.2 ≤ ir.getMaxVariableBorrowRate
  liquidity : ∀ {liquidity debt reserveFactor rates},
    ir.calculateInterestRates liquidity debt reserveFactor = .ok rates →
    10 ^ 18 ≤ debt → reserveFactor ≤ PERCENTAGE_FACTOR → rates.1 ≤ rates.2

section Kink

variable {o b s₁ s₂ : ℕ} (haccepted : config o b s₁ s₂ = .ok ir) (hpos : 0 < o) (hkink : o < RAY)

include haccepted hpos hkink

/-- With the kink in order the curve has its shape. -/
theorem KinkOrdered.shape (hk : ir.KinkOrdered) : ir.Shape := by
  obtain ⟨rfl, -⟩ := config_spec haccepted
  refine ⟨fun hdebt hliquidity h h' => ?_, fun h => ?_, fun h hdebt _ => ?_⟩
  · obtain ⟨u, _, c⟩ := calculateInterestRates_computed h
    obtain ⟨u', _, c'⟩ := calculateInterestRates_computed h'
    have hle := utilizationRate_mono hdebt hliquidity c.utilization c'.utilization
    exact variableBorrowRate_mono hpos hk hle c.borrowRate c'.borrowRate
  · obtain ⟨u, _, c⟩ := calculateInterestRates_computed h
    exact variableBorrowRate_le hpos hkink rfl hk (utilizationRate_le c.utilization) c.borrowRate
  · obtain ⟨_, _, c⟩ := calculateInterestRates_computed h
    exact c.liquidity_le hdebt

omit haccepted hpos hkink in
/-- Of liquidity and debt that add up to one ray, the debt is the share. -/
theorem utilizationRate_of_ray {d : ℕ} (hd : 0 < d) (hle : d ≤ RAY)
    (h : utilizationRate (RAY - d) d = .ok u) : u = d := by
  unfold utilizationRate at h
  rw [if_neg (Nat.ne_of_gt hd), Nat.sub_add_cancel hle] at h
  rw [(rayDiv_spec h).2]
  exact divHalfUp_mul_self d RAY_pos

/-- If the curve has its shape, and can be computed on both sides of the kink, then the kink is in
order. -/
theorem Shape.kinkOrdered (hshape : ir.Shape) {rates rates' : ℕ × ℕ}
    (h : ir.calculateInterestRates (RAY - o) o reserveFactor = .ok rates)
    (h' : ir.calculateInterestRates (RAY - (o + 1)) (o + 1) reserveFactor = .ok rates') :
    ir.KinkOrdered := by
  -- the two states have the optimal share and the next larger one
  have hmono := hshape.mono (Nat.le_succ o) (Nat.sub_le_sub_left (Nat.le_succ o) RAY) h h'
  obtain ⟨u, _, c⟩ := calculateInterestRates_computed h
  obtain ⟨u', _, c'⟩ := calculateInterestRates_computed h'
  obtain rfl := utilizationRate_of_ray hpos hkink.le c.utilization
  obtain rfl := utilizationRate_of_ray (Nat.succ_pos u) hkink c'.utilization
  obtain ⟨rfl, -⟩ := config_spec haccepted
  rw [variableBorrowRate_spec c.borrowRate, variableBorrowRate_spec c'.borrowRate] at hmono
  dsimp only at hmono
  rw [if_neg (Nat.lt_irrefl u), if_pos (Nat.lt_succ_self u)] at hmono
  apply (below_kink_le_iff hpos _).mp
  rw [← above_kink]
  exact Nat.le_of_add_le_add_left hmono

/-- **The shape of the rate curve.** For every configuration that is accepted with an optimal share
strictly between nothing and everything, the curve has its shape if the roundings of the first slope
are in order with the second; and only then, as far as it can be computed at the kink. -/
theorem shape_iff_kinkOrdered :
    (ir.KinkOrdered → ir.Shape) ∧
      ∀ reserveFactor,
        (∃ rates, ir.calculateInterestRates (RAY - o) o reserveFactor = .ok rates) →
        (∃ rates, ir.calculateInterestRates (RAY - (o + 1)) (o + 1) reserveFactor = .ok rates) →
        (ir.Shape ↔ ir.KinkOrdered) := by
  have hshape := KinkOrdered.shape haccepted hpos hkink
  refine ⟨hshape, fun reserveFactor h h' => ⟨fun hs => ?_, hshape⟩⟩
  obtain ⟨_, h⟩ := h
  obtain ⟨_, h'⟩ := h'
  exact hs.kinkOrdered haccepted hpos hkink h h'

end Kink

/-- An optimal share of 80%, a first slope of 10% and a second one of 300%. -/
theorem shape_iff_kinkOrdered_sample :
    (⟨8 * 10 ^ 26, 2 * 10 ^ 26, 0, 10 ^ 26, 3 * 10 ^ 27⟩ : InterestRate).Shape :=
  have haccepted : config (8 * 10 ^ 26) 0 (10 ^ 26) (3 * 10 ^ 27) = .ok _ := rfl
  (shape_iff_kinkOrdered haccepted (by decide) (by decide)).1 (by decide +kernel)

/-- **More debt can lower the rate**: with a first slope of two parts more and a second one of 5%,
one more part of the reserve lent out at the kink. -/
theorem shape_fails :
    ∃ ir rates rates', config (8 * 10 ^ 26) 0 (10 ^ 26 + 2) (5 * 10 ^ 25) = .ok ir ∧
      ir.calculateInterestRates (2 * 10 ^ 26) (8 * 10 ^ 26) 0 = .ok rates ∧
      ir.calculateInterestRates (2 * 10 ^ 26 - 1) (8 * 10 ^ 26 + 1) 0 = .ok rates' ∧
      rates'.2 < rates.2 :=
  ⟨⟨8 * 10 ^ 26, 2 * 10 ^ 26, 0, 10 ^ 26 + 2, 5 * 10 ^ 25⟩,
    (80000000000000000000000002, 100000000000000000000000003),
    (80000000000000000000000002, 100000000000000000000000002), rfl,
    eq_ok_of_toOption (by decide +kernel), eq_ok_of_toOption (by decide +kernel), by decide⟩

/-! ## Configurations under which the rates can be computed

The share is at most one, so the branch beyond the optimal share is never taken with nothing left
beyond it. The other branch divides by the optimal share, which may have been configured as zero;
and the share of the treasury is subtracted from the whole, which it may exceed. -/

/-- Parameters of the size that rates have. -/
structure Moderate (ir : InterestRate) : Prop where
  base : ir.baseVariableBorrowRate ≤ 10 ^ 30
  slope1 : ir.variableRateSlope1 ≤ 10 ^ 30
  slope2 : ir.variableRateSlope2 ≤ 10 ^ 30

/-- The share of the treasury is a share; and with an optimal share of zero, at least half a part in
a ray of the reserve is lent out. -/
def Priced (optimalUtilizationRate reserveFactor liquidity debt : ℕ) : Prop :=
  reserveFactor ≤ PERCENTAGE_FACTOR ∧
    (optimalUtilizationRate = 0 → 0 < debt ∧ liquidity + debt ≤ 2 * (debt * RAY))

/-- A share of the reserve can always be computed. -/
theorem utilizationRate_ok (hliquidity : liquidity ≤ 10 ^ 36) (hdebt : debt ≤ 10 ^ 36) :
    ∃ u, utilizationRate liquidity debt = .ok u := by
  unfold utilizationRate
  split
  · exact ⟨0, rfl⟩
  · rename_i hne
    refine ⟨_, unitDiv_ok RAY_pos (by omega) ?_⟩
    have hproduct : debt * RAY ≤ 10 ^ 36 * RAY := Nat.mul_le_mul_right RAY hdebt
    have hfits : 10 ^ 36 * RAY + 10 ^ 36 ≤ maxUint256 := by decide
    omega

theorem utilizationRate_pos_iff (h : utilizationRate liquidity debt = .ok u) :
    0 < u ↔ 0 < debt ∧ liquidity + debt ≤ 2 * (debt * RAY) := by
  unfold utilizationRate at h
  split at h
  · rw [← Except.ok.inj h]
    omega
  · obtain ⟨hpos, rfl⟩ := rayDiv_spec h
    rw [divHalfUp_pos_iff hpos]
    omega

section Moderate

variable {o b s₁ s₂ : ℕ} (haccepted : config o b s₁ s₂ = .ok ir) (hm : ir.Moderate)

include haccepted hm

/-- **The borrow rate** can be computed unless the first slope is to end at nothing lent out. -/
theorem variableBorrowRate_ok_iff (hu : u ≤ RAY) :
    (∃ r, ir.variableBorrowRate u = .ok r) ↔ (o = 0 → 0 < u) := by
  obtain ⟨rfl, ho⟩ := config_spec haccepted
  constructor
  · -- a share of zero takes the first branch, which divides by the optimal share
    rintro ⟨r, hr⟩ rfl
    apply Nat.pos_of_ne_zero
    rintro rfl
    obtain ⟨_, -, hr⟩ := bind_eq_ok.mp hr
    obtain ⟨_, hslope, -⟩ := bind_eq_ok.mp hr
    exact Nat.lt_irrefl 0 (rayDiv_spec hslope).1
  · intro hpos
    unfold variableBorrowRate
    by_cases hgt : u > o
    · rw [if_pos hgt]
      have hratio : rayDiv (u - o) (RAY - o) = .ok (divHalfUp ((u - o) * RAY) (RAY - o)) := by
        apply unitDiv_ok RAY_pos (by omega)
        have hproduct : (u - o) * RAY ≤ RAY * RAY := Nat.mul_le_mul_right RAY (by omega)
        have hfits : RAY * RAY + RAY ≤ maxUint256 := by decide
        omega
      have hle : divHalfUp ((u - o) * RAY) (RAY - o) ≤ RAY := by
        rw [Nat.mul_comm]
        exact divHalfUp_mul_le_self (by omega) (by omega) RAY
      have hexcess : rayMul s₂ (divHalfUp ((u - o) * RAY) (RAY - o)) = .ok _ := unitMul_ok <|
        (Nat.mul_le_mul hm.slope2 hle).trans (by decide)
      exact ⟨_, bind_eq_ok.mpr ⟨_, hratio, bind_eq_ok.mpr ⟨_, hexcess, rfl⟩⟩⟩
    · rw [if_neg hgt]
      have hscaled : rayMul u s₁ = .ok (divHalfUp (u * s₁) RAY) := unitMul_ok <|
        (Nat.mul_le_mul hu hm.slope1).trans (by decide)
      have hle : divHalfUp (u * s₁) RAY ≤ s₁ := by
        rw [Nat.mul_comm]
        exact divHalfUp_mul_le_self RAY_pos hu s₁
      have hslope : rayDiv (divHalfUp (u * s₁) RAY) o
          = .ok (divHalfUp (divHalfUp (u * s₁) RAY * RAY) o) := by
        apply unitDiv_ok RAY_pos (by omega)
        have hproduct : divHalfUp (u * s₁) RAY * RAY ≤ 10 ^ 30 * RAY :=
          Nat.mul_le_mul_right RAY (hle.trans hm.slope1)
        have hfits : 10 ^ 30 * RAY + RAY ≤ maxUint256 := by decide
        omega
      exact ⟨_, bind_eq_ok.mpr ⟨_, hscaled, bind_eq_ok.mpr ⟨_, hslope, rfl⟩⟩⟩

/-- And it is of the size of its parameters. -/
theorem variableBorrowRate_moderate (hu : u ≤ RAY) (h : ir.variableBorrowRate u = .ok r) :
    r ≤ 4 * 10 ^ 30 := by
  obtain ⟨rfl, ho⟩ := config_spec haccepted
  have hbase := hm.base
  have hslope1 := hm.slope1
  have hslope2 := hm.slope2
  have hray : RAY ≤ 10 ^ 30 := by decide
  rw [variableBorrowRate_spec h]
  split
  · rename_i hgt
    have habove := above_le rfl (Nat.lt_of_lt_of_le hgt hu) hu
    dsimp only at *
    omega
  · rename_i hle
    have hbelow := below_mono ⟨o, RAY - o, b, s₁, s₂⟩ (Nat.le_of_not_lt hle)
    -- the first branch was taken and has returned, so it did not divide by zero
    have hpos : 0 < o := by
      have hreturns := (variableBorrowRate_ok_iff haccepted hm hu).mp ⟨r, h⟩
      dsimp only at hle
      omega
    have hback := divHalfUp_share_back_le s₁ hpos RAY_pos
    unfold below at hbelow ⊢
    dsimp only at *
    omega

omit haccepted hm in
/-- The overall rate of a moderate rate can be computed, and is moderate. -/
theorem overall_ok (hr : r ≤ 4 * 10 ^ 30) (hdebt : debt ≤ 10 ^ 36) :
    ∃ overall, _getOverallBorrowRate debt r = .ok overall ∧ overall ≤ 5 * 10 ^ 30 := by
  unfold _getOverallBorrowRate
  split
  · exact ⟨0, rfl, Nat.zero_le _⟩
  · rename_i hne
    have hratio : 0 < WAD_RAY_RATIO := by decide
    have hweight : debt * WAD_RAY_RATIO ≤ 10 ^ 36 * WAD_RAY_RATIO := Nat.mul_le_mul_right _ hdebt
    have hpos : 0 < debt * WAD_RAY_RATIO := Nat.mul_pos (Nat.pos_of_ne_zero hne) hratio
    generalize hw : debt * WAD_RAY_RATIO = w at hweight hpos
    have hconverted : wadToRay debt = .ok w := by
      rw [← hw]
      exact require_bind_eq_ok.mpr ⟨by rw [hw]; exact hweight.trans (by decide), rfl⟩
    have hproduct : w * r ≤ 10 ^ 36 * WAD_RAY_RATIO * (4 * 10 ^ 30) := Nat.mul_le_mul hweight hr
    have hweighted : rayMul w r = .ok (divHalfUp (w * r) RAY) := unitMul_ok <|
      hproduct.trans (by decide)
    have hoverall : rayDiv (divHalfUp (w * r) RAY) w
        = .ok (divHalfUp (divHalfUp (w * r) RAY * RAY) w) := by
      apply unitDiv_ok RAY_pos (Nat.ne_of_gt hpos)
      have hround := divHalfUp_mul_le (w * r) RAY
      have hfits : 10 ^ 36 * WAD_RAY_RATIO * (4 * 10 ^ 30) + RAY + 10 ^ 36 * WAD_RAY_RATIO
        ≤ maxUint256 := by decide
      omega
    refine ⟨_, bind_eq_ok.mpr ⟨w, hconverted, bind_eq_ok.mpr ⟨_, hweighted, hoverall⟩⟩, ?_⟩
    -- weighted and divided by the weight again, a rate gains one ray at most
    have hback := divHalfUp_share_back_le r hpos RAY_pos
    have hray : RAY ≤ 10 ^ 30 := by decide
    omega

/-- **Both rates** can be computed just when they are priced. -/
theorem calculateInterestRates_ok_iff (hliquidity : liquidity ≤ 10 ^ 36) (hdebt : debt ≤ 10 ^ 36) :
    (∃ rates, ir.calculateInterestRates liquidity debt reserveFactor = .ok rates) ↔
      Priced o reserveFactor liquidity debt := by
  obtain ⟨u, hu⟩ := utilizationRate_ok hliquidity hdebt
  have hle := utilizationRate_le hu
  rw [Priced, ← utilizationRate_pos_iff hu, ← variableBorrowRate_ok_iff haccepted hm hle]
  constructor
  · rintro ⟨rates, h⟩
    obtain ⟨u', _, c⟩ := calculateInterestRates_computed h
    obtain rfl := Except.ok.inj (hu.symm.trans c.utilization)
    exact ⟨c.factor, rates.2, c.borrowRate⟩
  · rintro ⟨hfactor, r, hr⟩
    have hmoderate := variableBorrowRate_moderate haccepted hm hle hr
    obtain ⟨overall, hoverall, hbound⟩ := overall_ok hmoderate hdebt
    have hgross : rayMul overall u = .ok (divHalfUp (overall * u) RAY) := unitMul_ok <|
      (Nat.mul_le_mul hbound hle).trans (by decide)
    have hgrossle := divHalfUp_mul_le_self RAY_pos hle overall
    have hshare : PERCENTAGE_FACTOR - reserveFactor ≤ PERCENTAGE_FACTOR := Nat.sub_le _ _
    obtain ⟨net, hnet⟩ : ∃ net, percentMul (divHalfUp (overall * u) RAY)
        (PERCENTAGE_FACTOR - reserveFactor) = .ok net :=
      ⟨_, unitMul_ok <| (Nat.mul_le_mul (hgrossle.trans hbound) hshare).trans (by decide)⟩
    refine ⟨(net, r), ?_⟩
    refine bind_eq_ok.mpr ⟨u, hu, bind_eq_ok.mpr ⟨r, hr, bind_eq_ok.mpr ⟨overall, hoverall, ?_⟩⟩⟩
    refine bind_eq_ok.mpr ⟨_, hgross, bind_eq_ok.mpr ⟨_, checkedSub_eq_ok.mpr ⟨hfactor, rfl⟩, ?_⟩⟩
    exact bind_eq_ok.mpr ⟨_, hnet, rfl⟩

/-- What is computed fits where the reserve stores it. -/
theorem calculateInterestRates_fits (hdebt : debt ≤ 10 ^ 36)
    (h : ir.calculateInterestRates liquidity debt reserveFactor = .ok rates) :
    rates.1 ≤ maxUint128 ∧ rates.2 ≤ maxUint128 := by
  obtain ⟨u, overall, c⟩ := calculateInterestRates_computed h
  have hu := utilizationRate_le c.utilization
  have hmoderate := variableBorrowRate_moderate haccepted hm hu c.borrowRate
  obtain ⟨overall', hoverall, hbound⟩ := overall_ok hmoderate hdebt
  obtain rfl := Except.ok.inj (hoverall.symm.trans c.overallRate)
  have hshare : PERCENTAGE_FACTOR - reserveFactor ≤ PERCENTAGE_FACTOR := Nat.sub_le _ _
  refine ⟨?_, hmoderate.trans (by decide)⟩
  rw [c.liquidityRate]
  calc _ ≤ divHalfUp (overall' * u) RAY := divHalfUp_mul_le_self (by decide) hshare _
    _ ≤ overall' := divHalfUp_mul_le_self RAY_pos hu _
    _ ≤ maxUint128 := hbound.trans (by decide)

end Moderate

end InterestRate

/-! ## What the administration accepts -/

open ReserveConfiguration

/-- The reserve factor that a setter has accepted is the one that is read. -/
theorem getReserveFactor_of_set {reserveFactor : ℕ} {c c' : BitVec 256}
    (h : setReserveFactor reserveFactor c = .ok c') : getReserveFactor c' = reserveFactor := by
  have hle : reserveFactor ≤ MAX_VALID_RESERVE_FACTOR := (require_bind_eq_ok.mp h).1
  have hset : reserveRecord.set .reserveFactor reserveFactor c = .ok c' := h
  have hrange : reserveRecord.InRange .reserveFactor reserveFactor := hle
  exact reserveRecord.get_set hrange hset

namespace State

/-- `batchConfigReserve`: the reserve factors of a list of reserves. -/
def batchConfigReserve (s : State) (inputs : List (Address × ℕ)) : Except Error State :=
  inputs.foldlM (fun s input => s.configureReserve input.1 (setReserveFactor input.2)) s

/-- The configuration of the reserve is one in which a setter has accepted the reserve factor. -/
def FactorSet (s : State) (asset : Address) (reserveFactor : ℕ) : Prop :=
  ∃ c, setReserveFactor reserveFactor c = .ok (s.lendPool.reserves asset).configuration

variable {s s' : State} {asset uToken : Address}

/-- A setter accepts the factor it sets. -/
theorem configureReserve_factorSet {reserveFactor : ℕ}
    (h : s.configureReserve asset (setReserveFactor reserveFactor) = .ok s') :
    s'.FactorSet asset reserveFactor ∧
      ∀ a ≠ asset, s'.lendPool.reserves a = s.lendPool.reserves a := by
  obtain ⟨c, hc, h⟩ := bind_eq_ok.mp h
  obtain rfl := Except.ok.inj h
  refine ⟨⟨(s.lendPool.reserves asset).configuration, ?_⟩, fun a ha => Function.update_of_ne ha _ _⟩
  show _ = Except.ok (Function.update s.lendPool.reserves asset _ asset).configuration
  rw [Function.update_self]
  exact hc

/-- After a batch, a reserve is as it was or has a factor of the batch. -/
theorem batchConfigReserve_factorSet {inputs : List (Address × ℕ)}
    (h : s.batchConfigReserve inputs = .ok s') (asset : Address) :
    s'.lendPool.reserves asset = s.lendPool.reserves asset ∨
      ∃ reserveFactor, (asset, reserveFactor) ∈ inputs ∧ s'.FactorSet asset reserveFactor := by
  have hloop : Returns (s.batchConfigReserve inputs) fun s' =>
      s'.lendPool.reserves asset = s.lendPool.reserves asset ∨
        ∃ reserveFactor, (asset, reserveFactor) ∈ inputs ∧ s'.FactorSet asset reserveFactor := by
    refine Returns.foldlM (fun input hmem t ht => ?_) (.inl rfl)
    refine (Sat.returned _).imp fun t' ht' => ?_
    obtain ⟨hset, hothers⟩ := configureReserve_factorSet ht'
    by_cases ha : asset = input.1
    · rw [ha]
      exact .inr ⟨input.2, hmem, hset⟩
    · unfold FactorSet
      rw [hothers asset ha]
      exact ht
  exact hloop.ok h

/-- What the rates of a reserve are computed from in `updateInterestRates`. -/
structure RateInputs (s : State) (asset uToken : Address) (liquidityAdded liquidityTaken : ℕ)
    (ir : InterestRate) (reserveFactor liquidity debt : ℕ) : Prop where
  strategy : s.interestRates (s.lendPool.reserves asset).interestRateAddress = ir
  factor : s.FactorSet asset reserveFactor
  debt : rayMul (s.debtTokens asset).scaledTotalSupply
    (s.lendPool.reserves asset).variableBorrowIndex = .ok debt
  liquidity : ∃ available, s.getAvailableLiquidity uToken = .ok available ∧
    checkedSub (available + liquidityAdded) liquidityTaken = .ok liquidity

/-- The rates are updated just when they can be computed, if they fit. -/
theorem RateInputs.updateInterestRates_ok_iff {liquidityAdded liquidityTaken : ℕ}
    {ir : InterestRate} {reserveFactor liquidity debt : ℕ}
    (hin : s.RateInputs asset uToken liquidityAdded liquidityTaken ir reserveFactor liquidity debt)
    (hfits : ∀ rates, ir.calculateInterestRates liquidity debt reserveFactor = .ok rates →
      rates.1 ≤ maxUint128 ∧ rates.2 ≤ maxUint128) :
    (∃ s', s.updateInterestRates asset uToken liquidityAdded liquidityTaken = .ok s') ↔
      ∃ rates, ir.calculateInterestRates liquidity debt reserveFactor = .ok rates := by
  obtain ⟨c, hc⟩ := hin.factor
  obtain ⟨available, havailable, hliquidity⟩ := hin.liquidity
  have hrates : s.ratesFor asset uToken liquidityAdded liquidityTaken
      = ir.calculateInterestRates liquidity debt reserveFactor := by
    unfold ratesFor
    dsimp only
    rw [hin.debt, ok_bind, havailable, ok_bind, hliquidity, ok_bind, hin.strategy,
      getReserveFactor_of_set hc]
  rw [updateInterestRates, hrates]
  constructor
  · rintro ⟨s', h⟩
    obtain ⟨rates, hcomputed, -⟩ := bind_eq_ok.mp h
    exact ⟨rates, hcomputed⟩
  · rintro ⟨rates, hcomputed⟩
    obtain ⟨hliquidityRate, hborrowRate⟩ := hfits rates hcomputed
    have hset : (s.lendPool.reserves asset).setRates rates = .ok _ :=
      require_bind_eq_ok.mpr ⟨hliquidityRate, require_bind_eq_ok.mpr ⟨hborrowRate, rfl⟩⟩
    exact ⟨_, bind_eq_ok.mpr ⟨rates, hcomputed, bind_eq_ok.mpr ⟨_, hset, rfl⟩⟩⟩

end State

namespace InterestRate

section Accepted

variable {ir : InterestRate} {o b s₁ s₂ reserveFactor : ℕ}

/-- An accepted configuration with a reserve factor answers every time just when the optimal share
is not zero and the treasury takes no more than everything. -/
theorem answers_iff (haccepted : config o b s₁ s₂ = .ok ir) (hm : ir.Moderate) :
    (∀ liquidity debt, liquidity ≤ 10 ^ 36 → debt ≤ 10 ^ 36 →
        ∃ rates, ir.calculateInterestRates liquidity debt reserveFactor = .ok rates) ↔
      o ≠ 0 ∧ reserveFactor ≤ PERCENTAGE_FACTOR := by
  constructor
  · intro h
    have hempty := h 0 0 (Nat.zero_le _) (Nat.zero_le _)
    rw [calculateInterestRates_ok_iff haccepted hm (Nat.zero_le _) (Nat.zero_le _)] at hempty
    obtain ⟨hfactor, hoptimal⟩ := hempty
    exact ⟨fun ho => Nat.lt_irrefl 0 (hoptimal ho).1, hfactor⟩
  · rintro ⟨ho, hfactor⟩ liquidity debt hliquidity hdebt
    rw [calculateInterestRates_ok_iff haccepted hm hliquidity hdebt]
    exact ⟨hfactor, fun h => absurd h ho⟩

/-- **When a reserve can be used.** For every accepted configuration and every accepted reserve
factor the rates can be computed just when they are priced; and whether they can be updated depends
on that alone, whatever else the state of the pool is. -/
theorem calculateInterestRates_returns_iff (haccepted : config o b s₁ s₂ = .ok ir)
    (hb : b ≤ 10 ^ 30) (hs₁ : s₁ ≤ 10 ^ 30) (hs₂ : s₂ ≤ 10 ^ 30) {c c' : BitVec 256}
    (hfactor : setReserveFactor reserveFactor c = .ok c') {liquidity debt : ℕ}
    (hliquidity : liquidity ≤ 10 ^ 36) (hdebt : debt ≤ 10 ^ 36) :
    ((∃ rates, ir.calculateInterestRates liquidity debt (getReserveFactor c') = .ok rates) ↔
        Priced o reserveFactor liquidity debt) ∧
      ∀ (s : State) (asset uToken : Address) (liquidityAdded liquidityTaken : ℕ),
        s.RateInputs asset uToken liquidityAdded liquidityTaken ir reserveFactor liquidity debt →
        ((∃ s', s.updateInterestRates asset uToken liquidityAdded liquidityTaken = .ok s') ↔
          Priced o reserveFactor liquidity debt) := by
  have hm : ir.Moderate := by
    obtain ⟨rfl, -⟩ := config_spec haccepted
    exact ⟨hb, hs₁, hs₂⟩
  rw [getReserveFactor_of_set hfactor, calculateInterestRates_ok_iff haccepted hm hliquidity hdebt]
  refine ⟨Iff.rfl, fun s asset uToken added taken hin => ?_⟩
  rw [hin.updateInterestRates_ok_iff fun _ h => calculateInterestRates_fits haccepted hm hdebt h]
  exact calculateInterestRates_ok_iff haccepted hm hliquidity hdebt

/-- Of the 1000 WETH of the larger deployment 30 are lent out. The rates are computed from what is
left and what is owed, and the reserve can be priced. -/
theorem calculateInterestRates_returns_iff_sample :
    (∃ rates, InterestRate.calculateInterestRates
      ⟨8 * 10 ^ 26, 2 * 10 ^ 26, 0, 4 * 10 ^ 25, 10 ^ 27⟩ (970 * WAD) (30 * WAD) (getReserveFactor
        ((State.larger .weth9 largerLoan).lendPool.reserves 10).configuration) = .ok rates) ∧
    (State.larger .weth9 largerLoan).RateInputs 10 20 0 0
      ⟨8 * 10 ^ 26, 2 * 10 ^ 26, 0, 4 * 10 ^ 25, 10 ^ 27⟩ 0 (970 * WAD) (30 * WAD) ∧
    ∃ s', (State.larger .weth9 largerLoan).updateInterestRates 10 20 0 0 = .ok s' := by
  have haccepted : config (8 * 10 ^ 26) 0 (4 * 10 ^ 25) (10 ^ 27) = .ok _ := rfl
  have hfactor : setReserveFactor 0 ((State.larger .weth9 largerLoan).lendPool.reserves
      10).configuration
      = .ok ((State.larger .weth9 largerLoan).lendPool.reserves 10).configuration :=
    eq_ok_of_toOption (by decide +kernel)
  have hin : (State.larger .weth9 largerLoan).RateInputs 10 20 0 0
      ⟨8 * 10 ^ 26, 2 * 10 ^ 26, 0, 4 * 10 ^ 25, 10 ^ 27⟩ 0 (970 * WAD) (30 * WAD) := by
    refine ⟨by decide +kernel, ⟨_, hfactor⟩, eq_ok_of_toOption (by decide +kernel),
      970 * WAD, eq_ok_of_toOption (by decide +kernel), rfl⟩
  generalize State.larger .weth9 largerLoan = s at *
  have hpriced : Priced (8 * 10 ^ 26) 0 (970 * WAD) (30 * WAD) := ⟨by decide, by decide⟩
  have hbounds : 970 * WAD ≤ 10 ^ 36 ∧ 30 * WAD ≤ 10 ^ 36 := by decide
  obtain ⟨hrates, hupdates⟩ := calculateInterestRates_returns_iff haccepted (by decide)
    (by decide) (by decide) hfactor hbounds.1 hbounds.2
  exact ⟨hrates.mpr hpriced, hin, (hupdates s 10 20 0 0 hin).mpr hpriced⟩

/-- **Accepted settings can stop a reserve**: with an optimal share of zero there are no rates
before anything is lent out, and with a reserve factor above 100% there are none at all. -/
theorem calculateInterestRates_reverts :
    (∃ ir, config 0 0 (10 ^ 26) (10 ^ 27) = .ok ir ∧
      ir.calculateInterestRates (10 ^ 18) 0 0 = .error .MATH_DIVISION_BY_ZERO) ∧
    (∃ ir c, config (8 * 10 ^ 26) 0 (10 ^ 26) (10 ^ 27) = .ok ir ∧
      setReserveFactor 10001 0 = .ok c ∧
      ir.calculateInterestRates (10 ^ 18) (10 ^ 18) (getReserveFactor c)
        = .error .arithmeticUnderflow) :=
  ⟨⟨_, rfl, rfl⟩, ⟨_, _, rfl, rfl, rfl⟩⟩

end Accepted

end InterestRate

end Unlockd

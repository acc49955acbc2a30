/-
`UnlockdProtocolDataProvider.sol`, `getNftLiquidatePrice`: the price a liquidator is told to bid,
and the amount a loan is to be paid back with.

The view computes the price from its own copy of the conversion that the pool makes, and at last
raises it to the amount to be paid back, so that nobody is told to bid less than the debt. But it
assigns nothing to that amount. What it reports for it is zero, the last step raises nothing, and
the price is that of the token less the bonus, even where the debt is higher. So what is reported
can be relied on only for a loan that owes nothing.
-/
import Unlockd.Outstanding
import Unlockd.GatewayCalls

set_option autoImplicit false

namespace Unlockd

open Outcome LendPoolLoan

/-! ## Refusals of a bid -/

/-- A refusal of a bid because it is too low for the debt. -/
def Error.BelowDebt : Error → Prop
  | .LPL_BID_PRICE_LESS_THAN_DEBT_PRICE | .LPL_BID_PRICE_LESS_THAN_BORROW => True
  | _ => False

section Arithmetic

variable {u a b : ℕ}

theorem unitMul_notBelowDebt : Fails (unitMul u a b) (¬ ·.BelowDebt) :=
  Sat.ite (fun _ => trivial) fun _ => Fails.check (fun _ => id) fun _ => trivial

theorem unitDiv_notBelowDebt : Fails (unitDiv u a b) (¬ ·.BelowDebt) :=
  Fails.check (fun _ => id) fun _ => Fails.check (fun _ => id) fun _ => trivial

theorem checkedSub_notBelowDebt : Fails (checkedSub a b) (¬ ·.BelowDebt) :=
  Fails.check (fun _ => id) fun _ => trivial

theorem calculateCompoundedInterest_notBelowDebt {rate last now : ℕ} :
    Fails (calculateCompoundedInterest rate last now) (¬ ·.BelowDebt) := by
  refine Fails.step checkedSub_notBelowDebt fun _ _ => Sat.ite (fun _ => trivial) fun _ => ?_
  refine Fails.step unitMul_notBelowDebt fun _ _ => ?_
  exact Fails.step unitMul_notBelowDebt fun _ _ => trivial

end Arithmetic

theorem ReserveData._updateIndexes_notBelowDebt {R : ReserveData} {debt now : ℕ} :
    Fails (R._updateIndexes debt now) (¬ ·.BelowDebt) := by
  refine Fails.step (Sat.applyIf (fun _ => ?_) fun _ => trivial) fun _ _ => trivial
  refine Fails.step (Fails.step checkedSub_notBelowDebt fun _ _ => trivial) fun _ _ => ?_
  refine Fails.step unitMul_notBelowDebt fun _ _ => Fails.check (fun _ => id) fun _ => ?_
  refine Sat.applyIf (fun _ => ?_) fun _ => trivial
  refine Fails.step calculateCompoundedInterest_notBelowDebt fun _ _ => ?_
  exact Fails.step unitMul_notBelowDebt fun _ _ => Fails.check (fun _ => id) fun _ => trivial

theorem InterestRate.calculateInterestRates_notBelowDebt {ir : InterestRate} {a d f : ℕ} :
    Fails (ir.calculateInterestRates a d f) (¬ ·.BelowDebt) := by
  refine Fails.step (Sat.ite (fun _ => trivial) fun _ => unitDiv_notBelowDebt) fun _ _ => ?_
  refine Fails.step (Sat.ite (fun _ => ?_) fun _ => ?_) fun _ _ => ?_
  · refine Fails.step unitDiv_notBelowDebt fun _ _ => ?_
    exact Fails.step unitMul_notBelowDebt fun _ _ => trivial
  · refine Fails.step unitMul_notBelowDebt fun _ _ => ?_
    exact Fails.step unitDiv_notBelowDebt fun _ _ => trivial
  refine Fails.step (Sat.ite (fun _ => trivial) fun _ => ?_) fun _ _ => ?_
  · refine Fails.step (Fails.check (fun _ => id) fun _ => trivial) fun _ _ => ?_
    exact Fails.step unitMul_notBelowDebt fun _ _ => unitDiv_notBelowDebt
  refine Fails.step unitMul_notBelowDebt fun _ _ => ?_
  refine Fails.step checkedSub_notBelowDebt fun _ _ => ?_
  exact Fails.step unitMul_notBelowDebt fun _ _ => trivial

namespace State

variable {s : State} {asset caller src dst uToken : Address} {amount loanId : ℕ}

theorem updateState_notBelowDebt : Fails (s.updateState asset) (¬ ·.BelowDebt) := by
  refine Fails.step ReserveData._updateIndexes_notBelowDebt fun R _ => Fails.step ?_ fun _ _ => ?_
  · refine Sat.ite (fun _ => trivial) fun _ => Fails.step unitMul_notBelowDebt fun _ _ => ?_
    refine Fails.step unitMul_notBelowDebt fun _ _ => ?_
    exact Fails.step checkedSub_notBelowDebt fun _ _ => unitMul_notBelowDebt
  · refine Fails.step (Sat.ite (fun _ => trivial) fun _ => ?_) fun _ _ => trivial
    exact Fails.step unitDiv_notBelowDebt fun _ _ => Fails.check (fun _ => id) fun _ => trivial

theorem updateInterestRates_notBelowDebt {added taken : ℕ} :
    Fails (s.updateInterestRates asset uToken added taken) (¬ ·.BelowDebt) := by
  refine Fails.step ?_ fun _ _ => Fails.step ?_ fun _ _ => trivial
  · refine Fails.step unitMul_notBelowDebt fun _ _ => Fails.step unitMul_notBelowDebt fun _ _ => ?_
    refine Fails.step checkedSub_notBelowDebt fun _ _ => ?_
    exact InterestRate.calculateInterestRates_notBelowDebt
  · exact Fails.check (fun _ => id) fun _ => Fails.check (fun _ => id) fun _ => trivial

theorem getLoanReserveBorrowAmount_notBelowDebt :
    Fails (s.getLoanReserveBorrowAmount loanId) (¬ ·.BelowDebt) := by
  refine Sat.ite (fun _ => trivial) fun _ => ?_
  refine Fails.step (Sat.ite (fun _ => trivial) fun _ => ?_) fun _ _ => unitMul_notBelowDebt
  exact Fails.step calculateCompoundedInterest_notBelowDebt fun _ _ => unitMul_notBelowDebt

theorem safeTransferFrom_notBelowDebt :
    Fails (s.safeTransferFrom asset caller src dst amount) (¬ ·.BelowDebt) := by
  refine Fails.step (Erc20.transferFrom_spec.mono (fun _ _ => trivial) fun e he => ?_)
    fun _ _ => trivial
  rcases he with rfl | rfl | ⟨rfl, -⟩ <;> exact id

end State

/-! ## The view -/

/-- What `getNftCollateralData` returns. -/
structure NftCollateralData where
  totalCollateralInETH : ℕ
  totalCollateralInReserve : ℕ
  availableBorrowsInETH : ℕ
  availableBorrowsInReserve : ℕ
  ltv : ℕ
  liquidationThreshold : ℕ
  liquidationBonus : ℕ

namespace State

variable (D : Deployment) (s : State)

/-- `LendPool.getNftCollateralData`. -/
def getNftCollateralData (nftAsset : Address) (nftTokenId : ℕ) (reserveAsset : Address) :
    Except Error NftCollateralData := do
  let nftConfig := s.lendPool.nftConfig nftAsset nftTokenId
  let collateral ← s.calculateNftCollateralData reserveAsset nftAsset nftTokenId
  let availableBorrowsInETH ← calculateAvailableBorrows collateral.1 0 (getLtv nftConfig)
  let availableBorrowsInReserve ← calculateAvailableBorrows collateral.2 0 (getLtv nftConfig)
  return {
    totalCollateralInETH := collateral.1
    totalCollateralInReserve := collateral.2
    availableBorrowsInETH := availableBorrowsInETH
    availableBorrowsInReserve := availableBorrowsInReserve
    ltv := getLtv nftConfig
    liquidationThreshold := getLiquidationThreshold nftConfig
    liquidationBonus := getLiquidationBonus nftConfig }

/-- `UnlockdProtocolDataProvider.getNftLiquidatePrice`: the price to bid, and the amount to pay
back. The decimals are those that the token of a reserve reports itself. -/
def getNftLiquidatePrice (decimals : Address → ℕ) (reserveAsset nftAsset : Address)
    (nftTokenId : ℕ) : Except Error (ℕ × ℕ) := do
  let loanId := s.lendPoolLoan.getCollateralLoanId nftAsset nftTokenId
  if loanId = 0 then return (0, 0)
  else
    -- the debt is asked for, and then not used
    let _borrowAmount ← s.getLoanReserveBorrowAmount loanId
    let collateral ← s.getNftCollateralData nftAsset nftTokenId reserveAsset
    let nftPriceInETH ← s.getNFTPrice nftAsset nftTokenId
    let reserveUnit ← checkedPow 10 (decimals reserveAsset)
    let nftPrice ← checkedMul reserveUnit nftPriceInETH
    let nftPriceInReserve ← checkedDiv nftPrice (s.getAssetPrice reserveAsset)
    let _thresholdPrice ← percentMul nftPriceInReserve collateral.liquidationThreshold
    let share ← checkedSub PERCENTAGE_FACTOR collateral.liquidationBonus
    let liquidatePrice ← percentMul nftPriceInReserve share
    -- nothing is assigned to this variable before
    let paybackAmount := 0
    let liquidatePrice := if liquidatePrice < paybackAmount then paybackAmount else liquidatePrice
    return (liquidatePrice, paybackAmount)

end State

/-! ## When a price is quoted -/

/-- A percentage is taken of what leaves room for the half that is added. -/
def PercentFits (value percentage : ℕ) : Prop :=
  value * percentage ≤ maxUint256 - PERCENTAGE_FACTOR / 2

instance (value percentage : ℕ) : Decidable (PercentFits value percentage) :=
  inferInstanceAs (Decidable (_ ≤ _))

theorem exists_percentMul {value percentage : ℕ} :
    (∃ c, percentMul value percentage = .ok c) ↔ PercentFits value percentage := by
  constructor
  · rintro ⟨c, hc⟩
    exact (unitMul_eq_ok.mp hc).1
  · intro hfits
    exact ⟨_, unitMul_ok hfits⟩

/-- The price of the token of a loan in the reserve asset, by the decimals the reserve reports. -/
def State.priceInReserve (s : State) (decimals : Address → ℕ) (loan : LoanData) : ℕ :=
  10 ^ decimals loan.reserveAsset * s.nftPrices loan.nftAsset loan.nftTokenId
    / s.getAssetPrice loan.reserveAsset

/-- The price of a token times a whole unit of a reserve, in the decimals that are configured. -/
def State.collateralProduct (s : State) (reserveAsset nftAsset : Address) (nftTokenId : ℕ) : ℕ :=
  s.nftPrices nftAsset nftTokenId
    * 10 ^ ReserveConfiguration.getDecimals (s.lendPool.reserves reserveAsset).configuration

/-- The price in the reserve asset, in those decimals, as `calculateNftCollateralData` has it. -/
def State.collateralInReserve (s : State) (reserveAsset nftAsset : Address) (nftTokenId : ℕ) : ℕ :=
  if reserveAsset = 0 then 0
  else s.collateralProduct reserveAsset nftAsset nftTokenId / s.getAssetPrice reserveAsset

/-- A price can be quoted for a loan: there are prices for its token and its reserve, the bonus is
not more than the whole, and no product is out of range, in the decimals that the token of the
reserve reports and in those that are configured. -/
structure Quotable (s : State) (decimals : Address → ℕ) (loan : LoanData) : Prop where
  nftPrice_ne_zero : s.nftPrices loan.nftAsset loan.nftTokenId ≠ 0
  assetPrice_ne_zero : s.getAssetPrice loan.reserveAsset ≠ 0
  bonus_le : getLiquidationBonus (s.lendPool.nftConfig loan.nftAsset loan.nftTokenId)
    ≤ PERCENTAGE_FACTOR
  price_fits : 10 ^ decimals loan.reserveAsset * s.nftPrices loan.nftAsset loan.nftTokenId
    ≤ maxUint256
  collateral_fits : loan.reserveAsset ≠ 0 →
    s.collateralProduct loan.reserveAsset loan.nftAsset loan.nftTokenId ≤ maxUint256
  threshold_fits : PercentFits (s.priceInReserve decimals loan)
    (getLiquidationThreshold (s.lendPool.nftConfig loan.nftAsset loan.nftTokenId))
  share_fits : PercentFits (s.priceInReserve decimals loan) (PERCENTAGE_FACTOR
    - getLiquidationBonus (s.lendPool.nftConfig loan.nftAsset loan.nftTokenId))
  borrows_fit : PercentFits (s.nftPrices loan.nftAsset loan.nftTokenId)
    (getLtv (s.lendPool.nftConfig loan.nftAsset loan.nftTokenId))
  borrowsInReserve_fit : PercentFits
    (s.collateralInReserve loan.reserveAsset loan.nftAsset loan.nftTokenId)
    (getLtv (s.lendPool.nftConfig loan.nftAsset loan.nftTokenId))

namespace State

variable {s : State} {decimals : Address → ℕ} {loan : LoanData} {loanId : ℕ}

/-- A whole unit fits if its product with a price does. -/
theorem inReserve_eq_ok {reserveAsset : Address} {amount c : ℕ} (hamount : amount ≠ 0)
    (hprice : s.getAssetPrice reserveAsset ≠ 0) :
    s.inReserve reserveAsset amount = .ok c ↔
      amount * 10 ^ ReserveConfiguration.getDecimals
        (s.lendPool.reserves reserveAsset).configuration ≤ maxUint256 ∧
      amount * 10 ^ ReserveConfiguration.getDecimals
        (s.lendPool.reserves reserveAsset).configuration / s.getAssetPrice reserveAsset = c := by
  constructor
  · intro h
    obtain ⟨unit, hunit, h⟩ := bind_eq_ok.mp h
    obtain ⟨product, hproduct, h⟩ := bind_eq_ok.mp h
    obtain ⟨-, rfl⟩ := checkedPow_eq_ok.mp hunit
    obtain ⟨hfits, rfl⟩ := checkedMul_eq_ok.mp hproduct
    obtain ⟨-, rfl⟩ := checkedDiv_eq_ok.mp h
    exact ⟨hfits, rfl⟩
  · rintro ⟨hfits, rfl⟩
    have hunit := (Nat.le_mul_of_pos_left _ (Nat.pos_of_ne_zero hamount)).trans hfits
    refine bind_eq_ok.mpr ⟨_, checkedPow_eq_ok.mpr ⟨hunit, rfl⟩, ?_⟩
    refine bind_eq_ok.mpr ⟨_, checkedMul_eq_ok.mpr ⟨hfits, rfl⟩, ?_⟩
    exact checkedDiv_eq_ok.mpr ⟨hprice, rfl⟩

theorem calculateNftCollateralData_eq_ok {reserveAsset nftAsset : Address} {nftTokenId : ℕ}
    {c : ℕ × ℕ} (hprice : s.getAssetPrice reserveAsset ≠ 0) :
    s.calculateNftCollateralData reserveAsset nftAsset nftTokenId = .ok c ↔
      s.nftPrices nftAsset nftTokenId ≠ 0 ∧
      (reserveAsset ≠ 0 → s.collateralProduct reserveAsset nftAsset nftTokenId ≤ maxUint256) ∧
      (s.nftPrices nftAsset nftTokenId, s.collateralInReserve reserveAsset nftAsset nftTokenId)
        = c := by
  unfold calculateNftCollateralData collateralInReserve
  simp only [bind_eq_ok, getNFTPrice_eq_ok]
  constructor
  · rintro ⟨price, ⟨hne, rfl⟩, hc⟩
    refine ⟨hne, ?_⟩
    split at hc
    · rename_i h0
      rw [if_pos h0]
      exact ⟨fun h => absurd h0 h, Except.ok.inj hc⟩
    · rename_i h0
      obtain ⟨n, hn, hc⟩ := bind_eq_ok.mp hc
      obtain ⟨hfits, rfl⟩ := (inReserve_eq_ok hne hprice).mp hn
      rw [if_neg h0]
      exact ⟨fun _ => hfits, Except.ok.inj hc⟩
  · rintro ⟨hne, hfits, rfl⟩
    refine ⟨_, ⟨hne, rfl⟩, ?_⟩
    split
    · rfl
    · rename_i h0
      exact bind_eq_ok.mpr ⟨_, (inReserve_eq_ok hne hprice).mpr ⟨hfits h0, rfl⟩, rfl⟩

/-- The borrowing power is answered where the percentage can be taken. -/
theorem exists_calculateAvailableBorrows {totalCollateral totalDebt ltv : ℕ} :
    (∃ n, calculateAvailableBorrows totalCollateral totalDebt ltv = .ok n) ↔
      PercentFits totalCollateral ltv := by
  rw [← exists_percentMul]
  constructor
  · rintro ⟨n, hn⟩
    obtain ⟨c, hc, -⟩ := bind_eq_ok.mp hn
    exact ⟨c, hc⟩
  · rintro ⟨c, hc⟩
    exact ⟨_, bind_eq_ok.mpr ⟨c, hc, rfl⟩⟩

/-- Among the collateral data are the threshold and the bonus that are configured. -/
theorem getNftCollateralData_params {nftAsset reserveAsset : Address} {nftTokenId : ℕ} :
    Returns (s.getNftCollateralData nftAsset nftTokenId reserveAsset) (fun c =>
      c.liquidationThreshold = getLiquidationThreshold (s.lendPool.nftConfig nftAsset nftTokenId) ∧
      c.liquidationBonus = getLiquidationBonus (s.lendPool.nftConfig nftAsset nftTokenId)) :=
  Returns.step fun _ _ => Returns.step fun _ _ => Returns.step fun _ _ => ⟨rfl, rfl⟩

/-- They are answered where the token has a price and the borrowing power can be computed. -/
theorem getNftCollateralData_returns_iff {nftAsset reserveAsset : Address} {nftTokenId : ℕ}
    (hprice : s.getAssetPrice reserveAsset ≠ 0) :
    (∃ c, s.getNftCollateralData nftAsset nftTokenId reserveAsset = .ok c) ↔
      s.nftPrices nftAsset nftTokenId ≠ 0 ∧
      (reserveAsset ≠ 0 → s.collateralProduct reserveAsset nftAsset nftTokenId ≤ maxUint256) ∧
      PercentFits (s.nftPrices nftAsset nftTokenId)
        (getLtv (s.lendPool.nftConfig nftAsset nftTokenId)) ∧
      PercentFits (s.collateralInReserve reserveAsset nftAsset nftTokenId)
        (getLtv (s.lendPool.nftConfig nftAsset nftTokenId)) := by
  constructor
  · rintro ⟨c, hc⟩
    obtain ⟨collateral, hcollateral, hc⟩ := bind_eq_ok.mp hc
    obtain ⟨inETH, hinETH, hc⟩ := bind_eq_ok.mp hc
    obtain ⟨inReserve, hinReserve, hc⟩ := bind_eq_ok.mp hc
    obtain ⟨hne, hproduct, rfl⟩ := (calculateNftCollateralData_eq_ok hprice).mp hcollateral
    exact ⟨hne, hproduct, exists_calculateAvailableBorrows.mp ⟨inETH, hinETH⟩,
      exists_calculateAvailableBorrows.mp ⟨inReserve, hinReserve⟩⟩
  · rintro ⟨hne, hproduct, hfits, hfits'⟩
    obtain ⟨inETH, hinETH⟩ := exists_calculateAvailableBorrows.mpr hfits
    obtain ⟨inReserve, hinReserve⟩ := exists_calculateAvailableBorrows.mpr hfits'
    have hcollateral := (calculateNftCollateralData_eq_ok hprice).mpr ⟨hne, hproduct, rfl⟩
    exact ⟨_, bind_eq_ok.mpr ⟨_, hcollateral,
      bind_eq_ok.mpr ⟨inETH, hinETH, bind_eq_ok.mpr ⟨inReserve, hinReserve, rfl⟩⟩⟩⟩

/-- **When the view returns**, for a loan whose token leads to it: where a price can be quoted and
the debt can be read. -/
theorem getNftLiquidatePrice_returns_iff (decimals : Address → ℕ) (loan : LoanData)
    (hne : loanId ≠ 0)
    (hid : s.lendPoolLoan.getCollateralLoanId loan.nftAsset loan.nftTokenId = loanId) :
    (∃ p, s.getNftLiquidatePrice decimals loan.reserveAsset loan.nftAsset loan.nftTokenId = .ok p) ↔
      Quotable s decimals loan ∧ ∃ debt, s.getLoanReserveBorrowAmount loanId = .ok debt := by
  unfold getNftLiquidatePrice
  dsimp only
  rw [hid, if_neg hne]
  constructor
  · rintro ⟨p, hp⟩
    obtain ⟨debt, hdebt, hp⟩ := bind_eq_ok.mp hp
    obtain ⟨c, hc, hp⟩ := bind_eq_ok.mp hp
    obtain ⟨price, hprice, hp⟩ := bind_eq_ok.mp hp
    obtain ⟨unit, hunit, hp⟩ := bind_eq_ok.mp hp
    obtain ⟨product, hproduct, hp⟩ := bind_eq_ok.mp hp
    obtain ⟨value, hvalue, hp⟩ := bind_eq_ok.mp hp
    obtain ⟨threshold, hthreshold, hp⟩ := bind_eq_ok.mp hp
    obtain ⟨share, hshare, hp⟩ := bind_eq_ok.mp hp
    obtain ⟨liquidatePrice, hliquidate, hp⟩ := bind_eq_ok.mp hp
    obtain ⟨-, rfl⟩ := getNFTPrice_eq_ok.mp hprice
    obtain ⟨-, rfl⟩ := checkedPow_eq_ok.mp hunit
    obtain ⟨hfits, rfl⟩ := checkedMul_eq_ok.mp hproduct
    obtain ⟨hasset, rfl⟩ := checkedDiv_eq_ok.mp hvalue
    obtain ⟨hbonus, rfl⟩ := checkedSub_eq_ok.mp hshare
    obtain ⟨hthr, hbon⟩ := getNftCollateralData_params.ok hc
    obtain ⟨hpriced, hcollateral, hborrows, hborrows'⟩ :=
      (getNftCollateralData_returns_iff hasset).mp ⟨c, hc⟩
    rw [hthr] at hthreshold
    rw [hbon] at hbonus hliquidate
    refine ⟨?_, debt, hdebt⟩
    exact {
      nftPrice_ne_zero := hpriced
      assetPrice_ne_zero := hasset
      bonus_le := hbonus
      price_fits := hfits
      collateral_fits := hcollateral
      threshold_fits := exists_percentMul.mp ⟨_, hthreshold⟩
      share_fits := exists_percentMul.mp ⟨_, hliquidate⟩
      borrows_fit := hborrows
      borrowsInReserve_fit := hborrows' }
  · rintro ⟨h, debt, hdebt⟩
    have hasset := h.assetPrice_ne_zero
    obtain ⟨c, hc⟩ := (getNftCollateralData_returns_iff hasset).mpr
      ⟨h.nftPrice_ne_zero, h.collateral_fits, h.borrows_fit, h.borrowsInReserve_fit⟩
    obtain ⟨hthr, hbon⟩ := getNftCollateralData_params.ok hc
    obtain ⟨threshold, hthreshold⟩ := exists_percentMul.mpr h.threshold_fits
    obtain ⟨liquidatePrice, hliquidate⟩ := exists_percentMul.mpr h.share_fits
    rw [← hthr] at hthreshold
    rw [← hbon] at hliquidate
    have hunit : 10 ^ decimals loan.reserveAsset ≤ maxUint256 :=
      (Nat.le_mul_of_pos_right _ (Nat.pos_of_ne_zero h.nftPrice_ne_zero)).trans h.price_fits
    refine ⟨(if liquidatePrice < 0 then 0 else liquidatePrice, 0), ?_⟩
    refine bind_eq_ok.mpr ⟨debt, hdebt, bind_eq_ok.mpr ⟨c, hc, ?_⟩⟩
    refine bind_eq_ok.mpr ⟨_, getNFTPrice_eq_ok.mpr ⟨h.nftPrice_ne_zero, rfl⟩, ?_⟩
    refine bind_eq_ok.mpr ⟨_, checkedPow_eq_ok.mpr ⟨hunit, rfl⟩, ?_⟩
    refine bind_eq_ok.mpr ⟨_, checkedMul_eq_ok.mpr ⟨h.price_fits, rfl⟩, ?_⟩
    refine bind_eq_ok.mpr ⟨_, checkedDiv_eq_ok.mpr ⟨hasset, rfl⟩, ?_⟩
    refine bind_eq_ok.mpr ⟨threshold, hthreshold, ?_⟩
    refine bind_eq_ok.mpr ⟨_, checkedSub_eq_ok.mpr ⟨hbon ▸ h.bonus_le, rfl⟩, ?_⟩
    exact bind_eq_ok.mpr ⟨liquidatePrice, hliquidate, rfl⟩

/-- What is reported to be paid back is always zero. -/
theorem getNftLiquidatePrice_payback {reserveAsset nftAsset : Address} {nftTokenId : ℕ} :
    Returns (s.getNftLiquidatePrice decimals reserveAsset nftAsset nftTokenId)
      (fun p => p.2 = 0) := by
  refine Sat.ite (fun _ => rfl) fun _ => ?_
  refine Returns.step fun _ _ => Returns.step fun _ _ => Returns.step fun _ _ => ?_
  refine Returns.step fun _ _ => Returns.step fun _ _ => Returns.step fun _ _ => ?_
  exact Returns.step fun _ _ => Returns.step fun _ _ => Returns.step fun _ _ => rfl

/-! ## Bids on a loan that owes nothing -/

/-- A loan without a scaled amount owes nothing. -/
theorem getLoanReserveBorrowAmount_of_zero
    (hzero : (s.lendPoolLoan.loans loanId).scaledAmount = 0) :
    s.getLoanReserveBorrowAmount loanId = .ok 0 :=
  if_pos hzero

variable {D : Deployment} {initiator nftAsset onBehalfOf : Address} {nftTokenId bidPrice : ℕ}
  {nftConfig : BitVec 256}

theorem validateAuction_notBelowDebt :
    Fails (s.validateAuction loan nftConfig bidPrice) (¬ ·.BelowDebt) := by
  refine Fails.step ?_ fun _ _ => Fails.check (fun _ => id) fun _ =>
    Sat.fails (Sat.require fun _ => id)
  refine Fails.check (fun _ => id) fun _ => Fails.check (fun _ => id) fun _ => ?_
  refine Fails.check (fun _ => id) fun _ => Fails.check (fun _ => id) fun _ => ?_
  exact Sat.fails (Sat.require fun _ => id)

theorem inReserve_notBelowDebt {asset : Address} {amount : ℕ} :
    Fails (s.inReserve asset amount) (¬ ·.BelowDebt) := by
  refine Fails.step (Fails.check (fun _ => id) fun _ => trivial) fun _ _ => ?_
  refine Fails.step (Fails.check (fun _ => id) fun _ => trivial) fun _ _ => ?_
  exact Fails.check (fun _ => id) fun _ => trivial

theorem calculateLoanLiquidatePrice_notBelowDebt {asset : Address} :
    Fails (s.calculateLoanLiquidatePrice loanId asset nftAsset nftTokenId nftConfig)
      (¬ ·.BelowDebt) := by
  refine Fails.step getLoanReserveBorrowAmount_notBelowDebt fun _ _ => ?_
  refine Fails.step (Fails.check (fun _ => id) fun _ => trivial) fun _ _ => ?_
  refine Fails.step inReserve_notBelowDebt fun _ _ => ?_
  refine Fails.step unitMul_notBelowDebt fun _ _ => ?_
  refine Fails.step checkedSub_notBelowDebt fun _ _ => ?_
  exact Fails.step unitMul_notBelowDebt fun _ _ => trivial

/-- A first bid is refused because the debt does not exceed the threshold; a later one covers a debt
of zero. -/
theorem validateBidPrice_notBelowDebt {thresholdPrice : ℕ} :
    Fails (s.validateBidPrice loan nftConfig bidPrice 0 thresholdPrice) (¬ ·.BelowDebt) := by
  refine Sat.ite (fun _ => ?_) fun _ => ?_
  · exact Fails.check (fun _ => id) fun hexceeds => absurd hexceeds (Nat.not_lt_zero _)
  · refine Fails.check (fun hlow => absurd (Nat.zero_le _) hlow) fun _ => ?_
    refine Fails.check (fun _ => id) fun _ => ?_
    refine Fails.step unitMul_notBelowDebt fun _ _ => ?_
    exact Sat.fails (Sat.require fun _ => id)

theorem auctionLoan_notBelowDebt {L : LendPoolLoan} {borrowAmount now : ℕ} :
    Fails (L.auctionLoan loanId onBehalfOf bidPrice borrowAmount now) (¬ ·.BelowDebt) := by
  refine Fails.step (Sat.ite (fun _ => ?_) fun _ => ?_) fun _ _ => trivial
  · exact Fails.check (fun _ => id) fun _ => trivial
  · exact Fails.check (fun _ => id) fun _ => Fails.check (fun _ => id) fun _ => trivial

theorem refundBid_notBelowDebt : Fails (s.refundBid D loan) (¬ ·.BelowDebt) := by
  refine Sat.applyIf (fun _ => Fails.step ?_ fun _ _ => trivial) fun _ => trivial
  refine Erc20.transfer_spec.mono (fun _ _ => trivial) fun e he => ?_
  rcases he with rfl | ⟨rfl, -⟩ <;> exact id

/-- **No bid is too low for a debt of nothing.** -/
theorem executeAuction_notBelowDebt
    (hzero : (s.lendPoolLoan.loans
      (s.lendPoolLoan.getCollateralLoanId nftAsset nftTokenId)).scaledAmount = 0) :
    Fails (s.executeAuction D initiator nftAsset nftTokenId bidPrice onBehalfOf)
      (¬ ·.BelowDebt) := by
  refine Fails.check (fun _ => id) fun _ => Fails.check (fun _ => id) fun _ => ?_
  refine Fails.check (fun _ => id) fun _ => Fails.step validateAuction_notBelowDebt fun _ _ => ?_
  refine Fails.step updateState_notBelowDebt fun s₁ h₁ => ?_
  obtain ⟨Rs, U, rfl, -⟩ := updateState_spec.ok h₁
  refine Fails.step calculateLoanLiquidatePrice_notBelowDebt fun prices hprices => ?_
  -- bringing the reserve up to date changes no loan, and the debt is still nothing
  have hdebt : prices.1 = 0 := by
    have hread := calculateLoanLiquidatePrice_spec.ok hprices
    rw [getLoanReserveBorrowAmount_of_zero (by exact hzero)] at hread
    exact (Except.ok.inj hread).symm
  rw [hdebt]
  refine Fails.step validateBidPrice_notBelowDebt fun _ _ => ?_
  refine Fails.step auctionLoan_notBelowDebt fun L _ => ?_
  refine Fails.step safeTransferFrom_notBelowDebt fun s₂ _ => ?_
  refine Fails.step refundBid_notBelowDebt fun s₃ _ => ?_
  exact updateInterestRates_notBelowDebt

end State

/-! ## Usable prices -/

/-- The price that is advertised for the loan on a token is usable: the view returns, what it
reports is to be paid back covers the debt and so does the price, and nobody who bids that price is
refused for bidding below the debt. -/
def State.AdvertisesUsablePrice (D : Deployment) (s : State) (decimals : Address → ℕ)
    (nftAsset : Address) (nftTokenId : ℕ) : Prop :=
  ∃ p debt, s.getNftLiquidatePrice decimals (s.loanOn nftAsset nftTokenId).reserveAsset nftAsset
      nftTokenId = .ok p ∧
    s.getLoanReserveBorrowAmount (s.lendPoolLoan.getCollateralLoanId nftAsset nftTokenId)
      = .ok debt ∧
    debt ≤ p.2 ∧ debt ≤ p.1 ∧
    ∀ initiator onBehalfOf e, s.executeAuction D initiator nftAsset nftTokenId p.1 onBehalfOf
      = .error e → ¬ e.BelowDebt

/-- **The advertised price is usable** just for the live loans that owe nothing, as far as a price
can be quoted at all. -/
theorem advertisesUsablePrice_iff {D : Deployment} {allowed : State → Action D → Prop} {s : State}
    (hr : Reachable D allowed s) {nftAsset : Address} {nftTokenId : ℕ}
    (hid : s.lendPoolLoan.getCollateralLoanId nftAsset nftTokenId ≠ 0) (decimals : Address → ℕ) :
    s.AdvertisesUsablePrice D decimals nftAsset nftTokenId ↔
      (s.loanOn nftAsset nftTokenId).scaledAmount = 0 ∧
      Quotable s decimals (s.loanOn nftAsset nftTokenId) := by
  have h := Reachable.books hr
  obtain ⟨hlive, hasset, htoken⟩ := h.loanOn hid
  have hreturns := State.getNftLiquidatePrice_returns_iff decimals (s.loanOn nftAsset nftTokenId)
    hid (by rw [hasset, htoken])
  rw [hasset, htoken] at hreturns
  constructor
  · rintro ⟨p, debt, hp, hdebt, hcovered, -, -⟩
    have hpayback := State.getNftLiquidatePrice_payback.ok hp
    refine ⟨?_, (hreturns.mp ⟨p, hp⟩).1⟩
    -- a loan with a scaled amount owes something, and what is reported is nothing
    by_contra hscaled
    have hpos := getLoanReserveBorrowAmount_pos h (Nat.pos_of_ne_zero hscaled)
      (Reachable.backed hr hlive) hdebt
    omega
  · rintro ⟨hzero, hquotable⟩
    have hdebt := State.getLoanReserveBorrowAmount_of_zero hzero
    obtain ⟨p, hp⟩ := hreturns.mpr ⟨hquotable, 0, hdebt⟩
    refine ⟨p, 0, hp, hdebt, Nat.zero_le _, Nat.zero_le _, fun initiator onBehalfOf e he => ?_⟩
    exact (State.executeAuction_notBelowDebt hzero).error he

/-- The loan of 30 WETH on a token that is worth no more: a price can be quoted, and is not
usable. -/
theorem advertisesUsablePrice_iff_sample :
    Quotable State.largerFallen (fun _ => 18) (State.largerFallen.loanOn 40 7) ∧
    (State.largerFallen.loanOn 40 7).scaledAmount = 30 * WAD ∧
    ¬ State.largerFallen.AdvertisesUsablePrice .larger (fun _ => 18) 40 7 := by
  have hscaled : (State.largerFallen.loanOn 40 7).scaledAmount = 30 * WAD := by decide +kernel
  refine ⟨?_, hscaled, ?_⟩
  · constructor <;> decide +kernel
  · rw [advertisesUsablePrice_iff State.largerFallen_reachable (by decide +kernel), hscaled]
    exact fun h => absurd h.1 (by decide)

/-- The view advertises 28.5 WETH for that loan, and nothing to be paid back. A bid of 28.5 WETH is
refused because it is less than the debt. -/
theorem largerFallen_price_not_usable :
    State.largerFallen.getNftLiquidatePrice (fun _ => 18) 10 40 7 = .ok (28500000000000000000, 0) ∧
    State.largerFallen.getLoanReserveBorrowAmount 1 = .ok (30 * WAD) ∧
    State.largerFallen.executeAuction .larger 103 40 7 28500000000000000000 103
      = .error .LPL_BID_PRICE_LESS_THAN_DEBT_PRICE ∧
    ¬ State.largerFallen.AdvertisesUsablePrice .larger (fun _ => 18) 40 7 := by
  have hview : State.largerFallen.getNftLiquidatePrice (fun _ => 18) 10 40 7
      = .ok (28500000000000000000, 0) := eq_ok_of_toOption (by decide +kernel)
  have hdebt : State.largerFallen.getLoanReserveBorrowAmount 1 = .ok (30 * WAD) :=
    eq_ok_of_toOption (by decide +kernel)
  have hrefused : State.largerFallen.executeAuction .larger 103 40 7 28500000000000000000 103
      = .error .LPL_BID_PRICE_LESS_THAN_DEBT_PRICE := eq_error_of_raised (by decide +kernel)
  refine ⟨hview, hdebt, hrefused, ?_⟩
  rintro ⟨p, debt, hp, hb, hcovered, -⟩
  have hid : State.largerFallen.lendPoolLoan.getCollateralLoanId 40 7 = 1 := by decide +kernel
  have hreserve : (State.largerFallen.loanOn 40 7).reserveAsset = 10 := by decide +kernel
  rw [hreserve, hview] at hp
  rw [hid, hdebt] at hb
  obtain rfl := Except.ok.inj hp
  obtain rfl := Except.ok.inj hb
  exact absurd hcovered (by decide)

end Unlockd

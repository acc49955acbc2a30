/-
Reserves: `InterestRate.sol`, the vault side of `LendingLogic.sol`, and `ReserveLogic.sol`.

A reserve carries two indices, at which the scaled balances of its two tokens are read,
and two rates, at which the indices grow. `updateState` brings the indices up to the
current block at the rates in force; `updateInterestRates` sets the rates for what the
reserve will look like once the operation under way has moved its tokens.
-/
import Unlockd.State
import Unlockd.Configuration

set_option autoImplicit false

namespace Unlockd

open Outcome FixedPoint

/-! ## `InterestRate` -/

namespace InterestRate

/-- With variable debt only, the overall rate is the variable rate up to rounding. -/
def _getOverallBorrowRate (totalVariableDebt currentVariableBorrowRate : ℕ) : Except Error ℕ := do
  if totalVariableDebt = 0 then return 0
  else
    let weighted ← wadToRay totalVariableDebt
    let weightedVariableRate ← rayMul weighted currentVariableBorrowRate
    rayDiv weightedVariableRate weighted

/-- The share of the reserve that is lent out, in ray. -/
def utilizationRate (availableLiquidity totalDebt : ℕ) : Except Error ℕ :=
  if totalDebt = 0 then .ok 0 else rayDiv totalDebt (availableLiquidity + totalDebt)

/-- The variable borrow rate: a base and a slope up to the optimal utilization, a steeper
slope beyond it. -/
def variableBorrowRate (ir : InterestRate) (utilizationRate : ℕ) : Except Error ℕ := do
  if utilizationRate > ir.OPTIMAL_UTILIZATION_RATE then
    let excessUtilizationRateRatio ←
      rayDiv (utilizationRate - ir.OPTIMAL_UTILIZATION_RATE) ir.EXCESS_UTILIZATION_RATE
    let excess ← rayMul ir.variableRateSlope2 excessUtilizationRateRatio
    return ir.baseVariableBorrowRate + ir.variableRateSlope1 + excess
  else
    let scaled ← rayMul utilizationRate ir.variableRateSlope1
    let slope ← rayDiv scaled ir.OPTIMAL_UTILIZATION_RATE
    return ir.baseVariableBorrowRate + slope

/-- The liquidity rate and the variable borrow rate of a reserve. -/
def calculateInterestRates (ir : InterestRate)
    (availableLiquidity totalVariableDebt reserveFactor : ℕ) :
    Except Error (ℕ × ℕ) := do
  let utilization ← utilizationRate availableLiquidity totalVariableDebt
  let currentVariableBorrowRate ← ir.variableBorrowRate utilization
  let overall ← _getOverallBorrowRate totalVariableDebt currentVariableBorrowRate
  let gross ← rayMul overall utilization
  let share ← checkedSub PERCENTAGE_FACTOR reserveFactor
  let currentLiquidityRate ← percentMul gross share
  return (currentLiquidityRate, currentVariableBorrowRate)

end InterestRate

/-! ## `LendingLogic`: the reserve's funds in the vault -/

namespace State

variable (D : Deployment) (s : State)

/-- `IYVault.deposit`, called by `holder`: the vault pulls the amount and gives shares. -/
def vaultDeposit (holder : Address) (amount : ℕ) : Except Error State := do
  let s' ← s.safeTransferFrom D.weth D.yVaultWETH holder D.yVaultWETH amount
  return { s' with yVault := { s.yVault with
    shares := Function.update s.yVault.shares holder
      (s.yVault.shares holder + D.sharesFor s.yVault amount) } }

/-- `IYVault.withdraw`, called by `holder`: the shares go, and their value comes back. -/
def vaultWithdraw (holder : Address) (shares : ℕ) : Except Error (State × ℕ) := do
  require (shares ≤ s.yVault.shares holder) (Error.burnAmountExceedsBalance holder)
  let value := D.valueOf s.yVault shares
  let s' ← s.safeTransfer D.weth D.yVaultWETH holder value
  return ({ s' with yVault := { s.yVault with
    shares := Function.update s.yVault.shares holder (s.yVault.shares holder - shares) } }, value)

/-- `UToken.getAvailableLiquidity`. -/
def getAvailableLiquidity (uToken : Address) : Except Error ℕ :=
  wadMul (s.yVault.shares uToken) s.yVault.pricePerShare

/-- `UToken.depositReserves`, called by `caller`: only WETH goes to the vault. -/
def depositReserves (caller asset uToken : Address) (amount : ℕ) : Except Error State := do
  require ((s.uTokens asset).uTokenManagers caller = true) Error.CALLER_NOT_UTOKEN_MANAGER
  applyIf (asset = D.weth) (fun s => do
    let e ← (s.erc20 asset).safeApprove uToken D.yVaultWETH amount
    (s.setErc20 asset e).vaultDeposit D uToken amount) s

/-- `UToken.withdrawReserves`, called by `caller`; for any other asset than WETH nothing is
withdrawn and the value is zero. -/
def withdrawReserves (caller asset uToken : Address) (amount : ℕ) : Except Error (State × ℕ) := do
  require ((s.uTokens asset).uTokenManagers caller = true) Error.CALLER_NOT_UTOKEN_MANAGER
  if asset = D.weth then
    let shares ← wadDiv amount s.yVault.pricePerShare
    s.vaultWithdraw D uToken shares
  else return (s, 0)

end State

/-! ## `ReserveLogic` -/

namespace ReserveData

/-- `ReserveLogic.init`. -/
def init (reserve : ReserveData) (uTokenAddress interestRateAddress : Address) :
    Except Error ReserveData := do
  require (reserve.uTokenAddress = 0) Error.RL_RESERVE_ALREADY_INITIALIZED
  return { reserve with
    liquidityIndex := RAY
    variableBorrowIndex := RAY
    uTokenAddress := uTokenAddress
    interestRateAddress := interestRateAddress }

/-- The part of `_updateIndexes` under `scaledVariableDebt != 0`. -/
def accrueDebt (reserve : ReserveData) (blockTimestamp : ℕ) : Except Error ReserveData := do
  let cumulatedVariableBorrowInterest ← calculateCompoundedInterest
    reserve.currentVariableBorrowRate reserve.lastUpdateTimestamp blockTimestamp
  let newVariableBorrowIndex ← rayMul cumulatedVariableBorrowInterest reserve.variableBorrowIndex
  require (newVariableBorrowIndex ≤ maxUint128) Error.RL_VARIABLE_BORROW_INDEX_OVERFLOW
  return { reserve with variableBorrowIndex := newVariableBorrowIndex }

/-- The part of `_updateIndexes` under `currentLiquidityRate > 0`. -/
def accrue (reserve : ReserveData) (scaledVariableDebt blockTimestamp : ℕ) :
    Except Error ReserveData := do
  let cumulatedLiquidityInterest ← calculateLinearInterest
    reserve.currentLiquidityRate reserve.lastUpdateTimestamp blockTimestamp
  let newLiquidityIndex ← rayMul cumulatedLiquidityInterest reserve.liquidityIndex
  require (newLiquidityIndex ≤ maxUint128) Error.RL_LIQUIDITY_INDEX_OVERFLOW
  applyIf (scaledVariableDebt ≠ 0) (fun r => r.accrueDebt blockTimestamp)
    { reserve with liquidityIndex := newLiquidityIndex }

/-- `ReserveLogic._updateIndexes`. -/
def _updateIndexes (reserve : ReserveData) (scaledVariableDebt blockTimestamp : ℕ) :
    Except Error ReserveData := do
  let reserve ← applyIf (reserve.currentLiquidityRate > 0)
    (fun r => r.accrue scaledVariableDebt blockTimestamp) reserve
  return { reserve with lastUpdateTimestamp := uint40 blockTimestamp }

/-- The amount `_mintToTreasury` mints: the treasury's share of the debt accrued between two
borrow indices. -/
def amountToMint (reserve : ReserveData)
    (scaledVariableDebt previousVariableBorrowIndex newVariableBorrowIndex : ℕ) :
    Except Error ℕ := do
  let reserveFactor := ReserveConfiguration.getReserveFactor reserve.configuration
  if reserveFactor = 0 then return 0
  else
    let previousVariableDebt ← rayMul scaledVariableDebt previousVariableBorrowIndex
    let currentVariableDebt ← rayMul scaledVariableDebt newVariableBorrowIndex
    let totalDebtAccrued ← checkedSub currentVariableDebt previousVariableDebt
    percentMul totalDebtAccrued reserveFactor

/-- `ReserveLogic.getNormalizedIncome`. -/
def getNormalizedIncome (reserve : ReserveData) (blockTimestamp : ℕ) : Except Error ℕ := do
  if reserve.lastUpdateTimestamp = uint40 blockTimestamp then return reserve.liquidityIndex
  else
    let cumulated ← calculateLinearInterest
      reserve.currentLiquidityRate reserve.lastUpdateTimestamp blockTimestamp
    rayMul cumulated reserve.liquidityIndex

/-- `ReserveLogic.getNormalizedDebt`. -/
def getNormalizedDebt (reserve : ReserveData) (blockTimestamp : ℕ) : Except Error ℕ := do
  if reserve.lastUpdateTimestamp = uint40 blockTimestamp then return reserve.variableBorrowIndex
  else
    let cumulated ← calculateCompoundedInterest
      reserve.currentVariableBorrowRate reserve.lastUpdateTimestamp blockTimestamp
    rayMul cumulated reserve.variableBorrowIndex

/-- `ReserveLogic.cumulateToLiquidityIndex`. -/
def cumulateToLiquidityIndex (reserve : ReserveData) (totalLiquidity amount : ℕ) :
    Except Error ReserveData := do
  let amountRay ← wadToRay amount
  let totalRay ← wadToRay totalLiquidity
  let amountToLiquidityRatio ← rayDiv amountRay totalRay
  let result ← rayMul (amountToLiquidityRatio + RAY) reserve.liquidityIndex
  require (result ≤ maxUint128) Error.RL_LIQUIDITY_INDEX_OVERFLOW
  return { reserve with liquidityIndex := result }

/-- The end of `updateInterestRates`: store the rates if they fit. -/
def setRates (reserve : ReserveData) (rates : ℕ × ℕ) : Except Error ReserveData := do
  require (rates.1 ≤ maxUint128) Error.RL_LIQUIDITY_RATE_OVERFLOW
  require (rates.2 ≤ maxUint128) Error.RL_VARIABLE_BORROW_RATE_OVERFLOW
  return { reserve with currentLiquidityRate := rates.1, currentVariableBorrowRate := rates.2 }

end ReserveData

namespace State

variable (s : State)

/-- `ReserveLogic._mintToTreasury`. -/
def _mintToTreasury (asset : Address) (scaledVariableDebt previousVariableBorrowIndex : ℕ) :
    Except Error State := do
  let reserve := s.lendPool.reserves asset
  let amount ← reserve.amountToMint scaledVariableDebt previousVariableBorrowIndex
    reserve.variableBorrowIndex
  let u ← (s.uTokens asset).mintToTreasury amount reserve.liquidityIndex
  return s.setUToken asset u

/-- `ReserveLogic.updateState`. -/
def updateState (asset : Address) : Except Error State := do
  let reserve := s.lendPool.reserves asset
  let scaledVariableDebt := (s.debtTokens asset).scaledTotalSupply
  let reserve' ← reserve._updateIndexes scaledVariableDebt s.blockTimestamp
  (s.setReserve asset reserve')._mintToTreasury asset scaledVariableDebt reserve.variableBorrowIndex

/-- The rates `updateInterestRates` is to store: those of the reserve with `liquidityAdded`
put in and `liquidityTaken` taken out. -/
def ratesFor (asset uToken : Address) (liquidityAdded liquidityTaken : ℕ) :
    Except Error (ℕ × ℕ) := do
  let reserve := s.lendPool.reserves asset
  let totalVariableDebt ← rayMul (s.debtTokens asset).scaledTotalSupply reserve.variableBorrowIndex
  let available ← s.getAvailableLiquidity uToken
  let availableLiquidity ← checkedSub (available + liquidityAdded) liquidityTaken
  (s.interestRates reserve.interestRateAddress).calculateInterestRates availableLiquidity
    totalVariableDebt (ReserveConfiguration.getReserveFactor reserve.configuration)

/-- `ReserveLogic.updateInterestRates`. -/
def updateInterestRates (asset uToken : Address) (liquidityAdded liquidityTaken : ℕ) :
    Except Error State := do
  let rates ← s.ratesFor asset uToken liquidityAdded liquidityTaken
  let reserve' ← (s.lendPool.reserves asset).setRates rates
  return s.setReserve asset reserve'

/-- `LendPool.updateReserveState`. -/
def updateReserveState (asset : Address) : Except Error State := do
  require ((s.lendPool.reserves asset).uTokenAddress ≠ 0) Error.VL_INVALID_RESERVE_ADDRESS
  require (getActive (s.lendPool.reserves asset).configuration = true) Error.VL_NO_ACTIVE_RESERVE
  s.updateState asset

/-- `LendPool.updateReserveInterestRates`. -/
def updateReserveInterestRates (asset : Address) : Except Error State := do
  let uToken := (s.lendPool.reserves asset).uTokenAddress
  require (uToken ≠ 0) Error.VL_INVALID_RESERVE_ADDRESS
  require (getActive (s.lendPool.reserves asset).configuration = true) Error.VL_NO_ACTIVE_RESERVE
  s.updateInterestRates asset uToken 0 0

end State

/-! ## What bringing a reserve up to date does -/

namespace ReserveData

variable {reserve R : ReserveData} {scaledVariableDebt now : ℕ}

/-- The liquidity index that `_updateIndexes` stores: grown linearly at a positive rate. -/
def NextLiquidityIndex (reserve : ReserveData) (now index : ℕ) : Prop :=
  (reserve.currentLiquidityRate = 0 → index = reserve.liquidityIndex) ∧
  (reserve.currentLiquidityRate ≠ 0 → ∃ f,
    calculateLinearInterest reserve.currentLiquidityRate reserve.lastUpdateTimestamp now = .ok f ∧
    rayMul f reserve.liquidityIndex = .ok index)

/-- The borrow index that `_updateIndexes` stores: compounded when there is debt, but only
under a positive *liquidity* rate. -/
def NextBorrowIndex (reserve : ReserveData) (scaledVariableDebt now index : ℕ) : Prop :=
  (reserve.currentLiquidityRate = 0 ∨ scaledVariableDebt = 0 →
    index = reserve.variableBorrowIndex) ∧
  (reserve.currentLiquidityRate ≠ 0 → scaledVariableDebt ≠ 0 → ∃ g,
    calculateCompoundedInterest reserve.currentVariableBorrowRate reserve.lastUpdateTimestamp now
      = .ok g ∧
    rayMul g reserve.variableBorrowIndex = .ok index)

/-- The reserve with new indices, as of `now`. -/
def withIndices (reserve : ReserveData) (liquidityIndex variableBorrowIndex now : ℕ) :
    ReserveData :=
  { reserve with
    liquidityIndex := liquidityIndex
    variableBorrowIndex := variableBorrowIndex
    lastUpdateTimestamp := uint40 now }

/-- **Accrual.** `_updateIndexes` writes the two next indices and the time stamp. -/
theorem _updateIndexes_spec : Sat (reserve._updateIndexes scaledVariableDebt now)
    (fun R => ∃ i j, R = reserve.withIndices i j now ∧ reserve.NextLiquidityIndex now i ∧
      reserve.NextBorrowIndex scaledVariableDebt now j) Error.Benign := by
  refine Sat.bind (P := fun R => ∃ i j, R = { reserve with
      liquidityIndex := i, variableBorrowIndex := j } ∧ reserve.NextLiquidityIndex now i ∧
      reserve.NextBorrowIndex scaledVariableDebt now j) ?_ fun R hR => ?_
  · refine Sat.applyIf (fun hrate => ?_) fun hrate => ?_
    · have hne : reserve.currentLiquidityRate ≠ 0 := Nat.ne_of_gt hrate
      refine Sat.bind calculateLinearInterest_benign fun f hf => ?_
      refine Sat.bind unitMul_benign fun i hi => ?_
      refine Sat.bind (Sat.require fun _ => trivial) fun _ _ => ?_
      have hli : reserve.NextLiquidityIndex now i := ⟨fun h => absurd h hne, fun _ => ⟨f, hf, hi⟩⟩
      refine Sat.applyIf (fun hdebt => ?_) fun hdebt => ?_
      · refine Sat.bind calculateCompoundedInterest_benign fun g hg => ?_
        refine Sat.bind unitMul_benign fun j hj => ?_
        refine Sat.bind (Sat.require fun _ => trivial) fun _ _ => ?_
        exact ⟨i, j, rfl, hli, fun h => absurd h (by simp [hne, hdebt]), fun _ _ => ⟨g, hg, hj⟩⟩
      · exact ⟨i, _, rfl, hli, fun _ => rfl, fun _ h => absurd h hdebt⟩
    · have hz : reserve.currentLiquidityRate = 0 := by omega
      exact ⟨_, _, rfl, ⟨fun _ => rfl, fun h => absurd hz h⟩, fun _ => rfl, fun h => absurd hz h⟩
  · obtain ⟨i, j, rfl, hi, hj⟩ := hR
    exact ⟨i, j, rfl, hi, hj⟩

/-- An index that was at least one ray still is, and no index falls. -/
theorem NextLiquidityIndex.le {i : ℕ} (h : reserve.NextLiquidityIndex now i) :
    reserve.liquidityIndex ≤ i := by
  by_cases hz : reserve.currentLiquidityRate = 0
  · exact (h.1 hz).ge
  · obtain ⟨f, hf, hi⟩ := h.2 hz
    exact le_rayMul (RAY_le_linear hf) hi

theorem NextBorrowIndex.le {j : ℕ} (h : reserve.NextBorrowIndex scaledVariableDebt now j) :
    reserve.variableBorrowIndex ≤ j := by
  by_cases hz : reserve.currentLiquidityRate = 0 ∨ scaledVariableDebt = 0
  · exact (h.1 hz).ge
  · obtain ⟨hr, hd⟩ := not_or.mp hz
    obtain ⟨g, hg, hj⟩ := h.2 hr hd
    exact le_rayMul (RAY_le_compounded hg) hj

/-- In the block of the last update the view reads the stored index. -/
theorem getNormalizedDebt_of_updated (h : reserve.lastUpdateTimestamp = uint40 now) :
    reserve.getNormalizedDebt now = .ok reserve.variableBorrowIndex :=
  if_pos h

/-- At any time it reads an index no smaller than the stored one. -/
theorem le_getNormalizedDebt {j : ℕ} (h : reserve.getNormalizedDebt now = .ok j) :
    reserve.variableBorrowIndex ≤ j := by
  unfold getNormalizedDebt at h
  split at h
  · exact (Except.ok.inj h).le
  · obtain ⟨f, hf, h⟩ := bind_eq_ok.mp h
    exact le_rayMul (RAY_le_compounded hf) h

/-- What setting the rates leaves. -/
theorem setRates_eq {rates : ℕ × ℕ} (h : reserve.setRates rates = .ok R) :
    R = { reserve with currentLiquidityRate := rates.1, currentVariableBorrowRate := rates.2 } := by
  obtain ⟨-, h⟩ := require_bind_eq_ok.mp h
  obtain ⟨-, h⟩ := require_bind_eq_ok.mp h
  exact (Except.ok.inj h).symm

theorem setRates_benign {rates : ℕ × ℕ} :
    Sat (reserve.setRates rates) (fun R => reserve.setRates rates = .ok R) Error.Benign := by
  refine Sat.self (Q := fun _ => True) (Sat.bind (Sat.require fun _ => trivial) fun _ _ => ?_)
  exact Sat.bind (Sat.require fun _ => trivial) fun _ _ => trivial

theorem amountToMint_benign {reserve : ReserveData} {debt i j : ℕ} :
    Sat (reserve.amountToMint debt i j) (fun a => reserve.amountToMint debt i j = .ok a)
      Error.Benign := by
  refine Sat.self (Q := fun _ => True) (Sat.ite (fun _ => trivial) fun _ => ?_)
  refine Sat.bind unitMul_benign fun _ _ => Sat.bind unitMul_benign fun _ _ => ?_
  exact Sat.bind checkedSub_benign fun _ _ => unitMul_benign.imp fun _ _ => trivial

/-- Nothing accrues on no debt. -/
theorem amountToMint_none {reserve : ReserveData} {i j n : ℕ}
    (h : reserve.amountToMint 0 i j = .ok n) : n = 0 := by
  unfold amountToMint rayMul percentMul at h
  simp only [unitMul_zero_left, ok_bind] at h
  split at h
  · exact (Except.ok.inj h).symm
  · obtain ⟨accrued, haccrued, h⟩ := bind_eq_ok.mp h
    obtain ⟨-, haccrued⟩ := require_bind_eq_ok.mp haccrued
    obtain rfl := Except.ok.inj haccrued
    rw [Nat.sub_self, unitMul_zero_left] at h
    exact (Except.ok.inj h).symm

end ReserveData

namespace InterestRate

/-- The rate model raises only errors of arithmetic. -/
theorem calculateInterestRates_benign {ir : InterestRate} {a d f : ℕ} :
    Sat (ir.calculateInterestRates a d f) (fun r => ir.calculateInterestRates a d f = .ok r)
      Error.Benign := by
  refine Sat.self (Q := fun _ => True) ?_
  refine Sat.bind (P := fun _ => True) ?_ fun u _ => ?_
  · exact Sat.ite (fun _ => trivial) fun _ => unitDiv_benign.imp fun _ _ => trivial
  refine Sat.bind (P := fun _ => True) ?_ fun r _ => ?_
  · refine Sat.ite (fun _ => ?_) fun _ => ?_
    · exact Sat.bind unitDiv_benign fun _ _ => Sat.bind unitMul_benign fun _ _ => trivial
    · exact Sat.bind unitMul_benign fun _ _ => Sat.bind unitDiv_benign fun _ _ => trivial
  refine Sat.bind (P := fun _ => True) ?_ fun o _ => ?_
  · refine Sat.ite (fun _ => trivial) fun _ => ?_
    refine Sat.bind (P := fun _ => True) (Sat.bind (Sat.require fun _ => trivial)
      fun _ _ => trivial)
      fun _ _ => ?_
    exact Sat.bind unitMul_benign fun _ _ => unitDiv_benign.imp fun _ _ => trivial
  refine Sat.bind unitMul_benign fun _ _ => Sat.bind checkedSub_benign fun _ _ => ?_
  exact Sat.bind unitMul_benign fun _ _ => trivial

end InterestRate

namespace State

variable {s : State} {asset : Address}

/-- What `updateState` does to the reserves: the one under `asset` is brought up to the current
block. -/
def Updated (s : State) (asset : Address) (Rs : Address → ReserveData) : Prop :=
  (∀ r, r ≠ asset → Rs r = s.lendPool.reserves r) ∧
    (s.lendPool.reserves asset)._updateIndexes (s.debtTokens asset).scaledTotalSupply
      s.blockTimestamp
      = .ok (Rs asset)

theorem Updated.indices {Rs : Address → ReserveData} (hu : s.Updated asset Rs) : ∃ i j,
    Rs asset = (s.lendPool.reserves asset).withIndices i j s.blockTimestamp ∧
    (s.lendPool.reserves asset).NextLiquidityIndex s.blockTimestamp i ∧
    (s.lendPool.reserves asset).NextBorrowIndex (s.debtTokens asset).scaledTotalSupply
      s.blockTimestamp j :=
  ReserveData._updateIndexes_spec.ok hu.2

/-- **`updateState` on the whole state.** The reserve is brought up to the current block and
the treasury of its uToken may be credited; nothing else changes. -/
theorem updateState_spec : Sat (s.updateState asset)
    (fun s' => ∃ Rs U, s' = (s.withReserves Rs).withUTokens U ∧
      s.Updated asset Rs) Error.Benign := by
  refine Sat.bind (Sat.self ReserveData._updateIndexes_spec) fun R hR => ?_
  refine Sat.bind ReserveData.amountToMint_benign fun a _ => ?_
  refine Sat.bind (P := fun _ => True) ?_ fun u _ => ⟨_, _, rfl, fun r hr => ?_, ?_⟩
  · refine Sat.ite (fun _ => trivial) fun _ => Sat.bind unitDiv_benign fun _ _ => ?_
    exact Sat.bind (Sat.require fun _ => trivial) fun _ _ => trivial
  · exact Function.update_of_ne hr _ _
  · exact hR.trans (by rw [Function.update_self])

theorem ratesFor_benign {uToken : Address} {added taken : ℕ} :
    Sat (s.ratesFor asset uToken added taken) (fun r => s.ratesFor asset uToken added taken = .ok r)
      Error.Benign := by
  refine Sat.self (Q := fun _ => True) ?_
  refine Sat.bind unitMul_benign fun _ _ => Sat.bind unitMul_benign fun _ _ => ?_
  exact Sat.bind checkedSub_benign fun _ _ => InterestRate.calculateInterestRates_benign.imp
    fun _ _ => trivial

/-- What `updateInterestRates` does to the reserves: the one under `asset` gets the rates asked
for, and keeps everything else. -/
def Priced (s : State) (asset uToken : Address) (added taken : ℕ) (Rs : Address → ReserveData) :
    Prop :=
  (∀ r, r ≠ asset → Rs r = s.lendPool.reserves r) ∧ ∃ rates,
    s.ratesFor asset uToken added taken = .ok rates ∧
    (s.lendPool.reserves asset).setRates rates = .ok (Rs asset)

/-- **`updateInterestRates` on the whole state.** Only the two rates of the reserve change. -/
theorem updateInterestRates_spec {uToken : Address} {added taken : ℕ} :
    Sat (s.updateInterestRates asset uToken added taken)
      (fun s' => ∃ Rs, s' = s.withReserves Rs ∧
        s.Priced asset uToken added taken Rs) Error.Benign := by
  refine Sat.bind ratesFor_benign fun rates hr => ?_
  refine Sat.bind ReserveData.setRates_benign fun R hR => ?_
  exact ⟨_, rfl, fun r hne => Function.update_of_ne hne _ _, rates, hr,
    hR.trans (by rw [Function.update_self])⟩

/-- Every initialised reserve has indices of at least one ray. -/
def IndicesSound (Rs : Address → ReserveData) : Prop :=
  ∀ r, (Rs r).uTokenAddress ≠ 0 → RAY ≤ (Rs r).liquidityIndex ∧ RAY ≤ (Rs r).variableBorrowIndex

/-- What an operation on a reserve does to the reserves: the one under `asset` is first brought
up to the current block and then gets new rates. -/
def Refreshed (s : State) (asset : Address) (Rs : Address → ReserveData) : Prop :=
  (∀ r, r ≠ asset → Rs r = s.lendPool.reserves r) ∧ ∃ R rates,
    (s.lendPool.reserves asset)._updateIndexes (s.debtTokens asset).scaledTotalSupply
      s.blockTimestamp
      = .ok R ∧ R.setRates rates = .ok (Rs asset)

theorem Refreshed.lastUpdateTimestamp {Rs : Address → ReserveData} (h : s.Refreshed asset Rs) :
    (Rs asset).lastUpdateTimestamp = uint40 s.blockTimestamp := by
  obtain ⟨-, R, rates, hR, hRs⟩ := h
  obtain ⟨i, j, rfl, -, -⟩ := ReserveData._updateIndexes_spec.ok hR
  rw [ReserveData.setRates_eq hRs]
  rfl

/-- A reserve updated and then priced is refreshed. -/
theorem Updated.refreshed {Rs Rs' : Address → ReserveData} (hu : s.Updated asset Rs)
    (ho : ∀ r, r ≠ asset → Rs' r = Rs r) {rates : ℕ × ℕ}
    (hp : (Rs asset).setRates rates = .ok (Rs' asset)) : s.Refreshed asset Rs' :=
  ⟨fun r hr => (ho r hr).trans (hu.1 r hr), Rs asset, rates, hu.2, hp⟩

/-- Rates set in a state whose reserves have been updated. -/
theorem Updated.thenPriced {s₁ : State} {Rs Rs' : Address → ReserveData} {uToken : Address}
    {added taken : ℕ} (hu : s.Updated asset Rs) (hp : s₁.Priced asset uToken added taken Rs')
    (hs : s₁.lendPool.reserves = Rs) : s.Refreshed asset Rs' := by
  obtain ⟨hother, rates, -, hR⟩ := hp
  rw [hs] at hother hR
  exact hu.refreshed hother hR

theorem Updated.uTokenAddress {Rs : Address → ReserveData} (hu : s.Updated asset Rs) :
    (Rs asset).uTokenAddress = (s.lendPool.reserves asset).uTokenAddress := by
  obtain ⟨i, j, hR, -⟩ := hu.indices
  rw [hR]
  rfl

/-- After the update the stored borrow index is the one the views read, and at least one ray. -/
theorem Updated.index {Rs : Address → ReserveData} (hu : s.Updated asset Rs)
    (hs : IndicesSound s.lendPool.reserves) (h0 : (s.lendPool.reserves asset).uTokenAddress ≠ 0) :
    (Rs asset).lastUpdateTimestamp = uint40 s.blockTimestamp ∧
      RAY ≤ (Rs asset).variableBorrowIndex := by
  obtain ⟨i, j, hR, -, hj⟩ := hu.indices
  rw [hR]
  exact ⟨rfl, (hs asset h0).2.trans hj.le⟩

theorem updateReserveState_spec : Sat (s.updateReserveState asset)
    (fun s' => (s.lendPool.reserves asset).uTokenAddress ≠ 0 ∧ ∃ Rs U,
      s' = (s.withReserves Rs).withUTokens U ∧
      s.Updated asset Rs) Error.Benign := by
  refine Sat.bind (Sat.require fun _ => trivial) fun _ hu => ?_
  refine Sat.bind (Sat.require fun _ => trivial) fun _ _ => ?_
  exact updateState_spec.imp fun _ h => ⟨hu, h⟩

theorem updateReserveInterestRates_spec : Sat (s.updateReserveInterestRates asset)
    (fun s' => ∃ Rs, s' = s.withReserves Rs ∧
      s.Priced asset (s.lendPool.reserves asset).uTokenAddress 0 0 Rs) Error.Benign := by
  refine Sat.bind (Sat.require fun _ => trivial) fun _ _ => ?_
  refine Sat.bind (Sat.require fun _ => trivial) fun _ _ => ?_
  exact updateInterestRates_spec

end State

end Unlockd

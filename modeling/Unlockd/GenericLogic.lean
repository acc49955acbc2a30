/-
`GenericLogic.sol` and `ValidationLogic.sol`: what a loan is worth, and the checks an
operation makes before it touches anything.

A collateral token is priced in ether by the NFT oracle and converted to the reserve asset
of its loan. From the price, the debt and the configuration of the token come the health
factor, the liquidation price, the fine for redeeming, and the range of amounts a
redemption may repay.
-/
import Unlockd.DebtMarket

set_option autoImplicit false

namespace Unlockd

open Outcome

def HEALTH_FACTOR_LIQUIDATION_THRESHOLD : ℕ := WAD

/-- The collateral at its threshold over the debt, in wad; without debt the largest number. -/
def calculateHealthFactorFromBalances (totalCollateral totalDebt liquidationThreshold : ℕ) :
    Except Error ℕ := do
  if totalDebt = 0 then return maxUint256
  else
    let covered ← percentMul totalCollateral liquidationThreshold
    wadDiv covered totalDebt

def calculateOptimalMaxRedeemValue (debt minRedeem : ℕ) : Except Error ℕ := do
  let above ← checkedSub debt minRedeem
  let half ← wadDiv above (2 * WAD)
  checkedSub debt half

namespace State

variable (D : Deployment) (s : State)

/-- `NFTOracle.getNFTPrice`. -/
def getNFTPrice (nftAsset : Address) (nftTokenId : ℕ) : Except Error ℕ := do
  require (s.nftPrices nftAsset nftTokenId ≠ 0) Error.PriceIsZero
  return s.nftPrices nftAsset nftTokenId

/-- `10 ** decimals` of a reserve. -/
def reserveUnit (asset : Address) : Except Error ℕ :=
  checkedPow 10 (ReserveConfiguration.getDecimals (s.lendPool.reserves asset).configuration)

/-- An amount in ether as one of the reserve asset, in the way all prices are converted. -/
def inReserve (asset : Address) (amountInETH : ℕ) : Except Error ℕ := do
  let reserveUnit ← s.reserveUnit asset
  let amount ← checkedMul amountInETH reserveUnit
  checkedDiv amount (s.getAssetPrice asset)

/-- `calculateNftDebtData`: the debt of a loan in ether and in the reserve asset. -/
def calculateNftDebtData (asset : Address) (loanId : ℕ) : Except Error (ℕ × ℕ) := do
  let reserveUnit ← s.reserveUnit asset
  let totalDebtInReserve ← s.getLoanReserveBorrowAmount loanId
  let amount ← checkedMul totalDebtInReserve (s.getAssetPrice asset)
  let totalDebtInETH ← checkedDiv amount reserveUnit
  return (totalDebtInETH, totalDebtInReserve)

/-- `calculateNftCollateralData`: the price of a token in ether and in the reserve asset. -/
def calculateNftCollateralData (asset nftAsset : Address) (nftTokenId : ℕ) :
    Except Error (ℕ × ℕ) := do
  let totalCollateralInETH ← s.getNFTPrice nftAsset nftTokenId
  if asset = 0 then return (totalCollateralInETH, 0)
  else
    let totalCollateralInReserve ← s.inReserve asset totalCollateralInETH
    return (totalCollateralInETH, totalCollateralInReserve)

/-- The debt `calculateLoanData` works with: none when there is no loan yet. -/
def debtOfLoan (asset : Address) (loanId : ℕ) : Except Error ℕ := do
  if loanId = 0 then return 0
  else
    let debt ← s.calculateNftDebtData asset loanId
    return debt.2

/-- `calculateLoanData`: collateral and debt in the reserve asset, and the health factor. -/
def calculateLoanData (asset nftAsset : Address) (nftTokenId : ℕ) (nftConfig : BitVec 256)
    (loanId : ℕ) : Except Error (ℕ × ℕ × ℕ) := do
  let totalDebt ← s.debtOfLoan asset loanId
  let collateral ← s.calculateNftCollateralData asset nftAsset nftTokenId
  let healthFactor ← calculateHealthFactorFromBalances collateral.2 totalDebt
    (getLiquidationThreshold nftConfig)
  return (collateral.2, totalDebt, healthFactor)

/-- `calculateOptimalMinRedeemValue`. -/
def calculateOptimalMinRedeemValue (borrowAmount : ℕ) (nftAsset : Address) (nftTokenId : ℕ)
    (liquidationThreshold safeHealthFactor : ℕ) : Except Error ℕ := do
  let nftUnitPrice ← s.getNFTPrice nftAsset nftTokenId
  let threshold ← percentMul nftUnitPrice liquidationThreshold
  let safe ← wadDiv threshold safeHealthFactor
  let minRedeemValue ← checkedSub borrowAmount safe
  return if nftUnitPrice < minRedeemValue then nftUnitPrice else minRedeemValue

/-- `calculateLoanLiquidatePrice`: the debt, and the threshold and liquidation prices. -/
def calculateLoanLiquidatePrice (loanId : ℕ) (asset nftAsset : Address) (nftTokenId : ℕ)
    (nftConfig : BitVec 256) : Except Error (ℕ × ℕ × ℕ) := do
  let borrowAmount ← s.getLoanReserveBorrowAmount loanId
  let nftPriceInETH ← s.getNFTPrice nftAsset nftTokenId
  let nftPriceInReserve ← s.inReserve asset nftPriceInETH
  let thresholdPrice ← percentMul nftPriceInReserve (getLiquidationThreshold nftConfig)
  let share ← checkedSub PERCENTAGE_FACTOR (getLiquidationBonus nftConfig)
  let liquidatePrice ← percentMul nftPriceInReserve share
  return (borrowAmount, thresholdPrice, liquidatePrice)

/-- `calculateLoanBidFine`: the minimum fine and the fine; without a bid there is none. -/
def calculateLoanBidFine (asset : Address) (nftConfig : BitVec 256) (loanData : LoanData) :
    Except Error (ℕ × ℕ) := do
  if loanData.bidPrice = 0 then return (0, 0)
  else
    let baseBidFineInReserve ← s.inReserve asset WAD
    let minBidFineInReserve ← percentMul baseBidFineInReserve
      (NftConfiguration.getMinBidFine nftConfig)
    let debtAmount ← s.getLoanReserveBorrowAmount loanData.loanId
    let bidFineInReserve ← percentMul debtAmount (NftConfiguration.getRedeemFine nftConfig)
    return (minBidFineInReserve, max bidFineInReserve minBidFineInReserve)

/-! ## `ValidationLogic` -/

/-- `validateDeposit`. -/
def validateDeposit (asset : Address) (amount : ℕ) : Except Error Unit := do
  let configuration := (s.lendPool.reserves asset).configuration
  require (amount ≠ 0) Error.VL_INVALID_AMOUNT
  require (getActive configuration = true) Error.VL_NO_ACTIVE_RESERVE
  require (getFrozen configuration = false) Error.VL_RESERVE_FROZEN

/-- `validateWithdraw`. -/
def validateWithdraw (asset uToken : Address) (amount userBalance : ℕ) : Except Error Unit := do
  require (amount ≠ 0) Error.VL_INVALID_AMOUNT
  require (amount ≤ userBalance) Error.VL_NOT_ENOUGH_AVAILABLE_USER_BALANCE
  require (getActive (s.lendPool.reserves asset).configuration = true) Error.VL_NO_ACTIVE_RESERVE
  let availableLiquidity ← s.getAvailableLiquidity uToken
  require (amount ≤ availableLiquidity) Error.LP_RESERVES_WITHOUT_ENOUGH_LIQUIDITY

/-- The part of `validateBorrow` about a loan that exists already. -/
def validateLoanOf (asset onBehalfOf : Address) (loanId : ℕ) : Except Error Unit :=
  if loanId = 0 then .ok ()
  else do
    let loanData := s.lendPoolLoan.getLoan loanId
    require (loanData.state = .Active) Error.LPL_INVALID_LOAN_STATE
    require (asset = loanData.reserveAsset) Error.VL_SPECIFIED_RESERVE_NOT_BORROWED_BY_USER
    require (onBehalfOf = loanData.borrower) Error.VL_SPECIFIED_LOAN_NOT_BORROWED_BY_USER

/-- `validateBorrow`. -/
def validateBorrow (asset : Address) (amount : ℕ) (nftAsset : Address) (nftTokenId : ℕ)
    (onBehalfOf : Address) (loanId : ℕ) : Except Error Unit := do
  let reserveData := s.lendPool.reserves asset
  let nftData := s.lendPool.nfts nftAsset
  let nftConfig := s.lendPool.nftConfig nftAsset nftTokenId
  require (reserveData.uTokenAddress ≠ 0) Error.VL_INVALID_RESERVE_ADDRESS
  require (nftData.uNftAddress ≠ 0) Error.LPC_INVALID_UNFT_ADDRESS
  require (amount > 0) Error.VL_INVALID_AMOUNT
  s.validateLoanOf asset onBehalfOf loanId
  require (getActive reserveData.configuration = true) Error.VL_NO_ACTIVE_RESERVE
  require (getFrozen reserveData.configuration = false) Error.VL_RESERVE_FROZEN
  require (ReserveConfiguration.getBorrowingEnabled reserveData.configuration = true)
    Error.VL_BORROWING_NOT_ENABLED
  require (getActive nftData.configuration = true) Error.VL_NO_ACTIVE_NFT
  require (getFrozen nftData.configuration = false) Error.VL_NFT_FROZEN
  -- the token has a configuration of its own beside that of its collection
  require (getActive nftConfig = true) Error.VL_NO_ACTIVE_NFT
  require (getFrozen nftConfig = false) Error.VL_NFT_FROZEN
  require (s.blockTimestamp ≤ NftConfiguration.getConfigTimestamp nftConfig + s.lendPool.timeframe)
    Error.VL_TIMEFRAME_EXCEEDED
  let health ← s.calculateLoanData asset nftAsset nftTokenId nftConfig loanId
  require (health.1 ≠ 0) Error.VL_COLLATERAL_BALANCE_IS_0
  require (health.2.2 > HEALTH_FACTOR_LIQUIDATION_THRESHOLD)
    Error.VL_HEALTH_FACTOR_LOWER_THAN_LIQUIDATION_THRESHOLD
  let amountOfCollateralNeeded ← percentDiv (health.2.1 + amount) (getLtv nftConfig)
  require (amountOfCollateralNeeded ≤ health.1) Error.VL_COLLATERAL_CANNOT_COVER_NEW_BORROW

/-- The five checks with which the validation of every operation on a loan starts. -/
def validateCollateral (loanData : LoanData) (nftConfig : BitVec 256) : Except Error Unit := do
  require ((s.lendPool.nfts loanData.nftAsset).uNftAddress ≠ 0) Error.LPC_INVALID_UNFT_ADDRESS
  require ((s.lendPool.reserves loanData.reserveAsset).uTokenAddress ≠ 0)
    Error.VL_INVALID_RESERVE_ADDRESS
  require (getActive (s.lendPool.reserves loanData.reserveAsset).configuration = true)
    Error.VL_NO_ACTIVE_RESERVE
  require (getActive (s.lendPool.nfts loanData.nftAsset).configuration = true)
    Error.VL_NO_ACTIVE_NFT
  require (getActive nftConfig = true) Error.VL_NO_ACTIVE_NFT

/-- `validateRepay`. -/
def validateRepay (loanData : LoanData) (nftConfig : BitVec 256) (amountSent borrowAmount : ℕ) :
    Except Error Unit := do
  s.validateCollateral loanData nftConfig
  require (amountSent > 0) Error.VL_INVALID_AMOUNT
  require (borrowAmount > 0) Error.VL_NO_DEBT_OF_SELECTED_TYPE
  require (loanData.state = .Active) Error.LPL_INVALID_LOAN_STATE

/-- `validateRedeem`. -/
def validateRedeem (loanData : LoanData) (nftConfig : BitVec 256) (amount : ℕ) :
    Except Error Unit := do
  s.validateCollateral loanData nftConfig
  require (loanData.state = .Auction) Error.LPL_INVALID_LOAN_STATE
  require (amount > 0) Error.VL_INVALID_AMOUNT

/-- `validateAuction`. -/
def validateAuction (loanData : LoanData) (nftConfig : BitVec 256) (bidPrice : ℕ) :
    Except Error Unit := do
  s.validateCollateral loanData nftConfig
  require (loanData.state = .Active ∨ loanData.state = .Auction) Error.LPL_INVALID_LOAN_STATE
  require (bidPrice > 0) Error.VL_INVALID_AMOUNT

/-- `validateBuyout`. -/
def validateBuyout (loanData : LoanData) (nftConfig : BitVec 256) : Except Error Unit := do
  s.validateCollateral loanData nftConfig
  require (loanData.state = .Active ∨ loanData.state = .Auction) Error.LPL_INVALID_LOAN_STATE

/-- `validateLiquidate`. -/
def validateLiquidate (loanData : LoanData) (nftConfig : BitVec 256) : Except Error Unit := do
  s.validateCollateral loanData nftConfig
  require (loanData.state = .Auction) Error.LPL_INVALID_LOAN_STATE

end State

/-! ## What the checks establish -/

/-- The errors of a computation alone, when nothing is asked of its value. -/
theorem Benign.of {α : Type} {x : Except Error α} {Q : α → Prop} (h : Sat x Q Error.Benign) :
    Sat x (fun _ => True) Error.Benign := h.imp fun _ _ => trivial

theorem checkedDiv_benign {a b : ℕ} : Sat (checkedDiv a b) (fun _ => True) Error.Benign :=
  Sat.bind (Sat.require fun _ => trivial) fun _ _ => trivial

theorem checkedMul_benign {a b : ℕ} : Sat (checkedMul a b) (fun _ => True) Error.Benign :=
  Sat.bind (Sat.require fun _ => trivial) fun _ _ => trivial

theorem checkedPow_benign {a b : ℕ} : Sat (checkedPow a b) (fun _ => True) Error.Benign :=
  Sat.bind (Sat.require fun _ => trivial) fun _ _ => trivial

theorem calculateHealthFactorFromBalances_benign {c d t : ℕ} :
    Sat (calculateHealthFactorFromBalances c d t) (fun _ => True) Error.Benign :=
  Sat.ite (fun _ => trivial) fun _ => Sat.bind unitMul_benign fun _ _ => Benign.of unitDiv_benign

/-- No redemption repays more than the debt. -/
theorem calculateOptimalMaxRedeemValue_le {debt minRedeem : ℕ} :
    Sat (calculateOptimalMaxRedeemValue debt minRedeem) (· ≤ debt) Error.Benign := by
  refine Sat.bind checkedSub_benign fun _ _ => ?_
  refine Sat.bind unitDiv_benign fun half _ => ?_
  refine checkedSub_benign.imp fun c hc => ?_
  rw [hc.2]
  exact Nat.sub_le _ _

namespace State

variable {s : State}

theorem getNFTPrice_benign {nftAsset : Address} {nftTokenId : ℕ} :
    Sat (s.getNFTPrice nftAsset nftTokenId) (fun _ => True) Error.Benign :=
  Sat.bind (Sat.require fun _ => trivial) fun _ _ => trivial

theorem inReserve_benign {asset : Address} {amountInETH : ℕ} :
    Sat (s.inReserve asset amountInETH) (fun _ => True) Error.Benign :=
  Sat.bind checkedPow_benign fun _ _ => Sat.bind checkedMul_benign fun _ _ => checkedDiv_benign

theorem calculateNftCollateralData_benign {asset nftAsset : Address} {nftTokenId : ℕ} :
    Sat (s.calculateNftCollateralData asset nftAsset nftTokenId) (fun _ => True) Error.Benign := by
  refine Sat.bind getNFTPrice_benign fun _ _ => Sat.ite (fun _ => trivial) fun _ => ?_
  exact Sat.bind inReserve_benign fun _ _ => trivial

theorem calculateLoanData_benign {asset nftAsset : Address} {nftTokenId loanId : ℕ}
    {nftConfig : BitVec 256} :
    Sat (s.calculateLoanData asset nftAsset nftTokenId nftConfig loanId) (fun _ => True)
      Error.Benign := by
  refine Sat.bind (P := fun _ => True) (Sat.ite (fun _ => trivial) fun _ => ?_) fun _ _ => ?_
  · refine Sat.bind (P := fun _ => True) ?_ fun _ _ => trivial
    refine Sat.bind checkedPow_benign fun _ _ => ?_
    refine Sat.bind getLoanReserveBorrowAmount_benign fun _ _ => ?_
    refine Sat.bind checkedMul_benign fun _ _ => ?_
    exact Sat.bind checkedDiv_benign fun _ _ => trivial
  · refine Sat.bind calculateNftCollateralData_benign fun _ _ => ?_
    exact Sat.bind calculateHealthFactorFromBalances_benign fun _ _ => trivial

theorem calculateOptimalMinRedeemValue_benign {b t h : ℕ} {nftAsset : Address} {nftTokenId : ℕ} :
    Sat (s.calculateOptimalMinRedeemValue b nftAsset nftTokenId t h)
      (fun _ => True) Error.Benign := by
  refine Sat.bind getNFTPrice_benign fun _ _ => ?_
  refine Sat.bind unitMul_benign fun _ _ => Sat.bind unitDiv_benign fun _ _ => ?_
  exact Sat.bind checkedSub_benign fun _ _ => trivial

/-- The first of the three prices is the outstanding debt. -/
theorem calculateLoanLiquidatePrice_spec {asset nftAsset : Address} {nftTokenId loanId : ℕ}
    {nftConfig : BitVec 256} :
    Sat (s.calculateLoanLiquidatePrice loanId asset nftAsset nftTokenId nftConfig)
      (fun p => s.getLoanReserveBorrowAmount loanId = .ok p.1) Error.Benign := by
  refine Sat.bind getLoanReserveBorrowAmount_benign fun b hb => ?_
  refine Sat.bind getNFTPrice_benign fun _ _ => Sat.bind inReserve_benign fun _ _ => ?_
  refine Sat.bind unitMul_benign fun _ _ => Sat.bind checkedSub_benign fun _ _ => ?_
  exact Sat.bind unitMul_benign fun _ _ => hb

theorem calculateLoanBidFine_benign {asset : Address} {nftConfig : BitVec 256} {loan : LoanData} :
    Sat (s.calculateLoanBidFine asset nftConfig loan) (fun _ => True) Error.Benign := by
  refine Sat.ite (fun _ => trivial) fun _ => Sat.bind inReserve_benign fun _ _ => ?_
  refine Sat.bind unitMul_benign fun _ _ => Sat.bind getLoanReserveBorrowAmount_benign fun _ _ => ?_
  exact Sat.bind unitMul_benign fun _ _ => trivial

theorem validateDeposit_benign {asset : Address} {amount : ℕ} :
    Sat (s.validateDeposit asset amount) (fun _ => True) Error.Benign := by
  refine Sat.bind (Sat.require fun _ => trivial) fun _ _ => ?_
  refine Sat.bind (Sat.require fun _ => trivial) fun _ _ => ?_
  exact Benign.of (Sat.require fun _ => trivial)

theorem validateWithdraw_benign {asset uToken : Address} {amount userBalance : ℕ} :
    Sat (s.validateWithdraw asset uToken amount userBalance) (fun _ => True) Error.Benign := by
  refine Sat.bind (Sat.require fun _ => trivial) fun _ _ => ?_
  refine Sat.bind (Sat.require fun _ => trivial) fun _ _ => ?_
  refine Sat.bind (Sat.require fun _ => trivial) fun _ _ => ?_
  refine Sat.bind (Benign.of unitMul_benign) fun _ _ => ?_
  exact Benign.of (Sat.require fun _ => trivial)

/-- Borrowing is for a positive amount from an initialised reserve, and on a loan that exists it
is in the asset and for the borrower of that loan. -/
theorem validateBorrow_spec {asset nftAsset onBehalfOf : Address} {amount nftTokenId loanId : ℕ} :
    Sat (s.validateBorrow asset amount nftAsset nftTokenId onBehalfOf loanId)
      (fun _ => (s.lendPool.reserves asset).uTokenAddress ≠ 0 ∧ 0 < amount ∧
        (loanId ≠ 0 → asset = (s.lendPoolLoan.loans loanId).reserveAsset ∧
          onBehalfOf = (s.lendPoolLoan.loans loanId).borrower))
      Error.Benign := by
  refine Sat.bind (Sat.require fun _ => trivial) fun _ hu => ?_
  refine Sat.bind (Sat.require fun _ => trivial) fun _ _ => ?_
  refine Sat.bind (Sat.require fun _ => trivial) fun _ hpos => ?_
  refine Sat.bind (P := fun _ => loanId ≠ 0 → asset = (s.lendPoolLoan.loans loanId).reserveAsset ∧
    onBehalfOf = (s.lendPoolLoan.loans loanId).borrower) ?_ fun _ hloan => ?_
  · refine Sat.ite (fun h0 h => absurd h0 h) fun _ => ?_
    refine Sat.bind (Sat.require fun _ => trivial) fun _ _ => ?_
    refine Sat.bind (Sat.require fun _ => trivial) fun _ ha => ?_
    exact (Sat.require fun _ => trivial).imp fun _ hb _ => ⟨ha, hb⟩
  refine Sat.bind (Sat.require fun _ => trivial) fun _ _ => ?_
  refine Sat.bind (Sat.require fun _ => trivial) fun _ _ => ?_
  refine Sat.bind (Sat.require fun _ => trivial) fun _ _ => ?_
  refine Sat.bind (Sat.require fun _ => trivial) fun _ _ => ?_
  refine Sat.bind (Sat.require fun _ => trivial) fun _ _ => ?_
  refine Sat.bind (Sat.require fun _ => trivial) fun _ _ => ?_
  refine Sat.bind (Sat.require fun _ => trivial) fun _ _ => ?_
  refine Sat.bind (Sat.require fun _ => trivial) fun _ _ => ?_
  refine Sat.bind calculateLoanData_benign fun _ _ => ?_
  refine Sat.bind (Sat.require fun _ => trivial) fun _ _ => ?_
  refine Sat.bind (Sat.require fun _ => trivial) fun _ _ => ?_
  refine Sat.bind (Benign.of unitDiv_benign) fun _ _ => ?_
  exact (Sat.require fun _ => trivial).imp fun _ _ => ⟨hu, hpos, hloan⟩

/-- Every operation on a loan needs its reserve to be initialised. -/
theorem validateCollateral_spec {loan : LoanData} {nftConfig : BitVec 256} :
    Sat (s.validateCollateral loan nftConfig)
      (fun _ => (s.lendPool.reserves loan.reserveAsset).uTokenAddress ≠ 0) Error.Benign := by
  refine Sat.bind (Sat.require fun _ => trivial) fun _ _ => ?_
  refine Sat.bind (Sat.require fun _ => trivial) fun _ hu => ?_
  refine Sat.bind (Sat.require fun _ => trivial) fun _ _ => ?_
  refine Sat.bind (Sat.require fun _ => trivial) fun _ _ => ?_
  exact (Sat.require fun _ => trivial).imp fun _ _ => hu

theorem validateRepay_spec {loan : LoanData} {nftConfig : BitVec 256} {amount borrowAmount : ℕ} :
    Sat (s.validateRepay loan nftConfig amount borrowAmount)
      (fun _ => (s.lendPool.reserves loan.reserveAsset).uTokenAddress ≠ 0 ∧ 0 < amount)
      Error.Benign := by
  refine Sat.bind validateCollateral_spec fun _ hu => ?_
  refine Sat.bind (Sat.require fun _ => trivial) fun _ hpos => ?_
  refine Sat.bind (Sat.require fun _ => trivial) fun _ _ => ?_
  exact (Sat.require fun _ => trivial).imp fun _ _ => ⟨hu, hpos⟩

theorem validateRedeem_spec {loan : LoanData} {nftConfig : BitVec 256} {amount : ℕ} :
    Sat (s.validateRedeem loan nftConfig amount)
      (fun _ => (s.lendPool.reserves loan.reserveAsset).uTokenAddress ≠ 0 ∧ loan.state = .Auction)
      Error.Benign := by
  refine Sat.bind validateCollateral_spec fun _ hu => ?_
  refine Sat.bind (Sat.require fun _ => trivial) fun _ ha => ?_
  exact (Sat.require fun _ => trivial).imp fun _ _ => ⟨hu, ha⟩

theorem validateAuction_spec {loan : LoanData} {nftConfig : BitVec 256} {bidPrice : ℕ} :
    Sat (s.validateAuction loan nftConfig bidPrice)
      (fun _ => (s.lendPool.reserves loan.reserveAsset).uTokenAddress ≠ 0) Error.Benign := by
  refine Sat.bind validateCollateral_spec fun _ hu => ?_
  refine Sat.bind (Sat.require fun _ => trivial) fun _ _ => ?_
  exact (Sat.require fun _ => trivial).imp fun _ _ => hu

theorem validateBuyout_spec {loan : LoanData} {nftConfig : BitVec 256} :
    Sat (s.validateBuyout loan nftConfig)
      (fun _ => (s.lendPool.reserves loan.reserveAsset).uTokenAddress ≠ 0) Error.Benign :=
  Sat.bind validateCollateral_spec fun _ hu => (Sat.require fun _ => trivial).imp fun _ _ => hu

theorem validateLiquidate_spec {loan : LoanData} {nftConfig : BitVec 256} :
    Sat (s.validateLiquidate loan nftConfig)
      (fun _ => (s.lendPool.reserves loan.reserveAsset).uTokenAddress ≠ 0 ∧ loan.state = .Auction)
      Error.Benign :=
  Sat.bind validateCollateral_spec fun _ hu => (Sat.require fun _ => trivial).imp
    fun _ ha => ⟨hu, ha⟩

end State

end Unlockd

/-
`LiquidateLogic.sol`: the auction of a loan that is under water, and its three exits.

The first bid puts the loan in auction, and every later one outbids the last; the pool
holds the highest bid. While the redeem period runs the borrower can redeem, paying part of
the debt and a fine; after the auction anyone can settle it, and at any time a buyer can take
the token at its price. Each exit gives the bid back or spends it on the debt.
-/
import Unlockd.BorrowLogic

set_option autoImplicit false

namespace Unlockd

open Outcome

namespace State

variable (D : Deployment) (s : State)

/-- The time added to an auction that was running when the pool was last paused. -/
def extraDuration (loanData : LoanData) : ℕ :=
  if s.lendPool.pauseDurationTime > 0 ∧ loanData.bidStartTimestamp ≤ s.lendPool.pauseStartTime then
    s.lendPool.pauseDurationTime
  else 0

/-- When the auction of a loan ends. -/
def auctionEndTimestamp (loanData : LoanData) (nftConfig : BitVec 256) : ℕ :=
  loanData.bidStartTimestamp + s.extraDuration loanData
    + NftConfiguration.getAuctionDuration nftConfig * 60

/-- When the period to redeem a loan ends. -/
def redeemEndTimestamp (loanData : LoanData) (nftConfig : BitVec 256) : ℕ :=
  loanData.bidStartTimestamp + s.extraDuration loanData
    + NftConfiguration.getRedeemDuration nftConfig * 60

/-- The checks of `executeAuction` on the price of a first bid and of a later one. -/
def validateBidPrice (loanData : LoanData) (nftConfig : BitVec 256)
    (bidPrice borrowAmount thresholdPrice : ℕ) : Except Error Unit :=
  if loanData.state = .Active then do
    require (borrowAmount > thresholdPrice) Error.LP_BORROW_NOT_EXCEED_LIQUIDATION_THRESHOLD
    let minimum ← percentMul borrowAmount s.lendPool.bidDelta
    require (minimum ≤ bidPrice) Error.LPL_BID_PRICE_LESS_THAN_DEBT_PRICE
    require (borrowAmount + s.lendPool.auctionDurationConfigFee ≤ bidPrice)
      Error.LPL_BID_PRICE_LESS_THAN_MIN_BID_REQUIRED
  else do
    require (borrowAmount ≤ bidPrice) Error.LPL_BID_PRICE_LESS_THAN_BORROW
    require (s.blockTimestamp ≤ s.auctionEndTimestamp loanData nftConfig)
      Error.LPL_BID_AUCTION_DURATION_HAS_END
    let minBidDelta ← percentMul borrowAmount ONE_PERCENT
    require (loanData.bidPrice + minBidDelta ≤ bidPrice) Error.LPL_BID_PRICE_LESS_THAN_HIGHEST_PRICE

/-- Give a standing bid back out of the pool. -/
def refundBid (loanData : LoanData) : Except Error State :=
  applyIf (loanData.bidderAddress ≠ 0) (fun s =>
    s.safeTransfer loanData.reserveAsset D.lendPool loanData.bidderAddress loanData.bidPrice) s

/-- `executeAuction`. -/
def executeAuction (initiator nftAsset : Address) (nftTokenId bidPrice : ℕ) (onBehalfOf : Address) :
    Except Error State := do
  require (onBehalfOf ≠ 0) Error.VL_INVALID_ONBEHALFOF_ADDRESS
  let loanId := s.lendPoolLoan.getCollateralLoanId nftAsset nftTokenId
  require (loanId ≠ 0) Error.LP_NFT_IS_NOT_USED_AS_COLLATERAL
  let loanData := s.lendPoolLoan.getLoan loanId
  require (onBehalfOf ≠ loanData.bidderAddress) Error.LP_CONSECUTIVE_BIDS_NOT_ALLOWED
  let nftConfig := s.lendPool.nftConfig loanData.nftAsset loanData.nftTokenId
  s.validateAuction loanData nftConfig bidPrice
  let s ← s.updateState loanData.reserveAsset
  let prices ← s.calculateLoanLiquidatePrice loanId loanData.reserveAsset loanData.nftAsset
    loanData.nftTokenId nftConfig
  s.validateBidPrice loanData nftConfig bidPrice prices.1 prices.2.1
  let L ← s.lendPoolLoan.auctionLoan loanId onBehalfOf bidPrice prices.1 s.blockTimestamp
  let s ← (s.setLendPoolLoan L).safeTransferFrom loanData.reserveAsset D.lendPool
    initiator D.lendPool
    bidPrice
  let s ← s.refundBid D loanData
  s.updateInterestRates loanData.reserveAsset
    (s.lendPool.reserves loanData.reserveAsset).uTokenAddress 0 0

/-- The checks of `executeRedeem` on the amount and on the fine; the fine. -/
def validateRedeemAmount (loanData : LoanData) (nftConfig : BitVec 256)
    (loanId : ℕ) (nftAsset : Address) (nftTokenId amount bidFine : ℕ) : Except Error ℕ := do
  let prices ← s.calculateLoanLiquidatePrice loanId loanData.reserveAsset loanData.nftAsset
    loanData.nftTokenId nftConfig
  let fine ← s.calculateLoanBidFine loanData.reserveAsset nftConfig loanData
  require (fine.2 ≤ bidFine) Error.LPL_INVALID_BID_FINE
  let minRepayAmount ← s.calculateOptimalMinRedeemValue prices.1 nftAsset nftTokenId
    (getLiquidationThreshold nftConfig) s.lendPool.safeHealthFactor
  require (minRepayAmount ≤ amount) Error.LP_AMOUNT_LESS_THAN_REDEEM_THRESHOLD
  let maxRepayAmount ← calculateOptimalMaxRedeemValue prices.1 minRepayAmount
  require (amount ≤ maxRepayAmount) Error.LP_AMOUNT_GREATER_THAN_MAX_REPAY
  return fine.2

/-- The end of `executeRedeem`: the bid goes back to the bidder, and the fine from the
initiator to the first bidder. -/
def settleRedeem (initiator : Address) (loanData : LoanData) (bidFine : ℕ) : Except Error State :=
  applyIf (loanData.bidderAddress ≠ 0) (fun s => do
    let s ← s.safeTransfer loanData.reserveAsset D.lendPool loanData.bidderAddress loanData.bidPrice
    s.safeTransferFrom loanData.reserveAsset D.lendPool initiator
      loanData.firstBidderAddress bidFine) s

/-- `executeRedeem`: what the redemption cost. -/
def executeRedeem (initiator nftAsset : Address) (nftTokenId amount bidFine : ℕ) :
    Except Error (State × ℕ) := do
  let loanId := s.lendPoolLoan.getCollateralLoanId nftAsset nftTokenId
  require (loanId ≠ 0) Error.LP_NFT_IS_NOT_USED_AS_COLLATERAL
  let loanData := s.lendPoolLoan.getLoan loanId
  let nftConfig := s.lendPool.nftConfig loanData.nftAsset loanData.nftTokenId
  s.validateRedeem loanData nftConfig amount
  require (s.blockTimestamp ≤ s.redeemEndTimestamp loanData nftConfig)
    Error.LPL_BID_REDEEM_DURATION_HAS_END
  let s ← s.updateState loanData.reserveAsset
  let fine ← s.validateRedeemAmount loanData nftConfig loanId nftAsset nftTokenId amount bidFine
  let index := (s.lendPool.reserves loanData.reserveAsset).variableBorrowIndex
  let L ← s.lendPoolLoan.redeemLoan loanId amount index
  let s ← (s.setLendPoolLoan L).burnDebt D.lendPool loanData.reserveAsset
    loanData.borrower amount index
  let s ← s.cancelDebtListingIfExists D D.lendPool loanData.nftAsset loanData.nftTokenId
  let uToken := (s.lendPool.reserves loanData.reserveAsset).uTokenAddress
  let s ← s.updateInterestRates loanData.reserveAsset uToken amount 0
  let s ← s.safeTransferFrom loanData.reserveAsset D.lendPool initiator uToken amount
  let s ← s.depositReserves D D.lendPool loanData.reserveAsset uToken amount
  let s ← s.settleRedeem D initiator loanData fine
  return (s, amount + fine)

/-- `executeLiquidate`: what the initiator paid on top of the bid. -/
def executeLiquidate (initiator nftAsset : Address) (nftTokenId amount : ℕ) :
    Except Error (State × ℕ) := do
  let loanId := s.lendPoolLoan.getCollateralLoanId nftAsset nftTokenId
  require (loanId ≠ 0) Error.LP_NFT_IS_NOT_USED_AS_COLLATERAL
  let loanData := s.lendPoolLoan.getLoan loanId
  let reserveAsset := loanData.reserveAsset
  let nftConfig := s.lendPool.nftConfig loanData.nftAsset loanData.nftTokenId
  s.validateLiquidate loanData nftConfig
  require (s.blockTimestamp > s.auctionEndTimestamp loanData nftConfig + 1200)
    Error.LPL_CLAIM_HASNT_STARTED_YET
  let s ← s.updateState reserveAsset
  let prices ← s.calculateLoanLiquidatePrice loanId reserveAsset loanData.nftAsset
    loanData.nftTokenId nftConfig
  let borrowAmount := prices.1
  -- the bid falls short of the debt by `extraDebtAmount`, or exceeds it by `remainAmount`
  let extraDebtAmount := borrowAmount - loanData.bidPrice
  let remainAmount := loanData.bidPrice - borrowAmount
  require (loanData.bidPrice < borrowAmount → extraDebtAmount ≤ amount)
    Error.LP_AMOUNT_LESS_THAN_EXTRA_DEBT
  let s ← s.liquidateLoan D loanId borrowAmount
  let s ← s.burnDebt D.lendPool reserveAsset loanData.borrower borrowAmount
    (s.lendPool.reserves reserveAsset).variableBorrowIndex
  let s ← s.cancelDebtListingIfExists D D.lendPool loanData.nftAsset loanData.nftTokenId
  let uToken := (s.lendPool.reserves reserveAsset).uTokenAddress
  let s ← s.updateInterestRates reserveAsset uToken borrowAmount 0
  let s ← applyIf (extraDebtAmount > 0) (fun s =>
    s.safeTransferFrom reserveAsset D.lendPool initiator D.lendPool extraDebtAmount) s
  let s ← s.safeTransfer reserveAsset D.lendPool uToken borrowAmount
  let s ← s.depositReserves D D.lendPool reserveAsset uToken borrowAmount
  let s ← applyIf (remainAmount > 0) (fun s =>
    s.safeTransfer reserveAsset D.lendPool loanData.borrower remainAmount) s
  let s ← s.deliverNft D loanData.nftAsset reserveAsset loanData.bidderAddress nftTokenId
  return (s, extraDebtAmount)

/-- The price of a buyout: the debt or the price of the token, whichever is higher, unless the
buyer holds a Lockey and the discounted price still exceeds the debt. -/
def buyoutPrice (onBehalfOf : Address) (borrowAmount nftPrice lockeyDiscount : ℕ) : ℕ :=
  if lockeyDiscount > borrowAmount ∧ s.lockeyBalanceOf onBehalfOf ≠ 0 then lockeyDiscount
  else max borrowAmount nftPrice

/-- The fine in `executeBuyout`: the first bidder gets it out of what the price leaves over the
debt, as far as that goes. What is left after it. -/
def payBidFine (loanData : LoanData) (remainAmount bidFine : ℕ) : Except Error (State × ℕ) := do
  if bidFine ≤ remainAmount then
    let s ← s.safeTransfer loanData.reserveAsset D.lendPool loanData.firstBidderAddress bidFine
    return (s, remainAmount - bidFine)
  else if remainAmount > 0 then
    let s ← s.safeTransfer loanData.reserveAsset D.lendPool loanData.firstBidderAddress remainAmount
    return (s, 0)
  else return (s, remainAmount)

/-- How `executeBuyout` settles a standing bid: the bid goes back, then the fine is paid. -/
def settleBuyout (loanData : LoanData) (remainAmount bidFine : ℕ) : Except Error (State × ℕ) := do
  if loanData.bidderAddress ≠ 0 then
    let s ← s.safeTransfer loanData.reserveAsset D.lendPool loanData.bidderAddress loanData.bidPrice
    s.payBidFine D loanData remainAmount bidFine
  else return (s, remainAmount)

/-- `executeBuyout`. -/
def executeBuyout (initiator nftAsset : Address) (nftTokenId : ℕ) (onBehalfOf : Address) :
    Except Error State := do
  require (onBehalfOf ≠ 0) Error.VL_INVALID_ONBEHALFOF_ADDRESS
  let loanId := s.lendPoolLoan.getCollateralLoanId nftAsset nftTokenId
  require (loanId ≠ 0) Error.LP_NFT_IS_NOT_USED_AS_COLLATERAL
  let loanData := s.lendPoolLoan.getLoan loanId
  let reserveAsset := loanData.reserveAsset
  let nftConfig := s.lendPool.nftConfig loanData.nftAsset loanData.nftTokenId
  let nftPrice ← s.getNFTPrice loanData.nftAsset loanData.nftTokenId
  let s ← s.updateState reserveAsset
  let health ← s.calculateLoanData reserveAsset loanData.nftAsset loanData.nftTokenId
    nftConfig loanId
  require (health.2.2 ≤ HEALTH_FACTOR_LIQUIDATION_THRESHOLD)
    Error.VL_HEALTH_FACTOR_LOWER_THAN_LIQUIDATION_THRESHOLD
  let prices ← s.calculateLoanLiquidatePrice loanId reserveAsset loanData.nftAsset
    loanData.nftTokenId nftConfig
  let borrowAmount := prices.1
  let fine ← s.calculateLoanBidFine reserveAsset nftConfig loanData
  s.validateBuyout loanData nftConfig
  let lockeyDiscount ← percentMul nftPrice s.lockeyDiscount
  let price := s.buyoutPrice onBehalfOf borrowAmount nftPrice lockeyDiscount
  let s ← s.buyoutLoan D loanId borrowAmount
  let s ← s.burnDebt D.lendPool reserveAsset loanData.borrower borrowAmount
    (s.lendPool.reserves reserveAsset).variableBorrowIndex
  let s ← s.cancelDebtListingIfExists D D.lendPool loanData.nftAsset loanData.nftTokenId
  let uToken := (s.lendPool.reserves reserveAsset).uTokenAddress
  let s ← s.updateInterestRates reserveAsset uToken borrowAmount 0
  let s ← s.safeTransferFrom reserveAsset D.lendPool initiator D.lendPool price
  let s ← s.safeTransfer reserveAsset D.lendPool uToken borrowAmount
  let s ← s.depositReserves D D.lendPool reserveAsset uToken borrowAmount
  let remainAmount ← checkedSub price borrowAmount
  let (s, remainAmount) ← s.settleBuyout D loanData remainAmount fine.2
  let s ← applyIf (remainAmount ≠ 0) (fun s =>
    s.safeTransfer reserveAsset D.lendPool loanData.borrower remainAmount) s
  s.deliverNft D loanData.nftAsset reserveAsset onBehalfOf nftTokenId

end State

end Unlockd

/-
`ReservoirAdapter.sol` and `BaseAdapter.sol`: liquidation by a sale on an outside market,
with the two views of `LendPool.sol` it reads.

A liquidator sells the token of an unhealthy loan through a registered module. The adapter
closes the loan, hands the token to the module, and counts what the sale brought in. The
sale itself is outside the protocol: the hook of the module passes the token on, and accounts
outside make a list of payments. The proceeds pay the debt, or the treasury does where they fall
short; a standing bid goes back to its bidder.
-/
import Unlockd.LiquidateLogic

set_option autoImplicit false

namespace Unlockd

open Outcome

/-- `calculateAvailableBorrows`. -/
def calculateAvailableBorrows (totalCollateral totalDebt ltv : ℕ) : Except Error ℕ := do
  let availableBorrows ← percentMul totalCollateral ltv
  return availableBorrows - totalDebt

/-- What `getNftDebtData` returns. -/
structure NftDebtData where
  loanId : ℕ
  reserveAsset : Address
  totalCollateral : ℕ
  totalDebt : ℕ
  availableBorrows : ℕ
  healthFactor : ℕ

/-- What `getNftAuctionData` returns. -/
structure NftAuctionData where
  loanId : ℕ
  bidderAddress : Address
  bidPrice : ℕ
  bidBorrowAmount : ℕ
  bidFine : ℕ

/-- A payment an outside account makes in a sale. -/
structure Payment (D : Deployment) where
  asset : Address
  payer : Address
  payee : Address
  amount : ℕ
  /-- The account that orders the payment. -/
  spender : Address
  spender_user : D.isUser spender

/-- What happens in the hook of the module: to whom it passes the token on, which may be the module
itself, and what is paid. -/
structure Sale (D : Deployment) where
  buyer : Address
  payments : List (Payment D)

namespace State

variable (D : Deployment) (s : State)

/-- The health factor `getNftDebtData` reports; for a loan in auction it is zero. -/
def reportedHealthFactor (loan : LoanData) (totalCollateral totalDebt liquidationThreshold : ℕ) :
    Except Error ℕ :=
  if loan.state = .Active then
    calculateHealthFactorFromBalances totalCollateral totalDebt liquidationThreshold
  else .ok 0

/-- `LendPool.getNftDebtData`. -/
def getNftDebtData (nftAsset : Address) (nftTokenId : ℕ) : Except Error NftDebtData := do
  let nftConfig := s.lendPool.nftConfig nftAsset nftTokenId
  let loanId := s.lendPoolLoan.getCollateralLoanId nftAsset nftTokenId
  if loanId = 0 then return ⟨0, 0, 0, 0, 0, 0⟩
  else
    let loan := s.lendPoolLoan.getLoan loanId
    let collateral ← s.calculateNftCollateralData loan.reserveAsset nftAsset nftTokenId
    let totalDebt ← s.getLoanReserveBorrowAmount loanId
    let availableBorrows ← calculateAvailableBorrows collateral.2 totalDebt (getLtv nftConfig)
    let healthFactor ← reportedHealthFactor loan collateral.2 totalDebt
      (getLiquidationThreshold nftConfig)
    return ⟨loanId, loan.reserveAsset, collateral.2, totalDebt, availableBorrows, healthFactor⟩

/-- `LendPool.getNftAuctionData`. -/
def getNftAuctionData (nftAsset : Address) (nftTokenId : ℕ) : Except Error NftAuctionData := do
  let loanId := s.lendPoolLoan.getCollateralLoanId nftAsset nftTokenId
  if loanId = 0 then return ⟨0, 0, 0, 0, 0⟩
  else
    let loan := s.lendPoolLoan.getLoan loanId
    let fine ← s.calculateLoanBidFine loan.reserveAsset
      (s.lendPool.nftConfig nftAsset nftTokenId) loan
    return ⟨loanId, loan.bidderAddress, loan.bidPrice, loan.bidBorrowAmount, fine.2⟩

/-- `LendPool.transferBidAmount`, called by `caller`. -/
def transferBidAmount (caller reserveAsset bidder : Address) (bidAmount : ℕ) :
    Except Error State := do
  require (caller = D.reservoirAdapter) Error.LP_CALLER_NOT_RESERVOIR_OR_DEBT_MARKET
  s.safeTransfer reserveAsset D.lendPool bidder bidAmount

/-- `_performLoanChecks` on the loan with an identifier. -/
def _performLoanChecks (loanId : ℕ) (nftAsset : Address) (tokenId : ℕ) : Except Error Unit := do
  require (loanId ≠ 0) Error.NftNotUsedAsCollateral
  let loanData := s.lendPoolLoan.getLoan loanId
  require (loanData.state = .Active ∨ loanData.state = .Auction) Error.InvalidLoanState
  require (getActive (s.lendPool.nftConfig nftAsset tokenId) = true) Error.InactiveNft
  require (getActive (s.lendPool.reserves loanData.reserveAsset).configuration = true)
    Error.InactiveReserve

/-- `_validateLoanHealthFactor`. -/
def _validateLoanHealthFactor (nftAsset : Address) (tokenId : ℕ) : Except Error Unit := do
  let debtData ← s.getNftDebtData nftAsset tokenId
  require (debtData.healthFactor ≤ HEALTH_FACTOR_LIQUIDATION_THRESHOLD) Error.LoanIsHealthy

/-- One payment: a transfer of the spender's own tokens, or of tokens it has an allowance for. -/
def pay (p : Payment D) : Except Error State :=
  if p.payer = p.spender then s.safeTransfer p.asset p.spender p.payee p.amount
  else s.safeTransferFrom p.asset p.spender p.payer p.payee p.amount

/-- The payments of a sale, one after the other. -/
def paySale (s : State) : List (Payment D) → Except Error State
  | [] => .ok s
  | p :: payments => do
      let s ← s.pay D p
      paySale s payments

/-- The module passes the token on. -/
def passOn (nftAsset module buyer : Address) (tokenId : ℕ) : Except Error State :=
  if buyer = module then .ok s
  else do
    let c ← (s.erc721 nftAsset).transferFrom module module buyer tokenId
    return s.setErc721 nftAsset c

/-- What the hook of the module does. -/
def makeSale (nftAsset : Address) (tokenId : ℕ) (module : Address) (sale : Sale D) :
    Except Error State := do
  let s ← s.passOn nftAsset module sale.buyer tokenId
  s.paySale D sale.payments

/-- The token goes to the module, whose hook makes the sale; whatever fails in it, the adapter
sees a failed call. -/
def sellNft (nftAsset : Address) (tokenId : ℕ) (module : Address) (sale : Sale D) :
    Except Error State :=
  match s.safeTransferNft D nftAsset D.reservoirAdapter D.reservoirAdapter module tokenId >>=
      fun s => s.makeSale D nftAsset tokenId module sale with
  | .ok s' => .ok s'
  | .error _ => .error .LowLevelSafeTransferFromFailed

/-- The first part of `_settleLiquidation`: the treasury pays what the sale fell short of, or
the adapter pays the debt. -/
def settleDebt (loanData : LoanData) (uToken : Address) (borrowAmount extraDebtAmount : ℕ) :
    Except Error State :=
  if extraDebtAmount ≠ 0 then do
    let treasury := (s.uTokens loanData.reserveAsset).treasury
    require (extraDebtAmount ≤ (s.erc20 loanData.reserveAsset).balanceOf treasury)
      Error.InsufficientTreasuryBalance
    s.safeTransferFrom loanData.reserveAsset D.reservoirAdapter treasury uToken extraDebtAmount
  else s.safeTransfer loanData.reserveAsset D.reservoirAdapter uToken borrowAmount

/-- The last part of `_settleLiquidation`: the fine and the rest, or the rest alone. -/
def settleRemainder (loanData : LoanData) (remainAmount bidFine : ℕ) : Except Error State :=
  if remainAmount > bidFine then do
    let s ← s.safeTransfer loanData.reserveAsset D.reservoirAdapter
      loanData.firstBidderAddress bidFine
    s.safeTransfer loanData.reserveAsset D.reservoirAdapter loanData.borrower
      (remainAmount - bidFine)
  else
    s.safeTransfer loanData.reserveAsset D.reservoirAdapter loanData.firstBidderAddress remainAmount

/-- `_settleLiquidation`. -/
def _settleLiquidation (loanData : LoanData) (uToken : Address)
    (borrowAmount extraDebtAmount remainAmount bidFine : ℕ) : Except Error State := do
  let s ← s.settleDebt D loanData uToken borrowAmount extraDebtAmount
  let s ← applyIf (loanData.bidderAddress ≠ 0) (fun s =>
    s.transferBidAmount D D.reservoirAdapter loanData.reserveAsset loanData.bidderAddress
      loanData.bidPrice) s
  s.settleRemainder D loanData remainAmount bidFine

/-- `liquidateReservoir`, called by `caller` with the token, the module and the sale that the
call data describe. -/
def liquidateReservoir (caller nftAsset reserveAsset : Address) (tokenId : ℕ) (module : Address)
    (sale : Sale D) (expectedLiquidateAmount : ℕ) : Except Error State := do
  require (s.liquidators caller = true) Error.NotReservoirLiquidator
  require (s.reservoirModules module = true) Error.InvalidReservoirModule
  -- the reserve brought up to date is the one the liquidator names
  let s ← s.updateReserveState reserveAsset
  let loanId := s.lendPoolLoan.getCollateralLoanId nftAsset tokenId
  s._performLoanChecks loanId nftAsset tokenId
  let loanData := s.lendPoolLoan.getLoan loanId
  let reserveData := s.lendPool.reserves loanData.reserveAsset
  s._validateLoanHealthFactor nftAsset tokenId
  let auction ← s.getNftAuctionData nftAsset tokenId
  let borrowAmount ← s.getLoanReserveBorrowAmount loanId
  let s ← s.liquidateLoanMarket D D.reservoirAdapter loanId
  let balanceBefore := (s.erc20 loanData.reserveAsset).balanceOf D.reservoirAdapter
  let s ← s.sellNft D nftAsset tokenId module sale
  let liquidatedAmount ←
    checkedSub ((s.erc20 loanData.reserveAsset).balanceOf D.reservoirAdapter) balanceBefore
  require (expectedLiquidateAmount ≤ liquidatedAmount) Error.InvalidLiquidateAmount
  let s ← s.burnDebt D.reservoirAdapter loanData.reserveAsset loanData.borrower borrowAmount
    reserveData.variableBorrowIndex
  let s ← s.cancelDebtListingIfExists D D.reservoirAdapter nftAsset tokenId
  let s ← s.updateReserveInterestRates loanData.reserveAsset
  s._settleLiquidation D loanData reserveData.uTokenAddress borrowAmount
    (borrowAmount - liquidatedAmount) (liquidatedAmount - borrowAmount) auction.bidFine

end State

end Unlockd

/-
`BorrowLogic.sol`: borrowing against a collateral token and repaying.

Both bring the reserve up to date first. Borrowing opens a loan on the token or adds to
the loan already on it; repaying takes from the loan or, when the amount covers the
whole debt, closes it and gives the token back. A loan whose terms change, or that is
closed, loses its listing on the debt market.
-/
import Unlockd.SupplyLogic

set_option autoImplicit false

namespace Unlockd

open Outcome

namespace State

variable (D : Deployment) (s : State)

/-- `UToken.transferUnderlyingTo`, called by the pool. -/
def transferUnderlyingTo (asset uToken target : Address) (amount : ℕ) : Except Error State :=
  s.safeTransfer asset uToken target amount

/-- The branch of `_borrow` that opens a loan or adds to the one there is. -/
def borrowOnLoan (initiator asset : Address) (amount : ℕ) (nftAsset : Address) (nftTokenId : ℕ)
    (onBehalfOf : Address) : Except Error State :=
  let loanId := s.lendPoolLoan.getCollateralLoanId nftAsset nftTokenId
  let index := (s.lendPool.reserves asset).variableBorrowIndex
  if loanId = 0 then do
    let s ← s.safeTransferNft D nftAsset D.lendPool initiator D.lendPool nftTokenId
    s.createLoan D onBehalfOf nftAsset nftTokenId asset amount index
  else do
    let L ← s.lendPoolLoan.updateLoan loanId amount 0 index
    (s.setLendPoolLoan L).cancelDebtListingIfExists D D.lendPool nftAsset nftTokenId

/-- `_borrow`. -/
def _borrow (initiator asset : Address) (amount : ℕ) (nftAsset : Address) (nftTokenId : ℕ)
    (onBehalfOf : Address) : Except Error State := do
  require (onBehalfOf ≠ 0) Error.VL_INVALID_ONBEHALFOF_ADDRESS
  let s ← s.updateState asset
  let loanId := s.lendPoolLoan.getCollateralLoanId nftAsset nftTokenId
  s.validateBorrow asset amount nftAsset nftTokenId onBehalfOf loanId
  let uToken := (s.lendPool.reserves asset).uTokenAddress
  let available ← s.getAvailableLiquidity uToken
  require (amount ≤ available) Error.LP_RESERVES_WITHOUT_ENOUGH_LIQUIDITY
  let s ← s.borrowOnLoan D initiator asset amount nftAsset nftTokenId onBehalfOf
  let s ← s.mintDebt D.lendPool asset initiator onBehalfOf amount
    (s.lendPool.reserves asset).variableBorrowIndex
  let s ← s.updateInterestRates asset uToken 0 amount
  let (s, value) ← s.withdrawReserves D D.lendPool asset uToken amount
  s.transferUnderlyingTo asset uToken initiator value

/-- The branch of `_repay` on the loan contract: a smaller debt, or none. -/
def repayOnLoan (loanId repayAmount index : ℕ) (isUpdate : Prop) [Decidable isUpdate] :
    Except Error State :=
  if isUpdate then do
    let L ← s.lendPoolLoan.updateLoan loanId 0 repayAmount index
    return s.setLendPoolLoan L
  else s.repayLoan D loanId

/-- `_repay`: the amount repaid, and whether the loan is closed. -/
def _repay (initiator nftAsset : Address) (nftTokenId amount : ℕ) :
    Except Error (State × ℕ × Bool) := do
  let loanId := s.lendPoolLoan.getCollateralLoanId nftAsset nftTokenId
  require (loanId ≠ 0) Error.LP_NFT_IS_NOT_USED_AS_COLLATERAL
  let loanData := s.lendPoolLoan.getLoan loanId
  let s ← s.updateState loanData.reserveAsset
  let borrowAmount ← s.getLoanReserveBorrowAmount loanId
  s.validateRepay loanData (s.lendPool.nftConfig nftAsset nftTokenId) amount borrowAmount
  let repayAmount := if amount < borrowAmount then amount else borrowAmount
  let index := (s.lendPool.reserves loanData.reserveAsset).variableBorrowIndex
  let s ← s.cancelDebtListingIfExists D D.lendPool nftAsset nftTokenId
  let s ← s.repayOnLoan D loanId repayAmount index (amount < borrowAmount)
  let s ← s.burnDebt D.lendPool loanData.reserveAsset loanData.borrower repayAmount index
  let uToken := (s.lendPool.reserves loanData.reserveAsset).uTokenAddress
  let s ← s.updateInterestRates loanData.reserveAsset uToken repayAmount 0
  let s ← s.safeTransferFrom loanData.reserveAsset D.lendPool initiator uToken repayAmount
  let s ← s.depositReserves D D.lendPool loanData.reserveAsset uToken repayAmount
  let s ← applyIf (¬ amount < borrowAmount) (fun s =>
    s.safeTransferNft D loanData.nftAsset D.lendPool D.lendPool loanData.borrower nftTokenId) s
  return (s, repayAmount, decide (¬ amount < borrowAmount))

end State

end Unlockd

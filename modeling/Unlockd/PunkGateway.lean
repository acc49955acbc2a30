/-
`PunkGateway.sol`: the protocol for holders of punks, which are older than the token standard.

The gateway wraps a punk into a token that the protocol takes for collateral, and unwraps it when it
comes back. It passes calls on to the pool and to the debt market in its own name; those that come
with ether it passes on to the other gateway. Of `CryptoPunksMarket.sol` and `WrappedPunk.sol` the
model has what the gateway uses, as it is when all punks are assigned and the wrapper is not paused;
the bids on punks, and what the market owes for them, are no concern of a gateway that pays nothing.
-/
import Unlockd.WETHGateway

set_option autoImplicit false

namespace Unlockd

open Outcome

/-! ## Punks -/

namespace World

variable {D : Deployment} (G : Gateways D) (w : World)

/-- `punkNoLongerForSale`, called by `caller`. -/
def punkNoLongerForSale (caller : Address) (punkIndex : ℕ) : Except GatewayError World := do
  require (w.punkIndexToAddress punkIndex = caller) GatewayError.notOwner
  require (punkIndex < 10000) GatewayError.punkIndexOverflow
  return { w with
    punksOfferedForSale := Function.update w.punksOfferedForSale punkIndex ⟨false, caller, 0, 0⟩ }

/-- `transferPunk`, called by `caller`. -/
def transferPunk (caller dst : Address) (punkIndex : ℕ) : Except GatewayError World := do
  require (w.punkIndexToAddress punkIndex = caller) GatewayError.notOwner
  require (punkIndex < 10000) GatewayError.punkIndexOverflow
  let w ← applyIf ((w.punksOfferedForSale punkIndex).isForSale = true)
    (fun w => w.punkNoLongerForSale caller punkIndex) w
  return { w with punkIndexToAddress := Function.update w.punkIndexToAddress punkIndex dst }

/-- `buyPunk`, called by `caller` without ether. -/
def buyPunk (caller : Address) (punkIndex : ℕ) : Except GatewayError World := do
  require (punkIndex < 10000) GatewayError.punkIndexOverflow
  let offer := w.punksOfferedForSale punkIndex
  require (offer.isForSale = true) GatewayError.punkNotActuallyForSale
  require (offer.onlySellTo = 0 ∨ offer.onlySellTo = caller)
    GatewayError.punkNotSupposedToBeSoldToThisUser
  require (offer.minValue ≤ 0) GatewayError.didntSendEnoughETH
  require (offer.seller = w.punkIndexToAddress punkIndex) GatewayError.sellerNoLongerOwner
  punkNoLongerForSale
    { w with punkIndexToAddress := Function.update w.punkIndexToAddress punkIndex caller }
    caller punkIndex

/-- `WrappedPunk.mint`, called by the gateway: the wrapper takes the punk from the proxy. -/
def mintWrappedPunk (punkIndex : ℕ) : Except GatewayError World := do
  let w ← (w.transferPunk G.punkProxy G.wrappedPunks punkIndex).mapError fun _ =>
    GatewayError.transferFail
  let c := w.protocol.erc721 G.wrappedPunks
  require (c.ownerOf punkIndex = 0) GatewayError.tokenAlreadyMinted
  return w.setProtocol (w.protocol.setErc721 G.wrappedPunks { c with
    ownerOf := Function.update c.ownerOf punkIndex G.punkGateway })

/-- `WrappedPunk.burn`, called by the gateway, to which the wrapper gives the punk. -/
def burnWrappedPunk (punkIndex : ℕ) : Except GatewayError World := do
  let c := w.protocol.erc721 G.wrappedPunks
  require (c.ownerOf punkIndex ≠ 0) (GatewayError.reverted .nonexistentToken)
  require (c.isApprovedOrOwner G.punkGateway punkIndex) GatewayError.callerIsNotOwnerNorApproved
  let s := w.protocol.setErc721 G.wrappedPunks { c with
    ownerOf := Function.update c.ownerOf punkIndex 0
    approved := Function.update c.approved punkIndex 0 }
  (w.setProtocol s).transferPunk G.wrappedPunks G.punkGateway punkIndex

/-- `transferFrom` of a reserve asset, from an account to the gateway that calls it. -/
def takeErc20 (gateway asset src : Address) (amount : ℕ) : Except GatewayError World := do
  let s ← inProtocol (w.protocol.safeTransferFrom asset gateway src gateway amount)
  return w.setProtocol s

/-- `transfer` of a reserve asset, by a gateway. -/
def payErc20 (gateway asset dst : Address) (amount : ℕ) : Except GatewayError World := do
  let s ← inProtocol (w.protocol.safeTransfer asset gateway dst amount)
  return w.setProtocol s

end World

namespace PunkGateway

variable {D : Deployment} (G : Gateways D) (w : World)

/-! ## Internals -/

/-- `_depositPunk`: a punk that is collateral already is in the wrapper. -/
def _depositPunk (sender : Address) (punkIndex : ℕ) : Except GatewayError World :=
  applyIf (w.protocol.lendPoolLoan.getCollateralLoanId G.wrappedPunks punkIndex = 0) (fun w => do
    require (w.punkIndexToAddress punkIndex = sender) GatewayError.notOwnerOfPunkIndex
    let w ← w.buyPunk G.punkGateway punkIndex
    let w ← w.transferPunk G.punkGateway G.punkProxy punkIndex
    w.mintWrappedPunk G punkIndex) w

/-- `_withdrawPunk`. -/
def _withdrawPunk (sender : Address) (punkIndex : ℕ) (onBehalfOf : Address) :
    Except GatewayError World := do
  let owner := (w.protocol.erc721 G.wrappedPunks).ownerOf punkIndex
  require (owner ≠ 0) (GatewayError.reverted .nonexistentToken)
  require (owner = sender) GatewayError.callerIsNotOwner
  require (owner = onBehalfOf) GatewayError.onBehalfOfIsNotOwner
  let s ← inProtocol (w.protocol.safeTransferNft D G.wrappedPunks G.punkGateway onBehalfOf
    G.punkGateway punkIndex)
  let w ← (w.setProtocol s).burnWrappedPunk G punkIndex
  w.transferPunk G.punkGateway onBehalfOf punkIndex

/-- The loan on a punk, for the calls that need one. -/
def loanOnPunk (punkIndex : ℕ) : Except GatewayError LoanData := do
  let loanId := w.protocol.lendPoolLoan.getCollateralLoanId G.wrappedPunks punkIndex
  require (loanId ≠ 0) GatewayError.noLoanWithSuchPunkIndex
  return w.protocol.lendPoolLoan.getLoan loanId

/-! ## The calls of the gateway -/

/-- `borrow`: the sender is paid the amount, whatever the pool has given. -/
def borrow (sender reserveAsset : Address) (amount punkIndex : ℕ) (onBehalfOf : Address) :
    Except GatewayError World := do
  w._checkValidCallerAndOnBehalfOf G.punkGateway sender onBehalfOf
  let w ← _depositPunk G w sender punkIndex
  let w ← w.call D G.punkGateway (.borrow reserveAsset amount G.wrappedPunks punkIndex onBehalfOf)
  w.payErc20 G.punkGateway reserveAsset onBehalfOf amount

/-- `borrowETH`. -/
def borrowETH (sender : Address) (amount punkIndex : ℕ) (onBehalfOf : Address) :
    Except GatewayError World := do
  w._checkValidCallerAndOnBehalfOf G.punkGateway sender onBehalfOf
  let w ← _depositPunk G w sender punkIndex
  w.borrowETH G G.punkGateway amount G.wrappedPunks punkIndex onBehalfOf

/-- `_repay`. -/
def _repay (sender : Address) (punkIndex amount : ℕ) : Except GatewayError (World × ℕ × Bool) := do
  let loan ← loanOnPunk G w punkIndex
  let debt ← inProtocol (w.protocol.getLoanReserveBorrowAmount
    (w.protocol.lendPoolLoan.getCollateralLoanId G.wrappedPunks punkIndex))
  let amount := if amount > debt then debt else amount
  let w ← w.takeErc20 G.punkGateway loan.reserveAsset sender amount
  let (s, paybackAmount, burn) ← inProtocol (w.protocol.whenNotPausedReturning
    (w.protocol._repay D G.punkGateway G.wrappedPunks punkIndex amount))
  let w ← applyIf (burn = true) (fun w => do
    require (loan.borrower = sender) GatewayError.callerIsNotBorrower
    _withdrawPunk G w sender punkIndex loan.borrower) (w.setProtocol s)
  return (w, paybackAmount, burn)

/-- `repay`. -/
def repay (sender : Address) (punkIndex amount : ℕ) : Except GatewayError (World × ℕ × Bool) :=
  _repay G w sender punkIndex amount

/-- `_repayETH`. -/
def _repayETH (sender : Address) (msgValue punkIndex amount accAmount : ℕ) :
    Except GatewayError (World × ℕ × Bool) := do
  let loan ← loanOnPunk G w punkIndex
  require (loan.borrower = sender) GatewayError.callerIsNotBorrower
  let debt ← inProtocol (w.protocol.getLoanReserveBorrowAmount
    (w.protocol.lendPoolLoan.getCollateralLoanId G.wrappedPunks punkIndex))
  let repayDebtAmount := if amount < debt then amount else debt
  require (accAmount + repayDebtAmount ≤ msgValue) GatewayError.msgValueIsLessThanRepayAmount
  let (w, paybackAmount, burn) ← w.repayETH G G.punkGateway repayDebtAmount G.wrappedPunks
    punkIndex amount
  let w ← applyIf (burn = true) (fun w => _withdrawPunk G w sender punkIndex loan.borrower) w
  return (w, paybackAmount, burn)

/-- Give back what is left of the ether that was sent. -/
def refundUnused (sender : Address) (msgValue used : ℕ) : Except GatewayError World :=
  applyIf (msgValue > used) (fun w =>
    w._safeTransferETH G G.punkGateway sender (msgValue - used)) w

/-- `repayETH`. -/
def repayETH (sender : Address) (msgValue punkIndex amount : ℕ) :
    Except GatewayError (World × ℕ × Bool) := do
  let w ← w.moveEther sender G.punkGateway msgValue
  let (w, paybackAmount, burn) ← _repayETH G w sender msgValue punkIndex amount 0
  let w ← refundUnused G w sender msgValue paybackAmount
  return (w, paybackAmount, burn)

/-- `buyDebtPunk`. -/
def buyDebtPunk (sender : Address) (punkIndex : ℕ) (onBehalfOf : Address) (amount : ℕ) :
    Except GatewayError World := do
  let loan ← loanOnPunk G w punkIndex
  let w ← w.takeErc20 G.punkGateway loan.reserveAsset sender amount
  let w := w.setProtocol (w.protocol.approveErc20 loan.reserveAsset G.punkGateway D.debtMarket
    amount)
  w.call D G.punkGateway (.buy G.wrappedPunks punkIndex onBehalfOf amount)

/-- `buyDebtPunkETH`. -/
def buyDebtPunkETH (sender : Address) (msgValue punkIndex : ℕ) (onBehalfOf : Address) :
    Except GatewayError World := do
  let w ← w.moveEther sender G.punkGateway msgValue
  let _ ← loanOnPunk G w punkIndex
  w.buyDebtETH G G.punkGateway msgValue G.wrappedPunks punkIndex onBehalfOf

/-- `auction`. -/
def auction (sender : Address) (punkIndex bidPrice : ℕ) (onBehalfOf : Address) :
    Except GatewayError World := do
  w._checkValidCallerAndOnBehalfOf G.punkGateway sender onBehalfOf
  let loan ← loanOnPunk G w punkIndex
  let w ← w.takeErc20 G.punkGateway loan.reserveAsset sender bidPrice
  w.call D G.punkGateway (.auction G.wrappedPunks punkIndex bidPrice onBehalfOf)

/-- `auctionETH`. -/
def auctionETH (sender : Address) (msgValue punkIndex : ℕ) (onBehalfOf : Address) :
    Except GatewayError World := do
  let w ← w.moveEther sender G.punkGateway msgValue
  w._checkValidCallerAndOnBehalfOf G.punkGateway sender onBehalfOf
  w.auctionETH G G.punkGateway msgValue G.wrappedPunks punkIndex onBehalfOf

/-- Give back what is left of the tokens that were taken. -/
def refundErc20 (asset sender : Address) (taken used : ℕ) : Except GatewayError World :=
  applyIf (taken > used) (fun w => w.payErc20 G.punkGateway asset sender (taken - used)) w

/-- `redeem`. -/
def redeem (sender : Address) (punkIndex amount bidFine : ℕ) : Except GatewayError (World × ℕ) := do
  let loan ← loanOnPunk G w punkIndex
  let w ← w.takeErc20 G.punkGateway loan.reserveAsset sender (amount + bidFine)
  let (s, paybackAmount) ← inProtocol (w.protocol.whenNotPausedReturning
    (w.protocol.executeRedeem D G.punkGateway G.wrappedPunks punkIndex amount bidFine))
  let w ← refundErc20 G (w.setProtocol s) loan.reserveAsset sender (amount + bidFine) paybackAmount
  return (w, paybackAmount)

/-- `redeemETH`: the other gateway has given back what it has not used, to this one. -/
def redeemETH (sender : Address) (msgValue punkIndex amount bidFine : ℕ) :
    Except GatewayError (World × ℕ) := do
  let w ← w.moveEther sender G.punkGateway msgValue
  let _ ← loanOnPunk G w punkIndex
  let (w, paybackAmount) ← w.redeemETH G G.punkGateway msgValue G.wrappedPunks punkIndex amount
    bidFine
  let w ← refundUnused G w sender msgValue paybackAmount
  return (w, paybackAmount)

/-- `liquidate`. -/
def liquidate (sender : Address) (punkIndex amount : ℕ) : Except GatewayError (World × ℕ) := do
  let loan ← loanOnPunk G w punkIndex
  require (loan.bidderAddress = sender) GatewayError.callerIsNotBidder
  let w ← applyIf (amount > 0)
    (fun w => w.takeErc20 G.punkGateway loan.reserveAsset sender amount) w
  let (s, extraRetAmount) ← inProtocol (w.protocol.whenNotPausedReturning
    (w.protocol.executeLiquidate D G.punkGateway G.wrappedPunks punkIndex amount))
  let w ← _withdrawPunk G (w.setProtocol s) sender punkIndex loan.bidderAddress
  let w ← refundErc20 G w loan.reserveAsset sender amount extraRetAmount
  return (w, extraRetAmount)

/-- `liquidateETH`. -/
def liquidateETH (sender : Address) (msgValue punkIndex : ℕ) :
    Except GatewayError (World × ℕ) := do
  let w ← w.moveEther sender G.punkGateway msgValue
  let loan ← loanOnPunk G w punkIndex
  require (loan.bidderAddress = sender) GatewayError.callerIsNotBidder
  let (w, extraAmount) ← w.liquidateETH G G.punkGateway msgValue G.wrappedPunks punkIndex
  let w ← _withdrawPunk G w sender punkIndex loan.bidderAddress
  let w ← refundUnused G w sender msgValue extraAmount
  return (w, extraAmount)

/-- `buyout`: nothing of the amount that was taken is given back. -/
def buyout (sender : Address) (punkIndex amount : ℕ) (onBehalfOf : Address) :
    Except GatewayError World := do
  w._checkValidCallerAndOnBehalfOf G.punkGateway sender onBehalfOf
  let loan ← loanOnPunk G w punkIndex
  let w ← w.takeErc20 G.punkGateway loan.reserveAsset sender amount
  let w ← w.call D G.punkGateway (.buyout G.wrappedPunks punkIndex onBehalfOf)
  _withdrawPunk G w sender punkIndex onBehalfOf

/-- `buyoutETH`. -/
def buyoutETH (sender : Address) (msgValue punkIndex : ℕ) (onBehalfOf : Address) :
    Except GatewayError World := do
  let w ← w.moveEther sender G.punkGateway msgValue
  w._checkValidCallerAndOnBehalfOf G.punkGateway sender onBehalfOf
  let _ ← loanOnPunk G w punkIndex
  let w ← w.buyoutETH G G.punkGateway msgValue G.wrappedPunks punkIndex onBehalfOf
  _withdrawPunk G w sender punkIndex onBehalfOf

end PunkGateway

end Unlockd

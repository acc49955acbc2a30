/-
`WETHGateway.sol`: the protocol for holders of ether.

The gateway wraps the ether that is sent with a call, calls the pool or the debt market in its own
name, and unwraps what comes back. To the protocol it is an account like any other; what is new is
ether, the allowances of the uTokens, and the lists of callers that may act for others. Ether
arrives with a call before anything else happens, and a call that reverts gives it back.
-/
import Unlockd.Protocol

set_option autoImplicit false

namespace Unlockd

open Outcome

/-! ## Around the protocol -/

/-- What the two gateways are deployed as: accounts outside the protocol. `acceptsEther` says which
accounts take the ether that is sent to them. -/
structure Gateways (D : Deployment) where
  wethGateway : Address
  punkGateway : Address
  wrappedPunks : Address
  punkProxy : Address
  acceptsEther : Address → Bool
  wethGateway_isUser : D.isUser wethGateway
  punkGateway_isUser : D.isUser punkGateway
  wethGateway_ne_punkGateway : wethGateway ≠ punkGateway
  weth_ne_wethGateway : D.weth ≠ wethGateway
  weth_ne_punkGateway : D.weth ≠ punkGateway
  yVault_ne_wethGateway : D.yVaultWETH ≠ wethGateway
  yVault_ne_punkGateway : D.yVaultWETH ≠ punkGateway
  /-- `receive` of the one takes ether from nobody but the WETH contract, that of the other from
  everybody. -/
  wethGateway_refuses : acceptsEther wethGateway = false
  punkGateway_accepts : acceptsEther punkGateway = true

/-- An offer of `CryptoPunksMarket.sol`. -/
structure PunkOffer where
  isForSale : Bool
  seller : Address
  minValue : ℕ
  onlySellTo : Address

/-- The protocol, and what else the gateways touch. -/
structure World where
  protocol : State
  ether : Address → ℕ
  uTokenAllowance : Address → Address → Address → ℕ
  /-- `_callerWhitelists` of each gateway. -/
  callerWhitelists : Address → Address → Bool
  punkIndexToAddress : ℕ → Address
  punksOfferedForSale : ℕ → PunkOffer

/-- What a call of a gateway reverts with: an error of the protocol, or one of the texts of the
gateways and of the contracts around them. -/
inductive GatewayError
  | reverted (e : Error)
  | CALLER_NOT_ONBEHALFOF_OR_IN_WHITELIST
  | collateralLoanIdNotExist | loanReserveNotWETH | noLoanWithSuchPunkIndex
  | msgValueIsLessThanRedeemAmount | msgValueIsLessThanRepayAmount
  | ETH_TRANSFER_FAILED | notEnoughEther | transferAmountExceedsAllowance
  | callerIsNotBidder | callerIsNotBorrower | callerIsNotOwner | onBehalfOfIsNotOwner
  | notOwnerOfPunkIndex | nonPayable
  -- `CryptoPunksMarket.sol` and `WrappedPunk.sol`
  | notOwner | punkIndexOverflow | punkNotActuallyForSale | punkNotSupposedToBeSoldToThisUser
  | didntSendEnoughETH | sellerNoLongerOwner | transferFail | tokenAlreadyMinted
  | callerIsNotOwnerNorApproved
  deriving DecidableEq, Repr

/-- An operation of the protocol, within a call of a gateway. -/
def inProtocol {α : Type} : Except Error α → Except GatewayError α
  | .ok a => .ok a
  | .error e => .error (.reverted e)

/-- What the protocol returns, the gateway goes on with. -/
theorem inProtocol_eq_ok {α : Type} {x : Except Error α} {a : α} :
    inProtocol x = .ok a ↔ x = .ok a := by
  cases x with
  | ok b =>
    exact ⟨fun h => congrArg Except.ok (Except.ok.inj h),
      fun h => congrArg Except.ok (Except.ok.inj h)⟩
  | error e => exact ⟨nofun, nofun⟩

namespace UToken

/-- The transfer of `ERC20Upgradeable.sol`, of scaled amounts. -/
def _transfer (u : UToken) (src dst : Address) (amountScaled : ℕ) : Except Error UToken := do
  require (src ≠ 0 ∧ dst ≠ 0) Error.zeroAddress
  require (amountScaled ≤ u.scaledBalanceOf src) (Error.transferAmountExceedsBalance src)
  let balances := Function.update u.scaledBalanceOf src (u.scaledBalanceOf src - amountScaled)
  return { u with scaledBalanceOf := Function.update balances dst (balances dst + amountScaled) }

end UToken

namespace State

/-- `UToken._transfer`: the amount is scaled by the income; the pool is asked at the end, and
refuses only while it is paused. -/
def transferUToken (s : State) (asset src dst : Address) (amount : ℕ) : Except Error State := do
  let index ← (s.lendPool.reserves asset).getNormalizedIncome s.blockTimestamp
  -- the two balances before are computed for the pool, which makes no use of them
  let _ ← rayMul ((s.uTokens asset).scaledBalanceOf src) index
  let _ ← rayMul ((s.uTokens asset).scaledBalanceOf dst) index
  let amountScaled ← rayDiv amount index
  let u ← (s.uTokens asset)._transfer src dst amountScaled
  require (s.lendPool.paused = false) Error.LP_IS_PAUSED
  return s.setUToken asset u

/-- What an operation of the pool that returns a number does while the pool is not paused. -/
def whenNotPausedReturning {α : Type} (s : State) (operation : Except Error (State × α)) :
    Except Error (State × α) := do
  require (s.lendPool.paused = false) Error.LP_IS_PAUSED
  operation

end State

namespace World

variable {D : Deployment} (G : Gateways D) (w : World)

def setProtocol (s : State) : World := { w with protocol := s }

/-- Ether goes from one account to another. -/
def moveEther (src dst : Address) (amount : ℕ) : Except GatewayError World := do
  require (amount ≤ w.ether src) GatewayError.notEnoughEther
  let balances := Function.update w.ether src (w.ether src - amount)
  return { w with ether := Function.update balances dst (balances dst + amount) }

/-- `_safeTransferETH`, called by `caller`: the receiver has to take it. -/
def _safeTransferETH (caller dst : Address) (value : ℕ) : Except GatewayError World := do
  require (G.acceptsEther dst = true) GatewayError.ETH_TRANSFER_FAILED
  w.moveEther caller dst value

/-- `WETH.deposit{value: amount}()`, called by `caller`. -/
def wrap (caller : Address) (amount : ℕ) : Except GatewayError World := do
  let w ← w.moveEther caller D.weth amount
  let e := w.protocol.erc20 D.weth
  return w.setProtocol (w.protocol.setErc20 D.weth { e with
    balanceOf := Function.update e.balanceOf caller (e.balanceOf caller + amount) })

/-- `WETH.withdraw(amount)`, called by `caller`. -/
def unwrap (caller : Address) (amount : ℕ) : Except GatewayError World := do
  let s ← inProtocol (w.protocol.burnErc20 D.weth caller amount)
  (w.setProtocol s).moveEther D.weth caller amount

/-- A call of the protocol by `caller`. -/
def call (D : Deployment) (w : World) (caller : Address) (c : Call D) :
    Except GatewayError World := do
  let s ← inProtocol (w.protocol.perform D caller c)
  return w.setProtocol s

/-- `transferFrom` of the uToken of an asset, called by `caller`. -/
def transferFromUToken (asset caller src dst : Address) (amount : ℕ) :
    Except GatewayError World := do
  let s ← inProtocol (w.protocol.transferUToken asset src dst amount)
  require (amount ≤ w.uTokenAllowance asset src caller)
    GatewayError.transferAmountExceedsAllowance
  let spent := update₂ (w.uTokenAllowance asset) src caller
    (w.uTokenAllowance asset src caller - amount)
  return { w.setProtocol s with uTokenAllowance := Function.update w.uTokenAllowance asset spent }

/-- `_checkValidCallerAndOnBehalfOf` of a gateway. -/
def _checkValidCallerAndOnBehalfOf (gateway sender onBehalfOf : Address) :
    Except GatewayError Unit :=
  require (onBehalfOf = sender ∨ w.callerWhitelists gateway sender = true)
    GatewayError.CALLER_NOT_ONBEHALFOF_OR_IN_WHITELIST

/-- The modifier `loanReserveShouldBeWETH`. -/
def loanReserveShouldBeWETH (D : Deployment) (w : World) (nftAsset : Address) (nftTokenId : ℕ) :
    Except GatewayError Unit := do
  let loanId := w.protocol.lendPoolLoan.getCollateralLoanId nftAsset nftTokenId
  require (loanId > 0) GatewayError.collateralLoanIdNotExist
  require ((w.protocol.lendPoolLoan.getLoan loanId).reserveAsset = D.weth)
    GatewayError.loanReserveNotWETH

end World

/-- The larger deployment with two gateways. -/
def Gateways.larger : Gateways .larger where
  wethGateway := 110
  punkGateway := 111
  wrappedPunks := 50
  punkProxy := 112
  acceptsEther := fun a => a ≠ 110
  wethGateway_isUser := Deployment.larger_isUser 10
  punkGateway_isUser := Deployment.larger_isUser 11
  wethGateway_ne_punkGateway := by decide
  weth_ne_wethGateway := by decide
  weth_ne_punkGateway := by decide
  yVault_ne_wethGateway := by decide
  yVault_ne_punkGateway := by decide
  wethGateway_refuses := by decide
  punkGateway_accepts := by decide

/-- What is around the protocol there: everybody has ether, and lets everybody move uTokens. -/
def World.around (s : State) : World where
  protocol := s
  ether := fun _ => 1000000 * WAD
  uTokenAllowance := fun _ _ _ => maxUint256
  callerWhitelists := fun _ _ => false
  punkIndexToAddress := fun _ => 100
  punksOfferedForSale := fun _ => ⟨false, 0, 0, 0⟩

namespace World

variable {D : Deployment} (G : Gateways D) (w : World)

/-! ## The calls of the gateway

`sender` makes the call and `msgValue` comes with it. -/

/-- `depositETH`. -/
def depositETH (sender : Address) (msgValue : ℕ) (onBehalfOf : Address) :
    Except GatewayError World := do
  let w ← w.moveEther sender G.wethGateway msgValue
  w._checkValidCallerAndOnBehalfOf G.wethGateway sender onBehalfOf
  let w ← w.wrap (D := D) G.wethGateway msgValue
  w.call D G.wethGateway (.deposit D.weth msgValue onBehalfOf)

/-- The first half of `withdrawETH`: the uTokens of the sender go to the gateway, and the gateway
withdraws what they stand for. The largest number stands for the whole balance. -/
def withdrawUWETH (sender : Address) (amount : ℕ) : Except GatewayError (World × ℕ) := do
  let userBalance ← inProtocol (w.protocol.uTokenBalanceOf D.weth sender)
  let amountToWithdraw := if amount = maxUint256 then userBalance else amount
  let w ← w.transferFromUToken D.weth G.wethGateway sender G.wethGateway amountToWithdraw
  let w ← w.call D G.wethGateway (.withdraw D.weth amountToWithdraw G.wethGateway)
  return (w, amountToWithdraw)

/-- `withdrawETH`. -/
def withdrawETH (sender : Address) (amount : ℕ) (dst : Address) : Except GatewayError World := do
  w._checkValidCallerAndOnBehalfOf G.wethGateway sender dst
  let (w, amountToWithdraw) ← w.withdrawUWETH G sender amount
  let w ← w.unwrap (D := D) G.wethGateway amountToWithdraw
  w._safeTransferETH G G.wethGateway dst amountToWithdraw

/-- `borrowETH`: the token comes in with the first borrow on it. -/
def borrowETH (sender : Address) (amount : ℕ) (nftAsset : Address) (nftTokenId : ℕ)
    (onBehalfOf : Address) : Except GatewayError World := do
  w._checkValidCallerAndOnBehalfOf G.wethGateway sender onBehalfOf
  let loanId := w.protocol.lendPoolLoan.getCollateralLoanId nftAsset nftTokenId
  let s ← inProtocol (applyIf (loanId = 0) (fun s =>
    s.safeTransferNft D nftAsset G.wethGateway sender G.wethGateway nftTokenId) w.protocol)
  let w ← (w.setProtocol s).call D G.wethGateway
    (.borrow D.weth amount nftAsset nftTokenId onBehalfOf)
  let w ← w.unwrap (D := D) G.wethGateway amount
  w._safeTransferETH G G.wethGateway onBehalfOf amount

/-- `_repayETH`. -/
def _repayETH (msgValue : ℕ) (nftAsset : Address) (nftTokenId amount accAmount : ℕ) :
    Except GatewayError (World × ℕ × Bool) := do
  w.loanReserveShouldBeWETH D nftAsset nftTokenId
  let loanId := w.protocol.lendPoolLoan.getCollateralLoanId nftAsset nftTokenId
  let debt ← inProtocol (w.protocol.getLoanReserveBorrowAmount loanId)
  let repayDebtAmount := if amount < debt then amount else debt
  require (accAmount + repayDebtAmount ≤ msgValue) GatewayError.msgValueIsLessThanRepayAmount
  let w ← w.wrap (D := D) G.wethGateway repayDebtAmount
  let (s, paybackAmount, burn) ← inProtocol (w.protocol.whenNotPausedReturning
    (w.protocol._repay D G.wethGateway nftAsset nftTokenId amount))
  return (w.setProtocol s, paybackAmount, burn)

/-- `repayETH`. -/
def repayETH (sender : Address) (msgValue : ℕ) (nftAsset : Address) (nftTokenId amount : ℕ) :
    Except GatewayError (World × ℕ × Bool) := do
  let w ← w.moveEther sender G.wethGateway msgValue
  let (w, repayAmount, repayAll) ← w._repayETH G msgValue nftAsset nftTokenId amount 0
  -- refund remaining dust eth
  let w ← applyIf (msgValue > repayAmount) (fun w =>
    w._safeTransferETH G G.wethGateway sender (msgValue - repayAmount)) w
  return (w, repayAmount, repayAll)

/-- `auctionETH`. -/
def auctionETH (sender : Address) (msgValue : ℕ) (nftAsset : Address) (nftTokenId : ℕ)
    (onBehalfOf : Address) : Except GatewayError World := do
  let w ← w.moveEther sender G.wethGateway msgValue
  w.loanReserveShouldBeWETH D nftAsset nftTokenId
  w._checkValidCallerAndOnBehalfOf G.wethGateway sender onBehalfOf
  let w ← w.wrap (D := D) G.wethGateway msgValue
  w.call D G.wethGateway (.auction nftAsset nftTokenId msgValue onBehalfOf)

/-- Give back what the pool has left of the ether that was wrapped. -/
def refundUnused (sender : Address) (msgValue used : ℕ) : Except GatewayError World :=
  applyIf (msgValue > used) (fun w => do
    let w ← w.unwrap (D := D) G.wethGateway (msgValue - used)
    w._safeTransferETH G G.wethGateway sender (msgValue - used)) w

/-- `redeemETH`. -/
def redeemETH (sender : Address) (msgValue : ℕ) (nftAsset : Address)
    (nftTokenId amount bidFine : ℕ) : Except GatewayError (World × ℕ) := do
  let w ← w.moveEther sender G.wethGateway msgValue
  w.loanReserveShouldBeWETH D nftAsset nftTokenId
  require (amount + bidFine ≤ msgValue) GatewayError.msgValueIsLessThanRedeemAmount
  let w ← w.wrap (D := D) G.wethGateway msgValue
  let (s, paybackAmount) ← inProtocol (w.protocol.whenNotPausedReturning
    (w.protocol.executeRedeem D G.wethGateway nftAsset nftTokenId amount bidFine))
  let w ← (w.setProtocol s).refundUnused G sender msgValue paybackAmount
  return (w, paybackAmount)

/-- `liquidateETH`. -/
def liquidateETH (sender : Address) (msgValue : ℕ) (nftAsset : Address) (nftTokenId : ℕ) :
    Except GatewayError (World × ℕ) := do
  let w ← w.moveEther sender G.wethGateway msgValue
  w.loanReserveShouldBeWETH D nftAsset nftTokenId
  let w ← applyIf (msgValue > 0) (fun w => w.wrap (D := D) G.wethGateway msgValue) w
  let (s, extraAmount) ← inProtocol (w.protocol.whenNotPausedReturning
    (w.protocol.executeLiquidate D G.wethGateway nftAsset nftTokenId msgValue))
  let w ← (w.setProtocol s).refundUnused G sender msgValue extraAmount
  return (w, extraAmount)

/-- The debt market may take WETH of the gateway, from its first use on. -/
def approveDebtMarket : World :=
  if (w.protocol.erc20 D.weth).allowance G.wethGateway D.debtMarket = 0 then
    w.setProtocol (w.protocol.approveErc20 D.weth G.wethGateway D.debtMarket maxUint256)
  else w

/-- `bidDebtETH`. -/
def bidDebtETH (sender : Address) (msgValue : ℕ) (nftAsset : Address) (nftTokenId : ℕ)
    (onBehalfOf : Address) : Except GatewayError World := do
  let w ← w.moveEther sender G.wethGateway msgValue
  w.loanReserveShouldBeWETH D nftAsset nftTokenId
  let w ← applyIf (msgValue > 0) (fun w => w.wrap (D := D) G.wethGateway msgValue) w
  (w.approveDebtMarket G).call D G.wethGateway (.bid nftAsset nftTokenId msgValue onBehalfOf)

/-- `buyDebtETH`. -/
def buyDebtETH (sender : Address) (msgValue : ℕ) (nftAsset : Address) (nftTokenId : ℕ)
    (onBehalfOf : Address) : Except GatewayError World := do
  let w ← w.moveEther sender G.wethGateway msgValue
  w.loanReserveShouldBeWETH D nftAsset nftTokenId
  let w ← applyIf (msgValue > 0) (fun w => w.wrap (D := D) G.wethGateway msgValue) w
  (w.approveDebtMarket G).call D G.wethGateway (.buy nftAsset nftTokenId onBehalfOf msgValue)

/-- `buyoutETH`: nothing of the value that was sent is given back. -/
def buyoutETH (sender : Address) (msgValue : ℕ) (nftAsset : Address) (nftTokenId : ℕ)
    (onBehalfOf : Address) : Except GatewayError World := do
  let w ← w.moveEther sender G.wethGateway msgValue
  w._checkValidCallerAndOnBehalfOf G.wethGateway sender onBehalfOf
  w.loanReserveShouldBeWETH D nftAsset nftTokenId
  let w ← applyIf (msgValue > 0) (fun w => w.wrap (D := D) G.wethGateway msgValue) w
  w.call D G.wethGateway (.buyout nftAsset nftTokenId onBehalfOf)

end World

end Unlockd

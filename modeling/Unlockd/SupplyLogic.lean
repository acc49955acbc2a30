/-
`SupplyLogic.sol`: deposits and withdrawals.

A deposit sets the new rates first, then moves the tokens from the depositor to the uToken
and on into the vault; a withdrawal takes them the other way. Neither touches a loan or
a listing.
-/
import Unlockd.GenericLogic

set_option autoImplicit false

namespace Unlockd

open Outcome

namespace State

variable (D : Deployment) (s : State)

/-- `UToken.mint`, called by the pool. -/
def mintUToken (asset user : Address) (amount index : ℕ) : Except Error State := do
  let u ← (s.uTokens asset).mint user amount index
  return s.setUToken asset u

/-- `UToken.burn`, called by the pool: the underlying goes to the receiver. -/
def burnUToken (asset uToken user receiverOfUnderlying : Address) (amount index : ℕ) :
    Except Error State := do
  let amountScaled ← rayDiv amount index
  require (amountScaled ≠ 0) Error.CT_INVALID_BURN_AMOUNT
  let u ← (s.uTokens asset)._burn user amountScaled
  (s.setUToken asset u).safeTransfer asset uToken receiverOfUnderlying amount

/-- `UToken.balanceOf`. -/
def uTokenBalanceOf (asset user : Address) : Except Error ℕ := do
  let income ← (s.lendPool.reserves asset).getNormalizedIncome s.blockTimestamp
  rayMul ((s.uTokens asset).scaledBalanceOf user) income

/-- `executeDeposit`. -/
def executeDeposit (initiator asset : Address) (amount : ℕ) (onBehalfOf : Address) :
    Except Error State := do
  require (onBehalfOf ≠ 0) Error.VL_INVALID_ONBEHALFOF_ADDRESS
  let uToken := (s.lendPool.reserves asset).uTokenAddress
  require (uToken ≠ 0) Error.VL_INVALID_RESERVE_ADDRESS
  s.validateDeposit asset amount
  let s ← s.updateState asset
  let s ← s.updateInterestRates asset uToken amount 0
  let s ← s.safeTransferFrom asset D.lendPool initiator uToken amount
  let s ← s.mintUToken asset onBehalfOf amount (s.lendPool.reserves asset).liquidityIndex
  s.depositReserves D D.lendPool asset uToken amount

/-- `executeWithdraw`; the largest number stands for the whole balance. -/
def executeWithdraw (initiator asset : Address) (amount : ℕ) (receiver : Address) :
    Except Error (State × ℕ) := do
  require (receiver ≠ 0) Error.VL_INVALID_TARGET_ADDRESS
  let uToken := (s.lendPool.reserves asset).uTokenAddress
  require (uToken ≠ 0) Error.VL_INVALID_RESERVE_ADDRESS
  let userBalance ← s.uTokenBalanceOf asset initiator
  let amountToWithdraw := if amount = maxUint256 then userBalance else amount
  s.validateWithdraw asset uToken amountToWithdraw userBalance
  let s ← s.updateState asset
  let s ← s.updateInterestRates asset uToken 0 amountToWithdraw
  let (s, _) ← s.withdrawReserves D D.lendPool asset uToken amountToWithdraw
  let s ← s.burnUToken asset uToken initiator receiver amountToWithdraw
    (s.lendPool.reserves asset).liquidityIndex
  return (s, amountToWithdraw)

end State

end Unlockd

/-
The token contracts: the ERC20 reserve assets, the ERC721 collections, the receipts of
the protocol (`UNFT.sol`, `DebtToken.sol`, `UToken.sol`) and the vault behind the WETH
reserve.

A reserve asset follows one of the two ERC20 sources of the repository: OpenZeppelin's,
where `transferFrom` moves the tokens, then always consumes allowance, also when the
caller spends its own tokens; or `WETH9`, where a holder needs no allowance for its own
tokens and an unlimited allowance is not consumed.
-/
import Unlockd.Math

set_option autoImplicit false

namespace Unlockd

open Outcome

/-! ## ERC20 -/

inductive Erc20Kind
  | openZeppelin | weth9
  deriving DecidableEq, Repr

structure Erc20 where
  kind : Erc20Kind
  balanceOf : Address → ℕ
  allowance : Address → Address → ℕ

namespace Erc20

/-- Move `amount` from one balance to another. -/
def move (e : Erc20) (src dst : Address) (amount : ℕ) : Erc20 :=
  let balances := Function.update e.balanceOf src (e.balanceOf src - amount)
  { e with balanceOf := Function.update balances dst (balances dst + amount) }

def setAllowance (e : Erc20) (owner spender : Address) (amount : ℕ) : Erc20 :=
  { e with allowance := update₂ e.allowance owner spender amount }

/-- The checks and the movement common to `transfer` and `transferFrom`. Only OpenZeppelin's
source rejects the zero address. -/
def _transfer (e : Erc20) (src dst : Address) (amount : ℕ) : Except Error Erc20 := do
  require (e.kind = .openZeppelin → src ≠ 0 ∧ dst ≠ 0) Error.zeroAddress
  require (amount ≤ e.balanceOf src) (Error.transferAmountExceedsBalance src)
  return e.move src dst amount

/-- The allowance that `caller` needs to spend `amount` of `src`, consumed. -/
def spendAllowance (e : Erc20) (caller src : Address) (amount : ℕ) : Except Error Erc20 :=
  -- OpenZeppelin's source has neither exception
  let unlimited := e.kind = .weth9 ∧ (src = caller ∨ e.allowance src caller = maxUint256)
  if unlimited then .ok e
  else do
    require (amount ≤ e.allowance src caller) Error.insufficientAllowance
    return e.setAllowance src caller (e.allowance src caller - amount)

def transferFrom (e : Erc20) (caller src dst : Address) (amount : ℕ) : Except Error Erc20 := do
  -- the tokens move before the allowance is looked at
  let e ← e._transfer src dst amount
  e.spendAllowance caller src amount

def transfer (e : Erc20) (caller dst : Address) (amount : ℕ) : Except Error Erc20 :=
  e._transfer caller dst amount

/-- `SafeERC20.safeApprove`: from a non-zero to a non-zero allowance it reverts. -/
def safeApprove (e : Erc20) (caller spender : Address) (amount : ℕ) : Except Error Erc20 := do
  require (amount = 0 ∨ e.allowance caller spender = 0) Error.approveFromNonZeroToNonZero
  return e.setAllowance caller spender amount

end Erc20

/-! ## ERC721 collections -/

structure Erc721 where
  ownerOf : ℕ → Address
  approved : ℕ → Address
  operators : Address → Address → Bool

namespace Erc721

def isApprovedOrOwner (c : Erc721) (spender : Address) (tokenId : ℕ) : Prop :=
  spender = c.ownerOf tokenId ∨ spender = c.approved tokenId
    ∨ c.operators (c.ownerOf tokenId) spender = true

instance (c : Erc721) (spender : Address) (tokenId : ℕ) :
    Decidable (c.isApprovedOrOwner spender tokenId) :=
  inferInstanceAs (Decidable (_ ∨ _ ∨ _))

def transferFrom (c : Erc721) (caller src dst : Address) (tokenId : ℕ) : Except Error Erc721 := do
  require (c.ownerOf tokenId ≠ 0) Error.nonexistentToken
  require (c.isApprovedOrOwner caller tokenId) Error.callerIsNotOwnerNorApproved
  require (c.ownerOf tokenId = src) Error.notTokenOwner
  require (dst ≠ 0) Error.zeroAddress
  return { c with
    ownerOf := Function.update c.ownerOf tokenId dst
    approved := Function.update c.approved tokenId 0 }

end Erc721

/-! ## Receipts of the protocol -/

/-- `UNFT.sol`: the receipt for a collateral token, held in the name of the borrower. -/
structure UNft where
  owner : ℕ → Address
  minter : ℕ → Address

/-- `DebtToken.sol`: scaled debt balances. -/
structure DebtToken where
  scaledBalanceOf : Address → ℕ
  scaledTotalSupply : ℕ
  borrowAllowance : Address → Address → ℕ
  debtTokenManagers : Address → Bool

/-- `UToken.sol`: scaled deposit balances. -/
structure UToken where
  scaledBalanceOf : Address → ℕ
  scaledTotalSupply : ℕ
  treasury : Address
  uTokenManagers : Address → Bool

namespace DebtToken

/-- The allowance of a delegator to a borrower, consumed. -/
def _decreaseBorrowAllowance (d : DebtToken) (delegator delegatee : Address) (amount : ℕ) :
    Except Error DebtToken := do
  require (amount ≤ d.borrowAllowance delegator delegatee) Error.CT_BORROW_ALLOWANCE_NOT_ENOUGH
  return { d with
    borrowAllowance := update₂ d.borrowAllowance delegator delegatee
      (d.borrowAllowance delegator delegatee - amount) }

def mint (d : DebtToken) (caller initiator onBehalfOf : Address) (amount index : ℕ) :
    Except Error DebtToken := do
  require (d.debtTokenManagers caller = true) Error.LP_CALLER_NOT_DEBT_TOKEN_MANAGER
  -- debt in the name of another account needs the delegation of that account
  let d ← applyIf (initiator ≠ onBehalfOf)
    (fun d => d._decreaseBorrowAllowance onBehalfOf initiator amount) d
  let amountScaled ← rayDiv amount index
  require (amountScaled ≠ 0) Error.CT_INVALID_MINT_AMOUNT
  require (onBehalfOf ≠ 0) Error.zeroAddress
  return { d with
    scaledBalanceOf := Function.update d.scaledBalanceOf onBehalfOf
      (d.scaledBalanceOf onBehalfOf + amountScaled)
    scaledTotalSupply := d.scaledTotalSupply + amountScaled }

def burn (d : DebtToken) (caller user : Address) (amount index : ℕ) : Except Error DebtToken := do
  require (d.debtTokenManagers caller = true) Error.LP_CALLER_NOT_DEBT_TOKEN_MANAGER
  let amountScaled ← rayDiv amount index
  require (amountScaled ≠ 0) Error.CT_INVALID_BURN_AMOUNT
  require (user ≠ 0) Error.zeroAddress
  require (amountScaled ≤ d.scaledBalanceOf user) (Error.debtBurnAmountExceedsBalance user)
  return { d with
    scaledBalanceOf := Function.update d.scaledBalanceOf user
      (d.scaledBalanceOf user - amountScaled)
    scaledTotalSupply := d.scaledTotalSupply - amountScaled }

end DebtToken

namespace UToken

def _mint (u : UToken) (account : Address) (amountScaled : ℕ) : Except Error UToken := do
  require (account ≠ 0) Error.zeroAddress
  return { u with
    scaledBalanceOf := Function.update u.scaledBalanceOf account
      (u.scaledBalanceOf account + amountScaled)
    scaledTotalSupply := u.scaledTotalSupply + amountScaled }

def _burn (u : UToken) (account : Address) (amountScaled : ℕ) : Except Error UToken := do
  require (account ≠ 0) Error.zeroAddress
  require (amountScaled ≤ u.scaledBalanceOf account) (Error.burnAmountExceedsBalance account)
  return { u with
    scaledBalanceOf := Function.update u.scaledBalanceOf account
      (u.scaledBalanceOf account - amountScaled)
    scaledTotalSupply := u.scaledTotalSupply - amountScaled }

def mint (u : UToken) (user : Address) (amount index : ℕ) : Except Error UToken := do
  let amountScaled ← rayDiv amount index
  require (amountScaled ≠ 0) Error.CT_INVALID_MINT_AMOUNT
  u._mint user amountScaled

/-- Unlike `mint`, an amount that rounds to nothing is accepted. -/
def mintToTreasury (u : UToken) (amount index : ℕ) : Except Error UToken := do
  if amount = 0 then return u
  else
    let amountScaled ← rayDiv amount index
    u._mint u.treasury amountScaled

end UToken

/-! ## The vault -/

/-- The vault behind the WETH reserve: shares by holder, and the price of one share in wad. -/
structure YVault where
  shares : Address → ℕ
  pricePerShare : ℕ

/-! ## What a token movement does -/

namespace Erc20

/-- The effect of moving `amount` from `src` to `dst`: the sum of the two balances is
kept, everyone else keeps theirs, and no allowance grows. -/
structure Moved (e e' : Erc20) (src dst : Address) (amount : ℕ) : Prop where
  kind : e'.kind = e.kind
  balance : ∀ c, e'.balanceOf c + (if c = src then amount else 0)
    = e.balanceOf c + (if c = dst then amount else 0)
  allowance : ∀ o c, e'.allowance o c ≤ e.allowance o c

variable {e e' : Erc20} {src dst : Address} {amount : ℕ}

theorem move_balance (h : amount ≤ e.balanceOf src) (c : Address) :
    (e.move src dst amount).balanceOf c + (if c = src then amount else 0)
      = e.balanceOf c + (if c = dst then amount else 0) := by
  simp only [move, Function.update_apply]
  by_cases hs : c = src <;> by_cases hd : c = dst <;> by_cases hsd : dst = src <;>
    simp_all

theorem move_moved (h : amount ≤ e.balanceOf src) :
    Moved e (e.move src dst amount) src dst amount :=
  ⟨rfl, move_balance h, fun _ _ => le_rfl⟩

theorem _transfer_spec : Sat (e._transfer src dst amount)
    (fun e' => Moved e e' src dst amount ∧ e' = e.move src dst amount)
    (fun err => err = .zeroAddress ∨
      (err = .transferAmountExceedsBalance src ∧ e.balanceOf src < amount)) := by
  refine Sat.bind (Sat.require fun _ => .inl rfl) fun _ _ => ?_
  refine Sat.bind (Sat.require fun h => .inr ⟨rfl, not_le.mp h⟩) fun _ h => ?_
  exact ⟨move_moved h, rfl⟩

theorem spendAllowance_spec {caller : Address} : Sat (e.spendAllowance caller src amount)
    (fun e' => e'.kind = e.kind ∧ e'.balanceOf = e.balanceOf
      ∧ (∀ o c, e'.allowance o c ≤ e.allowance o c)
      ∧ (amount ≤ e.allowance src caller ∨ e.kind = .weth9 ∧
          (src = caller ∨ e.allowance src caller = maxUint256)))
    (fun err => err = .insufficientAllowance) := by
  unfold spendAllowance
  refine Sat.ite (fun h => ⟨rfl, rfl, fun _ _ => le_rfl, .inr h⟩) fun _ => ?_
  refine Sat.bind (Sat.require fun _ => rfl) fun _ h => ?_
  refine ⟨rfl, rfl, fun o c => ?_, .inl h⟩
  simp only [setAllowance, update₂_apply]
  split_ifs with hoc
  · rw [hoc.1, hoc.2]; exact Nat.sub_le _ _
  · exact le_rfl

/-- **Transfer.** Fails for want of tokens only when the balance is short. -/
theorem transfer_spec : Sat (e.transfer src dst amount) (fun e' => Moved e e' src dst amount)
    (fun err => err = .zeroAddress ∨
      (err = .transferAmountExceedsBalance src ∧ e.balanceOf src < amount)) :=
  _transfer_spec.imp fun _ h => h.1

/-- **Transfer by a spender.** Beyond moving the tokens it tells what entitled the caller. -/
theorem transferFrom_spec {caller : Address} : Sat (e.transferFrom caller src dst amount)
    (fun e' => Moved e e' src dst amount ∧
      (amount ≤ e.allowance src caller ∨ e.kind = .weth9 ∧
        (src = caller ∨ e.allowance src caller = maxUint256)))
    (fun err => err = .zeroAddress ∨ err = .insufficientAllowance ∨
      (err = .transferAmountExceedsBalance src ∧ e.balanceOf src < amount)) := by
  refine Sat.bind (_transfer_spec.mono (fun _ h => h) fun _ h => ?_) fun e₁ h₁ => ?_
  · rcases h with h | h
    · exact .inl h
    · exact .inr (.inr h)
  obtain ⟨m, rfl⟩ := h₁
  refine spendAllowance_spec.mono (fun e' h => ?_) fun _ h => .inr (.inl h)
  obtain ⟨hk, hb, ha, hw⟩ := h
  exact ⟨⟨hk, fun c => by rw [hb]; exact m.balance c, ha⟩, hw⟩

theorem Moved.payee (m : Moved e e' src dst amount) (hs : dst ≠ src) :
    e'.balanceOf dst = e.balanceOf dst + amount := by
  simpa [hs] using m.balance dst

/-- A balance loses at most what is moved. -/
theorem Moved.le_add (m : Moved e e' src dst amount) (c : Address) :
    e.balanceOf c ≤ e'.balanceOf c + amount := by
  have := m.balance c
  split_ifs at this <;> omega

/-- Whoever does not pay loses nothing. -/
theorem Moved.le_of_ne (m : Moved e e' src dst amount) {c : Address} (hs : c ≠ src) :
    e.balanceOf c ≤ e'.balanceOf c := by
  have := m.balance c
  rw [if_neg hs] at this
  omega

end Erc20

end Unlockd

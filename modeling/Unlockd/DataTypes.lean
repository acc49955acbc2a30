/-
The data types of the protocol: `libraries/types/DataTypes.sol`, and the errors of
`libraries/helpers/Errors.sol` that the modelled functions raise.

Addresses are natural numbers with `0` the zero address. Amounts, indices and rates are
natural numbers: the checks the source itself makes against `type(uint256).max` and
`type(uint128).max` are kept where they stand, a subtraction that would go below zero
reverts, and a sum or product is otherwise exact. The two configuration words keep their
width, because they are read and written through bit masks.
-/
import Mathlib.Logic.Function.Basic
import Mathlib.Algebra.Ring.Nat

set_option autoImplicit false

namespace Unlockd

/-- An account or a contract; `0` is the zero address. -/
abbrev Address := ℕ

/-- What a call reverts with, under the name of its constant in `Errors.sol`. The last
groups are the reverts of the token contracts and of the compiler; a shortfall of tokens
also carries the account that is short, and says whether the token is a debt token. -/
inductive Error
  -- common
  | CALLER_NOT_POOL_ADMIN | INVALID_ZERO_ADDRESS | CALLER_NOT_UTOKEN_MANAGER
  -- mathematics
  | MATH_MULTIPLICATION_OVERFLOW | MATH_DIVISION_BY_ZERO
  -- validation and lend pool
  | VL_INVALID_AMOUNT | VL_NO_ACTIVE_RESERVE | VL_RESERVE_FROZEN
  | VL_NOT_ENOUGH_AVAILABLE_USER_BALANCE | VL_BORROWING_NOT_ENABLED
  | VL_COLLATERAL_BALANCE_IS_0 | VL_HEALTH_FACTOR_LOWER_THAN_LIQUIDATION_THRESHOLD
  | VL_COLLATERAL_CANNOT_COVER_NEW_BORROW | VL_NO_DEBT_OF_SELECTED_TYPE | VL_NO_ACTIVE_NFT
  | VL_NFT_FROZEN | VL_SPECIFIED_RESERVE_NOT_BORROWED_BY_USER
  | VL_SPECIFIED_LOAN_NOT_BORROWED_BY_USER | VL_INVALID_ONBEHALFOF_ADDRESS
  | VL_INVALID_TARGET_ADDRESS | VL_INVALID_RESERVE_ADDRESS | VL_TIMEFRAME_EXCEEDED
  | LP_NFT_IS_NOT_USED_AS_COLLATERAL | LP_IS_PAUSED | LP_NFT_HAS_USED_AS_COLLATERAL
  | LP_BORROW_NOT_EXCEED_LIQUIDATION_THRESHOLD | LP_AMOUNT_LESS_THAN_REDEEM_THRESHOLD
  | LP_AMOUNT_GREATER_THAN_MAX_REPAY | LP_AMOUNT_LESS_THAN_EXTRA_DEBT
  | LP_RESERVES_WITHOUT_ENOUGH_LIQUIDITY | LP_CONSECUTIVE_BIDS_NOT_ALLOWED
  | LP_INVALID_USER_NFT_AMOUNT | LP_INVALID_NFT_AMOUNT | LP_CALLER_NOT_DEBT_TOKEN_MANAGER
  | LP_INVALID_SAFE_HEALTH_FACTOR | LP_NO_MORE_RESERVES_ALLOWED | LP_NO_MORE_NFTS_ALLOWED
  | LP_NOT_CONTRACT | LP_INVALID_OVERFLOW_VALUE
  | LPC_INVALID_UNFT_ADDRESS | LPC_RESERVE_LIQUIDITY_NOT_0
  | LPC_NFT_LIQUIDITY_NOT_0 | LPC_INVALID_CONFIGURATION | LPC_PARAMS_MISMATCH
  -- lend pool loan
  | LPL_INVALID_LOAN_STATE | LPL_INVALID_LOAN_AMOUNT | LPL_INVALID_TAKEN_AMOUNT
  | LPL_AMOUNT_OVERFLOW | LPL_BID_PRICE_LESS_THAN_DEBT_PRICE
  | LPL_BID_PRICE_LESS_THAN_HIGHEST_PRICE | LPL_BID_REDEEM_DURATION_HAS_END
  | LPL_BID_PRICE_LESS_THAN_BORROW | LPL_BID_AUCTION_DURATION_HAS_END
  | LPL_BID_PRICE_LESS_THAN_MIN_BID_REQUIRED | LPL_CLAIM_HASNT_STARTED_YET
  | LPL_INVALID_BID_FINE | LPL_CALLER_MUST_BE_MARKET_ADAPTER
  -- tokens, reserve logic and configuration
  | CT_INVALID_MINT_AMOUNT | CT_INVALID_BURN_AMOUNT | CT_BORROW_ALLOWANCE_NOT_ENOUGH
  | RL_RESERVE_ALREADY_INITIALIZED | RL_LIQUIDITY_INDEX_OVERFLOW
  | RL_VARIABLE_BORROW_INDEX_OVERFLOW | RL_LIQUIDITY_RATE_OVERFLOW
  | RL_VARIABLE_BORROW_RATE_OVERFLOW | RC_INVALID_RESERVE_FACTOR | RC_INVALID_DECIMALS
  | RC_INVALID_LTV | RC_INVALID_LIQ_THRESHOLD | RC_INVALID_LIQ_BONUS | RC_INVALID_REDEEM_DURATION
  | RC_INVALID_AUCTION_DURATION | RC_INVALID_REDEEM_FINE | RC_INVALID_REDEEM_THRESHOLD
  | RC_INVALID_MIN_BID_FINE | RC_INVALID_MAX_CONFIG_TIMESTAMP
  -- debt market
  | DM_DEBT_ALREADY_EXIST | DM_LOAN_SHOULD_EXIST | DM_CALLER_NOT_THE_OWNER
  | DM_DEBT_SHOULD_EXIST | DM_INVALID_AMOUNT | DM_AUCTION_ALREADY_ENDED
  | DM_CALLER_NOT_THE_OWNER_OR_AUTHORIZED | DM_DEBT_SHOULD_NOT_BE_SOLD
  | DM_INVALID_SELL_TYPE | DM_AMOUNT_DIFFERENT_FROM_SELL_PRICE
  | DM_BID_PRICE_LESS_THAN_MIN_BID_PRICE | DM_BID_PRICE_HIGHER_THAN_SELL_PRICE
  | DM_BID_PRICE_LESS_THAN_PREVIOUS_BID | DM_INVALID_CLAIM_RECEIVER
  | DM_AUCTION_NOT_ALREADY_ENDED | DM_BORROWED_AMOUNT_DIVERGED | DM_IS_PAUSED
  | DM_INVALID_DELTA_BID_PERCENT | DM_INVALID_AUTHORIZED_ADDRESS
  -- adapter
  | NftNotUsedAsCollateral | InvalidLoanState | InactiveNft | InactiveReserve | LoanIsHealthy
  | InsufficientTreasuryBalance | NotReservoirLiquidator | InvalidLiquidateAmount
  | InvalidReservoirModule | LowLevelSafeTransferFromFailed
  | InvalidSafeTransferFromExpectedSelector | InvalidReservoirFromAddress
  | InvalidExecuteExpectedSelector | InvalidReservoirModuleOnExecute
  | LP_CALLER_NOT_RESERVOIR_OR_DEBT_MARKET
  -- oracles
  | PriceIsZero | NonExistingCollection (collection : Address) | NFTPaused
  -- ERC20, ERC721 and uNFT contracts
  | zeroAddress | transferAmountExceedsBalance (holder : Address) | insufficientAllowance
  | approveFromNonZeroToNonZero | burnAmountExceedsBalance (holder : Address)
  | debtBurnAmountExceedsBalance (holder : Address)
  | callerIsNotOwnerNorApproved | notTokenOwner | nonERC721Receiver | tokenExists
  | nonexistentToken | callerIsNotMinter
  -- proxies
  | adminCannotFallback | functionCallToNonContract
  -- compiler: a result out of range, subtraction below zero, division by zero, an index beyond an
  -- array, a loop that does not end, call data that cannot be decoded
  | arithmeticOverflow | arithmeticUnderflow | divisionByZero | indexOutOfBounds | outOfGas
  | malformedCalldata
  deriving DecidableEq, Repr

/-- Every error but those that would show the books of the protocol to be wrong. -/
def Error.Benign : Error → Prop
  | .LP_INVALID_USER_NFT_AMOUNT | .LP_INVALID_NFT_AMOUNT | .DM_BORROWED_AMOUNT_DIVERGED => False
  | .transferAmountExceedsBalance _ | .debtBurnAmountExceedsBalance _ => False
  | _ => True

/-- The state of a loan: `Created → Active → Repaid`, or `Active → Auction → Defaulted`. -/
inductive LoanState
  | None | Created | Active | Auction | Repaid | Defaulted
  deriving DecidableEq, Repr

/-- `DataTypes.LoanData`. -/
structure LoanData where
  loanId : ℕ
  state : LoanState
  borrower : Address
  nftAsset : Address
  nftTokenId : ℕ
  reserveAsset : Address
  /-- Borrowed amount in units of the borrow index at the time of borrowing. -/
  scaledAmount : ℕ
  /-- Time of the first bid of the auction. -/
  bidStartTimestamp : ℕ
  /-- Highest bidder. -/
  bidderAddress : Address
  /-- Highest bid. -/
  bidPrice : ℕ
  bidBorrowAmount : ℕ
  firstBidderAddress : Address
  deriving DecidableEq, Repr

inductive DebtMarketType
  | FixedPrice | Auction | Mixed
  deriving DecidableEq, Repr

/-- The state of a listing: no bid yet, with a standing bid, sold, or withdrawn. -/
inductive DebtMarketState
  | New | Active | Sold | Canceled
  deriving DecidableEq, Repr

/-- `DataTypes.DebtMarketListing`. -/
structure DebtMarketListing where
  debtId : ℕ
  debtor : Address
  nftAsset : Address
  tokenId : ℕ
  sellType : DebtMarketType
  state : DebtMarketState
  sellPrice : ℕ
  reserveAsset : Address
  scaledAmount : ℕ
  bidderAddress : Address
  bidPrice : ℕ
  auctionEndTimestamp : ℕ
  startBiddingPrice : ℕ
  deriving DecidableEq, Repr

/-- `DataTypes.ReserveData`; the debt token is reached through the reserve it belongs to. -/
structure ReserveData where
  configuration : BitVec 256
  liquidityIndex : ℕ
  variableBorrowIndex : ℕ
  currentLiquidityRate : ℕ
  currentVariableBorrowRate : ℕ
  lastUpdateTimestamp : ℕ
  uTokenAddress : Address
  interestRateAddress : Address
  deriving DecidableEq, Repr

/-- `DataTypes.NftData`, as far as the pool reads it. -/
structure NftData where
  configuration : BitVec 256
  uNftAddress : Address
  deriving DecidableEq, Repr

/-- A record that has never been written: every field is zero. -/
def LoanData.empty : LoanData := ⟨0, .None, 0, 0, 0, 0, 0, 0, 0, 0, 0, 0⟩

@[inherit_doc LoanData.empty]
def DebtMarketListing.empty : DebtMarketListing :=
  ⟨0, 0, 0, 0, .FixedPrice, .New, 0, 0, 0, 0, 0, 0, 0⟩

@[inherit_doc LoanData.empty]
def ReserveData.empty : ReserveData := ⟨0, 0, 0, 0, 0, 0, 0, 0⟩

@[inherit_doc LoanData.empty]
def NftData.empty : NftData := ⟨0, 0⟩

/-! ## Nested mappings -/

/-- Overwrite one entry of a mapping of mappings. -/
def update₂ {α β γ : Type} [DecidableEq α] [DecidableEq β] (f : α → β → γ) (a : α) (b : β)
    (v : γ) : α → β → γ :=
  Function.update f a (Function.update (f a) b v)

theorem update₂_apply {α β γ : Type} [DecidableEq α] [DecidableEq β] (f : α → β → γ) (a : α)
    (b : β) (v : γ) (x : α) (y : β) :
    update₂ f a b v x y = if x = a ∧ y = b then v else f x y := by
  unfold update₂
  by_cases hx : x = a
  · subst hx; by_cases hy : y = b <;> simp [hy]
  · simp [hx]

@[simp] theorem update₂_self {α β γ : Type} [DecidableEq α] [DecidableEq β] (f : α → β → γ)
    (a : α) (b : β) (v : γ) : update₂ f a b v a b = v := by
  simp [update₂_apply]

/-- Changing one entry by a function of itself, read at any entry. -/
theorem update_modify {α γ : Type} [DecidableEq α] (f : α → γ) (a : α) (φ : γ → γ) (x : α) :
    Function.update f a (φ (f a)) x = if x = a then φ (f x) else f x := by
  rw [Function.update_apply]
  split
  · rename_i h; rw [h]
  · rfl

@[inherit_doc update_modify]
theorem update₂_modify {α β γ : Type} [DecidableEq α] [DecidableEq β] (f : α → β → γ) (a : α)
    (b : β) (φ : γ → γ) (x : α) (y : β) :
    update₂ f a b (φ (f a b)) x y = if x = a ∧ y = b then φ (f x y) else f x y := by
  rw [update₂_apply]
  split
  · rename_i h; rw [h.1, h.2]
  · rfl

/-! ## Machine integers -/

/-- `type(uint256).max`. -/
def maxUint256 : ℕ := 2 ^ 256 - 1

/-- `type(uint128).max`. -/
def maxUint128 : ℕ := 2 ^ 128 - 1

/-- The conversion to `uint40`, which keeps the low bits. -/
def uint40 (x : ℕ) : ℕ := x % 2 ^ 40

theorem uint40_le (x : ℕ) : uint40 x ≤ x := Nat.mod_le _ _

theorem uint40_lt (x : ℕ) : uint40 x < 2 ^ 40 := Nat.mod_lt _ (by decide)

/-- A time stamp that fits is kept. -/
theorem uint40_of_lt {x : ℕ} (h : x < 2 ^ 40) : uint40 x = x := Nat.mod_eq_of_lt h

/-! ## Live records -/

/-- A loan that is neither repaid nor defaulted. -/
def LoanData.live (l : LoanData) : Prop := l.state = .Active ∨ l.state = .Auction

instance (l : LoanData) : Decidable l.live := inferInstanceAs (Decidable (_ ∨ _))

/-- A listing that is neither sold nor withdrawn. -/
def DebtMarketListing.isOpen (d : DebtMarketListing) : Prop := d.state = .New ∨ d.state = .Active

instance (d : DebtMarketListing) : Decidable d.isOpen := inferInstanceAs (Decidable (_ ∨ _))

end Unlockd

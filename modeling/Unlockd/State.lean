/-
The state of the whole deployment, and the token calls every contract makes on it.

A `Deployment` fixes what never changes after set-up: the addresses the contracts find each
other at, which accounts take ERC721 tokens, and how the vault converts between assets and
shares. Its well-formedness is part of the structure. A `State` is everything that
changes, one record for each contract.

Token contracts of the protocol are kept under the asset they belong to: the uToken and the
debt token of a reserve under the reserve asset, the uNFT of a collection under the
collection. A contract called by an operation answers to its interface and calls
nothing back.
-/
import Unlockd.Tokens

set_option autoImplicit false

namespace Unlockd

open Outcome

/-- The fixed surroundings of the protocol. -/
structure Deployment where
  lendPool : Address
  lendPoolLoan : Address
  debtMarket : Address
  reservoirAdapter : Address
  weth : Address
  yVaultWETH : Address
  /-- The token proxies the configurator deploys: uTokens and uNFTs. -/
  isProxy : Address → Bool
  /-- Whether an account takes an ERC721 token by a safe transfer. -/
  acceptsNft : Address → Bool
  /-- Shares the vault gives for an amount. -/
  sharesFor : YVault → ℕ → ℕ
  /-- Amount the vault pays for shares. -/
  valueOf : YVault → ℕ → ℕ
  lendPool_ne_zero : lendPool ≠ 0
  debtMarket_ne_zero : debtMarket ≠ 0
  reservoirAdapter_ne_zero : reservoirAdapter ≠ 0
  lendPool_ne_debtMarket : lendPool ≠ debtMarket
  lendPool_ne_reservoirAdapter : lendPool ≠ reservoirAdapter
  debtMarket_ne_reservoirAdapter : debtMarket ≠ reservoirAdapter
  yVault_ne_lendPool : yVaultWETH ≠ lendPool
  yVault_ne_debtMarket : yVaultWETH ≠ debtMarket
  proxy_ne_lendPool : isProxy lendPool = false
  proxy_ne_debtMarket : isProxy debtMarket = false
  proxy_ne_reservoirAdapter : isProxy reservoirAdapter = false

/-- The contracts of the protocol, which act only as their code says. -/
def Deployment.isProtocol (D : Deployment) (a : Address) : Prop :=
  a = D.lendPool ∨ a = D.lendPoolLoan ∨ a = D.debtMarket ∨ a = D.reservoirAdapter
    ∨ D.isProxy a = true

instance (D : Deployment) (a : Address) : Decidable (D.isProtocol a) :=
  inferInstanceAs (Decidable (_ ∨ _ ∨ _ ∨ _ ∨ _))

/-- The accounts that may start a transaction or be called upon from outside. -/
def Deployment.isUser (D : Deployment) (a : Address) : Prop := a ≠ 0 ∧ ¬ D.isProtocol a

instance (D : Deployment) (a : Address) : Decidable (D.isUser a) :=
  inferInstanceAs (Decidable (_ ∧ _))

theorem Deployment.isUser.ne_lendPool {D : Deployment} {a : Address} (h : D.isUser a) :
    a ≠ D.lendPool := fun he => h.2 (.inl he)

theorem Deployment.isUser.ne_debtMarket {D : Deployment} {a : Address} (h : D.isUser a) :
    a ≠ D.debtMarket := fun he => h.2 (.inr (.inr (.inl he)))

/-- `LendPoolStorage.sol`. -/
structure LendPool where
  reserves : Address → ReserveData
  nfts : Address → NftData
  nftConfig : Address → ℕ → BitVec 256
  paused : Bool
  pauseStartTime : ℕ
  pauseDurationTime : ℕ
  timeframe : ℕ
  auctionDurationConfigFee : ℕ
  safeHealthFactor : ℕ
  bidDelta : ℕ

/-- The storage of `LendPoolLoan.sol`. -/
structure LendPoolLoan where
  loanIdTracker : ℕ
  loans : ℕ → LoanData
  nftToLoanIds : Address → ℕ → ℕ
  nftTotalCollateral : Address → ℕ
  userNftCollateral : Address → Address → ℕ
  marketAdapters : Address → Bool

/-- The storage of `DebtMarket.sol`. -/
structure DebtMarket where
  debtIdTracker : ℕ
  marketListings : ℕ → DebtMarketListing
  nftToDebtIds : Address → ℕ → ℕ
  userTotalDebtByCollection : Address → Address → ℕ
  totalDebtsByCollection : Address → ℕ
  deltaBidPercent : ℕ
  isAuthorizedAddress : Address → Bool
  paused : Bool

/-- The parameters of one `InterestRate.sol` strategy. -/
structure InterestRate where
  OPTIMAL_UTILIZATION_RATE : ℕ
  EXCESS_UTILIZATION_RATE : ℕ
  baseVariableBorrowRate : ℕ
  variableRateSlope1 : ℕ
  variableRateSlope2 : ℕ
  deriving DecidableEq

/-- Everything that changes. -/
structure State where
  blockTimestamp : ℕ
  lendPool : LendPool
  lendPoolLoan : LendPoolLoan
  debtMarket : DebtMarket
  debtTokens : Address → DebtToken
  uTokens : Address → UToken
  uNfts : Address → UNft
  erc20 : Address → Erc20
  erc721 : Address → Erc721
  yVault : YVault
  interestRates : Address → InterestRate
  /-- `ReserveOracle.getAssetPrice`. -/
  getAssetPrice : Address → ℕ
  /-- Prices of `NFTOracle`; zero when there is none. -/
  nftPrices : Address → ℕ → ℕ
  /-- Lockeys held, and the two discounts of `LockeyManager`. -/
  lockeyBalanceOf : Address → ℕ
  lockeyDiscount : ℕ
  lockeyDiscountOnDebtMarket : ℕ
  /-- Accounts that may call the Reservoir adapter, and modules it may sell through. -/
  liquidators : Address → Bool
  reservoirModules : Address → Bool

namespace State

variable (D : Deployment) (s : State)

/-! ## Writing one component -/

def setErc20 (asset : Address) (e : Erc20) : State :=
  { s with erc20 := Function.update s.erc20 asset e }

def setDebtToken (asset : Address) (d : DebtToken) : State :=
  { s with debtTokens := Function.update s.debtTokens asset d }

def setUToken (asset : Address) (u : UToken) : State :=
  { s with uTokens := Function.update s.uTokens asset u }

def setReserve (asset : Address) (r : ReserveData) : State :=
  { s with lendPool := { s.lendPool with reserves := Function.update s.lendPool.reserves asset r } }

def setUNft (asset : Address) (u : UNft) : State :=
  { s with uNfts := Function.update s.uNfts asset u }

def setErc721 (asset : Address) (c : Erc721) : State :=
  { s with erc721 := Function.update s.erc721 asset c }

def withErc20 (E : Address → Erc20) : State := { s with erc20 := E }

def withErc721 (E : Address → Erc721) : State := { s with erc721 := E }

def withDebtTokens (T : Address → DebtToken) : State := { s with debtTokens := T }

def withUTokens (U : Address → UToken) : State := { s with uTokens := U }

def withYVault (v : YVault) : State := { s with yVault := v }

def withReserves (Rs : Address → ReserveData) : State :=
  { s with lendPool := { s.lendPool with reserves := Rs } }

/-- The collateral tokens and the receipts of one collection. -/
def setNfts (E : Address → Erc721) (asset : Address) (u : UNft) : State :=
  { s with erc721 := E, uNfts := Function.update s.uNfts asset u }

/-! ## Tokens -/

/-- `IERC20(asset).safeTransferFrom(src, dst, amount)`, called by `caller`. -/
def safeTransferFrom (asset caller src dst : Address) (amount : ℕ) : Except Error State := do
  let e ← (s.erc20 asset).transferFrom caller src dst amount
  return s.setErc20 asset e

/-- `IERC20(asset).safeTransfer(dst, amount)`, called by `caller`. -/
def safeTransfer (asset caller dst : Address) (amount : ℕ) : Except Error State := do
  let e ← (s.erc20 asset).transfer caller dst amount
  return s.setErc20 asset e

/-- `IERC721(asset).safeTransferFrom(src, dst, tokenId)`, called by `caller`. -/
def safeTransferNft (asset caller src dst : Address) (tokenId : ℕ) : Except Error State := do
  let c ← (s.erc721 asset).transferFrom caller src dst tokenId
  require (D.acceptsNft dst = true) Error.nonERC721Receiver
  return s.setErc721 asset c

/-- Send a collateral token from the pool to `dst`, and to the treasury of the reserve when
the receiver does not take it. -/
def deliverNft (asset reserve dst : Address) (tokenId : ℕ) : Except Error State :=
  match s.safeTransferNft D asset D.lendPool D.lendPool dst tokenId with
  | .ok s' => .ok s'
  | .error _ =>
      s.safeTransferNft D asset D.lendPool D.lendPool (s.uTokens reserve).treasury tokenId

/-- `UNFT.mint`: take the collateral token in and give the receipt to `dst`. -/
def mintUNft (nftAsset caller dst : Address) (tokenId : ℕ) : Except Error State := do
  require ((s.uNfts nftAsset).owner tokenId = 0) Error.tokenExists
  require ((s.erc721 nftAsset).ownerOf tokenId = caller) Error.notTokenOwner
  let uNftAddress := (s.lendPool.nfts nftAsset).uNftAddress
  let s ← s.safeTransferNft D nftAsset uNftAddress caller uNftAddress tokenId
  require (dst ≠ 0) Error.zeroAddress
  return s.setUNft nftAsset
    { owner := Function.update (s.uNfts nftAsset).owner tokenId dst
      minter := Function.update (s.uNfts nftAsset).minter tokenId caller }

/-- `UNFT.burn`: give the collateral token back and destroy the receipt. -/
def burnUNft (nftAsset caller : Address) (tokenId : ℕ) : Except Error State := do
  require ((s.uNfts nftAsset).owner tokenId ≠ 0) Error.nonexistentToken
  require ((s.uNfts nftAsset).minter tokenId = caller) Error.callerIsNotMinter
  let uNftAddress := (s.lendPool.nfts nftAsset).uNftAddress
  let s ← s.safeTransferNft D nftAsset uNftAddress uNftAddress caller tokenId
  return s.setUNft nftAsset
    { owner := Function.update (s.uNfts nftAsset).owner tokenId 0
      minter := Function.update (s.uNfts nftAsset).minter tokenId 0 }

/-- `IDebtToken.burn`, called by `caller`. -/
def burnDebt (caller reserve user : Address) (amount index : ℕ) : Except Error State := do
  let d ← (s.debtTokens reserve).burn caller user amount index
  return s.setDebtToken reserve d

/-- `IDebtToken.mint`, called by `caller`. -/
def mintDebt (caller reserve initiator onBehalfOf : Address) (amount index : ℕ) :
    Except Error State := do
  let d ← (s.debtTokens reserve).mint caller initiator onBehalfOf amount index
  return s.setDebtToken reserve d

/-! ## What a token call does to the state -/

variable {s}

/-- Paying `amount` of `asset` from `src` to `dst` touches that token and no other. -/
def Paid (asset src dst : Address) (amount : ℕ) (E E' : Address → Erc20) : Prop :=
  (∀ r, r ≠ asset → E' r = E r) ∧ (E asset).Moved (E' asset) src dst amount

/-- What the caller was entitled by, when it spent the tokens of `src`. -/
def Entitled (s : State) (asset caller src : Address) (amount : ℕ) : Prop :=
  amount ≤ (s.erc20 asset).allowance src caller ∨ (s.erc20 asset).kind = .weth9 ∧
    (src = caller ∨ (s.erc20 asset).allowance src caller = maxUint256)

theorem paid_update {asset src dst : Address} {amount : ℕ} {E : Address → Erc20} {e : Erc20}
    (h : (E asset).Moved e src dst amount) :
    Paid asset src dst amount E (Function.update E asset e) :=
  ⟨fun _ hr => Function.update_of_ne hr _ _, by rw [Function.update_self]; exact h⟩

theorem safeTransferFrom_spec {asset caller src dst : Address} {amount : ℕ} :
    Sat (s.safeTransferFrom asset caller src dst amount)
      (fun s' => ∃ E, s' = s.withErc20 E ∧ Paid asset src dst amount s.erc20 E ∧
        s.Entitled asset caller src amount)
      (fun err => err.Benign ∨
        (err = .transferAmountExceedsBalance src ∧ (s.erc20 asset).balanceOf src < amount)) := by
  refine Sat.bind (Erc20.transferFrom_spec.mono (fun _ h => h) fun _ h => ?_) fun e h =>
    ⟨_, rfl, paid_update h.1, h.2⟩
  rcases h with rfl | rfl | h
  · exact .inl trivial
  · exact .inl trivial
  · exact .inr h

theorem safeTransfer_spec {asset caller dst : Address} {amount : ℕ} :
    Sat (s.safeTransfer asset caller dst amount)
      (fun s' => ∃ E, s' = s.withErc20 E ∧ Paid asset caller dst amount s.erc20 E)
      (fun err => err.Benign ∨
        (err = .transferAmountExceedsBalance caller ∧
          (s.erc20 asset).balanceOf caller < amount)) := by
  refine Sat.bind (Erc20.transfer_spec.mono (fun _ h => h) fun _ h => ?_) fun e h =>
    ⟨_, rfl, paid_update h⟩
  rcases h with rfl | h
  · exact .inl trivial
  · exact .inr h

theorem safeTransferNft_spec {asset caller src dst : Address} {tokenId : ℕ} :
    Sat (s.safeTransferNft D asset caller src dst tokenId)
      (fun s' => ∃ E, s' = s.withErc721 E) Error.Benign := by
  refine Sat.bind (P := fun _ => True) ?_ fun c _ => ?_
  · refine Sat.bind (Sat.require fun _ => trivial) fun _ _ => ?_
    refine Sat.bind (Sat.require fun _ => trivial) fun _ _ => ?_
    refine Sat.bind (Sat.require fun _ => trivial) fun _ _ => ?_
    exact Sat.bind (Sat.require fun _ => trivial) fun _ _ => trivial
  · exact Sat.bind (Sat.require fun _ => trivial) fun _ _ => ⟨_, rfl⟩

theorem deliverNft_spec {asset reserve dst : Address} {tokenId : ℕ} :
    Sat (s.deliverNft D asset reserve dst tokenId)
      (fun s' => ∃ E, s' = s.withErc721 E) Error.Benign := by
  unfold deliverNft
  split
  · rename_i h
    exact (safeTransferNft_spec D).ok h
  · exact safeTransferNft_spec D

/-- Minting the receipt of a token needs that there is none, and makes `dst` its owner. -/
theorem mintUNft_spec {nftAsset caller dst : Address} {tokenId : ℕ} :
    Sat (s.mintUNft D nftAsset caller dst tokenId)
      (fun s' => (s.uNfts nftAsset).owner tokenId = 0 ∧ dst ≠ 0 ∧ ∃ E m,
        s' = s.setNfts E nftAsset ⟨Function.update (s.uNfts nftAsset).owner tokenId dst, m⟩)
      Error.Benign := by
  refine Sat.bind (Sat.require fun _ => trivial) fun _ hfree => ?_
  refine Sat.bind (Sat.require fun _ => trivial) fun _ _ => ?_
  refine Sat.bind (safeTransferNft_spec D) fun s₁ h₁ => ?_
  obtain ⟨E, rfl⟩ := h₁
  refine Sat.bind (Sat.require fun _ => trivial) fun _ hdst => ?_
  exact ⟨hfree, hdst, E, _, rfl⟩

/-- Burning the receipt of a token needs that there is one, and leaves none. -/
theorem burnUNft_spec {nftAsset caller : Address} {tokenId : ℕ} :
    Sat (s.burnUNft D nftAsset caller tokenId)
      (fun s' => (s.uNfts nftAsset).owner tokenId ≠ 0 ∧ ∃ E m,
        s' = s.setNfts E nftAsset ⟨Function.update (s.uNfts nftAsset).owner tokenId 0, m⟩)
      Error.Benign := by
  refine Sat.bind (Sat.require fun _ => trivial) fun _ hown => ?_
  refine Sat.bind (Sat.require fun _ => trivial) fun _ _ => ?_
  refine Sat.bind (safeTransferNft_spec D) fun s₁ h₁ => ?_
  obtain ⟨E, rfl⟩ := h₁
  exact ⟨hown, E, _, rfl⟩

/-- Whose receipt a token has after that of one token was changed. -/
theorem setNfts_owner (s : State) (E : Address → Erc721) (nftAsset : Address) (tokenId : ℕ)
    (owner : Address) (m : ℕ → Address) (a : Address) (t : ℕ) :
    ((s.setNfts E nftAsset
        ⟨Function.update (s.uNfts nftAsset).owner tokenId owner, m⟩).uNfts a).owner t
      = if (nftAsset, tokenId) = (a, t) then owner else (s.uNfts a).owner t := by
  simp only [setNfts, Function.update_apply, Prod.mk.injEq]
  by_cases ha : a = nftAsset
  · subst ha
    by_cases ht : t = tokenId
    · subst ht; simp
    · simp [ht, Ne.symm ht]
  · simp [ha, Ne.symm ha]

/-- The scaled debt of `user` to `reserve` went down by `n`, and no other. -/
def DebtBurnt (reserve user : Address) (n : ℕ) (T T' : Address → DebtToken) : Prop :=
  ∀ r u, (T' r).scaledBalanceOf u + (if r = reserve ∧ u = user then n else 0)
    = (T r).scaledBalanceOf u

/-- The scaled debt of `user` to `reserve` went up by `n`, and no other. -/
def DebtMinted (reserve user : Address) (n : ℕ) (T T' : Address → DebtToken) : Prop :=
  ∀ r u, (T' r).scaledBalanceOf u
    = (T r).scaledBalanceOf u + (if r = reserve ∧ u = user then n else 0)

/-- Debt burnt for one user and minted for another has moved from the one to the other. -/
theorem DebtBurnt.minted {reserve user newUser : Address} {n : ℕ} {T T' T'' : Address → DebtToken}
    (hb : DebtBurnt reserve user n T T') (hm : DebtMinted reserve newUser n T' T'')
    (r u : Address) :
    (T'' r).scaledBalanceOf u + (if r = reserve ∧ u = user then n else 0)
      = (T r).scaledBalanceOf u + (if r = reserve ∧ u = newUser then n else 0) := by
  rw [hm r u, ← hb r u]
  exact add_right_comm _ _ _

/-- Burning debt takes the scaled amount off the user, and fails for want of debt only when
the user owes less than that. -/
theorem burnDebt_spec {caller reserve user : Address} {amount index : ℕ} :
    Sat (s.burnDebt caller reserve user amount index)
      (fun s' => ∃ n T, rayDiv amount index = .ok n ∧ s' = s.withDebtTokens T ∧
        DebtBurnt reserve user n s.debtTokens T)
      (fun e => e.Benign ∨ (e = .debtBurnAmountExceedsBalance user ∧ ∃ n,
        rayDiv amount index = .ok n ∧ (s.debtTokens reserve).scaledBalanceOf user < n)) := by
  refine Sat.bind (P := fun d => ∃ n, rayDiv amount index = .ok n ∧
    ∀ u, d.scaledBalanceOf u + (if u = user then n else 0)
      = (s.debtTokens reserve).scaledBalanceOf u) ?_ fun d hd => ?_
  · refine Sat.bind (Sat.require fun _ => .inl trivial) fun _ _ => ?_
    refine Sat.bind (unitDiv_benign.mono (fun _ h => h) fun _ h => .inl h) fun n hn => ?_
    refine Sat.bind (Sat.require fun _ => .inl trivial) fun _ _ => ?_
    refine Sat.bind (Sat.require fun _ => .inl trivial) fun _ _ => ?_
    refine Sat.bind (Sat.require fun h => .inr ⟨rfl, n, hn, not_le.mp h⟩) fun _ hle => ?_
    refine ⟨n, hn, fun u => ?_⟩
    simp only [Function.update_apply]
    split
    · rename_i h; subst h; omega
    · rfl
  · obtain ⟨n, hn, hbal⟩ := hd
    refine ⟨n, _, hn, rfl, fun r u => ?_⟩
    by_cases hr : r = reserve
    · subst hr; simpa using hbal u
    · simp [hr]

/-- Minting debt adds the scaled amount to the debtor, who is not the zero address. -/
theorem mintDebt_spec {caller reserve initiator onBehalfOf : Address} {amount index : ℕ} :
    Sat (s.mintDebt caller reserve initiator onBehalfOf amount index)
      (fun s' => onBehalfOf ≠ 0 ∧ ∃ n T, rayDiv amount index = .ok n ∧
        s' = s.withDebtTokens T ∧ DebtMinted reserve onBehalfOf n s.debtTokens T)
      Error.Benign := by
  refine Sat.bind (P := fun d => onBehalfOf ≠ 0 ∧ ∃ n, rayDiv amount index = .ok n ∧
    ∀ u, d.scaledBalanceOf u = (s.debtTokens reserve).scaledBalanceOf u
      + (if u = onBehalfOf then n else 0)) ?_ fun d hd => ?_
  · refine Sat.bind (Sat.require fun _ => trivial) fun _ _ => ?_
    refine Sat.bind (P := fun d => d.scaledBalanceOf = (s.debtTokens reserve).scaledBalanceOf)
      (Sat.applyIf (fun _ => ?_) fun _ => rfl) fun d hd => ?_
    · exact Sat.bind (Sat.require fun _ => trivial) fun _ _ => rfl
    refine Sat.bind unitDiv_benign fun n hn => ?_
    refine Sat.bind (Sat.require fun _ => trivial) fun _ _ => ?_
    refine Sat.bind (Sat.require fun _ => trivial) fun _ hto => ?_
    refine ⟨hto, n, hn, fun u => ?_⟩
    simp only [Function.update_apply, hd]
    split
    · rename_i h; rw [h]
    · rfl
  · obtain ⟨hto, n, hn, hbal⟩ := hd
    refine ⟨hto, n, _, hn, rfl, fun r u => ?_⟩
    by_cases hr : r = reserve
    · subst hr; simpa using hbal u
    · simp [hr]

end State

end Unlockd

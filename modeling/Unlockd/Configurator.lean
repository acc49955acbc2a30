/-
Administration: `LendPoolConfigurator.sol` with `ConfiguratorLogic.sol`, the setters of
`LendPool.sol` it calls, and the setters the pool admin calls on the other contracts.

Each setting writes one value. The three roles that act on behalf of the protocol, the
managers of uTokens and of debt tokens and the market adapters, go to contracts of the
protocol only. The configuration word of a token is taken as the configurator has packed it.
-/
import Unlockd.ReservoirAdapter

set_option autoImplicit false

namespace Unlockd

open Outcome

/-- Who calls a proxy: the admin that it was deployed by, or anybody else. -/
inductive ProxyCaller
  | admin | other
  deriving DecidableEq, Repr

/-- A call through a `TransparentUpgradeableProxy`, which passes no call of its admin on to the
implementation. -/
def throughProxy {α : Type} (caller : ProxyCaller) (call : Except Error α) : Except Error α := do
  require (caller ≠ .admin) Error.adminCannotFallback
  call

/-- What the administration can change. -/
inductive Setting (D : Deployment)
  -- reserves
  | initReserve (asset uToken treasury interestRate : Address) (decimals : ℕ)
      (proxy : D.isProxy uToken = true)
  | setBorrowingFlagOnReserve (asset : Address) (flag : Bool)
  | setActiveFlagOnReserve (asset : Address) (flag : Bool)
  | setFreezeFlagOnReserve (asset : Address) (flag : Bool)
  | setReserveFactor (asset : Address) (reserveFactor : ℕ)
  | setReserveInterestRateAddress (asset rateAddress : Address)
  | configInterestRate (rateAddress : Address)
      (optimalUtilizationRate baseVariableBorrowRate variableRateSlope1 variableRateSlope2 : ℕ)
  | setTreasuryAddress (asset treasury : Address)
  -- collections
  | initNft (asset uNft : Address) (proxy : D.isProxy uNft = true)
  | setNftConfiguration (asset : Address) (configuration : BitVec 256)
  | setNftConfigByTokenId (asset : Address) (tokenId : ℕ) (configuration : BitVec 256)
  -- the pool
  | setPoolPause (val : Bool)
  | setPausedTime (startTime durationTime : ℕ)
  | setTimeframe (timeframe : ℕ)
  | setAuctionDurationConfigFee (fee : ℕ)
  | setBidDelta (bidDelta : ℕ)
  | updateSafeHealthFactor (newSafeHealthFactor : ℕ)
  -- roles
  | updateUTokenManagers (asset manager : Address) (flag : Bool) (inside : D.isProtocol manager)
  | updateTokenManagers (asset manager : Address) (flag : Bool) (inside : D.isProtocol manager)
  | updateMarketAdapters (adapter : Address) (flag : Bool) (inside : D.isProtocol adapter)
  | updateLiquidators (liquidator : Address) (flag : Bool)
  | updateModules (module : Address) (flag : Bool)
  -- the debt market
  | setMarketPause (val : Bool)
  | setDeltaBidPercent (value : ℕ)
  | setAuthorizedAddress (newAuthorizedAddress : Address) (val : Bool)
  -- oracles and discounts
  | setAssetPrice (asset : Address) (price : ℕ)
  | setNFTPrice (collection : Address) (tokenId price : ℕ)
  | setLockeyDiscountPercentage (discountPercentage : ℕ)
  | setLockeyDiscountPercentageOnDebtMarket (discountPercentage : ℕ)

namespace State

variable (D : Deployment) (s : State)

/-- `executeInitReserve`, with a proxy the configurator has deployed for the uToken. -/
def executeInitReserve (asset uToken treasury interestRate : Address) (decimals : ℕ) :
    Except Error State := do
  require (uToken ≠ 0 ∧ interestRate ≠ 0) Error.INVALID_ZERO_ADDRESS
  let reserve ← (s.lendPool.reserves asset).init uToken interestRate
  let configuration ← ReserveConfiguration.setDecimals decimals reserve.configuration
  let s := s.setUToken asset { s.uTokens asset with treasury := treasury }
  return s.setReserve asset
    { reserve with configuration := setFrozen false (setActive true configuration) }

/-- Read the configuration of a reserve, change it, and write it back. -/
def configureReserve (asset : Address) (change : BitVec 256 → Except Error (BitVec 256)) :
    Except Error State := do
  let reserve := s.lendPool.reserves asset
  let configuration ← change reserve.configuration
  return s.setReserve asset { reserve with configuration := configuration }

/-- `_checkReserveNoLiquidity`. The uToken is asked by the configurator, which `_initTokenWithProxy`
has made the admin of its proxy. -/
def _checkReserveNoLiquidity (asset : Address) : Except Error Unit := do
  let uToken := (s.lendPool.reserves asset).uTokenAddress
  require (uToken ≠ 0) Error.functionCallToNonContract
  let availableLiquidity ← throughProxy .admin (s.getAvailableLiquidity uToken)
  require (availableLiquidity = 0 ∧ (s.lendPool.reserves asset).currentLiquidityRate = 0)
    Error.LPC_RESERVE_LIQUIDITY_NOT_0

/-- `setActiveFlagOnReserve`: a reserve is to be deactivated only when it is empty. -/
def setActiveFlagOnReserve (asset : Address) (flag : Bool) : Except Error State := do
  if flag = false then s._checkReserveNoLiquidity asset
  s.configureReserve asset fun c => .ok (setActive flag c)

/-- The configurator is never answered. -/
theorem _checkReserveNoLiquidity_reverts {s : State} {asset : Address} :
    s._checkReserveNoLiquidity asset ≠ .ok () := by
  intro h
  obtain ⟨-, h⟩ := require_bind_eq_ok.mp h
  obtain ⟨_, h, -⟩ := bind_eq_ok.mp h
  exact (require_bind_eq_ok.mp h).1 rfl

/-- **No reserve is deactivated.** All that this call can do is activate one. -/
theorem setActiveFlagOnReserve_on {s s' : State} {asset : Address} {flag : Bool}
    (h : s.setActiveFlagOnReserve asset flag = .ok s') :
    flag = true ∧ s.configureReserve asset (fun c => .ok (setActive true c)) = .ok s' := by
  cases flag with
  | true => exact ⟨rfl, h⟩
  | false =>
    obtain ⟨_, hguard, -⟩ := bind_eq_ok.mp (show s._checkReserveNoLiquidity asset >>= _ = _ from h)
    exact absurd hguard _checkReserveNoLiquidity_reverts

/-- `LendPool.setPause`: the pause is timed. -/
def setPause (val : Bool) : State :=
  if s.lendPool.paused = val then s
  else if val = true then
    { s with lendPool := { s.lendPool with paused := true, pauseStartTime := s.blockTimestamp } }
  else
    { s with lendPool := { s.lendPool with
        paused := false
        pauseDurationTime := s.blockTimestamp - s.lendPool.pauseStartTime } }

/-- The pool with other settings of its own. -/
def setPool (p : LendPool) : State := { s with lendPool := p }

def setNft (asset : Address) (nft : NftData) : State :=
  s.setPool { s.lendPool with nfts := Function.update s.lendPool.nfts asset nft }

/-- `initNft` of the pool and of the loan contract: the approvals under which a token of the
collection later moves from the pool into its receipt. -/
def initNft (asset uNft : Address) : Except Error State := do
  require (uNft ≠ 0) Error.INVALID_ZERO_ADDRESS
  require ((s.lendPool.nfts asset).uNftAddress = 0) Error.RL_RESERVE_ALREADY_INITIALIZED
  let nft := { s.lendPool.nfts asset with
    uNftAddress := uNft
    configuration := setFrozen false (setActive true (s.lendPool.nfts asset).configuration) }
  let c := s.erc721 asset
  let operators := update₂ (update₂ c.operators D.lendPool D.lendPoolLoan true)
    D.lendPoolLoan uNft true
  return (s.setErc721 asset { c with operators := operators }).setNft asset nft

/-- What a setting does. -/
def configure : Setting D → Except Error State
  | .initReserve asset uToken treasury interestRate decimals _ =>
      s.executeInitReserve asset uToken treasury interestRate decimals
  | .setBorrowingFlagOnReserve asset flag =>
      s.configureReserve asset fun c => .ok (ReserveConfiguration.setBorrowingEnabled flag c)
  | .setActiveFlagOnReserve asset flag => s.setActiveFlagOnReserve asset flag
  | .setFreezeFlagOnReserve asset flag => s.configureReserve asset fun c => .ok (setFrozen flag c)
  | .setReserveFactor asset reserveFactor =>
      s.configureReserve asset (ReserveConfiguration.setReserveFactor reserveFactor)
  | .setReserveInterestRateAddress asset rateAddress => do
      require (asset ≠ 0 ∧ rateAddress ≠ 0) Error.INVALID_ZERO_ADDRESS
      return s.setReserve asset { s.lendPool.reserves asset with
        interestRateAddress := rateAddress }
  | .configInterestRate rateAddress optimal base slope1 slope2 => do
      let excess ← checkedSub RAY optimal
      let ir : InterestRate := ⟨optimal, excess, base, slope1, slope2⟩
      return { s with interestRates := Function.update s.interestRates rateAddress ir }
  | .setTreasuryAddress asset treasury => do
      require (treasury ≠ 0) Error.INVALID_ZERO_ADDRESS
      return s.setUToken asset { s.uTokens asset with treasury := treasury }
  | .initNft asset uNft _ => s.initNft D asset uNft
  | .setNftConfiguration asset configuration =>
      .ok (s.setNft asset { s.lendPool.nfts asset with configuration := configuration })
  | .setNftConfigByTokenId asset tokenId configuration =>
      .ok (s.setPool { s.lendPool with
        nftConfig := update₂ s.lendPool.nftConfig asset tokenId configuration })
  | .setPoolPause val => .ok (s.setPause val)
  | .setPausedTime startTime durationTime =>
      .ok (s.setPool { s.lendPool with
        pauseStartTime := startTime, pauseDurationTime := durationTime })
  | .setTimeframe timeframe => .ok (s.setPool { s.lendPool with timeframe := timeframe })
  | .setAuctionDurationConfigFee fee =>
      .ok (s.setPool { s.lendPool with auctionDurationConfigFee := fee })
  | .setBidDelta bidDelta => .ok (s.setPool { s.lendPool with bidDelta := bidDelta })
  | .updateSafeHealthFactor newSafeHealthFactor => do
      require (newSafeHealthFactor ≠ 0) Error.LP_INVALID_SAFE_HEALTH_FACTOR
      return s.setPool { s.lendPool with safeHealthFactor := newSafeHealthFactor }
  | .updateUTokenManagers asset manager flag _ => do
      require (manager ≠ 0) Error.INVALID_ZERO_ADDRESS
      return s.setUToken asset { s.uTokens asset with
        uTokenManagers := Function.update (s.uTokens asset).uTokenManagers manager flag }
  | .updateTokenManagers asset manager flag _ => do
      require (manager ≠ 0) Error.INVALID_ZERO_ADDRESS
      return s.setDebtToken asset { s.debtTokens asset with
        debtTokenManagers := Function.update (s.debtTokens asset).debtTokenManagers manager flag }
  | .updateMarketAdapters adapter flag _ => do
      require (adapter ≠ 0) Error.INVALID_ZERO_ADDRESS
      return s.setLendPoolLoan { s.lendPoolLoan with
        marketAdapters := Function.update s.lendPoolLoan.marketAdapters adapter flag }
  | .updateLiquidators liquidator flag => do
      require (liquidator ≠ 0) Error.INVALID_ZERO_ADDRESS
      return { s with liquidators := Function.update s.liquidators liquidator flag }
  | .updateModules module flag => do
      require (module ≠ 0) Error.INVALID_ZERO_ADDRESS
      return { s with reservoirModules := Function.update s.reservoirModules module flag }
  | .setMarketPause val => .ok (s.setDebtMarket { s.debtMarket with paused := val })
  | .setDeltaBidPercent value => do
      require (value ≤ PERCENTAGE_FACTOR) Error.DM_INVALID_DELTA_BID_PERCENT
      return s.setDebtMarket { s.debtMarket with deltaBidPercent := value }
  | .setAuthorizedAddress newAuthorizedAddress val => do
      require (newAuthorizedAddress ≠ 0) Error.DM_INVALID_AUTHORIZED_ADDRESS
      return s.setDebtMarket { s.debtMarket with
        isAuthorizedAddress :=
          Function.update s.debtMarket.isAuthorizedAddress newAuthorizedAddress val }
  | .setAssetPrice asset price =>
      .ok { s with getAssetPrice := Function.update s.getAssetPrice asset price }
  | .setNFTPrice collection tokenId price =>
      .ok { s with nftPrices := update₂ s.nftPrices collection tokenId price }
  | .setLockeyDiscountPercentage discountPercentage =>
      .ok { s with lockeyDiscount := discountPercentage }
  | .setLockeyDiscountPercentageOnDebtMarket discountPercentage =>
      .ok { s with lockeyDiscountOnDebtMarket := discountPercentage }

end State

end Unlockd

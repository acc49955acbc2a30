/-
The protocol as one machine: everything that can happen to it, one step at a time.

A step is a call by an account outside, a setting by the administration, or an event of the
surroundings. A call runs to its end or reverts and changes nothing. The machine starts in a
freshly deployed protocol, with tokens, prices and the vault as they may be; a run takes
steps in any order, and `Reachable` is what a run can lead to.

Statements about part of the protocol are about runs whose steps are restricted by a predicate
on the state and the action, so that one machine serves them all.
-/
import Unlockd.Configurator
import Unlockd.Lib.History

set_option autoImplicit false

namespace Unlockd

open Outcome

/-! ## Calls -/

/-- The calls open to every account. -/
inductive Call (D : Deployment)
  -- `LendPool.sol`
  | deposit (asset : Address) (amount : ℕ) (onBehalfOf : Address)
  | withdraw (asset : Address) (amount : ℕ) (receiver : Address)
  | borrow (asset : Address) (amount : ℕ) (nftAsset : Address) (nftTokenId : ℕ)
      (onBehalfOf : Address)
  | repay (nftAsset : Address) (nftTokenId amount : ℕ)
  | auction (nftAsset : Address) (nftTokenId bidPrice : ℕ) (onBehalfOf : Address)
  | redeem (nftAsset : Address) (nftTokenId amount bidFine : ℕ)
  | liquidate (nftAsset : Address) (nftTokenId amount : ℕ)
  | buyout (nftAsset : Address) (nftTokenId : ℕ) (onBehalfOf : Address)
  | updateReserveState (asset : Address)
  | updateReserveInterestRates (asset : Address)
  | transferBidAmount (reserveAsset bidder : Address) (bidAmount : ℕ)
  -- `DebtMarket.sol`
  | createDebtListing (nftAsset : Address) (tokenId sellPrice : ℕ) (onBehalfOf : Address)
      (startBiddingPrice auctionEndTimestamp : ℕ)
  | cancelDebtListing (nftAsset : Address) (tokenId : ℕ)
  | buy (nftAsset : Address) (tokenId : ℕ) (onBehalfOf : Address) (amount : ℕ)
  | bid (nftAsset : Address) (tokenId bidPrice : ℕ) (onBehalfOf : Address)
  | claim (nftAsset : Address) (tokenId : ℕ) (onBehalfOf : Address)
  -- `ReservoirAdapter.sol`
  | liquidateReservoir (nftAsset reserveAsset : Address) (tokenId : ℕ) (module : Address)
      (sale : Sale D) (expectedLiquidateAmount : ℕ)
  -- `DebtToken.sol`
  | approveDelegation (asset delegatee : Address) (amount : ℕ)
  -- reserve assets and collections
  | transfer (asset dst : Address) (amount : ℕ)
  | transferFrom (asset src dst : Address) (amount : ℕ)
  | approve (asset spender : Address) (amount : ℕ)
  | burn (asset : Address) (amount : ℕ)
  | transferNft (asset src dst : Address) (tokenId : ℕ)
  | approveNft (asset dst : Address) (tokenId : ℕ)
  | setApprovalForAll (asset operator : Address) (approved : Bool)

/-- What happens around the protocol. -/
inductive Event
  /-- Time passes. -/
  | tick (elapsed : ℕ)
  /-- A reserve asset or a collateral token is issued. -/
  | mint (asset dst : Address) (amount : ℕ)
  | mintNft (asset dst : Address) (tokenId : ℕ)
  /-- The vault changes the price of a share. -/
  | setPricePerShare (price : ℕ)
  /-- Lockeys change hands. -/
  | setLockeyBalance (holder : Address) (balance : ℕ)

/-- One step of the protocol. -/
inductive Action (D : Deployment)
  | call (sender : Address) (outside : D.isUser sender) (c : Call D)
  | configure (setting : Setting D)
  | event (e : Event)

namespace State

variable (D : Deployment) (s : State)

/-- The modifier `whenNotPaused` of the pool. -/
def whenNotPaused (operation : Except Error State) : Except Error State := do
  require (s.lendPool.paused = false) Error.LP_IS_PAUSED
  operation

/-- `ERC20.approve`. -/
def approveErc20 (asset owner spender : Address) (amount : ℕ) : State :=
  s.setErc20 asset ((s.erc20 asset).setAllowance owner spender amount)

/-- Give up tokens of one's own, as `WETH9.withdraw` does. -/
def burnErc20 (asset holder : Address) (amount : ℕ) : Except Error State := do
  let e := s.erc20 asset
  require (amount ≤ e.balanceOf holder) (Error.transferAmountExceedsBalance holder)
  return s.setErc20 asset { e with
    balanceOf := Function.update e.balanceOf holder (e.balanceOf holder - amount) }

/-- `ERC721.transferFrom`, called by `caller`. -/
def transferErc721 (asset caller src dst : Address) (tokenId : ℕ) : Except Error State := do
  let c ← (s.erc721 asset).transferFrom caller src dst tokenId
  return s.setErc721 asset c

/-- `ERC721.approve`, called by `caller`. -/
def approveErc721 (asset caller dst : Address) (tokenId : ℕ) : Except Error State := do
  let c := s.erc721 asset
  require (caller = c.ownerOf tokenId ∨ c.operators (c.ownerOf tokenId) caller = true)
    Error.callerIsNotOwnerNorApproved
  return s.setErc721 asset { c with approved := Function.update c.approved tokenId dst }

/-- `ERC721.setApprovalForAll`, called by `caller`. -/
def setOperator (asset caller operator : Address) (approved : Bool) : State :=
  s.setErc721 asset { s.erc721 asset with
    operators := update₂ (s.erc721 asset).operators caller operator approved }

/-- `DebtToken.approveDelegation`, called by `caller`. -/
def approveDelegation (asset caller delegatee : Address) (amount : ℕ) : State :=
  s.setDebtToken asset { s.debtTokens asset with
    borrowAllowance := update₂ (s.debtTokens asset).borrowAllowance caller delegatee amount }

/-- What a call by `sender` does. -/
def perform (sender : Address) : Call D → Except Error State
  | .deposit asset amount onBehalfOf =>
      s.whenNotPaused (s.executeDeposit D sender asset amount onBehalfOf)
  | .withdraw asset amount receiver =>
      s.whenNotPaused (Prod.fst <$> s.executeWithdraw D sender asset amount receiver)
  | .borrow asset amount nftAsset nftTokenId onBehalfOf =>
      s.whenNotPaused (s._borrow D sender asset amount nftAsset nftTokenId onBehalfOf)
  | .repay nftAsset nftTokenId amount =>
      s.whenNotPaused (Prod.fst <$> s._repay D sender nftAsset nftTokenId amount)
  | .auction nftAsset nftTokenId bidPrice onBehalfOf =>
      s.whenNotPaused (s.executeAuction D sender nftAsset nftTokenId bidPrice onBehalfOf)
  | .redeem nftAsset nftTokenId amount bidFine =>
      s.whenNotPaused (Prod.fst <$> s.executeRedeem D sender nftAsset nftTokenId amount bidFine)
  | .liquidate nftAsset nftTokenId amount =>
      s.whenNotPaused (Prod.fst <$> s.executeLiquidate D sender nftAsset nftTokenId amount)
  | .buyout nftAsset nftTokenId onBehalfOf =>
      s.whenNotPaused (s.executeBuyout D sender nftAsset nftTokenId onBehalfOf)
  -- the two updates of a reserve look neither at the caller nor at the pause
  | .updateReserveState asset => s.updateReserveState asset
  | .updateReserveInterestRates asset => s.updateReserveInterestRates asset
  | .transferBidAmount reserveAsset bidder bidAmount =>
      s.transferBidAmount D sender reserveAsset bidder bidAmount
  | .createDebtListing nftAsset tokenId sellPrice onBehalfOf startBiddingPrice
        auctionEndTimestamp =>
      s.createDebtListing sender nftAsset tokenId sellPrice onBehalfOf startBiddingPrice
        auctionEndTimestamp
  | .cancelDebtListing nftAsset tokenId => s.cancelDebtListing D sender nftAsset tokenId
  | .buy nftAsset tokenId onBehalfOf amount => s.buy D sender nftAsset tokenId onBehalfOf amount
  | .bid nftAsset tokenId bidPrice onBehalfOf => s.bid D sender nftAsset tokenId bidPrice onBehalfOf
  | .claim nftAsset tokenId onBehalfOf => s.claim D nftAsset tokenId onBehalfOf
  | .liquidateReservoir nftAsset reserveAsset tokenId module sale expectedLiquidateAmount =>
      s.liquidateReservoir D sender nftAsset reserveAsset tokenId module sale
        expectedLiquidateAmount
  | .approveDelegation asset delegatee amount =>
      .ok (s.approveDelegation asset sender delegatee amount)
  | .transfer asset dst amount => s.safeTransfer asset sender dst amount
  | .transferFrom asset src dst amount => s.safeTransferFrom asset sender src dst amount
  | .approve asset spender amount => .ok (s.approveErc20 asset sender spender amount)
  | .burn asset amount => s.burnErc20 asset sender amount
  | .transferNft asset src dst tokenId => s.transferErc721 asset sender src dst tokenId
  | .approveNft asset dst tokenId => s.approveErc721 asset sender dst tokenId
  | .setApprovalForAll asset operator approved => .ok (s.setOperator asset sender operator approved)

/-- What an event does. -/
def happen : Event → State
  | .tick elapsed => { s with blockTimestamp := s.blockTimestamp + elapsed }
  | .mint asset dst amount =>
      let e := s.erc20 asset
      s.setErc20 asset { e with
        balanceOf := Function.update e.balanceOf dst (e.balanceOf dst + amount) }
  | .mintNft asset dst tokenId =>
      let c := s.erc721 asset
      if c.ownerOf tokenId = 0 then
        s.setErc721 asset { c with ownerOf := Function.update c.ownerOf tokenId dst }
      else s
  | .setPricePerShare price => { s with yVault := { s.yVault with pricePerShare := price } }
  | .setLockeyBalance holder balance =>
      { s with lockeyBalanceOf := Function.update s.lockeyBalanceOf holder balance }

/-- What an action does. -/
def execute : Action D → Except Error State
  | .call sender _ c => s.perform D sender c
  | .configure setting => s.configure D setting
  | .event e => .ok (s.happen e)

/-- A sequence of actions, none of which reverts. -/
def executeAll (s : State) : List (Action D) → Except Error State
  | [] => .ok s
  | a :: rest => do
      let s ← s.execute D a
      executeAll s rest

end State

/-! ## Runs -/

/-- The loan contract as `initialize` leaves it. -/
def LendPoolLoan.initialized : LendPoolLoan where
  loanIdTracker := 1
  loans := fun _ => .empty
  nftToLoanIds := fun _ _ => 0
  nftTotalCollateral := fun _ => 0
  userNftCollateral := fun _ _ => 0
  marketAdapters := fun _ => false

/-- The market as `initialize` leaves it. -/
def DebtMarket.initialized : DebtMarket where
  debtIdTracker := 0
  marketListings := fun _ => .empty
  nftToDebtIds := fun _ _ => 0
  userTotalDebtByCollection := fun _ _ => 0
  totalDebtsByCollection := fun _ => 0
  deltaBidPercent := ONE_PERCENT
  isAuthorizedAddress := fun _ => false
  paused := false

/-- A protocol that has been deployed and not used: no reserve, no loan, no listing, no debt.
Neither the pool nor the market has approved anyone to spend its tokens. -/
structure Genesis (D : Deployment) (s : State) : Prop where
  reserves : s.lendPool.reserves = fun _ => .empty
  loans : s.lendPoolLoan = .initialized
  listings : s.debtMarket = .initialized
  debts : ∀ r, (s.debtTokens r).scaledTotalSupply = 0 ∧ ∀ u, (s.debtTokens r).scaledBalanceOf u = 0
  receipts : ∀ a t, (s.uNfts a).owner t = 0
  poolGuarded : ∀ r c, (s.erc20 r).allowance D.lendPool c = 0
  marketGuarded : ∀ r c, (s.erc20 r).allowance D.debtMarket c = 0

/-- One step with an action that is allowed. -/
def Step (D : Deployment) (allowed : State → Action D → Prop) (s s' : State) : Prop :=
  ∃ a, allowed s a ∧ s.execute D a = .ok s'

/-- The same step, with the action it takes. -/
def Taken (D : Deployment) (allowed : State → Action D → Prop) (s : State) (a : Action D)
    (s' : State) : Prop :=
  allowed s a ∧ s.execute D a = .ok s'

/-- Every action is allowed. -/
def anyAction (D : Deployment) (_ : State) (_ : Action D) : Prop := True

/-- The states of runs from a fresh deployment, by actions that are allowed. -/
abbrev Reachable (D : Deployment) (allowed : State → Action D → Prop) : State → Prop :=
  Machine.Reachable (Genesis D) (Step D allowed)

section Runs

variable {D : Deployment} {allowed : State → Action D → Prop} {s s' : State}

/-- A restricted run is a run. -/
theorem Reachable.any (h : Reachable D allowed s) : Reachable D (anyAction D) s :=
  Machine.Reachable.mono (fun _ _ ⟨a, _, ha⟩ => ⟨a, trivial, ha⟩) h

/-- A history that begins with a fresh deployment is a run. -/
theorem Reachable.ofHistory {s₀ : State} {log : List (Machine.Entry State (Action D))}
    (g : Genesis D s₀) (h : Machine.History (Taken D allowed) s₀ log s) : Reachable D allowed s :=
  Machine.Reachable.run (.start g) h.run

/-- A run has a history. -/
theorem Reachable.history (h : Reachable D allowed s) : ∃ s₀ log, Genesis D s₀ ∧
    Machine.History (Taken D allowed) s₀ log s :=
  Machine.History.ofReachable h

theorem State.executeAll_eq (actions : List (Action D)) :
    s.executeAll D actions = actions.foldlM (State.execute D) s := by
  induction actions generalizing s with
  | nil => rfl
  | cons a rest ih =>
    rw [State.executeAll, List.foldlM_cons]
    congr
    funext s₁
    exact ih

/-- The log of a sequence of actions, on top of an earlier one; it ends where one reverts. -/
def State.record (D : Deployment) (s : State) (log : List (Machine.Entry State (Action D))) :
    List (Action D) → List (Machine.Entry State (Action D)) :=
  Machine.record (State.execute D) s log

/-- A sequence of allowed actions that goes through continues a history. -/
theorem State.record_history {s₀ : State} {log : List (Machine.Entry State (Action D))}
    (hs : Machine.History (Taken D allowed) s₀ log s) (actions : List (Action D))
    (hall : ∀ a ∈ actions, ∀ s, allowed s a) (hrun : s.executeAll D actions = .ok s') :
    Machine.History (Taken D allowed) s₀ (s.record D log actions) s' ∧
      (s.record D log actions).map Machine.Entry.action
        = actions.reverse ++ log.map Machine.Entry.action := by
  rw [State.executeAll_eq] at hrun
  exact hs.record actions (fun a ha s _ hok => ⟨hall a ha s, hok⟩) hrun

/-- The state a sequence of actions leads to; one that reverts leads nowhere. -/
def State.after (D : Deployment) (s : State) (actions : List (Action D)) : State :=
  match s.executeAll D actions with
  | .ok s' => s'
  | .error _ => s

/-- A sequence of allowed actions that goes through is a run. -/
theorem Reachable.executeAll (hs : Reachable D allowed s) (actions : List (Action D))
    (hall : ∀ a ∈ actions, ∀ s, allowed s a) (hrun : s.executeAll D actions = .ok s') :
    Reachable D allowed s' := by
  obtain ⟨s₀, log, g, hlog⟩ := hs.history
  exact .ofHistory g (State.record_history hlog actions hall hrun).1

theorem Reachable.after (hs : Reachable D allowed s) (actions : List (Action D))
    (hall : ∀ a ∈ actions, ∀ s, allowed s a) : Reachable D allowed (s.after D actions) := by
  unfold State.after
  split
  · exact hs.executeAll actions hall ‹_›
  · exact hs

theorem State.executeAll_after {actions : List (Action D)}
    (hok : raised (s.executeAll D actions) = none) :
    s.executeAll D actions = .ok (s.after D actions) := by
  obtain ⟨s', hs'⟩ := exists_ok_of_raised hok
  rw [State.after, hs']

theorem State.execute_after {a : Action D} (hok : raised (s.execute D a) = none) :
    s.execute D a = .ok (s.after D [a]) := by
  obtain ⟨s', hs'⟩ := exists_ok_of_raised hok
  rw [State.after, State.executeAll, hs']
  rfl

theorem State.perform_after {sender : Address} (outside : D.isUser sender) {c : Call D}
    (hok : raised (s.perform D sender c) = none) :
    s.perform D sender c = .ok (s.after D [.call sender outside c]) :=
  State.execute_after (a := .call sender outside c) hok

/-- The log of a sequence of allowed actions that goes through. -/
theorem State.after_history {actions : List (Action D)} (hall : ∀ a ∈ actions, ∀ s, allowed s a)
    (hok : raised (s.executeAll D actions) = none) :
    ∃ log, Machine.History (Taken D allowed) s log (s.after D actions) ∧
      log.map Machine.Entry.action = actions.reverse := by
  obtain ⟨hlog, hactions⟩ := State.record_history .start actions hall (State.executeAll_after hok)
  exact ⟨_, hlog, hactions.trans (List.append_nil _)⟩

end Runs

/-! ## A small deployment

One WETH reserve with a vault that never loses or gains, one collection, and a handful of
users: 100 borrows, 101 supplies, 102 bids on the debt market and 103 in the auction. -/

def Deployment.sample : Deployment where
  lendPool := 1
  lendPoolLoan := 2
  debtMarket := 3
  reservoirAdapter := 4
  weth := 10
  yVaultWETH := 11
  isProxy := fun a => decide (a = 20 ∨ a = 21)
  acceptsNft := fun _ => true
  sharesFor := fun _ amount => amount
  valueOf := fun _ shares => shares
  lendPool_ne_zero := by decide
  debtMarket_ne_zero := by decide
  reservoirAdapter_ne_zero := by decide
  lendPool_ne_debtMarket := by decide
  lendPool_ne_reservoirAdapter := by decide
  debtMarket_ne_reservoirAdapter := by decide
  yVault_ne_lendPool := by decide
  yVault_ne_debtMarket := by decide
  proxy_ne_lendPool := by decide
  proxy_ne_debtMarket := by decide
  proxy_ne_reservoirAdapter := by decide

/-- The accounts from 100 on are users. -/
theorem Deployment.sample_isUser (k : ℕ) : Deployment.sample.isUser (100 + k) := by
  have hlt : ∀ a : ℕ, a < 100 → 100 + k ≠ a := fun a ha => by omega
  refine ⟨hlt 0 (by decide), ?_⟩
  simp [Deployment.isProtocol, Deployment.sample, hlt]

theorem Deployment.sample_borrower : Deployment.sample.isUser 100 := Deployment.sample_isUser 0

theorem Deployment.sample_supplier : Deployment.sample.isUser 101 := Deployment.sample_isUser 1

theorem Deployment.sample_module : Deployment.sample.isUser 105 := Deployment.sample_isUser 5

theorem Deployment.sample_lendPool : Deployment.sample.isProtocol 1 := .inl rfl

theorem Deployment.sample_isProxy : Deployment.sample.isProxy 21 = true := rfl

/-- The fresh deployment, with users that hold tokens and have approved the pool and the market. -/
def State.sample (kind : Erc20Kind) : State where
  blockTimestamp := 1000
  lendPool :=
    { reserves := fun _ => .empty
      nfts := fun _ => .empty
      nftConfig := fun _ _ => 0
      paused := false
      pauseStartTime := 0
      pauseDurationTime := 0
      timeframe := 10 ^ 9
      auctionDurationConfigFee := 0
      safeHealthFactor := WAD
      bidDelta := PERCENTAGE_FACTOR }
  lendPoolLoan := .initialized
  debtMarket := .initialized
  debtTokens := fun _ => ⟨fun _ => 0, 0, fun _ _ => 0, fun _ => false⟩
  uTokens := fun _ => ⟨fun _ => 0, 0, 0, fun _ => false⟩
  uNfts := fun _ => ⟨fun _ => 0, fun _ => 0⟩
  erc20 := fun _ => ⟨kind, fun a => if 100 ≤ a then 1000000 * WAD else 0,
    fun a c => if 100 ≤ a ∧ c ≤ 4 then 1000000 * WAD else 0⟩
  erc721 := fun _ => ⟨fun _ => 100, fun _ => 0, fun a c => decide (a = 100 ∧ c = 1)⟩
  yVault := ⟨fun _ => 0, WAD⟩
  interestRates := fun _ => ⟨8 * 10 ^ 26, 2 * 10 ^ 26, 0, 4 * 10 ^ 25, RAY⟩
  getAssetPrice := fun _ => WAD
  nftPrices := fun _ _ => 0
  lockeyBalanceOf := fun _ => 0
  lockeyDiscount := 0
  lockeyDiscountOnDebtMarket := 0
  liquidators := fun _ => false
  reservoirModules := fun _ => false

theorem State.sample_genesis (kind : Erc20Kind) : Genesis .sample (.sample kind) where
  reserves := rfl
  loans := rfl
  listings := rfl
  debts _ := ⟨rfl, fun _ => rfl⟩
  receipts _ _ := rfl
  poolGuarded _ _ := rfl
  marketGuarded _ _ := rfl

/-- The configuration of the collateral token: a loan-to-value of a half, a threshold of 80%,
a bonus of 5%, a day to redeem and two for the auction, a fine of 5%. -/
def sampleNftConfig : BitVec 256 :=
  setActive true (BitVec.ofNat 256 (5000 + 8000 * 2 ^ 16 + 500 * 2 ^ 32 + 1440 * 2 ^ 64
    + 2880 * 2 ^ 80 + 500 * 2 ^ 96 + 2000 * 2 ^ 128 + 1000 * 2 ^ 144))

/-- Setting the protocol up, with a reserve factor, and a first deposit. -/
def sampleSetup (reserveFactor : ℕ) : List (Action .sample) :=
  [.configure (.initReserve 10 20 6 12 18 (by decide)),
    .configure (.setBorrowingFlagOnReserve 10 true),
    .configure (.setReserveFactor 10 reserveFactor),
    .configure (.initNft 40 21 (by decide)),
    .configure (.setNftConfiguration 40 (setActive true 0)),
    .configure (.setNftConfigByTokenId 40 7 sampleNftConfig),
    .configure (.updateUTokenManagers 10 1 true (by decide)),
    .configure (.updateTokenManagers 10 1 true (by decide)),
    .configure (.updateTokenManagers 10 3 true (by decide)),
    .configure (.updateTokenManagers 10 4 true (by decide)),
    .configure (.setAuthorizedAddress 1 true),
    .configure (.setNFTPrice 40 7 (100 * WAD)),
    .call 101 (by decide) (.deposit 10 (1000 * WAD) 101)]

/-- A loan is taken out, and later its debt is listed. -/
def sampleListing : List (Action .sample) :=
  [.call 100 (by decide) (.borrow 10 (30 * WAD) 40 7 100),
    .event (.tick 1000000),
    .call 100 (by decide) (.createDebtListing 40 7 (5 * WAD) 100 WAD 2000000)]

/-- There is a bid on the listing. -/
def sampleBid : List (Action .sample) :=
  [.call 102 (by decide) (.bid 40 7 (2 * WAD) 102)]

/-- The price of the collateral falls, and there is a bid on the loan. -/
def sampleAuction : List (Action .sample) :=
  [.configure (.setNFTPrice 40 7 (30 * WAD)),
    .call 103 (by decide) (.auction 40 7 (40 * WAD) 103)]

/-- The state in which one loan is in auction, and its debt listed, with a bid on each. -/
def State.sampleBusy : State :=
  (State.sample .weth9).after .sample (sampleSetup 1000 ++ sampleListing ++ sampleBid ++
    sampleAuction)

/-! ## A larger deployment

Two reserves, two tokens to borrow on, and a vault whose shares have a price. -/

def Deployment.larger : Deployment where
  lendPool := 1
  lendPoolLoan := 2
  debtMarket := 3
  reservoirAdapter := 4
  weth := 10
  yVaultWETH := 11
  isProxy := fun a => decide (20 ≤ a ∧ a < 30)
  acceptsNft := fun _ => true
  sharesFor := fun v amount => amount * WAD / v.pricePerShare
  valueOf := fun v shares => shares * v.pricePerShare / WAD
  lendPool_ne_zero := by decide
  debtMarket_ne_zero := by decide
  reservoirAdapter_ne_zero := by decide
  lendPool_ne_debtMarket := by decide
  lendPool_ne_reservoirAdapter := by decide
  debtMarket_ne_reservoirAdapter := by decide
  yVault_ne_lendPool := by decide
  yVault_ne_debtMarket := by decide
  proxy_ne_lendPool := by decide
  proxy_ne_debtMarket := by decide
  proxy_ne_reservoirAdapter := by decide

/-- Here too the accounts from 100 on are users. -/
theorem Deployment.larger_isUser (k : ℕ) : Deployment.larger.isUser (100 + k) := by
  have hlt : ∀ a : ℕ, a < 100 → 100 + k ≠ a := fun a ha => by omega
  refine ⟨hlt 0 (by decide), ?_⟩
  have hproxy : ¬ (20 ≤ 100 + k ∧ 100 + k < 30) := fun h => by omega
  simp [Deployment.isProtocol, Deployment.larger, hlt, hproxy]

theorem Deployment.larger_isProxy (k : ℕ) (hk : k < 10) :
    Deployment.larger.isProxy (20 + k) = true :=
  decide_eq_true ⟨Nat.le_add_right 20 k, Nat.add_lt_add_left hk 20⟩

theorem Deployment.larger_adapter : Deployment.larger.isProtocol 4 := by decide

theorem Deployment.larger_lendPool : Deployment.larger.isProtocol 1 := .inl rfl

theorem Deployment.larger_borrower : Deployment.larger.isUser 100 := Deployment.larger_isUser 0

theorem Deployment.larger_supplier : Deployment.larger.isUser 101 := Deployment.larger_isUser 1

theorem Deployment.larger_depositor : Deployment.larger.isUser 102 := Deployment.larger_isUser 2

theorem Deployment.larger_bidder : Deployment.larger.isUser 103 := Deployment.larger_isUser 3

theorem State.sample_genesis_larger (kind : Erc20Kind) : Genesis .larger (.sample kind) where
  reserves := rfl
  loans := rfl
  listings := rfl
  debts _ := ⟨rfl, fun _ => rfl⟩
  receipts _ _ := rfl
  poolGuarded _ _ := rfl
  marketGuarded _ _ := rfl

/-- Setting it up, with a first deposit in WETH; user 104 may sell through the module 105, and the
treasury is the account 106. -/
def largerSetup : List (Action .larger) :=
  [.configure (.initReserve 10 20 106 12 18 (Deployment.larger_isProxy 0 (by decide))),
    .configure (.initReserve 13 22 106 12 18 (Deployment.larger_isProxy 2 (by decide))),
    .configure (.setBorrowingFlagOnReserve 10 true),
    .configure (.initNft 40 21 (Deployment.larger_isProxy 1 (by decide))),
    .configure (.setNftConfiguration 40 (setActive true 0)),
    .configure (.setNftConfigByTokenId 40 7 sampleNftConfig),
    .configure (.setNftConfigByTokenId 40 8 sampleNftConfig),
    .configure (.updateUTokenManagers 10 1 true (.inl rfl)),
    .configure (.updateTokenManagers 10 1 true (.inl rfl)),
    .configure (.updateTokenManagers 10 4 true Deployment.larger_adapter),
    .configure (.updateMarketAdapters 4 true Deployment.larger_adapter),
    .configure (.updateLiquidators 104 true),
    .configure (.updateModules 105 true),
    .configure (.setNFTPrice 40 7 (100 * WAD)),
    .configure (.setNFTPrice 40 8 (100 * WAD)),
    .call 101 (Deployment.larger_isUser 1) (.deposit 10 (1000 * WAD) 101)]

/-- A loan of 30 WETH on the token 7. -/
def largerLoan : List (Action .larger) :=
  [.call 100 (Deployment.larger_isUser 0) (.borrow 10 (30 * WAD) 40 7 100)]

/-- The price falls, and user 103 bids 40 WETH. -/
def largerAuction : List (Action .larger) :=
  [.configure (.setNFTPrice 40 7 (30 * WAD)),
    .call 103 (Deployment.larger_isUser 3) (.auction 40 7 (40 * WAD) 103)]

/-- A sale of the token 7 to account 107 for `price` WETH, by a liquidator who names a reserve. -/
def largerSale (reserveAsset price : ℕ) : Call .larger :=
  .liquidateReservoir 40 reserveAsset 7 105
    ⟨107, [⟨10, 105, 4, price, 105, Deployment.larger_isUser 5⟩]⟩ 0

/-- A run of the larger deployment, with reserves of one kind or the other. -/
def State.larger (kind : Erc20Kind) (actions : List (Action .larger)) : State :=
  (State.sample kind).after .larger (largerSetup ++ actions)

theorem State.larger_reachable (kind : Erc20Kind) (actions : List (Action .larger)) :
    Reachable .larger (anyAction .larger) (State.larger kind actions) :=
  Reachable.after (.start (State.sample_genesis_larger kind)) _ fun _ _ _ => trivial

end Unlockd

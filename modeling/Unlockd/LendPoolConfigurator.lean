/-
The entry points of `LendPoolConfigurator.sol` that write the configuration words of
collections and of their tokens.

The settings of `Configurator` take a word as it is given. Here is how the contract packs it:
an entry point reads the word, checks its arguments, changes some of the fields and writes the
word back. A batch does so for one token after the other, and reverts as a whole.

An operation is one of these entry points, or any other action. It amounts to a sequence of
actions, and so what holds in every run of actions holds in every run of operations.
-/
import Unlockd.Invariants

set_option autoImplicit false

namespace Unlockd

open Outcome NftConfiguration

/-! ## The words -/

/-- `ConfigNftAsCollateralInput`. -/
structure ConfigNftAsCollateralInput where
  asset : Address
  nftTokenId : ℕ
  newPrice : ℕ
  ltv : ℕ
  liquidationThreshold : ℕ
  redeemThreshold : ℕ
  liquidationBonus : ℕ
  redeemDuration : ℕ
  auctionDuration : ℕ
  redeemFine : ℕ
  minBidFine : ℕ

/-- `ConfigNftInput`. -/
structure ConfigNftInput where
  asset : Address
  tokenId : ℕ
  baseLTV : ℕ
  liquidationThreshold : ℕ
  liquidationBonus : ℕ
  redeemDuration : ℕ
  auctionDuration : ℕ
  redeemFine : ℕ
  redeemThreshold : ℕ
  minBidFine : ℕ

/-- The check of the liquidation bonus: a token with a threshold has one below 100%, and any other
none. -/
def validateBonus (liquidationThreshold liquidationBonus : ℕ) : Except Error Unit :=
  if liquidationThreshold ≠ 0 then
    require (liquidationBonus < PERCENTAGE_FACTOR) Error.LPC_INVALID_CONFIGURATION
  else require (liquidationBonus = 0) Error.LPC_INVALID_CONFIGURATION

/-- The word `_configureNftAsCollateral` makes of the current one. -/
def ConfigNftAsCollateralInput.pack (collateralData : ConfigNftAsCollateralInput)
    (blockTimestamp : ℕ) (currentConfig : BitVec 256) : Except Error (BitVec 256) := do
  require (collateralData.ltv < collateralData.liquidationThreshold)
    Error.LPC_INVALID_CONFIGURATION
  validateBonus collateralData.liquidationThreshold collateralData.liquidationBonus
  let c ← setLtv collateralData.ltv currentConfig
  let c ← setLiquidationThreshold collateralData.liquidationThreshold c
  let c ← setRedeemThreshold collateralData.redeemThreshold c
  let c ← setLiquidationBonus collateralData.liquidationBonus c
  let c := setFrozen false (setActive true c)
  require (collateralData.redeemDuration ≤ collateralData.auctionDuration)
    Error.LPC_INVALID_CONFIGURATION
  let c ← setRedeemDuration collateralData.redeemDuration c
  let c ← setAuctionDuration collateralData.auctionDuration c
  let c ← setRedeemFine collateralData.redeemFine c
  let c ← setMinBidFine collateralData.minBidFine c
  setConfigTimestamp blockTimestamp c

/-- The word `configureNftAsAuction` makes of the current one. -/
def packAuction (redeemDuration auctionDuration redeemFine : ℕ) (currentConfig : BitVec 256) :
    Except Error (BitVec 256) := do
  require (redeemDuration ≤ auctionDuration) Error.LPC_INVALID_CONFIGURATION
  let c ← setRedeemDuration redeemDuration currentConfig
  let c ← setAuctionDuration auctionDuration c
  setRedeemFine redeemFine c

/-- The word `batchConfigNft` makes of the current one. -/
def ConfigNftInput.pack (input : ConfigNftInput) (currentConfig : BitVec 256) :
    Except Error (BitVec 256) := do
  require (input.baseLTV ≤ input.liquidationThreshold) Error.LPC_INVALID_CONFIGURATION
  validateBonus input.liquidationThreshold input.liquidationBonus
  let c := setFrozen false (setActive true currentConfig)
  let c ← setLtv input.baseLTV c
  let c ← setLiquidationThreshold input.liquidationThreshold c
  let c ← setLiquidationBonus input.liquidationBonus c
  -- unlike the other two, it does not compare the durations
  let c ← setRedeemDuration input.redeemDuration c
  let c ← setAuctionDuration input.auctionDuration c
  let c ← setRedeemFine input.redeemFine c
  let c ← setRedeemThreshold input.redeemThreshold c
  setMinBidFine input.minBidFine c

/-! ## The entry points -/

/-- What `setNFTPrice` of `NFTOracle.sol` looks at besides the price. -/
structure NFTOracle where
  collections : Address → Bool
  collectionPaused : Address → Bool

namespace State

variable (D : Deployment) (s : State)

/-- Read the word of a token, change it, and write it back. -/
def configureToken (asset : Address) (tokenId : ℕ)
    (change : BitVec 256 → Except Error (BitVec 256)) : Except Error State := do
  let c ← change (s.lendPool.nftConfig asset tokenId)
  s.configure D (.setNftConfigByTokenId asset tokenId c)

/-- `NFTOracle.setNFTPrice`. -/
def setNFTPrice (oracle : NFTOracle) (collection : Address) (tokenId price : ℕ) :
    Except Error State := do
  require (oracle.collections collection = true) (Error.NonExistingCollection collection)
  require (oracle.collectionPaused collection = false) Error.NFTPaused
  require (price ≠ 0) Error.PriceIsZero
  s.configure D (.setNFTPrice collection tokenId price)

/-- `_configureNftAsCollateral`. -/
def _configureNftAsCollateral (oracle : NFTOracle) (collateralData : ConfigNftAsCollateralInput) :
    Except Error State := do
  let s ← s.configureToken D collateralData.asset collateralData.nftTokenId
    (collateralData.pack s.blockTimestamp)
  s.setNFTPrice D oracle collateralData.asset collateralData.nftTokenId collateralData.newPrice

/-- `configureNftsAsCollateral`. Its loop counts in eight bits and does not end on longer arrays. -/
def configureNftsAsCollateral (oracle : NFTOracle)
    (collateralData : List ConfigNftAsCollateralInput) : Except Error State := do
  require (collateralData.length ≤ 255) Error.outOfGas
  collateralData.foldlM (fun s input => s._configureNftAsCollateral D oracle input) s

/-- `configureNftAsAuction`. -/
def configureNftAsAuction (asset : Address)
    (nftTokenId redeemDuration auctionDuration redeemFine : ℕ) : Except Error State :=
  s.configureToken D asset nftTokenId (packAuction redeemDuration auctionDuration redeemFine)

/-- `batchConfigNft`. -/
def batchConfigNft (inputs : List ConfigNftInput) : Except Error State :=
  inputs.foldlM (fun s input => s.configureToken D input.asset input.tokenId input.pack) s

/-- `_checkNftNoLiquidity`. -/
def _checkNftNoLiquidity (asset : Address) : Except Error Unit :=
  require (s.lendPoolLoan.nftTotalCollateral asset = 0) Error.LPC_NFT_LIQUIDITY_NOT_0

/-- `setActiveFlagOnNft`: a collection is deactivated only if no loan is on it. -/
def setActiveFlagOnNft (asset : Address) (flag : Bool) : Except Error State := do
  if flag = false then s._checkNftNoLiquidity asset
  s.configure D (.setNftConfiguration asset (setActive flag (s.lendPool.nfts asset).configuration))

/-- `setFreezeFlagOnNft`. -/
def setFreezeFlagOnNft (asset : Address) (flag : Bool) : Except Error State :=
  s.configure D (.setNftConfiguration asset (setFrozen flag (s.lendPool.nfts asset).configuration))

/-- Change the words of several tokens alike. -/
def configureTokens (tokens : List (Address × ℕ)) (change : BitVec 256 → BitVec 256) :
    Except Error State :=
  tokens.foldlM (fun s token => s.configureToken D token.1 token.2 fun c => .ok (change c)) s

/-- `setActiveFlagOnNftByTokenId`: here no loan is looked for. -/
def setActiveFlagOnNftByTokenId (assets : List Address) (tokenIds : List ℕ) (flag : Bool) :
    Except Error State := do
  require (assets.length = tokenIds.length) Error.LPC_PARAMS_MISMATCH
  s.configureTokens D (assets.zip tokenIds) (setActive flag)

/-- `setFreezeFlagOnNftByTokenId`. -/
def setFreezeFlagOnNftByTokenId (assets : List Address) (tokenIds : List ℕ) (flag : Bool) :
    Except Error State := do
  require (assets.length ≤ tokenIds.length) Error.indexOutOfBounds
  s.configureTokens D (assets.zip tokenIds) (setFrozen flag)

/-- `setNftRedeemThreshold`. -/
def setNftRedeemThreshold (asset : Address) (nftTokenId redeemThreshold : ℕ) :
    Except Error State :=
  s.configureToken D asset nftTokenId (setRedeemThreshold redeemThreshold)

/-- `setNftMinBidFine`. -/
def setNftMinBidFine (asset : Address) (nftTokenId minBidFine : ℕ) : Except Error State :=
  s.configureToken D asset nftTokenId (setMinBidFine minBidFine)

end State

/-! ## Operations -/

/-- Whether an action writes a configuration word as it is given. -/
def Action.writesWord {D : Deployment} : Action D → Bool
  | .configure (.setNftConfiguration _ _) => true
  | .configure (.setNftConfigByTokenId _ _ _) => true
  | _ => false

/-- An action, where configuration words are written by the configurator. -/
inductive Operation (D : Deployment)
  | action (a : Action D) (packed : a.writesWord = false)
  | configureNftsAsCollateral (oracle : NFTOracle)
      (collateralData : List ConfigNftAsCollateralInput)
  | configureNftAsAuction (asset : Address)
      (nftTokenId redeemDuration auctionDuration redeemFine : ℕ)
  | batchConfigNft (inputs : List ConfigNftInput)
  | setActiveFlagOnNft (asset : Address) (flag : Bool)
  | setFreezeFlagOnNft (asset : Address) (flag : Bool)
  | setActiveFlagOnNftByTokenId (assets : List Address) (tokenIds : List ℕ) (flag : Bool)
  | setFreezeFlagOnNftByTokenId (assets : List Address) (tokenIds : List ℕ) (flag : Bool)
  | setNftRedeemThreshold (asset : Address) (nftTokenId redeemThreshold : ℕ)
  | setNftMinBidFine (asset : Address) (nftTokenId minBidFine : ℕ)

/-- What an operation does. -/
def State.operate (D : Deployment) (s : State) : Operation D → Except Error State
  | .action a _ => s.execute D a
  | .configureNftsAsCollateral oracle collateralData =>
      s.configureNftsAsCollateral D oracle collateralData
  | .configureNftAsAuction asset nftTokenId redeemDuration auctionDuration redeemFine =>
      s.configureNftAsAuction D asset nftTokenId redeemDuration auctionDuration redeemFine
  | .batchConfigNft inputs => s.batchConfigNft D inputs
  | .setActiveFlagOnNft asset flag => s.setActiveFlagOnNft D asset flag
  | .setFreezeFlagOnNft asset flag => s.setFreezeFlagOnNft D asset flag
  | .setActiveFlagOnNftByTokenId assets tokenIds flag =>
      s.setActiveFlagOnNftByTokenId D assets tokenIds flag
  | .setFreezeFlagOnNftByTokenId assets tokenIds flag =>
      s.setFreezeFlagOnNftByTokenId D assets tokenIds flag
  | .setNftRedeemThreshold asset nftTokenId redeemThreshold =>
      s.setNftRedeemThreshold D asset nftTokenId redeemThreshold
  | .setNftMinBidFine asset nftTokenId minBidFine =>
      s.setNftMinBidFine D asset nftTokenId minBidFine

/-- One step of a run of operations. -/
def Operated (D : Deployment) (s : State) (o : Operation D) (s' : State) : Prop :=
  s.operate D o = .ok s'

/-! ## Operations as actions -/

section Actions

variable {D : Deployment} {s s' : State}

theorem State.executeAll_append (actions actions' : List (Action D)) :
    s.executeAll D (actions ++ actions')
      = s.executeAll D actions >>= fun s => s.executeAll D actions' := by
  simp only [State.executeAll_eq, List.foldlM_append]

/-- The state is what some sequence of actions makes of another. -/
def Acted (D : Deployment) (s s' : State) : Prop := ∃ actions, s.executeAll D actions = .ok s'

theorem Acted.refl (s : State) : Acted D s s := ⟨[], rfl⟩

theorem Acted.action {a : Action D} (h : s.execute D a = .ok s') : Acted D s s' := by
  refine ⟨[a], ?_⟩
  rw [State.executeAll, h]
  rfl

theorem configure_acted {setting : Setting D} : Returns (s.configure D setting) (Acted D s) :=
  (Sat.returned _).returns.imp fun _ h => .action (a := .configure setting) h

theorem Acted.trans {s'' : State} (h : Acted D s s') (h' : Acted D s' s'') : Acted D s s'' := by
  obtain ⟨actions, hs⟩ := h
  obtain ⟨actions', hs'⟩ := h'
  refine ⟨actions ++ actions', ?_⟩
  rw [State.executeAll_append, hs]
  exact hs'

theorem configureToken_acted {asset : Address} {tokenId : ℕ}
    {change : BitVec 256 → Except Error (BitVec 256)} :
    Returns (s.configureToken D asset tokenId change) (Acted D s) :=
  Returns.step fun _ _ => configure_acted

theorem configureTokens_acted {tokens : List (Address × ℕ)} {change : BitVec 256 → BitVec 256} :
    Returns (s.configureTokens D tokens change) (Acted D s) := by
  refine Returns.foldlM (P := Acted D s) (fun token _ t ht => ?_) (.refl s)
  exact configureToken_acted.imp fun _ h => ht.trans h

/-- **Every operation is a sequence of actions.** -/
theorem operate_acted (o : Operation D) : Returns (s.operate D o) (Acted D s) := by
  cases o with
  | action a packed => exact (Sat.returned _).returns.imp fun _ h => .action h
  | configureNftsAsCollateral oracle collateralData =>
    refine Returns.check fun _ => Returns.foldlM (P := Acted D s) (fun input _ t ht => ?_) (.refl s)
    refine Sat.bind configureToken_acted fun t' ht' => ?_
    refine Returns.check fun _ => Returns.check fun _ => Returns.check fun _ => ?_
    exact configure_acted.imp fun _ h => (ht.trans ht').trans h
  | configureNftAsAuction => exact configureToken_acted
  | batchConfigNft inputs =>
    refine Returns.foldlM (P := Acted D s) (fun input _ t ht => ?_) (.refl s)
    exact configureToken_acted.imp fun _ h => ht.trans h
  | setActiveFlagOnNft asset flag =>
    refine Sat.ite (fun _ => Returns.step fun _ _ => ?_) fun _ => ?_
    · exact configure_acted
    · exact configure_acted
  | setFreezeFlagOnNft asset flag =>
    change Returns (s.configure D (.setNftConfiguration asset _)) _
    exact configure_acted
  | setActiveFlagOnNftByTokenId => exact Returns.check fun _ => configureTokens_acted
  | setFreezeFlagOnNftByTokenId => exact Returns.check fun _ => configureTokens_acted
  | setNftRedeemThreshold => exact configureToken_acted
  | setNftMinBidFine => exact configureToken_acted

/-- **A run of operations is a run of actions.** -/
theorem Genesis.operated {s₀ : State} {log : List (Machine.Entry State (Operation D))}
    (g : Genesis D s₀) (h : Machine.History (Operated D) s₀ log s) :
    Reachable D (anyAction D) s := by
  induction h with
  | start => exact .start g
  | next _ hst ih =>
    obtain ⟨actions, hactions⟩ := (operate_acted _).ok hst
    exact ih.executeAll actions (fun _ _ _ => trivial) hactions

/-- The operations of a sequence of actions, without those that write a word as it is given. -/
def operations (actions : List (Action D)) : List (Operation D) :=
  actions.filterMap fun a => if packed : a.writesWord = false then some (.action a packed) else none

theorem exists_action_of_mem_operations {actions : List (Action D)} {o : Operation D}
    (h : o ∈ operations actions) : ∃ a packed, o = .action a packed := by
  obtain ⟨a, -, ha⟩ := List.mem_filterMap.mp h
  split at ha
  · exact ⟨a, _, (Option.some.inj ha).symm⟩
  · cases ha

/-- The state a list of operations leads to; one that reverts leads nowhere. -/
def State.operated (D : Deployment) (s : State) (ops : List (Operation D)) : State :=
  match ops.foldlM (State.operate D) s with
  | .ok s' => s'
  | .error _ => s

theorem State.operate_operated {o : Operation D} (hok : raised (s.operate D o) = none) :
    Operated D s o (s.operated D [o]) := by
  obtain ⟨s', hs'⟩ := exists_ok_of_raised hok
  unfold Operated State.operated
  rw [List.foldlM_cons, hs']
  rfl

/-- **A list of operations that goes through** has a history. -/
theorem State.operated_history {ops : List (Operation D)}
    (hok : raised (ops.foldlM (State.operate D) s) = none) :
    ∃ log, Machine.History (Operated D) s log (s.operated D ops) ∧
      log.map Machine.Entry.action = ops.reverse := by
  obtain ⟨s', hs'⟩ := exists_ok_of_raised hok
  obtain ⟨hlog, hactions⟩ := Machine.History.record .start ops (fun _ _ _ _ ho => ho) hs'
  refine ⟨_, ?_, hactions.trans (List.append_nil _)⟩
  rw [State.operated, hs']
  exact hlog

end Actions

/-! ## The small deployment -/

/-- The collateral token, with a period to redeem and an auction of some length. -/
def sampleCollateral (redeemDuration auctionDuration : ℕ) : ConfigNftInput where
  asset := 40
  tokenId := 7
  baseLTV := 5000
  liquidationThreshold := 8000
  liquidationBonus := 500
  redeemDuration := redeemDuration
  auctionDuration := auctionDuration
  redeemFine := 500
  redeemThreshold := 2000
  minBidFine := 1000

/-- The protocol is set up by its configurator, and user 100 takes out a loan. -/
def sampleLoan (redeemDuration auctionDuration : ℕ) : List (Operation .sample) :=
  operations (sampleSetup 1000) ++
    [.batchConfigNft [sampleCollateral redeemDuration auctionDuration]] ++
    operations [.call 100 Deployment.sample_borrower (.borrow 10 (30 * WAD) 40 7 100)]

end Unlockd

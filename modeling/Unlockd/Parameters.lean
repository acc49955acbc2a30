/-
The parameters of a token, and the windows of its auction.

The configuration word of a token packs eleven fields that lie apart, so that what an entry
point of the configurator writes can be read off as an update of numbers. Three entry points
write parameters. All of them keep the loan-to-value within the liquidation threshold and the
bonus below 100%. Two of them also keep the time to redeem within the time of the auction;
`batchConfigNft` takes the two durations as they come.

The order of the durations is what keeps redemption and liquidation apart: where the period to
redeem is no longer than the auction, there is no time at which both go through.
-/
import Unlockd.LendPoolConfigurator
import Unlockd.Pauses
import Unlockd.Lib.Bitfield

set_option autoImplicit false

namespace Unlockd

open Outcome Machine NftConfiguration

/-! ## The fields of a word -/

/-- The fields of the configuration of a token. -/
inductive NftField
  | ltv | liquidationThreshold | liquidationBonus | active | frozen | redeemDuration
  | auctionDuration | redeemFine | redeemThreshold | minBidFine | configTimestamp
  deriving DecidableEq

namespace NftField

def mask : NftField → BitVec 256
  | ltv => LTV_MASK
  | liquidationThreshold => LIQUIDATION_THRESHOLD_MASK
  | liquidationBonus => LIQUIDATION_BONUS_MASK
  | active => ACTIVE_MASK
  | frozen => FROZEN_MASK
  | redeemDuration => REDEEM_DURATION_MASK
  | auctionDuration => AUCTION_DURATION_MASK
  | redeemFine => REDEEM_FINE_MASK
  | redeemThreshold => REDEEM_THRESHOLD_MASK
  | minBidFine => MIN_BIDFINE_MASK
  | configTimestamp => CONFIG_TIMESTAMP_MASK

def start : NftField → ℕ
  | ltv => 0
  | liquidationThreshold => LIQUIDATION_THRESHOLD_START_BIT_POSITION
  | liquidationBonus => LIQUIDATION_BONUS_START_BIT_POSITION
  | active => IS_ACTIVE_START_BIT_POSITION
  | frozen => IS_FROZEN_START_BIT_POSITION
  | redeemDuration => REDEEM_DURATION_START_BIT_POSITION
  | auctionDuration => AUCTION_DURATION_START_BIT_POSITION
  | redeemFine => REDEEM_FINE_START_BIT_POSITION
  | redeemThreshold => REDEEM_THRESHOLD_START_BIT_POSITION
  | minBidFine => MIN_BIDFINE_START_BIT_POSITION
  | configTimestamp => CONFIG_TIMESTAMP_START_BIT_POSITION

def width : NftField → ℕ
  | active | frozen => 1
  | configTimestamp => 32
  | _ => 16

theorem fits (p : NftField) : p.start + p.width ≤ 256 := by cases p <;> decide

/-- The masks of the contract have their zeros where the fields are. -/
theorem masks (p : NftField) : Bitfield.Masks p.mask p.start p.width := by
  cases p <;> decide +kernel

theorem apart (p q : NftField) (h : p ≠ q) :
    p.start + p.width ≤ q.start ∨ q.start + q.width ≤ p.start := by
  cases p <;> cases q <;> first | exact absurd rfl h | decide

end NftField

/-- The configuration of a token is laid out in fields that do not overlap. -/
def nftLayout : Bitfield.Layout NftField 256 :=
  ⟨NftField.mask, NftField.start, NftField.width, NftField.fits, NftField.masks, NftField.apart⟩

/-- What a setter of a number writes. -/
theorem setField_values {p : NftField} {maxValid value : ℕ} {err : Error} {c c' : BitVec 256}
    (hmax : maxValid < 2 ^ p.width) (h : setField p.mask p.start maxValid err value c = .ok c') :
    nftLayout.values c' = Function.update (nftLayout.values c) p value := by
  obtain ⟨hle, h⟩ := require_bind_eq_ok.mp h
  obtain rfl := Except.ok.inj h
  exact nftLayout.values_write (Nat.lt_of_le_of_lt hle hmax) c

/-- Setting a flag writes its bit. -/
theorem setFlag_eq_write (mask : BitVec 256) (start : ℕ) (flag : Bool) (c : BitVec 256) :
    setFlag mask start flag c
      = Bitfield.write mask start (if flag = true then 1 else 0) c := by
  unfold setFlag Bitfield.write
  cases flag <;> rfl

/-- What a setter of a flag writes. -/
theorem setFlag_values {p : NftField} (hwidth : p.width = 1) (flag : Bool) (c : BitVec 256) :
    nftLayout.values (setFlag p.mask p.start flag c)
      = Function.update (nftLayout.values c) p (if flag = true then 1 else 0) := by
  rw [setFlag_eq_write]
  refine nftLayout.values_write (p := p) ?_ c
  show (if flag = true then 1 else 0 : ℕ) < 2 ^ p.width
  rw [hwidth]
  cases flag <;> decide

theorem setActive_values (flag : Bool) (c : BitVec 256) : nftLayout.values (setActive flag c)
    = Function.update (nftLayout.values c) .active (if flag = true then 1 else 0) :=
  setFlag_values (p := .active) rfl flag c

theorem setFrozen_values (flag : Bool) (c : BitVec 256) : nftLayout.values (setFrozen flag c)
    = Function.update (nftLayout.values c) .frozen (if flag = true then 1 else 0) :=
  setFlag_values (p := .frozen) rfl flag c

/-- The flag of an active token is its field. -/
theorem getActive_eq (c : BitVec 256) : getActive c = decide (nftLayout.values c .active = 1) :=
  nftLayout.flag_eq (p := .active) rfl c

/-! ## Sound parameters -/

/-- The collateral parameters of a token are sound. -/
structure CollateralSound (c : BitVec 256) : Prop where
  ltv_le : getLtv c ≤ getLiquidationThreshold c
  bonus_lt : getLiquidationBonus c < PERCENTAGE_FACTOR

/-- The period to redeem ends with the auction, or before. -/
def DurationsSound (c : BitVec 256) : Prop := getRedeemDuration c ≤ getAuctionDuration c

instance (c : BitVec 256) : Decidable (DurationsSound c) :=
  inferInstanceAs (Decidable (getRedeemDuration c ≤ getAuctionDuration c))

/-- A change that leaves all parameters alone. -/
structure SameParameters (c c' : BitVec 256) : Prop where
  ltv : getLtv c' = getLtv c
  liquidationThreshold : getLiquidationThreshold c' = getLiquidationThreshold c
  liquidationBonus : getLiquidationBonus c' = getLiquidationBonus c
  redeemDuration : getRedeemDuration c' = getRedeemDuration c
  auctionDuration : getAuctionDuration c' = getAuctionDuration c

theorem SameParameters.collateral {c c' : BitVec 256} (h : SameParameters c c')
    (hc : CollateralSound c) : CollateralSound c' := by
  refine ⟨?_, ?_⟩
  · rw [h.ltv, h.liquidationThreshold]
    exact hc.ltv_le
  · rw [h.liquidationBonus]
    exact hc.bonus_lt

theorem SameParameters.durations {c c' : BitVec 256} (h : SameParameters c c')
    (hc : DurationsSound c) : DurationsSound c' := by
  unfold DurationsSound
  rw [h.redeemDuration, h.auctionDuration]
  exact hc

/-- Writing a field that is none of them leaves them alone. -/
theorem SameParameters.ofUpdate {c c' : BitVec 256} {p : NftField} {value : ℕ}
    (h : nftLayout.values c' = Function.update (nftLayout.values c) p value)
    (hp : p ≠ .ltv ∧ p ≠ .liquidationThreshold ∧ p ≠ .liquidationBonus ∧ p ≠ .redeemDuration ∧
      p ≠ .auctionDuration) : SameParameters c c' := by
  have hother : ∀ q, p ≠ q → nftLayout.values c' q = nftLayout.values c q := by
    intro q hq
    rw [h, Function.update_of_ne (Ne.symm hq)]
  exact ⟨hother .ltv hp.1, hother .liquidationThreshold hp.2.1,
    hother .liquidationBonus hp.2.2.1, hother .redeemDuration hp.2.2.2.1,
    hother .auctionDuration hp.2.2.2.2⟩

theorem SameParameters.setActive (flag : Bool) (c : BitVec 256) :
    SameParameters c (Unlockd.setActive flag c) := .ofUpdate (setActive_values flag c) (by decide)

theorem SameParameters.setFrozen (flag : Bool) (c : BitVec 256) :
    SameParameters c (Unlockd.setFrozen flag c) := .ofUpdate (setFrozen_values flag c) (by decide)

theorem SameParameters.setRedeemThreshold {threshold : ℕ} {c c' : BitVec 256}
    (h : NftConfiguration.setRedeemThreshold threshold c = .ok c') : SameParameters c c' :=
  .ofUpdate (setField_values (p := .redeemThreshold) (by decide) h) (by decide)

theorem SameParameters.setMinBidFine {minBidFine : ℕ} {c c' : BitVec 256}
    (h : NftConfiguration.setMinBidFine minBidFine c = .ok c') : SameParameters c c' :=
  .ofUpdate (setField_values (p := .minBidFine) (by decide) h) (by decide)

/-- The check of the bonus keeps it below 100%. -/
theorem validateBonus_lt {threshold bonus : ℕ} (h : validateBonus threshold bonus = .ok ()) :
    bonus < PERCENTAGE_FACTOR := by
  unfold validateBonus at h
  split at h
  · exact (require_eq_ok.mp h)
  · rw [require_eq_ok.mp h]
    decide

/-! ## What the entry points pack -/

/-- **`configureNftsAsCollateral` packs sound parameters**, and activates the token. -/
theorem ConfigNftAsCollateralInput.pack_sound {input : ConfigNftAsCollateralInput} {now : ℕ}
    {c c' : BitVec 256} (h : input.pack now c = .ok c') :
    CollateralSound c' ∧ DurationsSound c' ∧ getActive c' = true := by
  obtain ⟨hltv, h⟩ := require_bind_eq_ok.mp h
  obtain ⟨_, hbonus, h⟩ := bind_eq_ok.mp h
  obtain ⟨c₁, h₁, h⟩ := bind_eq_ok.mp h
  obtain ⟨c₂, h₂, h⟩ := bind_eq_ok.mp h
  obtain ⟨c₃, h₃, h⟩ := bind_eq_ok.mp h
  obtain ⟨c₄, h₄, h⟩ := bind_eq_ok.mp h
  obtain ⟨hdurations, h⟩ := require_bind_eq_ok.mp h
  obtain ⟨c₅, h₅, h⟩ := bind_eq_ok.mp h
  obtain ⟨c₆, h₆, h⟩ := bind_eq_ok.mp h
  obtain ⟨c₇, h₇, h⟩ := bind_eq_ok.mp h
  obtain ⟨c₈, h₈, h⟩ := bind_eq_ok.mp h
  -- all fields but the reserved ones are written
  have hvalues := setField_values (p := .configTimestamp) (by decide) h
  rw [setField_values (p := .minBidFine) (by decide) h₈,
    setField_values (p := .redeemFine) (by decide) h₇,
    setField_values (p := .auctionDuration) (by decide) h₆,
    setField_values (p := .redeemDuration) (by decide) h₅, setFrozen_values, setActive_values,
    setField_values (p := .liquidationBonus) (by decide) h₄,
    setField_values (p := .redeemThreshold) (by decide) h₃,
    setField_values (p := .liquidationThreshold) (by decide) h₂,
    setField_values (p := .ltv) (by decide) h₁] at hvalues
  have hthreshold : getLiquidationThreshold c' = input.liquidationThreshold :=
    congrFun hvalues .liquidationThreshold
  have hauction : getAuctionDuration c' = input.auctionDuration :=
    congrFun hvalues .auctionDuration
  refine ⟨⟨?_, ?_⟩, ?_, ?_⟩
  · rw [hthreshold, show getLtv c' = input.ltv from congrFun hvalues .ltv]
    exact Nat.le_of_lt hltv
  · rw [show getLiquidationBonus c' = _ from congrFun hvalues .liquidationBonus]
    exact validateBonus_lt hbonus
  · unfold DurationsSound
    rw [hauction, show getRedeemDuration c' = _ from congrFun hvalues .redeemDuration]
    exact hdurations
  · rw [getActive_eq, hvalues]
    rfl

/-- **`configureNftAsAuction` packs sound durations**, and leaves the other parameters alone. -/
theorem packAuction_sound {redeemDuration auctionDuration redeemFine : ℕ} {c c' : BitVec 256}
    (h : packAuction redeemDuration auctionDuration redeemFine c = .ok c') :
    (CollateralSound c → CollateralSound c') ∧ DurationsSound c' ∧ getActive c' = getActive c := by
  obtain ⟨hdurations, h⟩ := require_bind_eq_ok.mp h
  obtain ⟨c₁, h₁, h⟩ := bind_eq_ok.mp h
  obtain ⟨c₂, h₂, h⟩ := bind_eq_ok.mp h
  have hvalues := setField_values (p := .redeemFine) (by decide) h
  rw [setField_values (p := .auctionDuration) (by decide) h₂,
    setField_values (p := .redeemDuration) (by decide) h₁] at hvalues
  refine ⟨fun hc => ⟨?_, ?_⟩, ?_, ?_⟩
  · rw [show getLtv c' = getLtv c from congrFun hvalues .ltv,
      show getLiquidationThreshold c' = getLiquidationThreshold c from
        congrFun hvalues .liquidationThreshold]
    exact hc.ltv_le
  · rw [show getLiquidationBonus c' = getLiquidationBonus c from
      congrFun hvalues .liquidationBonus]
    exact hc.bonus_lt
  · unfold DurationsSound
    rw [show getRedeemDuration c' = _ from congrFun hvalues .redeemDuration,
      show getAuctionDuration c' = _ from congrFun hvalues .auctionDuration]
    exact hdurations
  · rw [getActive_eq, getActive_eq, show nftLayout.values c' .active = nftLayout.values c .active
      from congrFun hvalues .active]

/-- **`batchConfigNft` packs sound collateral parameters**, activates the token, and takes the
durations as they come. -/
theorem ConfigNftInput.pack_sound {input : ConfigNftInput} {c c' : BitVec 256}
    (h : input.pack c = .ok c') :
    CollateralSound c' ∧ getRedeemDuration c' = input.redeemDuration ∧
      getAuctionDuration c' = input.auctionDuration ∧ getActive c' = true := by
  obtain ⟨hltv, h⟩ := require_bind_eq_ok.mp h
  obtain ⟨_, hbonus, h⟩ := bind_eq_ok.mp h
  obtain ⟨c₁, h₁, h⟩ := bind_eq_ok.mp h
  obtain ⟨c₂, h₂, h⟩ := bind_eq_ok.mp h
  obtain ⟨c₃, h₃, h⟩ := bind_eq_ok.mp h
  obtain ⟨c₄, h₄, h⟩ := bind_eq_ok.mp h
  obtain ⟨c₅, h₅, h⟩ := bind_eq_ok.mp h
  obtain ⟨c₆, h₆, h⟩ := bind_eq_ok.mp h
  obtain ⟨c₇, h₇, h⟩ := bind_eq_ok.mp h
  have hvalues := setField_values (p := .minBidFine) (by decide) h
  rw [setField_values (p := .redeemThreshold) (by decide) h₇,
    setField_values (p := .redeemFine) (by decide) h₆,
    setField_values (p := .auctionDuration) (by decide) h₅,
    setField_values (p := .redeemDuration) (by decide) h₄,
    setField_values (p := .liquidationBonus) (by decide) h₃,
    setField_values (p := .liquidationThreshold) (by decide) h₂,
    setField_values (p := .ltv) (by decide) h₁, setFrozen_values, setActive_values] at hvalues
  have hthreshold : getLiquidationThreshold c' = input.liquidationThreshold :=
    congrFun hvalues .liquidationThreshold
  refine ⟨⟨?_, ?_⟩, congrFun hvalues .redeemDuration, congrFun hvalues .auctionDuration, ?_⟩
  · rw [hthreshold, show getLtv c' = input.baseLTV from congrFun hvalues .ltv]
    exact hltv
  · rw [show getLiquidationBonus c' = _ from congrFun hvalues .liquidationBonus]
    exact validateBonus_lt hbonus
  · rw [getActive_eq, hvalues]
    rfl

/-! ## What operations do to words -/

section Words

variable {D : Deployment} {s s' : State}

/-- No word of a token has changed, and no collection was deactivated. -/
structure WordsKept (s s' : State) : Prop where
  tokens : s'.lendPool.nftConfig = s.lendPool.nftConfig
  collections : ∀ a, getActive (s.lendPool.nfts a).configuration = true →
    getActive (s'.lendPool.nfts a).configuration = true

theorem WordsKept.ofEq (ht : s'.lendPool.nftConfig = s.lendPool.nftConfig)
    (hn : s'.lendPool.nfts = s.lendPool.nfts) : WordsKept s s' := by
  refine ⟨ht, fun a ha => ?_⟩
  rw [hn]
  exact ha

theorem configure_words {setting : Setting D}
    (packed : (Action.configure setting).writesWord = false) :
    Returns (s.configure D setting) (WordsKept s) := by
  cases setting with
  | setNftConfiguration => cases packed
  | setNftConfigByTokenId => cases packed
  | initNft asset uNft proxy =>
    refine Returns.check fun _ => Returns.check fun _ => ⟨rfl, fun a ha => ?_⟩
    by_cases heq : a = asset
    · subst heq
      simp only [State.setNft, State.setPool, Function.update_self]
      rw [getActive_eq, setFrozen_values, setActive_values]
      rfl
    · simp only [State.setNft, State.setPool, Function.update_of_ne heq]
      exact ha
  | initReserve =>
    exact Returns.check fun _ => Returns.step fun _ _ => Returns.step fun _ _ => .ofEq rfl rfl
  | setActiveFlagOnReserve asset flag =>
    refine Sat.ite (fun _ => Returns.step fun _ _ => ?_) fun _ => ?_
    · exact Returns.step fun _ _ => .ofEq rfl rfl
    · exact Returns.step fun _ _ => .ofEq rfl rfl
  | setPoolPause val =>
    change WordsKept s (s.setPause val)
    unfold State.setPause
    split_ifs <;> exact .ofEq rfl rfl
  | setBorrowingFlagOnReserve => exact Returns.step fun _ _ => .ofEq rfl rfl
  | setFreezeFlagOnReserve => exact Returns.step fun _ _ => .ofEq rfl rfl
  | setReserveFactor => exact Returns.step fun _ _ => .ofEq rfl rfl
  | configInterestRate => exact Returns.step fun _ _ => .ofEq rfl rfl
  | setReserveInterestRateAddress => exact Returns.check fun _ => .ofEq rfl rfl
  | setTreasuryAddress => exact Returns.check fun _ => .ofEq rfl rfl
  | updateSafeHealthFactor => exact Returns.check fun _ => .ofEq rfl rfl
  | updateUTokenManagers => exact Returns.check fun _ => .ofEq rfl rfl
  | updateTokenManagers => exact Returns.check fun _ => .ofEq rfl rfl
  | updateMarketAdapters => exact Returns.check fun _ => .ofEq rfl rfl
  | updateLiquidators => exact Returns.check fun _ => .ofEq rfl rfl
  | updateModules => exact Returns.check fun _ => .ofEq rfl rfl
  | setDeltaBidPercent => exact Returns.check fun _ => .ofEq rfl rfl
  | setAuthorizedAddress => exact Returns.check fun _ => .ofEq rfl rfl
  | _ => exact .ofEq rfl rfl

/-- **Every other action.** -/
theorem execute_words (h : Books D s) {a : Action D} (packed : a.writesWord = false) :
    Returns (s.execute D a) (WordsKept s) := by
  cases a with
  | call sender outside c =>
    refine (perform_keepsSettings h c).imp fun s' hs' => ?_
    have hpool := hs'.pool
    unfold State.OnlyReserves at hpool
    exact .ofEq (by rw [hpool]) (by rw [hpool])
  | configure setting => exact configure_words packed
  | event e =>
    cases e with
    | mintNft asset dst tokenId =>
      change WordsKept s (s.happen _)
      unfold State.happen
      dsimp only
      split <;> exact .ofEq rfl rfl
    | _ => exact WordsKept.ofEq rfl rfl

/-- The word of a token as another is configured. -/
theorem configureToken_word {asset : Address} {tokenId : ℕ}
    {change : BitVec 256 → Except Error (BitVec 256)} (asset' : Address) (tokenId' : ℕ) :
    Returns (s.configureToken D asset tokenId change) (fun s' => ∃ c,
      change (s.lendPool.nftConfig asset tokenId) = .ok c ∧
      s'.lendPool.nftConfig asset' tokenId' = if asset' = asset ∧ tokenId' = tokenId then c
        else s.lendPool.nftConfig asset' tokenId') :=
  Returns.step fun c hc => ⟨c, hc, update₂_apply _ _ _ _ _ _⟩

/-- What a change of words keeps, holds of the word of any token afterwards. -/
theorem configureToken_keeps {asset asset' : Address} {tokenId tokenId' : ℕ}
    {change : BitVec 256 → Except Error (BitVec 256)} {P : BitVec 256 → Prop}
    (hP : ∀ c c', change c = .ok c' → P c → P c') (hs : P (s.lendPool.nftConfig asset' tokenId')) :
    Returns (s.configureToken D asset tokenId change)
      (fun s' => P (s'.lendPool.nftConfig asset' tokenId')) := by
  refine (configureToken_word asset' tokenId').imp fun s' hs' => ?_
  obtain ⟨c, hc, hword⟩ := hs'
  rw [hword]
  split
  · rename_i heq
    rw [heq.1, heq.2] at hs
    exact hP _ _ hc hs
  · exact hs

theorem configureTokens_keeps {asset : Address} {tokenId : ℕ} {tokens : List (Address × ℕ)}
    {change : BitVec 256 → BitVec 256} {P : BitVec 256 → Prop} (hP : ∀ c, P c → P (change c))
    (hs : P (s.lendPool.nftConfig asset tokenId)) :
    Returns (s.configureTokens D tokens change)
      (fun s' => P (s'.lendPool.nftConfig asset tokenId)) := by
  refine Returns.foldlM (P := fun s' : State => P (s'.lendPool.nftConfig asset tokenId))
    (fun token _ t ht => configureToken_keeps (fun c c' hc hPc => ?_) ht) hs
  obtain rfl := Except.ok.inj hc
  exact hP c hPc

/-- The word of any token after `configureNftsAsCollateral`. -/
theorem configureNftsAsCollateral_keeps {asset : Address} {tokenId : ℕ} {oracle : NFTOracle}
    {collateralData : List ConfigNftAsCollateralInput} {P : BitVec 256 → Prop}
    (hP : ∀ c, CollateralSound c → DurationsSound c → getActive c = true → P c)
    (hs : P (s.lendPool.nftConfig asset tokenId)) :
    Returns (s.configureNftsAsCollateral D oracle collateralData)
      (fun s' => P (s'.lendPool.nftConfig asset tokenId)) := by
  refine Returns.check fun _ => Returns.foldlM
    (P := fun s' : State => P (s'.lendPool.nftConfig asset tokenId)) (fun input _ t ht => ?_) hs
  refine Sat.bind (configureToken_keeps (fun c c' hc _ => ?_) ht) fun t' ht' => ?_
  · obtain ⟨hsound, hdurations, hactive⟩ := ConfigNftAsCollateralInput.pack_sound hc
    exact hP c' hsound hdurations hactive
  · exact Returns.check fun _ => Returns.check fun _ => Returns.check fun _ => ht'

/-- A property of words that is kept however the word of a token is written, leaving aside a batch
and the flag that says whether the token is active. -/
structure KeptByWrites (P : BitVec 256 → Prop) : Prop where
  collateral : ∀ c, CollateralSound c → DurationsSound c → getActive c = true → P c
  auction : ∀ redeemDuration auctionDuration redeemFine c c',
    packAuction redeemDuration auctionDuration redeemFine c = .ok c' → P c → P c'
  frozen : ∀ flag c, P c → P (setFrozen flag c)
  redeemThreshold : ∀ threshold c c', setRedeemThreshold threshold c = .ok c' → P c → P c'
  minBidFine : ∀ minBidFine c c', setMinBidFine minBidFine c = .ok c' → P c → P c'

/-- **What every operation keeps of the word of a token**, if the batch and the flag keep it. -/
theorem operate_keeps {P : BitVec 256 → Prop} (hP : KeptByWrites P) (h : Books D s)
    (o : Operation D) {asset : Address} {tokenId : ℕ} (hs : P (s.lendPool.nftConfig asset tokenId))
    (hbatch : ∀ inputs, o = .batchConfigNft inputs →
      Returns (s.batchConfigNft D inputs) fun s' => P (s'.lendPool.nftConfig asset tokenId))
    (hactive : ∀ assets tokenIds flag, o = .setActiveFlagOnNftByTokenId assets tokenIds flag →
      Returns (s.configureTokens D (assets.zip tokenIds) (setActive flag))
        fun s' => P (s'.lendPool.nftConfig asset tokenId)) :
    Returns (s.operate D o) (fun s' => P (s'.lendPool.nftConfig asset tokenId)) := by
  cases o with
  | action a packed =>
    refine (execute_words h packed).imp fun s' hs' => ?_
    rw [hs'.tokens]
    exact hs
  | configureNftsAsCollateral oracle collateralData =>
    exact configureNftsAsCollateral_keeps hP.collateral hs
  | configureNftAsAuction => exact configureToken_keeps (hP.auction _ _ _) hs
  | batchConfigNft inputs => exact hbatch inputs rfl
  | setActiveFlagOnNft asset' flag =>
    refine Sat.ite (fun _ => Returns.step fun _ _ => ?_) fun _ => ?_
    · exact hs
    · exact hs
  | setFreezeFlagOnNft => exact hs
  | setActiveFlagOnNftByTokenId assets tokenIds flag =>
    exact Returns.check fun _ => hactive assets tokenIds flag rfl
  | setFreezeFlagOnNftByTokenId assets tokenIds flag =>
    exact Returns.check fun _ => configureTokens_keeps (hP.frozen flag) hs
  | setNftRedeemThreshold => exact configureToken_keeps (hP.redeemThreshold _) hs
  | setNftMinBidFine => exact configureToken_keeps (hP.minBidFine _) hs

/-! ## Collateral parameters -/

theorem keptByWrites_collateralSound : KeptByWrites CollateralSound where
  collateral _ hsound _ _ := hsound
  auction _ _ _ _ _ hc := (packAuction_sound hc).1
  frozen flag c := (SameParameters.setFrozen flag c).collateral
  redeemThreshold _ _ _ hc := (SameParameters.setRedeemThreshold hc).collateral
  minBidFine _ _ _ hc := (SameParameters.setMinBidFine hc).collateral

/-- **Every operation keeps the collateral parameters of every token sound.** -/
theorem operate_collateral (h : Books D s) (o : Operation D) {asset : Address} {tokenId : ℕ}
    (hs : CollateralSound (s.lendPool.nftConfig asset tokenId)) :
    Returns (s.operate D o) (fun s' => CollateralSound (s'.lendPool.nftConfig asset tokenId)) := by
  refine operate_keeps keptByWrites_collateralSound h o hs ?_ ?_
  · intro inputs _
    refine Returns.foldlM
      (P := fun s' : State => CollateralSound (s'.lendPool.nftConfig asset tokenId))
      (fun input _ t ht => ?_) hs
    exact configureToken_keeps (fun _ _ hc _ => (ConfigNftInput.pack_sound hc).1) ht
  · intro assets tokenIds flag _
    exact configureTokens_keeps (fun c hc => (SameParameters.setActive flag c).collateral hc) hs

/-! ## Durations -/

/-- The last input of a batch for a token. -/
def ConfigNftInput.last (inputs : List ConfigNftInput) (asset : Address) (tokenId : ℕ) :
    Option ConfigNftInput :=
  inputs.reverse.find? fun input => input.asset = asset ∧ input.tokenId = tokenId

/-- Whether a batch leaves no token with a period to redeem that is longer than its auction. -/
def Operation.OrdersDurations : Operation D → Prop
  | .batchConfigNft inputs => ∀ asset tokenId input,
      ConfigNftInput.last inputs asset tokenId = some input →
      input.redeemDuration ≤ input.auctionDuration
  | _ => True

/-- The durations of a token after a batch are those of its last input. -/
theorem batchConfigNft_durations (inputs : List ConfigNftInput) (asset : Address) (tokenId : ℕ) :
    Returns (s.batchConfigNft D inputs) (fun s' =>
      match ConfigNftInput.last inputs asset tokenId with
      | some input =>
          getRedeemDuration (s'.lendPool.nftConfig asset tokenId) = input.redeemDuration ∧
          getAuctionDuration (s'.lendPool.nftConfig asset tokenId) = input.auctionDuration
      | none => s'.lendPool.nftConfig asset tokenId = s.lendPool.nftConfig asset tokenId) := by
  unfold State.batchConfigNft ConfigNftInput.last
  induction inputs generalizing s with
  | nil => exact rfl
  | cons first rest ih =>
    rw [List.foldlM_cons, List.reverse_cons, List.find?_append]
    refine Sat.bind (configureToken_word asset tokenId) fun t ht => ih.imp fun s' hs' => ?_
    obtain ⟨c, hc, hword⟩ := ht
    cases hlast : rest.reverse.find? fun input => input.asset = asset ∧ input.tokenId = tokenId with
    | some input =>
      rw [hlast] at hs'
      exact hs'
    | none =>
      -- no later input names the token, and so the first counts if it does
      rw [hlast] at hs'
      dsimp only at hs'
      rw [hs', hword]
      by_cases hkey : first.asset = asset ∧ first.tokenId = tokenId
      · rw [if_pos ⟨hkey.1.symm, hkey.2.symm⟩, List.find?_singleton, if_pos (by simpa using hkey)]
        obtain ⟨-, hredeem, hauction, -⟩ := ConfigNftInput.pack_sound hc
        exact ⟨hredeem, hauction⟩
      · rw [if_neg fun heq => hkey ⟨heq.1.symm, heq.2.symm⟩, List.find?_singleton,
          if_neg (by simpa using hkey)]
        rfl

theorem keptByWrites_durationsSound : KeptByWrites DurationsSound where
  collateral _ _ hdurations _ := hdurations
  auction _ _ _ _ _ hc _ := (packAuction_sound hc).2.1
  frozen flag c := (SameParameters.setFrozen flag c).durations
  redeemThreshold _ _ _ hc := (SameParameters.setRedeemThreshold hc).durations
  minBidFine _ _ _ hc := (SameParameters.setMinBidFine hc).durations

/-- **Every operation** keeps the durations of every token sound just where it orders them. -/
theorem operate_durations (h : Books D s) (o : Operation D)
    (hs : ∀ asset tokenId, DurationsSound (s.lendPool.nftConfig asset tokenId)) :
    Returns (s.operate D o) (fun s' =>
      (∀ asset tokenId, DurationsSound (s'.lendPool.nftConfig asset tokenId)) ↔
        o.OrdersDurations) := by
  have kept : ∀ {x : Except Error State} {o : Operation D}, o.OrdersDurations →
      (∀ asset tokenId, Returns x fun s' =>
        DurationsSound (s'.lendPool.nftConfig asset tokenId)) →
      Returns x (fun s' => (∀ asset tokenId, DurationsSound (s'.lendPool.nftConfig asset tokenId)) ↔
        o.OrdersDurations) := by
    intro x o ho hx
    refine (Sat.returned x).returns.imp fun s' hok => ?_
    exact ⟨fun _ => ho, fun _ asset tokenId => (hx asset tokenId).ok hok⟩
  cases o with
  | batchConfigNft inputs =>
    refine (Sat.returned _).returns.imp fun s' hok => ?_
    have hwords := fun asset tokenId => (batchConfigNft_durations inputs asset tokenId).ok hok
    constructor
    · intro hsound asset tokenId input hlast
      have hword := hwords asset tokenId
      rw [hlast] at hword
      have hle := hsound asset tokenId
      unfold DurationsSound at hle
      rw [hword.1, hword.2] at hle
      exact hle
    · intro horders asset tokenId
      have hword := hwords asset tokenId
      cases hlast : ConfigNftInput.last inputs asset tokenId with
      | some input =>
        rw [hlast] at hword
        unfold DurationsSound
        rw [hword.1, hword.2]
        exact horders asset tokenId input hlast
      | none =>
        rw [hlast] at hword
        dsimp only at hword
        rw [hword]
        exact hs asset tokenId
  | _ =>
    refine kept trivial fun asset tokenId =>
      operate_keeps keptByWrites_durationsSound h _ (hs asset tokenId) (fun _ ho => nomatch ho) ?_
    intro assets tokenIds flag _
    exact configureTokens_keeps (fun c hc => (SameParameters.setActive flag c).durations hc)
      (hs asset tokenId)

/-! ## Redemption and liquidation -/

/-- Whatever is sent, a loan can not be both redeemed and liquidated now. -/
def Exclusive (D : Deployment) (s : State) : Prop :=
  ∀ nftAsset nftTokenId sender amount bidFine s₁ sender' amount' s₂,
    s.perform D sender (.redeem nftAsset nftTokenId amount bidFine) = .ok s₁ →
    s.perform D sender' (.liquidate nftAsset nftTokenId amount') = .ok s₂ → False

/-- **Sound durations keep redemption and liquidation apart**, however long the pool was paused. -/
theorem exclusive_of_durationsSound
    (hs : ∀ asset tokenId, DurationsSound (s.lendPool.nftConfig asset tokenId)) :
    Exclusive D s := by
  intro nftAsset nftTokenId sender amount bidFine s₁ sender' amount' s₂ hredeem hliquidate
  have hend := redeem_in_time.ok hredeem
  have hstart := liquidate_in_time.ok hliquidate
  have hle := hs (s.loanOn nftAsset nftTokenId).nftAsset (s.loanOn nftAsset nftTokenId).nftTokenId
  unfold DurationsSound at hle
  -- both ends count from the first bid, and are extended alike
  unfold State.redeemEndTimestamp at hend
  unfold State.auctionEndTimestamp at hstart
  omega

variable {s₀ : State} {log : List (Entry State (Operation D))}

/-- **The parameters of tokens stay sound, but for the durations.** In any run of operations on a
fresh deployment, the loan-to-value of every token stays within its liquidation threshold and its
bonus below 100%. That its period to redeem stays within its auction, so that no loan can be both
redeemed and liquidated at a time, holds after every operation just where every batch orders the
durations. -/
theorem parameters_stay_sound (g : Genesis D s₀)
    (hunset : ∀ asset tokenId, s₀.lendPool.nftConfig asset tokenId = 0)
    (h : History (Operated D) s₀ log s) :
    (∀ e ∈ log, ∀ asset tokenId,
      CollateralSound (e.after.lendPool.nftConfig asset tokenId)) ∧
    ((∀ e ∈ log, (∀ asset tokenId, DurationsSound (e.after.lendPool.nftConfig asset tokenId)) ∧
        Exclusive D e.after) ↔
      ∀ e ∈ log, e.action.OrdersDurations) := by
  constructor
  · have hzero : ∀ asset tokenId, CollateralSound (s₀.lendPool.nftConfig asset tokenId) := by
      intro asset tokenId
      rw [hunset]
      exact ⟨by decide, by decide⟩
    have hiff := History.always_iff (P := fun s : State => ∀ asset tokenId,
      CollateralSound (s.lendPool.nftConfig asset tokenId)) (Q := fun _ => True) hzero ?_ h
    · exact hiff.mpr fun _ _ => trivial
    · intro log s o s' hlog hs hst
      refine iff_of_true (fun asset tokenId => ?_) trivial
      exact (operate_collateral (g.operated hlog).books o (hs asset tokenId)).ok hst
  · have hzero : ∀ asset tokenId, DurationsSound (s₀.lendPool.nftConfig asset tokenId) := by
      intro asset tokenId
      rw [hunset]
      decide
    have hiff : (∀ e ∈ log, ∀ asset tokenId,
        DurationsSound (e.after.lendPool.nftConfig asset tokenId)) ↔
          ∀ e ∈ log, e.action.OrdersDurations := by
      refine History.always_iff (P := fun s : State => ∀ asset tokenId,
        DurationsSound (s.lendPool.nftConfig asset tokenId))
        (Q := fun e : Entry State (Operation D) => e.action.OrdersDurations) hzero ?_ h
      intro log s o s' hlog hs hst
      exact (operate_durations (g.operated hlog).books o hs).ok hst
    rw [← hiff]
    constructor
    · intro hall e he
      exact (hall e he).1
    · intro hall e he
      exact ⟨hall e he, exclusive_of_durationsSound (hall e he)⟩

end Words

/-! ## A batch -/

/-- The batch of the small deployment orders the durations if its input does. -/
theorem sampleLoan_ordersDurations {redeemDuration auctionDuration : ℕ}
    (hle : redeemDuration ≤ auctionDuration) :
    ∀ o ∈ sampleLoan redeemDuration auctionDuration, o.OrdersDurations := by
  intro o ho
  rcases List.mem_append.mp ho with ho | ho
  · rcases List.mem_append.mp ho with ho | ho
    · obtain ⟨a, packed, rfl⟩ := exists_action_of_mem_operations ho
      trivial
    · obtain rfl := List.mem_singleton.mp ho
      intro asset tokenId input hlast
      have hmem := List.mem_of_find?_eq_some hlast
      rw [List.reverse_singleton] at hmem
      obtain rfl := List.mem_singleton.mp hmem
      exact hle
  · obtain ⟨a, packed, rfl⟩ := exists_action_of_mem_operations ho
    trivial

/-- In the small deployment, with a day to redeem and two for the auction, all parameters are
sound. -/
theorem parameters_stay_sound_sample : ∃ log,
    History (Operated .sample) (State.sample .weth9) log
      ((State.sample .weth9).operated .sample (sampleLoan 1440 2880)) ∧
    log.length = 13 ∧
    ∀ e ∈ log, ∀ asset tokenId,
      CollateralSound (e.after.lendPool.nftConfig asset tokenId) ∧
      DurationsSound (e.after.lendPool.nftConfig asset tokenId) := by
  have hok : raised ((sampleLoan 1440 2880).foldlM (State.operate .sample) (State.sample .weth9))
      = none := by decide +kernel
  obtain ⟨log, hlog, hactions⟩ := State.operated_history hok
  obtain ⟨hcollateral, hiff⟩ := parameters_stay_sound (State.sample_genesis .weth9)
    (fun _ _ => rfl) hlog
  have hlength : log.length = 13 := by
    rw [← List.length_map, hactions]
    decide +kernel
  refine ⟨log, hlog, hlength, fun e he asset tokenId => ⟨hcollateral e he asset tokenId, ?_⟩⟩
  refine (hiff.mpr (fun e he => ?_) e he).1 asset tokenId
  have hmem : e.action ∈ log.map Entry.action := List.mem_map_of_mem he
  rw [hactions, List.mem_reverse] at hmem
  exact sampleLoan_ordersDurations (by decide) e.action hmem

/-- The loan goes into auction, and time passes until it can be liquidated. -/
def sampleOverlap : List (Operation .sample) :=
  sampleLoan 2880 1440 ++ operations (sampleAuction ++ [Action.event (.tick 87601)])

/-- **A batch can break the order.** It gives a token two days to redeem and a day for the auction.
A day and twenty minutes after the first bid, its loan can be redeemed as well as liquidated. -/
theorem batch_can_disorder_durations : ∃ log s,
    Genesis .sample (State.sample .weth9) ∧
    (∀ asset tokenId, (State.sample .weth9).lendPool.nftConfig asset tokenId = 0) ∧
    History (Operated .sample) (State.sample .weth9) log s ∧
    .batchConfigNft [sampleCollateral 2880 1440] ∈ log.map Entry.action ∧
    ¬ DurationsSound (s.lendPool.nftConfig 40 7) ∧
    (s.lendPoolLoan.loans 1).state = .Auction ∧
    raised (s.perform .sample 100 (.redeem 40 7 (18 * WAD) (20 * WAD))) = none ∧
    raised (s.perform .sample 103 (.liquidate 40 7 0)) = none := by
  have hok : raised (sampleOverlap.foldlM (State.operate .sample)
    (State.sample .weth9)) = none := by
    decide +kernel
  obtain ⟨log, hlog, hactions⟩ := State.operated_history hok
  refine ⟨log, _, State.sample_genesis .weth9, fun _ _ => rfl, hlog, ?_, ?_⟩
  · rw [hactions, List.mem_reverse]
    unfold sampleOverlap sampleLoan
    simp
  · decide +kernel

end Unlockd

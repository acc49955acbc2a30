/-
`configureNftsAsCollateral` of `LendPoolConfigurator.sol`: the loop of the batch.

The batch configures one token after the other, and whether an entry passes depends on the entry,
on the oracle and on the time, not on what was configured before. So a batch whose entries all pass
is configured as a whole, each entry once and in order, if only the loop ends. Its counter has
eight bits, while an array can be of any length: up to 255 entries the loop ends after the last of
them, and from 256 on it starts again at the first and runs until the gas is used up.
-/
import Unlockd.LendPoolConfigurator
import Unlockd.Lib.Loop

set_option autoImplicit false

namespace Unlockd

open Outcome Loop NftConfiguration

/-! ## The loop -/

namespace State

variable (D : Deployment) (s : State)

/-- The loop of `configureNftsAsCollateral` with its counter of eight bits, as far as the gas goes;
each round takes at least one unit of it. -/
def configureNftsAsCollateralLoop (oracle : NFTOracle)
    (collateralData : List ConfigNftAsCollateralInput) (gas : ℕ) : Option (Except Error State) :=
  counting (2 ^ 8) collateralData.length (fun i s =>
    Loop.read Error.indexOutOfBounds collateralData i >>= s._configureNftAsCollateral D oracle)
    gas 0 s

end State

/-! ## What an entry has to pass -/

/-- The checks that are made of an entry: those of the configurator, the ranges of the fields, and
those of the oracle on the price. -/
structure ConfigNftAsCollateralInput.Passes (oracle : NFTOracle) (blockTimestamp : ℕ)
    (d : ConfigNftAsCollateralInput) : Prop where
  ltv : d.ltv < d.liquidationThreshold
  liquidationThreshold : d.liquidationThreshold ≤ MAX_VALID_LIQUIDATION_THRESHOLD
  liquidationBonus : d.liquidationBonus < PERCENTAGE_FACTOR
  redeemThreshold : d.redeemThreshold ≤ MAX_VALID_REDEEM_THRESHOLD
  durations : d.redeemDuration ≤ d.auctionDuration
  auctionDuration : d.auctionDuration ≤ MAX_VALID_AUCTION_DURATION
  redeemFine : d.redeemFine ≤ MAX_VALID_REDEEM_FINE
  minBidFine : d.minBidFine ≤ MAX_VALID_MIN_BIDFINE
  configTimestamp : blockTimestamp ≤ MAX_VALID_CONFIG_TIMESTAMP
  collection : oracle.collections d.asset = true
  notPaused : oracle.collectionPaused d.asset = false
  newPrice : d.newPrice ≠ 0

theorem exists_setField {mask : BitVec 256} {start maxValid value : ℕ} {err : Error}
    (h : value ≤ maxValid) (c : BitVec 256) :
    ∃ c', setField mask start maxValid err value c = .ok c' :=
  ⟨_, require_bind_eq_ok.mpr ⟨h, rfl⟩⟩

theorem setField_le {mask : BitVec 256} {start maxValid value : ℕ} {err : Error}
    {c c' : BitVec 256} (h : setField mask start maxValid err value c = .ok c') :
    value ≤ maxValid := (require_bind_eq_ok.mp h).1

namespace ConfigNftAsCollateralInput

variable {d : ConfigNftAsCollateralInput} {oracle : NFTOracle} {now : ℕ}

/-- An entry that passes is packed into any word. -/
theorem Passes.pack (h : d.Passes oracle now) (c : BitVec 256) : ∃ c', d.pack now c = .ok c' := by
  have hltv : d.ltv ≤ NftConfiguration.MAX_VALID_LTV := h.ltv.le.trans h.liquidationThreshold
  have hbonus : d.liquidationBonus ≤ NftConfiguration.MAX_VALID_LIQUIDATION_BONUS :=
    h.liquidationBonus.le.trans (by decide)
  have hredeem : d.redeemDuration ≤ MAX_VALID_REDEEM_DURATION :=
    h.durations.trans h.auctionDuration
  have hvalid : validateBonus d.liquidationThreshold d.liquidationBonus = .ok ⟨⟩ := by
    rw [validateBonus, if_pos (Nat.ne_of_gt (Nat.zero_lt_of_lt h.ltv))]
    exact require_of h.liquidationBonus
  unfold ConfigNftAsCollateralInput.pack
  rw [require_of h.ltv, ok_bind, hvalid, ok_bind]
  obtain ⟨c₁, h₁⟩ := exists_setField hltv c
  rw [NftConfiguration.setLtv, h₁, ok_bind]
  obtain ⟨c₂, h₂⟩ := exists_setField h.liquidationThreshold c₁
  rw [NftConfiguration.setLiquidationThreshold, h₂, ok_bind]
  obtain ⟨c₃, h₃⟩ := exists_setField h.redeemThreshold c₂
  rw [setRedeemThreshold, h₃, ok_bind]
  obtain ⟨c₄, h₄⟩ := exists_setField hbonus c₃
  rw [NftConfiguration.setLiquidationBonus, h₄, ok_bind]
  dsimp only
  rw [require_of h.durations, ok_bind]
  obtain ⟨c₅, h₅⟩ := exists_setField hredeem (setFrozen false (setActive true c₄))
  rw [setRedeemDuration, h₅, ok_bind]
  obtain ⟨c₆, h₆⟩ := exists_setField h.auctionDuration c₅
  rw [setAuctionDuration, h₆, ok_bind]
  obtain ⟨c₇, h₇⟩ := exists_setField h.redeemFine c₆
  rw [setRedeemFine, h₇, ok_bind]
  obtain ⟨c₈, h₈⟩ := exists_setField h.minBidFine c₇
  rw [setMinBidFine, h₈, ok_bind]
  exact exists_setField h.configTimestamp c₈

/-- And what is packed has passed. -/
theorem Passes.of_pack {c c' : BitVec 256} (hpack : d.pack now c = .ok c')
    (hcollection : oracle.collections d.asset = true)
    (hpaused : oracle.collectionPaused d.asset = false) (hprice : d.newPrice ≠ 0) :
    d.Passes oracle now := by
  refine Sat.ok (Q := fun _ => d.Passes oracle now) (E := fun _ => True) ?_ hpack
  refine Returns.check fun hltv => Returns.step fun _ hvalid => ?_
  rw [validateBonus, if_pos (Nat.ne_of_gt (Nat.zero_lt_of_lt hltv)), require_eq_ok] at hvalid
  refine Returns.step fun _ _ => Returns.step fun _ hthreshold => Returns.step fun _ hredeem => ?_
  refine Returns.step fun _ _ => Returns.check fun hdurations => Returns.step fun _ _ => ?_
  refine Returns.step fun _ hauction => Returns.step fun _ hfine => Returns.step fun _ hmin => ?_
  refine (Sat.returned _).imp fun _ hstamp => ?_
  exact ⟨hltv, setField_le hthreshold, hvalid, setField_le hredeem, hdurations,
    setField_le hauction, setField_le hfine, setField_le hmin, setField_le hstamp, hcollection,
    hpaused, hprice⟩

end ConfigNftAsCollateralInput

section Batch

variable {D : Deployment} {s : State} {oracle : NFTOracle}

/-- **An entry is configured just when it passes**, and what is configured before does not matter:
the time stays what it is. -/
theorem _configureNftAsCollateral_passes (d : ConfigNftAsCollateralInput) :
    (∃ s', s._configureNftAsCollateral D oracle d = .ok s') ↔ d.Passes oracle s.blockTimestamp := by
  constructor
  · rintro ⟨s', hs'⟩
    obtain ⟨t, ht, hprice⟩ := bind_eq_ok.mp hs'
    obtain ⟨c, hc, -⟩ := bind_eq_ok.mp ht
    obtain ⟨hcollection, hprice⟩ := require_bind_eq_ok.mp hprice
    obtain ⟨hpaused, hprice⟩ := require_bind_eq_ok.mp hprice
    obtain ⟨hpositive, -⟩ := require_bind_eq_ok.mp hprice
    exact .of_pack hc hcollection hpaused hpositive
  · intro h
    obtain ⟨c, hc⟩ := h.pack (s.lendPool.nftConfig d.asset d.nftTokenId)
    rw [State._configureNftAsCollateral, State.configureToken, hc, ok_bind]
    change ∃ s', State.setNFTPrice D _ oracle d.asset d.nftTokenId d.newPrice = .ok s'
    rw [State.setNFTPrice, require_of h.collection, ok_bind, require_of h.notPaused, ok_bind,
      require_of h.newPrice, ok_bind]
    exact ⟨_, rfl⟩

/-- Configuring a token takes no time. -/
theorem _configureNftAsCollateral_blockTimestamp {d : ConfigNftAsCollateralInput} :
    Returns (s._configureNftAsCollateral D oracle d)
      (fun s' => s'.blockTimestamp = s.blockTimestamp) := by
  refine Returns.step fun t ht => ?_
  obtain ⟨c, -, hword⟩ := bind_eq_ok.mp ht
  obtain rfl := Except.ok.inj hword
  exact Returns.check fun _ => Returns.check fun _ => Returns.check fun _ => rfl

/-- One round of the loop. -/
theorem configure_round {data : List ConfigNftAsCollateralInput} {t : State} {now : ℕ}
    (hpasses : ∀ d ∈ data, d.Passes oracle now) (ht : t.blockTimestamp = now) {i : ℕ}
    (hi : i < data.length) : ∃ t', (Loop.read Error.indexOutOfBounds data i >>=
      t._configureNftAsCollateral D oracle) = .ok t' ∧ t'.blockTimestamp = now := by
  have hread : Loop.read Error.indexOutOfBounds data i = .ok data[i] :=
    read_eq_ok.mpr (List.getElem?_eq_getElem hi)
  have hentry : data[i].Passes oracle t.blockTimestamp := by
    rw [ht]
    exact hpasses _ (List.getElem_mem hi)
  obtain ⟨t', ht'⟩ := (_configureNftAsCollateral_passes (D := D) data[i]).mpr hentry
  refine ⟨t', ?_, (_configureNftAsCollateral_blockTimestamp.ok ht').trans ht⟩
  rw [hread, ok_bind]
  exact ht'

/-- A batch of entries that pass goes through as a whole. -/
theorem configure_all {data : List ConfigNftAsCollateralInput}
    (hpasses : ∀ d ∈ data, d.Passes oracle s.blockTimestamp) :
    ∃ s', data.foldlM (fun s d => s._configureNftAsCollateral D oracle d) s = .ok s' := by
  have hrounds : Sat (forLoop data.length (fun i s => Loop.read Error.indexOutOfBounds data i >>=
      s._configureNftAsCollateral D oracle) s) (fun t => t.blockTimestamp = s.blockTimestamp)
      (fun _ => False) := by
    refine Loop.Sat.forLoop (fun i hi t ht => ?_) rfl
    obtain ⟨t', hround, ht'⟩ := configure_round (D := D) hpasses ht hi
    rw [hround]
    exact ht'
  rw [forLoop_read] at hrounds
  cases hfold : data.foldlM (fun s d => s._configureNftAsCollateral D oracle d) s with
  | ok s' => exact ⟨s', rfl⟩
  | error e => exact (hrounds.error hfold).elim

/-- Up to 255 entries, the loop is the batch. -/
theorem configureNftsAsCollateralLoop_eq {data : List ConfigNftAsCollateralInput}
    (h : data.length ≤ 255) {gas : ℕ} (hgas : data.length < gas) :
    s.configureNftsAsCollateralLoop D oracle data gas
      = some (data.foldlM (fun s d => s._configureNftAsCollateral D oracle d) s) := by
  unfold State.configureNftsAsCollateralLoop
  rw [counting_eq (by omega) hgas, forLoop_read]

/-- Where the loop ends, it is what the operation stands for. -/
theorem configureNftsAsCollateralLoop_operation {data : List ConfigNftAsCollateralInput}
    (h : data.length ≤ 255) {gas : ℕ} (hgas : data.length < gas) :
    s.configureNftsAsCollateralLoop D oracle data gas
      = some (s.configureNftsAsCollateral D oracle data) := by
  rw [configureNftsAsCollateralLoop_eq h hgas, State.configureNftsAsCollateral, require_of h,
    ok_bind]

/-- From 256 entries on, all of which pass, it uses up all the gas there is. -/
theorem configureNftsAsCollateralLoop_forever {data : List ConfigNftAsCollateralInput}
    (hpasses : ∀ d ∈ data, d.Passes oracle s.blockTimestamp) (h : 256 ≤ data.length) (gas : ℕ) :
    s.configureNftsAsCollateralLoop D oracle data gas = none := by
  refine counting_forever (by decide) h (P := fun t => t.blockTimestamp = s.blockTimestamp) ?_ gas
    (by decide) rfl
  intro i hi t ht
  exact configure_round hpasses ht (Nat.lt_of_lt_of_le hi h)

/-- **When a batch is configured.** Of a batch whose entries all pass, the loop ends, and leaves
what applying each entry once and in order leaves, just when there are at most 255 of them. -/
theorem configureNftsAsCollateral_complete_iff {data : List ConfigNftAsCollateralInput}
    (hpasses : ∀ d ∈ data, d.Passes oracle s.blockTimestamp) :
    (∃ s', data.foldlM (fun s d => s._configureNftAsCollateral D oracle d) s = .ok s' ∧
      ∃ enough, ∀ gas, enough ≤ gas →
        s.configureNftsAsCollateralLoop D oracle data gas = some (.ok s')) ↔
      data.length ≤ 255 := by
  constructor
  · rintro ⟨s', -, enough, hloop⟩
    by_contra hlong
    have hforever := configureNftsAsCollateralLoop_forever (D := D) hpasses (by omega) enough
    rw [hloop enough le_rfl] at hforever
    cases hforever
  · intro h
    obtain ⟨s', hs'⟩ := configure_all (D := D) hpasses
    refine ⟨s', hs', data.length + 1, fun gas hgas => ?_⟩
    rw [configureNftsAsCollateralLoop_eq h hgas, hs']

end Batch

/-! ## Two batches -/

/-- An oracle that knows all collections. -/
def NFTOracle.sample : NFTOracle := ⟨fun _ => true, fun _ => false⟩

/-- The collateral token at some price. -/
def samplePriced (newPrice : ℕ) : ConfigNftAsCollateralInput where
  asset := 40
  nftTokenId := 7
  newPrice := newPrice
  ltv := 5000
  liquidationThreshold := 8000
  redeemThreshold := 2000
  liquidationBonus := 500
  redeemDuration := 1440
  auctionDuration := 2880
  redeemFine := 500
  minBidFine := 1000

theorem samplePriced_passes {newPrice : ℕ} (h : newPrice ≠ 0) :
    (samplePriced newPrice).Passes .sample 1000 where
  ltv := (by decide : 5000 < 8000)
  liquidationThreshold := (by decide : 8000 ≤ MAX_VALID_LIQUIDATION_THRESHOLD)
  liquidationBonus := (by decide : 500 < PERCENTAGE_FACTOR)
  redeemThreshold := (by decide : 2000 ≤ MAX_VALID_REDEEM_THRESHOLD)
  durations := (by decide : 1440 ≤ 2880)
  auctionDuration := (by decide : 2880 ≤ MAX_VALID_AUCTION_DURATION)
  redeemFine := (by decide : 500 ≤ MAX_VALID_REDEEM_FINE)
  minBidFine := (by decide : 1000 ≤ MAX_VALID_MIN_BIDFINE)
  configTimestamp := (by decide : 1000 ≤ MAX_VALID_CONFIG_TIMESTAMP)
  collection := rfl
  notPaused := rfl
  newPrice := h

theorem samplePriced_all_pass (prices : List ℕ) (h : 0 ∉ prices) :
    ∀ d ∈ prices.map samplePriced, d.Passes .sample (State.sample .weth9).blockTimestamp := by
  intro d hd
  obtain ⟨newPrice, hmem, rfl⟩ := List.mem_map.mp hd
  exact samplePriced_passes fun h0 => h (h0 ▸ hmem)

/-- Three entries, two of which name the same token, are configured. -/
theorem configureNftsAsCollateral_complete_iff_sample : ∃ s' enough, ∀ gas, enough ≤ gas →
    (State.sample .weth9).configureNftsAsCollateralLoop .sample .sample
      ([50, 60, 70].map samplePriced) gas = some (.ok s') := by
  obtain ⟨s', -, enough, hloop⟩ := (configureNftsAsCollateral_complete_iff (D := .sample)
    (samplePriced_all_pass [50, 60, 70] (by decide))).mpr (by decide)
  exact ⟨s', enough, hloop⟩

/-- With 256 entries the loop never ends, though each of them passes. -/
theorem configureNftsAsCollateral_never_ends :
    (∀ d ∈ (List.replicate 256 50).map samplePriced,
      d.Passes .sample (State.sample .weth9).blockTimestamp) ∧
    ¬ ∃ s' gas, (State.sample .weth9).configureNftsAsCollateralLoop .sample .sample
      ((List.replicate 256 50).map samplePriced) gas = some (.ok s') := by
  have hpasses := samplePriced_all_pass (List.replicate 256 50) fun h =>
    absurd (List.eq_of_mem_replicate h) (by decide)
  refine ⟨hpasses, ?_⟩
  rintro ⟨s', gas, hloop⟩
  rw [configureNftsAsCollateralLoop_forever hpasses (by
    rw [List.length_map, List.length_replicate]) gas] at hloop
  cases hloop

end Unlockd

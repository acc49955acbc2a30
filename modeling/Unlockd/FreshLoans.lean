/-
A loan just borrowed, and the three calls that seize one.

Borrowing is checked against the loan-to-value ratio, seizing against the liquidation threshold. The
configurator of a single token wants the one below the other, that of a batch allows the two to be
equal; then a loan can be opened at the very edge, and the same block lets anyone buy the token out.
A fresh loan is safe on a condition, which is read off the call and the state before it: what will
be owed at the index of this block is not under water already.
-/
import Unlockd.Lifecycle
import Unlockd.Health
import Unlockd.Interest
import Unlockd.Deactivation
import Unlockd.LendPoolConfigurator

set_option autoImplicit false

namespace Unlockd

open Outcome FixedPoint LendPoolLoan

namespace State

variable {D : Deployment} {s s' : State} {asset nftAsset initiator onBehalfOf : Address}
  {amount tokenId : ℕ}

/-! ## The loan after a borrow -/

/-- The scaled debt on a token; without a loan there is none. -/
def scaledDebtOn (s : State) (nftAsset : Address) (tokenId : ℕ) : ℕ :=
  if s.lendPoolLoan.getCollateralLoanId nftAsset tokenId = 0 then 0
  else (s.loanOn nftAsset tokenId).scaledAmount

/-- The loan a borrow leaves: active, on the token, and with so much more scaled debt. -/
theorem BorrowedOn.loanAfter {L L' : LendPoolLoan} (h : L.Loans) {index : ℕ} (hpos : 0 < amount)
    (hL : BorrowedOn L L' asset nftAsset tokenId onBehalfOf amount index) :
    ∃ n loan, rayDiv amount index = .ok n ∧ L'.getCollateralLoanId nftAsset tokenId ≠ 0 ∧
      L'.loans (L'.getCollateralLoanId nftAsset tokenId) = loan ∧
      (loan.state = .Active ∧ loan.nftAsset = nftAsset ∧ loan.nftTokenId = tokenId) ∧
      loan.reserveAsset = (if L.getCollateralLoanId nftAsset tokenId = 0 then asset
        else (L.loans (L.getCollateralLoanId nftAsset tokenId)).reserveAsset) ∧
      loan.scaledAmount = (if L.getCollateralLoanId nftAsset tokenId = 0 then 0
        else (L.loans (L.getCollateralLoanId nftAsset tokenId)).scaledAmount) + n := by
  unfold BorrowedOn at hL
  split at hL
  · rename_i hfree
    obtain ⟨-, hL⟩ := require_bind_eq_ok.mp hL
    obtain ⟨n, hn, hL⟩ := bind_eq_ok.mp hL
    obtain rfl := Except.ok.inj hL
    have hindex : update₂ L.nftToLoanIds nftAsset tokenId L.loanIdTracker nftAsset tokenId
        = L.loanIdTracker := update₂_self _ _ _ _
    refine ⟨n, _, hn, ?_, rfl, ?_⟩
    · unfold getCollateralLoanId
      dsimp only
      rw [hindex]
      exact Nat.ne_of_gt h.tracker_pos
    · unfold getCollateralLoanId
      dsimp only
      rw [hindex, Function.update_self, if_pos (by exact hfree), if_pos (by exact hfree),
        Nat.zero_add]
      exact ⟨⟨rfl, rfl, rfl⟩, rfl, rfl⟩
  · rename_i hid
    obtain ⟨hactive, n, hn, -, rfl⟩ := updateLoan_added hL hpos
    obtain ⟨-, -, hasset, htoken⟩ := h.held hid
    refine ⟨n, _, hn, hid, Function.update_self _ _ _, ⟨hactive, hasset, htoken⟩, ?_⟩
    rw [if_neg hid, if_neg hid]
    exact ⟨rfl, rfl⟩

/-- Borrowing wants a collateral that is worth something. -/
theorem validateBorrow_collateral {loanId : ℕ} :
    Returns (s.validateBorrow asset amount nftAsset tokenId onBehalfOf loanId)
      (fun _ => ∃ collateral, s.calculateNftCollateralData asset nftAsset tokenId = .ok collateral ∧
        collateral.2 ≠ 0) := by
  refine Returns.check fun _ => Returns.check fun _ => Returns.check fun _ => ?_
  refine Returns.step fun _ _ => Returns.check fun _ => Returns.check fun _ => ?_
  refine Returns.check fun _ => Returns.check fun _ => Returns.check fun _ => ?_
  refine Returns.check fun _ => Returns.check fun _ => Returns.check fun _ => ?_
  refine Returns.step fun health hhealth => Returns.check fun hne => Returns.check fun _ => ?_
  obtain ⟨_, -, hhealth⟩ := bind_eq_ok.mp hhealth
  obtain ⟨collateral, hcollateral, hhealth⟩ := bind_eq_ok.mp hhealth
  obtain ⟨_, -, hhealth⟩ := bind_eq_ok.mp hhealth
  obtain rfl := Except.ok.inj hhealth
  exact (Sat.returned _).mono (fun _ _ => ⟨collateral, hcollateral, hne⟩) fun _ _ => trivial

/-- What else a borrow says of the state it leaves: the prices are as they were, the collateral is
worth something, and the total debt of the reserve can be read. -/
theorem _borrow_valued :
    Returns (s._borrow D initiator asset amount nftAsset tokenId onBehalfOf)
      (fun s' => (s'.nftPrices = s.nftPrices ∧ s'.getAssetPrice = s.getAssetPrice) ∧
        (∃ collateral, s.calculateNftCollateralData asset nftAsset tokenId = .ok collateral ∧
          collateral.2 ≠ 0) ∧
        (s.lendPoolLoan.getCollateralLoanId nftAsset tokenId ≠ 0 →
          asset = (s.loanOn nftAsset tokenId).reserveAsset) ∧
        ∃ total, rayMul (s'.debtTokens asset).scaledTotalSupply
          (s'.lendPool.reserves asset).variableBorrowIndex = .ok total) := by
  refine Returns.check fun _ => ?_
  refine Sat.bind updateState_posted fun s₁ h₁ => ?_
  obtain ⟨Rs, U, rfl, hupd, -⟩ := h₁
  refine Sat.bind (validateBorrow_collateral.and validateBorrow_spec).returns fun _ hv => ?_
  obtain ⟨⟨collateral, hcollateral, hne⟩, -, -, hreserve⟩ := hv
  have hsame : ((s.withReserves Rs).withUTokens U).calculateNftCollateralData asset nftAsset tokenId
      = s.calculateNftCollateralData asset nftAsset tokenId :=
    calculateNftCollateralData_congr rfl rfl (hupd.configuration asset)
  rw [hsame] at hcollateral
  refine Returns.step fun _ _ => Returns.check fun _ => ?_
  refine Sat.bind borrowOnLoan_posted fun s₂ h₂ => ?_
  obtain ⟨L, M, E, C, N, rfl, -, -, -⟩ := h₂
  refine Sat.bind mintDebt_posted fun s₃ h₃ => ?_
  obtain ⟨T, rfl, -⟩ := h₃
  refine Sat.bind updateInterestRates_spec.returns fun s₄ h₄ => ?_
  obtain ⟨Rs', rfl, hpriced⟩ := h₄
  refine Sat.bind withdrawReserves_posted fun p h₅ => ?_
  obtain ⟨s₅, value⟩ := p
  obtain ⟨E', n, rfl, -, -⟩ := h₅
  refine Sat.imp safeTransfer_posted fun s₆ h₆ => ?_
  obtain ⟨E'', rfl, -⟩ := h₆
  refine ⟨⟨rfl, rfl⟩, ⟨collateral, hcollateral, hne⟩, fun hid => (hreserve hid).1, ?_⟩
  -- the new rates were set for the total debt
  have hindex : (Rs' asset).variableBorrowIndex = (Rs asset).variableBorrowIndex := hpriced.index
  obtain ⟨-, rates, hrates, -⟩ := hpriced
  obtain ⟨total, htotal, -⟩ := bind_eq_ok.mp hrates
  refine ⟨total, ?_⟩
  show rayMul (T asset).scaledTotalSupply (Rs' asset).variableBorrowIndex = .ok total
  rw [hindex]
  exact htotal

/-! ## The block after it -/

/-- A reserve that is up to date can be updated again, to no effect. -/
theorem updateState_current (hs : Clocked.Sound ⟨s.blockTimestamp, s.lendPool.reserves asset⟩)
    (hcurrent : (s.lendPool.reserves asset).lastUpdateTimestamp = s.blockTimestamp) {total : ℕ}
    (htotal : rayMul (s.debtTokens asset).scaledTotalSupply
      (s.lendPool.reserves asset).variableBorrowIndex = .ok total) :
    s.updateState asset = .ok s := by
  have hsame := ReserveData._updateIndexes_of_current hs hcurrent
    (s.debtTokens asset).scaledTotalSupply
  exact updateState_unchanged hsame (ReserveData.amountToMint_of_debt htotal)

/-- A loan in the block in which it was borrowed: active, and read at the index it was borrowed
at. -/
structure FreshLoan (s : State) (asset nftAsset : Address) (tokenId scaled index : ℕ)
    (collateral : ℕ × ℕ) : Prop where
  held : s.lendPoolLoan.getCollateralLoanId nftAsset tokenId ≠ 0
  active : (s.loanOn nftAsset tokenId).state = .Active
  key : (s.loanOn nftAsset tokenId).nftAsset = nftAsset ∧
    (s.loanOn nftAsset tokenId).nftTokenId = tokenId
  reserve : (s.loanOn nftAsset tokenId).reserveAsset = asset
  inUse : (s.lendPool.reserves asset).uTokenAddress ≠ 0 ∧
    getActive (s.lendPool.reserves asset).configuration = true
  current : s.updateState asset = .ok s
  debt : s.getLoanReserveBorrowAmount (s.lendPoolLoan.getCollateralLoanId nftAsset tokenId)
    = rayMul scaled index
  priced : s.calculateNftCollateralData asset nftAsset tokenId = .ok collateral
  worth : collateral.2 ≠ 0

/-- A debt read off an index is under water for a collateral at the threshold of a token. -/
def Reaches (s : State) (nftAsset : Address) (tokenId scaled index : ℕ) (collateral : ℕ × ℕ) :
    Prop :=
  ∃ debt, rayMul scaled index = .ok debt ∧
    Underwater collateral.2 debt (getLiquidationThreshold (s.lendPool.nftConfig nftAsset tokenId))

namespace FreshLoan

variable {scaled index : ℕ} {collateral : ℕ × ℕ}

/-- There is no collateral in terms of the asset zero. -/
theorem asset_ne_zero (h : s.FreshLoan asset nftAsset tokenId scaled index collateral) :
    asset ≠ 0 := by
  rintro rfl
  obtain ⟨price, -, hcollateral⟩ := bind_eq_ok.mp h.priced
  exact h.worth (congrArg Prod.snd (Except.ok.inj hcollateral)).symm

/-- Its first bid is let through only if it is under water. -/
theorem auction (h : s.FreshLoan asset nftAsset tokenId scaled index collateral)
    (hp : s.AuctionPermitted nftAsset tokenId) :
    s.Reaches nftAsset tokenId scaled index collateral := by
  obtain ⟨s₁, prices, hs₁, hprices, hlt⟩ := hp
  rw [h.reserve] at hs₁ hprices
  rw [h.key.1, h.key.2] at hprices
  obtain rfl : s = s₁ := Except.ok.inj (h.current.symm.trans hs₁)
  obtain ⟨hdebt, collateral₁, hpriced, hthreshold⟩ :=
    (calculateLoanLiquidatePrice_threshold h.asset_ne_zero).ok hprices
  obtain rfl : collateral = collateral₁ := Except.ok.inj (h.priced.symm.trans hpriced)
  rw [hthreshold] at hlt
  exact ⟨prices.1, h.debt.symm.trans hdebt, .of_lt hlt⟩

/-- A buyout is let through only if it is under water. -/
theorem buyout (h : s.FreshLoan asset nftAsset tokenId scaled index collateral)
    (hp : s.BuyoutPermitted nftAsset tokenId) :
    s.Reaches nftAsset tokenId scaled index collateral := by
  obtain ⟨s₁, health, hs₁, hhealth, hle⟩ := hp
  rw [h.reserve] at hs₁ hhealth
  rw [h.key.1, h.key.2] at hhealth
  obtain rfl : s = s₁ := Except.ok.inj (h.current.symm.trans hs₁)
  obtain ⟨debt, hdebt, -⟩ := bind_eq_ok.mp hhealth
  have hread := debtOfLoan_debt h.held hdebt
  obtain ⟨-, collateral₁, hpriced, hunder⟩ :=
    (calculateLoanData_le_iff h.held hread).mp ⟨health, hhealth, hle⟩
  obtain rfl : collateral = collateral₁ := Except.ok.inj (h.priced.symm.trans hpriced)
  exact ⟨debt, h.debt.symm.trans hread, hunder⟩

/-- A sale is let through only if it is under water, whichever reserve it names. -/
theorem sale (h : s.FreshLoan asset nftAsset tokenId scaled index collateral)
    {reserveAsset : Address} (hp : s.SalePermitted nftAsset reserveAsset tokenId) :
    s.Reaches nftAsset tokenId scaled index collateral := by
  obtain ⟨s₁, hs₁, hhealth⟩ := hp
  have hread : s₁.getLoanReserveBorrowAmount (s₁.lendPoolLoan.getCollateralLoanId nftAsset tokenId)
      = rayMul scaled index := by
    by_cases hsame : reserveAsset = asset
    · subst hsame
      obtain ⟨-, hs₁⟩ := require_bind_eq_ok.mp hs₁
      obtain ⟨-, hs₁⟩ := require_bind_eq_ok.mp hs₁
      obtain rfl : s = s₁ := Except.ok.inj (h.current.symm.trans hs₁)
      exact h.debt
    · rw [updateReserveState_elsewhere hs₁ (by rw [h.reserve]; exact Ne.symm hsame)]
      exact h.debt
  have hsame : s₁.calculateNftCollateralData asset nftAsset tokenId
      = s.calculateNftCollateralData asset nftAsset tokenId := updateReserveState_collateral hs₁
  obtain ⟨-, Rs, U, rfl, -⟩ := updateReserveState_spec.ok hs₁
  obtain ⟨collateral₁, b, hpriced, hdebt, hunder⟩ :=
    _validateLoanHealthFactor_passed (by exact h.held) hhealth
  change State.calculateNftCollateralData _ (s.loanOn nftAsset tokenId).reserveAsset _ _
    = _ at hpriced
  rw [h.reserve, hsame, h.priced] at hpriced
  obtain rfl := Except.ok.inj hpriced
  exact ⟨b, hread.symm.trans hdebt, hunder h.active⟩

/-- The collateral is priced from a product that fits, by a price that is not zero. -/
theorem priced_fits (h : s.FreshLoan asset nftAsset tokenId scaled index collateral) :
    (∃ unit, s.reserveUnit asset = .ok unit) ∧
      collateral.2 * s.getAssetPrice asset ≤ maxUint256 := by
  obtain ⟨price, -, hpriced⟩ := bind_eq_ok.mp h.priced
  rw [if_neg h.asset_ne_zero] at hpriced
  obtain ⟨inReserve, hinReserve, hpriced⟩ := bind_eq_ok.mp hpriced
  obtain rfl := Except.ok.inj hpriced
  obtain ⟨unit, hunit, hinReserve⟩ := bind_eq_ok.mp hinReserve
  obtain ⟨amount, hamount, hinReserve⟩ := bind_eq_ok.mp hinReserve
  obtain ⟨hfits, rfl⟩ := checkedMul_eq_ok.mp hamount
  obtain ⟨-, rfl⟩ := checkedDiv_eq_ok.mp hinReserve
  exact ⟨⟨unit, hunit⟩, (Nat.div_mul_le_self _ _).trans hfits⟩

/-- **One of the two goes through.** What is under water is let through by the buyout, or, where its
debt cannot be stated in ether, by a sale, which does not ask for that. -/
theorem seizable (h : s.FreshLoan asset nftAsset tokenId scaled index collateral)
    (hr : s.Reaches nftAsset tokenId scaled index collateral) :
    s.BuyoutPermitted nftAsset tokenId ∨ s.SalePermitted nftAsset asset tokenId := by
  obtain ⟨debt, hdebt, hunder⟩ := hr
  have hread := h.debt.trans hdebt
  obtain ⟨⟨unit, hunit⟩, hvalue⟩ := h.priced_fits
  by_cases hfits : debt * s.getAssetPrice asset ≤ maxUint256
  · left
    have howed : s.debtOfLoan asset (s.lendPoolLoan.getCollateralLoanId nftAsset tokenId)
        = .ok debt :=
      (debtOfLoan_eq_ok h.held).mpr ((calculateNftDebtData_iff hunit).mpr ⟨hread, hfits⟩)
    obtain ⟨health, hhealth, hle⟩ := (calculateLoanData_le_iff h.held hread).mpr
      ⟨howed, collateral, h.priced, hunder⟩
    unfold BuyoutPermitted
    dsimp only
    rw [h.reserve, h.key.1, h.key.2]
    exact ⟨s, health, h.current, hhealth, hle⟩
  · right
    -- the price is so high that the collateral is small, and its percentage fits
    have hsmall := getLoanReserveBorrowAmount_fits hread
    have hprice : RAY < s.getAssetPrice asset := by
      by_contra hle
      exact hfits ((Nat.mul_le_mul_left debt (Nat.le_of_not_lt hle)).trans hsmall)
    have hltv : collateral.2 * getLtv (s.lendPool.nftConfig nftAsset tokenId) ≤ maxUint256
        - PERCENTAGE_FACTOR / 2 := by
      have hray : collateral.2 ≤ maxUint256 / RAY :=
        (Nat.le_div_iff_mul_le RAY_pos).mpr ((Nat.mul_le_mul_left _ hprice.le).trans hvalue)
      exact (Nat.mul_le_mul hray (getLtv_le _)).trans (by decide)
    have hpriced : s.calculateNftCollateralData (s.loanOn nftAsset tokenId).reserveAsset nftAsset
        tokenId = .ok collateral := by
      rw [h.reserve]
      exact h.priced
    have hhealth := _validateLoanHealthFactor_of h.held h.active hpriced hread hltv hunder
    exact ⟨s, require_bind_eq_ok.mpr ⟨h.inUse.1, require_bind_eq_ok.mpr ⟨h.inUse.2, h.current⟩⟩,
      hhealth⟩

end FreshLoan

/-- **What a borrow leaves.** A fresh loan, on which is owed what was owed before and the amount,
both at the index of the block. -/
theorem borrow_fresh {allowed : State → Action D → Prop} (hr : Reachable D allowed s)
    {sender : Address} (htime : s.blockTimestamp < 2 ^ 40)
    (hok : s.perform D sender (.borrow asset amount nftAsset tokenId onBehalfOf) = .ok s') :
    ∃ collateral, s.calculateNftCollateralData asset nftAsset tokenId = .ok collateral ∧
      s'.lendPool.nftConfig nftAsset tokenId = s.lendPool.nftConfig nftAsset tokenId ∧
      s'.FreshLoan asset nftAsset tokenId
        (s.scaledDebtOn nftAsset tokenId + divHalfUp (amount * RAY) (s.nextIndex asset))
        (s.nextIndex asset) collateral := by
  obtain ⟨hactiveReserve, -⟩ := borrow_active.ok hok
  obtain ⟨-, hok⟩ := require_bind_eq_ok.mp hok
  obtain ⟨⟨hnft, hprice⟩, ⟨collateral, hcollateral, hworth⟩, hsame, total, htotal⟩ :=
    _borrow_valued.ok hok
  obtain ⟨Rs, L, T, _, _, ha, ⟨hpos, -, hinit⟩, hL, -, -⟩ := _borrow_account.ok hok
  rw [ha.updated.nextIndex] at hL
  obtain ⟨n, loan, hn, hheld, hloan, ⟨hactive, hkey⟩, hreserve, hscaled⟩ :=
    hL.loanAfter (Reachable.books hr).loans hpos
  obtain ⟨-, rfl⟩ := rayDiv_spec hn
  rw [← ha.loans] at hheld hloan
  have hasset : loan.reserveAsset = asset := by
    rw [hreserve]
    split
    · rfl
    · rename_i hid
      exact (hsame hid).symm
  -- the reserve has been brought up to date in this block
  have hstamp := ha.refreshed.lastUpdateTimestamp
  have hsound : Clocked.Sound ⟨s'.blockTimestamp, s'.lendPool.reserves asset⟩ := by
    obtain ⟨-, R, rates, hR, hrates⟩ := ha.refreshed
    rw [ha.blockTimestamp]
    exact ((Clocked.Reachable.sound (Reachable.clocked hr hinit)).op (.updateIndexes _ hR)).op
      (.setRates _ hrates)
  have hcurrent : (s'.lendPool.reserves asset).lastUpdateTimestamp = s'.blockTimestamp := by
    rw [hstamp, uint40_of_lt htime, ha.blockTimestamp]
  have hdebt := getLoanReserveBorrowAmount_of_updated hloan
    (by rw [hasset, hstamp, ha.blockTimestamp])
  rw [hasset, ha.index, ha.updated.nextIndex, hscaled] at hdebt
  have hinUse : (s'.lendPool.reserves asset).uTokenAddress ≠ 0 ∧
      getActive (s'.lendPool.reserves asset).configuration = true := by
    rw [ha.configuration asset, (ha.refreshed.ops asset).grown.uTokenAddress]
    exact ⟨hinit, hactiveReserve⟩
  refine ⟨collateral, hcollateral, ?_, hheld, ?_, ?_, ?_, hinUse, ?_, hdebt, ?_, hworth⟩
  · rw [ha.pool]
  · exact (congrArg LoanData.state hloan).trans hactive
  · unfold loanOn
    rw [hloan]
    exact hkey
  · exact (congrArg LoanData.reserveAsset hloan).trans hasset
  · exact updateState_current hsound hcurrent htotal
  · exact (calculateNftCollateralData_congr hnft hprice (ha.configuration asset)).trans hcollateral

/-- A borrow takes the loan on a token to its liquidation threshold: what is owed after it, at the
index of the block, is under water for the collateral as it is priced. -/
def ReachesThreshold (s : State) (asset nftAsset : Address) (tokenId amount : ℕ) : Prop :=
  ∃ collateral, s.calculateNftCollateralData asset nftAsset tokenId = .ok collateral ∧
    s.Reaches nftAsset tokenId
      (s.scaledDebtOn nftAsset tokenId + divHalfUp (amount * RAY) (s.nextIndex asset))
      (s.nextIndex asset) collateral

/-- **When a fresh loan is safe.** After a borrow on any configuration of the token, at any prices,
a first bid, a buyout and a sale are all refused just when the borrow does not take the loan to its
liquidation threshold; and then no such call goes through, whoever makes it. -/
theorem fresh_loan_is_safe {allowed : State → Action D → Prop} (hr : Reachable D allowed s)
    {sender : Address} (htime : s.blockTimestamp < 2 ^ 40)
    (hok : s.perform D sender (.borrow asset amount nftAsset tokenId onBehalfOf) = .ok s') :
    ((¬ s'.AuctionPermitted nftAsset tokenId ∧ ¬ s'.BuyoutPermitted nftAsset tokenId ∧
        ∀ reserveAsset, ¬ s'.SalePermitted nftAsset reserveAsset tokenId) ↔
      ¬ s.ReachesThreshold asset nftAsset tokenId amount) ∧
    (¬ s.ReachesThreshold asset nftAsset tokenId amount → ∀ caller s'' onBehalfOf',
      (∀ bidPrice, s'.perform D caller (.auction nftAsset tokenId bidPrice onBehalfOf')
        ≠ .ok s'') ∧
      s'.perform D caller (.buyout nftAsset tokenId onBehalfOf') ≠ .ok s'' ∧
      ∀ reserveAsset module sale expectedLiquidateAmount, s'.perform D caller
        (.liquidateReservoir nftAsset reserveAsset tokenId module sale expectedLiquidateAmount)
          ≠ .ok s'') := by
  obtain ⟨collateral, hpriced, hconfig, hfresh⟩ := borrow_fresh hr htime hok
  have hreaches : s.ReachesThreshold asset nftAsset tokenId amount ↔
      s'.Reaches nftAsset tokenId
        (s.scaledDebtOn nftAsset tokenId + divHalfUp (amount * RAY) (s.nextIndex asset))
        (s.nextIndex asset) collateral := by
    unfold ReachesThreshold Reaches
    rw [hconfig]
    constructor
    · rintro ⟨collateral₁, hpriced₁, hunder⟩
      obtain rfl : collateral = collateral₁ := Except.ok.inj (hpriced.symm.trans hpriced₁)
      exact hunder
    · exact fun hunder => ⟨collateral, hpriced, hunder⟩
  rw [hreaches]
  refine ⟨⟨fun hnone hunder => (hfresh.seizable hunder).elim hnone.2.1 (hnone.2.2 asset),
    fun hsafe => ?_⟩, fun hsafe caller s'' onBehalfOf' => ⟨fun bidPrice hcall => ?_,
      fun hcall => ?_, fun reserveAsset module sale expectedLiquidateAmount hcall => ?_⟩⟩
  · exact ⟨fun hp => hsafe (hfresh.auction hp), fun hp => hsafe (hfresh.buyout hp),
      fun _ hp => hsafe (hfresh.sale hp)⟩
  · obtain ⟨-, hcall⟩ := require_bind_eq_ok.mp hcall
    exact hsafe (hfresh.auction ((executeAuction_permitted hfresh.active).ok hcall))
  · obtain ⟨-, hcall⟩ := require_bind_eq_ok.mp hcall
    exact hsafe (hfresh.buyout (executeBuyout_permitted.ok hcall))
  · exact hsafe (hfresh.sale (liquidateReservoir_permitted.ok hcall))

/-- In the larger deployment a loan of 30 WETH on a token worth 100 cannot be bought out at once. -/
theorem fresh_loan_is_safe_sample : ∃ s s', Reachable .larger (anyAction .larger) s ∧
    s.perform .larger 100 (.borrow 10 (30 * WAD) 40 7 100) = .ok s' ∧
    ¬ s'.BuyoutPermitted 40 7 ∧ ∀ s'', s'.perform .larger 103 (.buyout 40 7 103) ≠ .ok s'' := by
  have hr := State.larger_reachable .weth9 []
  have hok := State.perform_after (s := State.larger .weth9 []) (Deployment.larger_isUser 0)
    (c := .borrow 10 (30 * WAD) 40 7 100) (by decide +kernel)
  have hpriced : (State.larger .weth9 []).calculateNftCollateralData 10 40 7
      = .ok (100 * WAD, 100 * WAD) := eq_ok_of_toOption (by decide +kernel)
  have hdebt : rayMul ((State.larger .weth9 []).scaledDebtOn 40 7
        + divHalfUp (30 * WAD * RAY) ((State.larger .weth9 []).nextIndex 10))
      ((State.larger .weth9 []).nextIndex 10) = .ok (30 * WAD) :=
    eq_ok_of_toOption (by decide +kernel)
  have hconfig : (State.larger .weth9 []).lendPool.nftConfig 40 7 = sampleNftConfig := by
    decide +kernel
  have htime : (State.larger .weth9 []).blockTimestamp < 2 ^ 40 := by decide +kernel
  generalize State.larger .weth9 [] = s at *
  have hsafe : ¬ s.ReachesThreshold 10 40 7 (30 * WAD) := by
    rintro ⟨collateral, hcollateral, debt, howed, hunder⟩
    obtain rfl := Except.ok.inj (hpriced.symm.trans hcollateral)
    obtain rfl := Except.ok.inj (hdebt.symm.trans howed)
    rw [hconfig] at hunder
    unfold Underwater at hunder
    revert hunder
    decide +kernel
  obtain ⟨hiff, hcalls⟩ := fresh_loan_is_safe hr htime hok
  exact ⟨s, _, hr, hok, (hiff.mpr hsafe).2.1, fun s'' => (hcalls hsafe 103 s'' 103).2.1⟩

/-- A configuration of the token 7 whose loan-to-value ratio is its liquidation threshold, and the
word a batch makes of it. -/
def edgeInput : ConfigNftInput := ⟨40, 7, 8000, 8000, 500, 24, 48, 500, 9000, 2000⟩

@[inherit_doc edgeInput]
def edgeNftConfig : BitVec 256 :=
  setActive true (BitVec.ofNat 256 (8000 + 8000 * 2 ^ 16 + 500 * 2 ^ 32 + 24 * 2 ^ 64
    + 48 * 2 ^ 80 + 500 * 2 ^ 96 + 9000 * 2 ^ 112 + 2000 * 2 ^ 128 + 1000 * 2 ^ 144))

/-- **A fresh loan can be seized.** A batch accepts the configuration; a loan of 80 WETH on a token
worth 100 goes through, and in the same block user 103 buys the token out. -/
theorem fresh_loan_can_be_seized : edgeInput.pack sampleNftConfig = .ok edgeNftConfig ∧
    ∃ s s' s'', Reachable .larger (anyAction .larger) s ∧
      s.lendPool.nftConfig 40 7 = edgeNftConfig ∧ s.blockTimestamp < 2 ^ 40 ∧
      s.perform .larger 100 (.borrow 10 (80 * WAD) 40 7 100) = .ok s' ∧
      s'.perform .larger 103 (.buyout 40 7 103) = .ok s'' := by
  refine ⟨eq_ok_of_toOption (by decide +kernel),
    State.larger .weth9 [.configure (.setNftConfigByTokenId 40 7 edgeNftConfig)], _, _,
    State.larger_reachable _ _, by decide +kernel, by decide +kernel,
    State.perform_after (Deployment.larger_isUser 0) (by decide +kernel),
    State.perform_after (Deployment.larger_isUser 3) (by decide +kernel)⟩

end State

end Unlockd

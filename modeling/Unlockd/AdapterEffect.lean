/-
What a liquidation through the Reservoir adapter does to the books.

The sale is made by accounts outside, so what is known of it is only what they cannot do:
take tokens of the pool or of the market. The debt is burnt at the index of the
loan's reserve, which is the current one only if the liquidator named that reserve; hence
the effect on the books is that of any closed loan, while nothing is said of the debt tokens.
-/
import Unlockd.PoolEffect

set_option autoImplicit false

namespace Unlockd

open Outcome Registry LendPoolLoan DebtMarket

/-- What a liquidation through the adapter can fail with: besides the usual, the debt to be burnt
may exceed what the borrower owes. -/
def Error.OfSale (D : Deployment) (e : Error) : Prop :=
  e.Blameless D ∨ ∃ u, e = .debtBurnAmountExceedsBalance u

theorem Error.Benign.ofSale {D : Deployment} (e : Error) (h : e.Benign) : e.OfSale D :=
  .inl (.inl h)

namespace State

variable {D : Deployment} {s : State} {nftAsset : Address} {tokenId : ℕ}

section Reserves

variable {asset uToken : Address} {added taken : ℕ} {Rs : Address → ReserveData}

/-- Bringing a reserve up to date changes no rate. -/
theorem Updated.timely {s' : State} (h : s.Updated asset s'.lendPool.reserves) : Timely s s' := by
  obtain ⟨i, j, hR, -⟩ := h.indices
  intro r
  by_cases hr : r = asset
  · subst hr
    rw [hR]
    exact .inl ⟨rfl, rfl⟩
  · rw [h.1 r hr]
    exact .inl ⟨rfl, rfl⟩

/-- One reserve is brought up to date and another priced: the rates are set on time if the other
is the same one, or was current before. -/
theorem Updated.pricedTimely {s₁ s' : State} {priced : Address} (hu : s.Updated asset Rs)
    (hp : s₁.Priced priced uToken added taken s'.lendPool.reserves) (hs : s₁.lendPool.reserves = Rs)
    (ht : s'.blockTimestamp = s.blockTimestamp)
    (hcurrent : priced = asset ∨
      (s.lendPool.reserves priced).lastUpdateTimestamp = uint40 s.blockTimestamp) :
        Timely s s' := by
  have hsame : Timely s (s.withReserves Rs) := by
    apply Updated.timely
    exact hu
  obtain ⟨hother, rates, -, hR⟩ := hp
  have hR := ReserveData.setRates_eq hR
  obtain ⟨i, j, huR, -⟩ := hu.indices
  intro r
  by_cases hr : r = priced
  · subst hr
    rw [hR, hs, ht]
    right
    by_cases hra : r = asset
    · subst hra
      rw [huR]
      rfl
    · rw [hu.1 r hra]
      exact hcurrent.resolve_left hra
  · rw [hother r hr, hs, ht]
    exact hsame r

/-- Rates set for a reserve whose indices are current are set on time. -/
theorem Priced.timely {s' : State} (h : s.Priced asset uToken added taken s'.lendPool.reserves)
    (hcurrent : (s.lendPool.reserves asset).lastUpdateTimestamp = uint40 s'.blockTimestamp) :
    Timely s s' := by
  obtain ⟨hother, rates, -, hR⟩ := h
  have hR := ReserveData.setRates_eq hR
  intro r
  by_cases hr : r = asset
  · subst hr
    rw [hR]
    exact .inr hcurrent
  · rw [hother r hr]
    exact .inl ⟨rfl, rfl⟩

end Reserves

/-! ## The sale -/

/-- A holder that is no account outside and has given no allowance loses nothing in a sale. -/
theorem paySale_spec {h : Address} (hh : ¬ D.isUser h) (payments : List (Payment D)) :
    ∀ s : State, (∀ r c, (s.erc20 r).allowance h c = 0) → Sat (s.paySale D payments)
      (fun s' => ∃ E, s' = s.withErc20 E ∧ Flow h s.erc20 E 0 0) (fun _ => True) := by
  induction payments with
  | nil => exact fun s _ => ⟨_, rfl, .refl _ _⟩
  | cons p payments ih =>
    intro s hg
    have hne : h ≠ p.spender := fun he => hh (he ▸ p.spender_user)
    refine Sat.bind (P := fun s' => ∃ E, s' = s.withErc20 E ∧ Flow h s.erc20 E 0 0) ?_
      fun s₁ h₁ => ?_
    · refine Sat.ite (fun _ => ?_) fun _ => ?_
      · refine safeTransfer_spec.mono (fun s' hs => ?_) fun _ _ => trivial
        obtain ⟨E, rfl, hpaid⟩ := hs
        exact ⟨E, rfl, hpaid.others hne⟩
      · refine safeTransferFrom_spec.mono (fun s' hs => ?_) fun _ _ => trivial
        obtain ⟨E, rfl, hpaid, hent⟩ := hs
        exact ⟨E, rfl, hpaid.unentitled hent hg hne⟩
    · obtain ⟨E, rfl, hflow⟩ := h₁
      refine (ih _ (by exact hflow.guarded hg)).imp fun s₂ h₂ => ?_
      obtain ⟨E', rfl, hflow'⟩ := h₂
      exact ⟨E', rfl, hflow.idleAnd hflow'⟩

/-- Passing the token on touches the collections and nothing else. -/
theorem passOn_spec {module buyer : Address} :
    Returns (s.passOn nftAsset module buyer tokenId) (fun s' => ∃ C, s' = s.withErc721 C) :=
  Sat.ite (fun _ => ⟨s.erc721, rfl⟩) fun _ => Returns.step fun _ _ => ⟨_, rfl⟩

/-- A sale that goes through: the token has moved, and the payments were made. -/
theorem sellNft_paid {module : Address} {sale : Sale D} {s' : State}
    (hok : s.sellNft D nftAsset tokenId module sale = .ok s') :
    ∃ C, (s.withErc721 C).paySale D sale.payments = .ok s' := by
  unfold sellNft at hok
  split at hok
  · rename_i hsold
    obtain rfl := Except.ok.inj hok
    obtain ⟨s₁, hs₁, hsold⟩ := bind_eq_ok.mp hsold
    obtain ⟨s₂, hs₂, hpaid⟩ := bind_eq_ok.mp hsold
    obtain ⟨C, rfl⟩ := (safeTransferNft_spec D).ok hs₁
    obtain ⟨C', rfl⟩ := passOn_spec.ok hs₂
    exact ⟨C', hpaid⟩
  · cases hok

/-- The protocol's two treasuries lose nothing in the sale of a token. -/
theorem sellNft_spec {module : Address} {sale : Sale D}
    (hp : ∀ r c, (s.erc20 r).allowance D.lendPool c = 0)
    (hm : ∀ r c, (s.erc20 r).allowance D.debtMarket c = 0) :
    Sat (s.sellNft D nftAsset tokenId module sale)
      (fun s' => ∃ C E, s' = (s.withErc721 C).withErc20 E ∧ Flow D.lendPool s.erc20 E 0 0 ∧
        Flow D.debtMarket s.erc20 E 0 0) Error.Benign := by
  have hfails : Sat (s.sellNft D nftAsset tokenId module sale)
      (fun s' => s.sellNft D nftAsset tokenId module sale = .ok s') Error.Benign := by
    refine Sat.self (Q := fun _ => True) ?_
    unfold sellNft
    split <;> trivial
  refine hfails.imp fun s₂ hs₂ => ?_
  obtain ⟨C, hpaid⟩ := sellNft_paid hs₂
  have hpool := (paySale_spec (h := D.lendPool) (fun hu => hu.ne_lendPool rfl) sale.payments
    (s.withErc721 C) hp).ok hpaid
  have hmarket := (paySale_spec (h := D.debtMarket) (fun hu => hu.ne_debtMarket rfl) sale.payments
    (s.withErc721 C) hm).ok hpaid
  obtain ⟨E, rfl, h1⟩ := hpool
  obtain ⟨E', heq, h2⟩ := hmarket
  obtain rfl : E = E' := congrArg State.erc20 heq
  exact ⟨C, E, rfl, h1, h2⟩

/-! ## The settlement -/

/-- The adapter pays out of its own pocket. -/
theorem payByAdapter_spec {asset dst : Address} {amount : ℕ} :
    Sat (s.safeTransfer asset D.reservoirAdapter dst amount)
      (fun s' => ∃ E, s' = s.withErc20 E ∧ Flow D.lendPool s.erc20 E 0 0 ∧
        Flow D.debtMarket s.erc20 E 0 0) (Error.Blameless D) := by
  refine safeTransfer_spec.mono (fun s' hs => ?_) fun e he => ?_
  · obtain ⟨E, rfl, hpaid⟩ := hs
    exact ⟨E, rfl, hpaid.others D.lendPool_ne_reservoirAdapter,
      hpaid.others D.debtMarket_ne_reservoirAdapter⟩
  · rcases he with he | ⟨rfl, -⟩
    · exact .inl he
    · exact .inr ⟨_, rfl, D.lendPool_ne_reservoirAdapter.symm,
        D.debtMarket_ne_reservoirAdapter.symm⟩

/-- The debt is paid by the adapter or by the treasury, which has given it an allowance. -/
theorem settleDebt_spec {loan : LoanData} {uToken : Address} {borrowAmount extraDebtAmount : ℕ}
    (hp : ∀ r c, (s.erc20 r).allowance D.lendPool c = 0)
    (hm : ∀ r c, (s.erc20 r).allowance D.debtMarket c = 0) :
    Sat (s.settleDebt D loan uToken borrowAmount extraDebtAmount)
      (fun s' => ∃ E, s' = s.withErc20 E ∧ Flow D.lendPool s.erc20 E 0 0 ∧
        Flow D.debtMarket s.erc20 E 0 0) (Error.Blameless D) := by
  refine Sat.ite (fun _ => ?_) fun _ => payByAdapter_spec
  refine Sat.bind (Sat.require fun _ => .inl trivial) fun _ hle => ?_
  refine safeTransferFrom_spec.mono (fun s' hs => ?_) fun e he => ?_
  · obtain ⟨E, rfl, hpaid, hent⟩ := hs
    exact ⟨E, rfl, hpaid.unentitled hent hp D.lendPool_ne_reservoirAdapter,
      hpaid.unentitled hent hm D.debtMarket_ne_reservoirAdapter⟩
  · rcases he with he | ⟨-, hlt⟩
    · exact .inl he
    · exact absurd hle (not_le.mpr hlt)

theorem settleRemainder_spec {loan : LoanData} {remainAmount bidFine : ℕ} :
    Sat (s.settleRemainder D loan remainAmount bidFine)
      (fun s' => ∃ E, s' = s.withErc20 E ∧ Flow D.lendPool s.erc20 E 0 0 ∧
        Flow D.debtMarket s.erc20 E 0 0) (Error.Blameless D) := by
  refine Sat.ite (fun _ => ?_) fun _ => payByAdapter_spec
  refine Sat.bind payByAdapter_spec fun s₁ h₁ => ?_
  obtain ⟨E, rfl, hp, hm⟩ := h₁
  refine Sat.imp payByAdapter_spec fun s₂ h₂ => ?_
  obtain ⟨E', rfl, hp', hm'⟩ := h₂
  exact ⟨E', rfl, hp.idleAnd hp', hm.idleAnd hm'⟩

/-- A standing bid goes back out of the pool, and nothing else leaves it. -/
theorem _settleLiquidation_spec {loan : LoanData} {uToken : Address}
    {borrowAmount extraDebtAmount remainAmount bidFine : ℕ}
    (hp : ∀ r c, (s.erc20 r).allowance D.lendPool c = 0)
    (hm : ∀ r c, (s.erc20 r).allowance D.debtMarket c = 0)
    (hfunds : loan.bidderAddress ≠ 0 →
      loan.state = .Auction ∧ loan.bidPrice ≤ (s.erc20 loan.reserveAsset).balanceOf D.lendPool) :
    Sat (s._settleLiquidation D loan uToken borrowAmount extraDebtAmount remainAmount bidFine)
      (fun s' => ∃ E, s' = s.withErc20 E ∧ Flow D.lendPool s.erc20 E 0 (LoanData.escrow · loan) ∧
        Flow D.debtMarket s.erc20 E 0 0) (Error.Blameless D) := by
  refine Sat.bind (settleDebt_spec hp hm) fun s₁ h₁ => ?_
  obtain ⟨E, rfl, hpool, hmarket⟩ := h₁
  refine Sat.andThen (P := fun s' => ∃ E', s' = (s.withErc20 E).withErc20 E' ∧
    Flow D.lendPool E E' 0 (LoanData.escrow · loan) ∧ Flow D.debtMarket E E' 0 0)
    ?_ (fun e (he : e.Benign) => .inl he) fun s₂ h₂ => ?_
  · refine Sat.applyIf (fun hb => ?_) fun _ => ⟨_, rfl, ?_, .refl _ _⟩
    · obtain ⟨hauction, hle⟩ := hfunds hb
      refine Sat.bind (Sat.require fun _ => trivial) fun _ _ => ?_
      refine Sat.imp (payByPool_spec (hle.trans (hpool.le _))) fun s' hs => ?_
      obtain ⟨E', rfl, hout, hothers⟩ := hs
      exact ⟨E', rfl, hout.weaken (fun _ => le_rfl) fun r =>
        (LoanData.escrow_of_auction hauction r).ge, hothers _ D.lendPool_ne_debtMarket.symm⟩
    · exact (Flow.refl _ _).weaken (fun _ => le_rfl) fun _ => Nat.zero_le _
  · obtain ⟨E', rfl, hpool', hmarket'⟩ := h₂
    refine Sat.imp settleRemainder_spec fun s₃ h₃ => ?_
    obtain ⟨E₃, rfl, hpool'', hmarket''⟩ := h₃
    exact ⟨E₃, rfl, (hpool.idleAnd hpool').andIdle hpool'',
      (hmarket.idleAnd hmarket').andIdle hmarket''⟩

theorem _performLoanChecks_spec {loanId : ℕ} :
    Sat (s._performLoanChecks loanId nftAsset tokenId) (fun _ => loanId ≠ 0) Error.Benign := by
  refine Sat.bind (Sat.require fun _ => trivial) fun _ hid => ?_
  refine Sat.bind (Sat.require fun _ => trivial) fun _ _ => ?_
  refine Sat.bind (Sat.require fun _ => trivial) fun _ _ => ?_
  exact (Sat.require fun _ => trivial).imp fun _ _ => hid

theorem calculateAvailableBorrows_benign {c d l : ℕ} :
    Sat (calculateAvailableBorrows c d l) (fun _ => True) Error.Benign :=
  Sat.bind unitMul_benign fun _ _ => trivial

theorem _validateLoanHealthFactor_benign :
    Sat (s._validateLoanHealthFactor nftAsset tokenId) (fun _ => True) Error.Benign := by
  refine Sat.bind (P := fun _ => True) (Sat.ite (fun _ => trivial) fun _ => ?_) fun _ _ =>
    Benign.of (Sat.require fun _ => trivial)
  refine Sat.bind calculateNftCollateralData_benign fun _ _ => ?_
  refine Sat.bind getLoanReserveBorrowAmount_benign fun _ _ => ?_
  refine Sat.bind calculateAvailableBorrows_benign fun _ _ => ?_
  refine Sat.bind (P := fun _ => True) (Sat.ite (fun _ => ?_) fun _ => trivial) fun _ _ => trivial
  exact calculateHealthFactorFromBalances_benign

theorem getNftAuctionData_benign :
    Sat (s.getNftAuctionData nftAsset tokenId) (fun _ => True) Error.Benign := by
  refine Sat.ite (fun _ => ?_) fun _ => Sat.bind calculateLoanBidFine_benign fun _ _ => ?_
  · exact trivial
  · exact trivial

/-- **`liquidateReservoir`.** The loan is closed and its bid given back, whatever the sale brought.
Rates are set on time if the reserve named is that of the loan, or the loan's is current anyway. -/
theorem liquidateReservoir_effect (h : Books D s) {caller reserveAsset module : Address}
    {sale : Sale D} {expectedLiquidateAmount : ℕ} :
    Sat (s.liquidateReservoir D caller nftAsset reserveAsset tokenId module sale
      expectedLiquidateAmount)
      (fun s' => (∃ lo ln d₀ d₁, Effect D s s' lo ln d₀ d₁) ∧
        ((s.lendPoolLoan.loans (s.lendPoolLoan.getCollateralLoanId nftAsset tokenId)).reserveAsset
            = reserveAsset ∨
          (s.lendPool.reserves (s.lendPoolLoan.loans
            (s.lendPoolLoan.getCollateralLoanId nftAsset tokenId)).reserveAsset).lastUpdateTimestamp
              = uint40 s.blockTimestamp →
          Timely s s'))
      (Error.OfSale D) := by
  refine Sat.bind (Sat.require fun _ => Error.Benign.ofSale _ trivial) fun _ _ => ?_
  refine Sat.bind (Sat.require fun _ => Error.Benign.ofSale _ trivial) fun _ _ => ?_
  refine Sat.andThen updateReserveState_spec Error.Benign.ofSale fun s₁ h₁ => ?_
  obtain ⟨-, Rs, U, rfl, hupd⟩ := h₁
  refine Sat.andThen _performLoanChecks_spec Error.Benign.ofSale fun _ hid => ?_
  change s.lendPoolLoan.getCollateralLoanId nftAsset tokenId ≠ 0 at hid
  obtain ⟨hheld, hlive, ha, ht⟩ := h.loans.held hid
  refine Sat.andThen _validateLoanHealthFactor_benign Error.Benign.ofSale fun _ _ => ?_
  refine Sat.andThen getNftAuctionData_benign Error.Benign.ofSale fun auction _ => ?_
  refine Sat.andThen getLoanReserveBorrowAmount_benign Error.Benign.ofSale fun borrowAmount _ => ?_
  refine Sat.andThen (closeLoan_reduced (by exact h.loans) (by exact h.receipts) (by exact hid)
    (by rfl) (by exact LendPoolLoan.liquidateLoanMarket_spec h.loans hid))
    Error.Benign.ofSale fun s₂ h₂ => ?_
  obtain ⟨L, C, N, l, rfl, hred⟩ := h₂
  refine Sat.andThen (sellNft_spec (by exact h.poolGuarded) (by exact h.marketGuarded))
    Error.Benign.ofSale fun s₃ h₃ => ?_
  obtain ⟨C', E, rfl, hpool, hmarket⟩ := h₃
  refine Sat.andThen checkedSub_benign Error.Benign.ofSale fun liquidatedAmount _ => ?_
  refine Sat.bind (Sat.require fun _ => Error.Benign.ofSale _ trivial) fun _ _ => ?_
  refine Sat.andThen burnDebt_spec ?_ fun s₄ h₄ => ?_
  · rintro e (he | ⟨rfl, -⟩)
    · exact Error.Benign.ofSale _ he
    · exact .inr ⟨_, rfl⟩
  obtain ⟨n, T, -, rfl, -⟩ := h₄
  refine Sat.andThen (cancelDebtListingIfExists_spec (by exact h.listings)
    (by exact fun r => (h.marketSolvent r).trans (hmarket.le r))) Error.Benign.ofSale
      fun s₅ h₅ => ?_
  obtain ⟨M, E', rfl, hc⟩ := h₅
  obtain ⟨d₀, d₁, hs⟩ := Cancelled.settled (s := s.withErc20 E) h.loans h.matched hc hred.move
    (hred.key.trans (Prod.ext ha ht)) hred.receipts
  refine Sat.andThen updateReserveInterestRates_spec Error.Benign.ofSale fun s₆ h₆ => ?_
  obtain ⟨Rs', rfl, hpriced⟩ := h₆
  have hidle := hpool.idleAnd (hs.others _ D.lendPool_ne_debtMarket)
  have hmarket' := hmarket.idleAnd hs.market
  refine Sat.mono (_settleLiquidation_spec (by exact hidle.guarded h.poolGuarded)
    (by exact hmarket'.guarded h.marketGuarded) fun hb =>
      (bid_le_pool h hheld (by exact hb)).imp_right fun hle =>
        le_trans hle (hidle.le _)) (fun s₇ h₇ => ?_) fun _ => .inl
  obtain ⟨E₃, rfl, hout, hmarket''⟩ := h₇
  refine ⟨⟨_, some l, d₀, d₁, rfl, hs.loans, hs.listings, hs.matched, hs.receipts,
    fun r => (hupd.ops r).trans (hpriced.ops r), ?_, hmarket'.andIdle hmarket''⟩,
      fun hcurrent => ?_⟩
  · exact (hidle.idleAnd hout).weaken (fun r => (hred.noBid r).le) fun _ => le_rfl
  · exact hupd.pricedTimely hpriced rfl rfl hcurrent

end State

end Unlockd

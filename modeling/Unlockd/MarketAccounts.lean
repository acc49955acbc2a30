/-
The accounts of the debt market and of the adapter.

A sale of a position hands the loan over, burns the seller's debt and mints it to the buyer;
the three ways to sell differ in who pays whom. A liquidation through the adapter contains
a sale on an outside market, whose payments stand in its account as they were made.
-/
import Unlockd.Accounts
import Unlockd.AdapterEffect

set_option autoImplicit false

namespace Unlockd

open Outcome Transfers LendPoolLoan DebtMarket

/-! ## Handing a position over -/

/-- A position went to `onBehalfOf`: the loan with its receipt, and as much debt as it owes at
the current index, burnt for the seller and minted for the buyer. -/
structure HandedOver (D : Deployment) (s : State) (loan : LoanData) (onBehalfOf : Address)
    (index : ℕ) (L : LendPoolLoan) (T : Address → DebtToken) : Prop where
  position : s.lendPoolLoan.reMintUNFT loan.nftAsset loan.nftTokenId loan.borrower
    onBehalfOf = .ok L
  debts : ∃ T₁, Burnt D.debtMarket loan.reserveAsset loan.borrower (loan.outstanding index) index
      s.debtTokens T₁ ∧
    Minted D.debtMarket loan.reserveAsset onBehalfOf onBehalfOf (loan.outstanding index) index T₁ T

/-- The listing on a token has been sold: it is closed as such and no longer found, and no other
has changed. -/
structure DebtMarket.Sold (M M' : DebtMarket) (nftAsset : Address) (tokenId : ℕ) : Prop where
  state : (M'.marketListings (M.getDebtId nftAsset tokenId)).state = .Sold
  gone : M'.getDebtId nftAsset tokenId = 0
  others : ∀ id, id ≠ M.getDebtId nftAsset tokenId → M'.marketListings id = M.marketListings id

theorem DebtMarket.Sold.noneNew {M M' : DebtMarket} {nftAsset : Address} {tokenId : ℕ}
    (h : M.Sold M' nftAsset tokenId) : M.NoneNew M' := by
  intro id hid
  refine h.others id fun heq => ?_
  subst heq
  rcases hid with hx | hx <;> rw [h.state] at hx <;> cases hx

/-- Writing the listing again before or after does not matter. -/
theorem DebtMarket.Sold.rewrite {M M' : DebtMarket} {nftAsset : Address} {tokenId : ℕ}
    {d : DebtMarketListing}
    (h : (M.setListing (M.getDebtId nftAsset tokenId) d).Sold M' nftAsset tokenId) :
    M.Sold M' nftAsset tokenId :=
  ⟨h.state, h.gone, fun id hid => (h.others id hid).trans (Function.update_of_ne hid _ _)⟩

namespace State

variable {D : Deployment} {s : State} {nftAsset caller onBehalfOf : Address} {tokenId amount : ℕ}

/-- The loan on a token. -/
def loanOn (s : State) (nftAsset : Address) (tokenId : ℕ) : LoanData :=
  s.lendPoolLoan.loans (s.lendPoolLoan.getCollateralLoanId nftAsset tokenId)

/-- The listing on a token. -/
def listingOn (s : State) (nftAsset : Address) (tokenId : ℕ) : DebtMarketListing :=
  s.debtMarket.marketListings (s.debtMarket.getDebtId nftAsset tokenId)

/-- Handing a loan over: its storage part, and tokens that are no reserve asset. -/
theorem reMintUNFT_stored {oldOnBehalfOf : Address} :
    Returns (s.reMintUNFT D nftAsset tokenId oldOnBehalfOf onBehalfOf)
      (fun s' => ∃ L C U, s' = s.onLoan L s.debtMarket s.erc20 C U ∧
        s.lendPoolLoan.reMintUNFT nftAsset tokenId oldOnBehalfOf onBehalfOf = .ok L) := by
  refine Returns.step fun L hL => Sat.bind (burnUNft_spec D).returns fun s₁ h₁ => ?_
  obtain ⟨-, C, m, rfl⟩ := h₁
  refine (mintUNft_spec D).returns.imp fun s₂ h₂ => ?_
  obtain ⟨-, -, C', m', rfl⟩ := h₂
  exact ⟨L, C', _, rfl, hL⟩

/-- **The account of `_transferDebt`.** No token of a reserve moves. -/
theorem _transferDebt_account : Returns (s._transferDebt D nftAsset tokenId onBehalfOf)
    (fun s' => s'.lockeyBalanceOf = s.lockeyBalanceOf ∧
      s'.lockeyDiscountOnDebtMarket = s.lockeyDiscountOnDebtMarket ∧
      s.debtMarket.Sold s'.debtMarket nftAsset tokenId ∧
        ∃ Rs L T, Account s s' (s.loanOn nftAsset tokenId).reserveAsset Rs L T s.yVault [] ∧
        HandedOver D s (s.loanOn nftAsset tokenId) onBehalfOf
          (Rs (s.loanOn nftAsset tokenId).reserveAsset).variableBorrowIndex L T) := by
  unfold _transferDebt getLoan loanOn
  dsimp only
  generalize hloan : s.lendPoolLoan.loans (s.lendPoolLoan.getCollateralLoanId nftAsset tokenId)
    = loan
  refine Sat.bind updateReserveState_posted fun s₁ h₁ => ?_
  obtain ⟨Rs, U, rfl, hupd, hidle⟩ := h₁
  refine Returns.step fun b hb => Returns.check fun _ => ?_
  have hout := hupd.outstanding (by exact hloan) (by rfl) (by rfl) hb
  refine Sat.bind burnDebt_posted fun s₂ h₂ => ?_
  obtain ⟨T₁, rfl, hburnt⟩ := h₂
  refine Sat.bind mintDebt_posted fun s₃ h₃ => ?_
  obtain ⟨T, rfl, hminted⟩ := h₃
  refine Sat.bind reMintUNFT_stored fun s₄ h₄ => ?_
  obtain ⟨L, C, N, rfl, hL⟩ := h₄
  refine Sat.bind updateReserveInterestRates_spec.returns fun s₅ h₅ => ?_
  obtain ⟨Rs', rfl, hpriced⟩ := h₅
  refine Returns.step fun M hM => ?_
  rw [hout] at hburnt hminted
  have hlistings := _deleteDebtOfferListing_listings hM
  have hgone := _deleteDebtOfferListing_gone hM
  have hsold : s.debtMarket.Sold M nftAsset tokenId := by
    refine ⟨?_, hgone, fun id hid => ?_⟩
    · rw [hlistings]
      exact setListing_state s.debtMarket _ _
    · rw [hlistings]
      exact Function.update_of_ne hid _ _
  exact ⟨rfl, rfl, hsold, Rs, L, T, ⟨rfl, rfl, hidle, hupd, hupd.thenPriced hpriced rfl,
    hpriced.index, rfl, rfl,
    rfl, hsold.noneNew, .nil _⟩, hL, T₁, hburnt, hminted⟩

/-! ## The three sales -/

/-- The price for the holder of a Lockey depends on the holdings and the discount alone. -/
theorem _priceForLockeyHolders_congr {s' : State} (hl : s'.lockeyBalanceOf = s.lockeyBalanceOf)
    (hd : s'.lockeyDiscountOnDebtMarket = s.lockeyDiscountOnDebtMarket) (marketPrice : ℕ) :
    s'._priceForLockeyHolders marketPrice onBehalfOf
      = s._priceForLockeyHolders marketPrice onBehalfOf := by
  unfold _priceForLockeyHolders
  rw [hl, hd]

/-- The refund of the bid on a listing, as `buy` and `bid` make it. -/
def bidRefund (D : Deployment) (d : DebtMarketListing) : List (Transfer Address Address) :=
  onlyIf (d.bidderAddress ≠ 0) ⟨d.reserveAsset, D.debtMarket, d.bidderAddress, d.bidPrice⟩

/-- **The account of `buy`.** The buyer pays the borrower of the loan, and the bid goes back. -/
theorem buy_account : Returns (s.buy D caller nftAsset tokenId onBehalfOf amount)
    (fun s' => s.debtMarket.getDebtId nftAsset tokenId ≠ 0 ∧
      s._priceForLockeyHolders (s.listingOn nftAsset tokenId).sellPrice onBehalfOf = .ok amount ∧
      s.debtMarket.Sold s'.debtMarket nftAsset tokenId ∧
        ∃ Rs L T, Account s s' (s.loanOn nftAsset tokenId).reserveAsset Rs L T s.yVault
          (⟨(s.loanOn nftAsset tokenId).reserveAsset, caller,
              (s.loanOn nftAsset tokenId).borrower, amount⟩ ::
            bidRefund D (s.listingOn nftAsset tokenId)) ∧
        HandedOver D s (s.loanOn nftAsset tokenId) onBehalfOf
          (Rs (s.loanOn nftAsset tokenId).reserveAsset).variableBorrowIndex L T) := by
  refine Returns.check fun _ => Sat.bind debtShouldExistGuard_spec.returns fun _ hid => ?_
  refine Returns.check fun _ => Returns.check fun _ => ?_
  refine Sat.bind _transferDebt_account fun s₁ h₁ => ?_
  obtain ⟨hlockeys, hdiscount, hsold, Rs, L, T, ha, hover⟩ := h₁
  refine Returns.step fun price hprice => Returns.check fun heq => ?_
  subst heq
  refine Sat.bind safeTransferFrom_posted fun s₂ h₂ => ?_
  obtain ⟨E, rfl, hpaid⟩ := h₂
  refine Sat.imp (applyIf_posted safeTransferFrom_posted) fun s₃ h₃ => ?_
  obtain ⟨E', rfl, hrefund⟩ := h₃
  rw [_priceForLockeyHolders_congr hlockeys hdiscount] at hprice
  exact ⟨hid, hprice, hsold, Rs, L, T, ⟨ha.blockTimestamp, ha.pool, ha.idle, ha.updated,
    ha.refreshed, ha.index,
    ha.loans, ha.debts, ha.vault, ha.listings, ha.payments.append (hpaid.append hrefund)⟩, hover⟩

/-- **The account of `claim`.** The market pays the debtor of the listing the winning bid. -/
theorem claim_account : Returns (s.claim D nftAsset tokenId onBehalfOf)
    (fun s' => s.debtMarket.getDebtId nftAsset tokenId ≠ 0 ∧
      onBehalfOf = (s.listingOn nftAsset tokenId).bidderAddress ∧
      s.debtMarket.Sold s'.debtMarket nftAsset tokenId ∧
        ∃ Rs L T, Account s s' (s.loanOn nftAsset tokenId).reserveAsset Rs L T s.yVault
          [⟨(s.listingOn nftAsset tokenId).reserveAsset, D.debtMarket,
            (s.listingOn nftAsset tokenId).debtor, (s.listingOn nftAsset tokenId).bidPrice⟩] ∧
        HandedOver D s (s.loanOn nftAsset tokenId) onBehalfOf
          (Rs (s.loanOn nftAsset tokenId).reserveAsset).variableBorrowIndex L T) := by
  refine Returns.check fun _ => Sat.bind debtShouldExistGuard_spec.returns fun _ hid => ?_
  refine Returns.check fun _ => Returns.check fun hto => Returns.check fun _ => ?_
  refine Sat.bind _transferDebt_account fun s₁ h₁ => ?_
  obtain ⟨-, -, hsold, Rs, L, T, ha, hover⟩ := h₁
  refine Sat.imp safeTransfer_posted fun s₂ h₂ => ?_
  obtain ⟨E, rfl, hpaid⟩ := h₂
  -- the listing was marked as sold once before
  have hsold' : s.debtMarket.Sold s₁.debtMarket nftAsset tokenId := .rewrite hsold
  exact ⟨hid, hto, hsold', Rs, L, T, ⟨ha.blockTimestamp, ha.pool, ha.idle, ha.updated,
    ha.refreshed, ha.index,
    ha.loans, ha.debts, ha.vault, hsold'.noneNew, ha.payments.append hpaid⟩,
      hover.position, hover.debts⟩

/-- Nothing but the market and the tokens of reserves has changed. -/
structure OnlyMarket (s s' : State) : Prop where
  blockTimestamp : s'.blockTimestamp = s.blockTimestamp
  lendPool : s'.lendPool = s.lendPool
  lendPoolLoan : s'.lendPoolLoan = s.lendPoolLoan
  debtTokens : s'.debtTokens = s.debtTokens
  uTokens : s'.uTokens = s.uTokens
  yVault : s'.yVault = s.yVault

/-- Whether a bid buys at once: it is at the sell price of a mixed listing. -/
def BuysAtOnce (s : State) (nftAsset : Address) (tokenId bidPrice : ℕ) (onBehalfOf : Address) :
    Prop :=
  s._priceForLockeyHolders (s.listingOn nftAsset tokenId).sellPrice onBehalfOf = .ok bidPrice ∧
    (s.listingOn nftAsset tokenId).sellType = .Mixed

/-- **The account of `bid`.** In both branches the price goes to the market and the bid before
goes back; a bid that buys at once also hands the position over, and any other only leaves
its mark on the listing. -/
theorem bid_account {bidPrice : ℕ} :
    Returns (s.bid D caller nftAsset tokenId bidPrice onBehalfOf)
    (fun s' => s.debtMarket.getDebtId nftAsset tokenId ≠ 0 ∧
      Posted (⟨(s.listingOn nftAsset tokenId).reserveAsset, caller, D.debtMarket, bidPrice⟩ ::
        bidRefund D (s.listingOn nftAsset tokenId)) s.erc20 s'.erc20 ∧
      ((s.BuysAtOnce nftAsset tokenId bidPrice onBehalfOf ∧
          s.debtMarket.Sold s'.debtMarket nftAsset tokenId ∧ ∃ Rs L T,
          Account s s' (s.loanOn nftAsset tokenId).reserveAsset Rs L T s.yVault
            (⟨(s.listingOn nftAsset tokenId).reserveAsset, caller, D.debtMarket, bidPrice⟩ ::
              bidRefund D (s.listingOn nftAsset tokenId)) ∧
          HandedOver D s (s.loanOn nftAsset tokenId) onBehalfOf
            (Rs (s.loanOn nftAsset tokenId).reserveAsset).variableBorrowIndex L T) ∨
        (¬ s.BuysAtOnce nftAsset tokenId bidPrice onBehalfOf ∧ s.OnlyMarket s' ∧
          s'.debtMarket = s.debtMarket.setListing (s.debtMarket.getDebtId nftAsset tokenId)
            { s.listingOn nftAsset tokenId with
              state := .Active, bidderAddress := onBehalfOf, bidPrice := bidPrice }))) := by
  refine Returns.check fun _ => Sat.bind debtShouldExistGuard_spec.returns fun _ hid => ?_
  refine Returns.step fun sellPrice hprice => Returns.check fun _ => Returns.check fun _ => ?_
  refine Returns.check fun _ => Returns.check fun _ => ?_
  have hbuys : s.BuysAtOnce nftAsset tokenId bidPrice onBehalfOf ↔
      bidPrice = sellPrice ∧ (s.listingOn nftAsset tokenId).sellType = .Mixed := by
    refine and_congr_left fun _ => ?_
    unfold listingOn getDebtId
    rw [hprice]
    exact ⟨fun h => (Except.ok.inj h).symm, fun h => congrArg _ h.symm⟩
  by_cases hsale : s.BuysAtOnce nftAsset tokenId bidPrice onBehalfOf
  · -- the position is handed over before the money moves
    refine Sat.bind (P := fun s₁ => s.debtMarket.Sold s₁.debtMarket nftAsset tokenId ∧ ∃ Rs L T,
        Account s s₁ (s.loanOn nftAsset tokenId).reserveAsset Rs L T s.yVault [] ∧
        HandedOver D s (s.loanOn nftAsset tokenId) onBehalfOf
          (Rs (s.loanOn nftAsset tokenId).reserveAsset).variableBorrowIndex L T)
      (Sat.ite (fun _ => ?_) fun hno => absurd (hbuys.mp hsale) hno) fun s₁ h₁ => ?_
    · exact _transferDebt_account.imp fun _ h => h.2.2
    obtain ⟨hsold, Rs, L, T, ha, hover⟩ := h₁
    refine Sat.bind safeTransferFrom_posted fun s₂ h₂ => ?_
    obtain ⟨E, rfl, hpaid⟩ := h₂
    refine Sat.imp (applyIf_posted safeTransferFrom_posted) fun s₃ h₃ => ?_
    obtain ⟨E', rfl, hrefund⟩ := h₃
    have hposted := ha.payments.append (hpaid.append hrefund)
    -- the bid is written on a listing that is already sold
    have hsold' : s.debtMarket.Sold (s₁.debtMarket.setListing
        (s.debtMarket.getDebtId nftAsset tokenId) { s₁.debtMarket.marketListings
          (s.debtMarket.getDebtId nftAsset tokenId) with
          bidderAddress := onBehalfOf, bidPrice := bidPrice }) nftAsset tokenId := by
      refine ⟨?_, hsold.gone, fun id hid => ?_⟩
      · exact (setListing_state s₁.debtMarket _ _).trans hsold.state
      · exact (Function.update_of_ne hid _ _).trans (hsold.others id hid)
    exact ⟨hid, hposted, .inl ⟨hsale, hsold', Rs, L, T,
      ⟨ha.blockTimestamp, ha.pool, ha.idle, ha.updated, ha.refreshed,
      ha.index, ha.loans, ha.debts, ha.vault, hsold'.noneNew, hposted⟩, hover⟩⟩
  · refine Sat.bind (P := fun s₁ => s₁ = s.setDebtMarket (s.debtMarket.setListing
        (s.debtMarket.getDebtId nftAsset tokenId)
        { s.listingOn nftAsset tokenId with state := .Active }))
      (Sat.ite (fun hyes => absurd (hbuys.mpr hyes) hsale) fun _ => ?_) fun s₁ h₁ => ?_
    · exact Returns.step fun _ _ => Returns.check fun _ => rfl
    subst h₁
    refine Sat.bind safeTransferFrom_posted fun s₂ h₂ => ?_
    obtain ⟨E, rfl, hpaid⟩ := h₂
    refine Sat.imp (applyIf_posted safeTransferFrom_posted) fun s₃ h₃ => ?_
    obtain ⟨E', rfl, hrefund⟩ := h₃
    refine ⟨hid, hpaid.append hrefund, .inr ⟨hsale, ⟨rfl, rfl, rfl, rfl, rfl, rfl⟩, ?_⟩⟩
    exact setListing_bidBy s.debtMarket _ _ onBehalfOf bidPrice

end State

/-! ## Liquidation through the adapter -/

/-- A payment of a sale, as a transfer. -/
def Payment.transfer {D : Deployment} (p : Payment D) : Transfer Address Address :=
  ⟨p.asset, p.payer, p.payee, p.amount⟩

namespace State

variable {D : Deployment} {s : State}

theorem pay_posted (p : Payment D) : Returns (s.pay D p)
    (fun s' => ∃ E, s' = s.withErc20 E ∧ Posted [p.transfer] s.erc20 E) := by
  refine Sat.ite (fun hp => ?_) fun _ => safeTransferFrom_posted
  rw [Payment.transfer, hp]
  exact safeTransfer_posted

/-- The payments of a sale, one after the other. -/
theorem paySale_posted (payments : List (Payment D)) : Returns (s.paySale D payments)
    (fun s' => ∃ E, s' = s.withErc20 E ∧ Posted (payments.map Payment.transfer) s.erc20 E) := by
  induction payments generalizing s with
  | nil => exact ⟨s.erc20, rfl, .nil _⟩
  | cons p payments ih =>
    refine Sat.bind (pay_posted p) fun s₁ h₁ => ?_
    obtain ⟨E, rfl, hpaid⟩ := h₁
    refine Sat.imp ih fun s₂ h₂ => ?_
    obtain ⟨E', rfl, hrest⟩ := h₂
    exact ⟨E', rfl, hpaid.append hrest⟩

theorem sellNft_posted {nftAsset module : Address} {tokenId : ℕ} {sale : Sale D} :
    Returns (s.sellNft D nftAsset tokenId module sale)
      (fun s' => ∃ E C, s' = (s.withErc721 C).withErc20 E ∧
        Posted (sale.payments.map Payment.transfer) s.erc20 E) := by
  refine (Sat.returned _).imp fun s' hs' => ?_
  obtain ⟨C, hpaid⟩ := sellNft_paid hs'
  obtain ⟨E, rfl, hsale⟩ := (paySale_posted sale.payments).ok hpaid
  exact ⟨E, C, rfl, hsale⟩

/-- The payments with which the adapter settles: the debt, from its own balance or, where the
sale fell short, the shortfall from the treasury; the standing bid; and the remainder. -/
def settlement (D : Deployment) (s : State) (loan : LoanData) (uToken : Address)
    (borrowAmount extraDebtAmount remainAmount bidFine : ℕ) : List (Transfer Address Address) :=
  (if extraDebtAmount ≠ 0 then
      ⟨loan.reserveAsset, (s.uTokens loan.reserveAsset).treasury, uToken, extraDebtAmount⟩
    else ⟨loan.reserveAsset, D.reservoirAdapter, uToken, borrowAmount⟩) ::
  (onlyIf (loan.bidderAddress ≠ 0)
      ⟨loan.reserveAsset, D.lendPool, loan.bidderAddress, loan.bidPrice⟩ ++
    if remainAmount > bidFine then
      [⟨loan.reserveAsset, D.reservoirAdapter, loan.firstBidderAddress, bidFine⟩,
        ⟨loan.reserveAsset, D.reservoirAdapter, loan.borrower, remainAmount - bidFine⟩]
    else [⟨loan.reserveAsset, D.reservoirAdapter, loan.firstBidderAddress, remainAmount⟩])

theorem _settleLiquidation_posted {loan : LoanData} {uToken : Address}
    {borrowAmount extraDebtAmount remainAmount bidFine : ℕ} :
    Returns (s._settleLiquidation D loan uToken borrowAmount extraDebtAmount remainAmount bidFine)
      (fun s' => ∃ E, s' = s.withErc20 E ∧
        Posted (settlement D s loan uToken borrowAmount extraDebtAmount remainAmount bidFine)
          s.erc20 E) := by
  refine Sat.bind (P := fun s₁ => ∃ E, s₁ = s.withErc20 E ∧
    Posted [if extraDebtAmount ≠ 0 then
        ⟨loan.reserveAsset, (s.uTokens loan.reserveAsset).treasury, uToken, extraDebtAmount⟩
      else ⟨loan.reserveAsset, D.reservoirAdapter, uToken, borrowAmount⟩] s.erc20 E)
    (Sat.ite (fun hextra => ?_) fun hextra => ?_) fun s₁ h₁ => ?_
  · rw [if_pos hextra]
    exact Returns.check fun _ => safeTransferFrom_posted
  · rw [if_neg hextra]
    exact safeTransfer_posted
  obtain ⟨E, rfl, hdebt⟩ := h₁
  refine Sat.bind (applyIf_posted (Returns.check fun _ => safeTransfer_posted)) fun s₂ h₂ => ?_
  obtain ⟨E', rfl, hbid⟩ := h₂
  refine Sat.imp (Q := fun s₃ => ∃ E, s₃ = s.withErc20 E ∧ Posted (if remainAmount > bidFine then
      [⟨loan.reserveAsset, D.reservoirAdapter, loan.firstBidderAddress, bidFine⟩,
        ⟨loan.reserveAsset, D.reservoirAdapter, loan.borrower, remainAmount - bidFine⟩]
    else [⟨loan.reserveAsset, D.reservoirAdapter, loan.firstBidderAddress, remainAmount⟩]) E' E)
    (Sat.ite (fun hlt => ?_) fun hlt => ?_) fun s₃ h₃ => ?_
  · rw [if_pos hlt]
    refine Sat.bind safeTransfer_posted fun s₃ h₃ => ?_
    obtain ⟨E₁, rfl, hfine⟩ := h₃
    refine Sat.imp safeTransfer_posted fun s₄ h₄ => ?_
    obtain ⟨E₂, rfl, hrest⟩ := h₄
    exact ⟨E₂, rfl, hfine.append hrest⟩
  · rw [if_neg hlt]
    exact safeTransfer_posted
  obtain ⟨E'', rfl, hrest⟩ := h₃
  exact ⟨E'', rfl, hdebt.append (hbid.append hrest)⟩

/-- The debt of the loan on a token as the adapter finds it: the reserve it has brought up to date
is the one named by the liquidator. -/
def saleDebt (s : State) (nftAsset reserveAsset : Address) (tokenId : ℕ) : Except Error ℕ := do
  let s₁ ← s.updateReserveState reserveAsset
  s₁.getLoanReserveBorrowAmount (s₁.lendPoolLoan.getCollateralLoanId nftAsset tokenId)

/-- The account of a liquidation through the adapter. The reserve brought up to date is the
one named; the vault is not touched. -/
structure SaleAccount (D : Deployment) (s s' : State) (nftAsset reserveAsset : Address)
    (tokenId : ℕ) (sale : Sale D) (Rs : Address → ReserveData) (L : LendPoolLoan)
    (T : Address → DebtToken) (b liquidatedAmount bidFine : ℕ) : Prop where
  blockTimestamp : s'.blockTimestamp = s.blockTimestamp
  pool : s.OnlyReserves s'
  idle : s.LeavesIdle s'.uTokens
  updated : s.Updated reserveAsset Rs
  loans : s'.lendPoolLoan = L
  debts : s'.debtTokens = T
  vault : s'.yVault = s.yVault
  listings : s.debtMarket.NoneNew s'.debtMarket
  amount : s.saleDebt nftAsset reserveAsset tokenId = .ok b
  proxies : ∀ r, (s'.lendPool.reserves r).uTokenAddress = (s.lendPool.reserves r).uTokenAddress
  configurations : ∀ r,
    (s'.lendPool.reserves r).configuration = (s.lendPool.reserves r).configuration
  held : s.lendPoolLoan.getCollateralLoanId nftAsset tokenId ≠ 0
  closed : s.lendPoolLoan.liquidateLoanMarket D.reservoirAdapter
    (s.lendPoolLoan.getCollateralLoanId nftAsset tokenId) = .ok L
  burnt : Burnt D.reservoirAdapter (s.loanOn nftAsset tokenId).reserveAsset
    (s.loanOn nftAsset tokenId).borrower b
    (Rs (s.loanOn nftAsset tokenId).reserveAsset).variableBorrowIndex s.debtTokens T
  payments : ∃ U : Address → UToken, Posted (sale.payments.map Payment.transfer ++
    (s.listingRefund D nftAsset tokenId ++
      settlement D (s.withUTokens U) (s.loanOn nftAsset tokenId)
        (Rs (s.loanOn nftAsset tokenId).reserveAsset).uTokenAddress b (b - liquidatedAmount)
        (liquidatedAmount - b) bidFine)) s.erc20 s'.erc20

end State

/-! ## The funds of such a sale

The settlement depends on what the sale brought in, and on two things the account leaves open: the
fine, and the treasury. A payment also tells of its payee, which one kind of token refuses when it
is the zero address. -/

/-- What a sale brings a holder in an asset. -/
def proceeds {D : Deployment} (sale : Sale D) (asset holder : Address) : ℕ :=
  received (sale.payments.map Payment.transfer) asset holder
    - sent (sale.payments.map Payment.transfer) asset holder

namespace State

variable {D : Deployment} {s : State} {nftAsset : Address} {tokenId : ℕ}

/-- No token changes its kind. -/
def SameKinds (E E' : Address → Erc20) : Prop := ∀ r, (E' r).kind = (E r).kind

theorem SameKinds.trans {E E' E'' : Address → Erc20} (h : SameKinds E E')
    (h' : SameKinds E' E'') : SameKinds E E'' :=
  fun r => (h' r).trans (h r)

theorem Paid.sameKinds {asset src dst : Address} {amount : ℕ} {E E' : Address → Erc20}
    (p : Paid asset src dst amount E E') : SameKinds E E' := by
  intro r
  by_cases hr : r = asset
  · subst hr
    exact p.2.kind
  · rw [p.1 r hr]

theorem safeTransferFrom_sameKinds {asset caller src dst : Address} {amount : ℕ} :
    Returns (s.safeTransferFrom asset caller src dst amount)
      (fun s' => SameKinds s.erc20 s'.erc20) := by
  refine safeTransferFrom_spec.returns.imp fun s' h => ?_
  obtain ⟨E, rfl, hpaid, -⟩ := h
  exact hpaid.sameKinds

theorem safeTransfer_sameKinds {asset caller dst : Address} {amount : ℕ} :
    Returns (s.safeTransfer asset caller dst amount)
      (fun s' => SameKinds s.erc20 s'.erc20) := by
  refine safeTransfer_spec.returns.imp fun s' h => ?_
  obtain ⟨E, rfl, hpaid⟩ := h
  exact hpaid.sameKinds

/-- OpenZeppelin's tokens are not sent to the zero address. -/
theorem safeTransfer_payee {asset caller dst : Address} {amount : ℕ}
    (hkind : (s.erc20 asset).kind = .openZeppelin) :
    Returns (s.safeTransfer asset caller dst amount) (fun _ => dst ≠ 0) := by
  refine Returns.step fun e he => ?_
  obtain ⟨hpayee, -⟩ := require_bind_eq_ok.mp he
  exact (hpayee hkind).2

theorem paySale_sameKinds (payments : List (Payment D)) :
    Returns (s.paySale D payments) (fun s' => SameKinds s.erc20 s'.erc20) := by
  induction payments generalizing s with
  | nil => exact fun _ => rfl
  | cons p payments ih =>
    refine Sat.bind (P := fun s' => SameKinds s.erc20 s'.erc20) ?_ fun s₁ h₁ => ?_
    · exact Sat.ite (fun _ => safeTransfer_sameKinds) fun _ => safeTransferFrom_sameKinds
    · exact ih.imp fun s₂ h₂ => h₁.trans h₂

theorem sellNft_sameKinds {module : Address} {sale : Sale D} :
    Returns (s.sellNft D nftAsset tokenId module sale)
      (fun s' => SameKinds s.erc20 s'.erc20) := by
  refine (Sat.returned _).imp fun s' hs' => ?_
  obtain ⟨C, hpaid⟩ := sellNft_paid hs'
  exact (paySale_sameKinds (s := s.withErc721 C) sale.payments).ok hpaid

theorem cancelDebtListingIfExists_sameKinds {caller : Address} :
    Returns (s.cancelDebtListingIfExists D caller nftAsset tokenId)
      (fun s' => SameKinds s.erc20 s'.erc20) := by
  refine Sat.applyIf (fun _ => ?_) fun _ _ => rfl
  refine Returns.check fun _ => Returns.step fun _ _ => Returns.step fun M _ => ?_
  exact Sat.applyIf (fun _ => safeTransferFrom_sameKinds) fun _ _ => rfl

/-- Minting to the treasury does not move the treasury. -/
theorem updateState_treasury {asset : Address} : Returns (s.updateState asset)
    (fun s' => ∀ r, (s'.uTokens r).treasury = (s.uTokens r).treasury) := by
  refine Returns.step fun R _ => Returns.step fun n _ => ?_
  refine Sat.bind (P := fun u => u.treasury = (s.uTokens asset).treasury) ?_ fun u hu r => ?_
  · refine Sat.ite (fun _ => rfl) fun _ => Returns.step fun _ _ => ?_
    exact Returns.check fun _ => rfl
  · simp only [setUToken, setReserve, Function.update_apply]
    split
    · rename_i hr
      rw [hr]
      exact hu
    · rfl

theorem updateReserveState_treasury {asset : Address} : Returns (s.updateReserveState asset)
    (fun s' => ∀ r, (s'.uTokens r).treasury = (s.uTokens r).treasury) :=
  Returns.check fun _ => Returns.check fun _ => updateState_treasury

/-- A settlement is paid to a first bidder, in tokens that want a payee. -/
theorem _settleLiquidation_payee {loan : LoanData} {uToken : Address}
    {borrowAmount extraDebtAmount remainAmount bidFine : ℕ}
    (hkind : (s.erc20 loan.reserveAsset).kind = .openZeppelin) :
    Returns (s._settleLiquidation D loan uToken borrowAmount extraDebtAmount remainAmount bidFine)
      (fun _ => loan.firstBidderAddress ≠ 0) := by
  refine Sat.bind (P := fun s' => SameKinds s.erc20 s'.erc20) ?_ fun s₁ h₁ => ?_
  · refine Sat.ite (fun _ => Returns.check fun _ => ?_) fun _ => safeTransfer_sameKinds
    exact safeTransferFrom_sameKinds
  refine Sat.bind (P := fun s' => SameKinds s₁.erc20 s'.erc20) ?_ fun s₂ h₂ => ?_
  · refine Sat.applyIf (fun _ => Returns.check fun _ => ?_) fun _ _ => rfl
    exact safeTransfer_sameKinds
  have hkind₂ := ((h₁.trans h₂) loan.reserveAsset).trans hkind
  refine Sat.ite (fun _ => ?_) fun _ => safeTransfer_payee hkind₂
  exact Returns.step fun s₃ h₃ => (Sat.returned _).imp fun _ _ => (safeTransfer_payee hkind₂).ok h₃

/-- The funds of a sale: the state in which the adapter looked at the loan and took its debt and its
fine, and the payments, down to what they were reckoned from. -/
structure SaleFunds (D : Deployment) (s s' s₁ : State) (nftAsset reserveAsset : Address)
    (tokenId : ℕ) (sale : Sale D) (b : ℕ) (auction : NftAuctionData) : Prop where
  upToDate : s.updateReserveState reserveAsset = .ok s₁
  unhealthy : s₁._validateLoanHealthFactor nftAsset tokenId = .ok ()
  fine : s₁.getNftAuctionData nftAsset tokenId = .ok auction
  debt : s₁.getLoanReserveBorrowAmount (s₁.lendPoolLoan.getCollateralLoanId nftAsset tokenId)
    = .ok b
  covered : sent (sale.payments.map Payment.transfer) (s.loanOn nftAsset tokenId).reserveAsset
      D.reservoirAdapter
    ≤ received (sale.payments.map Payment.transfer) (s.loanOn nftAsset tokenId).reserveAsset
      D.reservoirAdapter
  payments : Posted (sale.payments.map Payment.transfer ++ (s.listingRefund D nftAsset tokenId ++
    settlement D s (s.loanOn nftAsset tokenId)
      (s.lendPool.reserves (s.loanOn nftAsset tokenId).reserveAsset).uTokenAddress b
      (b - proceeds sale (s.loanOn nftAsset tokenId).reserveAsset D.reservoirAdapter)
      (proceeds sale (s.loanOn nftAsset tokenId).reserveAsset D.reservoirAdapter - b)
      auction.bidFine)) s.erc20 s'.erc20
  payee : (s.erc20 (s.loanOn nftAsset tokenId).reserveAsset).kind = .openZeppelin →
    (s.loanOn nftAsset tokenId).firstBidderAddress ≠ 0

/-- What the adapter counts is what the sale brought it. -/
theorem proceeds_eq {asset holder : Address} {sale : Sale D} {E : Address → Erc20}
    {n : ℕ} (hsale : Posted (sale.payments.map Payment.transfer) s.erc20 E)
    (hcount : (s.erc20 asset).balanceOf holder ≤ (E asset).balanceOf holder ∧
      n = (E asset).balanceOf holder - (s.erc20 asset).balanceOf holder) :
    sent (sale.payments.map Payment.transfer) asset holder
        ≤ received (sale.payments.map Payment.transfer) asset holder ∧
      n = proceeds sale asset holder := by
  have hbooked := hsale asset holder
  dsimp only at hbooked
  unfold proceeds
  omega

/-- **The course of `liquidateReservoir`.** -/
theorem liquidateReservoir_course {caller reserveAsset module : Address}
    {sale : Sale D} {expectedLiquidateAmount : ℕ} :
    Returns (s.liquidateReservoir D caller nftAsset reserveAsset tokenId module sale
        expectedLiquidateAmount)
      (fun s' => ∃ Rs L T b liquidatedAmount bidFine s₁ auction,
        SaleAccount D s s' nftAsset reserveAsset tokenId sale Rs L T b liquidatedAmount bidFine ∧
        SaleFunds D s s' s₁ nftAsset reserveAsset tokenId sale b auction) := by
  refine Returns.check fun _ => Returns.check fun _ => ?_
  refine Sat.bind ((updateReserveState_posted.and updateReserveState_treasury).and
    (Sat.returned _)).returns fun s₁ h₁ => ?_
  obtain ⟨⟨⟨Rs, U, rfl, hupd, hidle⟩, htreasury⟩, hreserve⟩ := h₁
  refine Sat.bind (P := fun _ => s.lendPoolLoan.getCollateralLoanId nftAsset tokenId ≠ 0) ?_
    fun _ hid => ?_
  · refine Returns.check fun hid => Returns.check fun _ => Returns.check fun _ => ?_
    exact (Sat.require fun _ => trivial).imp fun _ _ => hid
  refine Returns.step fun _ hhealth => Returns.step fun auction hauction => ?_
  refine Returns.step fun b hb => ?_
  refine Sat.bind closeLoan_stored fun s₂ h₂ => ?_
  obtain ⟨L, C, N, rfl, hL⟩ := h₂
  refine Sat.bind (sellNft_posted.and sellNft_sameKinds).returns fun s₃ h₃ => ?_
  obtain ⟨⟨E, C', rfl, hsale⟩, hkinds⟩ := h₃
  refine Sat.bind checkedSub_benign.returns fun liquidatedAmount hcount =>
    Returns.check fun _ => ?_
  obtain ⟨hcovered, hproceeds⟩ : _ ∧ liquidatedAmount
      = proceeds sale (s.loanOn nftAsset tokenId).reserveAsset D.reservoirAdapter :=
    proceeds_eq (s := s) hsale hcount
  refine Sat.bind burnDebt_posted fun s₄ h₄ => ?_
  obtain ⟨T, rfl, hburnt⟩ := h₄
  refine Sat.bind (cancelDebtListingIfExists_posted.and
    cancelDebtListingIfExists_sameKinds).returns fun s₅ h₅ => ?_
  obtain ⟨⟨M, E', rfl, hlistings, hrefund⟩, hkinds'⟩ := h₅
  refine Sat.bind updateReserveInterestRates_spec.returns fun s₆ h₆ => ?_
  obtain ⟨Rs', rfl, hpriced⟩ := h₆
  refine (_settleLiquidation_posted.and (Sat.returned _)).returns.imp fun s₇ h₇ => ?_
  obtain ⟨⟨E'', rfl, hsettled⟩, hreturned⟩ := h₇
  -- the uToken and its treasury are those from before the update
  have hu : (Rs (s.loanOn nftAsset tokenId).reserveAsset).uTokenAddress
      = (s.lendPool.reserves (s.loanOn nftAsset tokenId).reserveAsset).uTokenAddress :=
    (hupd.ops _).grown.uTokenAddress
  have hposted := hsale.append (hrefund.append hsettled)
  refine ⟨Rs, L, T, b, liquidatedAmount, auction.bidFine, _, auction, ⟨rfl, rfl, hidle, hupd, rfl,
    rfl, rfl, hlistings, ?_, fun r => ?_,
    fun r => (hpriced.configuration r).trans (hupd.configuration r), hid, hL, hburnt,
    U, hposted⟩, ⟨hreserve, hhealth, hauction, hb, hcovered, ?_, fun hkind => ?_⟩⟩
  · rw [saleDebt, hreserve]
    exact hb
  · exact ((hpriced.ops r).grown.uTokenAddress).trans (hupd.ops r).grown.uTokenAddress
  · have htreasury' : (U (s.loanOn nftAsset tokenId).reserveAsset).treasury
        = (s.uTokens (s.loanOn nftAsset tokenId).reserveAsset).treasury := htreasury _
    rw [← hproceeds, ← hu]
    unfold settlement at hposted ⊢
    rw [← htreasury']
    exact hposted
  · have hkind' := ((hkinds.trans hkinds') _).trans hkind
    exact (_settleLiquidation_payee (by exact hkind')).ok hreturned

/-- **The account of `liquidateReservoir`.** -/
theorem liquidateReservoir_account {caller nftAsset reserveAsset module : Address} {tokenId : ℕ}
    {sale : Sale D} {expectedLiquidateAmount : ℕ} :
    Returns (s.liquidateReservoir D caller nftAsset reserveAsset tokenId module sale
        expectedLiquidateAmount)
      (fun s' => ∃ Rs L T b liquidatedAmount bidFine,
        SaleAccount D s s' nftAsset reserveAsset tokenId sale Rs L T b liquidatedAmount
          bidFine) := by
  refine liquidateReservoir_course.imp fun s' h => ?_
  obtain ⟨Rs, L, T, b, liquidatedAmount, bidFine, -, -, haccount, -⟩ := h
  exact ⟨Rs, L, T, b, liquidatedAmount, bidFine, haccount⟩

end State

end Unlockd

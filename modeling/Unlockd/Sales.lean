/-
Sales of debt listings.

A listing is sold by a purchase at its price, by the claim of a finished auction, or by a bid at
the price of a listing that may be bought too. Each of them should bring the price from the
buyer to the debtor of the listing, return the standing bid, and leave none of the money of
the listing in the market, where nothing could release it any more. The purchase pays the
borrower of the loan, whom the listing need not name; the claim pays the debtor; the bid pays
the market. Which of them settle a sale is therefore an exact condition on the price and on
those three accounts.
-/
import Unlockd.Consent

set_option autoImplicit false

namespace Unlockd

open Outcome Transfers LendPoolLoan

/-! ## What a sale should do -/

/-- A sale of the listing on a token has been settled: the price went from the payer to the debtor
of the listing, the standing bid went back as `refund` says, and no other balance moved; the
market gave up just what it held for the listing, which is closed as sold and found no more. -/
structure SaleSettled (D : Deployment) (s s' : State) (nftAsset : Address) (tokenId : ℕ)
    (payer : Address) (price : ℕ) (refund : List (Transfer Address Address)) : Prop where
  paid : Posted (⟨(s.listingOn nftAsset tokenId).reserveAsset, payer,
    (s.listingOn nftAsset tokenId).debtor, price⟩ :: refund) s.erc20 s'.erc20
  cleared : (s'.erc20 (s.listingOn nftAsset tokenId).reserveAsset).balanceOf D.debtMarket
      + (s.listingOn nftAsset tokenId).escrow (s.listingOn nftAsset tokenId).reserveAsset
    = (s.erc20 (s.listingOn nftAsset tokenId).reserveAsset).balanceOf D.debtMarket
  sold : s.debtMarket.Sold s'.debtMarket nftAsset tokenId

section Sales

variable {D : Deployment} {s s' : State} {sender nftAsset onBehalfOf : Address} {tokenId : ℕ}

/-! ## What a sale does

The market's own balance first, for a listing whose buyer pays from its wallet: the price comes
in if the market is the payee, and the standing bid stays if the market is its bidder. -/

/-- The bid of an open listing is what the market holds for it. -/
theorem DebtMarketListing.escrow_eq {d : DebtMarketListing} (hopen : d.isOpen) :
    d.escrow d.reserveAsset = if d.bidderAddress ≠ 0 then d.bidPrice else 0 := by
  unfold DebtMarketListing.escrow
  by_cases hb : d.bidderAddress ≠ 0
  · rw [if_pos ⟨hopen, rfl, hb⟩, if_pos hb]
  · rw [if_neg fun hx => hb hx.2.2, if_neg hb]

theorem cleared_iff {d : DebtMarketListing} (hopen : d.isOpen) {payee : Address} {price : ℕ}
    {E E' : Address → Erc20} (hsender : sender ≠ D.debtMarket)
    (h : Posted (⟨d.reserveAsset, sender, payee, price⟩ :: State.bidRefund D d) E E') :
    (E' d.reserveAsset).balanceOf D.debtMarket + d.escrow d.reserveAsset
        = (E d.reserveAsset).balanceOf D.debtMarket ↔
      (payee = D.debtMarket → price = 0) ∧ (d.bidderAddress = D.debtMarket → d.bidPrice = 0) := by
  have hmarket := h d.reserveAsset D.debtMarket
  rw [DebtMarketListing.escrow_eq hopen]
  -- the two payments that can stay with the market
  rw [← ite_eq_right_iff (p := payee = D.debtMarket), ← ite_eq_right_iff (p := _ = D.debtMarket)]
  unfold State.bidRefund at hmarket
  by_cases hb : d.bidderAddress ≠ 0
  · rw [onlyIf_of hb] at hmarket
    rw [if_pos hb]
    simp only [sent_cons, received_cons, sent_nil, received_nil, true_and, hsender, if_false,
      if_true] at hmarket
    omega
  · have hd : d.bidderAddress ≠ D.debtMarket := by
      rw [not_not.mp hb]
      exact D.debtMarket_ne_zero.symm
    rw [onlyIf_of_not hb] at hmarket
    rw [if_neg hb, if_neg hd]
    simp only [sent_cons, received_cons, sent_nil, received_nil, true_and, hsender, if_false]
      at hmarket
    omega

/-- Where the buyer pays from its wallet, the sale is settled just when the payee is the debtor and
not the market, or the price is nothing, and no standing bid belongs to the market. -/
theorem saleSettled_iff (h : Books D s) (hid : s.debtMarket.getDebtId nftAsset tokenId ≠ 0)
    {payee : Address} {price : ℕ} (hsender : sender ≠ D.debtMarket)
    (hposted : Posted (⟨(s.listingOn nftAsset tokenId).reserveAsset, sender, payee, price⟩ ::
      State.bidRefund D (s.listingOn nftAsset tokenId)) s.erc20 s'.erc20)
    (hsold : s.debtMarket.Sold s'.debtMarket nftAsset tokenId) :
    SaleSettled D s s' nftAsset tokenId sender price
        (State.bidRefund D (s.listingOn nftAsset tokenId)) ↔
      (price = 0 ∨ payee = (s.listingOn nftAsset tokenId).debtor ∧ payee ≠ D.debtMarket) ∧
      ((s.listingOn nftAsset tokenId).bidderAddress = D.debtMarket →
        (s.listingOn nftAsset tokenId).bidPrice = 0) := by
  have hopen : (s.listingOn nftAsset tokenId).isOpen := (h.listings.held hid).2.1
  have hpaid : Posted (⟨_, _, (s.listingOn nftAsset tokenId).debtor, price⟩ :: _) s.erc20 s'.erc20 ↔
      price = 0 ∨ payee = (s.listingOn nftAsset tokenId).debtor := Booked.payee_iff hposted
  have hcleared := cleared_iff hopen hsender hposted
  constructor
  · intro hsettled
    obtain ⟨hprice, hbid⟩ := hcleared.mp hsettled.cleared
    refine ⟨?_, hbid⟩
    rcases hpaid.mp hsettled.paid with hz | hpayee
    · exact .inl hz
    · by_cases hm : payee = D.debtMarket
      · exact .inl (hprice hm)
      · exact .inr ⟨hpayee, hm⟩
  · rintro ⟨hcond, hbid⟩
    refine ⟨hpaid.mpr (hcond.imp_right And.left), hcleared.mpr ⟨fun hm => ?_, hbid⟩, hsold⟩
    rcases hcond with hz | ⟨-, hne⟩
    · exact hz
    · exact absurd hm hne

/-- The loan on a listed token is against the reserve of the listing. -/
theorem listed_reserveAsset (h : Books D s) (hid : s.debtMarket.getDebtId nftAsset tokenId ≠ 0) :
    (s.loanOn nftAsset tokenId).reserveAsset = (s.listingOn nftAsset tokenId).reserveAsset := by
  obtain ⟨hheld, -⟩ := h.listings.held hid
  obtain ⟨l, hl, hterms⟩ := h.matched _ _ hheld
  obtain ⟨-, rfl⟩ := Registry.held_eq_some.mp hl
  exact hterms.1

/-! ## The three sales -/

/-- **A purchase.** It settles the sale where the borrower it pays is the debtor of the listing. -/
theorem buy_settled (h : Books D s) (hs : D.isUser sender) {amount : ℕ}
    (hok : s.perform D sender (.buy nftAsset tokenId onBehalfOf amount) = .ok s') :
    s._priceForLockeyHolders (s.listingOn nftAsset tokenId).sellPrice onBehalfOf = .ok amount ∧
    (SaleSettled D s s' nftAsset tokenId sender amount
        (State.bidRefund D (s.listingOn nftAsset tokenId)) ↔
      (amount = 0 ∨ (s.loanOn nftAsset tokenId).borrower = (s.listingOn nftAsset tokenId).debtor ∧
        (s.loanOn nftAsset tokenId).borrower ≠ D.debtMarket) ∧
      ((s.listingOn nftAsset tokenId).bidderAddress = D.debtMarket →
        (s.listingOn nftAsset tokenId).bidPrice = 0)) := by
  obtain ⟨hid, hprice, hsold, Rs, L, T, ha, -⟩ := State.buy_account.ok hok
  have hposted := ha.payments
  rw [listed_reserveAsset h hid] at hposted
  exact ⟨hprice, saleSettled_iff h hid hs.ne_debtMarket hposted hsold⟩

/-- **A bid at the price.** It pays the market, and settles the sale only where that price is
nothing. -/
theorem bid_settled (h : Books D s) (hs : D.isUser sender) {bidPrice : ℕ}
    (hbuys : s.BuysAtOnce nftAsset tokenId bidPrice onBehalfOf)
    (hok : s.perform D sender (.bid nftAsset tokenId bidPrice onBehalfOf) = .ok s') :
    SaleSettled D s s' nftAsset tokenId sender bidPrice
        (State.bidRefund D (s.listingOn nftAsset tokenId)) ↔
      bidPrice = 0 ∧ ((s.listingOn nftAsset tokenId).bidderAddress = D.debtMarket →
        (s.listingOn nftAsset tokenId).bidPrice = 0) := by
  obtain ⟨hid, hposted, ⟨-, hsold, -⟩ | ⟨hnot, -⟩⟩ := State.bid_account.ok hok
  · rw [saleSettled_iff h hid hs.ne_debtMarket hposted hsold]
    refine and_congr_left fun _ => or_iff_left fun hx => ?_
    exact hx.2 rfl
  · exact absurd hbuys hnot

/-- **A claim.** It pays the debtor of the listing out of what the market holds for it. -/
theorem claim_settled (h : Books D s)
    (hok : s.perform D sender (.claim nftAsset tokenId onBehalfOf) = .ok s') :
    onBehalfOf = (s.listingOn nftAsset tokenId).bidderAddress ∧
    (SaleSettled D s s' nftAsset tokenId D.debtMarket (s.listingOn nftAsset tokenId).bidPrice [] ↔
      (s.listingOn nftAsset tokenId).bidPrice = 0 ∨
        (s.listingOn nftAsset tokenId).debtor ≠ D.debtMarket) := by
  obtain ⟨hid, hwon, hsold, Rs, L, T, ha, hover⟩ := State.claim_account.ok hok
  refine ⟨hwon, ?_⟩
  -- the buyer is somebody, so the bid is one the market holds
  obtain ⟨T₁, -, d, hd, -⟩ := hover.debts
  have hbidder := (DebtToken.mint_ok hd).1
  rw [hwon] at hbidder
  have hescrow : (s.listingOn nftAsset tokenId).escrow (s.listingOn nftAsset tokenId).reserveAsset
      = (s.listingOn nftAsset tokenId).bidPrice :=
    (DebtMarketListing.escrow_eq (h.listings.held hid).2.1).trans (if_pos hbidder)
  have hmarket := ha.payments (s.listingOn nftAsset tokenId).reserveAsset D.debtMarket
  simp only [sent_cons, received_cons, sent_nil, received_nil, true_and, if_true] at hmarket
  constructor
  · intro hsettled
    have hcleared := hsettled.cleared
    rw [hescrow] at hcleared
    by_cases hm : (s.listingOn nftAsset tokenId).debtor = D.debtMarket
    · rw [if_pos hm] at hmarket
      refine .inl ?_
      omega
    · exact .inr hm
  · intro hcond
    refine ⟨ha.payments, ?_, hsold⟩
    rw [hescrow]
    rcases hcond with hz | hm
    · rw [hz] at hmarket ⊢
      simpa using hmarket
    · rw [if_neg hm] at hmarket
      omega

/-- **Sales of listings.** In every reachable state, a purchase at the price for the buyer settles
the sale just when the price is nothing or the borrower it pays is the debtor of the listing; a
claim always does, out of the winning bid; a bid that buys at once does only where the price is
nothing. Where a sum is not, the market must not itself be the payee, nor the bidder that is
displaced. -/
theorem sales_settle {allowed : State → Action D → Prop} (hr : Reachable D allowed s)
    (hs : D.isUser sender) (nftAsset : Address) (tokenId : ℕ) (onBehalfOf : Address) :
    (∀ amount s', s.perform D sender (.buy nftAsset tokenId onBehalfOf amount) = .ok s' →
      s._priceForLockeyHolders (s.listingOn nftAsset tokenId).sellPrice onBehalfOf = .ok amount ∧
      (SaleSettled D s s' nftAsset tokenId sender amount
          (State.bidRefund D (s.listingOn nftAsset tokenId)) ↔
        (amount = 0 ∨
          (s.loanOn nftAsset tokenId).borrower = (s.listingOn nftAsset tokenId).debtor ∧
          (s.loanOn nftAsset tokenId).borrower ≠ D.debtMarket) ∧
        ((s.listingOn nftAsset tokenId).bidderAddress = D.debtMarket →
          (s.listingOn nftAsset tokenId).bidPrice = 0))) ∧
    (∀ s', s.perform D sender (.claim nftAsset tokenId onBehalfOf) = .ok s' →
      onBehalfOf = (s.listingOn nftAsset tokenId).bidderAddress ∧
      (SaleSettled D s s' nftAsset tokenId D.debtMarket
          (s.listingOn nftAsset tokenId).bidPrice [] ↔
        (s.listingOn nftAsset tokenId).bidPrice = 0 ∨
          (s.listingOn nftAsset tokenId).debtor ≠ D.debtMarket)) ∧
    (∀ bidPrice s', s.BuysAtOnce nftAsset tokenId bidPrice onBehalfOf →
      s.perform D sender (.bid nftAsset tokenId bidPrice onBehalfOf) = .ok s' →
      (SaleSettled D s s' nftAsset tokenId sender bidPrice
          (State.bidRefund D (s.listingOn nftAsset tokenId)) ↔
        bidPrice = 0 ∧ ((s.listingOn nftAsset tokenId).bidderAddress = D.debtMarket →
          (s.listingOn nftAsset tokenId).bidPrice = 0))) := by
  have h := Reachable.books hr
  refine ⟨fun amount s' hok => buy_settled h hs hok, fun s' hok => claim_settled h hok, ?_⟩
  intro bidPrice s' hbuys hok
  exact bid_settled h hs hbuys hok

theorem sampleListed_reachable : Reachable .sample (anyAction .sample) .sampleListed :=
  Reachable.after (.start (State.sample_genesis .weth9)) _ fun _ _ _ => trivial

/-- In the small deployment user 102 buys the listed position, and user 100 is paid. -/
theorem sales_settle_sample : ∃ s', State.sampleListed.perform .sample 102
      (.buy 40 7 102 (5 * WAD)) = .ok s' ∧
    SaleSettled .sample .sampleListed s' 40 7 102 (5 * WAD)
      (State.bidRefund .sample (State.sampleListed.listingOn 40 7)) := by
  have hok := State.perform_after (s := State.sampleListed) (Deployment.sample_isUser 2)
    (c := .buy 40 7 102 (5 * WAD)) (by decide +kernel)
  refine ⟨_, hok, ?_⟩
  refine (((sales_settle sampleListed_reachable (Deployment.sample_isUser 2) 40 7 102).1 (5 * WAD) _
    hok).2).mpr ?_
  decide +kernel

/-- **A sale can go unpaid.** User 102 bids the price of the listing, and has the position at once.
The debtor gets nothing, the money stays in the market, and the listing is sold and gone. -/
theorem sale_can_go_unpaid : ∃ s s', Reachable .sample (anyAction .sample) s ∧
    s.BuysAtOnce 40 7 (5 * WAD) 102 ∧
    s.perform .sample 102 (.bid 40 7 (5 * WAD) 102) = .ok s' ∧
    (s.listingOn 40 7).debtor = 100 ∧ (s.loanOn 40 7).borrower = 100 ∧
    (s'.erc20 10).balanceOf 100 = (s.erc20 10).balanceOf 100 ∧
    (s'.erc20 10).balanceOf 3 = (s.erc20 10).balanceOf 3 + 5 * WAD ∧
    s.debtMarket.Sold s'.debtMarket 40 7 ∧
    ¬ SaleSettled .sample s s' 40 7 102 (5 * WAD)
      (State.bidRefund .sample (s.listingOn 40 7)) := by
  have hok : State.sampleListed.perform .sample 102 (.bid 40 7 (5 * WAD) 102) = .ok
      (State.sampleListed.after .sample
        [.call 102 (Deployment.sample_isUser 2) (.bid 40 7 (5 * WAD) 102)]) :=
    State.perform_after (Deployment.sample_isUser 2) (by decide +kernel)
  have hbuys : State.sampleListed.BuysAtOnce 40 7 (5 * WAD) 102 :=
    ⟨eq_ok_of_toOption (by decide +kernel), by decide +kernel⟩
  refine ⟨_, _, sampleListed_reachable, hbuys, hok, by decide +kernel, by decide +kernel,
    by decide +kernel, by decide +kernel, ?_, fun hsettled => ?_⟩
  · obtain ⟨-, -, ⟨-, hsold, -⟩ | ⟨hnot, -⟩⟩ := State.bid_account.ok hok
    · exact hsold
    · exact absurd hbuys hnot
  · exact absurd hsettled.cleared (by decide +kernel)

end Sales

end Unlockd

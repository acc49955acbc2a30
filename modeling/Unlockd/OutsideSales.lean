/-
Liquidations through the Reservoir adapter, to the last unit.

The adapter sells the token of a loan on an outside market. Three things should hold of such a
sale. It burns the debt of the loan and no more; it hands the proceeds to those they are due to
and keeps nothing; and it is of a loan that is under water. None of the three holds always.
The debt is burnt at an index that is current only if the liquidator names the reserve of the
loan. Proceeds that fall short of the debt stay with the adapter while the treasury pays the
difference, and a loan without a bid cannot be settled at all, since its first bidder is nobody.
The health factor is looked at only while the loan is not in auction. What holds in each case is
stated as an exact condition on the call and on the state it finds.
-/
import Unlockd.Sales
import Unlockd.Lending
import Unlockd.Health

set_option autoImplicit false

namespace Unlockd

open Outcome Transfers LendPoolLoan FixedPoint

section OutsideSales

variable {D : Deployment} {s s' s₁ : State} {nftAsset reserveAsset : Address} {tokenId : ℕ}
  {sale : Sale D}

/-! ## The debt that is burnt -/

/-- A debt that is read at an index and scaled back at a smaller one gives the scaled amount just
when it has grown by less than half of what one scaled unit is worth. -/
theorem scaled_eq_iff {a i j b : ℕ} (hray : RAY ≤ i) (hij : i ≤ j)
    (hb : b = divHalfUp (a * j) RAY) :
    divHalfUp (b * RAY) i = a ↔ 2 * (b * RAY) < (2 * a + 1) * i := by
  have hi : 0 < i := RAY_pos.trans_le hray
  -- what is read is never too little
  have hle : a ≤ divHalfUp (b * RAY) i := by
    rw [le_divHalfUp_iff hi]
    have hread := (divHalfUp_le_iff (n := a * j) RAY_pos b).mp hb.ge
    have hgrow : a * i ≤ a * j := Nat.mul_le_mul_left a hij
    rw [show (2 * b + 1) * RAY = 2 * (b * RAY) + RAY by ring] at hread
    omega
  rw [← divHalfUp_le_iff hi]
  omega

/-- The index stored for the reserve of a loan still serves: what the loan has accrued since is
worth less than half a scaled unit. -/
def State.StoredIndexServes (s : State) (nftAsset : Address) (tokenId : ℕ) : Prop :=
  ∃ debt, s.getLoanReserveBorrowAmount (s.lendPoolLoan.getCollateralLoanId nftAsset tokenId)
      = .ok debt ∧
    2 * (debt * RAY) < (2 * (s.loanOn nftAsset tokenId).scaledAmount + 1) *
      (s.lendPool.reserves (s.loanOn nftAsset tokenId).reserveAsset).variableBorrowIndex

/-- What a burn takes off. -/
theorem Burnt.scaled {caller reserve user : Address} {amount index : ℕ}
    {T T' : Address → DebtToken} (h : Burnt caller reserve user amount index T T') :
    ∃ n, n = divHalfUp (amount * RAY) index ∧
      (T' reserve).scaledBalanceOf user + n = (T reserve).scaledBalanceOf user := by
  obtain ⟨d, hd, rfl⟩ := h
  obtain ⟨-, hd⟩ := require_bind_eq_ok.mp hd
  obtain ⟨n, hn, hd⟩ := bind_eq_ok.mp hd
  obtain ⟨-, hd⟩ := require_bind_eq_ok.mp hd
  obtain ⟨-, hd⟩ := require_bind_eq_ok.mp hd
  obtain ⟨hle, hd⟩ := require_bind_eq_ok.mp hd
  obtain rfl := Except.ok.inj hd
  refine ⟨n, (rayDiv_spec hn).2, ?_⟩
  simp only [Function.update_self]
  exact Nat.sub_add_cancel hle

/-- A burn takes off some amount just when that is what it scales to. -/
theorem Burnt.takes_iff {caller reserve user : Address} {amount index : ℕ}
    {T T' : Address → DebtToken} (h : Burnt caller reserve user amount index T T') (k : ℕ) :
    (T' reserve).scaledBalanceOf user + k = (T reserve).scaledBalanceOf user ↔
      divHalfUp (amount * RAY) index = k := by
  obtain ⟨n, hn, hbalance⟩ := h.scaled
  rw [← hn, ← hbalance, Nat.add_left_cancel_iff]
  exact eq_comm

/-- The debt of a sale that names the reserve of the loan is read at the very index it is burnt
at, and scales back. -/
theorem State.saleDebt_same (h : IndicesSound s.lendPool.reserves) {Rs : Address → ReserveData}
    {b : ℕ} (hupdated : s.Updated reserveAsset Rs)
    (hopen : (s.lendPool.reserves reserveAsset).uTokenAddress ≠ 0)
    (hsame : (s.loanOn nftAsset tokenId).reserveAsset = reserveAsset)
    (hb : s.saleDebt nftAsset reserveAsset tokenId = .ok b) :
    divHalfUp (b * RAY) (Rs reserveAsset).variableBorrowIndex
      = (s.loanOn nftAsset tokenId).scaledAmount := by
  obtain ⟨s₁, hupd, hdebt⟩ := bind_eq_ok.mp hb
  obtain ⟨hstamp, hray⟩ := hupdated.index h hopen
  obtain ⟨-, Rs', U, rfl, hu⟩ := State.updateReserveState_spec.ok hupd
  have hRs : Rs' reserveAsset = Rs reserveAsset := Except.ok.inj (hu.2.symm.trans hupdated.2)
  have hload : ((s.withReserves Rs').withUTokens U).lendPoolLoan.loans
      (s.lendPoolLoan.getCollateralLoanId nftAsset tokenId) = s.loanOn nftAsset tokenId := rfl
  obtain ⟨j, -, hread, hj⟩ := getLoanReserveBorrowAmount_read hload hdebt
  have hindex : j = (Rs reserveAsset).variableBorrowIndex := by
    rw [hj (by rw [hsame]; exact (congrArg _ hRs).trans hstamp), hsame]
    exact congrArg _ hRs
  rw [hread, hindex, LoanData.outstanding]
  exact divHalfUp_scale_unscale _ RAY_pos hray

/-- The debt of a sale that names another reserve scales back just when the stored index still
serves. -/
theorem State.saleDebt_other {b : ℕ}
    (hother : (s.loanOn nftAsset tokenId).reserveAsset ≠ reserveAsset)
    (hray : RAY ≤ (s.lendPool.reserves
      (s.loanOn nftAsset tokenId).reserveAsset).variableBorrowIndex)
    (hb : s.saleDebt nftAsset reserveAsset tokenId = .ok b) :
    divHalfUp (b * RAY) (s.lendPool.reserves
        (s.loanOn nftAsset tokenId).reserveAsset).variableBorrowIndex
      = (s.loanOn nftAsset tokenId).scaledAmount ↔ s.StoredIndexServes nftAsset tokenId := by
  obtain ⟨s₁, hupd, hdebt⟩ := bind_eq_ok.mp hb
  rw [State.updateReserveState_elsewhere hupd hother] at hdebt
  obtain ⟨j, hle, hread, -⟩ := getLoanReserveBorrowAmount_read
    (show _ = s.loanOn nftAsset tokenId from rfl) hdebt
  rw [scaled_eq_iff hray hle hread]
  refine ⟨fun hlt => ⟨b, hdebt, hlt⟩, fun hserves => ?_⟩
  obtain ⟨debt, hdebt', hlt⟩ := hserves
  obtain rfl : debt = b := Except.ok.inj (hdebt'.symm.trans hdebt)
  exact hlt

/-- **What a sale burns.** In every reachable state, a liquidation through the adapter burns the
scaled amount of the loan, whatever has accrued, if the reserve it names is that of the loan; the
index is then the one the reserve is brought up to. If it names another, it does so just when the
stored index still serves. -/
theorem sale_burns_debt {allowed : State → Action D → Prop} (hr : Reachable D allowed s)
    {sender module : Address} {expectedLiquidateAmount : ℕ}
    (hok : s.perform D sender (.liquidateReservoir nftAsset reserveAsset tokenId module sale
      expectedLiquidateAmount) = .ok s') :
    ((s.loanOn nftAsset tokenId).reserveAsset = reserveAsset → ∃ b,
      Burnt D.reservoirAdapter reserveAsset (s.loanOn nftAsset tokenId).borrower b
        (s.nextIndex reserveAsset) s.debtTokens s'.debtTokens) ∧
    ((s'.debtTokens (s.loanOn nftAsset tokenId).reserveAsset).scaledBalanceOf
          (s.loanOn nftAsset tokenId).borrower + (s.loanOn nftAsset tokenId).scaledAmount
        = (s.debtTokens (s.loanOn nftAsset tokenId).reserveAsset).scaledBalanceOf
          (s.loanOn nftAsset tokenId).borrower ↔
      (s.loanOn nftAsset tokenId).reserveAsset = reserveAsset ∨
        s.StoredIndexServes nftAsset tokenId) := by
  have h := Reachable.books hr
  obtain ⟨Rs, L, T, b, liquidatedAmount, bidFine, s₁, auction, ha, hf⟩ :=
    State.liquidateReservoir_course.ok hok
  have hburnt := ha.burnt
  rw [← ha.debts] at hburnt
  have hopen : (s.lendPool.reserves (s.loanOn nftAsset tokenId).reserveAsset).uTokenAddress ≠ 0 :=
    Reachable.backed hr (h.loans.held ha.held).2.1
  rw [hburnt.takes_iff]
  by_cases hsame : (s.loanOn nftAsset tokenId).reserveAsset = reserveAsset
  · rw [hsame] at hopen hburnt ⊢
    refine ⟨fun _ => ⟨b, ?_⟩, iff_of_true ?_ (.inl rfl)⟩
    · rw [← ha.updated.nextIndex]
      exact hburnt
    · exact State.saleDebt_same h.indices ha.updated hopen hsame ha.amount
  · refine ⟨fun hx => absurd hx hsame, ?_⟩
    rw [ha.updated.1 _ hsame, or_iff_right hsame]
    exact State.saleDebt_other hsame (h.indices _ hopen).2 ha.amount

/-- Two loans of 30 WETH, of which one has come under water four months later. -/
def largerMonths : List (Action .larger) :=
  largerLoan ++ [.call 100 Deployment.larger_borrower (.borrow 10 (30 * WAD) 40 8 100),
    .event (.tick 10000000), .configure (.setNFTPrice 40 7 (30 * WAD))]

/-- In the larger deployment a sale that names the reserve of the loan burns its scaled amount. -/
theorem sale_burns_debt_sample : ∃ s', (State.larger .weth9 largerMonths).perform .larger 104
      (largerSale 10 (35 * WAD)) = .ok s' ∧
    (s'.debtTokens 10).scaledBalanceOf 100 + 30 * WAD
      = ((State.larger .weth9 largerMonths).debtTokens 10).scaledBalanceOf 100 := by
  have hok := State.perform_after (s := State.larger .weth9 largerMonths)
    (Deployment.larger_isUser 4) (c := largerSale 10 (35 * WAD)) (by decide +kernel)
  have hloan : (State.larger .weth9 largerMonths).loanOn 40 7
      = ⟨1, .Active, 100, 40, 7, 10, 30 * WAD, 0, 0, 0, 0, 0⟩ := by decide +kernel
  have hr := State.larger_reachable .weth9 largerMonths
  generalize State.larger .weth9 largerMonths = s at *
  have hburns := (sale_burns_debt hr hok).2
  rw [hloan] at hburns
  exact ⟨_, hok, hburns.mpr (.inl rfl)⟩

/-- **A sale can burn too much.** User 104 names the reserve 13 in a sale of a loan against the
reserve 10, four months after that was brought up to date. The interest is burnt as scaled
debt: the borrower of two loans is left with less than the other one records. -/
theorem sale_can_burn_too_much : ∃ s s', Reachable .larger (anyAction .larger) s ∧
    s.perform .larger 104 (largerSale 13 (35 * WAD)) = .ok s' ∧
    (s.loanOn 40 7).reserveAsset = 10 ∧ (s.loanOn 40 7).scaledAmount = 30 * WAD ∧
    (s'.loanOn 40 8).scaledAmount = 30 * WAD ∧
    (s.debtTokens 10).scaledBalanceOf 100 = 60 * WAD ∧
    (s'.debtTokens 10).scaledBalanceOf 100 < 30 * WAD := by
  have hok := State.perform_after (s := State.larger .weth9 largerMonths)
    (Deployment.larger_isUser 4) (c := largerSale 13 (35 * WAD)) (by decide +kernel)
  exact ⟨_, _, State.larger_reachable .weth9 largerMonths, hok, by decide +kernel,
    by decide +kernel, by decide +kernel, by decide +kernel, by decide +kernel⟩

/-! ## Who is paid -/

/-- The payments that settle a sale in full: the debt out of the proceeds, topped up by the
treasury; the standing bid; of what is left, the fine to the first bidder as far as that goes, and
the rest to the borrower. -/
def fullSettlement (D : Deployment) (s : State) (loan : LoanData) (uToken : Address)
    (debt gained bidFine : ℕ) : List (Transfer Address Address) :=
  ⟨loan.reserveAsset, D.reservoirAdapter, uToken, min debt gained⟩ ::
    ⟨loan.reserveAsset, (s.uTokens loan.reserveAsset).treasury, uToken, debt - gained⟩ ::
    (onlyIf (loan.bidderAddress ≠ 0)
        ⟨loan.reserveAsset, D.lendPool, loan.bidderAddress, loan.bidPrice⟩ ++
      [⟨loan.reserveAsset, D.reservoirAdapter, loan.firstBidderAddress,
          min bidFine (gained - debt)⟩,
        ⟨loan.reserveAsset, D.reservoirAdapter, loan.borrower,
          gained - debt - min bidFine (gained - debt)⟩])

/-- A sale has been settled: after the payments of the sale itself, and the return of a bid on a
listing, just those of the full settlement were made, and the adapter has what it had, unless it is
itself among those who are paid or is the treasury. -/
structure SaleSettles (D : Deployment) (s s' : State) (nftAsset : Address) (tokenId : ℕ)
    (sale : Sale D) (debt bidFine : ℕ) : Prop where
  paid : Posted (sale.payments.map Payment.transfer ++ (s.listingRefund D nftAsset tokenId ++
    fullSettlement D s (s.loanOn nftAsset tokenId)
      (s.lendPool.reserves (s.loanOn nftAsset tokenId).reserveAsset).uTokenAddress debt
      (proceeds sale (s.loanOn nftAsset tokenId).reserveAsset D.reservoirAdapter) bidFine))
    s.erc20 s'.erc20
  kept : (s.uTokens (s.loanOn nftAsset tokenId).reserveAsset).treasury ≠ D.reservoirAdapter →
    (∀ t ∈ s.listingRefund D nftAsset tokenId ++ fullSettlement D s (s.loanOn nftAsset tokenId)
        (s.lendPool.reserves (s.loanOn nftAsset tokenId).reserveAsset).uTokenAddress debt
        (proceeds sale (s.loanOn nftAsset tokenId).reserveAsset D.reservoirAdapter) bidFine,
      t.dst ≠ D.reservoirAdapter) →
    (s'.erc20 (s.loanOn nftAsset tokenId).reserveAsset).balanceOf D.reservoirAdapter
      = (s.erc20 (s.loanOn nftAsset tokenId).reserveAsset).balanceOf D.reservoirAdapter

/-- What the adapter sends in a full settlement is what the sale brought it. -/
theorem sent_fullSettlement {loan : LoanData} {uToken : Address} {debt gained bidFine : ℕ}
    (htreasury : (s.uTokens loan.reserveAsset).treasury ≠ D.reservoirAdapter) :
    sent (fullSettlement D s loan uToken debt gained bidFine) loan.reserveAsset D.reservoirAdapter
      = gained := by
  have hpool : D.lendPool ≠ D.reservoirAdapter := D.lendPool_ne_reservoirAdapter
  have hbid : sent (onlyIf (loan.bidderAddress ≠ 0)
      (⟨loan.reserveAsset, D.lendPool, loan.bidderAddress, loan.bidPrice⟩ : Transfer _ _))
      loan.reserveAsset D.reservoirAdapter = 0 := by
    refine sent_eq_zero _ fun t ht => ?_
    rw [(mem_onlyIf.mp ht).2]
    exact hpool
  unfold fullSettlement
  simp only [sent_cons, sent_append, sent_nil, hbid, htreasury, and_false, and_self, if_true,
    if_false]
  omega

/-- Settling in full leaves the adapter with what it had. -/
theorem fullSettlement_kept (hf : ∃ b auction, State.SaleFunds D s s' s₁ nftAsset reserveAsset
      tokenId sale b auction) {debt bidFine : ℕ}
    (hpaid : Posted (sale.payments.map Payment.transfer ++ (s.listingRefund D nftAsset tokenId ++
      fullSettlement D s (s.loanOn nftAsset tokenId)
        (s.lendPool.reserves (s.loanOn nftAsset tokenId).reserveAsset).uTokenAddress debt
        (proceeds sale (s.loanOn nftAsset tokenId).reserveAsset D.reservoirAdapter) bidFine))
      s.erc20 s'.erc20) : SaleSettles D s s' nftAsset tokenId sale debt bidFine := by
  refine ⟨hpaid, fun htreasury hpayees => ?_⟩
  obtain ⟨b, auction, hf⟩ := hf
  have hcovered := hf.covered
  have hbooked := hpaid (s.loanOn nftAsset tokenId).reserveAsset D.reservoirAdapter
  have hmarket : sent (s.listingRefund D nftAsset tokenId)
      (s.loanOn nftAsset tokenId).reserveAsset D.reservoirAdapter = 0 := by
    refine sent_eq_zero _ fun t ht => ?_
    rw [State.listingRefund_src t ht]
    exact D.debtMarket_ne_reservoirAdapter
  rw [sent_append, sent_append, received_append, received_eq_zero _ hpayees, hmarket,
    sent_fullSettlement htreasury] at hbooked
  unfold proceeds at hbooked
  dsimp only at hbooked
  omega

/-- **What the code pays is what it should** just where the sale covers the debt or brings in
nothing at all; in between the adapter keeps the proceeds. -/
theorem settlement_net_iff (loan : LoanData) (debt gained bidFine : ℕ) {uToken : Address}
    (hproxy : D.isProxy uToken = true) :
    (∀ k a, sent (State.settlement D s loan uToken debt (debt - gained) (gained - debt) bidFine) k a
          + received (fullSettlement D s loan uToken debt gained bidFine) k a
        = sent (fullSettlement D s loan uToken debt gained bidFine) k a
          + received (State.settlement D s loan uToken debt (debt - gained) (gained - debt)
            bidFine) k a) ↔ gained = 0 ∨ debt ≤ gained := by
  have huToken : uToken ≠ D.reservoirAdapter := fun he => by
    rw [he, D.proxy_ne_reservoirAdapter] at hproxy
    cases hproxy
  by_cases hle : debt ≤ gained
  · refine ⟨fun _ => .inr hle, fun _ k a => ?_⟩
    have hshort : debt - gained = 0 := Nat.sub_eq_zero_of_le hle
    unfold State.settlement fullSettlement
    rw [hshort, min_eq_left hle]
    by_cases hfine : gained - debt > bidFine
    · rw [min_eq_left hfine.le]
      simp [hfine]
    · rw [min_eq_right (Nat.le_of_not_gt hfine), Nat.sub_self]
      simp [hfine]
  · have hlt : gained < debt := Nat.lt_of_not_le hle
    have hextra : debt - gained ≠ 0 := Nat.sub_ne_zero_of_lt hlt
    have hnone : gained - debt = 0 := Nat.sub_eq_zero_of_le hlt.le
    have hnofine : ¬ 0 > bidFine := Nat.not_lt_zero _
    unfold State.settlement fullSettlement
    rw [if_pos hextra, hnone, if_neg hnofine, min_eq_right hlt.le, min_eq_right (Nat.zero_le _)]
    constructor
    · intro hnet
      have hadapter := hnet loan.reserveAsset D.reservoirAdapter
      simp [huToken] at hadapter
      refine .inl ?_
      omega
    · rintro (hz | hx)
      · intro k a
        simp [hz]
      · exact absurd hx hle

/-- **Who is paid in a sale.** In every reachable state, for a loan in one of OpenZeppelin's tokens:
a liquidation through the adapter that goes through is of a loan with a bid, and it is settled just
when the sale brings in nothing, or at least the debt. Of a loan without a bid no settlement goes
through, whatever the sale brought and from whatever state it starts. -/
theorem sale_settles {allowed : State → Action D → Prop} (hr : Reachable D allowed s)
    (hkind : (s.erc20 (s.loanOn nftAsset tokenId).reserveAsset).kind = .openZeppelin) :
    (∀ sender reserveAsset module sale expectedLiquidateAmount s',
      s.perform D sender (.liquidateReservoir nftAsset reserveAsset tokenId module sale
        expectedLiquidateAmount) = .ok s' →
      (s.loanOn nftAsset tokenId).firstBidderAddress ≠ 0 ∧ ∃ s₁ debt auction,
        s.updateReserveState reserveAsset = .ok s₁ ∧
        s₁.getLoanReserveBorrowAmount (s.lendPoolLoan.getCollateralLoanId nftAsset tokenId)
          = .ok debt ∧
        s₁.getNftAuctionData nftAsset tokenId = .ok auction ∧
        (SaleSettles D s s' nftAsset tokenId sale debt auction.bidFine ↔
          proceeds sale (s.loanOn nftAsset tokenId).reserveAsset D.reservoirAdapter = 0 ∨
          debt ≤ proceeds sale (s.loanOn nftAsset tokenId).reserveAsset D.reservoirAdapter)) ∧
    ((s.loanOn nftAsset tokenId).firstBidderAddress = 0 → ∀ (t t' : State) uToken debt extra remain
        fine, (t.erc20 (s.loanOn nftAsset tokenId).reserveAsset).kind = .openZeppelin →
      t._settleLiquidation D (s.loanOn nftAsset tokenId) uToken debt extra remain fine
        ≠ .ok t') := by
  refine ⟨fun sender reserveAsset module sale expectedLiquidateAmount s' hok => ?_, ?_⟩
  · obtain ⟨Rs, L, T, b, liquidatedAmount, bidFine, s₁, auction, ha, hf⟩ :=
      State.liquidateReservoir_course.ok hok
    have h := Reachable.books hr
    have hproxy : D.isProxy (s.lendPool.reserves
        (s.loanOn nftAsset tokenId).reserveAsset).uTokenAddress = true :=
      h.proxies _ (Reachable.backed hr (h.loans.held ha.held).2.1)
    have hid : s₁.lendPoolLoan = s.lendPoolLoan := by
      obtain ⟨-, Rs', U, rfl, -⟩ := State.updateReserveState_spec.ok hf.upToDate
      rfl
    have hdebt := hf.debt
    rw [hid] at hdebt
    refine ⟨hf.payee hkind, s₁, b, auction, hf.upToDate, hdebt, hf.fine, ?_⟩
    rw [← settlement_net_iff (s := s) (s.loanOn nftAsset tokenId) b _ auction.bidFine hproxy]
    have hiff : Posted (sale.payments.map Payment.transfer ++ (s.listingRefund D nftAsset tokenId ++
      fullSettlement D s (s.loanOn nftAsset tokenId)
        (s.lendPool.reserves (s.loanOn nftAsset tokenId).reserveAsset).uTokenAddress b
        (proceeds sale (s.loanOn nftAsset tokenId).reserveAsset D.reservoirAdapter)
        auction.bidFine)) s.erc20 s'.erc20 ↔ _ := Booked.iff_net hf.payments
    constructor
    · intro hsettles k a
      have hka := hiff.mp hsettles.paid k a
      simp only [sent_append, received_append] at hka
      omega
    · intro hnet
      refine fullSettlement_kept ⟨b, auction, hf⟩ (hiff.mpr fun k a => ?_)
      have hka := hnet k a
      simp only [sent_append, received_append]
      omega
  · intro hnone t t' uToken debt extra remain fine hkind' hok
    exact (State._settleLiquidation_payee hkind').ok hok hnone

/-- In the larger deployment a loan of 30 WETH with a bid of 40, sold for 35, is settled in full. -/
theorem sale_settles_sample : ∃ s' fine,
    (State.larger .openZeppelin (largerLoan ++ largerAuction)).perform .larger 104
      (largerSale 10 (35 * WAD)) = .ok s' ∧
    SaleSettles .larger (State.larger .openZeppelin (largerLoan ++ largerAuction)) s' 40 7
      ⟨107, [⟨10, 105, 4, 35 * WAD, 105, Deployment.larger_isUser 5⟩]⟩ (30 * WAD) fine := by
  have hok := State.perform_after
    (s := State.larger .openZeppelin (largerLoan ++ largerAuction))
    (Deployment.larger_isUser 4) (c := largerSale 10 (35 * WAD)) (by decide +kernel)
  have hkind : ((State.larger .openZeppelin (largerLoan ++ largerAuction)).erc20
      ((State.larger .openZeppelin (largerLoan ++ largerAuction)).loanOn 40 7).reserveAsset).kind
      = .openZeppelin := by decide +kernel
  obtain ⟨-, s₁, debt, auction, hs₁, hdebt, -, hiff⟩ :=
    (sale_settles (State.larger_reachable .openZeppelin (largerLoan ++ largerAuction))
      hkind).1 _ _ _ _ _ _ hok
  have howed : (((State.larger .openZeppelin (largerLoan ++ largerAuction)).updateReserveState
      10).bind fun s₁ => s₁.getLoanReserveBorrowAmount 1) = .ok (30 * WAD) :=
    eq_ok_of_toOption (by decide +kernel)
  rw [hs₁] at howed
  obtain rfl : debt = 30 * WAD := Except.ok.inj (hdebt.symm.trans howed)
  exact ⟨_, _, hok, hiff.mpr (.inr (by decide +kernel))⟩

/-- **A sale can starve the lenders.** The same loan, sold for 20 WETH: the treasury pays the
missing 10, and the 20 stay with the adapter. And without the bid the sale is refused. -/
theorem sale_can_go_astray : (∃ s s', Reachable .larger (anyAction .larger) s ∧
    s.perform .larger 104 (largerSale 10 (20 * WAD)) = .ok s' ∧
    (s.erc20 10).kind = .openZeppelin ∧
    (s.erc20 10).balanceOf 20 + 10 * WAD = (s'.erc20 10).balanceOf 20 ∧
    (s.erc20 10).balanceOf Deployment.larger.reservoirAdapter + 20 * WAD
      = (s'.erc20 10).balanceOf Deployment.larger.reservoirAdapter) ∧
    ∃ s, Reachable .larger (anyAction .larger) s ∧ (s.loanOn 40 7).state = .Active ∧
      raised (s.perform .larger 104 (largerSale 10 (35 * WAD))) = some .zeroAddress := by
  refine ⟨⟨_, _, State.larger_reachable .openZeppelin (largerLoan ++ largerAuction),
    State.perform_after (Deployment.larger_isUser 4) (by decide +kernel), ?_⟩,
    _, State.larger_reachable .openZeppelin
      (largerLoan ++ [.configure (.setNFTPrice 40 7 (30 * WAD))]), by decide +kernel,
    by decide +kernel⟩
  exact ⟨by decide +kernel, by decide +kernel, by decide +kernel⟩

/-! ## What may be sold -/

/-- The price of a token has recovered: at what it is worth now, the loan on it is not under
water. -/
def State.PriceRecovered (s : State) (nftAsset : Address) (tokenId debt : ℕ) : Prop :=
  ∃ collateral, s.calculateNftCollateralData (s.loanOn nftAsset tokenId).reserveAsset nftAsset
      tokenId = .ok collateral ∧
    ¬ Underwater collateral.2 debt
      (getLiquidationThreshold (s.lendPool.nftConfig nftAsset tokenId))

/-- **Which loans are sold.** When a liquidation through the adapter goes through, the health factor
of the loan, its collateral at the price of today and its threshold over its debt, is at most one
whole just when the loan was not in auction or its price has not recovered since the first bid. And
it is the health factor that a buyout would compute, wherever that returns one. -/
theorem sale_needs_unhealthy {sender module : Address} {expectedLiquidateAmount : ℕ}
    (hok : s.perform D sender (.liquidateReservoir nftAsset reserveAsset tokenId module sale
      expectedLiquidateAmount) = .ok s') :
    ∃ s₁ debt, s.updateReserveState reserveAsset = .ok s₁ ∧
      s₁.getLoanReserveBorrowAmount (s.lendPoolLoan.getCollateralLoanId nftAsset tokenId)
        = .ok debt ∧
      ((∃ healthFactor, s₁.healthFactorOf (s.loanOn nftAsset tokenId).reserveAsset nftAsset tokenId
          (s.lendPool.nftConfig nftAsset tokenId) debt = .ok healthFactor ∧
        healthFactor ≤ HEALTH_FACTOR_LIQUIDATION_THRESHOLD) ↔
      (s.loanOn nftAsset tokenId).state = .Active ∨ ¬ s.PriceRecovered nftAsset tokenId debt) ∧
      ∀ health, s₁.calculateLoanData (s.loanOn nftAsset tokenId).reserveAsset nftAsset tokenId
          (s.lendPool.nftConfig nftAsset tokenId)
          (s.lendPoolLoan.getCollateralLoanId nftAsset tokenId) = .ok health →
        s₁.healthFactorOf (s.loanOn nftAsset tokenId).reserveAsset nftAsset tokenId
          (s.lendPool.nftConfig nftAsset tokenId) debt = .ok health.2.2 := by
  obtain ⟨Rs, L, T, b, liquidatedAmount, bidFine, s₁, auction, ha, hf⟩ :=
    State.liquidateReservoir_course.ok hok
  have hdebt := hf.debt
  have hhealth := hf.unhealthy
  have hsame : s₁.calculateNftCollateralData (s.loanOn nftAsset tokenId).reserveAsset nftAsset
      tokenId = s.calculateNftCollateralData (s.loanOn nftAsset tokenId).reserveAsset nftAsset
      tokenId := State.updateReserveState_collateral hf.upToDate
  refine ⟨s₁, b, hf.upToDate, ?_⟩
  obtain ⟨-, Rs', U, rfl, -⟩ := State.updateReserveState_spec.ok hf.upToDate
  obtain ⟨collateral, debt, hcollateral, hread, hactive⟩ :=
    State._validateLoanHealthFactor_passed (by exact ha.held) hhealth
  obtain rfl : b = debt := Except.ok.inj (hdebt.symm.trans hread)
  have hpriced : s.calculateNftCollateralData (s.loanOn nftAsset tokenId).reserveAsset nftAsset
      tokenId = .ok collateral := hsame.symm.trans hcollateral
  refine ⟨hdebt, ?_, fun health hreturned => ?_⟩
  · rw [State.healthFactorOf_le_iff (State.getLoanReserveBorrowAmount_fits hdebt), hsame]
    constructor
    · rintro ⟨collateral₁, hpriced₁, hunder⟩
      refine .inr fun hrecovered => ?_
      obtain ⟨collateral₂, hpriced₂, hnot⟩ := hrecovered
      obtain rfl : collateral₁ = collateral₂ := Except.ok.inj (hpriced₁.symm.trans hpriced₂)
      exact hnot hunder
    · rintro (hstate | hlow)
      · exact ⟨collateral, hpriced, hactive hstate⟩
      · refine ⟨collateral, hpriced, by_contra fun hnot => ?_⟩
        exact hlow ⟨collateral, hpriced, hnot⟩
  · have hfactor := State.calculateLoanData_healthFactor hreturned
    obtain ⟨owed, howed, hreturned⟩ := bind_eq_ok.mp hreturned
    obtain rfl := Except.ok.inj (hdebt.symm.trans (State.debtOfLoan_debt ha.held howed))
    obtain ⟨_, -, hreturned⟩ := bind_eq_ok.mp hreturned
    obtain ⟨_, -, hreturned⟩ := bind_eq_ok.mp hreturned
    obtain rfl := Except.ok.inj hreturned
    exact hfactor

/-- The sale of the token 7 in the larger deployment, while the price is down, is of a loan that is
under water. -/
theorem sale_needs_unhealthy_sample : ∃ s s' s₁ health, Reachable .larger (anyAction .larger) s ∧
    s.perform .larger 104 (largerSale 10 (35 * WAD)) = .ok s' ∧
    s.updateReserveState 10 = .ok s₁ ∧
    s₁.calculateLoanData 10 40 7 sampleNftConfig 1 = .ok health ∧
    health.2.2 ≤ HEALTH_FACTOR_LIQUIDATION_THRESHOLD := by
  have hr := State.larger_reachable .openZeppelin (largerLoan ++ largerAuction)
  have hok := State.perform_after
    (s := State.larger .openZeppelin (largerLoan ++ largerAuction))
    (Deployment.larger_isUser 4) (c := largerSale 10 (35 * WAD)) (by decide +kernel)
  have hid : (State.larger .openZeppelin (largerLoan ++
    largerAuction)).lendPoolLoan.getCollateralLoanId
      40 7 = 1 := by decide +kernel
  have hreserve : ((State.larger .openZeppelin (largerLoan ++ largerAuction)).loanOn 40
    7).reserveAsset
      = 10 := by decide +kernel
  have hconfig : (State.larger .openZeppelin (largerLoan ++ largerAuction)).lendPool.nftConfig 40 7
      = sampleNftConfig := by decide +kernel
  have howed : ((State.larger .openZeppelin (largerLoan ++ largerAuction)).updateReserveState
      10 >>= fun s₁ => s₁.getLoanReserveBorrowAmount 1) = .ok (30 * WAD) :=
    eq_ok_of_toOption (by decide +kernel)
  have hread : ((State.larger .openZeppelin (largerLoan ++ largerAuction)).updateReserveState
      10 >>= fun s₁ => s₁.calculateLoanData 10 40 7 sampleNftConfig 1)
      = .ok (30 * WAD, 30 * WAD, 800000000000000000) := eq_ok_of_toOption (by decide +kernel)
  have hpriced : (State.larger .openZeppelin (largerLoan ++
    largerAuction)).calculateNftCollateralData
      10 40 7 = .ok (30 * WAD, 30 * WAD) := eq_ok_of_toOption (by decide +kernel)
  generalize State.larger .openZeppelin (largerLoan ++ largerAuction) = s at *
  obtain ⟨s₁, debt, hs₁, hdebt, hiff, hreturned⟩ := sale_needs_unhealthy hok
  rw [hid] at hdebt
  rw [hs₁, ok_bind, hdebt] at howed
  obtain rfl := Except.ok.inj howed
  rw [hs₁, ok_bind] at hread
  rw [hreserve, hconfig] at hiff
  rw [hid, hreserve, hconfig] at hreturned
  -- 30 WETH fall short of the debt at a threshold of 80 %
  have hlow : ¬ s.PriceRecovered 40 7 (30 * WAD) := by
    rintro ⟨collateral, hcollateral, hnot⟩
    rw [hreserve, hpriced] at hcollateral
    obtain rfl := Except.ok.inj hcollateral
    rw [hconfig] at hnot
    exact hnot (by unfold Underwater; decide +kernel)
  obtain ⟨f, hf, hle⟩ := hiff.mpr (.inr hlow)
  obtain rfl := Except.ok.inj (hf.symm.trans (hreturned _ hread))
  exact ⟨s, _, s₁, _, hr, hok, hs₁, hread, hle⟩

/-- **A healthy loan can be sold.** The price of the token is back at 100 WETH after the first bid,
and the health factor of the loan is above two and a half; the sale goes through all the same. -/
theorem sale_of_healthy_loan : ∃ s s' s₁ health, Reachable .larger (anyAction .larger) s ∧
    s.perform .larger 104 (largerSale 10 (35 * WAD)) = .ok s' ∧
    s.updateReserveState 10 = .ok s₁ ∧
    s₁.calculateLoanData 10 40 7 sampleNftConfig 1 = .ok health ∧
    HEALTH_FACTOR_LIQUIDATION_THRESHOLD < health.2.2 := by
  have hr := State.larger_reachable .openZeppelin
    (largerLoan ++ largerAuction ++ [.configure (.setNFTPrice 40 7 (100 * WAD))])
  have hok := State.perform_after
    (s := State.larger .openZeppelin
      (largerLoan ++ largerAuction ++ [.configure (.setNFTPrice 40 7 (100 * WAD))]))
    (Deployment.larger_isUser 4) (c := largerSale 10 (35 * WAD)) (by decide +kernel)
  have hhealth : ((State.larger .openZeppelin
      (largerLoan ++ largerAuction ++ [.configure (.setNFTPrice 40 7
        (100 * WAD))])).updateReserveState
        10 >>= fun s₁ => s₁.calculateLoanData 10 40 7 sampleNftConfig 1)
      = .ok (100 * WAD, 30 * WAD, 2666666666666666667) := eq_ok_of_toOption (by decide +kernel)
  obtain ⟨s₁, hs₁, hhealth⟩ := bind_eq_ok.mp hhealth
  exact ⟨_, _, s₁, _, hr, hok, hs₁, hhealth, by decide⟩

end OutsideSales

end Unlockd

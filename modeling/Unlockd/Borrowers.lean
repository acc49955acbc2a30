/-
What a borrower can rely on.

A loan that is not for sale, whose debt is covered, and that is left alone by its borrower stays as
it is, whatever all the others do: nobody else can add to it, offer it for sale, put it into auction
or close it. The one thing that others can do to it is to pay it back, and then the token goes home.
-/
import Unlockd.Chain
import Unlockd.Consent
import Unlockd.Health

set_option autoImplicit false

namespace Unlockd

open Outcome Registry LendPoolLoan

/-! ## What becomes of a position in one call -/

section Positions

variable {L L' : LendPoolLoan} {M M' : DebtMarket} {loanId : ℕ}

/-- The loans that were running have the borrowers they had. -/
def LendPoolLoan.KeepsBorrowers (L L' : LendPoolLoan) : Prop :=
  ∀ id, (L.loans id).live → (L'.loans id).borrower = (L.loans id).borrower

theorem LendPoolLoan.KeepsBorrowers.refl (L : LendPoolLoan) : L.KeepsBorrowers L := fun _ _ => rfl

/-- A record is rewritten for the same borrower. -/
theorem LendPoolLoan.KeepsBorrowers.rewrite {r : LoanData}
    (hL : L'.loans = Function.update L.loans loanId r)
    (hr : r.borrower = (L.loans loanId).borrower) : L.KeepsBorrowers L' := by
  intro id _
  rw [hL]
  by_cases hid : id = loanId
  · subst hid
    rw [Function.update_self]
    exact hr
  · rw [Function.update_of_ne hid]

/-- The listing of a token that is for sale was there before if none is new. An unused record has no
collection. -/
theorem DebtMarket.NoneNew.offered (h : M.NoneNew M') (hM : M.Listings) (hM' : M'.Listings)
    {a : Address} {t : ℕ} (ha : a ≠ 0) (hid : M'.getDebtId a t ≠ 0) : M.getDebtId a t ≠ 0 := by
  obtain ⟨-, hopen, hasset, htoken⟩ := hM'.held hid
  have hsame := h _ hopen
  rw [hsame] at hopen hasset htoken
  generalize M'.getDebtId a t = id at hid hopen hasset htoken
  have hmem : id ∈ M.registry.ids := by
    by_contra hout
    have hfresh : M.debtIdTracker < id := by
      by_contra hle
      exact hout (Finset.mem_Ico.mpr ⟨Nat.pos_of_ne_zero hid, by omega⟩)
    rw [hM.fresh id hfresh] at hasset
    exact ha hasset.symm
  have hindex : M.registry.index (a, t) = id :=
    (hM.coherent.index_iff (a, t) id hid).mpr ⟨hmem, hopen, Prod.ext hasset htoken⟩
  exact hindex.trans_ne hid

end Positions

/-- The listing that a call opens. -/
def Call.offers {D : Deployment} : Call D → Option (Address × ℕ)
  | .createDebtListing nftAsset tokenId .. => some (nftAsset, tokenId)
  | _ => none

/-- What one call does to the positions of all borrowers: a position goes to another borrower only
if it is for sale, and it is offered for sale by its borrower alone. -/
structure PositionsKept {D : Deployment} (s : State) (sender : Address) (c : Call D) (s' : State) :
    Prop where
  borrower : ∀ a t, s.lendPoolLoan.getCollateralLoanId a t ≠ 0 → s.debtMarket.getDebtId a t = 0 →
    (s'.lendPoolLoan.loans (s.lendPoolLoan.getCollateralLoanId a t)).borrower
      = (s.loanOn a t).borrower
  offered : ∀ a t, a ≠ 0 → s'.debtMarket.getDebtId a t ≠ 0 → s.debtMarket.getDebtId a t = 0 →
    c.offers = some (a, t) ∧ (s.loanOn a t).borrower = sender

section Calls

variable {D : Deployment} {s s' : State} {sender : Address} {c : Call D}

/-- A call that lists nothing and hands nothing over. -/
theorem PositionsKept.of (h : Books D s) (h' : Books D s')
    (hL : s.lendPoolLoan.KeepsBorrowers s'.lendPoolLoan)
    (hM : s.debtMarket.NoneNew s'.debtMarket) : PositionsKept s sender c s' where
  borrower _ _ hid _ := hL _ (h.loans.held hid).2.1
  offered _ _ ha hid hfree :=
    absurd hfree (hM.offered h.listings h'.listings ha hid)

/-- A position that is handed over is one that was for sale. -/
theorem PositionsKept.ofHanded (h : Books D s) (h' : Books D s') {nftAsset onBehalfOf : Address}
    {tokenId index : ℕ} {T : Address → DebtToken}
    (hid : s.debtMarket.getDebtId nftAsset tokenId ≠ 0)
    (hover : HandedOver D s (s.loanOn nftAsset tokenId) onBehalfOf index s'.lendPoolLoan T)
    (hM : s.debtMarket.NoneNew s'.debtMarket) : PositionsKept s sender c s' where
  borrower a t hloan hfree := by
    -- the loan of the listing
    obtain ⟨hheld, -, -, -⟩ := h.listings.held hid
    obtain ⟨l, hl, -⟩ := h.matched _ _ hheld
    have hid' : s.lendPoolLoan.getCollateralLoanId nftAsset tokenId ≠ 0 := (held_eq_some.mp hl).1
    obtain ⟨-, -, hasset, htoken⟩ := h.loans.held hid'
    obtain ⟨-, hL⟩ := require_bind_eq_ok.mp hover.position
    have hloans : s'.lendPoolLoan.loans = Function.update s.lendPoolLoan.loans
        (s.lendPoolLoan.getCollateralLoanId nftAsset tokenId)
        { s.loanOn nftAsset tokenId with borrower := onBehalfOf } := by
      rw [← Except.ok.inj hL]
      unfold State.loanOn
      rw [hasset, htoken]
      rfl
    obtain ⟨-, -, hasset', htoken'⟩ := h.loans.held hloan
    have hne : s.lendPoolLoan.getCollateralLoanId a t
        ≠ s.lendPoolLoan.getCollateralLoanId nftAsset tokenId := by
      intro heq
      rw [heq, hasset] at hasset'
      rw [heq, htoken] at htoken'
      subst hasset' htoken'
      exact hid hfree
    rw [hloans, Function.update_of_ne hne]
    rfl
  offered a t ha hlisted hfree :=
    absurd hfree (hM.offered h.listings h'.listings ha hlisted)

/-- A borrow opens a loan in an unused record, or adds to one. -/
theorem BorrowedOn.keepsBorrowers {L : LendPoolLoan} (h : s.lendPoolLoan.Loans)
    {asset nftAsset onBehalfOf : Address} {amount tokenId index : ℕ} (hpos : 0 < amount)
    (hL : State.BorrowedOn s.lendPoolLoan L asset nftAsset tokenId onBehalfOf amount index) :
    s.lendPoolLoan.KeepsBorrowers L := by
  unfold State.BorrowedOn at hL
  split at hL
  · obtain ⟨-, hL⟩ := require_bind_eq_ok.mp hL
    obtain ⟨n, -, hL⟩ := bind_eq_ok.mp hL
    obtain rfl := Except.ok.inj hL
    intro id hlive
    have hne : id ≠ s.lendPoolLoan.loanIdTracker := by
      rintro rfl
      rw [h.fresh _ le_rfl] at hlive
      exact hlive.elim nofun nofun
    dsimp only
    rw [Function.update_of_ne hne]
  · obtain ⟨-, n, -, -, rfl⟩ := updateLoan_added hL hpos
    exact .rewrite rfl rfl

/-- A repayment takes debt off a loan, or closes it. -/
theorem RepaidOn.keepsBorrowers {L L' : LendPoolLoan} {loanId amount borrowAmount index : ℕ}
    (hpos : 0 < amount) (hL : State.RepaidOn L L' loanId amount borrowAmount index) :
    L.KeepsBorrowers L' := by
  unfold State.RepaidOn at hL
  split at hL
  · obtain ⟨-, n, -, -, -, rfl⟩ := updateLoan_taken hL hpos
    exact .rewrite rfl rfl
  · obtain ⟨-, hL⟩ := require_bind_eq_ok.mp hL
    exact .rewrite (releaseCollateral_loans hL) rfl

/-- So does every bid. -/
theorem LendPoolLoan.auctionLoan_keepsBorrowers {L L' : LendPoolLoan} {onBehalfOf : Address}
    {loanId bidPrice borrowAmount now : ℕ}
    (h : L.auctionLoan loanId onBehalfOf bidPrice borrowAmount now = .ok L') :
    L.KeepsBorrowers L' := by
  rcases auctionLoan_ok h with ⟨-, rfl⟩ | ⟨-, -, rfl⟩
  · exact .rewrite rfl rfl
  · exact .rewrite rfl rfl

/-- **Every call.** -/
theorem perform_positions (h : Books D s) (hs : D.isUser sender) (c : Call D) :
    Returns (s.perform D sender c) (PositionsKept s sender c) := by
  have hbooks : Returns (s.perform D sender c) (Books D) := by
    refine (perform_spec h hs c).returns.imp fun s' hs' => ?_
    obtain ⟨_, _, _, _, heffect, -⟩ := hs'
    exact heffect.books h
  suffices hkept : Returns (s.perform D sender c) (fun s' => Books D s' →
      PositionsKept s sender c s') from
    (hbooks.and hkept).returns.imp fun s' hs' => hs'.2 hs'.1
  have same {s' : State} (hL : s'.lendPoolLoan = s.lendPoolLoan)
      (hM : s.debtMarket.NoneNew s'.debtMarket) (h' : Books D s') : PositionsKept s sender c s' :=
    .of h h' (hL ▸ .refl _) hM
  cases c with
  | deposit asset amount onBehalfOf =>
    refine Returns.check fun _ => State.executeDeposit_account.imp fun s' hs' => ?_
    obtain ⟨Rs, ha⟩ := hs'
    exact same ha.loans ha.listings
  | withdraw asset amount receiver =>
    refine Returns.check fun _ => State.fst_spec (State.executeWithdraw_account.imp fun p hp => ?_)
    obtain ⟨Rs, _, _, ha, -⟩ := hp
    exact same ha.loans ha.listings
  | borrow asset amount nftAsset nftTokenId onBehalfOf =>
    refine Returns.check fun _ => State._borrow_account.imp fun s' hs' h' => ?_
    obtain ⟨Rs, L, T, _, _, ha, ⟨hpos, -, -⟩, hL, -⟩ := hs'
    exact .of h h' (ha.loans ▸ BorrowedOn.keepsBorrowers h.loans hpos hL) ha.listings
  | repay nftAsset nftTokenId amount =>
    refine Returns.check fun _ => State.fst_spec (State._repay_account.imp fun p hp h' => ?_)
    obtain ⟨loan, Rs, L, T, b, n, -, -, -, -, -, ha, ⟨hpos, -, -⟩, hL, -⟩ := hp
    exact .of h h' (ha.loans ▸ RepaidOn.keepsBorrowers hpos hL) ha.listings
  | auction nftAsset nftTokenId bidPrice onBehalfOf =>
    refine Returns.check fun _ => State.executeAuction_account.imp fun s' hs' h' => ?_
    obtain ⟨loan, Rs, L, b, -, -, -, ha, -, -, hL⟩ := hs'
    exact .of h h' (ha.loans ▸ auctionLoan_keepsBorrowers hL) ha.listings
  | redeem nftAsset nftTokenId amount bidFine =>
    refine Returns.check fun _ => State.fst_spec (State.executeRedeem_account.imp fun p hp h' => ?_)
    obtain ⟨loan, Rs, L, T, fine, -, -, ha, -, hL, -⟩ := hp
    obtain ⟨-, n, -, -, -, rfl⟩ := redeemLoan_ok hL
    exact .of h h' (ha.loans ▸ .rewrite rfl rfl) ha.listings
  | liquidate nftAsset nftTokenId amount =>
    refine Returns.check fun _ => State.fst_spec (State.executeLiquidate_account.imp
      fun p hp h' => ?_)
    obtain ⟨loan, Rs, L, T, b, -, -, -, ha, -, hL, -⟩ := hp
    obtain ⟨-, hL⟩ := require_bind_eq_ok.mp hL
    exact .of h h' (ha.loans ▸ .rewrite (releaseCollateral_loans hL) rfl) ha.listings
  | buyout nftAsset nftTokenId onBehalfOf =>
    refine Returns.check fun _ => State.executeBuyout_account.imp fun s' hs' h' => ?_
    obtain ⟨loan, Rs, L, T, b, _, _, _, -, -, -, -, ha, -, hL, -⟩ := hs'
    exact .of h h' (ha.loans ▸ .rewrite (releaseCollateral_loans hL) rfl) ha.listings
  | liquidateReservoir nftAsset reserveAsset tokenId module sale expectedLiquidateAmount =>
    refine State.liquidateReservoir_account.imp fun s' hs' h' => ?_
    obtain ⟨Rs, L, T, _, _, _, ha⟩ := hs'
    obtain ⟨-, hL⟩ := require_bind_eq_ok.mp ha.closed
    obtain ⟨-, hL⟩ := require_bind_eq_ok.mp hL
    exact .of h h' (ha.loans ▸ .rewrite (releaseCollateral_loans hL) rfl) ha.listings
  | buy nftAsset tokenId onBehalfOf amount =>
    refine State.buy_account.imp fun s' hs' h' => ?_
    obtain ⟨hid, -, hsold, Rs, L, T, ha, hover⟩ := hs'
    exact .ofHanded h h' hid (ha.loans ▸ hover) hsold.noneNew
  | claim nftAsset tokenId onBehalfOf =>
    refine State.claim_account.imp fun s' hs' h' => ?_
    obtain ⟨hid, -, hsold, Rs, L, T, ha, hover⟩ := hs'
    exact .ofHanded h h' hid (ha.loans ▸ hover) hsold.noneNew
  | bid nftAsset tokenId bidPrice onBehalfOf =>
    refine State.bid_account.imp fun s' hs' h' => ?_
    obtain ⟨hid, -, ⟨-, hsold, Rs, L, T, ha, hover⟩ | ⟨-, honly, hM⟩⟩ := hs'
    · exact .ofHanded h h' hid (ha.loans ▸ hover) hsold.noneNew
    · refine ⟨fun a t _ _ => ?_, fun a t _ hlisted hfree => ?_⟩
      · rw [honly.lendPoolLoan]
        rfl
      · rw [hM] at hlisted
        exact absurd hfree hlisted
  | createDebtListing nftAsset tokenId sellPrice onBehalfOf startBiddingPrice auctionEnd =>
    refine Returns.check fun _ => Returns.check fun hfree => Returns.check fun _ => ?_
    refine Returns.check fun hborrower => ?_
    refine Sat.bind (DebtMarket.createDebtListing_spec h.listings hfree).returns
      fun M hM h' => ?_
    obtain ⟨d, hmove, hopen, hkey, -⟩ := hM
    refine ⟨fun a t _ _ => rfl, fun a t _ hlisted hfree' => ?_⟩
    by_cases hk : (nftAsset, tokenId) = (a, t)
    · obtain ⟨rfl, rfl⟩ := Prod.mk.inj hk
      exact ⟨rfl, hborrower⟩
    · have hsame := hmove.move.held_new h.listings.coherent (a, t)
      rw [Option.elim, hkey, if_neg hk] at hsame
      have hnone : s.debtMarket.registry.held (a, t) = none := held_eq_none.mpr hfree'
      exact absurd (held_eq_none.mp (hsame.trans hnone)) hlisted
  | cancelDebtListing nftAsset tokenId =>
    refine Sat.imp State.cancelDebtListing_posted fun s' hs' => ?_
    obtain ⟨M, E, rfl, hlistings, -⟩ := hs'
    exact same rfl hlistings
  | updateReserveState asset =>
    refine Sat.imp State.updateReserveState_posted fun s' hs' => ?_
    obtain ⟨Rs, U, rfl, -⟩ := hs'
    exact same rfl (.refl _)
  | updateReserveInterestRates asset =>
    refine State.updateReserveInterestRates_spec.returns.imp fun s' hs' => ?_
    obtain ⟨Rs, rfl, -⟩ := hs'
    exact same rfl (.refl _)
  | transferBidAmount reserveAsset bidder bidAmount =>
    refine Returns.check fun _ => Sat.imp State.safeTransfer_posted fun s' hs' => ?_
    obtain ⟨E, rfl, -⟩ := hs'
    exact same rfl (.refl _)
  | transfer asset dst amount =>
    refine Sat.imp State.safeTransfer_posted fun s' hs' => ?_
    obtain ⟨E, rfl, -⟩ := hs'
    exact same rfl (.refl _)
  | transferFrom asset src dst amount =>
    refine Sat.imp State.safeTransferFrom_posted fun s' hs' => ?_
    obtain ⟨E, rfl, -⟩ := hs'
    exact same rfl (.refl _)
  | burn => exact Returns.check fun _ => same rfl (.refl _)
  | transferNft => exact Returns.step fun _ _ => same rfl (.refl _)
  | approveNft => exact Returns.check fun _ => same rfl (.refl _)
  | approve | setApprovalForAll | approveDelegation => exact same rfl (.refl _)

end Calls

/-! ## Loans that nobody may seize -/

namespace State

variable {D : Deployment} {s s₁ s' : State} {nftAsset : Address} {tokenId : ℕ}

/-- The debt on a token is covered: its collateral is worth something, and not under water for what
is owed, be it read now or at the index that the next call works with. -/
def Covered (s : State) (nftAsset : Address) (tokenId : ℕ) : Prop :=
  let loan := s.loanOn nftAsset tokenId
  ∃ collateral, s.calculateNftCollateralData loan.reserveAsset nftAsset tokenId = .ok collateral ∧
    collateral.2 ≠ 0 ∧
    ∀ debt, (debt = loan.outstanding (s.nextIndex loan.reserveAsset) ∨
        s.getLoanReserveBorrowAmount (s.lendPoolLoan.getCollateralLoanId nftAsset tokenId)
          = .ok debt) →
      ¬ Underwater collateral.2 debt
        (getLiquidationThreshold (s.lendPool.nftConfig nftAsset tokenId))

namespace Covered

/-- There is no collateral in terms of the asset zero. -/
theorem asset_ne_zero (h : s.Covered nftAsset tokenId) :
    (s.loanOn nftAsset tokenId).reserveAsset ≠ 0 := by
  obtain ⟨collateral, hpriced, hworth, -⟩ := h
  intro hzero
  rw [hzero] at hpriced
  obtain ⟨price, -, hpriced⟩ := bind_eq_ok.mp hpriced
  exact hworth (congrArg Prod.snd (Except.ok.inj hpriced)).symm

/-- It is covered still once its reserve has been brought up to date. -/
theorem updated (h : s.Covered nftAsset tokenId)
    (hs₁ : s.updateState (s.loanOn nftAsset tokenId).reserveAsset = .ok s₁) {collateral : ℕ × ℕ}
    {debt : ℕ} (hpriced : s₁.calculateNftCollateralData (s.loanOn nftAsset tokenId).reserveAsset
      nftAsset tokenId = .ok collateral)
    (hdebt : s₁.getLoanReserveBorrowAmount (s.lendPoolLoan.getCollateralLoanId nftAsset tokenId)
      = .ok debt) :
    ¬ Underwater collateral.2 debt
      (getLiquidationThreshold (s.lendPool.nftConfig nftAsset tokenId)) := by
  obtain ⟨collateral₁, hpriced₁, -, hnot⟩ := h
  obtain ⟨Rs, U, rfl, hupd⟩ := updateState_spec.ok hs₁
  have hsame : ((s.withReserves Rs).withUTokens U).calculateNftCollateralData
      (s.loanOn nftAsset tokenId).reserveAsset nftAsset tokenId
        = s.calculateNftCollateralData (s.loanOn nftAsset tokenId).reserveAsset nftAsset tokenId :=
    calculateNftCollateralData_congr rfl rfl (hupd.configuration _)
  rw [hsame] at hpriced
  obtain rfl := Except.ok.inj (hpriced₁.symm.trans hpriced)
  refine hnot debt (.inl ?_)
  have howed := @Updated.outstanding s ((s.withReserves Rs).withUTokens U) _ debt
    (s.loanOn nftAsset tokenId) Rs hupd rfl rfl rfl hdebt
  rw [howed, hupd.nextIndex]

variable (h : s.Covered nftAsset tokenId)
  (hid : s.lendPoolLoan.getCollateralLoanId nftAsset tokenId ≠ 0)
  (hkey : (s.loanOn nftAsset tokenId).nftAsset = nftAsset ∧
    (s.loanOn nftAsset tokenId).nftTokenId = tokenId)
  (hactive : (s.loanOn nftAsset tokenId).state = .Active)

include h hkey in
/-- No first bid on it is let through. -/
theorem auction : ¬ s.AuctionPermitted nftAsset tokenId := by
  rintro ⟨s₁, prices, hs₁, hprices, hlt⟩
  rw [hkey.1, hkey.2] at hprices
  obtain ⟨hdebt, collateral, hpriced, hthreshold⟩ :=
    (calculateLoanLiquidatePrice_threshold h.asset_ne_zero).ok hprices
  rw [hthreshold] at hlt
  exact h.updated hs₁ hpriced hdebt (.of_lt hlt)

include h hid hkey in
/-- No buyout is. -/
theorem buyout : ¬ s.BuyoutPermitted nftAsset tokenId := by
  rintro ⟨s₁, health, hs₁, hhealth, hle⟩
  rw [hkey.1, hkey.2] at hhealth
  obtain ⟨debt, hdebt, -⟩ := bind_eq_ok.mp hhealth
  have hdebt := debtOfLoan_debt hid hdebt
  obtain ⟨-, collateral, hpriced, hunder⟩ :=
    (calculateLoanData_le_iff hid hdebt).mp ⟨health, hhealth, hle⟩
  exact h.updated hs₁ hpriced hdebt hunder

include h hid hactive in
/-- No sale is, whichever reserve it names. -/
theorem sale {reserveAsset : Address} : ¬ s.SalePermitted nftAsset reserveAsset tokenId := by
  rintro ⟨s₁, hs₁, hhealth⟩
  have hfound : s₁.lendPoolLoan = s.lendPoolLoan ∧
      s₁.lendPool.nftConfig = s.lendPool.nftConfig := by
    obtain ⟨-, Rs, U, rfl, -⟩ := updateReserveState_spec.ok hs₁
    exact ⟨rfl, rfl⟩
  have hloan : s₁.loanOn nftAsset tokenId = s.loanOn nftAsset tokenId := by
    unfold loanOn
    rw [hfound.1]
  obtain ⟨collateral, debt, hpriced, hdebt, hunder⟩ :=
    _validateLoanHealthFactor_passed (by rw [hfound.1]; exact hid) hhealth
  rw [hloan] at hpriced hunder
  rw [hfound.2] at hunder
  by_cases hsame : reserveAsset = (s.loanOn nftAsset tokenId).reserveAsset
  · subst hsame
    obtain ⟨-, hs₁⟩ := require_bind_eq_ok.mp hs₁
    obtain ⟨-, hs₁⟩ := require_bind_eq_ok.mp hs₁
    rw [hfound.1] at hdebt
    exact h.updated hs₁ hpriced hdebt (hunder hactive)
  · rw [updateReserveState_elsewhere hs₁ (Ne.symm hsame)] at hdebt
    rw [updateReserveState_collateral hs₁] at hpriced
    obtain ⟨collateral₁, hpriced₁, -, hnot⟩ := h
    obtain rfl := Except.ok.inj (hpriced₁.symm.trans hpriced)
    exact hnot debt (.inr hdebt) (hunder hactive)

end Covered

end State

/-! ## A loan left to itself -/

/-- A running loan is found on its token. -/
theorem LendPoolLoan.Loans.found {L : LendPoolLoan} (h : L.Loans) {id : ℕ} (hid : id ≠ 0)
    (hlive : (L.loans id).live) :
    L.getCollateralLoanId (L.loans id).nftAsset (L.loans id).nftTokenId = id := by
  have hmem : id ∈ L.registry.ids := by
    by_contra hout
    have hfresh : L.loanIdTracker ≤ id := by
      by_contra hlt
      exact hout (Finset.mem_Ico.mpr ⟨Nat.pos_of_ne_zero hid, by omega⟩)
    rw [h.fresh id hfresh] at hlive
    exact hlive.elim nofun nofun
  exact (h.coherent.index_iff _ id hid).mpr ⟨hmem, hlive, rfl⟩

section Kept

variable {D : Deployment} {s s' s₀ : State} {id : ℕ} {l : LoanData} {action : Action D}

/-- While the loan runs, nobody may seize it, and its borrower does not offer it for sale. -/
def Spared (D : Deployment) (id : ℕ) (s : State) (action : Action D) : Prop :=
  let loan := s.lendPoolLoan.loans id
  loan.state = .Active → s.Covered loan.nftAsset loan.nftTokenId ∧
    ∀ sender outside c, action = .call sender outside c →
      c.offers = some (loan.nftAsset, loan.nftTokenId) → sender ≠ loan.borrower

/-- The loan is there as it was, but for how much is owed on it, and it is not for sale. -/
structure Standing (id : ℕ) (l : LoanData) (s : State) : Prop where
  record : ∃ n, s.lendPoolLoan.loans id = l.owing n
  unlisted : s.debtMarket.getDebtId l.nftAsset l.nftTokenId = 0

/-- A step was a repayment that closed the loan, and the token is with the borrower. -/
def Returned {D : Deployment} (id : ℕ) (l : LoanData) (e : Machine.Entry State (Action D)) :
    Prop :=
  ∃ sender outside amount, e.action = .call sender outside (.repay l.nftAsset l.nftTokenId amount) ∧
    (e.after.lendPoolLoan.loans id).state = .Repaid ∧
    (e.after.erc721 l.nftAsset).ownerOf l.nftTokenId = l.borrower

section Standing

variable (hid : id ≠ 0) (hactive : l.state = .Active)

include hid hactive

/-- It is found on its token. -/
theorem Standing.found (hs : Standing id l s) (h : Books D s) :
    s.lendPoolLoan.getCollateralLoanId l.nftAsset l.nftTokenId = id := by
  obtain ⟨n, hn⟩ := hs.record
  have hlive : (s.lendPoolLoan.loans id).live := .inl (by rw [hn]; exact hactive)
  have hfound := h.loans.found hid hlive
  rw [hn] at hfound
  exact hfound

/-- The loan on its token is the loan. -/
theorem Standing.loanOn (hs : Standing id l s) (h : Books D s) :
    ∃ n, s.loanOn l.nftAsset l.nftTokenId = l.owing n := by
  unfold State.loanOn
  rw [hs.found hid hactive h]
  exact hs.record

omit hid hactive in
/-- A call that rewrites this loan names its token. -/
theorem Standing.named (hs : Standing id l s) (h : Books D s) {nftAsset : Address} {tokenId : ℕ}
    (hne : s.lendPoolLoan.getCollateralLoanId nftAsset tokenId ≠ 0)
    (hon : s.lendPoolLoan.loans id = s.loanOn nftAsset tokenId) :
    nftAsset = l.nftAsset ∧ tokenId = l.nftTokenId := by
  obtain ⟨n, hn⟩ := hs.record
  obtain ⟨-, -, hasset, htoken⟩ := h.loans.held hne
  unfold State.loanOn at hon
  rw [← hon, hn] at hasset htoken
  exact ⟨hasset.symm, htoken.symm⟩

/-- While it is covered, no call that names its token may seize it. -/
theorem Standing.safe (hs : Standing id l s) (h : Books D s)
    (hcovered : s.Covered l.nftAsset l.nftTokenId) {nftAsset : Address} {tokenId : ℕ}
    (hne : s.lendPoolLoan.getCollateralLoanId nftAsset tokenId ≠ 0)
    (hon : s.lendPoolLoan.loans id = s.loanOn nftAsset tokenId) :
    (s.loanOn nftAsset tokenId).state = .Active ∧ ¬ s.AuctionPermitted nftAsset tokenId ∧
      ¬ s.BuyoutPermitted nftAsset tokenId ∧
      ∀ reserveAsset, ¬ s.SalePermitted nftAsset reserveAsset tokenId := by
  obtain ⟨rfl, rfl⟩ := hs.named h hne hon
  obtain ⟨n, hn⟩ := hs.loanOn hid hactive h
  have hkey : (s.loanOn l.nftAsset l.nftTokenId).nftAsset = l.nftAsset ∧
      (s.loanOn l.nftAsset l.nftTokenId).nftTokenId = l.nftTokenId := by
    rw [hn]
    exact ⟨rfl, rfl⟩
  have hstate : (s.loanOn l.nftAsset l.nftTokenId).state = .Active := by
    rw [hn]
    exact hactive
  exact ⟨hstate, hcovered.auction hkey, hcovered.buyout hne hkey,
    fun _ => hcovered.sale hne hstate⟩

end Standing

/-- A token that is not for sale is offered for sale by the borrower of its loan, or not at all. -/
theorem execute_offered (h : Books D s) {a : Address} {t : ℕ} (ha : a ≠ 0)
    (hfree : s.debtMarket.getDebtId a t = 0) (hok : s.execute D action = .ok s') :
    s'.debtMarket.getDebtId a t = 0 ∨ ∃ sender outside c, action = .call sender outside c ∧
      c.offers = some (a, t) ∧ (s.loanOn a t).borrower = sender := by
  have idle : Administered D s s' → s'.debtMarket.getDebtId a t = 0 := fun hadmin => by
    cases hadmin.listings.move with
    | idle he => exact (congrArg (fun reg => reg.index (a, t)) he).trans hfree
  cases action with
  | call sender outside c =>
    by_cases hlisted : s'.debtMarket.getDebtId a t = 0
    · exact .inl hlisted
    · exact .inr ⟨sender, outside, c, rfl,
        ((perform_positions h outside c).ok hok).offered a t ha hlisted hfree⟩
  | configure setting => exact .inl (idle ((configure_spec h setting).ok hok))
  | event e =>
    obtain rfl := Except.ok.inj hok
    exact .inl (idle (happen_administered h e))

/-- A repayment that closes a loan brings the token back to the borrower. -/
theorem perform_repay_returns {sender nftAsset : Address} {tokenId amount : ℕ} :
    Returns (s.perform D sender (.repay nftAsset tokenId amount)) (fun s' =>
      s.lendPoolLoan.getCollateralLoanId nftAsset tokenId ≠ 0 ∧
      ((s'.lendPoolLoan.loans (s.lendPoolLoan.getCollateralLoanId nftAsset tokenId)).state
          = .Repaid →
        (s'.erc721 (s.loanOn nftAsset tokenId).nftAsset).ownerOf tokenId
          = (s.loanOn nftAsset tokenId).borrower)) := by
  refine Returns.check fun _ => State.fst_spec (State._repay_account.imp fun p hp => ?_)
  obtain ⟨loan, _, L, _, b, _, hne, rfl, -, -, -, haccount, ⟨hpos, -, -⟩, hstored, -, hback⟩ := hp
  refine ⟨hne, fun hrepaid => hback fun hlt => ?_⟩
  -- a smaller repayment leaves the loan active
  unfold State.RepaidOn at hstored
  rw [if_pos hlt] at hstored
  obtain ⟨hactive, n, -, -, -, rfl⟩ := updateLoan_taken hstored hpos
  rw [haccount.loans, setLoan_self] at hrepaid
  cases hactive.symm.trans hrepaid

section Step

variable (hid : id ≠ 0) (hactive : l.state = .Active)

include hid hactive

/-- What one step does to the record: it stands, or a repayment has closed it. -/
theorem Standing.turned (h : Books D s) (hs : Standing id l s) (hspared : Spared D id s action)
    (hok : s.execute D action = .ok s') :
    (∃ n, s'.lendPoolLoan.loans id = l.owing n) ∨ Returned id l ⟨s, action, s'⟩ := by
  obtain ⟨n, hn⟩ := hs.record
  have hstate : (s.lendPoolLoan.loans id).state = .Active := by rw [hn]; exact hactive
  obtain ⟨hcovered, -⟩ := hspared hstate
  rcases execute_turned h hok with hsame | ⟨sender, outside, c, j, r, rfl, hL, ht⟩
  · exact .inl ⟨n, by rw [hsame, hn]⟩
  by_cases hj : id = j
  swap
  · exact .inl ⟨n, by rw [hL, Function.update_of_ne hj, hn]⟩
  subst hj
  have hread : s'.lendPoolLoan.loans id = r := by rw [hL, Function.update_self]
  rw [hread]
  have hcall : s.perform D sender c = .ok s' := hok
  have hpositions := (perform_positions h outside c).ok hcall
  rw [hn] at hcovered
  have hsafe (a : Address) (t : ℕ) (hne : s.lendPoolLoan.getCollateralLoanId a t ≠ 0)
      (hon : s.lendPoolLoan.loans id = s.loanOn a t) := hs.safe hid hactive h hcovered hne hon
  generalize hl : s.lendPoolLoan.loans id = l₀ at ht hn hstate hsafe
  cases ht with
  | opened => cases hstate
  | enlarged => exact .inl ⟨_, by rw [hn]; rfl⟩
  | reduced => exact .inl ⟨_, by rw [hn]; rfl⟩
  | firstBid hon =>
    obtain ⟨-, hcall⟩ := require_bind_eq_ok.mp hcall
    obtain ⟨_, _, _, _, hne, -⟩ := State.executeAuction_account.ok hcall
    obtain ⟨hactive', hauction, -⟩ := hsafe _ _ hne hon
    exact absurd ((State.executeAuction_permitted hactive').ok hcall) hauction
  | outbid _ hauction => cases hstate.symm.trans hauction
  | redeemed _ hauction => cases hstate.symm.trans hauction
  | liquidated _ hauction => cases hstate.symm.trans hauction
  | repaid hon =>
    obtain ⟨hne, hback⟩ := (perform_repay_returns (D := D)).ok hcall
    obtain ⟨rfl, rfl⟩ := hs.named h hne (hl.trans hon)
    have hrepaid : (s'.lendPoolLoan.loans id).state = .Repaid := congrArg LoanData.state hread
    have hfound := hs.found hid hactive h
    refine .inr ⟨sender, outside, _, rfl, hrepaid, ?_⟩
    unfold State.loanOn at hback
    rw [hfound, hl, hn] at hback
    exact hback hrepaid
  | boughtOut hon =>
    obtain ⟨-, hcall⟩ := require_bind_eq_ok.mp hcall
    obtain ⟨_, _, _, _, _, _, _, _, hne, -⟩ := State.executeBuyout_account.ok hcall
    obtain ⟨-, -, hbuyout, -⟩ := hsafe _ _ hne hon
    exact absurd (State.executeBuyout_permitted.ok hcall) hbuyout
  | sold hon =>
    obtain ⟨_, _, _, _, _, _, haccount⟩ := State.liquidateReservoir_account.ok hcall
    obtain ⟨-, -, -, hsale⟩ := hsafe _ _ haccount.held hon
    exact absurd (State.liquidateReservoir_permitted.ok hcall) (hsale _)
  | @handed _ _ newBorrower =>
    -- a position that is not for sale stays with its borrower
    have hfound := hs.found hid hactive h
    have hsame := hpositions.borrower l.nftAsset l.nftTokenId (hfound.trans_ne hid) hs.unlisted
    unfold State.loanOn at hsame
    rw [hfound, hread, hl] at hsame
    exact .inl ⟨n, by rw [← hn]; exact congrArg (fun b => { l₀ with borrower := b }) hsame⟩

/-- **One step.** A loan that is left alone stands, or a repayment has closed it. -/
theorem Standing.step (h : Books D s) (hasset : l.nftAsset ≠ 0) (hs : Standing id l s)
    (hspared : Spared D id s action) (hok : s.execute D action = .ok s') :
    Standing id l s' ∨ Returned id l ⟨s, action, s'⟩ := by
  refine (hs.turned hid hactive h hspared hok).imp (fun hrecord => ⟨hrecord, ?_⟩)
    fun hreturned => hreturned
  obtain ⟨n, hn⟩ := hs.record
  have hstate : (s.lendPoolLoan.loans id).state = .Active := by rw [hn]; exact hactive
  obtain ⟨-, hkeeps⟩ := hspared hstate
  rw [hn] at hkeeps
  rcases execute_offered h hasset hs.unlisted hok with hfree | ⟨sender, outside, c, ha, hc, hb⟩
  · exact hfree
  · obtain ⟨m, hm⟩ := hs.loanOn hid hactive h
    rw [hm] at hb
    exact absurd hb.symm (hkeeps sender outside c ha hc)

end Step

/-- **A covered loan is kept.** Let a token have an active loan on it that is not for sale. Over
every history in which, as long as the loan runs, its debt is covered before each step and its
borrower does not offer it for sale, nobody takes it away: it is the loan of the same borrower on
the token, with another debt at most, it is not for sale, and the token is in custody; or else some
repayment has closed it, and brought the token to the borrower. -/
theorem covered_loan_is_kept {allowed : State → Action D → Prop} {a : Address} {t : ℕ}
    {log : List (Machine.Entry State (Action D))} (hr : ReachableUntouched D allowed s₀)
    (ha : a ≠ 0) (hid : s₀.lendPoolLoan.getCollateralLoanId a t ≠ 0)
    (hactive : (s₀.loanOn a t).state = .Active)
    (hunlisted : s₀.debtMarket.getDebtId a t = 0)
    (hlog : Machine.History (Taken D (Spared D (s₀.lendPoolLoan.getCollateralLoanId a t))) s₀ log
      s) :
    (s.lendPoolLoan.getCollateralLoanId a t = s₀.lendPoolLoan.getCollateralLoanId a t ∧
      (∃ n, s.loanOn a t = (s₀.loanOn a t).owing n) ∧ s.debtMarket.getDebtId a t = 0 ∧
      s.InCustody D a t) ∨
    ∃ e ∈ log, ∃ sender outside amount, e.action = .call sender outside (.repay a t amount) ∧
      (e.after.lendPoolLoan.loans (s₀.lendPoolLoan.getCollateralLoanId a t)).state = .Repaid ∧
      (e.after.erc721 a).ownerOf t = (s₀.loanOn a t).borrower := by
  obtain ⟨-, -, hasset, htoken⟩ := (ReachableUntouched.reachable hr).books.loans.held hid
  generalize hl : s₀.loanOn a t = l at hactive
  have hkey : l.nftAsset = a ∧ l.nftTokenId = t := by
    rw [← hl]
    exact ⟨hasset, htoken⟩
  obtain ⟨rfl, rfl⟩ := hkey
  generalize hk : s₀.lendPoolLoan.getCollateralLoanId l.nftAsset l.nftTokenId = id at hid hlog
  have hstart : Standing id l s₀ := ⟨⟨l.scaledAmount, by rw [← hk]; exact hl⟩, hunlisted⟩
  have hrun : ∀ {log s}, Machine.History (Taken D (Spared D id)) s₀ log s →
      ReachableUntouched D (anyAction D) s := fun h =>
    Machine.Reachable.run (hr.mono fun _ _ ⟨x, _, hx⟩ => ⟨x, trivial, hx⟩)
      (h.run.lift (fun s => s) fun _ _ ⟨x, _, hx⟩ => ⟨x, trivial, hx⟩)
  have hkept : Standing id l s ∨ ∃ e ∈ log, Returned id l e := by
    refine Machine.History.invariant (P := fun log s => Standing id l s ∨
      ∃ e ∈ log, Returned id l e) (.inl hstart) (fun log s action s' hh hs hst => ?_) hlog
    rcases hs with hs | ⟨e, he, hreturned⟩
    · have hb := (ReachableUntouched.reachable (hrun hh)).books
      refine (hs.step hid hactive hb ha hst.1 hst.2).imp (fun hs' => hs') fun hreturned => ?_
      exact ⟨_, List.mem_cons_self, hreturned⟩
    · exact .inr ⟨e, List.mem_cons_of_mem _ he, hreturned⟩
  refine hkept.imp (fun hs => ?_) fun hreturned => hreturned
  have hb := (ReachableUntouched.reachable (hrun hlog)).books
  have hfound := hs.found hid hactive hb
  refine ⟨hfound, hs.loanOn hid hactive hb, hs.unlisted, ?_⟩
  exact (hrun hlog).custody.held _ _ (hb.receipt_iff.mpr (hfound.trans_ne hid))

end Kept

/-- User 100 pays back a third of its loan. -/
theorem covered_loan_is_kept_sample :
    ∃ (log : List (Machine.Entry State (Action .larger))) (s : State),
    log.map Machine.Entry.action
      = [.call 100 Deployment.larger_borrower (.repay 40 7 (10 * WAD))] ∧
    (s.lendPoolLoan.getCollateralLoanId 40 7
        = (State.larger .weth9 largerLoan).lendPoolLoan.getCollateralLoanId 40 7 ∧
      (∃ n, s.loanOn 40 7 = ((State.larger .weth9 largerLoan).loanOn 40 7).owing n) ∧
      s.debtMarket.getDebtId 40 7 = 0 ∧ s.InCustody .larger 40 7 ∨
    ∃ e ∈ log, ∃ sender outside amount, e.action = .call sender outside (.repay 40 7 amount) ∧
      (e.after.lendPoolLoan.loans
        ((State.larger .weth9 largerLoan).lendPoolLoan.getCollateralLoanId 40 7)).state = .Repaid ∧
      (e.after.erc721 40).ownerOf 7 = ((State.larger .weth9 largerLoan).loanOn 40 7).borrower) := by
  obtain ⟨s', hs'⟩ := exists_ok_of_raised (x := (State.larger .weth9 largerLoan).execute .larger
    (.call 100 Deployment.larger_borrower (.repay 40 7 (10 * WAD)))) (by decide +kernel)
  have hcovered : (State.larger .weth9 largerLoan).Covered 40 7 := by
    have howed : ((State.larger .weth9 largerLoan).loanOn 40 7).outstanding
        ((State.larger .weth9 largerLoan).nextIndex
          ((State.larger .weth9 largerLoan).loanOn 40 7).reserveAsset) = 30 * WAD := by
      decide +kernel
    have hread : (State.larger .weth9 largerLoan).getLoanReserveBorrowAmount
        ((State.larger .weth9 largerLoan).lendPoolLoan.getCollateralLoanId 40 7)
          = .ok (30 * WAD) := eq_ok_of_toOption (by decide +kernel)
    refine ⟨(100 * WAD, 100 * WAD), eq_ok_of_toOption (by decide +kernel), by decide,
      fun debt hdebt => ?_⟩
    obtain rfl : debt = 30 * WAD := hdebt.elim (·.trans howed)
      fun h => (Except.ok.inj (hread.symm.trans h)).symm
    unfold Underwater
    decide +kernel
  have hspared : Spared .larger
      ((State.larger .weth9 largerLoan).lendPoolLoan.getCollateralLoanId 40 7)
      (State.larger .weth9 largerLoan)
      (.call 100 Deployment.larger_borrower (.repay 40 7 (10 * WAD))) := by
    refine fun _ => ⟨hcovered, fun sender outside c hc hoffers => ?_⟩
    cases hc
    cases hoffers
  refine ⟨_, s', rfl, covered_loan_is_kept (State.larger_untouched .weth9 largerLoan)
    (by decide) (by decide +kernel) (by decide +kernel) (by decide +kernel)
    (.next .start ⟨hspared, hs'⟩)⟩

end Unlockd

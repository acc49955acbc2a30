/-
The life of a loan, record by record.

A call rewrites at most one loan. `Turned` lists the ways it can: a loan is opened,
enlarged, reduced, bid on, redeemed, closed, or handed to another borrower. Each way names
the call that takes it, so that what is assumed of the calls of a run is at hand where the
record changes. Every property of single loans is from here on a case analysis over
`Turned`, with no operation looked at again.
-/
import Unlockd.MarketAccounts
import Unlockd.Records

set_option autoImplicit false

namespace Unlockd

open Outcome Registry LendPoolLoan

/-! ## One record -/

/-- The loan once it is redeemed, owing `scaledAmount`: active, and without a trace of the
auction. -/
def LoanData.redeemed (l : LoanData) (scaledAmount : ℕ) : LoanData :=
  { l.owing scaledAmount with
    state := .Active
    bidStartTimestamp := 0
    bidBorrowAmount := 0
    bidderAddress := 0
    bidPrice := 0
    firstBidderAddress := 0 }

/-- The loan with a new highest bid. -/
def LoanData.withBid (l : LoanData) (bidder : Address) (bidPrice borrowAmount : ℕ) : LoanData :=
  { l with bidBorrowAmount := borrowAmount, bidderAddress := bidder, bidPrice := bidPrice }

/-- The loan with its first bid. -/
def LoanData.withFirstBid (l : LoanData) (bidder : Address) (bidPrice borrowAmount now : ℕ) :
    LoanData :=
  { l.withBid bidder bidPrice borrowAmount with
    state := .Auction
    bidStartTimestamp := now
    firstBidderAddress := bidder }

/-- A new loan. -/
def LoanData.opened (loanId : ℕ) (borrower nftAsset : Address) (nftTokenId : ℕ)
    (reserveAsset : Address) (scaledAmount : ℕ) : LoanData :=
  { LoanData.empty with
    loanId := loanId
    state := .Active
    borrower := borrower
    nftAsset := nftAsset
    nftTokenId := nftTokenId
    reserveAsset := reserveAsset
    scaledAmount := scaledAmount }

/-- The ways a call to the protocol rewrites a loan. -/
inductive Turned (D : Deployment) (s : State) : Call D → LoanData → LoanData → Prop
  | opened {asset nftAsset onBehalfOf : Address} {amount nftTokenId n loanId : ℕ} :
      rayDiv amount (s.nextIndex asset) = .ok n → n ≠ 0 →
      (s.lendPool.reserves asset).uTokenAddress ≠ 0 →
      Turned D s (.borrow asset amount nftAsset nftTokenId onBehalfOf) .empty
        (.opened loanId onBehalfOf nftAsset nftTokenId asset n)
  | enlarged {asset nftAsset onBehalfOf : Address} {amount nftTokenId n : ℕ} {l : LoanData} :
      l = s.loanOn nftAsset nftTokenId → l.state = .Active →
      Turned D s (.borrow asset amount nftAsset nftTokenId onBehalfOf) l
        (l.owing (l.scaledAmount + n))
  | reduced {nftAsset : Address} {amount nftTokenId n : ℕ} {l : LoanData} :
      l = s.loanOn nftAsset nftTokenId → l.state = .Active →
      amount < l.outstanding (s.nextIndex l.reserveAsset) →
      rayDiv amount (s.nextIndex l.reserveAsset) = .ok n →
      Turned D s (.repay nftAsset nftTokenId amount) l (l.owing (l.scaledAmount - n))
  | firstBid {nftAsset onBehalfOf : Address} {bidPrice nftTokenId b : ℕ} {l : LoanData} :
      l = s.loanOn nftAsset nftTokenId → l.state = .Active → onBehalfOf ≠ 0 →
      b = l.outstanding (s.nextIndex l.reserveAsset) → 0 < b → b ≤ bidPrice →
      Turned D s (.auction nftAsset nftTokenId bidPrice onBehalfOf) l
        (l.withFirstBid onBehalfOf bidPrice b s.blockTimestamp)
  | outbid {nftAsset onBehalfOf : Address} {bidPrice nftTokenId b : ℕ} {l : LoanData} :
      l = s.loanOn nftAsset nftTokenId → l.state = .Auction → onBehalfOf ≠ 0 →
      b = l.outstanding (s.nextIndex l.reserveAsset) → b ≤ bidPrice → l.bidPrice < bidPrice →
      (s.lendPool.reserves l.reserveAsset).variableBorrowIndex ≤ s.nextIndex l.reserveAsset →
      Turned D s (.auction nftAsset nftTokenId bidPrice onBehalfOf) l
        (l.withBid onBehalfOf bidPrice b)
  | redeemed {nftAsset : Address} {amount nftTokenId bidFine n : ℕ} {l : LoanData} :
      l = s.loanOn nftAsset nftTokenId → l.state = .Auction →
      rayDiv amount (s.nextIndex l.reserveAsset) = .ok n →
      Turned D s (.redeem nftAsset nftTokenId amount bidFine) l (l.redeemed (l.scaledAmount - n))
  | repaid {nftAsset : Address} {amount nftTokenId : ℕ} {l : LoanData} :
      l = s.loanOn nftAsset nftTokenId → l.state = .Active →
      Turned D s (.repay nftAsset nftTokenId amount) l { l with state := .Repaid }
  | liquidated {nftAsset : Address} {nftTokenId amount b : ℕ} {l : LoanData} :
      l = s.loanOn nftAsset nftTokenId → l.state = .Auction →
      Turned D s (.liquidate nftAsset nftTokenId amount) l
        { l with state := .Defaulted, bidBorrowAmount := b }
  | boughtOut {nftAsset onBehalfOf : Address} {nftTokenId b : ℕ} {l : LoanData} :
      l = s.loanOn nftAsset nftTokenId →
      Turned D s (.buyout nftAsset nftTokenId onBehalfOf) l
        { l with state := .Defaulted, bidBorrowAmount := b }
  | sold {nftAsset reserveAsset module : Address} {tokenId expected : ℕ} {sale : Sale D}
      {l : LoanData} :
      l = s.loanOn nftAsset tokenId →
      Turned D s (.liquidateReservoir nftAsset reserveAsset tokenId module sale expected) l
        { l with state := .Defaulted }
  | handed {c : Call D} {l : LoanData} {newBorrower : Address} :
      Turned D s c l (l.handTo newBorrower)

/-- One record was rewritten, if any, in one of those ways. -/
def LoansTurned (D : Deployment) (s : State) (c : Call D) (L : LendPoolLoan) : Prop :=
  L.loans = s.lendPoolLoan.loans ∨ ∃ id r,
    L.loans = Function.update s.lendPoolLoan.loans id r ∧
      Turned D s c (s.lendPoolLoan.loans id) r

/-! ## The storage functions -/

namespace LendPoolLoan

variable {L L' : LendPoolLoan} {loanId amount borrowIndex : ℕ}

/-- The record just written. -/
@[simp] theorem setLoan_self (loan : LoanData) : (L.setLoan loanId loan).loans loanId = loan :=
  Function.update_self _ _ _

/-- Taking debt off a loan. -/
theorem takeDebt_ok {l l' : LoanData} (h : takeDebt l amount borrowIndex = .ok l') :
    ∃ n, rayDiv amount borrowIndex = .ok n ∧ n ≠ 0 ∧ n ≤ l.scaledAmount ∧
      l' = l.owing (l.scaledAmount - n) := by
  obtain ⟨n, hn, h⟩ := bind_eq_ok.mp h
  obtain ⟨h0, h⟩ := require_bind_eq_ok.mp h
  obtain ⟨hle, h⟩ := require_bind_eq_ok.mp h
  exact ⟨n, hn, h0, hle, (Except.ok.inj h).symm⟩

/-- Adding debt to a loan, or taking some off it. -/
theorem updateLoan_added (h : L.updateLoan loanId amount 0 borrowIndex = .ok L')
    (hpos : 0 < amount) : (L.loans loanId).state = .Active ∧ ∃ n,
      rayDiv amount borrowIndex = .ok n ∧ n ≠ 0 ∧
      L' = L.setLoan loanId ((L.loans loanId).owing ((L.loans loanId).scaledAmount + n)) := by
  obtain ⟨hactive, h⟩ := require_bind_eq_ok.mp h
  rw [applyIf, if_pos hpos] at h
  obtain ⟨l, hl, h⟩ := bind_eq_ok.mp h
  obtain ⟨n, hn, hl⟩ := bind_eq_ok.mp hl
  obtain ⟨h0, hl⟩ := require_bind_eq_ok.mp hl
  obtain rfl := Except.ok.inj hl
  rw [applyIf, if_neg (Nat.lt_irrefl 0), ok_bind] at h
  exact ⟨hactive, n, hn, h0, (Except.ok.inj h).symm⟩

@[inherit_doc updateLoan_added]
theorem updateLoan_taken (h : L.updateLoan loanId 0 amount borrowIndex = .ok L')
    (hpos : 0 < amount) : (L.loans loanId).state = .Active ∧ ∃ n,
      rayDiv amount borrowIndex = .ok n ∧ n ≠ 0 ∧ n ≤ (L.loans loanId).scaledAmount ∧
      L' = L.setLoan loanId ((L.loans loanId).owing ((L.loans loanId).scaledAmount - n)) := by
  obtain ⟨hactive, h⟩ := require_bind_eq_ok.mp h
  rw [applyIf, if_neg (Nat.lt_irrefl 0), ok_bind, applyIf, if_pos hpos] at h
  obtain ⟨l, hl, h⟩ := bind_eq_ok.mp h
  obtain ⟨n, hn, h0, hle, rfl⟩ := takeDebt_ok hl
  exact ⟨hactive, n, hn, h0, hle, (Except.ok.inj h).symm⟩

/-- A bid, on a loan that is active exactly when its auction has no start. -/
theorem auctionLoan_ok {onBehalfOf : Address} {bidPrice borrowAmount now : ℕ}
    (h : L.auctionLoan loanId onBehalfOf bidPrice borrowAmount now = .ok L') :
    ((L.loans loanId).state = .Active ∧ L' = L.setLoan loanId
      ((L.loans loanId).withFirstBid onBehalfOf bidPrice borrowAmount now)) ∨
    ((L.loans loanId).state = .Auction ∧ (L.loans loanId).bidPrice < bidPrice ∧
      L' = L.setLoan loanId ((L.loans loanId).withBid onBehalfOf bidPrice borrowAmount)) := by
  obtain ⟨l, hl, h⟩ := bind_eq_ok.mp h
  obtain rfl := Except.ok.inj h
  unfold enterAuction at hl
  split at hl
  · obtain ⟨hs, hl⟩ := require_bind_eq_ok.mp hl
    obtain rfl := Except.ok.inj hl
    exact .inl ⟨hs, rfl⟩
  · obtain ⟨hs, hl⟩ := require_bind_eq_ok.mp hl
    obtain ⟨hlt, hl⟩ := require_bind_eq_ok.mp hl
    obtain rfl := Except.ok.inj hl
    exact .inr ⟨hs, hlt, rfl⟩

theorem redeemLoan_ok (h : L.redeemLoan loanId amount borrowIndex = .ok L') :
    (L.loans loanId).state = .Auction ∧ ∃ n, rayDiv amount borrowIndex = .ok n ∧ n ≠ 0 ∧
      n ≤ (L.loans loanId).scaledAmount ∧
      L' = L.setLoan loanId ((L.loans loanId).redeemed ((L.loans loanId).scaledAmount - n)) := by
  obtain ⟨hs, h⟩ := require_bind_eq_ok.mp h
  obtain ⟨l, hl, h⟩ := bind_eq_ok.mp h
  obtain ⟨n, hn, h0, hle, rfl⟩ := takeDebt_ok hl
  exact ⟨hs, n, hn, h0, hle, (Except.ok.inj h).symm⟩

/-- Releasing the collateral rewrites no record. -/
theorem releaseCollateral_loans {loan : LoanData} (h : L.releaseCollateral loan = .ok L') :
    L'.loans = L.loans := by
  obtain ⟨-, h⟩ := require_bind_eq_ok.mp h
  obtain ⟨-, h⟩ := require_bind_eq_ok.mp h
  obtain rfl := Except.ok.inj h
  rfl

end LendPoolLoan

/-! ## Calls that rewrite nothing -/

/-- A call that touches neither loans nor debts nor the vault. -/
def Call.isPlain {D : Deployment} : Call D → Bool
  | .updateReserveState .. | .updateReserveInterestRates .. | .transferBidAmount ..
  | .createDebtListing .. | .cancelDebtListing .. => true
  | c => c.ofToken

/-- What such a call leaves alone. -/
structure Plain (s s' : State) : Prop where
  blockTimestamp : s'.blockTimestamp = s.blockTimestamp
  pool : s.OnlyReserves s'
  idle : s.LeavesIdle s'.uTokens
  configurations : ∀ r,
    (s'.lendPool.reserves r).configuration = (s.lendPool.reserves r).configuration
  lendPoolLoan : s'.lendPoolLoan = s.lendPoolLoan
  debtTokens : s'.debtTokens = s.debtTokens
  yVault : s'.yVault = s.yVault
  listings : s.debtMarket.NoBidNew s'.debtMarket

section Calls

variable {D : Deployment} {s s' : State} {sender : Address}

theorem perform_plain (h : Books D s) {c : Call D} (hc : c.isPlain = true) :
    Returns (s.perform D sender c) (Plain s) := by
  have same : ∀ {s' : State}, s'.blockTimestamp = s.blockTimestamp →
      s'.lendPool = s.lendPool → s'.uTokens = s.uTokens → s'.lendPoolLoan = s.lendPoolLoan →
      s'.debtTokens = s.debtTokens → s'.yVault = s.yVault → s'.debtMarket = s.debtMarket →
      Plain s s' := fun ht hp hu hl hd hv hm =>
    ⟨ht, by rw [State.OnlyReserves, hp], fun r _ _ => by rw [hu], fun r => by rw [hp], hl, hd, hv,
      fun id _ => .inl (by rw [hm])⟩
  cases c with
  | updateReserveState asset =>
    refine Sat.imp State.updateReserveState_posted fun s' h => ?_
    obtain ⟨Rs, U, rfl, hupd, hidle⟩ := h
    exact ⟨rfl, rfl, hidle, hupd.configuration, rfl, rfl, rfl, fun id _ => .inl rfl⟩
  | updateReserveInterestRates asset =>
    refine State.updateReserveInterestRates_spec.returns.imp fun s' h => ?_
    obtain ⟨Rs, rfl, hpriced⟩ := h
    exact ⟨rfl, rfl, fun _ _ _ => rfl, hpriced.configuration, rfl, rfl, rfl, fun id _ => .inl rfl⟩
  | transferBidAmount reserveAsset bidder bidAmount =>
    refine Returns.check fun _ => Sat.imp State.safeTransfer_posted fun s' h => ?_
    obtain ⟨E, rfl, -⟩ := h
    exact same rfl rfl rfl rfl rfl rfl rfl
  | createDebtListing nftAsset tokenId sellPrice onBehalfOf startBiddingPrice auctionEndTimestamp =>
    refine Returns.check fun _ => Returns.check fun hfree => Returns.check fun _ => ?_
    refine Returns.check fun _ => ?_
    refine Sat.bind (DebtMarket.createDebtListing_spec h.listings hfree).returns fun M hM => ?_
    obtain ⟨d, hmove, -, -, hbidder, -⟩ := hM
    exact ⟨rfl, rfl, fun _ _ _ => rfl, fun _ => rfl, rfl, rfl, rfl, .opened hmove hbidder⟩
  | cancelDebtListing nftAsset tokenId =>
    refine Sat.imp State.cancelDebtListing_posted fun s' h => ?_
    obtain ⟨M, E, rfl, hlistings, -⟩ := h
    exact ⟨rfl, rfl, fun _ _ _ => rfl, fun _ => rfl, rfl, rfl, rfl, hlistings.noBidNew⟩
  | transfer asset dst amount =>
    refine Sat.imp State.safeTransfer_posted fun s' h => ?_
    obtain ⟨E, rfl, -⟩ := h
    exact same rfl rfl rfl rfl rfl rfl rfl
  | transferFrom asset src dst amount =>
    refine Sat.imp State.safeTransferFrom_posted fun s' h => ?_
    obtain ⟨E, rfl, -⟩ := h
    exact same rfl rfl rfl rfl rfl rfl rfl
  | approve asset spender amount => exact same rfl rfl rfl rfl rfl rfl rfl
  | burn asset amount => exact Returns.check fun _ => same rfl rfl rfl rfl rfl rfl rfl
  | transferNft asset src dst tokenId =>
    exact Returns.step fun _ _ => same rfl rfl rfl rfl rfl rfl rfl
  | approveNft asset dst tokenId => exact Returns.check fun _ => same rfl rfl rfl rfl rfl rfl rfl
  | setApprovalForAll asset operator approved => exact same rfl rfl rfl rfl rfl rfl rfl
  | _ => cases hc

/-! ## Every call -/

/-- A loan handed over is rewritten under another borrower. -/
theorem HandedOver.turned {loan : LoanData} {onBehalfOf : Address} {index : ℕ} {c : Call D}
    {L : LendPoolLoan} {T : Address → DebtToken}
    (h : HandedOver D s loan onBehalfOf index L T) : LoansTurned D s c L := by
  obtain ⟨-, hL⟩ := require_bind_eq_ok.mp h.position
  obtain rfl := Except.ok.inj hL
  exact .inr ⟨_, _, rfl, .handed⟩

/-- Minting never mints a scaled amount of zero. -/
theorem Minted.scaled {caller reserve initiator onBehalfOf : Address} {amount index : ℕ}
    {T T' : Address → DebtToken} (h : Minted caller reserve initiator onBehalfOf
      amount index T T') :
    ∃ n, rayDiv amount index = .ok n ∧ n ≠ 0 := by
  obtain ⟨d, hd, -⟩ := h
  obtain ⟨-, hd⟩ := require_bind_eq_ok.mp hd
  obtain ⟨d', -, hd⟩ := bind_eq_ok.mp hd
  obtain ⟨n, hn, hd⟩ := bind_eq_ok.mp hd
  obtain ⟨h0, -⟩ := require_bind_eq_ok.mp hd
  exact ⟨n, hn, h0⟩

/-- A borrow opens a loan in the first record not yet used, or enlarges the loan there is. -/
theorem BorrowedOn.turned (h : s.lendPoolLoan.Loans) {asset nftAsset onBehalfOf : Address}
    {amount nftTokenId n : ℕ} {L : LendPoolLoan} (hpos : 0 < amount)
    (hinit : (s.lendPool.reserves asset).uTokenAddress ≠ 0)
    (hn : rayDiv amount (s.nextIndex asset) = .ok n) (h0 : n ≠ 0)
    (hL : State.BorrowedOn s.lendPoolLoan L asset nftAsset nftTokenId onBehalfOf amount
      (s.nextIndex asset)) :
    LoansTurned D s (.borrow asset amount nftAsset nftTokenId onBehalfOf) L := by
  unfold State.BorrowedOn at hL
  split at hL
  · obtain ⟨-, hL⟩ := require_bind_eq_ok.mp hL
    rw [hn, ok_bind] at hL
    obtain rfl := Except.ok.inj hL
    have hempty := h.fresh s.lendPoolLoan.loanIdTracker le_rfl
    refine .inr ⟨s.lendPoolLoan.loanIdTracker, _, rfl, ?_⟩
    rw [hempty]
    exact .opened hn h0 hinit
  · obtain ⟨hactive, m, -, -, rfl⟩ := updateLoan_added hL hpos
    exact .inr ⟨_, _, rfl, .enlarged rfl hactive⟩

/-- **Every call.** It rewrites at most one loan, in one of the ways listed. -/
theorem perform_turned (h : Books D s) (c : Call D) :
    Returns (s.perform D sender c) (fun s' => LoansTurned D s c s'.lendPoolLoan) := by
  have kept : ∀ {x : Except Error State} {L : LendPoolLoan}, L = s.lendPoolLoan →
      Returns x (fun s' => s'.lendPoolLoan = L) →
      Returns x (fun s' => LoansTurned D s c s'.lendPoolLoan) := fun hL hx => hx.imp fun s' hs' =>
    .inl (by rw [hs', hL])
  by_cases hplain : c.isPlain = true
  · exact kept rfl ((perform_plain h hplain).imp fun s' hs' => hs'.lendPoolLoan)
  cases c with
  | deposit asset amount onBehalfOf =>
    refine kept rfl (Returns.check fun _ => State.executeDeposit_account.imp fun s' hs' => ?_)
    obtain ⟨Rs, ha⟩ := hs'
    exact ha.loans
  | withdraw asset amount receiver =>
    refine kept rfl (Returns.check fun _ => State.fst_spec (State.executeWithdraw_account.imp
      fun p hp => ?_))
    obtain ⟨Rs, _, _, ha, -⟩ := hp
    exact ha.loans
  | borrow asset amount nftAsset nftTokenId onBehalfOf =>
    refine Returns.check fun _ => State._borrow_account.imp fun s' hs' => ?_
    obtain ⟨Rs, L, T, _, _, ha, ⟨hpos, -, hinit⟩, hL, hminted, -⟩ := hs'
    obtain ⟨n, hn, h0⟩ := hminted.scaled
    rw [ha.updated.nextIndex] at hL hn
    rw [ha.loans]
    exact BorrowedOn.turned h.loans hpos hinit hn h0 hL
  | repay nftAsset nftTokenId amount =>
    refine Returns.check fun _ => State.fst_spec (State._repay_account.imp fun p hp => ?_)
    obtain ⟨loan, Rs, L, T, b, n, -, rfl, hb, -, -, ha, ⟨hpos, -, hactive⟩, hL, -, -⟩ := hp
    rw [ha.updated.nextIndex] at hL hb
    rw [ha.loans]
    unfold State.RepaidOn at hL
    split at hL
    · rename_i hlt
      obtain ⟨-, m, hm, -, -, rfl⟩ := updateLoan_taken hL hpos
      exact .inr ⟨_, _, rfl, .reduced rfl hactive (hb ▸ hlt) hm⟩
    · obtain ⟨-, hL⟩ := require_bind_eq_ok.mp hL
      exact .inr ⟨_, _, releaseCollateral_loans hL, .repaid rfl hactive⟩
  | auction nftAsset nftTokenId bidPrice onBehalfOf =>
    refine Returns.check fun _ => State.executeAuction_account.imp fun s' hs' => ?_
    obtain ⟨loan, Rs, L, b, -, rfl, hb, ha, ⟨hto, -⟩, ⟨hle, hpos, -⟩, hL⟩ := hs'
    have hindex := ha.updated.le_nextIndex
    rw [ha.updated.nextIndex] at hb
    rw [ha.loans]
    rcases auctionLoan_ok hL with ⟨hactive, rfl⟩ | ⟨hauction, hlt, rfl⟩
    · exact .inr ⟨_, _, rfl, .firstBid rfl hactive hto hb (hpos hactive) hle⟩
    · exact .inr ⟨_, _, rfl, .outbid rfl hauction hto hb hle hlt hindex⟩
  | redeem nftAsset nftTokenId amount bidFine =>
    refine Returns.check fun _ => State.fst_spec (State.executeRedeem_account.imp fun p hp => ?_)
    obtain ⟨loan, Rs, L, T, fine, -, rfl, ha, -, hL, -⟩ := hp
    rw [ha.updated.nextIndex] at hL
    rw [ha.loans]
    obtain ⟨hauction, n, hn, -, -, rfl⟩ := redeemLoan_ok hL
    exact .inr ⟨_, _, rfl, .redeemed rfl hauction hn⟩
  | liquidate nftAsset nftTokenId amount =>
    refine Returns.check fun _ => State.fst_spec (State.executeLiquidate_account.imp fun p hp => ?_)
    obtain ⟨loan, Rs, L, T, b, -, rfl, -, ha, -, hL, -⟩ := hp
    rw [ha.loans]
    obtain ⟨hauction, hL⟩ := require_bind_eq_ok.mp hL
    exact .inr ⟨_, _, releaseCollateral_loans hL, .liquidated rfl hauction⟩
  | buyout nftAsset nftTokenId onBehalfOf =>
    refine Returns.check fun _ => State.executeBuyout_account.imp fun s' hs' => ?_
    obtain ⟨loan, Rs, L, T, b, _, _, _, -, rfl, -, -, ha, -, hL, -⟩ := hs'
    rw [ha.loans]
    exact .inr ⟨_, _, releaseCollateral_loans hL, .boughtOut rfl⟩
  | buy nftAsset tokenId onBehalfOf amount =>
    refine State.buy_account.imp fun s' hs' => ?_
    obtain ⟨-, -, -, Rs, L, T, ha, hover⟩ := hs'
    rw [ha.loans]
    exact hover.turned
  | bid nftAsset tokenId bidPrice onBehalfOf =>
    refine State.bid_account.imp fun s' hs' => ?_
    obtain ⟨-, -, ⟨-, -, Rs, L, T, ha, hover⟩ | ⟨-, honly, -⟩⟩ := hs'
    · rw [ha.loans]
      exact hover.turned
    · exact .inl (by rw [honly.lendPoolLoan])
  | claim nftAsset tokenId onBehalfOf =>
    refine State.claim_account.imp fun s' hs' => ?_
    obtain ⟨-, -, -, Rs, L, T, ha, hover⟩ := hs'
    rw [ha.loans]
    exact hover.turned
  | liquidateReservoir nftAsset reserveAsset tokenId module sale expectedLiquidateAmount =>
    refine State.liquidateReservoir_account.imp fun s' hs' => ?_
    obtain ⟨Rs, L, T, _, _, _, ha⟩ := hs'
    rw [ha.loans]
    obtain ⟨-, hL⟩ := require_bind_eq_ok.mp ha.closed
    obtain ⟨-, hL⟩ := require_bind_eq_ok.mp hL
    exact .inr ⟨_, _, releaseCollateral_loans hL, .sold rfl⟩
  | approveDelegation asset delegatee amount => exact .inl rfl
  | _ => exact absurd rfl hplain

/-- What no call changes: the settings of the pool and of its reserves, the time, and the uTokens of
idle reserves. -/
structure KeepsSettings (s s' : State) : Prop where
  pool : s.OnlyReserves s'
  blockTimestamp : s'.blockTimestamp = s.blockTimestamp
  configurations : ∀ r,
    (s'.lendPool.reserves r).configuration = (s.lendPool.reserves r).configuration
  idle : s.LeavesIdle s'.uTokens

theorem KeepsSettings.ofAccount {asset : Address} {Rs : Address → ReserveData}
    {L : LendPoolLoan} {T : Address → DebtToken} {v : YVault}
    {ts : List (Transfers.Transfer Address Address)} (h : Account s s' asset Rs L T v ts) :
    KeepsSettings s s' := ⟨h.pool, h.blockTimestamp, h.configuration, h.idle⟩

/-- **Every call, on the settings.** -/
theorem perform_keepsSettings (h : Books D s) (c : Call D) :
    Returns (s.perform D sender c) (KeepsSettings s) := by
  by_cases hplain : c.isPlain = true
  · exact (perform_plain h hplain).imp fun s' hs' =>
      ⟨hs'.pool, hs'.blockTimestamp, hs'.configurations, hs'.idle⟩
  cases c with
  | deposit asset amount onBehalfOf =>
    refine Returns.check fun _ => State.executeDeposit_account.imp fun s' hs' => ?_
    obtain ⟨_, ha⟩ := hs'
    exact .ofAccount ha
  | withdraw asset amount receiver =>
    refine Returns.check fun _ => State.fst_spec (State.executeWithdraw_account.imp fun p hp => ?_)
    obtain ⟨_, _, _, ha, -⟩ := hp
    exact .ofAccount ha
  | borrow asset amount nftAsset nftTokenId onBehalfOf =>
    refine Returns.check fun _ => State._borrow_account.imp fun s' hs' => ?_
    obtain ⟨_, _, _, _, _, ha, -⟩ := hs'
    exact .ofAccount ha
  | repay nftAsset nftTokenId amount =>
    refine Returns.check fun _ => State.fst_spec (State._repay_account.imp fun p hp => ?_)
    obtain ⟨_, _, _, _, _, _, -, -, -, -, -, ha, -⟩ := hp
    exact .ofAccount ha
  | auction nftAsset nftTokenId bidPrice onBehalfOf =>
    refine Returns.check fun _ => State.executeAuction_account.imp fun s' hs' => ?_
    obtain ⟨_, _, _, _, -, -, -, ha, -⟩ := hs'
    exact .ofAccount ha
  | redeem nftAsset nftTokenId amount bidFine =>
    refine Returns.check fun _ => State.fst_spec (State.executeRedeem_account.imp fun p hp => ?_)
    obtain ⟨_, _, _, _, _, -, -, ha, -⟩ := hp
    exact .ofAccount ha
  | liquidate nftAsset nftTokenId amount =>
    refine Returns.check fun _ => State.fst_spec (State.executeLiquidate_account.imp fun p hp => ?_)
    obtain ⟨_, _, _, _, _, -, -, -, ha, -⟩ := hp
    exact .ofAccount ha
  | buyout nftAsset nftTokenId onBehalfOf =>
    refine Returns.check fun _ => State.executeBuyout_account.imp fun s' hs' => ?_
    obtain ⟨_, _, _, _, _, _, _, _, -, -, -, -, ha, -⟩ := hs'
    exact .ofAccount ha
  | buy nftAsset tokenId onBehalfOf amount =>
    refine State.buy_account.imp fun s' hs' => ?_
    obtain ⟨-, -, -, _, _, _, ha, -⟩ := hs'
    exact .ofAccount ha
  | bid nftAsset tokenId bidPrice onBehalfOf =>
    refine State.bid_account.imp fun s' hs' => ?_
    obtain ⟨-, -, ⟨-, -, _, _, _, ha, -⟩ | ⟨-, honly, -⟩⟩ := hs'
    · exact .ofAccount ha
    · refine ⟨?_, honly.blockTimestamp, fun _ => by rw [honly.lendPool], fun _ _ _ => ?_⟩
      · show s'.lendPool = _
        rw [honly.lendPool]
      · rw [honly.uTokens]
  | claim nftAsset tokenId onBehalfOf =>
    refine State.claim_account.imp fun s' hs' => ?_
    obtain ⟨-, -, -, _, _, _, ha, -⟩ := hs'
    exact .ofAccount ha
  | liquidateReservoir nftAsset reserveAsset tokenId module sale expectedLiquidateAmount =>
    refine State.liquidateReservoir_account.imp fun s' hs' => ?_
    obtain ⟨_, _, _, _, _, _, ha⟩ := hs'
    exact ⟨ha.pool, ha.blockTimestamp, ha.configurations, ha.idle⟩
  | approveDelegation asset delegatee amount => exact ⟨rfl, rfl, fun _ => rfl, fun _ _ _ => rfl⟩
  | _ => exact absurd rfl hplain

end Calls

/-! ## Every step -/

section Runs

variable {D : Deployment} {allowed : State → Action D → Prop} {s s' : State}

/-- **Every action.** It leaves the loans alone, or it is a call that rewrites one of them. -/
theorem execute_turned (h : Books D s) {a : Action D} (ha : s.execute D a = .ok s') :
    s'.lendPoolLoan.loans = s.lendPoolLoan.loans ∨ ∃ sender outside c id r,
      a = .call sender outside c ∧
      s'.lendPoolLoan.loans = Function.update s.lendPoolLoan.loans id r ∧
      Turned D s c (s.lendPoolLoan.loans id) r := by
  have idle : Administered D s s' → s'.lendPoolLoan.loans = s.lendPoolLoan.loans := fun hadmin => by
    cases hadmin.loans.move with
    | idle he => exact congrArg Registry.records he
  cases a with
  | call sender outside c =>
    rcases (perform_turned h c).ok ha with hsame | ⟨id, r, hL, hturn⟩
    · exact .inl hsame
    · exact .inr ⟨sender, outside, c, id, r, rfl, hL, hturn⟩
  | configure setting => exact .inl (idle ((configure_spec h setting).ok ha))
  | event e =>
    obtain rfl := Except.ok.inj ha
    exact .inl (idle (happen_administered h e))

/-- A reserve that has been set up stays set up. -/
theorem Reachable.opened_kept (hr : Reachable D allowed s) (hst : Step D allowed s s') {r : Address}
    (hinit : (s.lendPool.reserves r).uTokenAddress ≠ 0) :
    (s'.lendPool.reserves r).uTokenAddress = (s.lendPool.reserves r).uTokenAddress := by
  obtain ⟨_, _, _, _, hstepped⟩ := hr.stepped hst
  exact (hstepped.reserves r hinit).grown.uTokenAddress

/-- **The rule for single loans.** A property that an unused record has, that no step destroys
and that every rewriting allowed re-establishes, every record has in every reachable state. -/
theorem Reachable.everyLoan {P : State → LoanData → Prop} (hempty : ∀ s, P s .empty)
    (hkeep : ∀ s s', Reachable D allowed s → Step D allowed s s' → ∀ l, P s l → P s' l)
    (hturn : ∀ s sender outside c l r, Reachable D allowed s →
      allowed s (.call sender outside c) → P s l → Turned D s c l r → P s r)
    (hr : Reachable D allowed s) (id : ℕ) : P s (s.lendPoolLoan.loans id) := by
  refine Machine.Reachable.invariant (P := fun s => ∀ id, P s (s.lendPoolLoan.loans id))
    (fun t g id => ?_) (fun t t' ht ih hst id => ?_) hr id
  · rw [g.loans]
    exact hempty t
  · refine hkeep t t' ht hst _ ?_
    obtain ⟨a, hallowed, ha⟩ := hst
    rcases execute_turned (Reachable.books ht) ha with hsame | ⟨sender, outside, c, j, r,
      rfl, hL, hturned⟩
    · rw [hsame]
      exact ih id
    · rw [hL, Function.update_apply]
      split
      · exact hturn t sender outside c _ r ht hallowed (ih j) hturned
      · exact ih id

/-- A rewriting leaves a live loan in a state in which it is not live, or it was live before and
stays against its reserve, or it is new and its reserve has been set up. -/
theorem Turned.backed {c : Call D} {l r : LoanData} (ht : Turned D s c l r)
    (h : l.live → (s.lendPool.reserves l.reserveAsset).uTokenAddress ≠ 0) (hlive : r.live) :
    (s.lendPool.reserves r.reserveAsset).uTokenAddress ≠ 0 := by
  cases ht with
  | opened _ _ hinit => exact hinit
  | enlarged _ hactive => exact h (.inl hactive)
  | reduced _ hactive => exact h (.inl hactive)
  | firstBid _ hactive => exact h (.inl hactive)
  | outbid _ hauction => exact h (.inr hauction)
  | redeemed _ hauction => exact h (.inr hauction)
  | handed => exact h hlive
  | repaid => rcases hlive with hx | hx <;> cases hx
  | liquidated => rcases hlive with hx | hx <;> cases hx
  | boughtOut => rcases hlive with hx | hx <;> cases hx
  | sold => rcases hlive with hx | hx <;> cases hx

/-- The reserve of a live loan has been set up. -/
theorem Reachable.backed (hr : Reachable D allowed s) {id : ℕ}
    (hlive : (s.lendPoolLoan.loans id).live) :
    (s.lendPool.reserves (s.lendPoolLoan.loans id).reserveAsset).uTokenAddress ≠ 0 := by
  refine Reachable.everyLoan
    (P := fun s l => l.live → (s.lendPool.reserves l.reserveAsset).uTokenAddress ≠ 0)
    (fun t hl => ?_) (fun t t' ht hst l hl hlive => ?_)
    (fun t sender outside c l r ht hc hl hturned => hturned.backed hl) hr id hlive
  · rcases hl with hx | hx <;> cases hx
  · rw [Reachable.opened_kept ht hst (hl hlive)]
    exact hl hlive

end Runs

end Unlockd

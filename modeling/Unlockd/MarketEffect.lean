/-
What the calls of the debt market do to the books.

Five calls, and the cancellation that the other contracts ask for. Each is walked through
once; what it leaves is an `Effect`, and the debt of both users of a sale moves with the
loan.
-/
import Unlockd.Books

set_option autoImplicit false

namespace Unlockd

open Outcome Registry LendPoolLoan DebtMarket

/-! ## Debts and rates -/

/-- The rates of every reserve are as they were, or were written in the block up to which its
indices run. -/
def Timely (s s' : State) : Prop :=
  ∀ r,
    ((s'.lendPool.reserves r).currentLiquidityRate = (s.lendPool.reserves r).currentLiquidityRate ∧
      (s'.lendPool.reserves r).currentVariableBorrowRate
        = (s.lendPool.reserves r).currentVariableBorrowRate) ∨
    (s'.lendPool.reserves r).lastUpdateTimestamp = uint40 s'.blockTimestamp

/-- An effect in which the debt tokens move with the loan and rates are set on time. -/
structure Conducted (D : Deployment) (s s' : State) (lo ln : Option LoanData)
    (d₀ d₁ : Option DebtMarketListing) : Prop extends Effect D s s' lo ln d₀ d₁ where
  debts : ∀ r u, (s'.debtTokens r).scaledBalanceOf u + weigh (LoanData.owed r u) lo
    = (s.debtTokens r).scaledBalanceOf u + weigh (LoanData.owed r u) ln
  timely : Timely s s'

/-- What a live loan makes its borrower owe, and nobody else. -/
theorem LoanData.owed_of_live {l : LoanData} (hl : l.live) (r u : Address) :
    l.owed r u = if r = l.reserveAsset ∧ u = l.borrower then l.scaledAmount else 0 := by
  simp only [LoanData.owed, hl, true_and, eq_comm]

theorem LoanData.owed_owing {l : LoanData} (hl : l.live) (n : ℕ) (r u : Address) :
    (l.owing n).owed r u = if r = l.reserveAsset ∧ u = l.borrower then n else 0 :=
  LoanData.owed_of_live (l := l.owing n) hl r u

/-- A loan that is not live makes nobody owe anything. -/
theorem LoanData.owed_of_closed {l : LoanData} (hl : ¬ l.live) (r u : Address) :
    l.owed r u = 0 := by
  simp [LoanData.owed, hl]

/-- A loan that is not in auction keeps no bid in the pool. -/
theorem LoanData.escrow_of_closed {l : LoanData} (hl : ¬ l.live) (r : Address) :
    l.escrow r = 0 := by
  have hs : l.state ≠ .Auction := fun h => hl (.inr h)
  simp [LoanData.escrow, hs]

/-- A loan in auction keeps its bid in the pool. -/
theorem LoanData.escrow_of_auction {l : LoanData} (hl : l.state = .Auction) (r : Address) :
    l.escrow r = due l.reserveAsset l.bidPrice r := by
  simp only [LoanData.escrow, due, hl, true_and, eq_comm]

/-- A listing that is not open keeps no bid in the market. -/
theorem DebtMarketListing.escrow_of_closed {d : DebtMarketListing} (hd : ¬ d.isOpen) (r : Address) :
    d.escrow r = 0 := by
  simp [DebtMarketListing.escrow, hd]

/-- An open listing with a bid keeps that bid. -/
theorem DebtMarketListing.escrow_of_open {d : DebtMarketListing} (hd : d.isOpen)
    (hb : d.bidderAddress ≠ 0) (r : Address) : d.escrow r = due d.reserveAsset d.bidPrice r := by
  simp only [DebtMarketListing.escrow, due, hd, hb, true_and, ne_eq, not_false_eq_true,
    and_true, eq_comm]

/-- Whatever is in it, an open listing keeps at most its bid. -/
theorem DebtMarketListing.escrow_le (d : DebtMarketListing) (r : Address) :
    d.escrow r ≤ due d.reserveAsset d.bidPrice r := by
  unfold DebtMarketListing.escrow due
  by_cases hr : r = d.reserveAsset
  · split <;> simp
  · rw [if_neg fun h => hr h.2.1.symm]
    exact Nat.zero_le _

section Refreshed

variable {s : State} {asset : Address} {Rs : Address → ReserveData}

/-- Refreshing a reserve takes two operations on it and none on another. -/
theorem State.Refreshed.ops (h : s.Refreshed asset Rs) (r : Address) :
    (s.lendPool.reserves r).Ops s.blockTimestamp (Rs r) := by
  obtain ⟨hother, R, rates, hR, hRs⟩ := h
  by_cases hr : r = asset
  · subst hr
    exact (Relation.ReflTransGen.single (.updateIndexes _ hR)).tail (.setRates rates hRs)
  · rw [hother r hr]

/-- Bringing a reserve up to date takes one operation. -/
theorem State.Updated.ops (h : s.Updated asset Rs) (r : Address) :
    (s.lendPool.reserves r).Ops s.blockTimestamp (Rs r) := by
  by_cases hr : r = asset
  · subst hr
    exact .single (.updateIndexes _ h.2)
  · rw [h.1 r hr]

/-- So does setting its rates. -/
theorem State.Priced.ops {uToken : Address} {added taken : ℕ}
    (h : s.Priced asset uToken added taken Rs) (r : Address) :
    (s.lendPool.reserves r).Ops s.blockTimestamp (Rs r) := by
  obtain ⟨hother, rates, -, hR⟩ := h
  by_cases hr : r = asset
  · subst hr
    exact .single (.setRates rates hR)
  · rw [hother r hr]

/-- A refreshed reserve has its rates set on time. -/
theorem State.Refreshed.timely {s' : State} (h : s.Refreshed asset s'.lendPool.reserves)
    (ht : s'.blockTimestamp = s.blockTimestamp) : Timely s s' := by
  intro r
  by_cases hr : r = asset
  · subst hr
    rw [ht]
    exact .inr h.lastUpdateTimestamp
  · rw [h.1 r hr]
    exact .inl ⟨rfl, rfl⟩

end Refreshed

/-! ## Cancelling a listing -/

/-- What cancelling the listing on a token does: it is gone, no other is new, and the market
pays out no more than the bid on it. -/
structure Cancelled (D : Deployment) (nftAsset : Address) (tokenId : ℕ) (M M' : DebtMarket)
    (E E' : Address → Erc20) : Prop where
  shrinks : Shrinks M M'
  gone : M'.registry.held (nftAsset, tokenId) = none
  effect : ∃ d₀ d₁, ListingMove M M' d₀ d₁ ∧
    Flow D.debtMarket E E' (fun r => weigh (DebtMarketListing.escrow r) d₁)
      (fun r => weigh (DebtMarketListing.escrow r) d₀)
  others : ∀ h, h ≠ D.debtMarket → Flow h E E' 0 0

namespace State

variable {D : Deployment} {s : State} {nftAsset : Address} {tokenId : ℕ}

/-- The market holds the bid of every open listing. -/
theorem bid_le_funds (hM : s.debtMarket.Listings)
    (hsolvent : ∀ r, s.debtMarket.registry.total (DebtMarketListing.escrow r)
      ≤ (s.erc20 r).balanceOf D.debtMarket) {k : Address × ℕ} {d : DebtMarketListing}
    (hd : s.debtMarket.registry.held k = some d) (hb : d.bidderAddress ≠ 0) :
    d.bidPrice ≤ (s.erc20 d.reserveAsset).balanceOf D.debtMarket := by
  have hopen := (hM.coherent.held_live hd).1
  have hle := hM.coherent.weight_le (DebtMarketListing.escrow d.reserveAsset) hd
  rw [DebtMarketListing.escrow_of_open hopen hb, due_self] at hle
  exact hle.trans (hsolvent _)

/-- Paying a bid back out of the market's balance. -/
theorem returnBidFunds_spec {reserveAsset bidder : Address} {bidPrice : ℕ}
    (hfunds : bidPrice ≤ (s.erc20 reserveAsset).balanceOf D.debtMarket) :
    Sat (s.returnBidFunds D reserveAsset bidder bidPrice)
      (fun s' => ∃ E, s' = s.withErc20 E ∧ Paid reserveAsset D.debtMarket bidder bidPrice s.erc20 E)
      Error.Benign := by
  refine safeTransferFrom_spec.mono (fun s' h => ?_) fun e he => ?_
  · obtain ⟨E, rfl, hpaid, -⟩ := h
    exact ⟨E, rfl, hpaid⟩
  · rcases he with he | ⟨-, hlt⟩
    · exact he
    · exact absurd hfunds (not_le.mpr hlt)

/-- **Cancelling a listing.** With the market solvent, the refund cannot fail for want of
funds. -/
theorem cancelDebtListing_spec (hM : s.debtMarket.Listings)
    (hsolvent : ∀ r, s.debtMarket.registry.total (DebtMarketListing.escrow r)
      ≤ (s.erc20 r).balanceOf D.debtMarket) {caller : Address} :
    Sat (s.cancelDebtListing D caller nftAsset tokenId)
      (fun s' => ∃ M E, s' = (s.setDebtMarket M).withErc20 E ∧
        Cancelled D nftAsset tokenId s.debtMarket M s.erc20 E)
      Error.Benign := by
  refine Sat.bind (Sat.require fun _ => trivial) fun _ _ => ?_
  refine Sat.bind debtShouldExistGuard_spec fun _ hid => ?_
  obtain ⟨hheld, hopen, ha, ht⟩ := hM.held hid
  refine Sat.bind (DebtMarket.cancelDebtListing_spec hM hid) fun M hmove => ?_
  have hclosed : ¬ DebtMarketListing.isOpen
      { s.debtMarket.marketListings (s.debtMarket.getDebtId nftAsset tokenId) with
        state := .Canceled } := by rintro (h | h) <;> cases h
  obtain ⟨hshrinks, hgone⟩ := ListingMove.shrinks hmove hM hclosed
  have hkey : DebtMarketListing.key
      { s.debtMarket.marketListings (s.debtMarket.getDebtId nftAsset tokenId) with
        state := .Canceled } = (nftAsset, tokenId) := Prod.ext ha ht
  rw [hkey] at hgone
  refine Sat.applyIf (fun hb => ?_) fun hb => ?_
  · refine Sat.imp (returnBidFunds_spec (by exact bid_le_funds hM hsolvent hheld hb)) fun s' h => ?_
    obtain ⟨E, rfl, hpaid⟩ := h
    refine ⟨M, E, rfl, hshrinks, hgone, ⟨_, _, hmove, ?_⟩, fun h hne => hpaid.others hne⟩
    have hspend := hpaid.spend D.debtMarket
    refine ⟨fun r => ?_, hspend.allowance⟩
    have hb' := hspend.balance r
    simp only [weigh_some, DebtMarketListing.escrow_of_closed hclosed,
      DebtMarketListing.escrow_of_open hopen hb]
    exact hb'
  · refine ⟨M, s.erc20, rfl, hshrinks, hgone, ⟨_, _, hmove, ?_⟩, fun h _ => .refl h _⟩
    refine ⟨fun r => ?_, fun _ _ => le_rfl⟩
    simp only [weigh_some, DebtMarketListing.escrow_of_closed hclosed]
    exact Nat.le_add_right _ _

/-- What the other contracts do with a listing on a token: if there is none, nothing. -/
theorem cancelDebtListingIfExists_spec (hM : s.debtMarket.Listings)
    (hsolvent : ∀ r, s.debtMarket.registry.total (DebtMarketListing.escrow r)
      ≤ (s.erc20 r).balanceOf D.debtMarket) {caller : Address} :
    Sat (s.cancelDebtListingIfExists D caller nftAsset tokenId)
      (fun s' => ∃ M E, s' = (s.setDebtMarket M).withErc20 E ∧
        Cancelled D nftAsset tokenId s.debtMarket M s.erc20 E)
      Error.Benign := by
  refine Sat.applyIf (fun _ => cancelDebtListing_spec hM hsolvent) fun hid => ?_
  refine ⟨s.debtMarket, s.erc20, rfl, fun _ _ h => h, held_eq_none.mpr (not_not.mp hid),
    ⟨none, none, .idle _, .refl _ _⟩, fun h _ => .refl h _⟩

/-- **`cancelDebtListing` as a call of its own.** -/
theorem cancelDebtListing_conducted (h : Books D s) {caller : Address} :
    Sat (s.cancelDebtListing D caller nftAsset tokenId)
      (fun s' => ∃ d₀ d₁, Conducted D s s' none none d₀ d₁) (Error.Expected D s) := by
  refine (cancelDebtListing_spec h.listings h.marketSolvent).mono (fun s' hs => ?_)
    Error.Benign.expected
  obtain ⟨M, E, rfl, hc⟩ := hs
  obtain ⟨d₀, d₁, hmove, hmarket⟩ := hc.effect
  exact ⟨d₀, d₁,
    { blockTimestamp := rfl
      loans := .idle _
      listings := hmove
      matched := h.matched.step (.idle _) h.loans hc.shrinks fun l hl => by cases hl
      receipts := h.receipts
      reserves := fun _ => .refl
      pool := hc.others _ D.lendPool_ne_debtMarket
      market := hmarket
      debts := fun _ _ => rfl
      timely := fun _ => .inl ⟨rfl, rfl⟩ }⟩

/-- **`createDebtListing`.** The listing put in records the terms of the loan it was made for. -/
theorem createDebtListing_conducted (h : Books D s) {caller onBehalfOf : Address}
    {sellPrice startBiddingPrice auctionEndTimestamp : ℕ} :
    Sat (s.createDebtListing caller nftAsset tokenId sellPrice onBehalfOf startBiddingPrice
        auctionEndTimestamp)
      (fun s' => ∃ d₀ d₁, Conducted D s s' none none d₀ d₁) (Error.Expected D s) := by
  refine Sat.bind (Sat.require fun _ => Error.Benign.expected _ trivial) fun _ _ => ?_
  refine Sat.bind (Sat.require fun _ => Error.Benign.expected _ trivial) fun _ hfree => ?_
  refine Sat.bind (Sat.require fun _ => Error.Benign.expected _ trivial) fun _ hid => ?_
  refine Sat.bind (Sat.require fun _ => Error.Benign.expected _ trivial) fun _ _ => ?_
  refine Sat.andThen (DebtMarket.createDebtListing_spec h.listings hfree) Error.Benign.expected
    fun M hM => ?_
  obtain ⟨d, hmove, hopen, hkey, hbidder, hreserve, hscaled⟩ := hM
  obtain ⟨hheld, -⟩ := h.loans.held hid
  have hescrow : ∀ r, d.escrow r = 0 := fun r => by simp [DebtMarketListing.escrow, hbidder]
  exact ⟨none, some d,
    { blockTimestamp := rfl
      loans := .idle _
      listings := hmove
      matched := h.matched.listing hmove h.listings fun d' hd' _ => by
        obtain rfl := Option.some.inj hd'
        rw [hkey]
        exact ⟨_, hheld, hreserve.symm, hscaled.symm⟩
      receipts := h.receipts
      reserves := fun _ => .refl
      pool := .refl _ _
      market := by
        simp only [weigh_some, hescrow]
        exact .refl _ _
      debts := fun _ _ => rfl
      timely := fun _ => .inl ⟨rfl, rfl⟩ }⟩

end State

/-! ## Sales -/

/-- A listing that is open stands on a live loan with its terms. -/
theorem Books.position {D : Deployment} {s : State} (h : Books D s)
    {nftAsset : Address} {tokenId : ℕ}
    (hid : s.debtMarket.getDebtId nftAsset tokenId ≠ 0) :
    s.lendPoolLoan.getCollateralLoanId nftAsset tokenId ≠ 0 ∧
      SameTerms (s.debtMarket.marketListings (s.debtMarket.getDebtId nftAsset tokenId))
        (s.lendPoolLoan.loans (s.lendPoolLoan.getCollateralLoanId nftAsset tokenId)) := by
  obtain ⟨hheld, -⟩ := h.listings.held hid
  obtain ⟨l, hl, hterms⟩ := h.matched _ _ hheld
  obtain ⟨hne, rfl⟩ := held_eq_some.mp hl
  exact ⟨hne, hterms⟩

namespace State

variable {D : Deployment} {s s' : State} {nftAsset : Address} {tokenId : ℕ} {onBehalfOf : Address}

/-- The debt of both users of a sale moves with the loan. -/
theorem DebtTransferred.debts {loan : LoanData}
    (t : s.DebtTransferred s' nftAsset tokenId onBehalfOf loan) (hl : loan.live) (r u : Address) :
    (s'.debtTokens r).scaledBalanceOf u + weigh (LoanData.owed r u) (some loan)
      = (s.debtTokens r).scaledBalanceOf u + weigh (LoanData.owed r u)
        (some (loan.handTo onBehalfOf)) := by
  rw [weigh_some, weigh_some, LoanData.owed_of_live hl,
    LoanData.owed_of_live (l := loan.handTo onBehalfOf) hl]
  exact t.debt r u

/-- **A sale and the payments that go with it.** Whatever moves the tokens, the books of the two
contracts are kept if the pool loses nothing and the market no more than the bid of the
listing sold. -/
theorem DebtTransferred.conducted {loan : LoanData} {d₀ d : DebtMarketListing} {s'' : State}
    (h : Books D s) (hheld : s.lendPoolLoan.registry.held (nftAsset, tokenId) = some loan)
    (t : s.DebtTransferred s' nftAsset tokenId onBehalfOf loan) (hclosed : ¬ d.isOpen)
    (hkey : d.key = (nftAsset, tokenId))
    (hmove : ListingMove s.debtMarket s''.debtMarket (some d₀) (some d))
    (hstate : s'' = (s'.setDebtMarket s''.debtMarket).withErc20 s''.erc20)
    (hpool : Flow D.lendPool s.erc20 s''.erc20 0 0)
    (hmarket : Flow D.debtMarket s.erc20 s''.erc20 0 (DebtMarketListing.escrow · d₀)) :
    Conducted D s s'' (some loan) (some (loan.handTo onBehalfOf)) (some d₀) (some d) := by
  obtain ⟨hl, hk⟩ := h.loans.coherent.held_live hheld
  have hloan : s''.lendPoolLoan = s'.lendPoolLoan := by rw [hstate]; rfl
  have huNfts : s''.uNfts = s'.uNfts := by rw [hstate]; rfl
  have hreserves : s''.lendPool = s'.lendPool := by rw [hstate]; rfl
  have hdebts : s''.debtTokens = s'.debtTokens := by rw [hstate]; rfl
  have htime : s''.blockTimestamp = s'.blockTimestamp := by rw [hstate]; rfl
  have hlm : LoanMove s.lendPoolLoan s''.lendPoolLoan (some loan)
    (some (loan.handTo onBehalfOf)) := by
    rw [hloan]; exact t.loans
  obtain ⟨hshrinks, hgone⟩ := ListingMove.shrinks hmove h.listings hclosed
  exact
    { blockTimestamp := htime.trans t.blockTimestamp
      loans := hlm
      listings := hmove
      matched := h.matched.step hlm h.loans hshrinks fun l hl' => by
        obtain rfl := Option.some.inj hl'
        rw [hkey, ← hk] at hgone
        exact .inl hgone
      receipts := hlm.receipts h.loans h.receipts fun a t' => by
        rw [huNfts, t.receipts a t', LoanData.handTo_key,
          if_pos ((LoanData.handTo_live _ _).mpr hl)]
        rfl
      reserves := fun r => by rw [hreserves]; exact t.reserves.ops r
      pool := ⟨fun r => Nat.add_le_add_right (by simpa using hpool.balance r) _, hpool.allowance⟩
      market := by
        simp only [weigh_some, DebtMarketListing.escrow_of_closed hclosed]
        exact hmarket
      debts := fun r u => by rw [hdebts]; exact t.debts hl r u
      timely := by
        intro r
        have htimely := t.reserves.timely t.blockTimestamp r
        rw [hreserves, htime]
        exact htimely }

/-- What the sale of a position needs of the books, and what its errors say about them. -/
theorem _transferDebt_conducted (h : Books D s)
    (hid : s.debtMarket.getDebtId nftAsset tokenId ≠ 0) :
    Sat (s._transferDebt D nftAsset tokenId onBehalfOf)
      (fun s' => ∃ loan, s.lendPoolLoan.registry.held (nftAsset, tokenId) = some loan ∧
        loan = s.lendPoolLoan.loans (s.lendPoolLoan.getCollateralLoanId nftAsset tokenId) ∧
        s.DebtTransferred s' nftAsset tokenId onBehalfOf loan)
      (Error.Expected D s) := by
  obtain ⟨hloanId, hterms⟩ := h.position hid
  obtain ⟨hheld, -⟩ := h.loans.held hloanId
  refine (_transferDebt_spec h.loans hloanId h.indices hterms.2.symm).mono
    (fun s' t => ⟨_, hheld, rfl, t⟩) fun e he => ?_
  rcases he with he | ⟨loan, hl, he⟩
  · exact .inl (.inl he)
  · exact .inr ⟨_, loan, hl, he⟩

/-- A listing that was sold and deleted. -/
theorem sold_move {M M' : DebtMarket} (h : M.Listings) (hid : M.getDebtId nftAsset tokenId ≠ 0)
    {d : DebtMarketListing} (hd : d.state = .Sold)
    (hkey : d.key = (M.marketListings (M.getDebtId nftAsset tokenId)).key)
    (hdebtor : d.debtor = (M.marketListings (M.getDebtId nftAsset tokenId)).debtor)
    (hdelete :
      (M.setListing (M.getDebtId nftAsset tokenId) d)._deleteDebtOfferListing nftAsset tokenId
      = .ok M') :
    ¬ d.isOpen ∧ d.key = (nftAsset, tokenId) ∧
      ListingMove M M' (some (M.marketListings (M.getDebtId nftAsset tokenId))) (some d) := by
  obtain ⟨-, -, ha, ht⟩ := h.held hid
  have hclosed : ¬ d.isOpen := by
    rintro (h | h) <;> rw [hd] at h <;> cases h
  exact ⟨hclosed, hkey.trans (Prod.ext ha ht), _deleteDebtOfferListing_move h hid hclosed hkey
    hdebtor hdelete⟩

/-- The refund of the standing bid, when there is one: the market pays no more than the bid it
keeps. -/
theorem refund_spec {d : DebtMarketListing} (hopen : d.isOpen)
    (hfunds : d.bidderAddress ≠ 0 → d.bidPrice ≤ (s.erc20 d.reserveAsset).balanceOf D.debtMarket) :
    Sat (applyIf (d.bidderAddress ≠ 0)
        (fun s => s.returnBidFunds D d.reserveAsset d.bidderAddress d.bidPrice) s)
      (fun s' => ∃ E, s' = s.withErc20 E ∧ (∀ h, h ≠ D.debtMarket → Flow h s.erc20 E 0 0) ∧
        Flow D.debtMarket s.erc20 E 0 (DebtMarketListing.escrow · d))
      Error.Benign := by
  refine Sat.applyIf (fun hb => ?_) fun _ => ⟨_, rfl, fun h _ => .refl h _, ?_⟩
  · refine (returnBidFunds_spec (hfunds hb)).imp fun s' hs => ?_
    obtain ⟨E, rfl, hpaid⟩ := hs
    refine ⟨E, rfl, fun h hne => hpaid.others hne, ?_⟩
    rw [show (DebtMarketListing.escrow · d) = due d.reserveAsset d.bidPrice from
      funext (DebtMarketListing.escrow_of_open hopen hb)]
    exact hpaid.spend _
  · exact ⟨fun r => Nat.le_add_right _ _, fun _ _ => le_rfl⟩

/-- An account outside that pays takes nothing from the two contracts. -/
theorem payByUser_spec {asset caller src dst : Address} {amount : ℕ}
    (hp : src ≠ D.lendPool) (hm : src ≠ D.debtMarket) :
    Sat (s.safeTransferFrom asset caller src dst amount)
      (fun s' => ∃ E, s' = s.withErc20 E ∧ Paid asset src dst amount s.erc20 E)
        (Error.Blameless D) := by
  refine safeTransferFrom_spec.mono (fun s' hs => ?_) fun e he => ?_
  · obtain ⟨E, rfl, hpaid, -⟩ := hs
    exact ⟨E, rfl, hpaid⟩
  · rcases he with he | ⟨rfl, -⟩
    · exact .inl he
    · exact .inr ⟨src, rfl, hp, hm⟩

theorem _priceForLockeyHolders_spec {marketPrice : ℕ} :
    Sat (s._priceForLockeyHolders marketPrice onBehalfOf) (fun _ => onBehalfOf ≠ 0)
      Error.Benign := by
  refine Sat.bind (Sat.require fun _ => trivial) fun _ hne => ?_
  exact Sat.ite (fun _ => unitMul_benign.imp fun _ _ => hne) fun _ => hne

/-- **`buy`.** The buyer pays the seller, and a standing bid goes back. -/
theorem buy_conducted (h : Books D s) {caller : Address} (hcaller : D.isUser caller) {amount : ℕ} :
    Sat (s.buy D caller nftAsset tokenId onBehalfOf amount)
      (fun s' => ∃ lo ln d₀ d₁, Conducted D s s' lo ln d₀ d₁) (Error.Expected D s) := by
  have hp := hcaller.ne_lendPool
  have hm := hcaller.ne_debtMarket
  refine Sat.bind (Sat.require fun _ => Error.Benign.expected _ trivial) fun _ _ => ?_
  refine Sat.andThen debtShouldExistGuard_spec Error.Benign.expected fun _ hid => ?_
  refine Sat.bind (Sat.require fun _ => Error.Benign.expected _ trivial) fun _ _ => ?_
  refine Sat.bind (Sat.require fun _ => Error.Benign.expected _ trivial) fun _ _ => ?_
  obtain ⟨hdheld, hopen, -, -⟩ := h.listings.held hid
  refine Sat.bind (_transferDebt_conducted h hid) fun s₁ h₁ => ?_
  obtain ⟨loan, hheld, -, t⟩ := h₁
  refine Sat.andThen _priceForLockeyHolders_spec Error.Benign.expected fun price _ => ?_
  refine Sat.bind (Sat.require fun _ => Error.Benign.expected _ trivial) fun _ _ => ?_
  refine Sat.andThen (payByUser_spec hp hm) (fun _ => .inl) fun s₂ h₂ => ?_
  obtain ⟨E, rfl, hpaid⟩ := h₂
  rw [t.erc20] at hpaid
  refine Sat.mono (refund_spec hopen fun hb =>
    (bid_le_funds h.listings h.marketSolvent hdheld hb).trans
    ((hpaid.others hm.symm).le _)) (fun s₃ h₃ => ?_) Error.Benign.expected
  obtain ⟨E', rfl, hothers, hmarket⟩ := h₃
  obtain ⟨hclosed, hkey, hmove⟩ := sold_move h.listings hid (by rfl) (by rfl) (by rfl) t.listing
  exact ⟨_, _, _, _, t.conducted h hheld hclosed hkey hmove rfl
    ((hpaid.others hp.symm).idleAnd (hothers _ D.lendPool_ne_debtMarket))
    ((hpaid.others hm.symm).idleAnd hmarket)⟩

/-- **`claim`.** The winner of the auction takes the position, and the debtor gets the bid. -/
theorem claim_conducted (h : Books D s) :
    Sat (s.claim D nftAsset tokenId onBehalfOf)
      (fun s' => ∃ lo ln d₀ d₁, Conducted D s s' lo ln d₀ d₁) (Error.Expected D s) := by
  refine Sat.bind (Sat.require fun _ => Error.Benign.expected _ trivial) fun _ _ => ?_
  refine Sat.andThen debtShouldExistGuard_spec Error.Benign.expected fun _ hid => ?_
  refine Sat.bind (Sat.require fun _ => Error.Benign.expected _ trivial) fun _ _ => ?_
  refine Sat.bind (Sat.require fun _ => Error.Benign.expected _ trivial) fun _ hbidder => ?_
  refine Sat.bind (Sat.require fun _ => Error.Benign.expected _ trivial) fun _ _ => ?_
  obtain ⟨hdheld, hopen, -, -⟩ := h.listings.held hid
  obtain ⟨hloanId, hterms⟩ := h.position hid
  obtain ⟨hheld, -⟩ := h.loans.held hloanId
  -- the listing is marked as sold before the transfer looks at it
  have hscaled : ((s.debtMarket.setListing (s.debtMarket.getDebtId nftAsset tokenId)
      { s.debtMarket.marketListings (s.debtMarket.getDebtId nftAsset tokenId) with
        state := .Sold }).marketListings (s.debtMarket.getDebtId nftAsset tokenId)).scaledAmount
      = (s.lendPoolLoan.loans (s.lendPoolLoan.getCollateralLoanId nftAsset
        tokenId)).scaledAmount := by
    rw [setListing_self]
    exact hterms.2.symm
  refine Sat.andThen (_transferDebt_spec (by exact h.loans) (by exact hloanId) (by exact h.indices)
    (by exact hscaled)) ?_ fun s₁ t => ?_
  · rintro e (he | ⟨loan, hl, he⟩)
    · exact .inl (.inl he)
    · exact .inr ⟨_, loan, hl, he⟩
  have t' : s.DebtTransferred s₁ nftAsset tokenId onBehalfOf
      (s.lendPoolLoan.loans (s.lendPoolLoan.getCollateralLoanId nftAsset tokenId)) :=
    { blockTimestamp := t.blockTimestamp
      erc20 := t.erc20
      reserves := t.reserves
      debt := t.debt
      buyer := t.buyer
      loans := t.loans
      receipts := t.receipts
      listing := (congrArg (fun M => DebtMarket._deleteDebtOfferListing M nftAsset tokenId)
        (setListing_sold s.debtMarket _ _)).symm.trans t.listing }
  have hb := hbidder ▸ t.buyer
  refine (safeTransfer_spec (s := s₁)).mono (fun s₂ h₂ => ?_) fun e he => ?_
  · obtain ⟨E, rfl, hpaid⟩ := h₂
    rw [t.erc20] at hpaid
    obtain ⟨hclosed, hkey, hmove⟩ := sold_move h.listings hid (by rfl) (by rfl) (by rfl) t'.listing
    refine ⟨_, _, _, _, t'.conducted h hheld hclosed hkey hmove rfl
      (hpaid.others D.lendPool_ne_debtMarket) ?_⟩
    rw [show (DebtMarketListing.escrow · (s.debtMarket.marketListings
      (s.debtMarket.getDebtId nftAsset tokenId))) = _ from
      funext (DebtMarketListing.escrow_of_open hopen hb)]
    exact hpaid.spend _
  · rcases he with he | ⟨-, hlt⟩
    · exact Error.Benign.expected _ he
    · rw [t.erc20] at hlt
      exact absurd (bid_le_funds h.listings h.marketSolvent hdheld hb) (not_le.mpr hlt)

/-- The two branches of a bid: the position is sold, or the listing has a bid from now on. -/
theorem placeBid_spec (h : Books D s) (hid : s.debtMarket.getDebtId nftAsset tokenId ≠ 0)
    {bidPrice sellPrice : ℕ} :
    Sat (s.placeBid D nftAsset tokenId bidPrice sellPrice onBehalfOf)
      (fun s' => (∃ loan, s.lendPoolLoan.registry.held (nftAsset, tokenId) = some loan ∧
          s.DebtTransferred s' nftAsset tokenId onBehalfOf loan) ∨
        s' = s.setDebtMarket (s.debtMarket.setListing (s.debtMarket.getDebtId nftAsset tokenId)
          { s.debtMarket.marketListings (s.debtMarket.getDebtId nftAsset tokenId) with
            state := .Active }))
      (Error.Expected D s) := by
  refine Sat.ite (fun _ => ?_) fun _ => ?_
  · refine (_transferDebt_conducted h hid).imp fun s' hs => ?_
    obtain ⟨loan, hheld, -, t⟩ := hs
    exact .inl ⟨loan, hheld, t⟩
  · refine Sat.andThen unitMul_benign Error.Benign.expected fun _ _ => ?_
    exact Sat.bind (Sat.require fun _ => Error.Benign.expected _ trivial) fun _ _ => .inr rfl

/-- **`bid`.** A bid that buys at once sells the position; any other is kept by the market in
place of the bid before it. -/
theorem bid_conducted (h : Books D s) {caller : Address} (hcaller : D.isUser caller)
    {bidPrice : ℕ} :
    Sat (s.bid D caller nftAsset tokenId bidPrice onBehalfOf)
      (fun s' => ∃ lo ln d₀ d₁, Conducted D s s' lo ln d₀ d₁) (Error.Expected D s) := by
  have hp := hcaller.ne_lendPool
  have hm := hcaller.ne_debtMarket
  refine Sat.bind (Sat.require fun _ => Error.Benign.expected _ trivial) fun _ _ => ?_
  refine Sat.andThen debtShouldExistGuard_spec Error.Benign.expected fun _ hid => ?_
  refine Sat.andThen _priceForLockeyHolders_spec Error.Benign.expected fun sellPrice hbuyer => ?_
  refine Sat.bind (Sat.require fun _ => Error.Benign.expected _ trivial) fun _ _ => ?_
  refine Sat.bind (Sat.require fun _ => Error.Benign.expected _ trivial) fun _ _ => ?_
  refine Sat.bind (Sat.require fun _ => Error.Benign.expected _ trivial) fun _ _ => ?_
  refine Sat.bind (Sat.require fun _ => Error.Benign.expected _ trivial) fun _ _ => ?_
  obtain ⟨hdheld, hopen, ha, ht⟩ := h.listings.held hid
  have hfunds := bid_le_funds h.listings h.marketSolvent hdheld
  refine Sat.bind (placeBid_spec h hid) fun s₁ h₁ => ?_
  have herc20 : s₁.erc20 = s.erc20 := by
    rcases h₁ with ⟨loan, -, t⟩ | rfl
    · exact t.erc20
    · rfl
  refine Sat.andThen (payByUser_spec hp hm) (fun _ => .inl) fun s₂ h₂ => ?_
  obtain ⟨E, rfl, hpaid⟩ := h₂
  change Paid _ _ _ _ s₁.erc20 E at hpaid
  rw [herc20] at hpaid
  refine Sat.mono (refund_spec hopen fun hb => (hfunds hb).trans
    ((hpaid.others hm.symm).le _)) (fun s₃ h₃ => ?_) Error.Benign.expected
  obtain ⟨E', rfl, hothers, hmarket⟩ := h₃
  have hpool := (hpaid.others hp.symm).idleAnd (hothers _ D.lendPool_ne_debtMarket)
  rcases h₁ with ⟨loan, hheld, t⟩ | rfl
  · -- the record of the listing, sold by now, also gets the bid
    have hrecord : s₁.debtMarket.marketListings (s.debtMarket.getDebtId nftAsset tokenId)
        = { s.debtMarket.marketListings (s.debtMarket.getDebtId nftAsset tokenId) with
            state := .Sold } := by
      rw [_deleteDebtOfferListing_listings t.listing, setListing_self]
    have hdelete := _deleteDebtOfferListing_setListing (by rfl :
      (DebtMarketListing.bidBy
        { s.debtMarket.marketListings (s.debtMarket.getDebtId nftAsset tokenId) with
        state := .Sold } onBehalfOf bidPrice).debtor = _) t.listing
    obtain ⟨hclosed, hkey, hmove⟩ := sold_move h.listings hid (by rfl) (by rfl) (by rfl) hdelete
    rw [← hrecord] at hclosed hkey hmove
    exact ⟨_, _, _, _, t.conducted h hheld hclosed hkey hmove rfl hpool
      ((hpaid.others hm.symm).idleAnd hmarket)⟩
  · have hmove := setListing_move h.listings hid (d := DebtMarketListing.bidBy
      { s.debtMarket.marketListings (s.debtMarket.getDebtId nftAsset tokenId) with
        state := .Active } onBehalfOf bidPrice) (.inr rfl) rfl rfl
    rw [← setListing_bidBy] at hmove
    exact ⟨none, none, _, _,
      { blockTimestamp := rfl
        loans := .idle _
        listings := hmove
        matched := h.matched.listing hmove h.listings fun d' hd' _ => by
          obtain rfl := Option.some.inj hd'
          obtain ⟨l, hl, hterms⟩ := h.matched _ _ hdheld
          exact ⟨l, (congrArg s.lendPoolLoan.registry.held (Prod.ext ha ht)).trans hl, hterms⟩
        receipts := h.receipts
        reserves := fun _ => .refl
        pool := hpool
        market := ((hpaid.receive hm.symm).trans hmarket).weaken
          (fun r => DebtMarketListing.escrow_le _ r) fun r => (Nat.zero_add _).le
        debts := fun _ _ => rfl
        timely := fun _ => .inl ⟨rfl, rfl⟩ }⟩

end State

end Unlockd

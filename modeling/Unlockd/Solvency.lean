/-
Both contracts hold the bids they owe.

The pool keeps the bids of all auctions and the market those of all listings, each in one
balance for every reserve asset. Nothing leaves either of them that is not matched by a bid
released in the same step or by tokens that came in with it, so that the surplus of each
over its bids never falls and no bid is paid with another.
-/
import Unlockd.Records

set_option autoImplicit false

namespace Unlockd

open Outcome Registry LendPoolLoan DebtMarket

variable {D : Deployment} {s s' : State}

/-- The bids the pool holds against a reserve asset. -/
def LendPoolLoan.standingBids (L : LendPoolLoan) (r : Address) : ℕ :=
  ∑ id ∈ (Finset.Ico 1 L.loanIdTracker).filter fun id =>
    (L.loans id).state = .Auction ∧ (L.loans id).reserveAsset = r, (L.loans id).bidPrice

/-- The bids the market holds against a reserve asset. -/
def DebtMarket.standingBids (M : DebtMarket) (r : Address) : ℕ :=
  ∑ d ∈ (Finset.Ico 1 (M.debtIdTracker + 1)).filter fun d =>
    (M.marketListings d).isOpen ∧ (M.marketListings d).reserveAsset = r ∧
      (M.marketListings d).bidderAddress ≠ 0, (M.marketListings d).bidPrice

theorem LendPoolLoan.total_escrow (L : LendPoolLoan) (r : Address) :
    L.registry.total (LoanData.escrow r) = L.standingBids r :=
  Tally.tally_ite L.registry.ids (fun l : LoanData => l.state = .Auction ∧ l.reserveAsset = r)
    LoanData.bidPrice L.registry.records

theorem DebtMarket.total_escrow (M : DebtMarket) (r : Address) :
    M.registry.total (DebtMarketListing.escrow r) = M.standingBids r :=
  Tally.tally_ite M.registry.ids
    (fun d : DebtMarketListing => d.isOpen ∧ d.reserveAsset = r ∧ d.bidderAddress ≠ 0)
    DebtMarketListing.bidPrice M.registry.records

/-- No call to the protocol finds the pool or the market short of tokens. -/
theorem not_short (h : Books D s) {sender : Address} (hs : D.isUser sender) {c : Call D}
    (htoken : c.ofToken = false) {e : Error} (he : s.perform D sender c = .error e) :
    e ≠ .transferAmountExceedsBalance D.lendPool ∧
      e ≠ .transferAmountExceedsBalance D.debtMarket := by
  rcases refused_of_call h hs htoken he with (hb | ⟨a, rfl, hp, hm⟩) | ⟨_, rfl⟩
  · constructor <;> (rintro rfl; exact hb)
  · exact ⟨fun hx => hp (Error.transferAmountExceedsBalance.inj hx),
      fun hx => hm (Error.transferAmountExceedsBalance.inj hx)⟩
  · constructor <;> (intro hx; cases hx)

/-- What the pool holds beyond the bids it owes does not fall in a run. -/
theorem poolSurplus_le (hr : Reachable D (anyAction D) s) (hrun : Run D (anyAction D) s s')
    (r : Address) : (s.erc20 r).balanceOf D.lendPool - s.lendPoolLoan.standingBids r
      ≤ (s'.erc20 r).balanceOf D.lendPool - s'.lendPoolLoan.standingBids r := by
  refine Machine.run_le (f := fun t : State => (t.erc20 r).balanceOf D.lendPool
    - t.lendPoolLoan.standingBids r) (fun t t' ht hst => ?_) hr hrun
  obtain ⟨_, _, _, _, hstepped⟩ := Reachable.stepped ht hst
  simp only [← LendPoolLoan.total_escrow]
  exact hstepped.loans.move.surplus_le (Reachable.books ht).loans.coherent (hstepped.pool.balance r)

/-- What the market holds beyond the bids it owes does not fall in a run. -/
theorem marketSurplus_le (hr : Reachable D (anyAction D) s) (hrun : Run D (anyAction D) s s')
    (r : Address) : (s.erc20 r).balanceOf D.debtMarket - s.debtMarket.standingBids r
      ≤ (s'.erc20 r).balanceOf D.debtMarket - s'.debtMarket.standingBids r := by
  refine Machine.run_le (f := fun t : State => (t.erc20 r).balanceOf D.debtMarket
    - t.debtMarket.standingBids r) (fun t t' ht hst => ?_) hr hrun
  obtain ⟨_, _, _, _, hstepped⟩ := Reachable.stepped ht hst
  simp only [← DebtMarket.total_escrow]
  exact hstepped.listings.move.surplus_le (Reachable.books ht).listings.coherent
    (hstepped.market.balance r)

/-- **The pool is solvent.** It holds at least the bids of all auctions, no call fails because it
is short, and whatever leaves it is matched by a bid released: its surplus never falls. -/
theorem lendPool_solvent (hr : Reachable D (anyAction D) s) :
    (∀ r, s.lendPoolLoan.standingBids r ≤ (s.erc20 r).balanceOf D.lendPool) ∧
    (∀ sender c, D.isUser sender → c.ofToken = false → ∀ e, s.perform D sender c = .error e →
      e ≠ .transferAmountExceedsBalance D.lendPool) ∧
    (∀ s', Run D (anyAction D) s s' → ∀ r,
      (s.erc20 r).balanceOf D.lendPool - s.lendPoolLoan.standingBids r
        ≤ (s'.erc20 r).balanceOf D.lendPool - s'.lendPoolLoan.standingBids r) := by
  have h := Reachable.books hr
  exact ⟨fun r => (LendPoolLoan.total_escrow _ r).symm.trans_le (h.poolSolvent r),
    fun sender c hs htoken e he => (not_short h hs htoken he).1,
    fun s' hrun r => poolSurplus_le hr hrun r⟩

/-- In the small deployment the pool holds the bid of the one auction. -/
theorem lendPool_solvent_sample :
    State.sampleBusy.lendPoolLoan.standingBids 10
      ≤ (State.sampleBusy.erc20 10).balanceOf Deployment.sample.lendPool ∧
    State.sampleBusy.lendPoolLoan.standingBids 10 = 40 * WAD :=
  ⟨(lendPool_solvent (Reachable.any sampleBusy_noSale)).1 10, by decide +kernel⟩

/-- **The market is solvent.** It holds at least the bids of all open listings, no call fails
because it is short, and its surplus never falls. -/
theorem debtMarket_solvent (hr : Reachable D (anyAction D) s) :
    (∀ r, s.debtMarket.standingBids r ≤ (s.erc20 r).balanceOf D.debtMarket) ∧
    (∀ sender c, D.isUser sender → c.ofToken = false → ∀ e, s.perform D sender c = .error e →
      e ≠ .transferAmountExceedsBalance D.debtMarket) ∧
    (∀ s', Run D (anyAction D) s s' → ∀ r,
      (s.erc20 r).balanceOf D.debtMarket - s.debtMarket.standingBids r
        ≤ (s'.erc20 r).balanceOf D.debtMarket - s'.debtMarket.standingBids r) := by
  have h := Reachable.books hr
  exact ⟨fun r => (DebtMarket.total_escrow _ r).symm.trans_le (h.marketSolvent r),
    fun sender c hs htoken e he => (not_short h hs htoken he).2,
    fun s' hrun r => marketSurplus_le hr hrun r⟩

/-- In the small deployment the market holds the bid of the one listing. -/
theorem debtMarket_solvent_sample :
    State.sampleBusy.debtMarket.standingBids 10
      ≤ (State.sampleBusy.erc20 10).balanceOf Deployment.sample.debtMarket ∧
    State.sampleBusy.debtMarket.standingBids 10 = 2 * WAD :=
  ⟨(debtMarket_solvent (Reachable.any sampleBusy_noSale)).1 10, by decide +kernel⟩

end Unlockd

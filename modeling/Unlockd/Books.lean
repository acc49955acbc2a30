/-
The books of the protocol: what must agree between its contracts, and what one
operation may do to it.

`Books` is the invariant. Loans and listings are kept in order, every open listing records
the terms of a live loan, every receipt follows its loan, and the pool and the market each
hold at least the bids they owe. `Effect` is what an operation does, whichever it is: it
takes one loan and one listing out of the books and puts one of each in, moves the funds
of the two contracts by no less than the bids released, and lets no index fall.
`Effect.books` derives the invariant from that alone, so that no operation is ever
looked at twice.
-/
import Unlockd.ReservoirAdapter
import Unlockd.ReserveRun

set_option autoImplicit false

namespace Unlockd

open Outcome Registry LendPoolLoan DebtMarket

/-! ## Funds of one holder -/

/-- An amount of one asset. -/
def due (asset : Address) (amount : ℕ) (r : Address) : ℕ := if r = asset then amount else 0

@[simp] theorem due_self (asset : Address) (amount : ℕ) : due asset amount asset = amount :=
  if_pos rfl

/-- What happens to the tokens of a holder: it receives at least the one, spends at most the
other, and gives nobody a larger allowance. -/
structure Flow (h : Address) (E E' : Address → Erc20) (received spent : Address → ℕ) : Prop where
  balance : ∀ r, (E r).balanceOf h + received r ≤ (E' r).balanceOf h + spent r
  allowance : ∀ r c, (E' r).allowance h c ≤ (E r).allowance h c

namespace Flow

variable {h : Address} {E E' E'' : Address → Erc20} {a a' b b' : Address → ℕ}

theorem refl (h : Address) (E : Address → Erc20) : Flow h E E 0 0 :=
  ⟨fun _ => le_rfl, fun _ _ => le_rfl⟩

theorem trans (f : Flow h E E' a b) (g : Flow h E' E'' a' b') : Flow h E E'' (a + a') (b + b') where
  balance r := by
    have hf := f.balance r
    have hg := g.balance r
    simp only [Pi.add_apply]
    omega
  allowance r c := (g.allowance r c).trans (f.allowance r c)

theorem andIdle (f : Flow h E E' a b) (g : Flow h E' E'' 0 0) : Flow h E E'' a b := by
  simpa using f.trans g

theorem idleAnd (f : Flow h E E' 0 0) (g : Flow h E' E'' a b) : Flow h E E'' a b := by
  simpa using f.trans g

/-- Only what is spent over and above what is received counts. -/
theorem net (f : Flow h E E' a b) (hab : ∀ r, a' r + b r ≤ a r + b' r) : Flow h E E' a' b' where
  balance r := by
    have hf := f.balance r
    have := hab r
    omega
  allowance := f.allowance

/-- A flow is still one when less is claimed to be received, or more to be spent. -/
theorem weaken (f : Flow h E E' a b) (ha : ∀ r, a' r ≤ a r) (hb : ∀ r, b r ≤ b' r) :
    Flow h E E' a' b' :=
  f.net fun r => Nat.add_le_add (ha r) (hb r)

/-- After a flow that spends nothing, a holder has no less than before. -/
theorem le (f : Flow h E E' a 0) (r : Address) : (E r).balanceOf h ≤ (E' r).balanceOf h := by
  have hf := f.balance r
  rw [Pi.zero_apply] at hf
  omega

/-- A holder that had no allowance to give away still has none. -/
theorem guarded (f : Flow h E E' a b) (hg : ∀ r c, (E r).allowance h c = 0) (r c : Address) :
    (E' r).allowance h c = 0 :=
  Nat.le_zero.mp ((f.allowance r c).trans (hg r c).le)

end Flow

namespace State.Paid

variable {asset src dst h : Address} {amount : ℕ} {E E' : Address → Erc20}

theorem moved (p : Paid asset src dst amount E E') (r : Address) :
    (E' r = E r ∧ r ≠ asset) ∨ (r = asset ∧ (E r).Moved (E' r) src dst amount) := by
  by_cases hr : r = asset
  · exact .inr ⟨hr, hr ▸ p.2⟩
  · exact .inl ⟨p.1 r hr, hr⟩

theorem allowance (p : Paid asset src dst amount E E') (r o c : Address) :
    (E' r).allowance o c ≤ (E r).allowance o c := by
  rcases p.moved r with ⟨he, -⟩ | ⟨-, m⟩
  · rw [he]
  · exact m.allowance o c

/-- Whoever does not pay loses nothing. -/
theorem others (p : Paid asset src dst amount E E') (hs : h ≠ src) : Flow h E E' 0 0 where
  balance r := by
    rcases p.moved r with ⟨he, -⟩ | ⟨-, m⟩
    · rw [he]
    · exact m.le_of_ne hs
  allowance r := p.allowance r h

/-- Whoever pays loses at most the amount. -/
theorem spend (p : Paid asset src dst amount E E') (h : Address) :
    Flow h E E' 0 (due asset amount) where
  balance r := by
    rcases p.moved r with ⟨he, hr⟩ | ⟨rfl, m⟩
    · rw [he]; simp [due, hr]
    · rw [due_self]; exact m.le_add h
  allowance r := p.allowance r h

/-- The receiver gains the amount. -/
theorem receive (p : Paid asset src h amount E E') (hs : h ≠ src) :
    Flow h E E' (due asset amount) 0 where
  balance r := by
    rcases p.moved r with ⟨he, hr⟩ | ⟨rfl, m⟩
    · rw [he]; simp [due, hr]
    · rw [due_self]; exact (m.payee hs).ge
  allowance r := p.allowance r h

/-- A holder that has given no allowance loses nothing to another's transfer. -/
theorem unentitled {s : State} {caller : Address} (p : Paid asset src dst amount s.erc20 E')
    (hent : s.Entitled asset caller src amount) (hg : ∀ r c, (s.erc20 r).allowance h c = 0)
    (hc : h ≠ caller) : Flow h s.erc20 E' 0 0 := by
  by_cases hs : h = src
  · subst hs
    have hzero : amount = 0 := by
      rcases hent with hle | ⟨-, hsrc | hmax⟩
      · rw [hg] at hle; exact Nat.le_zero.mp hle
      · exact absurd hsrc hc
      · rw [hg] at hmax; exact absurd hmax (by decide)
    have hspend := p.spend h
    rw [hzero] at hspend
    exact ⟨fun r => by simpa [due] using hspend.balance r, hspend.allowance⟩
  · exact p.others hs

end State.Paid

/-! ## Errors -/

/-- The operation fails for a reason that is not the protocol's: a check, an overflow, or an
account outside that is short of tokens. -/
def Error.Blameless (D : Deployment) (e : Error) : Prop :=
  e.Benign ∨ ∃ h, e = .transferAmountExceedsBalance h ∧ h ≠ D.lendPool ∧ h ≠ D.debtMarket

/-- A live loan asks for more debt to be burnt than its borrower owes. -/
def State.DebtShort (s : State) (e : Error) : Prop :=
  ∃ k loan, s.lendPoolLoan.registry.held k = some loan ∧
    e = .debtBurnAmountExceedsBalance loan.borrower ∧
    (s.debtTokens loan.reserveAsset).scaledBalanceOf loan.borrower < loan.scaledAmount

/-- What an operation on a state in order can fail with. -/
def Error.Expected (D : Deployment) (s : State) (e : Error) : Prop := e.Blameless D ∨ s.DebtShort e

theorem Error.Benign.expected {D : Deployment} {s : State} (e : Error) (h : e.Benign) :
    e.Expected D s := .inl (.inl h)

/-! ## Terms of a listing -/

/-- A listing records the reserve and the scaled debt of a loan. -/
def SameTerms (d : DebtMarketListing) (l : LoanData) : Prop :=
  l.reserveAsset = d.reserveAsset ∧ l.scaledAmount = d.scaledAmount

/-- Every open listing records the terms of a live loan on its token. -/
def Matched (L : LendPoolLoan) (M : DebtMarket) : Prop :=
  ∀ k d, M.registry.held k = some d → ∃ l, L.registry.held k = some l ∧ SameTerms d l

/-- No listing of `M'` is new. -/
def Shrinks (M M' : DebtMarket) : Prop :=
  ∀ k d, M'.registry.held k = some d → M.registry.held k = some d

section Matched

variable {L L' : LendPoolLoan} {M M' : DebtMarket} {lo ln : Option LoanData}
  {d₀ d₁ : Option DebtMarketListing}

/-- A listing that is closed is gone, and no other is new. -/
theorem ListingMove.shrinks {d : DebtMarketListing} (m : ListingMove M M' d₀ (some d))
    (h : M.Listings)
    (hclosed : ¬ d.isOpen) : Shrinks M M' ∧ M'.registry.held d.key = none := by
  refine ⟨fun k d' hd' => ?_, ?_⟩
  · rw [m.move.held_new h.coherent] at hd'
    simp only [Option.elim, hclosed, if_false] at hd'
    split at hd'
    · cases hd'
    · exact hd'
  · rw [m.move.held_new h.coherent]
    simp [hclosed]

/-- Listings stay matched when a loan moves, if the listing on its token is gone or the loan
keeps its terms. -/
theorem Matched.step (h : Matched L M) (m : LoanMove L L' lo ln) (hL : L.Loans) (hM : Shrinks M M')
    (hterms : ∀ l, ln = some l → M'.registry.held l.key = none ∨ l.live ∧ ∃ l₀, lo = some l₀ ∧
      l.reserveAsset = l₀.reserveAsset ∧ l.scaledAmount = l₀.scaledAmount) : Matched L' M' := by
  intro k d hd
  obtain ⟨l₀, hl₀, hs⟩ := h k d (hM k d hd)
  rw [m.move.held_new hL.coherent]
  cases ln with
  | none => exact ⟨l₀, hl₀, hs⟩
  | some l =>
    by_cases hk : l.key = k
    · subst hk
      rcases hterms l rfl with hgone | ⟨hlive, l₁, rfl, hr, hn⟩
      · rw [hgone] at hd; cases hd
      · have hold := m.move.held_old rfl
        obtain rfl : l₁ = l₀ := Option.some.inj (hold.symm.trans hl₀)
        exact ⟨l, by simp [hlive], hr.trans hs.1, hn.trans hs.2⟩
    · exact ⟨l₀, by simpa [hk] using hl₀, hs⟩

/-- Listings stay matched when one is put in that records the terms of a live loan. -/
theorem Matched.listing (h : Matched L M) (m : ListingMove M M' d₀ d₁) (hM : M.Listings)
    (hterms : ∀ d, d₁ = some d → d.isOpen → ∃ l, L.registry.held d.key = some l ∧ SameTerms d l) :
    Matched L M' := by
  intro k d hd
  rw [m.move.held_new hM.coherent] at hd
  cases d₁ with
  | none => exact h k d hd
  | some d' =>
    simp only [Option.elim] at hd
    split at hd
    · rename_i hk
      subst hk
      split at hd
      · rename_i hopen
        obtain rfl := Option.some.inj hd
        exact hterms d' rfl hopen
      · cases hd
    · exact h k d hd

end Matched

/-! ## The invariant -/

/-- The time stamp of every reserve fits its type and is not in the future. -/
def Stamped (s : State) : Prop :=
  ∀ r, (s.lendPool.reserves r).lastUpdateTimestamp ≤ s.blockTimestamp ∧
    (s.lendPool.reserves r).lastUpdateTimestamp < 2 ^ 40

/-- **The books are in order.** -/
structure Books (D : Deployment) (s : State) : Prop where
  loans : s.lendPoolLoan.Loans
  listings : s.debtMarket.Listings
  matched : Matched s.lendPoolLoan s.debtMarket
  receipts : Receipts s.lendPoolLoan s.uNfts
  indices : State.IndicesSound s.lendPool.reserves
  stamps : Stamped s
  proxies : ∀ r, (s.lendPool.reserves r).uTokenAddress ≠ 0 →
    D.isProxy (s.lendPool.reserves r).uTokenAddress = true
  poolSolvent : ∀ r, s.lendPoolLoan.registry.total (LoanData.escrow r)
    ≤ (s.erc20 r).balanceOf D.lendPool
  marketSolvent : ∀ r, s.debtMarket.registry.total (DebtMarketListing.escrow r)
    ≤ (s.erc20 r).balanceOf D.debtMarket
  poolGuarded : ∀ r c, (s.erc20 r).allowance D.lendPool c = 0
  marketGuarded : ∀ r c, (s.erc20 r).allowance D.debtMarket c = 0

/-- What an operation does to the books: the loan it takes out and the one it puts in, the
listing it takes out and the one it puts in, and what that means for everything kept beside. -/
structure Effect (D : Deployment) (s s' : State) (lo ln : Option LoanData)
    (d₀ d₁ : Option DebtMarketListing) : Prop where
  blockTimestamp : s'.blockTimestamp = s.blockTimestamp
  loans : LoanMove s.lendPoolLoan s'.lendPoolLoan lo ln
  listings : ListingMove s.debtMarket s'.debtMarket d₀ d₁
  matched : Matched s'.lendPoolLoan s'.debtMarket
  receipts : Receipts s'.lendPoolLoan s'.uNfts
  reserves : ∀ r, (s.lendPool.reserves r).Ops s.blockTimestamp (s'.lendPool.reserves r)
  pool : Flow D.lendPool s.erc20 s'.erc20 (fun r => weigh (LoanData.escrow r) ln)
    (fun r => weigh (LoanData.escrow r) lo)
  market : Flow D.debtMarket s.erc20 s'.erc20 (fun r => weigh (DebtMarketListing.escrow r) d₁)
    (fun r => weigh (DebtMarketListing.escrow r) d₀)

section Effect

variable {D : Deployment} {s s' : State} {lo ln : Option LoanData}
    {d₀ d₁ : Option DebtMarketListing}

/-- **Operations keep the books in order.** -/
theorem Effect.books (e : Effect D s s' lo ln d₀ d₁) (h : Books D s) : Books D s' where
  loans := e.loans.loans h.loans
  listings := e.listings.listings h.listings
  matched := e.matched
  receipts := e.receipts
  indices r hr := by
    have hg := (e.reserves r).grown
    rw [hg.uTokenAddress] at hr
    exact ⟨(h.indices r hr).1.trans hg.liquidityIndex_le,
      (h.indices r hr).2.trans hg.variableBorrowIndex_le⟩
  stamps r := by
    rw [e.blockTimestamp]
    rcases (e.reserves r).grown.stamp with hs | hs <;> rw [hs]
    · exact h.stamps r
    · exact ⟨uint40_le _, uint40_lt _⟩
  proxies r hr := by
    rw [(e.reserves r).grown.uTokenAddress] at hr ⊢
    exact h.proxies r hr
  poolSolvent r := e.loans.move.covers h.loans.coherent (h.poolSolvent r) (e.pool.balance r)
  marketSolvent r := e.listings.move.covers h.listings.coherent (h.marketSolvent r)
    (e.market.balance r)
  poolGuarded := e.pool.guarded h.poolGuarded
  marketGuarded := e.market.guarded h.marketGuarded

end Effect

end Unlockd

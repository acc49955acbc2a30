/-
What the calls of the lend pool do to the books and to the rates.

Deposit, withdraw, borrow, repay, auction, redeem, liquidate and buyout are each walked
through once. What a call leaves is an `Effect` on the books, a movement of the debt tokens
with the loan, and rates that were set for a reserve whose tokens were still to move;
`RatesDescribe` says that they fit the reserve once the tokens have moved.
-/
import Unlockd.MarketEffect

set_option autoImplicit false

namespace Unlockd

open Outcome Registry LendPoolLoan DebtMarket

/-! ## The vault -/

/-- A vault that converts assets and shares one to one. -/
structure Deployment.Exact (D : Deployment) : Prop where
  sharesFor : ∀ v amount, D.sharesFor v amount = amount
  valueOf : ∀ v shares, D.valueOf v shares = shares

/-- What depositing reserves does to the tokens and to the vault. -/
structure Deposited (D : Deployment) (s : State) (asset uToken : Address) (amount : ℕ)
    (E : Address → Erc20) (v : YVault) : Prop where
  others : ∀ h, h ≠ uToken → Flow h s.erc20 E 0 0
  pricePerShare : v.pricePerShare = s.yVault.pricePerShare
  shares : asset = D.weth → v.shares uToken = s.yVault.shares uToken + D.sharesFor s.yVault amount

/-- What withdrawing reserves does to the tokens and to the vault. -/
structure Withdrawn (D : Deployment) (s : State) (asset uToken : Address) (amount : ℕ)
    (E : Address → Erc20) (v : YVault) : Prop where
  others : ∀ h, h ≠ D.yVaultWETH → Flow h s.erc20 E 0 0
  pricePerShare : v.pricePerShare = s.yVault.pricePerShare
  shares : asset = D.weth → ∃ n, wadDiv amount s.yVault.pricePerShare = .ok n ∧
    v.shares uToken + n = s.yVault.shares uToken

namespace State

variable {D : Deployment} {s : State} {asset uToken caller : Address} {amount : ℕ}

theorem isProxy_ne_lendPool (hu : D.isProxy uToken = true) : uToken ≠ D.lendPool := by
  rintro rfl
  rw [D.proxy_ne_lendPool] at hu
  cases hu

theorem isProxy_ne_debtMarket (hu : D.isProxy uToken = true) : uToken ≠ D.debtMarket := by
  rintro rfl
  rw [D.proxy_ne_debtMarket] at hu
  cases hu

/-- Approving a spender touches nobody else's tokens or allowances. -/
theorem flow_setAllowance {owner spender h : Address} (hne : h ≠ owner) :
    Flow h s.erc20
      (Function.update s.erc20 asset ((s.erc20 asset).setAllowance owner spender amount)) 0 0 where
  balance r := by
    rw [Function.update_apply]
    split
    · rename_i he; subst he; exact le_rfl
    · exact le_rfl
  allowance r c := by
    rw [Function.update_apply]
    split
    · rename_i he
      subst he
      simp only [Erc20.setAllowance, update₂_apply]
      rw [if_neg fun hx => hne hx.1]
    · exact le_rfl

theorem depositReserves_spec (hu : D.isProxy uToken = true) :
    Sat (s.depositReserves D caller asset uToken amount)
      (fun s' => ∃ E v, s' = (s.withErc20 E).withYVault v ∧ Deposited D s asset uToken amount E v)
      (Error.Blameless D) := by
  refine Sat.bind (Sat.require fun _ => .inl trivial) fun _ _ => ?_
  -- any asset but WETH stays in the uToken
  refine Sat.applyIf (fun _ => ?_) fun hne =>
    ⟨_, _, rfl, fun h _ => .refl h _, rfl, fun heq => absurd heq hne⟩
  refine Sat.bind (P := fun e => e = (s.erc20 asset).setAllowance uToken D.yVaultWETH amount) ?_
    fun e he => ?_
  · exact Sat.bind (Sat.require fun _ => .inl trivial) fun _ _ => rfl
  subst he
  refine Sat.bind (payByUser_spec (isProxy_ne_lendPool hu) (isProxy_ne_debtMarket hu))
    fun s₁ h₁ => ?_
  obtain ⟨E, rfl, hpaid⟩ := h₁
  exact ⟨E, _, rfl, fun h hne => (flow_setAllowance hne).idleAnd (hpaid.others hne), rfl,
    fun _ => Function.update_self _ _ _⟩

theorem withdrawReserves_spec :
    Sat (s.withdrawReserves D caller asset uToken amount)
      (fun p => ∃ E v, p.1 = (s.withErc20 E).withYVault v ∧ Withdrawn D s asset uToken amount E v)
      (Error.Blameless D) := by
  refine Sat.bind (Sat.require fun _ => .inl trivial) fun _ _ => ?_
  refine Sat.ite (fun _ => ?_) fun hne =>
    ⟨_, _, rfl, fun h _ => .refl h _, rfl, fun heq => absurd heq hne⟩
  refine Sat.andThen unitDiv_benign (fun _ => .inl) fun n hn => ?_
  refine Sat.bind (Sat.require fun _ => .inl trivial) fun _ hle => ?_
  refine Sat.andThen safeTransfer_spec ?_ fun s₁ h₁ => ?_
  · rintro e (he | ⟨rfl, -⟩)
    · exact .inl he
    · exact .inr ⟨_, rfl, D.yVault_ne_lendPool, D.yVault_ne_debtMarket⟩
  obtain ⟨E, rfl, hpaid⟩ := h₁
  refine ⟨E, _, rfl, fun h hne => hpaid.others hne, rfl, fun _ => ⟨n, hn, ?_⟩⟩
  simp only [Function.update_self]
  exact Nat.sub_add_cancel hle

end State

/-! ## Rates that describe the reserve -/

/-- The stored rates of a reserve are those its strategy gives for its available liquidity and
its debt as they are now. -/
def RatesDescribe (s : State) (asset : Address) : Prop :=
  ∀ available, s.getAvailableLiquidity (s.lendPool.reserves asset).uTokenAddress = .ok available →
    s.ratesFor asset (s.lendPool.reserves asset).uTokenAddress 0 0
      = .ok ((s.lendPool.reserves asset).currentLiquidityRate,
          (s.lendPool.reserves asset).currentVariableBorrowRate)

/-- An operation on the WETH reserve with an exact vault leaves rates that describe it. -/
def SetsRates (D : Deployment) (s s' : State) (asset : Address) : Prop :=
  D.Exact → s.yVault.pricePerShare = WAD → asset = D.weth → RatesDescribe s' asset

/-- One wad is neutral in a product. -/
theorem wadMul_wad {n m : ℕ} (h : wadMul n WAD = .ok m) : m = n := by
  rw [unitMul_spec h, FixedPoint.divHalfUp_mul_self _ (by decide)]

/-- One wad is neutral in a quotient. -/
theorem wadDiv_wad {n m : ℕ} (h : wadDiv n WAD = .ok m) : m = n := by
  rw [(unitDiv_spec h).2, FixedPoint.divHalfUp_mul_self _ (by decide)]

/-- **Rates set ahead of the tokens.** Rates for a reserve with `added` put in and `taken` taken
out describe the reserve in any later state where the vault shares have moved by just that. -/
theorem State.Priced.describe {s s' : State} {asset uToken : Address} {added taken : ℕ}
    {Rs : Address → ReserveData} (hp : s.Priced asset uToken added taken Rs)
    (hRs : s'.lendPool.reserves asset = Rs asset)
    (hu : (s.lendPool.reserves asset).uTokenAddress = uToken)
    (hdebt : s'.debtTokens asset = s.debtTokens asset) (hir : s'.interestRates = s.interestRates)
    (hpps : s.yVault.pricePerShare = WAD) (hpps' : s'.yVault.pricePerShare = WAD)
    (hshares : s'.yVault.shares uToken + taken = s.yVault.shares uToken + added) :
    RatesDescribe s' asset := by
  intro available' havail'
  obtain ⟨-, rates, hrates, hR⟩ := hp
  have hR := ReserveData.setRates_eq hR
  obtain ⟨debt, hd, hrates⟩ := bind_eq_ok.mp hrates
  obtain ⟨available, havail, hrates⟩ := bind_eq_ok.mp hrates
  obtain ⟨liquidity, hliq, hrates⟩ := bind_eq_ok.mp hrates
  obtain ⟨-, rfl⟩ := checkedSub_eq_ok.mp hliq
  rw [hRs, hR] at havail' ⊢
  simp only [hu] at havail' ⊢
  -- at one wad a share, what is available is the number of shares
  have h1 : available' = s'.yVault.shares uToken := wadMul_wad (by
    rw [← hpps']; exact havail')
  have h2 : available = s.yVault.shares uToken := wadMul_wad (by rw [← hpps]; exact havail)
  have hliq' : available' + 0 - 0 = available + added - taken := by omega
  unfold State.ratesFor
  simp only [hRs, hR, hdebt, hir]
  rw [hd, ok_bind, havail', ok_bind, checkedSub_eq_ok.mpr ⟨Nat.zero_le _, rfl⟩, ok_bind, hliq']
  exact hrates

/-- An exact vault moves its shares by just the amount deposited. -/
theorem State.Priced.describe_deposited {D : Deployment} {s s₁ s' : State} {asset uToken : Address}
    {amount : ℕ} {Rs : Address → ReserveData} {E : Address → Erc20} {v : YVault}
    (hp : s.Priced asset uToken amount 0 Rs) (hdep : Deposited D s₁ asset uToken amount E v)
    (hRs : s'.lendPool.reserves asset = Rs asset)
    (hu : (s.lendPool.reserves asset).uTokenAddress = uToken)
    (hdebt : s'.debtTokens asset = s.debtTokens asset) (hir : s'.interestRates = s.interestRates)
    (hv₁ : s₁.yVault = s.yVault) (hv : s'.yVault = v) (hexact : D.Exact)
    (hpps : s.yVault.pricePerShare = WAD) (hweth : asset = D.weth) : RatesDescribe s' asset := by
  have hpps' := hdep.pricePerShare
  have hshares := hdep.shares hweth
  rw [hexact.sharesFor] at hshares
  rw [hv₁, ← hv] at hpps' hshares
  exact hp.describe hRs hu hdebt hir hpps (hpps'.trans hpps) hshares

namespace State

variable {D : Deployment} {s : State} {asset nftAsset onBehalfOf : Address} {amount nftTokenId : ℕ}

/-! ## Deposits and withdrawals -/

theorem mintUToken_spec {user : Address} {index : ℕ} :
    Sat (s.mintUToken asset user amount index) (fun s' => ∃ U, s' = s.withUTokens U)
      Error.Benign := by
  refine Sat.bind (P := fun _ => True) ?_ fun u _ => ⟨_, rfl⟩
  refine Sat.bind unitDiv_benign fun _ _ => Sat.bind (Sat.require fun _ => trivial) fun _ _ => ?_
  exact Sat.bind (Sat.require fun _ => trivial) fun _ _ => trivial

/-- Paying out of a uToken takes nothing from the two contracts. -/
theorem payByProxy_spec {uToken dst : Address} (hu : D.isProxy uToken = true) :
    Sat (s.safeTransfer asset uToken dst amount)
      (fun s' => ∃ E, s' = s.withErc20 E ∧ ∀ h, h ≠ uToken → Flow h s.erc20 E 0 0)
      (Error.Blameless D) := by
  refine safeTransfer_spec.mono (fun s' hs => ?_) fun e he => ?_
  · obtain ⟨E, rfl, hpaid⟩ := hs
    exact ⟨E, rfl, fun h hne => hpaid.others hne⟩
  · rcases he with he | ⟨rfl, -⟩
    · exact .inl he
    · exact .inr ⟨_, rfl, isProxy_ne_lendPool hu, isProxy_ne_debtMarket hu⟩

theorem burnUToken_spec {uToken user receiver : Address} {index : ℕ}
    (hu : D.isProxy uToken = true) :
    Sat (s.burnUToken asset uToken user receiver amount index)
      (fun s' => ∃ U E, s' = (s.withUTokens U).withErc20 E ∧
        ∀ h, h ≠ uToken → Flow h s.erc20 E 0 0)
      (Error.Blameless D) := by
  refine Sat.andThen unitDiv_benign (fun _ => .inl) fun n _ => ?_
  refine Sat.bind (Sat.require fun _ => .inl trivial) fun _ _ => ?_
  refine Sat.bind (P := fun _ => True) ?_ fun u _ => ?_
  · refine Sat.bind (Sat.require fun _ => .inl trivial) fun _ _ => ?_
    exact Sat.bind (Sat.require fun _ => .inl trivial) fun _ _ => trivial
  refine Sat.mono (payByProxy_spec hu) (fun s' hs => ?_) fun _ he => he
  obtain ⟨E, rfl, hothers⟩ := hs
  exact ⟨_, E, rfl, hothers⟩

/-- **`deposit`.** -/
theorem executeDeposit_conducted (h : Books D s) {initiator : Address} (hi : D.isUser initiator) :
    Sat (s.executeDeposit D initiator asset amount onBehalfOf)
      (fun s' => Conducted D s s' none none none none ∧ SetsRates D s s' asset)
      (Error.Expected D s) := by
  have hp := hi.ne_lendPool
  have hm := hi.ne_debtMarket
  refine Sat.bind (Sat.require fun _ => Error.Benign.expected _ trivial) fun _ _ => ?_
  refine Sat.bind (Sat.require fun _ => Error.Benign.expected _ trivial) fun _ hu => ?_
  have hproxy := h.proxies asset hu
  refine Sat.andThen validateDeposit_benign Error.Benign.expected fun _ _ => ?_
  refine Sat.andThen updateState_spec Error.Benign.expected fun s₁ h₁ => ?_
  obtain ⟨Rs, U, rfl, hupd⟩ := h₁
  refine Sat.andThen updateInterestRates_spec Error.Benign.expected fun s₂ h₂ => ?_
  obtain ⟨Rs', rfl, hpriced⟩ := h₂
  -- the tokens come from an account outside, so nothing of the two contracts is spent
  refine Sat.andThen (payByUser_spec hp hm) (fun _ => .inl) fun s₃ h₃ => ?_
  obtain ⟨E, rfl, hpaid⟩ := h₃
  refine Sat.andThen mintUToken_spec Error.Benign.expected fun s₄ h₄ => ?_
  obtain ⟨U', rfl⟩ := h₄
  refine Sat.mono (depositReserves_spec hproxy) (fun s₅ h₅ => ?_) fun _ => .inl
  obtain ⟨E', v, rfl, hdep⟩ := h₅
  have hR := hupd.thenPriced hpriced rfl
  refine ⟨⟨⟨rfl, .idle _, .idle _, h.matched, h.receipts, hR.ops, ?_, ?_⟩, fun _ _ => rfl,
    hR.timely rfl⟩, fun hexact hpps hweth => ?_⟩
  · exact (hpaid.others hp.symm).idleAnd (hdep.others _ (isProxy_ne_lendPool hproxy).symm)
  · exact (hpaid.others hm.symm).idleAnd (hdep.others _ (isProxy_ne_debtMarket hproxy).symm)
  · exact hpriced.describe_deposited hdep rfl hupd.uTokenAddress rfl rfl rfl rfl hexact hpps hweth

/-- **`withdraw`.** -/
theorem executeWithdraw_conducted (h : Books D s) {initiator receiver : Address} :
    Sat (s.executeWithdraw D initiator asset amount receiver)
      (fun p => Conducted D s p.1 none none none none ∧ SetsRates D s p.1 asset)
      (Error.Expected D s) := by
  refine Sat.bind (Sat.require fun _ => Error.Benign.expected _ trivial) fun _ _ => ?_
  refine Sat.bind (Sat.require fun _ => Error.Benign.expected _ trivial) fun _ hu => ?_
  have hproxy := h.proxies asset hu
  refine Sat.bind (P := fun _ => True) ?_ fun userBalance _ => ?_
  -- the balance is read through the income view
  · refine Sat.bind (P := fun _ => True) (Sat.ite (fun _ => trivial) fun _ => ?_) fun _ _ => ?_
    · refine Sat.andThen calculateLinearInterest_benign Error.Benign.expected fun _ _ => ?_
      exact (Benign.of unitMul_benign).mono (fun _ h => h) Error.Benign.expected
    · exact (Benign.of unitMul_benign).mono (fun _ h => h) Error.Benign.expected
  refine Sat.andThen validateWithdraw_benign Error.Benign.expected fun _ _ => ?_
  refine Sat.andThen updateState_spec Error.Benign.expected fun s₁ h₁ => ?_
  obtain ⟨Rs, U, rfl, hupd⟩ := h₁
  refine Sat.andThen updateInterestRates_spec Error.Benign.expected fun s₂ h₂ => ?_
  obtain ⟨Rs', rfl, hpriced⟩ := h₂
  refine Sat.andThen withdrawReserves_spec (fun _ => .inl) fun p h₃ => ?_
  obtain ⟨s₃, value⟩ := p
  obtain ⟨E, v, rfl, hwd⟩ := h₃
  refine Sat.andThen (burnUToken_spec hproxy) (fun _ => .inl) fun s₄ h₄ => ?_
  obtain ⟨U', E', rfl, hburn⟩ := h₄
  have hR := hupd.thenPriced hpriced rfl
  refine ⟨⟨⟨rfl, .idle _, .idle _, h.matched, h.receipts, hR.ops, ?_, ?_⟩, fun _ _ => rfl,
    hR.timely rfl⟩, fun hexact hpps hweth => ?_⟩
  · exact (hwd.others _ D.yVault_ne_lendPool.symm).idleAnd
      (hburn _ (isProxy_ne_lendPool hproxy).symm)
  · exact (hwd.others _ D.yVault_ne_debtMarket.symm).idleAnd
      (hburn _ (isProxy_ne_debtMarket hproxy).symm)
  -- at a price of one wad the shares taken are the amount taken
  · obtain ⟨n, hn, hshares⟩ := hwd.shares hweth
    rw [show (((s.withReserves Rs).withUTokens U).withReserves Rs').yVault.pricePerShare = WAD
      from hpps]
      at hn
    rw [wadDiv_wad hn] at hshares
    exact hpriced.describe rfl hupd.uTokenAddress rfl rfl hpps
      (hwd.pricePerShare.trans hpps) hshares

/-- Bringing a reserve up to date keeps the books. -/
theorem Updated.books {Rs : Address → ReserveData} (hu : s.Updated asset Rs) (h : Books D s)
    (U : Address → UToken) : Books D ((s.withReserves Rs).withUTokens U) := by
  exact Effect.books (s := s) ⟨rfl, .idle _, .idle _, h.matched, h.receipts, hu.ops, .refl _ _,
    .refl _ _⟩ h

/-! ## Borrowing -/

/-- The state after a change of a loan, of its listing, and of the tokens that go with both. -/
def onLoan (s : State) (L : LendPoolLoan) (M : DebtMarket) (E : Address → Erc20)
    (C : Address → Erc721) (U : Address → UNft) : State :=
  { s with lendPoolLoan := L, debtMarket := M, erc20 := E, erc721 := C, uNfts := U }

end State

/-- What holds of the contracts after such a change, when it took the loan `lo` and the listing
`d₀` out of the books and put `ln` and `d₁` in. -/
structure Settled (D : Deployment) (s : State) (L : LendPoolLoan) (M : DebtMarket)
    (E : Address → Erc20) (U : Address → UNft) (lo ln : Option LoanData)
    (d₀ d₁ : Option DebtMarketListing) : Prop where
  loans : LoanMove s.lendPoolLoan L lo ln
  listings : ListingMove s.debtMarket M d₀ d₁
  matched : Matched L M
  receipts : Receipts L U
  market : Flow D.debtMarket s.erc20 E (fun r => weigh (DebtMarketListing.escrow r) d₁)
    (fun r => weigh (DebtMarketListing.escrow r) d₀)
  others : ∀ h, h ≠ D.debtMarket → Flow h s.erc20 E 0 0

/-- A loan that changes while its listing is cancelled. -/
theorem Cancelled.settled {D : Deployment} {s : State} {nftAsset : Address} {nftTokenId : ℕ}
    {L : LendPoolLoan} {M : DebtMarket} {E : Address → Erc20} {U : Address → UNft}
    {lo : Option LoanData} {l : LoanData} (hL : s.lendPoolLoan.Loans)
    (hmatched : Matched s.lendPoolLoan s.debtMarket)
    (hc : Cancelled D nftAsset nftTokenId s.debtMarket M s.erc20 E)
    (m : LoanMove s.lendPoolLoan L lo (some l)) (hkey : l.key = (nftAsset, nftTokenId))
    (hU : Receipts L U) : ∃ d₀ d₁, Settled D s L M E U lo (some l) d₀ d₁ := by
  obtain ⟨d₀, d₁, hmove, hmarket⟩ := hc.effect
  refine ⟨d₀, d₁, m, hmove, hmatched.step m hL hc.shrinks fun l' hl' => ?_, hU, hmarket, hc.others⟩
  obtain rfl := Option.some.inj hl'
  exact .inl (hkey ▸ hc.gone)

/-- A token without a loan has no listing. -/
theorem unlisted {L : LendPoolLoan} {M : DebtMarket} {k : Address × ℕ} (h : Matched L M)
    (hk : L.registry.held k = none) : M.registry.held k = none := by
  by_contra hne
  obtain ⟨d, hd⟩ := Option.ne_none_iff_exists'.mp hne
  obtain ⟨l, hl, -⟩ := h k d hd
  rw [hk] at hl
  cases hl

namespace State

variable {D : Deployment} {s : State} {asset nftAsset onBehalfOf : Address} {amount nftTokenId : ℕ}

/-- **The two branches of borrowing.** Either way the loan put in is active and owes by the
scaled amount more than the one taken out. -/
theorem borrowOnLoan_spec {initiator : Address} (h : Books D s) (hborrower : onBehalfOf ≠ 0)
    (hpos : 0 < amount)
    (hloan : s.lendPoolLoan.getCollateralLoanId nftAsset nftTokenId ≠ 0 →
      asset = (s.lendPoolLoan.loans (s.lendPoolLoan.getCollateralLoanId nftAsset
        nftTokenId)).reserveAsset ∧
      onBehalfOf = (s.lendPoolLoan.loans (s.lendPoolLoan.getCollateralLoanId nftAsset
        nftTokenId)).borrower) :
    Sat (s.borrowOnLoan D initiator asset amount nftAsset nftTokenId onBehalfOf)
      (fun s' => ∃ L M E C U lo l d₀ d₁ n, s' = s.onLoan L M E C U ∧
        Settled D s L M E U lo (some l) d₀ d₁ ∧ l.state = .Active ∧
        rayDiv amount (s.lendPool.reserves asset).variableBorrowIndex = .ok n ∧
        ∀ r u, LoanData.owed r u l = weigh (LoanData.owed r u) lo
          + (if r = asset ∧ u = onBehalfOf then n else 0))
      Error.Benign := by
  refine Sat.ite (fun hfree => ?_) fun hid => ?_
  -- a new loan: the token had none, and therefore no listing
  · refine Sat.bind (safeTransferNft_spec D) fun s₁ h₁ => ?_
    obtain ⟨C, rfl⟩ := h₁
    refine Sat.mono (createLoan_spec (by exact h.loans) hborrower) (fun s₂ h₂ => ?_) fun _ he => he
    obtain ⟨L, l, C', m, rfl, hmove, -, -, hn, hactive, hkey, hb, hr⟩ := h₂
    have hlive : l.live := .inl hactive
    refine ⟨L, s.debtMarket, s.erc20, C', _, none, l, none, none, _, rfl,
      ⟨hmove, .idle _, ?_, ?_, .refl _ _, fun h _ => .refl h _⟩, hactive, hn, fun r u => ?_⟩
    · refine h.matched.step hmove h.loans (fun _ _ hd => hd) fun l' hl' => .inl ?_
      obtain rfl := Option.some.inj hl'
      exact hkey ▸ unlisted h.matched (held_eq_none.mpr hfree)
    · refine hmove.receipts h.loans h.receipts fun a t => ?_
      rw [hkey, if_pos hlive, hb]
      exact setNfts_owner s C' nftAsset nftTokenId onBehalfOf m a t
    · rw [LoanData.owed_of_live hlive, hr, hb]
      exact (Nat.zero_add _).symm
  -- a larger loan: its listing, if any, is cancelled
  · obtain ⟨hheld, hlive, ha, ht⟩ := h.loans.held hid
    obtain ⟨hasset, hb⟩ := hloan hid
    refine Sat.bind (updateLoan_added_spec h.loans hid rfl hpos) fun L hL => ?_
    obtain ⟨n, hn, hactive, hmove, -⟩ := hL
    refine Sat.mono (cancelDebtListingIfExists_spec (by exact h.listings)
      (by exact h.marketSolvent))
      (fun s₁ h₁ => ?_) fun _ he => he
    obtain ⟨M, E, rfl, hc⟩ := h₁
    obtain ⟨d₀, d₁, hs⟩ := Cancelled.settled (U := s.uNfts) h.loans h.matched hc hmove
      (Prod.ext ha ht) (hmove.receipts_kept h.loans h.receipts hlive rfl)
    refine ⟨L, M, E, s.erc721, s.uNfts, _, _, d₀, d₁, n, rfl, hs, hactive, hn, fun r u => ?_⟩
    rw [weigh_some, LoanData.owed_owing hlive, LoanData.owed_of_live hlive, hasset, hb]
    split <;> rfl

/-- **`borrow`.** -/
theorem _borrow_conducted (h : Books D s) {initiator : Address} :
    Sat (s._borrow D initiator asset amount nftAsset nftTokenId onBehalfOf)
      (fun s' => (∃ lo ln d₀ d₁, Conducted D s s' lo ln d₀ d₁) ∧ SetsRates D s s' asset)
      (Error.Expected D s) := by
  refine Sat.bind (Sat.require fun _ => Error.Benign.expected _ trivial) fun _ hborrower => ?_
  refine Sat.andThen updateState_spec Error.Benign.expected fun s₁ h₁ => ?_
  obtain ⟨Rs, U, rfl, hupd⟩ := h₁
  refine Sat.andThen validateBorrow_spec Error.Benign.expected fun _ hv => ?_
  obtain ⟨hu, hpos, hloan⟩ := hv
  rw [show (((s.withReserves Rs).withUTokens U).lendPool.reserves asset).uTokenAddress = _ from
    hupd.uTokenAddress] at hu
  have hproxy := h.proxies asset hu
  refine Sat.andThen unitMul_benign Error.Benign.expected fun _ _ => ?_
  refine Sat.bind (Sat.require fun _ => Error.Benign.expected _ trivial) fun _ _ => ?_
  -- the loan and the debt tokens grow by the same scaled amount
  refine Sat.andThen (borrowOnLoan_spec (hupd.books h U) hborrower hpos hloan) Error.Benign.expected
    fun s₂ h₂ => ?_
  obtain ⟨L, M, E, C, N, lo, l, d₀, d₁, n, rfl, hs, hactive, hn, howed⟩ := h₂
  refine Sat.andThen mintDebt_spec Error.Benign.expected fun s₃ h₃ => ?_
  obtain ⟨-, n', T, hn', rfl, hminted⟩ := h₃
  obtain rfl : n = n' := Except.ok.inj (hn.symm.trans hn')
  -- the rates are set for what the withdrawal will leave
  refine Sat.andThen updateInterestRates_spec Error.Benign.expected fun s₄ h₄ => ?_
  obtain ⟨Rs', rfl, hpriced⟩ := h₄
  refine Sat.andThen withdrawReserves_spec (fun _ => .inl) fun p h₅ => ?_
  obtain ⟨s₅, value⟩ := p
  obtain ⟨E', v, rfl, hwd⟩ := h₅
  refine Sat.mono (payByProxy_spec (by exact hupd.uTokenAddress ▸ hproxy))
    (fun s₆ h₆ => ?_) fun _ => .inl
  obtain ⟨E'', rfl, hpay⟩ := h₆
  have hR := hupd.thenPriced hpriced rfl
  have hproxy' : D.isProxy (Rs asset).uTokenAddress = true := hupd.uTokenAddress ▸ hproxy
  have hnoBid : ∀ r, l.escrow r = 0 := fun r => by simp [LoanData.escrow, hactive]
  refine ⟨⟨lo, some l, d₀, d₁, ⟨rfl, hs.loans, hs.listings, hs.matched, hs.receipts,
    hR.ops, ?_, ?_⟩,
    fun r u => ?_, hR.timely rfl⟩, fun _ hpps hweth => ?_⟩
  · refine (((hs.others _ D.lendPool_ne_debtMarket).andIdle
      (hwd.others _ D.yVault_ne_lendPool.symm)).andIdle
      (hpay _ (isProxy_ne_lendPool hproxy').symm)).weaken (fun r => ?_) fun r => Nat.zero_le _
    exact (hnoBid r).le
  · exact (hs.market.andIdle (hwd.others _ D.yVault_ne_debtMarket.symm)).andIdle
      (hpay _ (isProxy_ne_debtMarket hproxy').symm)
  · have hm := hminted r u
    have ho := howed r u
    change (T r).scaledBalanceOf u + _ = _
    rw [weigh_some, ho, hm, Nat.add_right_comm, Nat.add_assoc]
    rfl
  · obtain ⟨m, hm, hshares⟩ := hwd.shares hweth
    have hm' := wadDiv_wad (hpps ▸ hm)
    rw [hm'] at hshares
    exact hpriced.describe rfl rfl rfl rfl hpps (hwd.pricePerShare.trans hpps) hshares

end State

/-! ## Loans that owe less

Repaying, redeeming, liquidating and buying out all take debt off a loan and leave it
without a bid, and all burn the same debt. -/

/-- The loan is replaced by one without a bid that owes `n` less, or is closed. -/
structure Reduced (L L' : LendPoolLoan) (U : Address → UNft) (loan l : LoanData) (n : ℕ) :
    Prop where
  move : LoanMove L L' (some loan) (some l)
  key : l.key = loan.key
  receipts : Receipts L' U
  noBid : ∀ r, l.escrow r = 0
  le : n ≤ loan.scaledAmount
  owed : ∀ r u, l.owed r u + (if r = loan.reserveAsset ∧ u = loan.borrower then n else 0)
    = loan.owed r u

/-- Taking part of the debt off a loan that stays or becomes active. -/
theorem Reduced.part {L L' : LendPoolLoan} {U : Address → UNft} {loan l : LoanData} {n : ℕ}
    (hL : L.Loans) (hU : Receipts L U) (hlive : loan.live) (m : LoanMove L L' (some loan) (some l))
    (hactive : l.state = .Active) (hkey : l.key = loan.key) (hb : l.borrower = loan.borrower)
    (hr : l.reserveAsset = loan.reserveAsset) (hle : n ≤ loan.scaledAmount)
    (hn : l.scaledAmount = loan.scaledAmount - n) : Reduced L L' U loan l n where
  move := m
  key := hkey
  receipts := m.receipts_kept hL hU (.inl hactive) hb
  noBid r := by simp [LoanData.escrow, hactive]
  le := hle
  owed r u := by
    rw [LoanData.owed_of_live (.inl hactive), LoanData.owed_of_live hlive, hr, hb, hn]
    split
    · exact Nat.sub_add_cancel hle
    · rfl

/-- Closing a loan takes all of its debt off it. -/
theorem Reduced.whole {L L' : LendPoolLoan} {U U' : Address → UNft} {loan l : LoanData}
    (hL : L.Loans) (hU : Receipts L U) (hlive : loan.live) (m : LoanMove L L' (some loan) (some l))
    (hclosed : ¬ l.live) (hkey : l.key = loan.key)
    (hown : ∀ a t, (U' a).owner t = if loan.key = (a, t) then 0 else (U a).owner t) :
    Reduced L L' U' loan l loan.scaledAmount where
  move := m
  key := hkey
  receipts := m.receipts hL hU fun a t => by rw [hown, hkey, if_neg hclosed]
  noBid := LoanData.escrow_of_closed hclosed
  le := le_rfl
  owed r u := by
    rw [LoanData.owed_of_closed hclosed, LoanData.owed_of_live hlive]
    exact Nat.zero_add _

/-- Debt burnt with a loan that owes so much less leaves the two ledgers in step. -/
theorem Reduced.debts {L L' : LendPoolLoan} {U : Address → UNft} {loan l : LoanData} {n : ℕ}
    {T T' : Address → DebtToken} (h : Reduced L L' U loan l n)
    (hb : State.DebtBurnt loan.reserveAsset loan.borrower n T T') (r u : Address) :
    (T' r).scaledBalanceOf u + weigh (LoanData.owed r u) (some loan)
      = (T r).scaledBalanceOf u + weigh (LoanData.owed r u) (some l) := by
  have h1 := h.owed r u
  have h2 := hb r u
  simp only [weigh_some]
  omega

namespace State

variable {D : Deployment} {s : State} {nftAsset onBehalfOf : Address} {amount nftTokenId : ℕ}

/-- Burning what a loan owes less can fail for want of debt only when its borrower owes less
than the loan. -/
theorem burnReduced_spec {s₂ : State} {L' : LendPoolLoan} {U : Address → UNft} {loan l : LoanData}
    {n index : ℕ} {k : Address × ℕ} (hred : Reduced s.lendPoolLoan L' U loan l n)
    (hheld : s.lendPoolLoan.registry.held k = some loan)
    (hn : ∀ n', rayDiv amount index = .ok n' → n' = n) (hT : s₂.debtTokens = s.debtTokens) :
    Sat (s₂.burnDebt D.lendPool loan.reserveAsset loan.borrower amount index)
      (fun s' => ∃ T, s' = s₂.withDebtTokens T ∧
        DebtBurnt loan.reserveAsset loan.borrower n s.debtTokens T)
      (Error.Expected D s) := by
  refine burnDebt_spec.mono (fun s' hs => ?_) fun e he => ?_
  · obtain ⟨n', T, hn', rfl, hb⟩ := hs
    obtain rfl := hn n' hn'
    exact ⟨T, rfl, hT ▸ hb⟩
  -- a shortfall of debt would mean that the ledger is behind the loans
  · rcases he with he | ⟨rfl, n', hn', hlt⟩
    · exact Error.Benign.expected _ he
    · obtain rfl := hn n' hn'
      rw [hT] at hlt
      exact .inr ⟨k, loan, hheld, rfl, Nat.lt_of_lt_of_le hlt hred.le⟩

/-- The scaled amount of the whole debt of a loan, once its reserve is up to date. -/
theorem Updated.full {s₁ : State} {loan : LoanData} {loanId b : ℕ} {Rs : Address → ReserveData}
    (hu : s.Updated loan.reserveAsset Rs) (hindices : IndicesSound s.lendPool.reserves)
    (hinit : (s.lendPool.reserves loan.reserveAsset).uTokenAddress ≠ 0)
    (hloan : s₁.lendPoolLoan.loans loanId = loan) (hRs : s₁.lendPool.reserves = Rs)
    (ht : s₁.blockTimestamp = s.blockTimestamp) (hb : s₁.getLoanReserveBorrowAmount loanId = .ok b)
    (n : ℕ) (hn : rayDiv b (Rs loan.reserveAsset).variableBorrowIndex = .ok n) :
    n = loan.scaledAmount := by
  obtain ⟨hlast, hray⟩ := hu.index hindices hinit
  refine scaled_getLoanReserveBorrowAmount hloan ?_ ?_ hb ?_
  · rw [hRs, ht]; exact hlast
  · rw [hRs]; exact hray
  · rw [hRs]; exact hn

/-- Closing a loan on the whole state takes all of its debt off it. -/
theorem closeLoan_reduced {loan : LoanData} {caller : Address} (hL : s.lendPoolLoan.Loans)
    (hU : Receipts s.lendPoolLoan s.uNfts)
    (hid : s.lendPoolLoan.getCollateralLoanId nftAsset nftTokenId ≠ 0)
    (hloan : s.lendPoolLoan.loans (s.lendPoolLoan.getCollateralLoanId nftAsset nftTokenId) = loan)
    {storage : LendPoolLoan → Except Error LendPoolLoan}
    (hstorage : Sat (storage s.lendPoolLoan) (fun L' => Closes s.lendPoolLoan L' loan)
      Error.Benign) :
    Sat (s.closeLoan D caller (s.lendPoolLoan.getCollateralLoanId nftAsset nftTokenId) storage)
      (fun s' => ∃ L C U l, s' = s.onLoan L s.debtMarket s.erc20 C U ∧
        Reduced s.lendPoolLoan L U loan l loan.scaledAmount) Error.Benign := by
  obtain ⟨-, hlive, ha, ht⟩ := hL.held hid
  rw [hloan] at hlive ha ht
  refine (closeLoan_spec hL hid hloan hstorage).imp fun s' hs => ?_
  obtain ⟨L, C, m, rfl, l, hmove, hclosed, hkey, -⟩ := hs
  refine ⟨L, C, _, l, rfl, .whole hL hU hlive hmove hclosed hkey fun a t => ?_⟩
  rw [show loan.key = (nftAsset, nftTokenId) from Prod.ext ha ht]
  exact setNfts_owner s C nftAsset nftTokenId 0 m a t

/-- **The two branches of repaying.** -/
theorem repayOnLoan_spec {loan : LoanData} {borrowAmount index : ℕ} (hL : s.lendPoolLoan.Loans)
    (hU : Receipts s.lendPoolLoan s.uNfts)
    (hid : s.lendPoolLoan.getCollateralLoanId nftAsset nftTokenId ≠ 0)
    (hloan : s.lendPoolLoan.loans (s.lendPoolLoan.getCollateralLoanId nftAsset nftTokenId) = loan)
    (hpos : 0 < amount) (hfull : ∀ n, rayDiv borrowAmount index = .ok n → n = loan.scaledAmount) :
    Sat (s.repayOnLoan D (s.lendPoolLoan.getCollateralLoanId nftAsset nftTokenId)
        (if amount < borrowAmount then amount else borrowAmount) index (amount < borrowAmount))
      (fun s' => ∃ L C U l n, s' = s.onLoan L s.debtMarket s.erc20 C U ∧
        Reduced s.lendPoolLoan L U loan l n ∧
        ∀ n', rayDiv (if amount < borrowAmount then amount else borrowAmount) index = .ok n' →
          n' = n)
      Error.Benign := by
  obtain ⟨hheld, hlive, ha, ht⟩ := hL.held hid
  rw [hloan] at hheld hlive ha ht
  refine Sat.ite (fun hlt => ?_) fun hlt => ?_
  · rw [if_pos hlt]
    refine Sat.bind (updateLoan_taken_spec hL hid hloan hpos) fun L hs => ?_
    obtain ⟨n, hn, hle, hactive, hmove, -⟩ := hs
    refine ⟨L, s.erc721, s.uNfts, _, n, rfl, .part hL hU hlive hmove hactive rfl rfl rfl hle
      rfl, fun n' hn' => Except.ok.inj (hn'.symm.trans hn)⟩
  · rw [if_neg hlt]
    refine (closeLoan_reduced hL hU hid hloan (hloan ▸ repayLoan_spec hL hid)).imp fun s' hs => ?_
    obtain ⟨L, C, U, l, rfl, hred⟩ := hs
    exact ⟨L, C, U, l, _, rfl, hred, hfull⟩

/-- Handing the token back, if the loan is closed. -/
theorem returnNft_spec {c : Prop} [Decidable c] {dst : Address} :
    Sat (applyIf c (fun s => s.safeTransferNft D nftAsset D.lendPool D.lendPool dst nftTokenId) s)
      (fun s' => ∃ C, s' = s.withErc721 C) Error.Benign :=
  Sat.applyIf (fun _ => safeTransferNft_spec D) fun _ => ⟨s.erc721, rfl⟩

/-- **`repay`.** -/
theorem _repay_conducted (h : Books D s) {initiator : Address} (hi : D.isUser initiator) :
    Sat (s._repay D initiator nftAsset nftTokenId amount)
      (fun p => (∃ lo ln d₀ d₁, Conducted D s p.1 lo ln d₀ d₁) ∧ SetsRates D s p.1
        (s.lendPoolLoan.loans (s.lendPoolLoan.getCollateralLoanId nftAsset
          nftTokenId)).reserveAsset)
      (Error.Expected D s) := by
  have hp := hi.ne_lendPool
  have hm := hi.ne_debtMarket
  refine Sat.bind (Sat.require fun _ => Error.Benign.expected _ trivial) fun _ hid => ?_
  obtain ⟨hheld, hlive, ha, ht⟩ := h.loans.held hid
  unfold getLoan
  generalize hloan : s.lendPoolLoan.loans (s.lendPoolLoan.getCollateralLoanId nftAsset nftTokenId)
    = loan at *
  -- the debt is read off the index that was just brought up to date
  refine Sat.andThen updateState_spec Error.Benign.expected fun s₁ h₁ => ?_
  obtain ⟨Rs, U, rfl, hupd⟩ := h₁
  refine Sat.andThen getLoanReserveBorrowAmount_benign Error.Benign.expected fun b hb => ?_
  refine Sat.andThen validateRepay_spec Error.Benign.expected fun _ hv => ?_
  obtain ⟨hu, hpos⟩ := hv
  have hu' : (s.lendPool.reserves loan.reserveAsset).uTokenAddress ≠ 0 := hupd.uTokenAddress ▸ hu
  have hproxy : D.isProxy (Rs loan.reserveAsset).uTokenAddress = true :=
    hupd.uTokenAddress ▸ h.proxies _ hu'
  have hfull := hupd.full h.indices hu' (by exact hloan) (by rfl) (by rfl) hb
  -- the listing goes first, then the loan and as much debt
  refine Sat.andThen (cancelDebtListingIfExists_spec (by exact h.listings)
    (by exact h.marketSolvent))
    Error.Benign.expected fun s₂ h₂ => ?_
  obtain ⟨M, E, rfl, hc⟩ := h₂
  refine Sat.andThen (repayOnLoan_spec (by exact h.loans) (by exact h.receipts) (by exact hid)
    (by exact hloan) hpos (by exact hfull)) Error.Benign.expected fun s₃ h₃ => ?_
  obtain ⟨L, C, N, l, n, rfl, hred, hn⟩ := h₃
  refine Sat.bind (burnReduced_spec (s := s) hred hheld (by exact hn) (by rfl)) fun s₄ h₄ => ?_
  obtain ⟨T, rfl, hburn⟩ := h₄
  refine Sat.andThen updateInterestRates_spec Error.Benign.expected fun s₅ h₅ => ?_
  obtain ⟨Rs', rfl, hpriced⟩ := h₅
  -- the tokens go from the initiator to the uToken and on into the vault
  refine Sat.andThen (payByUser_spec hp hm) (fun _ => .inl) fun s₆ h₆ => ?_
  obtain ⟨E', rfl, hpaid⟩ := h₆
  refine Sat.andThen (depositReserves_spec (by exact hproxy)) (fun _ => .inl) fun s₇ h₇ => ?_
  obtain ⟨E'', v, rfl, hdep⟩ := h₇
  refine Sat.andThen returnNft_spec Error.Benign.expected fun s₈ h₈ => ?_
  obtain ⟨C', rfl⟩ := h₈
  obtain ⟨d₀, d₁, hs⟩ := hc.settled h.loans h.matched hred.move
    (hred.key.trans (Prod.ext ha ht)) hred.receipts
  have hR := hupd.thenPriced hpriced rfl
  refine ⟨⟨some loan, some l, d₀, d₁, ⟨rfl, hs.loans, hs.listings, hs.matched, hs.receipts, hR.ops,
    ?_, ?_⟩, hred.debts hburn, hR.timely rfl⟩, fun hexact hpps hweth => ?_⟩
  · refine (((hs.others _ D.lendPool_ne_debtMarket).andIdle (hpaid.others hp.symm)).andIdle
      (hdep.others _ (isProxy_ne_lendPool hproxy).symm)).weaken (fun r => ?_) fun r => Nat.zero_le _
    exact (hred.noBid r).le
  · exact (hs.market.andIdle (hpaid.others hm.symm)).andIdle
      (hdep.others _ (isProxy_ne_debtMarket hproxy).symm)
  · exact hpriced.describe_deposited hdep rfl rfl rfl rfl rfl rfl hexact hpps hweth

/-! ## Auctions -/

/-- A loan with a bidder is in auction. -/
theorem auction_of_bidder (h : s.lendPoolLoan.Loans) {k : Address × ℕ} {loan : LoanData}
    (hheld : s.lendPoolLoan.registry.held k = some loan) (hb : loan.bidderAddress ≠ 0) :
    loan.state = .Auction := by
  obtain ⟨-, rfl⟩ := held_eq_some.mp hheld
  rcases (h.coherent.held_live hheld).1 with ha | ha
  · exact absurd ((h.wellFormed _).noBid ha).2.1 hb
  · exact ha

/-- The pool holds the bid of every loan. -/
theorem escrow_le_pool (h : Books D s) {k : Address × ℕ} {loan : LoanData}
    (hheld : s.lendPoolLoan.registry.held k = some loan) (r : Address) :
    loan.escrow r ≤ (s.erc20 r).balanceOf D.lendPool :=
  (h.loans.coherent.weight_le (LoanData.escrow r) hheld).trans (h.poolSolvent r)

/-- A loan with a bidder is in auction, and the pool holds its bid. -/
theorem bid_le_pool (h : Books D s) {k : Address × ℕ} {loan : LoanData}
    (hheld : s.lendPoolLoan.registry.held k = some loan) (hb : loan.bidderAddress ≠ 0) :
    loan.state = .Auction ∧ loan.bidPrice ≤ (s.erc20 loan.reserveAsset).balanceOf D.lendPool := by
  have hauction := auction_of_bidder h.loans hheld hb
  have hle := escrow_le_pool h hheld loan.reserveAsset
  rw [LoanData.escrow_of_auction hauction, due_self] at hle
  exact ⟨hauction, hle⟩

/-- The pool pays out of what it holds. -/
theorem payByPool_spec {asset dst : Address}
    (hfunds : amount ≤ (s.erc20 asset).balanceOf D.lendPool) :
    Sat (s.safeTransfer asset D.lendPool dst amount)
      (fun s' => ∃ E, s' = s.withErc20 E ∧ Flow D.lendPool s.erc20 E 0 (due asset amount) ∧
        (∀ h, h ≠ D.lendPool → Flow h s.erc20 E 0 0)) Error.Benign := by
  refine safeTransfer_spec.mono (fun s' hs => ?_) fun e he => ?_
  · obtain ⟨E, rfl, hpaid⟩ := hs
    exact ⟨E, rfl, hpaid.spend _, fun h hne => hpaid.others hne⟩
  · rcases he with he | ⟨-, hlt⟩
    · exact he
    · exact absurd hfunds (not_le.mpr hlt)

theorem refundBid_spec {loan : LoanData} (hfunds : loan.bidderAddress ≠ 0 →
      loan.state = .Auction ∧ loan.bidPrice ≤ (s.erc20 loan.reserveAsset).balanceOf D.lendPool) :
    Sat (s.refundBid D loan)
      (fun s' => ∃ E, s' = s.withErc20 E ∧ Flow D.lendPool s.erc20 E 0 (LoanData.escrow · loan) ∧
        (∀ h, h ≠ D.lendPool → Flow h s.erc20 E 0 0)) Error.Benign := by
  refine Sat.applyIf (fun hb => ?_) fun _ => ⟨_, rfl, ?_, fun h _ => .refl h _⟩
  · obtain ⟨hauction, hle⟩ := hfunds hb
    refine (payByPool_spec hle).imp fun s' hs => ?_
    obtain ⟨E, rfl, hpool, hothers⟩ := hs
    exact ⟨E, rfl, hpool.weaken (fun _ => le_rfl) fun r =>
      (LoanData.escrow_of_auction hauction r).ge, hothers⟩
  · exact (Flow.refl _ _).weaken (fun _ => le_rfl) fun _ => Nat.zero_le _

theorem validateBidPrice_benign {loan : LoanData} {nftConfig : BitVec 256} {p b t : ℕ} :
    Sat (s.validateBidPrice loan nftConfig p b t) (fun _ => True) Error.Benign := by
  refine Sat.ite (fun _ => ?_) fun _ => ?_
  · refine Sat.bind (Sat.require fun _ => trivial) fun _ _ => Sat.bind unitMul_benign fun _ _ => ?_
    refine Sat.bind (Sat.require fun _ => trivial) fun _ _ => ?_
    exact Benign.of (Sat.require fun _ => trivial)
  · refine Sat.bind (Sat.require fun _ => trivial) fun _ _ => ?_
    refine Sat.bind (Sat.require fun _ => trivial) fun _ _ => Sat.bind unitMul_benign fun _ _ => ?_
    exact Benign.of (Sat.require fun _ => trivial)

/-- **`auction`.** The pool takes the new bid in and gives the last one back. -/
theorem executeAuction_conducted (h : Books D s) {initiator : Address} (hi : D.isUser initiator)
    {bidPrice : ℕ} :
    Sat (s.executeAuction D initiator nftAsset nftTokenId bidPrice onBehalfOf)
      (fun s' => (∃ lo ln d₀ d₁, Conducted D s s' lo ln d₀ d₁) ∧ SetsRates D s s'
        (s.lendPoolLoan.loans (s.lendPoolLoan.getCollateralLoanId nftAsset
          nftTokenId)).reserveAsset)
      (Error.Expected D s) := by
  have hp := hi.ne_lendPool
  have hm := hi.ne_debtMarket
  refine Sat.bind (Sat.require fun _ => Error.Benign.expected _ trivial) fun _ _ => ?_
  refine Sat.bind (Sat.require fun _ => Error.Benign.expected _ trivial) fun _ hid => ?_
  obtain ⟨hheld, hlive, ha, ht⟩ := h.loans.held hid
  refine Sat.bind (Sat.require fun _ => Error.Benign.expected _ trivial) fun _ _ => ?_
  unfold getLoan
  generalize hloan : s.lendPoolLoan.loans (s.lendPoolLoan.getCollateralLoanId nftAsset nftTokenId)
    = loan at *
  refine Sat.andThen validateAuction_spec Error.Benign.expected fun _ hu => ?_
  refine Sat.andThen updateState_spec Error.Benign.expected fun s₁ h₁ => ?_
  obtain ⟨Rs, U, rfl, hupd⟩ := h₁
  refine Sat.andThen calculateLoanLiquidatePrice_spec Error.Benign.expected fun prices _ => ?_
  refine Sat.andThen validateBidPrice_benign Error.Benign.expected fun _ _ => ?_
  refine Sat.andThen (LendPoolLoan.auctionLoan_spec (by exact h.loans) (by exact hid)
    (by exact hloan))
    Error.Benign.expected fun L hL => ?_
  obtain ⟨l, hmove, hauction, hprice, hkey, hborrower, hreserve, hscaled, -⟩ := hL
  -- the new bid comes in before the last one goes out
  refine Sat.andThen (safeTransferFrom_spec) ?_ fun s₂ h₂ => ?_
  · rintro e (he | ⟨rfl, -⟩)
    · exact Error.Benign.expected _ he
    · exact .inl (.inr ⟨_, rfl, hp, hm⟩)
  obtain ⟨E, rfl, hpaid, -⟩ := h₂
  have hreceive := hpaid.receive hp.symm
  refine Sat.andThen (refundBid_spec fun hb => (bid_le_pool h hheld hb).imp_right fun hle =>
    le_trans hle (hreceive.le _)) Error.Benign.expected fun s₃ h₃ => ?_
  obtain ⟨E', rfl, hrefund, hothers⟩ := h₃
  refine Sat.mono updateInterestRates_spec (fun s₄ h₄ => ?_) Error.Benign.expected
  obtain ⟨Rs', rfl, hpriced⟩ := h₄
  have hR := hupd.thenPriced hpriced rfl
  have hlive' : l.live := .inr hauction
  refine ⟨⟨some loan, some l, none, none, ⟨rfl, hmove, .idle _, ?_, ?_, hR.ops, ?_, ?_⟩,
    fun r u => ?_, hR.timely rfl⟩, fun _ hpps hweth => ?_⟩
  -- the listing of the loan stands, for the loan still owes the same
  · refine h.matched.step hmove h.loans (fun _ _ hd => hd) fun l' hl' => .inr ?_
    obtain rfl := Option.some.inj hl'
    exact ⟨hlive', loan, rfl, hreserve, hscaled⟩
  · exact hmove.receipts_kept h.loans h.receipts hlive' hborrower
  · refine (hreceive.trans hrefund).weaken (fun r => ?_) fun r => (Nat.zero_add _).le
    rw [weigh_some, LoanData.escrow_of_auction hauction, hreserve, hprice]
    exact Nat.le_add_right _ _
  · exact (hpaid.others hm.symm).andIdle (hothers _ D.lendPool_ne_debtMarket.symm)
  · rw [weigh_some, weigh_some, LoanData.owed_of_live hlive, LoanData.owed_of_live hlive', hreserve,
      hborrower, hscaled]
    rfl
  · exact hpriced.describe rfl rfl rfl rfl hpps hpps rfl

/-! ## Redemptions -/

theorem validateRedeemAmount_benign {loan : LoanData} {nftConfig : BitVec 256}
    {loanId bidFine : ℕ} :
    Sat (s.validateRedeemAmount loan nftConfig loanId nftAsset nftTokenId amount bidFine)
      (fun _ => True) Error.Benign := by
  refine Sat.bind calculateLoanLiquidatePrice_spec fun _ _ => ?_
  refine Sat.bind calculateLoanBidFine_benign fun _ _ =>
    Sat.bind (Sat.require fun _ => trivial) fun _ _ => ?_
  refine Sat.bind calculateOptimalMinRedeemValue_benign fun _ _ => ?_
  refine Sat.bind (Sat.require fun _ => trivial) fun _ _ => ?_
  refine Sat.bind (Benign.of calculateOptimalMaxRedeemValue_le) fun _ _ => ?_
  exact Sat.bind (Sat.require fun _ => trivial) fun _ _ => trivial

/-- The pool gives the bid back, and the initiator pays the fine. -/
theorem settleRedeem_spec {initiator : Address} (hi : D.isUser initiator)
    {loan : LoanData} {bidFine : ℕ}
    (hfunds : loan.bidderAddress ≠ 0 →
      loan.state = .Auction ∧ loan.bidPrice ≤ (s.erc20 loan.reserveAsset).balanceOf D.lendPool) :
    Sat (s.settleRedeem D initiator loan bidFine)
      (fun s' => ∃ E, s' = s.withErc20 E ∧ Flow D.lendPool s.erc20 E 0 (LoanData.escrow · loan) ∧
        Flow D.debtMarket s.erc20 E 0 0) (Error.Blameless D) := by
  refine Sat.applyIf (fun hb => ?_) fun _ => ⟨_, rfl, ?_, .refl _ _⟩
  · obtain ⟨hauction, hle⟩ := hfunds hb
    refine Sat.andThen (payByPool_spec hle) (fun _ => .inl) fun s₁ h₁ => ?_
    obtain ⟨E, rfl, hpool, hothers⟩ := h₁
    refine Sat.imp (payByUser_spec hi.ne_lendPool hi.ne_debtMarket) fun s₂ h₂ => ?_
    obtain ⟨E', rfl, hpaid⟩ := h₂
    exact ⟨E', rfl, (hpool.andIdle (hpaid.others hi.ne_lendPool.symm)).weaken (fun _ => le_rfl)
      fun r => (LoanData.escrow_of_auction hauction r).ge,
      (hothers _ D.lendPool_ne_debtMarket.symm).idleAnd (hpaid.others hi.ne_debtMarket.symm)⟩
  · exact (Flow.refl _ _).weaken (fun _ => le_rfl) fun _ => Nat.zero_le _

/-- **`redeem`.** Part of the debt is paid, and the bid goes back. -/
theorem executeRedeem_conducted (h : Books D s) {initiator : Address} (hi : D.isUser initiator)
    {bidFine : ℕ} :
    Sat (s.executeRedeem D initiator nftAsset nftTokenId amount bidFine)
      (fun p => (∃ lo ln d₀ d₁, Conducted D s p.1 lo ln d₀ d₁) ∧ SetsRates D s p.1
        (s.lendPoolLoan.loans (s.lendPoolLoan.getCollateralLoanId nftAsset
          nftTokenId)).reserveAsset)
      (Error.Expected D s) := by
  have hp := hi.ne_lendPool
  have hm := hi.ne_debtMarket
  refine Sat.bind (Sat.require fun _ => Error.Benign.expected _ trivial) fun _ hid => ?_
  obtain ⟨hheld, hlive, ha, ht⟩ := h.loans.held hid
  unfold getLoan
  generalize hloan : s.lendPoolLoan.loans (s.lendPoolLoan.getCollateralLoanId nftAsset nftTokenId)
    = loan at *
  refine Sat.andThen validateRedeem_spec Error.Benign.expected fun _ hv => ?_
  obtain ⟨hu, hauction⟩ := hv
  have hproxy := h.proxies _ hu
  refine Sat.bind (Sat.require fun _ => Error.Benign.expected _ trivial) fun _ _ => ?_
  refine Sat.andThen updateState_spec Error.Benign.expected fun s₁ h₁ => ?_
  obtain ⟨Rs, U, rfl, hupd⟩ := h₁
  have hproxy' : D.isProxy (Rs loan.reserveAsset).uTokenAddress = true :=
    hupd.uTokenAddress ▸ hproxy
  refine Sat.andThen validateRedeemAmount_benign Error.Benign.expected fun fine _ => ?_
  -- the loan is active again, without a bid and with less debt
  refine Sat.andThen (redeemLoan_spec (by exact h.loans) (by exact hid) (by exact hloan))
    Error.Benign.expected fun L hL => ?_
  obtain ⟨l, n, hmove, hactive, hn, hle, hkey, hb, hr, hscaled, -⟩ := hL
  have hred : Reduced s.lendPoolLoan L s.uNfts loan l n :=
    .part h.loans h.receipts hlive hmove hactive hkey hb hr hle hscaled
  refine Sat.bind (burnReduced_spec (s := s) hred hheld
    (fun n' hn' => Except.ok.inj (hn'.symm.trans hn)) (by rfl)) fun s₂ h₂ => ?_
  obtain ⟨T, rfl, hburn⟩ := h₂
  refine Sat.andThen (cancelDebtListingIfExists_spec (by exact h.listings)
    (by exact h.marketSolvent))
    Error.Benign.expected fun s₃ h₃ => ?_
  obtain ⟨M, E, rfl, hc⟩ := h₃
  obtain ⟨d₀, d₁, hs⟩ := Cancelled.settled h.loans h.matched hc hred.move
    (hred.key.trans rfl) hred.receipts
  refine Sat.andThen updateInterestRates_spec Error.Benign.expected fun s₄ h₄ => ?_
  obtain ⟨Rs', rfl, hpriced⟩ := h₄
  refine Sat.andThen (payByUser_spec hp hm) (fun _ => .inl) fun s₅ h₅ => ?_
  obtain ⟨E', rfl, hpaid⟩ := h₅
  refine Sat.andThen (depositReserves_spec (by exact hproxy')) (fun _ => .inl) fun s₆ h₆ => ?_
  obtain ⟨E'', v, rfl, hdep⟩ := h₆
  have hidle : Flow D.lendPool s.erc20 E'' 0 0 :=
    ((hs.others _ D.lendPool_ne_debtMarket).andIdle (hpaid.others hp.symm)).andIdle
      (hdep.others _ (isProxy_ne_lendPool hproxy').symm)
  -- nothing has left the pool so far, so the bid is still there
  refine Sat.andThen (settleRedeem_spec hi fun hb => (bid_le_pool h hheld hb).imp_right fun hle =>
    hle.trans (hidle.le _)) (fun _ => .inl) fun s₇ h₇ => ?_
  obtain ⟨E₃, rfl, hpool, hmarket⟩ := h₇
  have hR := hupd.thenPriced hpriced rfl
  refine ⟨⟨some loan, some l, d₀, d₁, ⟨rfl, hs.loans, hs.listings, hs.matched, hs.receipts, hR.ops,
    ?_, ?_⟩, hred.debts hburn, hR.timely rfl⟩, fun hexact hpps hweth => ?_⟩
  · exact (hidle.idleAnd hpool).weaken (fun r => (hred.noBid r).le) fun _ => le_rfl
  · exact ((hs.market.andIdle (hpaid.others hm.symm)).andIdle
      (hdep.others _ (isProxy_ne_debtMarket hproxy').symm)).andIdle hmarket
  · exact hpriced.describe_deposited hdep rfl rfl rfl rfl rfl rfl hexact hpps hweth

/-! ## Liquidations -/

/-- The initiator pays what the bid falls short of, if anything. -/
theorem payExtra_spec {asset initiator : Address} {extra : ℕ} (hi : D.isUser initiator) :
    Sat (applyIf (extra > 0) (fun s =>
        s.safeTransferFrom asset D.lendPool initiator D.lendPool extra) s)
      (fun s' => ∃ E, s' = s.withErc20 E ∧ Flow D.lendPool s.erc20 E (due asset extra) 0 ∧
        Flow D.debtMarket s.erc20 E 0 0) (Error.Blameless D) := by
  refine Sat.applyIf (fun _ => ?_) fun hz => ⟨_, rfl, ?_, .refl _ _⟩
  · refine Sat.imp (payByUser_spec hi.ne_lendPool hi.ne_debtMarket) fun s' hs => ?_
    obtain ⟨E, rfl, hpaid⟩ := hs
    exact ⟨E, rfl, hpaid.receive hi.ne_lendPool.symm, hpaid.others hi.ne_debtMarket.symm⟩
  · obtain rfl : extra = 0 := Nat.eq_zero_of_not_pos hz
    exact (Flow.refl _ _).weaken (fun r => by simp [due]) fun _ => le_rfl

/-- The pool pays out what remains, if anything. -/
theorem payRemain_spec {c : Prop} [Decidable c] {asset dst : Address}
    (hfunds : amount ≤ (s.erc20 asset).balanceOf D.lendPool) :
    Sat (applyIf c (fun s => s.safeTransfer asset D.lendPool dst amount) s)
      (fun s' => ∃ E, s' = s.withErc20 E ∧ Flow D.lendPool s.erc20 E 0 (due asset amount) ∧
        (∀ h, h ≠ D.lendPool → Flow h s.erc20 E 0 0)) Error.Benign :=
  Sat.applyIf (fun _ => payByPool_spec hfunds) fun _ =>
    ⟨_, rfl, (Flow.refl _ _).weaken (fun _ => le_rfl) fun _ => Nat.zero_le _, fun h _ => .refl h _⟩

/-- **`liquidate`.** The bid, and what the initiator adds to it, pays the debt; the rest of the
bid goes to the borrower. -/
theorem executeLiquidate_conducted (h : Books D s) {initiator : Address} (hi : D.isUser initiator) :
    Sat (s.executeLiquidate D initiator nftAsset nftTokenId amount)
      (fun p => (∃ lo ln d₀ d₁, Conducted D s p.1 lo ln d₀ d₁) ∧ SetsRates D s p.1
        (s.lendPoolLoan.loans (s.lendPoolLoan.getCollateralLoanId nftAsset
          nftTokenId)).reserveAsset)
      (Error.Expected D s) := by
  refine Sat.bind (Sat.require fun _ => Error.Benign.expected _ trivial) fun _ hid => ?_
  obtain ⟨hheld, hlive, ha, ht⟩ := h.loans.held hid
  unfold getLoan
  generalize hloan : s.lendPoolLoan.loans (s.lendPoolLoan.getCollateralLoanId nftAsset nftTokenId)
    = loan at *
  refine Sat.andThen validateLiquidate_spec Error.Benign.expected fun _ hv => ?_
  obtain ⟨hu, hauction⟩ := hv
  have hproxy := h.proxies _ hu
  refine Sat.bind (Sat.require fun _ => Error.Benign.expected _ trivial) fun _ _ => ?_
  refine Sat.andThen updateState_spec Error.Benign.expected fun s₁ h₁ => ?_
  obtain ⟨Rs, U, rfl, hupd⟩ := h₁
  have hproxy' : D.isProxy (Rs loan.reserveAsset).uTokenAddress = true :=
    hupd.uTokenAddress ▸ hproxy
  refine Sat.andThen calculateLoanLiquidatePrice_spec Error.Benign.expected fun prices hprices => ?_
  refine Sat.bind (Sat.require fun _ => Error.Benign.expected _ trivial) fun _ _ => ?_
  have hfull := hupd.full h.indices hu (by exact hloan) (by rfl) (by rfl) hprices
  -- the loan is closed, all of its debt burnt and its listing cancelled
  refine Sat.andThen (closeLoan_reduced (by exact h.loans) (by exact h.receipts) (by exact hid)
    (by exact hloan) (by exact hloan ▸ LendPoolLoan.liquidateLoan_spec h.loans hid))
    Error.Benign.expected fun s₂ h₂ => ?_
  obtain ⟨L, C, N, l, rfl, hred⟩ := h₂
  refine Sat.bind (burnReduced_spec (s := s) hred hheld (by exact hfull) (by rfl)) fun s₃ h₃ => ?_
  obtain ⟨T, rfl, hburn⟩ := h₃
  refine Sat.andThen (cancelDebtListingIfExists_spec (by exact h.listings)
    (by exact h.marketSolvent))
    Error.Benign.expected fun s₄ h₄ => ?_
  obtain ⟨M, E, rfl, hc⟩ := h₄
  obtain ⟨d₀, d₁, hs⟩ := Cancelled.settled h.loans h.matched hc hred.move hred.key hred.receipts
  refine Sat.andThen updateInterestRates_spec Error.Benign.expected fun s₅ h₅ => ?_
  obtain ⟨Rs', rfl, hpriced⟩ := h₅
  refine Sat.andThen (payExtra_spec hi) (fun _ => .inl) fun s₆ h₆ => ?_
  obtain ⟨E₁, rfl, hextra, hextra'⟩ := h₆
  -- the bid and what was added to it cover the debt
  have hbid := escrow_le_pool h hheld loan.reserveAsset
  rw [LoanData.escrow_of_auction hauction, due_self] at hbid
  have hin := (hs.others _ D.lendPool_ne_debtMarket).idleAnd hextra
  have hcover := hin.balance loan.reserveAsset
  simp only [due_self, Pi.zero_apply, add_zero] at hcover
  refine Sat.andThen (payByPool_spec (by
    refine le_trans ?_ hcover
    omega)) Error.Benign.expected fun s₇ h₇ => ?_
  obtain ⟨E₂, rfl, hdebt, hdebt'⟩ := h₇
  refine Sat.andThen (depositReserves_spec (by exact hproxy')) (fun _ => .inl) fun s₈ h₈ => ?_
  obtain ⟨E₃, v, rfl, hdep⟩ := h₈
  -- after the debt is paid, what remains of the bid is still in the pool
  have hout := (hin.trans hdebt).andIdle (hdep.others _ (isProxy_ne_lendPool hproxy').symm)
  have hrest := hout.balance loan.reserveAsset
  simp only [due_self, Pi.add_apply, Pi.zero_apply, add_zero, zero_add] at hrest
  refine Sat.andThen (payRemain_spec (by
    change loan.bidPrice - prices.1 ≤ (E₃ loan.reserveAsset).balanceOf D.lendPool
    omega)) Error.Benign.expected fun s₉ h₉ => ?_
  obtain ⟨E₄, rfl, hremain, hremain'⟩ := h₉
  refine Sat.andThen (deliverNft_spec D) Error.Benign.expected fun s₁₀ h₁₀ => ?_
  obtain ⟨C', rfl⟩ := h₁₀
  have hR := hupd.thenPriced hpriced rfl
  refine ⟨⟨some loan, some l, d₀, d₁, ⟨rfl, hs.loans, hs.listings, hs.matched, hs.receipts, hR.ops,
    ?_, ?_⟩, hred.debts hburn, hR.timely rfl⟩, fun hexact hpps hweth => ?_⟩
  -- what came in and what went out differ by the bid
  · refine (hout.trans hremain).net fun r => ?_
    simp only [weigh_some, hred.noBid, LoanData.escrow_of_auction hauction, due, Pi.add_apply,
      Pi.zero_apply]
    split <;> omega
  · exact (((hs.market.andIdle hextra').andIdle (hdebt' _ D.lendPool_ne_debtMarket.symm)).andIdle
      (hdep.others _ (isProxy_ne_debtMarket hproxy').symm)).andIdle
      (hremain' _ D.lendPool_ne_debtMarket.symm)
  · exact hpriced.describe_deposited hdep rfl rfl rfl rfl rfl rfl hexact hpps hweth

/-! ## Buyouts -/

/-- The price of a buyout covers the debt. -/
theorem le_buyoutPrice {borrowAmount nftPrice lockeyDiscount : ℕ} :
    borrowAmount ≤ s.buyoutPrice onBehalfOf borrowAmount nftPrice lockeyDiscount := by
  unfold buyoutPrice
  split
  · rename_i h
    exact h.1.le
  · exact le_max_left _ _

/-- Paying the fine takes from the pool exactly what is no longer left. -/
theorem payBidFine_spec {loan : LoanData} {remainAmount bidFine : ℕ}
    (hfunds : remainAmount ≤ (s.erc20 loan.reserveAsset).balanceOf D.lendPool) :
    Sat (s.payBidFine D loan remainAmount bidFine)
      (fun p => ∃ E n, p.1 = s.withErc20 E ∧ n + p.2 = remainAmount ∧
        Flow D.lendPool s.erc20 E 0 (due loan.reserveAsset n) ∧
        (∀ h, h ≠ D.lendPool → Flow h s.erc20 E 0 0)) Error.Benign := by
  refine Sat.ite (fun hle => ?_) fun _ => Sat.ite (fun _ => ?_) fun _ => ?_
  · refine Sat.bind (payByPool_spec (hle.trans hfunds)) fun s' hs => ?_
    obtain ⟨E, rfl, hpool, hothers⟩ := hs
    exact ⟨E, bidFine, rfl, Nat.add_sub_cancel' hle, hpool, hothers⟩
  · refine Sat.bind (payByPool_spec hfunds) fun s' hs => ?_
    obtain ⟨E, rfl, hpool, hothers⟩ := hs
    exact ⟨E, remainAmount, rfl, rfl, hpool, hothers⟩
  · refine ⟨_, 0, rfl, Nat.zero_add _, ?_, fun h _ => .refl h _⟩
    exact (Flow.refl _ _).weaken (fun _ => le_rfl) fun _ => Nat.zero_le _

/-- Settling a standing bid takes from the pool the bid and what is no longer left. -/
theorem settleBuyout_spec {loan : LoanData} {remainAmount bidFine : ℕ}
    (hauction : loan.bidderAddress ≠ 0 → loan.state = .Auction)
    (hfunds : loan.escrow loan.reserveAsset + remainAmount
      ≤ (s.erc20 loan.reserveAsset).balanceOf D.lendPool) :
    Sat (s.settleBuyout D loan remainAmount bidFine)
      (fun p => ∃ E n, p.1 = s.withErc20 E ∧ n + p.2 = remainAmount ∧
        Flow D.lendPool s.erc20 E 0 ((LoanData.escrow · loan) + due loan.reserveAsset n) ∧
        (∀ h, h ≠ D.lendPool → Flow h s.erc20 E 0 0)) Error.Benign := by
  refine Sat.ite (fun hb => ?_) fun _ => ?_
  · have hescrow : (LoanData.escrow · loan) = due loan.reserveAsset loan.bidPrice :=
      funext (LoanData.escrow_of_auction (hauction hb))
    rw [LoanData.escrow_of_auction (hauction hb), due_self] at hfunds
    refine Sat.bind (payByPool_spec ((Nat.le_add_right _ _).trans hfunds)) fun s₁ h₁ => ?_
    obtain ⟨E, rfl, hpool, hothers⟩ := h₁
    have hleft := hpool.balance loan.reserveAsset
    simp only [due_self, Pi.zero_apply, add_zero] at hleft
    -- once the bid is back with its bidder, the rest of the price is what is left
    refine Sat.imp (payBidFine_spec (by
      change remainAmount ≤ (E loan.reserveAsset).balanceOf D.lendPool
      omega)) fun p hp => ?_
    obtain ⟨E', n, hp₁, hn, hpool', hothers'⟩ := hp
    refine ⟨E', n, hp₁, hn, ?_, fun h hne => (hothers h hne).andIdle (hothers' h hne)⟩
    rw [hescrow]
    exact (hpool.trans hpool').weaken (fun _ => Nat.zero_le _) fun _ => le_rfl
  · refine ⟨_, 0, rfl, Nat.zero_add _, ?_, fun h _ => .refl h _⟩
    exact (Flow.refl _ _).weaken (fun _ => le_rfl) fun _ => Nat.zero_le _

/-- **`buyout`.** The price pays the debt; out of the rest comes the fine, and what is left goes
to the borrower. -/
theorem executeBuyout_conducted (h : Books D s) {initiator : Address} (hi : D.isUser initiator) :
    Sat (s.executeBuyout D initiator nftAsset nftTokenId onBehalfOf)
      (fun s' => (∃ lo ln d₀ d₁, Conducted D s s' lo ln d₀ d₁) ∧ SetsRates D s s'
        (s.lendPoolLoan.loans (s.lendPoolLoan.getCollateralLoanId nftAsset
          nftTokenId)).reserveAsset)
      (Error.Expected D s) := by
  have hp := hi.ne_lendPool
  have hm := hi.ne_debtMarket
  refine Sat.bind (Sat.require fun _ => Error.Benign.expected _ trivial) fun _ _ => ?_
  refine Sat.bind (Sat.require fun _ => Error.Benign.expected _ trivial) fun _ hid => ?_
  obtain ⟨hheld, hlive, ha, ht⟩ := h.loans.held hid
  unfold getLoan
  generalize hloan : s.lendPoolLoan.loans (s.lendPoolLoan.getCollateralLoanId nftAsset nftTokenId)
    = loan at *
  refine Sat.andThen getNFTPrice_benign Error.Benign.expected fun nftPrice _ => ?_
  refine Sat.andThen updateState_spec Error.Benign.expected fun s₁ h₁ => ?_
  obtain ⟨Rs, U, rfl, hupd⟩ := h₁
  refine Sat.andThen calculateLoanData_benign Error.Benign.expected fun health _ => ?_
  refine Sat.bind (Sat.require fun _ => Error.Benign.expected _ trivial) fun _ _ => ?_
  refine Sat.andThen calculateLoanLiquidatePrice_spec Error.Benign.expected fun prices hprices => ?_
  refine Sat.andThen calculateLoanBidFine_benign Error.Benign.expected fun fine _ => ?_
  refine Sat.andThen validateBuyout_spec Error.Benign.expected fun _ hu => ?_
  have hu' : (s.lendPool.reserves loan.reserveAsset).uTokenAddress ≠ 0 := hupd.uTokenAddress ▸ hu
  have hproxy : D.isProxy (Rs loan.reserveAsset).uTokenAddress = true :=
    hupd.uTokenAddress ▸ h.proxies _ hu'
  have hfull := hupd.full h.indices hu' (by exact hloan) (by rfl) (by rfl) hprices
  refine Sat.andThen unitMul_benign Error.Benign.expected fun lockeyDiscount _ => ?_
  -- the loan is closed, all of its debt burnt and its listing cancelled
  refine Sat.andThen (closeLoan_reduced (by exact h.loans) (by exact h.receipts) (by exact hid)
    (by exact hloan) (by exact hloan ▸ LendPoolLoan.buyoutLoan_spec h.loans hid))
    Error.Benign.expected fun s₂ h₂ => ?_
  obtain ⟨L, C, N, l, rfl, hred⟩ := h₂
  refine Sat.bind (burnReduced_spec (s := s) hred hheld (by exact hfull) (by rfl)) fun s₃ h₃ => ?_
  obtain ⟨T, rfl, hburn⟩ := h₃
  refine Sat.andThen (cancelDebtListingIfExists_spec (by exact h.listings)
    (by exact h.marketSolvent))
    Error.Benign.expected fun s₄ h₄ => ?_
  obtain ⟨M, E, rfl, hc⟩ := h₄
  obtain ⟨d₀, d₁, hs⟩ := Cancelled.settled h.loans h.matched hc hred.move hred.key hred.receipts
  refine Sat.andThen updateInterestRates_spec Error.Benign.expected fun s₅ h₅ => ?_
  obtain ⟨Rs', rfl, hpriced⟩ := h₅
  refine Sat.andThen (payByUser_spec hp hm) (fun _ => .inl) fun s₆ h₆ => ?_
  obtain ⟨E₁, rfl, hpaid⟩ := h₆
  -- the price covers the debt
  have hin := (hs.others _ D.lendPool_ne_debtMarket).idleAnd (hpaid.receive hp.symm)
  have hprice : prices.1 ≤ ((s.withReserves Rs).withUTokens U).buyoutPrice onBehalfOf prices.1
      nftPrice lockeyDiscount := le_buyoutPrice
  generalize ((s.withReserves Rs).withUTokens U).buyoutPrice onBehalfOf prices.1 nftPrice
    lockeyDiscount = price at *
  have hcover := hin.balance loan.reserveAsset
  simp only [due_self, Pi.zero_apply, add_zero] at hcover
  refine Sat.andThen (payByPool_spec (by
    change prices.1 ≤ (E₁ loan.reserveAsset).balanceOf D.lendPool
    omega)) Error.Benign.expected fun s₇ h₇ => ?_
  obtain ⟨E₂, rfl, hdebt, hdebt'⟩ := h₇
  refine Sat.andThen (depositReserves_spec (by exact hproxy)) (fun _ => .inl) fun s₈ h₈ => ?_
  obtain ⟨E₃, v, rfl, hdep⟩ := h₈
  refine Sat.andThen checkedSub_benign Error.Benign.expected fun remainAmount hremain => ?_
  obtain ⟨-, rfl⟩ := hremain
  -- the bid was in the pool before, so the pool holds it and the rest of the price
  have hbid := escrow_le_pool h hheld loan.reserveAsset
  have hout := (hin.trans hdebt).andIdle (hdep.others _ (isProxy_ne_lendPool hproxy).symm)
  have hrest := hout.balance loan.reserveAsset
  simp only [due_self, Pi.add_apply, Pi.zero_apply, add_zero, zero_add] at hrest
  refine Sat.andThen (settleBuyout_spec (auction_of_bidder h.loans hheld) (by
    change loan.escrow loan.reserveAsset + (price - prices.1)
      ≤ (E₃ loan.reserveAsset).balanceOf D.lendPool
    omega)) Error.Benign.expected fun p h₉ => ?_
  obtain ⟨s₉, remainAmount⟩ := p
  obtain ⟨E₄, n, rfl, hn, hsettle, hsettle'⟩ := h₉
  have hleft := hsettle.balance loan.reserveAsset
  simp only [due_self, Pi.add_apply, Pi.zero_apply, add_zero] at hleft hn
  change (E₃ _).balanceOf _ ≤ _ at hleft
  refine Sat.andThen (payRemain_spec (by
    change remainAmount ≤ (E₄ loan.reserveAsset).balanceOf D.lendPool
    omega)) Error.Benign.expected fun s₁₀ h₁₀ => ?_
  obtain ⟨E₅, rfl, hlast, hlast'⟩ := h₁₀
  refine Sat.mono (deliverNft_spec D) (fun s₁₁ h₁₁ => ?_) Error.Benign.expected
  obtain ⟨C', rfl⟩ := h₁₁
  have hR := hupd.thenPriced hpriced rfl
  refine ⟨⟨some loan, some l, d₀, d₁, ⟨rfl, hs.loans, hs.listings, hs.matched, hs.receipts, hR.ops,
    ?_, ?_⟩, hred.debts hburn, hR.timely rfl⟩, fun hexact hpps hweth => ?_⟩
  -- the price is paid out in full, and beyond it only the bid
  · refine ((hout.trans hsettle).trans hlast).net fun r => ?_
    simp only [weigh_some, hred.noBid, due, Pi.add_apply, Pi.zero_apply]
    split <;> omega
  · exact ((((hs.market.andIdle (hpaid.others hm.symm)).andIdle
      (hdebt' _ D.lendPool_ne_debtMarket.symm)).andIdle
      (hdep.others _ (isProxy_ne_debtMarket hproxy).symm)).andIdle
      (hsettle' _ D.lendPool_ne_debtMarket.symm)).andIdle (hlast' _ D.lendPool_ne_debtMarket.symm)
  · exact hpriced.describe_deposited hdep rfl rfl rfl rfl rfl rfl hexact hpps hweth

end State

end Unlockd

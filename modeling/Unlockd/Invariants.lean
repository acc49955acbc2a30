/-
Every action keeps the books, and says what it did.

One case analysis over the calls and one over the settings. The first tells of each call its
`Effect`, how the debt tokens moved, and whether rates were set on time; the second that no
setting touches a loan, a listing, a debt, a rate or the funds of the two contracts. From
there on a run is an induction.
-/
import Unlockd.AdapterEffect
import Unlockd.Protocol

set_option autoImplicit false

namespace Unlockd

open Outcome Registry LendPoolLoan DebtMarket

/-! ## Calls -/

namespace Call

variable {D : Deployment}

/-- A liquidation through the adapter. -/
def isSale : Call D → Bool
  | .liquidateReservoir .. => true
  | _ => false

/-- A call to a reserve asset or a collection, and not to the protocol. -/
def ofToken : Call D → Bool
  | .transfer .. | .transferFrom .. | .approve .. | .burn .. | .transferNft .. | .approveNft ..
  | .setApprovalForAll .. => true
  | _ => false

/-- The reserve whose rates a call sets without having brought it up to date itself is current. -/
def Prompt (s : State) : Call D → Prop
  | .updateReserveInterestRates asset =>
      (s.lendPool.reserves asset).lastUpdateTimestamp = uint40 s.blockTimestamp
  | .liquidateReservoir nftAsset reserveAsset tokenId .. =>
      (s.lendPoolLoan.loans (s.lendPoolLoan.getCollateralLoanId nftAsset tokenId)).reserveAsset
          = reserveAsset ∨
        (s.lendPool.reserves (s.lendPoolLoan.loans
          (s.lendPoolLoan.getCollateralLoanId nftAsset tokenId)).reserveAsset).lastUpdateTimestamp
            = uint40 s.blockTimestamp
  | _ => True

end Call

/-- The debt tokens move with the loan that was taken out and the one that was put in. -/
def DebtsFollow (s s' : State) (lo ln : Option LoanData) : Prop :=
  ∀ r u, (s'.debtTokens r).scaledBalanceOf u + weigh (LoanData.owed r u) lo
    = (s.debtTokens r).scaledBalanceOf u + weigh (LoanData.owed r u) ln

/-- What a call leaves behind. -/
def Performed (D : Deployment) (s : State) (c : Call D) (s' : State) : Prop :=
  ∃ lo ln d₀ d₁, Effect D s s' lo ln d₀ d₁ ∧ (c.isSale = false → DebtsFollow s s' lo ln) ∧
    (c.Prompt s → Timely s s')

/-- What a call can fail with; what the token contracts say to others is their own affair. -/
def Refused (D : Deployment) (s : State) (c : Call D) (e : Error) : Prop :=
  c.ofToken = true ∨ (c.isSale = true ∧ e.OfSale D) ∨ (c.isSale = false ∧ e.Expected D s)

section Perform

variable {D : Deployment} {s s' : State} {c : Call D} {lo ln : Option LoanData}
  {d₀ d₁ : Option DebtMarketListing}

theorem Conducted.performed (h : Conducted D s s' lo ln d₀ d₁) : Performed D s c s' :=
  ⟨lo, ln, d₀, d₁, h.toEffect, fun _ => h.debts, fun _ => h.timely⟩

/-- An operation in which only tokens outside the protocol's records change. -/
theorem conducted_of_tokens (h : Books D s) (htime : s'.blockTimestamp = s.blockTimestamp)
    (hpool : s'.lendPool = s.lendPool) (hloans : s'.lendPoolLoan = s.lendPoolLoan)
    (hmarket : s'.debtMarket = s.debtMarket) (hreceipts : s'.uNfts = s.uNfts)
    (hdebts : ∀ r u, (s'.debtTokens r).scaledBalanceOf u = (s.debtTokens r).scaledBalanceOf u)
    (hp : Flow D.lendPool s.erc20 s'.erc20 0 0) (hm : Flow D.debtMarket s.erc20 s'.erc20 0 0) :
    Conducted D s s' none none none none where
  blockTimestamp := htime
  loans := by rw [hloans]; exact .idle _
  listings := by rw [hmarket]; exact .idle _
  matched := by rw [hloans, hmarket]; exact h.matched
  receipts := by rw [hloans, hreceipts]; exact h.receipts
  reserves r := by rw [hpool]
  pool := hp
  market := hm
  debts r u := by rw [hdebts r u]
  timely r := by rw [hpool]; exact .inl ⟨rfl, rfl⟩

namespace State

/-- The pause of the pool is checked first. -/
theorem whenNotPaused_spec {x : Except Error State} {Q : State → Prop} {E : Error → Prop}
    (hE : E .LP_IS_PAUSED) (hx : Sat x Q E) : Sat (s.whenNotPaused x) Q E :=
  Sat.bind (Sat.require fun _ => hE) fun _ _ => hx

/-- The state an operation leaves, without what it returns. -/
theorem fst_spec {α : Type} {x : Except Error (State × α)} {Q : State → Prop} {E : Error → Prop}
    (hx : Sat x (fun p => Q p.1) E) : Sat (Prod.fst <$> x) Q E := by
  cases x with
  | ok p => exact hx
  | error e => exact hx

/-- `updateReserveState` as a call of its own. -/
theorem updateReserveState_conducted (h : Books D s) {asset : Address} :
    Sat (s.updateReserveState asset) (fun s' => Conducted D s s' none none none none)
      (Error.Expected D s) := by
  refine updateReserveState_spec.mono (fun s' hs => ?_) Error.Benign.expected
  obtain ⟨-, Rs, U, rfl, hupd⟩ := hs
  refine ⟨⟨rfl, .idle _, .idle _, h.matched, h.receipts, hupd.ops, .refl _ _, .refl _ _⟩,
    fun _ _ => rfl, ?_⟩
  apply Updated.timely
  exact hupd

/-- `updateReserveInterestRates` as a call of its own. -/
theorem updateReserveInterestRates_performed (h : Books D s) {asset : Address} :
    Sat (s.updateReserveInterestRates asset)
      (Performed D s (.updateReserveInterestRates asset)) (Error.Expected D s) := by
  refine updateReserveInterestRates_spec.mono (fun s' hs => ?_) Error.Benign.expected
  obtain ⟨Rs, rfl, hpriced⟩ := hs
  refine ⟨none, none, none, none, ⟨rfl, .idle _, .idle _, h.matched, h.receipts, hpriced.ops,
    .refl _ _, .refl _ _⟩, fun _ _ _ => rfl, fun hcurrent => ?_⟩
  apply Priced.timely
  · exact hpriced
  · exact hcurrent

/-- Only the adapter has the pool release a bid. -/
theorem transferBidAmount_refused {sender reserveAsset bidder : Address} {bidAmount : ℕ}
    (hs : D.isUser sender) :
    Sat (s.transferBidAmount D sender reserveAsset bidder bidAmount) (fun _ => False)
      (Error.Expected D s) := by
  refine Sat.bind (Sat.require fun _ => Error.Benign.expected _ trivial) fun _ hadapter => ?_
  exact absurd (.inr (.inr (.inr (.inl hadapter)))) hs.2

/-- Destroying tokens of an account outside takes nothing from anyone else. -/
theorem burnErc20_spec {asset holder : Address} {amount : ℕ} :
    Sat (s.burnErc20 asset holder amount)
      (fun s' => ∃ E, s' = s.withErc20 E ∧ ∀ h, h ≠ holder → Flow h s.erc20 E 0 0)
      (fun _ => True) := by
  refine Sat.bind (Sat.require fun _ => trivial) fun _ _ => ?_
  refine ⟨_, rfl, fun h hne => ⟨fun r => ?_, fun r c => ?_⟩⟩
  · by_cases hr : r = asset
    · subst hr; simp [hne]
    · simp [hr]
  · by_cases hr : r = asset
    · subst hr; simp
    · simp [hr]

end State

/-- A call that changes nothing but tokens outside the protocol's records. -/
theorem performed_tokens (h : Books D s) {E : Address → Erc20} {C : Address → Erc721}
    (hp : Flow D.lendPool s.erc20 E 0 0) (hm : Flow D.debtMarket s.erc20 E 0 0) :
    Performed D s c ((s.withErc20 E).withErc721 C) := by
  apply Conducted.performed
  exact conducted_of_tokens h rfl rfl rfl rfl rfl (fun _ _ => rfl) hp hm

/-- **Every call.** -/
theorem perform_spec (h : Books D s) {sender : Address} (hs : D.isUser sender) (c : Call D) :
    Sat (s.perform D sender c) (Performed D s c) (Refused D s c) := by
  have hp := hs.ne_lendPool
  have hm := hs.ne_debtMarket
  -- the calls of the protocol proper
  have ofPool : ∀ {x : Except Error State} {A : Address}, c.isSale = false →
      Sat x (fun s' => (∃ lo ln d₀ d₁, Conducted D s s' lo ln d₀ d₁) ∧ SetsRates D s s' A)
        (Error.Expected D s) → Sat (s.whenNotPaused x) (Performed D s c) (Refused D s c) :=
    fun hc hx => State.whenNotPaused_spec (.inr (.inr ⟨hc, Error.Benign.expected _ trivial⟩))
      (hx.mono (fun _ ⟨⟨_, _, _, _, hd⟩, _⟩ => hd.performed) fun _ he => .inr (.inr ⟨hc, he⟩))
  have ofMarket : ∀ {x : Except Error State}, c.isSale = false →
      Sat x (fun s' => ∃ lo ln d₀ d₁, Conducted D s s' lo ln d₀ d₁) (Error.Expected D s) →
      Sat x (Performed D s c) (Refused D s c) :=
    fun hc hx => hx.mono (fun _ ⟨_, _, _, _, hd⟩ => hd.performed) fun _ he => .inr (.inr ⟨hc, he⟩)
  cases c with
  | deposit asset amount onBehalfOf =>
    exact ofPool rfl ((State.executeDeposit_conducted h hs).imp fun _ hd =>
      ⟨⟨_, _, _, _, hd.1⟩, hd.2⟩)
  | withdraw asset amount receiver =>
    exact ofPool rfl (State.fst_spec ((State.executeWithdraw_conducted h).imp
      fun _ hd => ⟨⟨_, _, _, _, hd.1⟩, hd.2⟩))
  | borrow asset amount nftAsset nftTokenId onBehalfOf =>
      exact ofPool rfl (State._borrow_conducted h)
  | repay nftAsset nftTokenId amount =>
      exact ofPool rfl (State.fst_spec (State._repay_conducted h hs))
  | auction nftAsset nftTokenId bidPrice onBehalfOf =>
    exact ofPool rfl (State.executeAuction_conducted h hs)
  | redeem nftAsset nftTokenId amount bidFine =>
    exact ofPool rfl (State.fst_spec (State.executeRedeem_conducted h hs))
  | liquidate nftAsset nftTokenId amount =>
    exact ofPool rfl (State.fst_spec (State.executeLiquidate_conducted h hs))
  | buyout nftAsset nftTokenId onBehalfOf => exact ofPool rfl (State.executeBuyout_conducted h hs)
  | updateReserveState asset =>
    exact ofMarket rfl ((State.updateReserveState_conducted h).imp fun _ hd => ⟨_, _, _, _, hd⟩)
  | updateReserveInterestRates asset =>
    exact (State.updateReserveInterestRates_performed h).mono (fun _ hd => hd)
      fun _ he => .inr (.inr ⟨rfl, he⟩)
  | transferBidAmount reserveAsset bidder bidAmount =>
    exact (State.transferBidAmount_refused hs).mono (fun _ hf => hf.elim) fun _ he =>
      .inr (.inr ⟨rfl, he⟩)
  | createDebtListing nftAsset tokenId sellPrice onBehalfOf startBiddingPrice auctionEndTimestamp =>
    exact ofMarket rfl ((State.createDebtListing_conducted h).imp
      fun _ ⟨d₀, d₁, hd⟩ => ⟨_, _, d₀, d₁, hd⟩)
  | cancelDebtListing nftAsset tokenId =>
    exact ofMarket rfl ((State.cancelDebtListing_conducted h).imp
      fun _ ⟨d₀, d₁, hd⟩ => ⟨_, _, d₀, d₁, hd⟩)
  | buy nftAsset tokenId onBehalfOf amount => exact ofMarket rfl (State.buy_conducted h hs)
  | bid nftAsset tokenId bidPrice onBehalfOf => exact ofMarket rfl (State.bid_conducted h hs)
  | claim nftAsset tokenId onBehalfOf => exact ofMarket rfl (State.claim_conducted h)
  | liquidateReservoir nftAsset reserveAsset tokenId module sale expectedLiquidateAmount =>
    refine (State.liquidateReservoir_effect h).mono (fun _ hd => ?_) fun _ he =>
      .inr (.inl ⟨rfl, he⟩)
    obtain ⟨⟨lo, ln, d₀, d₁, he⟩, htimely⟩ := hd
    exact ⟨lo, ln, d₀, d₁, he, fun hc => (by cases hc), htimely⟩
  | approveDelegation asset delegatee amount =>
    have hd : Conducted D s (s.approveDelegation asset sender delegatee amount)
        none none none none := by
      refine conducted_of_tokens h rfl rfl rfl rfl rfl (fun r u => ?_) (.refl _ _) (.refl _ _)
      by_cases hr : r = asset
      · subst hr; simp [State.approveDelegation, State.setDebtToken]
      · simp [State.approveDelegation, State.setDebtToken, hr]
    exact hd.performed
  | transfer asset dst amount =>
    refine State.safeTransfer_spec.mono (fun s' hd => ?_) fun _ _ => .inl rfl
    obtain ⟨E, rfl, hpaid⟩ := hd
    exact performed_tokens h (hpaid.others hp.symm) (hpaid.others hm.symm)
  | transferFrom asset src dst amount =>
    refine State.safeTransferFrom_spec.mono (fun s' hd => ?_) fun _ _ => .inl rfl
    obtain ⟨E, rfl, hpaid, hent⟩ := hd
    exact performed_tokens h (hpaid.unentitled hent h.poolGuarded hp.symm)
      (hpaid.unentitled hent h.marketGuarded hm.symm)
  | approve asset spender amount =>
    exact performed_tokens h (State.flow_setAllowance hp.symm) (State.flow_setAllowance hm.symm)
  | burn asset amount =>
    refine State.burnErc20_spec.mono (fun s' hd => ?_) fun _ _ => .inl rfl
    obtain ⟨E, rfl, hothers⟩ := hd
    exact performed_tokens h (hothers _ hp.symm) (hothers _ hm.symm)
  | transferNft asset src dst tokenId =>
    refine Sat.bind (P := fun _ => True) ?_ fun _ _ => performed_tokens h (.refl _ _) (.refl _ _)
    refine Sat.bind (Sat.require fun _ => .inl rfl) fun _ _ => ?_
    refine Sat.bind (Sat.require fun _ => .inl rfl) fun _ _ => ?_
    refine Sat.bind (Sat.require fun _ => .inl rfl) fun _ _ => ?_
    exact Sat.bind (Sat.require fun _ => .inl rfl) fun _ _ => trivial
  | approveNft asset dst tokenId =>
    exact Sat.bind (Sat.require fun _ => .inl rfl) fun _ _ =>
      performed_tokens h (.refl _ _) (.refl _ _)
  | setApprovalForAll asset operator approved => exact performed_tokens h (.refl _ _) (.refl _ _)

end Perform

/-- Whatever a call to the protocol fails with, it is no fault of the protocol's, or there was too
little debt to burn. -/
theorem refused_of_call {D : Deployment} {s : State} (h : Books D s) {sender : Address}
    (hs : D.isUser sender) {c : Call D} (htoken : c.ofToken = false) {e : Error}
    (he : s.perform D sender c = .error e) : e.OfSale D := by
  rcases (perform_spec h hs c).error he with ht | ⟨-, hx⟩ | ⟨-, hx⟩
  · rw [htoken] at ht; cases ht
  · exact hx
  · rcases hx with hx | ⟨_, loan, -, rfl, -⟩
    · exact .inl hx
    · exact .inr ⟨loan.borrower, rfl⟩

/-! ## Settings and events -/

/-- What a setting or an event may do: nothing to loans, listings, debts, rates and receipts,
and nothing to the funds of the two contracts; reserves stay sound. -/
structure Administered (D : Deployment) (s s' : State) : Prop where
  loans : LoanMove s.lendPoolLoan s'.lendPoolLoan none none
  listings : ListingMove s.debtMarket s'.debtMarket none none
  matched : Matched s'.lendPoolLoan s'.debtMarket
  receipts : Receipts s'.lendPoolLoan s'.uNfts
  debts : DebtsFollow s s' none none
  clock : s.blockTimestamp ≤ s'.blockTimestamp
  reserves : ∀ r, (s.lendPool.reserves r).Configured (s'.lendPool.reserves r)
  indices : State.IndicesSound s'.lendPool.reserves
  proxies : ∀ r, (s'.lendPool.reserves r).uTokenAddress ≠ 0 →
    D.isProxy (s'.lendPool.reserves r).uTokenAddress = true
  pool : Flow D.lendPool s.erc20 s'.erc20 0 0
  market : Flow D.debtMarket s.erc20 s'.erc20 0 0

section Administer

variable {D : Deployment} {s s' : State}

theorem Administered.timely (a : Administered D s s') : Timely s s' := fun r =>
  .inl (a.reserves r).rates

theorem Administered.books (a : Administered D s s') (h : Books D s) : Books D s' where
  loans := a.loans.loans h.loans
  listings := a.listings.listings h.listings
  matched := a.matched
  receipts := a.receipts
  indices := a.indices
  stamps r := by
    rw [(a.reserves r).lastUpdateTimestamp]
    exact ⟨(h.stamps r).1.trans a.clock, (h.stamps r).2⟩
  proxies := a.proxies
  poolSolvent r := a.loans.move.covers h.loans.coherent (h.poolSolvent r) (a.pool.balance r)
  marketSolvent r := a.listings.move.covers h.listings.coherent (h.marketSolvent r)
    (a.market.balance r)
  poolGuarded := a.pool.guarded h.poolGuarded
  marketGuarded := a.market.guarded h.marketGuarded

/-- Nothing that the books are about has changed. -/
theorem administered_of_rest (h : Books D s) (hclock : s.blockTimestamp ≤ s'.blockTimestamp)
    (hreserves : s'.lendPool.reserves = s.lendPool.reserves)
    (hloans : s'.lendPoolLoan = s.lendPoolLoan) (hmarket : s'.debtMarket = s.debtMarket)
    (hreceipts : s'.uNfts = s.uNfts) (hdebts : DebtsFollow s s' none none)
    (hp : Flow D.lendPool s.erc20 s'.erc20 0 0) (hm : Flow D.debtMarket s.erc20 s'.erc20 0 0) :
    Administered D s s' where
  loans := by rw [hloans]; exact .idle _
  listings := by rw [hmarket]; exact .idle _
  matched := by rw [hloans, hmarket]; exact h.matched
  receipts := by rw [hloans, hreceipts]; exact h.receipts
  debts := hdebts
  clock := hclock
  reserves r := by rw [hreserves]; exact .settings _ _
  indices := by rw [hreserves]; exact h.indices
  proxies := by rw [hreserves]; exact h.proxies
  pool := hp
  market := hm

/-- One reserve has changed, without interest, and is sound. -/
theorem administered_of_reserve (h : Books D s) {asset : Address} {R : ReserveData}
    (hreserves : s'.lendPool.reserves = Function.update s.lendPool.reserves asset R)
    (hloans : s'.lendPoolLoan = s.lendPoolLoan) (hmarket : s'.debtMarket = s.debtMarket)
    (hreceipts : s'.uNfts = s.uNfts) (hdebts : s'.debtTokens = s.debtTokens)
    (herc20 : s'.erc20 = s.erc20) (hclock : s.blockTimestamp ≤ s'.blockTimestamp)
    (hrest : (s.lendPool.reserves asset).Configured R)
    (hsound : R.uTokenAddress ≠ 0 →
      (RAY ≤ R.liquidityIndex ∧ RAY ≤ R.variableBorrowIndex) ∧ D.isProxy R.uTokenAddress = true) :
    Administered D s s' := by
  have hread : ∀ r, s'.lendPool.reserves r = if r = asset then R else s.lendPool.reserves r :=
    fun r => by rw [hreserves, Function.update_apply]
  refine
    { loans := by rw [hloans]; exact .idle _
      listings := by rw [hmarket]; exact .idle _
      matched := by rw [hloans, hmarket]; exact h.matched
      receipts := by rw [hloans, hreceipts]; exact h.receipts
      debts := fun r u => by rw [hdebts]
      clock := hclock
      reserves := fun r => ?_
      indices := fun r hr => ?_
      proxies := fun r hr => ?_
      pool := by rw [herc20]; exact .refl _ _
      market := by rw [herc20]; exact .refl _ _ }
  · rw [hread]
    split
    · rename_i he; subst he; exact hrest
    · exact .settings _ _
  · rw [hread] at hr ⊢
    split_ifs at hr ⊢
    · exact (hsound hr).1
    · exact h.indices r hr
  · rw [hread] at hr ⊢
    split_ifs at hr ⊢
    · exact (hsound hr).2
    · exact h.proxies r hr

/-- What is known of a reserve on the books. -/
theorem Books.sound (h : Books D s) (asset : Address)
    (hu : (s.lendPool.reserves asset).uTokenAddress ≠ 0) :
    (RAY ≤ (s.lendPool.reserves asset).liquidityIndex ∧
      RAY ≤ (s.lendPool.reserves asset).variableBorrowIndex) ∧
      D.isProxy (s.lendPool.reserves asset).uTokenAddress = true :=
  ⟨h.indices asset hu, h.proxies asset hu⟩

/-- Changing the configuration of a reserve leaves the rest of it. -/
theorem configureReserve_administered (h : Books D s) {asset : Address}
    {change : BitVec 256 → Except Error (BitVec 256)} :
    Sat (s.configureReserve asset change) (Administered D s) (fun _ => True) := by
  refine Sat.bind (P := fun _ => True) ?_ fun configuration _ => ?_
  · cases change (s.lendPool.reserves asset).configuration <;> trivial
  · exact administered_of_reserve h rfl rfl rfl rfl rfl rfl le_rfl (.settings _ _) (h.sound asset)

theorem setActiveFlagOnReserve_administered (h : Books D s) {asset : Address} {flag : Bool} :
    Sat (s.setActiveFlagOnReserve asset flag) (Administered D s) (fun _ => True) := by
  unfold State.setActiveFlagOnReserve
  split
  · refine Sat.bind (P := fun _ => True) ?_ fun _ _ => configureReserve_administered h
    refine Sat.bind (Sat.require fun _ => trivial) fun _ _ => ?_
    refine Sat.bind (P := fun _ => True) ?_ fun _ _ =>
      (Sat.require fun _ => trivial).imp fun _ _ => trivial
    exact Sat.bind (Sat.require fun _ => trivial) fun _ _ =>
      unitMul_benign.mono (fun _ _ => trivial) fun _ _ => trivial
  · exact configureReserve_administered h

/-- Initialising a reserve sets both indices to one ray. -/
theorem executeInitReserve_administered (h : Books D s)
    {asset uToken treasury interestRate : Address}
    {decimals : ℕ} (hu : D.isProxy uToken = true) :
    Sat (s.executeInitReserve asset uToken treasury interestRate decimals) (Administered D s)
      (fun _ => True) := by
  refine Sat.bind (Sat.require fun _ => trivial) fun _ _ => ?_
  refine Sat.bind (Sat.returned _) fun R hinit => ?_
  obtain ⟨-, rfl⟩ := ReserveData.init_eq hinit
  refine Sat.bind (P := fun _ => True) ?_ fun _ _ => ?_
  · exact Sat.bind (Sat.require fun _ => trivial) fun _ _ => trivial
  · exact administered_of_reserve h rfl rfl rfl rfl rfl rfl le_rfl
      (.opened uToken interestRate _ hinit) fun _ => ⟨⟨le_rfl, le_rfl⟩, hu⟩

/-- A setting of one of the contracts that the books do not speak of. -/
theorem administered_of_setting (h : Books D s) (p : LendPool) (L : LendPoolLoan) (M : DebtMarket)
    (hp : p.reserves = s.lendPool.reserves) (hL : L.registry = s.lendPoolLoan.registry ∧
      LoanMove s.lendPoolLoan L none none) (hM : M.registry = s.debtMarket.registry ∧
      ListingMove s.debtMarket M none none) :
    Administered D s { s with lendPool := p, lendPoolLoan := L, debtMarket := M } where
  loans := hL.2
  listings := hM.2
  matched := by
    unfold Matched
    rw [hL.1, hM.1]
    exact h.matched
  receipts := by
    unfold Receipts
    rw [hL.1]
    exact h.receipts
  debts _ _ := rfl
  clock := le_rfl
  reserves r := by rw [hp]; exact .settings _ _
  indices := by rw [hp]; exact h.indices
  proxies := by rw [hp]; exact h.proxies
  pool := .refl _ _
  market := .refl _ _

/-- **Every setting.** -/
theorem configure_spec (h : Books D s) (setting : Setting D) :
    Sat (s.configure D setting) (Administered D s) (fun _ => True) := by
  have idleL : s.lendPoolLoan.registry = s.lendPoolLoan.registry ∧
      LoanMove s.lendPoolLoan s.lendPoolLoan none none := ⟨rfl, .idle _⟩
  have idleM : s.debtMarket.registry = s.debtMarket.registry ∧
      ListingMove s.debtMarket s.debtMarket none none := ⟨rfl, .idle _⟩
  have rest : ∀ {s' : State}, s'.blockTimestamp = s.blockTimestamp →
      s'.lendPool.reserves = s.lendPool.reserves → s'.lendPoolLoan = s.lendPoolLoan →
      s'.debtMarket = s.debtMarket → s'.uNfts = s.uNfts → s'.debtTokens = s.debtTokens →
      s'.erc20 = s.erc20 → Administered D s s' :=
    fun ht hr hl hm hu hd he => administered_of_rest h ht.ge hr hl hm hu (fun r u => by rw [hd])
      (he ▸ .refl _ _) (he ▸ .refl _ _)
  cases setting with
  | initReserve asset uToken treasury interestRate decimals proxy =>
    exact executeInitReserve_administered h proxy
  | setBorrowingFlagOnReserve asset flag =>
    unfold State.configure
    exact configureReserve_administered h
  | setActiveFlagOnReserve asset flag => exact setActiveFlagOnReserve_administered h
  | setFreezeFlagOnReserve asset flag =>
    unfold State.configure
    exact configureReserve_administered h
  | setReserveFactor asset reserveFactor =>
    unfold State.configure
    exact configureReserve_administered h
  | setReserveInterestRateAddress asset rateAddress =>
    exact Sat.bind (Sat.require fun _ => trivial) fun _ _ =>
      administered_of_reserve h rfl rfl rfl rfl rfl rfl le_rfl (.settings _ _) (h.sound asset)
  | configInterestRate rateAddress optimal base slope1 slope2 =>
    exact Sat.bind (checkedSub_benign.mono (fun _ hx => hx) fun _ _ => trivial) fun _ _ =>
      rest rfl rfl rfl rfl rfl rfl rfl
  | setTreasuryAddress asset treasury =>
    exact Sat.bind (Sat.require fun _ => trivial) fun _ _ => rest rfl rfl rfl rfl rfl rfl rfl
  | initNft asset uNft proxy =>
    refine Sat.bind (Sat.require fun _ => trivial) fun _ _ => ?_
    exact Sat.bind (Sat.require fun _ => trivial) fun _ _ => rest rfl rfl rfl rfl rfl rfl rfl
  | setNftConfiguration asset configuration => exact rest rfl rfl rfl rfl rfl rfl rfl
  | setNftConfigByTokenId asset tokenId configuration => exact rest rfl rfl rfl rfl rfl rfl rfl
  | setPoolPause val =>
    refine rest ?_ ?_ ?_ ?_ ?_ ?_ ?_ <;> (unfold State.setPause; split_ifs <;> rfl)
  | setPausedTime startTime durationTime => exact rest rfl rfl rfl rfl rfl rfl rfl
  | setTimeframe timeframe => exact rest rfl rfl rfl rfl rfl rfl rfl
  | setAuctionDurationConfigFee fee => exact rest rfl rfl rfl rfl rfl rfl rfl
  | setBidDelta bidDelta => exact rest rfl rfl rfl rfl rfl rfl rfl
  | updateSafeHealthFactor newSafeHealthFactor =>
    exact Sat.bind (Sat.require fun _ => trivial) fun _ _ => rest rfl rfl rfl rfl rfl rfl rfl
  | updateUTokenManagers asset manager flag inside =>
    exact Sat.bind (Sat.require fun _ => trivial) fun _ _ => rest rfl rfl rfl rfl rfl rfl rfl
  | updateTokenManagers asset manager flag inside =>
    refine Sat.bind (Sat.require fun _ => trivial) fun _ _ => ?_
    refine administered_of_rest h le_rfl rfl rfl rfl rfl (fun r u => ?_) (.refl _ _) (.refl _ _)
    by_cases hr : r = asset
    · subst hr; simp [State.setDebtToken]
    · simp [State.setDebtToken, hr]
  | updateMarketAdapters adapter flag inside =>
    refine Sat.bind (Sat.require fun _ => trivial) fun _ _ => ?_
    exact administered_of_setting h s.lendPool _ s.debtMarket rfl
      ⟨rfl, .idle _ _, le_rfl, fun _ _ => rfl, fun _ hx => hx⟩ idleM
  | updateLiquidators liquidator flag =>
    exact Sat.bind (Sat.require fun _ => trivial) fun _ _ => rest rfl rfl rfl rfl rfl rfl rfl
  | updateModules module flag =>
    exact Sat.bind (Sat.require fun _ => trivial) fun _ _ => rest rfl rfl rfl rfl rfl rfl rfl
  | setMarketPause val =>
    exact administered_of_setting h s.lendPool s.lendPoolLoan _ rfl idleL
      ⟨rfl, .idle _ _, le_rfl, fun _ _ => rfl⟩
  | setDeltaBidPercent value =>
    refine Sat.bind (Sat.require fun _ => trivial) fun _ _ => ?_
    exact administered_of_setting h s.lendPool s.lendPoolLoan _ rfl idleL
      ⟨rfl, .idle _ _, le_rfl, fun _ _ => rfl⟩
  | setAuthorizedAddress newAuthorizedAddress val =>
    refine Sat.bind (Sat.require fun _ => trivial) fun _ _ => ?_
    exact administered_of_setting h s.lendPool s.lendPoolLoan _ rfl idleL
      ⟨rfl, .idle _ _, le_rfl, fun _ _ => rfl⟩
  | setAssetPrice asset price => exact rest rfl rfl rfl rfl rfl rfl rfl
  | setNFTPrice collection tokenId price => exact rest rfl rfl rfl rfl rfl rfl rfl
  | setLockeyDiscountPercentage discountPercentage => exact rest rfl rfl rfl rfl rfl rfl rfl
  | setLockeyDiscountPercentageOnDebtMarket discountPercentage =>
      exact rest rfl rfl rfl rfl rfl rfl rfl

/-- **Every event.** -/
theorem happen_administered (h : Books D s) (e : Event) : Administered D s (s.happen e) := by
  have idle : ∀ {s' : State}, s.blockTimestamp ≤ s'.blockTimestamp →
      s'.lendPool.reserves = s.lendPool.reserves → s'.lendPoolLoan = s.lendPoolLoan →
      s'.debtMarket = s.debtMarket → s'.uNfts = s.uNfts → s'.debtTokens = s.debtTokens →
      s'.erc20 = s.erc20 → Administered D s s' :=
    fun ht hr hl hm hu hd he => administered_of_rest h ht hr hl hm hu (fun r u => by rw [hd])
      (he ▸ .refl _ _) (he ▸ .refl _ _)
  cases e with
  | tick elapsed => exact idle (Nat.le_add_right _ _) rfl rfl rfl rfl rfl rfl
  | mint asset dst amount =>
    -- nobody loses anything when tokens are issued
    have hflow : ∀ a, Flow a s.erc20 (s.happen (.mint asset dst amount)).erc20 0 0 := by
      refine fun a => ⟨fun r => ?_, fun r c => ?_⟩ <;> by_cases hr : r = asset
      · subst hr
        by_cases ha : a = dst
        · subst ha; simp [State.happen, State.setErc20]
        · simp [State.happen, State.setErc20, ha]
      · simp [State.happen, State.setErc20, hr]
      · subst hr; simp [State.happen, State.setErc20]
      · simp [State.happen, State.setErc20, hr]
    exact administered_of_rest h le_rfl rfl rfl rfl rfl (fun _ _ => rfl) (hflow _) (hflow _)
  | mintNft asset dst tokenId =>
    refine idle (le_of_eq ?_) ?_ ?_ ?_ ?_ ?_ ?_ <;>
      (unfold State.happen; dsimp only; split_ifs <;> rfl)
  | setPricePerShare price => exact idle le_rfl rfl rfl rfl rfl rfl rfl
  | setLockeyBalance holder balance => exact idle le_rfl rfl rfl rfl rfl rfl rfl

end Administer

/-! ## Runs -/

/-- What one step does, whichever it is. -/
structure Stepped (D : Deployment) (s s' : State) (lo ln : Option LoanData)
    (d₀ d₁ : Option DebtMarketListing) : Prop where
  books : Books D s'
  clock : s.blockTimestamp ≤ s'.blockTimestamp
  reserves : ∀ r, (s.lendPool.reserves r).uTokenAddress ≠ 0 →
    (s.lendPool.reserves r).Ops s.blockTimestamp (s'.lendPool.reserves r)
  stamp : ∀ r,
    (s'.lendPool.reserves r).lastUpdateTimestamp = (s.lendPool.reserves r).lastUpdateTimestamp ∨
    (s'.lendPool.reserves r).lastUpdateTimestamp = uint40 s.blockTimestamp
  opened : ∀ r, (s.lendPool.reserves r).uTokenAddress = 0 →
    (s'.lendPool.reserves r).uTokenAddress ≠ 0 →
      (s.lendPool.reserves r).Opens (s'.lendPool.reserves r)
  loans : LoanMove s.lendPoolLoan s'.lendPoolLoan lo ln
  listings : ListingMove s.debtMarket s'.debtMarket d₀ d₁
  pool : Flow D.lendPool s.erc20 s'.erc20 (fun r => weigh (LoanData.escrow r) ln)
    (fun r => weigh (LoanData.escrow r) lo)
  market : Flow D.debtMarket s.erc20 s'.erc20 (fun r => weigh (DebtMarketListing.escrow r) d₁)
    (fun r => weigh (DebtMarketListing.escrow r) d₀)

section Run

variable {D : Deployment} {allowed : State → Action D → Prop} {s s' : State}

theorem Effect.stepped {lo ln : Option LoanData} {d₀ d₁ : Option DebtMarketListing}
    (e : Effect D s s' lo ln d₀ d₁) (h : Books D s) : Stepped D s s' lo ln d₀ d₁ :=
  ⟨e.books h, e.blockTimestamp.ge, fun r _ => e.reserves r, fun r => (e.reserves r).grown.stamp,
    fun r h0 h1 => absurd ((e.reserves r).grown.uTokenAddress.trans h0) h1, e.loans,
      e.listings, e.pool,
    e.market⟩

theorem Administered.stepped (a : Administered D s s') (h : Books D s) :
    Stepped D s s' none none none none :=
  ⟨a.books h, a.clock, fun r hr => .single ((a.reserves r).op hr _),
    fun r => .inl (a.reserves r).lastUpdateTimestamp, fun r => (a.reserves r).opens, a.loans,
    a.listings, a.pool, a.market⟩

/-- **Step lemma.** -/
theorem execute_stepped (h : Books D s) {a : Action D} (ha : s.execute D a = .ok s') :
    ∃ lo ln d₀ d₁, Stepped D s s' lo ln d₀ d₁ := by
  cases a with
  | call sender outside c =>
    obtain ⟨lo, ln, d₀, d₁, he, -⟩ := (perform_spec h outside c).ok ha
    exact ⟨lo, ln, d₀, d₁, he.stepped h⟩
  | configure setting =>
    exact ⟨_, _, _, _, ((configure_spec h setting).ok ha).stepped h⟩
  | event e =>
    obtain rfl := Except.ok.inj ha
    exact ⟨_, _, _, _, (happen_administered h e).stepped h⟩

/-- A fresh deployment has its books in order. -/
theorem Genesis.books (g : Genesis D s) : Books D s where
  loans := by
    rw [g.loans]
    exact ⟨.blank _ (Finset.Ico_self 1) (fun _ => rfl) (fun _ => rfl) fun _ _ => rfl,
      fun _ _ => rfl, le_rfl, fun _ => ⟨fun _ => ⟨rfl, rfl, rfl⟩,
        fun h => by rcases h with h | h <;> cases h⟩⟩
  listings := by
    rw [g.listings]
    exact ⟨.blank _ (Finset.Ico_self 1) (fun _ => rfl) (fun _ => rfl) fun _ _ => rfl,
      fun _ _ => rfl⟩
  matched k d hd := by
    rw [g.listings, held_eq_some] at hd
    exact absurd rfl hd.1
  receipts a t := by
    rw [g.receipts, held_eq_none.mpr (by rw [g.loans]; rfl)]
    rfl
  indices r hr := by
    rw [g.reserves] at hr
    exact absurd rfl hr
  stamps r := by
    rw [g.reserves]
    exact ⟨Nat.zero_le _, Nat.two_pow_pos 40⟩
  proxies r hr := by
    rw [g.reserves] at hr
    exact absurd rfl hr
  poolSolvent r := by
    rw [g.loans, total_eq_zero (Finset.Ico_self 1)]
    exact Nat.zero_le _
  marketSolvent r := by
    rw [g.listings, total_eq_zero (Finset.Ico_self 1)]
    exact Nat.zero_le _
  poolGuarded := g.poolGuarded
  marketGuarded := g.marketGuarded

/-- **The books are in order in every reachable state.** -/
theorem Reachable.books (h : Reachable D allowed s) : Books D s := by
  refine Machine.Reachable.invariant (fun t (g : Genesis D t) => g.books)
    (fun t t' _ hb hst => ?_) h
  obtain ⟨a, -, ha⟩ := hst
  obtain ⟨lo, ln, d₀, d₁, hstepped⟩ := execute_stepped hb ha
  exact hstepped.books

/-- One step from a reachable state. -/
theorem Reachable.stepped (h : Reachable D allowed s) (hst : Step D allowed s s') :
    ∃ lo ln d₀ d₁, Stepped D s s' lo ln d₀ d₁ := by
  obtain ⟨a, -, ha⟩ := hst
  exact execute_stepped h.books ha

end Run

end Unlockd

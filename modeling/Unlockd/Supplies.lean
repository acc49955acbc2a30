/-
What every operation does to the uTokens.

Only three things touch them: a reserve that is brought up to date mints to its treasury, a deposit
mints to the account it is made for, and a withdrawal burns what the caller has. So the total that a
uToken keeps is always the sum of its balances, and whoever does not withdraw has no less after a
call than before.
-/
import Unlockd.Rates
import Unlockd.Lending
import Unlockd.Suppliers

set_option autoImplicit false

namespace Unlockd

open Outcome Tally

/-! ## Reserves but for their rates -/

/-- Every reserve is as it was, but for the two rates of one. -/
def RatesApart (asset : Address) (Rs Rs' : Address → ReserveData) : Prop :=
  (∀ r, r ≠ asset → Rs' r = Rs r) ∧ ∃ liquidityRate borrowRate, Rs' asset = { Rs asset with
    currentLiquidityRate := liquidityRate, currentVariableBorrowRate := borrowRate }

section RatesApart

variable {asset : Address} {Rs Rs' Rs'' : Address → ReserveData}

theorem RatesApart.refl (Rs : Address → ReserveData) : RatesApart asset Rs Rs :=
  ⟨fun _ _ => rfl, _, _, rfl⟩

theorem RatesApart.trans (h : RatesApart asset Rs Rs') (h' : RatesApart asset Rs' Rs'') :
    RatesApart asset Rs Rs'' := by
  obtain ⟨hother, x, y, hr⟩ := h
  obtain ⟨hother', x', y', hr'⟩ := h'
  exact ⟨fun r hne => (hother' r hne).trans (hother r hne), x', y', by rw [hr', hr]⟩

theorem State.Priced.ratesApart {s : State} {uToken : Address} {added taken : ℕ}
    (h : s.Priced asset uToken added taken Rs) : RatesApart asset s.lendPool.reserves Rs := by
  obtain ⟨hother, rates, -, hR⟩ := h
  exact ⟨hother, _, _, ReserveData.setRates_eq hR⟩

end RatesApart

/-! ## What an operation does -/

/-- One reserve has been brought up to date; otherwise nothing but the rates of the one under
`priced` has changed in the reserves, and nothing in the uTokens. -/
def State.Accrued (s : State) (asset priced : Address) (s' : State) : Prop :=
  ∃ s₁, s.updateState asset = .ok s₁ ∧ s'.uTokens = s₁.uTokens ∧
    RatesApart priced s₁.lendPool.reserves s'.lendPool.reserves

/-- A call of `sender` neither deposits nor withdraws. -/
def Call.Still {D : Deployment} (s : State) (sender : Address) (c : Call D) : Prop :=
  ∀ r, c.deposits r = 0 ∧ c.withdraws s sender r = 0

/-- The uTokens and the reserves after a call of `sender`. A sale brings the reserve up to date that
the caller names, and prices that of the loan. -/
inductive SupplyTurned {D : Deployment} (s : State) (sender : Address) (c : Call D) (s' : State) :
    Prop
  | priced (asset : Address) (still : c.Still s sender) (uTokens : s'.uTokens = s.uTokens)
      (reserves : RatesApart asset s.lendPool.reserves s'.lendPool.reserves)
  | accrued (asset priced : Address) (still : c.Still s sender) (h : s.Accrued asset priced s')
  | deposited (asset onBehalfOf : Address) (amount : ℕ) (s₁ : State) (u : UToken)
      (hc : c = .deposit asset amount onBehalfOf) (updated : s.updateState asset = .ok s₁)
      (minted : (s₁.uTokens asset).mint onBehalfOf amount
        (s₁.lendPool.reserves asset).liquidityIndex = .ok u)
      (uTokens : s'.uTokens = Function.update s₁.uTokens asset u)
      (reserves : RatesApart asset s₁.lendPool.reserves s'.lendPool.reserves)
  | withdrawn (asset receiver : Address) (amount m : ℕ) (s₁ : State) (u : UToken)
      (hc : c = .withdraw asset amount receiver) (updated : s.updateState asset = .ok s₁)
      (scaled : rayDiv (c.withdraws s sender asset)
        (s₁.lendPool.reserves asset).liquidityIndex = .ok m)
      (burnt : (s₁.uTokens asset)._burn sender m = .ok u)
      (uTokens : s'.uTokens = Function.update s₁.uTokens asset u)
      (reserves : RatesApart asset s₁.lendPool.reserves s'.lendPool.reserves)

namespace State

variable {D : Deployment} {s s' : State}
  {asset priced nftAsset initiator sender onBehalfOf receiver : Address} {amount tokenId : ℕ}

theorem executeDeposit_supplies :
    Returns (s.executeDeposit D sender asset amount onBehalfOf)
      (SupplyTurned s sender (.deposit (D := D) asset amount onBehalfOf)) := by
  refine Returns.check fun _ => Returns.check fun _ => Returns.step fun _ _ => ?_
  refine Returns.step fun s₁ h₁ => ?_
  refine Sat.bind updateInterestRates_spec.returns fun s₂ h₂ => ?_
  obtain ⟨Rs, rfl, hpriced⟩ := h₂
  refine Sat.bind safeTransferFrom_posted fun s₃ h₃ => ?_
  obtain ⟨E, rfl, -⟩ := h₃
  refine Returns.step fun s₄ h₄ => ?_
  obtain ⟨u, hu, h₄⟩ := bind_eq_ok.mp h₄
  obtain rfl := Except.ok.inj h₄
  refine depositReserves_posted.imp fun s₅ h₅ => ?_
  obtain ⟨E', rfl, -⟩ := h₅
  -- the rates that were set in between leave the index
  obtain ⟨-, x, y, hR⟩ := hpriced.ratesApart
  have hminted : (s₁.uTokens asset).mint onBehalfOf amount (Rs asset).liquidityIndex = .ok u := hu
  rw [hR] at hminted
  exact .deposited asset onBehalfOf amount s₁ u rfl h₁ hminted rfl hpriced.ratesApart

theorem executeWithdraw_supplies :
    Returns (s.executeWithdraw D sender asset amount receiver)
      (fun p => SupplyTurned s sender (.withdraw (D := D) asset amount receiver) p.1) := by
  have hspec : Returns (s.executeWithdraw D sender asset amount receiver) (fun p =>
      ∃ m s₁ u, s.updateState asset = .ok s₁ ∧
        rayDiv p.2 (s₁.lendPool.reserves asset).liquidityIndex = .ok m ∧
        (s₁.uTokens asset)._burn sender m = .ok u ∧
        p.1.uTokens = Function.update s₁.uTokens asset u ∧
        RatesApart asset s₁.lendPool.reserves p.1.lendPool.reserves) := by
    refine Returns.check fun _ => Returns.check fun _ => Returns.step fun b _ => ?_
    refine Returns.step fun _ _ => Returns.step fun s₁ h₁ => ?_
    refine Sat.bind updateInterestRates_spec.returns fun s₂ h₂ => ?_
    obtain ⟨Rs, rfl, hpriced⟩ := h₂
    refine Sat.bind withdrawReserves_posted fun p h₃ => ?_
    obtain ⟨s₃, value⟩ := p
    obtain ⟨E, n, hs₃, -⟩ := h₃
    obtain rfl := hs₃
    refine Returns.step fun s₄ h₄ => ?_
    obtain ⟨m, hm, h₄⟩ := bind_eq_ok.mp h₄
    obtain ⟨-, h₄⟩ := require_bind_eq_ok.mp h₄
    obtain ⟨u, hu, h₄⟩ := bind_eq_ok.mp h₄
    obtain ⟨e, -, h₄⟩ := bind_eq_ok.mp h₄
    obtain rfl := Except.ok.inj h₄
    obtain ⟨-, x, y, hR⟩ := hpriced.ratesApart
    have hscaled : rayDiv (if amount = maxUint256 then b else amount) (Rs asset).liquidityIndex
      = .ok m := hm
    rw [hR] at hscaled
    exact ⟨m, s₁, u, h₁, hscaled, hu, rfl, hpriced.ratesApart⟩
  refine ((Sat.returned _).and hspec).returns.imp fun p hp => ?_
  obtain ⟨hok, m, s₁, u, h₁, hscaled, hu, hU, hR⟩ := hp
  have hpaid : (Call.withdraw (D := D) asset amount receiver).withdraws s sender asset = p.2 := by
    unfold Call.withdraws
    simp only [if_true, hok]
  exact .withdrawn asset receiver amount m s₁ u rfl h₁ (by rw [hpaid]; exact hscaled) hu hU hR

theorem _borrow_supplies :
    Returns (s._borrow D initiator asset amount nftAsset tokenId onBehalfOf)
      (s.Accrued asset asset) := by
  refine Returns.check fun _ => Returns.step fun s₁ h₁ => ?_
  refine Returns.step fun _ _ => Returns.step fun _ _ => Returns.check fun _ => ?_
  refine Sat.bind borrowOnLoan_posted fun s₂ h₂ => ?_
  obtain ⟨L, M, E, C, V, rfl, -⟩ := h₂
  refine Sat.bind mintDebt_posted fun s₃ h₃ => ?_
  obtain ⟨T, rfl, -⟩ := h₃
  refine Sat.bind updateInterestRates_spec.returns fun s₄ h₄ => ?_
  obtain ⟨Rs, rfl, hpriced⟩ := h₄
  refine Sat.bind withdrawReserves_posted fun p h₅ => ?_
  obtain ⟨s₅, value⟩ := p
  obtain ⟨E', n, rfl, -⟩ := h₅
  refine Sat.imp safeTransfer_posted fun s₆ h₆ => ?_
  obtain ⟨E'', rfl, -⟩ := h₆
  exact ⟨s₁, h₁, rfl, hpriced.ratesApart⟩

theorem _repay_supplies : Returns (s._repay D initiator nftAsset tokenId amount)
    (fun p => s.Accrued (s.loanOn nftAsset tokenId).reserveAsset
      (s.loanOn nftAsset tokenId).reserveAsset p.1) := by
  refine Returns.check fun _ => Returns.step fun s₁ h₁ => Returns.step fun b _ => ?_
  refine Returns.step fun _ _ => ?_
  refine Sat.bind cancelDebtListingIfExists_posted fun s₂ h₂ => ?_
  obtain ⟨M, E, rfl, -⟩ := h₂
  refine Sat.bind repayOnLoan_stored fun s₃ h₃ => ?_
  obtain ⟨L, C, N, rfl, -⟩ := h₃
  refine Sat.bind burnDebt_posted fun s₄ h₄ => ?_
  obtain ⟨T, rfl, -⟩ := h₄
  refine Sat.bind updateInterestRates_spec.returns fun s₅ h₅ => ?_
  obtain ⟨Rs, rfl, hpriced⟩ := h₅
  refine Sat.bind safeTransferFrom_posted fun s₆ h₆ => ?_
  obtain ⟨E', rfl, -⟩ := h₆
  refine Sat.bind depositReserves_posted fun s₇ h₇ => ?_
  obtain ⟨E'', rfl, -⟩ := h₇
  refine Sat.bind returnNft_owner fun s₈ h₈ => ?_
  obtain ⟨C', rfl, -⟩ := h₈
  exact ⟨s₁, h₁, rfl, hpriced.ratesApart⟩

theorem executeAuction_supplies {bidPrice : ℕ} :
    Returns (s.executeAuction D initiator nftAsset tokenId bidPrice onBehalfOf)
      (s.Accrued (s.loanOn nftAsset tokenId).reserveAsset
      (s.loanOn nftAsset tokenId).reserveAsset) := by
  refine Returns.check fun _ => Returns.check fun _ => Returns.check fun _ => ?_
  refine Returns.step fun _ _ => Returns.step fun s₁ h₁ => ?_
  refine Returns.step fun prices _ => Returns.step fun _ _ => Returns.step fun L _ => ?_
  refine Sat.bind safeTransferFrom_posted fun s₂ h₂ => ?_
  obtain ⟨E, rfl, -⟩ := h₂
  refine Sat.bind (applyIf_posted safeTransfer_posted) fun s₃ h₃ => ?_
  obtain ⟨E', rfl, -⟩ := h₃
  refine updateInterestRates_spec.returns.imp fun s₄ h₄ => ?_
  obtain ⟨Rs, rfl, hpriced⟩ := h₄
  exact ⟨s₁, h₁, rfl, hpriced.ratesApart⟩

theorem executeRedeem_supplies {bidFine : ℕ} :
    Returns (s.executeRedeem D initiator nftAsset tokenId amount bidFine)
      (fun p => s.Accrued (s.loanOn nftAsset tokenId).reserveAsset
      (s.loanOn nftAsset tokenId).reserveAsset p.1) := by
  refine Returns.check fun _ => Returns.step fun _ _ => Returns.check fun _ => ?_
  refine Returns.step fun s₁ h₁ => Returns.step fun fine _ => Returns.step fun L _ => ?_
  refine Sat.bind burnDebt_posted fun s₂ h₂ => ?_
  obtain ⟨T, rfl, -⟩ := h₂
  refine Sat.bind cancelDebtListingIfExists_posted fun s₃ h₃ => ?_
  obtain ⟨M, E, rfl, -⟩ := h₃
  refine Sat.bind updateInterestRates_spec.returns fun s₄ h₄ => ?_
  obtain ⟨Rs, rfl, hpriced⟩ := h₄
  refine Sat.bind safeTransferFrom_posted fun s₅ h₅ => ?_
  obtain ⟨E₁, rfl, -⟩ := h₅
  refine Sat.bind depositReserves_posted fun s₆ h₆ => ?_
  obtain ⟨E₂, rfl, -⟩ := h₆
  refine Sat.bind settleRedeem_posted fun s₇ h₇ => ?_
  obtain ⟨E₃, rfl, -⟩ := h₇
  exact ⟨s₁, h₁, rfl, hpriced.ratesApart⟩

/-- Delivering a token touches nothing but its collection. -/
theorem deliverNft_posted {reserve dst : Address} :
    Returns (s.deliverNft D nftAsset reserve dst tokenId) (fun s' => ∃ C, s' = s.withErc721 C) :=
  (deliverNft_spec D).returns

theorem executeLiquidate_supplies :
    Returns (s.executeLiquidate D initiator nftAsset tokenId amount)
      (fun p => s.Accrued (s.loanOn nftAsset tokenId).reserveAsset
      (s.loanOn nftAsset tokenId).reserveAsset p.1) := by
  refine Returns.check fun _ => Returns.step fun _ _ => Returns.check fun _ => ?_
  refine Returns.step fun s₁ h₁ => Returns.step fun prices _ => Returns.check fun _ => ?_
  refine Sat.bind closeLoan_stored fun s₂ h₂ => ?_
  obtain ⟨L, C, V, rfl, -⟩ := h₂
  refine Sat.bind burnDebt_posted fun s₃ h₃ => ?_
  obtain ⟨T, rfl, -⟩ := h₃
  refine Sat.bind cancelDebtListingIfExists_posted fun s₄ h₄ => ?_
  obtain ⟨M, E, rfl, -⟩ := h₄
  refine Sat.bind updateInterestRates_spec.returns fun s₅ h₅ => ?_
  obtain ⟨Rs, rfl, hpriced⟩ := h₅
  refine Sat.bind (applyIf_posted safeTransferFrom_posted) fun s₆ h₆ => ?_
  obtain ⟨E₁, rfl, -⟩ := h₆
  refine Sat.bind safeTransfer_posted fun s₇ h₇ => ?_
  obtain ⟨E₂, rfl, -⟩ := h₇
  refine Sat.bind depositReserves_posted fun s₈ h₈ => ?_
  obtain ⟨E₃, rfl, -⟩ := h₈
  refine Sat.bind (applyIf_posted safeTransfer_posted) fun s₉ h₉ => ?_
  obtain ⟨E₄, rfl, -⟩ := h₉
  refine Sat.bind deliverNft_posted fun s₁₀ h₁₀ => ?_
  obtain ⟨C', rfl⟩ := h₁₀
  exact ⟨s₁, h₁, rfl, hpriced.ratesApart⟩

theorem executeBuyout_supplies : Returns (s.executeBuyout D initiator nftAsset tokenId onBehalfOf)
    (s.Accrued (s.loanOn nftAsset tokenId).reserveAsset
      (s.loanOn nftAsset tokenId).reserveAsset) := by
  refine Returns.check fun _ => Returns.check fun _ => Returns.step fun nftPrice _ => ?_
  refine Returns.step fun s₁ h₁ => Returns.step fun health _ => Returns.check fun _ => ?_
  refine Returns.step fun prices _ => Returns.step fun fine _ => Returns.step fun _ _ => ?_
  refine Returns.step fun discounted _ => Sat.bind closeLoan_stored fun s₂ h₂ => ?_
  obtain ⟨L, C, V, rfl, -⟩ := h₂
  refine Sat.bind burnDebt_posted fun s₃ h₃ => ?_
  obtain ⟨T, rfl, -⟩ := h₃
  refine Sat.bind cancelDebtListingIfExists_posted fun s₄ h₄ => ?_
  obtain ⟨M, E, rfl, -⟩ := h₄
  refine Sat.bind updateInterestRates_spec.returns fun s₅ h₅ => ?_
  obtain ⟨Rs, rfl, hpriced⟩ := h₅
  refine Sat.bind safeTransferFrom_posted fun s₆ h₆ => ?_
  obtain ⟨E₁, rfl, -⟩ := h₆
  refine Sat.bind safeTransfer_posted fun s₇ h₇ => ?_
  obtain ⟨E₂, rfl, -⟩ := h₇
  refine Sat.bind depositReserves_posted fun s₈ h₈ => ?_
  obtain ⟨E₃, rfl, -⟩ := h₈
  refine Returns.step fun remainAmount _ => Sat.bind settleBuyout_posted fun p h₉ => ?_
  obtain ⟨s₉, left⟩ := p
  obtain ⟨-, E₄, rfl, -⟩ := h₉
  refine Sat.bind (applyIf_posted safeTransfer_posted) fun s₁₀ h₁₀ => ?_
  obtain ⟨E₅, rfl, -⟩ := h₁₀
  refine Sat.imp deliverNft_posted fun s₁₁ h₁₁ => ?_
  obtain ⟨C', rfl⟩ := h₁₁
  exact ⟨s₁, h₁, rfl, hpriced.ratesApart⟩

/-- What comes after a reserve was brought up to date. -/
theorem Accrued.then (h : s.Accrued asset priced s') {s'' : State}
    (hU : s''.uTokens = s'.uTokens)
    (hR : RatesApart priced s'.lendPool.reserves s''.lendPool.reserves) :
    s.Accrued asset priced s'' := by
  obtain ⟨s₁, h₁, hU₁, hR₁⟩ := h
  exact ⟨s₁, h₁, hU.trans hU₁, hR₁.trans hR⟩

/-- A payment leaves the pool and the uTokens. -/
theorem Accrued.paid (h : s.Accrued asset priced s') (E : Address → Erc20) :
    s.Accrued asset priced (s'.withErc20 E) :=
  h.then rfl (.refl _)

theorem updateReserveState_supplies (priced : Address) :
    Returns (s.updateReserveState asset) (s.Accrued asset priced) :=
  Returns.check fun _ => Returns.check fun _ => (Sat.returned _).imp fun s₁ h₁ =>
    ⟨s₁, h₁, rfl, .refl _⟩

theorem _transferDebt_supplies : Returns (s._transferDebt D nftAsset tokenId onBehalfOf)
    (s.Accrued (s.loanOn nftAsset tokenId).reserveAsset
      (s.loanOn nftAsset tokenId).reserveAsset) := by
  refine Sat.bind (updateReserveState_supplies (s.loanOn nftAsset tokenId).reserveAsset)
    fun s₁ h₁ => ?_
  refine Returns.step fun b _ => Returns.check fun _ => ?_
  refine Sat.bind burnDebt_posted fun s₂ h₂ => ?_
  obtain ⟨T₁, rfl, -⟩ := h₂
  refine Sat.bind mintDebt_posted fun s₃ h₃ => ?_
  obtain ⟨T, rfl, -⟩ := h₃
  refine Sat.bind reMintUNFT_stored fun s₄ h₄ => ?_
  obtain ⟨L, C, V, rfl, -⟩ := h₄
  refine Sat.bind updateReserveInterestRates_spec.returns fun s₅ h₅ => ?_
  obtain ⟨Rs, rfl, hpriced⟩ := h₅
  exact Returns.step fun M _ => h₁.then rfl hpriced.ratesApart

theorem buy_supplies : Returns (s.buy D sender nftAsset tokenId onBehalfOf amount)
    (s.Accrued (s.loanOn nftAsset tokenId).reserveAsset
      (s.loanOn nftAsset tokenId).reserveAsset) := by
  refine Returns.check fun _ => Returns.step fun _ _ => Returns.check fun _ => ?_
  refine Returns.check fun _ => Sat.bind _transferDebt_supplies fun s₁ h₁ => ?_
  refine Returns.step fun price _ => Returns.check fun _ => ?_
  refine Sat.bind safeTransferFrom_posted fun s₂ h₂ => ?_
  obtain ⟨E, rfl, -⟩ := h₂
  refine Sat.imp (applyIf_posted safeTransferFrom_posted) fun s₃ h₃ => ?_
  obtain ⟨E', rfl, -⟩ := h₃
  exact (h₁.paid E).paid E'

/-- A bid that does not reach the price of the listing leaves the pool alone. -/
theorem bid_supplies {bidPrice : ℕ} :
    Returns (s.bid D sender nftAsset tokenId bidPrice onBehalfOf)
      (fun s' => (s'.uTokens = s.uTokens ∧ s'.lendPool = s.lendPool) ∨
        s.Accrued (s.loanOn nftAsset tokenId).reserveAsset
          (s.loanOn nftAsset tokenId).reserveAsset s') := by
  refine Returns.check fun _ => Returns.step fun _ _ => Returns.step fun sellPrice _ => ?_
  refine Returns.check fun _ => Returns.check fun _ => Returns.check fun _ => ?_
  refine Returns.check fun _ => ?_
  refine Sat.bind (P := fun s₁ => (s₁.uTokens = s.uTokens ∧ s₁.lendPool = s.lendPool) ∨
    s.Accrued (s.loanOn nftAsset tokenId).reserveAsset (s.loanOn nftAsset tokenId).reserveAsset
      s₁) ?_ fun s₁ h₁ => ?_
  · refine Sat.ite (fun _ => _transferDebt_supplies.imp fun _ => .inr) fun _ => ?_
    exact Returns.step fun _ _ => Returns.check fun _ => .inl ⟨rfl, rfl⟩
  refine Sat.bind safeTransferFrom_posted fun s₂ h₂ => ?_
  obtain ⟨E, rfl, -⟩ := h₂
  refine Sat.imp (applyIf_posted safeTransferFrom_posted) fun s₃ h₃ => ?_
  obtain ⟨E', rfl, -⟩ := h₃
  exact h₁.imp id fun h₁ => h₁.then rfl (.refl _)

/-- Bringing a reserve up to date does not look at the market. -/
theorem Accrued.ofMarket {M : DebtMarket} (h : (s.setDebtMarket M).Accrued asset priced s') :
    s.Accrued asset priced s' := by
  obtain ⟨s₁, h₁, hU, hR⟩ := h
  obtain ⟨R, hR₁, h₁⟩ := bind_eq_ok.mp h₁
  obtain ⟨n, hn, h₁⟩ := bind_eq_ok.mp h₁
  obtain ⟨u, hu, h₁⟩ := bind_eq_ok.mp h₁
  obtain rfl := Except.ok.inj h₁
  exact ⟨_, bind_eq_ok.mpr ⟨R, hR₁, bind_eq_ok.mpr ⟨n, hn, bind_eq_ok.mpr ⟨u, hu, rfl⟩⟩⟩, hU, hR⟩

theorem claim_supplies : Returns (s.claim D nftAsset tokenId onBehalfOf)
    (s.Accrued (s.loanOn nftAsset tokenId).reserveAsset
      (s.loanOn nftAsset tokenId).reserveAsset) := by
  refine Returns.check fun _ => Returns.step fun _ _ => Returns.check fun _ => ?_
  refine Returns.check fun _ => Returns.check fun _ => ?_
  refine Sat.bind _transferDebt_supplies fun s₁ h₁ => ?_
  refine Sat.imp safeTransfer_posted fun s₂ h₂ => ?_
  obtain ⟨E, rfl, -⟩ := h₂
  exact (h₁.paid E).ofMarket

theorem sellNft_supplies {module : Address} {sale : Sale D} :
    Returns (s.sellNft D nftAsset tokenId module sale)
      (fun s' => s'.uTokens = s.uTokens ∧ s'.lendPool = s.lendPool) := by
  refine sellNft_posted.imp fun s' hs' => ?_
  obtain ⟨E, C, rfl, -⟩ := hs'
  exact ⟨rfl, rfl⟩

/-- A sale on an outside market brings up to date the reserve that the caller names, and prices that
of the loan. -/
theorem liquidateReservoir_supplies {reserveAsset module : Address} {sale : Sale D}
    {expectedLiquidateAmount : ℕ} :
    Returns (s.liquidateReservoir D sender nftAsset reserveAsset tokenId module sale
      expectedLiquidateAmount)
      (s.Accrued reserveAsset (s.loanOn nftAsset tokenId).reserveAsset) := by
  refine Returns.check fun _ => Returns.check fun _ => ?_
  refine Sat.bind ((updateReserveState_supplies (s.loanOn nftAsset tokenId).reserveAsset).and
    updateReserveState_spec).returns fun s₁ h₁ => ?_
  obtain ⟨h₁, -, Rs₁, U, rfl, -⟩ := h₁
  refine Returns.step fun _ _ => Returns.step fun _ _ => Returns.step fun auction _ => ?_
  refine Returns.step fun b _ => Sat.bind closeLoan_stored fun s₂ h₂ => ?_
  obtain ⟨L, C, V, rfl, -⟩ := h₂
  refine Sat.bind sellNft_supplies fun s₃ h₃ => ?_
  obtain ⟨hU₃, hP₃⟩ := h₃
  refine Returns.step fun gained _ => Returns.check fun _ => ?_
  refine Sat.bind burnDebt_posted fun s₄ h₄ => ?_
  obtain ⟨T, rfl, -⟩ := h₄
  refine Sat.bind cancelDebtListingIfExists_posted fun s₅ h₅ => ?_
  obtain ⟨M, E, rfl, -⟩ := h₅
  refine Sat.bind updateReserveInterestRates_spec.returns fun s₆ h₆ => ?_
  obtain ⟨Rs, rfl, hpriced⟩ := h₆
  refine Sat.imp _settleLiquidation_posted fun s₇ h₇ => ?_
  obtain ⟨E', rfl, -⟩ := h₇
  refine h₁.then hU₃ ?_
  have hsame : s₃.lendPool.reserves = Rs₁ := congrArg LendPool.reserves hP₃
  show RatesApart _ Rs₁ _
  rw [← hsame]
  exact hpriced.ratesApart

end State

section Calls

variable {D : Deployment} {s s' : State} {sender : Address}

/-- **What every call does to the uTokens.** -/
theorem perform_supplies (c : Call D) :
    Returns (s.perform D sender c) (SupplyTurned s sender c) := by
  have accrues {x : Except Error State} {asset priced : Address} (still : c.Still s sender)
      (hx : Returns x (s.Accrued asset priced)) : Returns x (SupplyTurned s sender c) :=
    hx.imp fun _ h => .accrued asset priced still h
  have leaves {s' : State} (still : c.Still s sender) (hU : s'.uTokens = s.uTokens)
      (hR : s'.lendPool.reserves = s.lendPool.reserves) : SupplyTurned s sender c s' :=
    .priced 0 still hU (hR ▸ .refl _)
  cases c with
  | deposit asset amount onBehalfOf =>
    exact Returns.check fun _ => State.executeDeposit_supplies
  | withdraw asset amount receiver =>
    exact Returns.check fun _ => State.fst_spec State.executeWithdraw_supplies
  | borrow => exact accrues (fun _ => ⟨rfl, rfl⟩) (Returns.check fun _ => State._borrow_supplies)
  | repay =>
    exact accrues (fun _ => ⟨rfl, rfl⟩)
      (Returns.check fun _ => State.fst_spec State._repay_supplies)
  | auction =>
    exact accrues (fun _ => ⟨rfl, rfl⟩) (Returns.check fun _ => State.executeAuction_supplies)
  | redeem =>
    exact accrues (fun _ => ⟨rfl, rfl⟩)
      (Returns.check fun _ => State.fst_spec State.executeRedeem_supplies)
  | liquidate =>
    exact accrues (fun _ => ⟨rfl, rfl⟩)
      (Returns.check fun _ => State.fst_spec State.executeLiquidate_supplies)
  | buyout =>
    exact accrues (fun _ => ⟨rfl, rfl⟩) (Returns.check fun _ => State.executeBuyout_supplies)
  | updateReserveState asset =>
    exact accrues (fun _ => ⟨rfl, rfl⟩) (State.updateReserveState_supplies asset)
  | buy => exact accrues (fun _ => ⟨rfl, rfl⟩) State.buy_supplies
  | claim => exact accrues (fun _ => ⟨rfl, rfl⟩) State.claim_supplies
  | liquidateReservoir =>
    exact accrues (fun _ => ⟨rfl, rfl⟩) State.liquidateReservoir_supplies
  | bid nftAsset tokenId bidPrice onBehalfOf =>
    refine State.bid_supplies.imp fun s' hs' => ?_
    exact hs'.elim (fun h => leaves (fun _ => ⟨rfl, rfl⟩) h.1 (by rw [h.2])) fun h =>
      .accrued _ _ (fun _ => ⟨rfl, rfl⟩) h
  | updateReserveInterestRates asset =>
    refine State.updateReserveInterestRates_spec.returns.imp fun s' hs' => ?_
    obtain ⟨Rs, rfl, hpriced⟩ := hs'
    exact .priced asset (fun _ => ⟨rfl, rfl⟩) rfl hpriced.ratesApart
  | transferBidAmount reserveAsset bidder bidAmount =>
    refine Returns.check fun _ => Sat.imp State.safeTransfer_posted fun s' hs' => ?_
    obtain ⟨E, rfl, -⟩ := hs'
    exact leaves (fun _ => ⟨rfl, rfl⟩) rfl rfl
  | createDebtListing =>
    refine Returns.check fun _ => Returns.check fun _ => Returns.check fun _ => ?_
    exact Returns.check fun _ => Returns.step fun M _ => leaves (fun _ => ⟨rfl, rfl⟩) rfl rfl
  | cancelDebtListing =>
    refine Sat.imp State.cancelDebtListing_posted fun s' hs' => ?_
    obtain ⟨M, E, rfl, -⟩ := hs'
    exact leaves (fun _ => ⟨rfl, rfl⟩) rfl rfl
  | transfer asset dst amount =>
    refine Sat.imp State.safeTransfer_posted fun s' hs' => ?_
    obtain ⟨E, rfl, -⟩ := hs'
    exact leaves (fun _ => ⟨rfl, rfl⟩) rfl rfl
  | transferFrom asset src dst amount =>
    refine Sat.imp State.safeTransferFrom_posted fun s' hs' => ?_
    obtain ⟨E, rfl, -⟩ := hs'
    exact leaves (fun _ => ⟨rfl, rfl⟩) rfl rfl
  | burn => exact Returns.check fun _ => leaves (fun _ => ⟨rfl, rfl⟩) rfl rfl
  | transferNft => exact Returns.step fun _ _ => leaves (fun _ => ⟨rfl, rfl⟩) rfl rfl
  | approveNft => exact Returns.check fun _ => leaves (fun _ => ⟨rfl, rfl⟩) rfl rfl
  | approveDelegation | approve | setApprovalForAll =>
    exact leaves (fun _ => ⟨rfl, rfl⟩) rfl rfl

/-- No event touches the uTokens. -/
theorem happen_uTokens (e : Event) : (s.happen e).uTokens = s.uTokens := by
  cases e with
  | mintNft asset dst tokenId =>
    unfold State.happen
    dsimp only
    split <;> rfl
  | _ => rfl

end Calls

/-! ## Totals and balances -/

/-- A total that was the sum of the balances still is, and nobody that is spared has less. -/
structure UToken.Kept (spared : Address → Prop) (u u' : UToken) : Prop where
  adds : AddsUp u.scaledTotalSupply u.scaledBalanceOf →
    AddsUp u'.scaledTotalSupply u'.scaledBalanceOf
  spares : ∀ a, spared a → u.scaledBalanceOf a ≤ u'.scaledBalanceOf a

namespace UToken

variable {spared : Address → Prop} {u u' u'' : UToken} {account src dst : Address}
  {amount index n : ℕ}

theorem Kept.refl (u : UToken) : Kept spared u u := ⟨id, fun _ _ => le_rfl⟩

theorem Kept.ofEq (hb : u'.scaledBalanceOf = u.scaledBalanceOf)
    (ht : u'.scaledTotalSupply = u.scaledTotalSupply) : Kept spared u u' := by
  refine ⟨fun h => ?_, fun a _ => by rw [hb]⟩
  rw [hb, ht]
  exact h

theorem Kept.trans (h : Kept spared u u') (h' : Kept spared u' u'') : Kept spared u u'' :=
  ⟨h'.adds ∘ h.adds, fun a ha => (h.spares a ha).trans (h'.spares a ha)⟩

/-- Nobody loses by what is minted. -/
theorem _mint_kept : Returns (u._mint account n) (Kept spared u) :=
  Returns.check fun _ => ⟨fun h => h.credit account n, fun a _ => le_credit _ account n a⟩

theorem mint_kept : Returns (u.mint account amount index) (Kept spared u) :=
  Returns.step fun _ _ => Returns.check fun _ => _mint_kept

theorem mintToTreasury_kept : Returns (u.mintToTreasury amount index) (Kept spared u) := by
  unfold mintToTreasury
  split
  · exact .refl u
  · exact Returns.step fun _ _ => _mint_kept

/-- What is burnt is lost by the account alone. -/
theorem _burn_kept : Returns (u._burn account n) (Kept (· ≠ account) u) :=
  Returns.check fun _ => Returns.check fun hle =>
    ⟨fun h => h.debit hle, fun _ ha => (Function.update_of_ne ha _ _).ge⟩

/-- What is transferred is lost by the sender alone. -/
theorem _transfer_kept : Returns (u._transfer src dst n) (Kept (· ≠ src) u) :=
  Returns.check fun _ => Returns.check fun hle => ⟨fun h => h.moved hle,
    fun a ha => (Function.update_of_ne ha _ _).ge.trans (le_credit _ dst n a)⟩

end UToken

/-- The account whose uTokens of reserve `r` a call of `sender` may burn. -/
def Call.burnsOf {D : Deployment} (sender r a : Address) (c : Call D) : Prop :=
  a = sender ∧ ∃ amount receiver, c = .withdraw r amount receiver

section Kept

variable {D : Deployment} {s s' : State} {sender asset : Address} {spared : Address → Prop}

/-- Bringing a reserve up to date takes from nobody. -/
theorem State.updateState_kept (h : s.updateState asset = .ok s') (r : Address) :
    UToken.Kept spared (s.uTokens r) (s'.uTokens r) := by
  obtain ⟨R, -, h⟩ := bind_eq_ok.mp h
  obtain ⟨n, -, h⟩ := bind_eq_ok.mp h
  obtain ⟨u, hu, h⟩ := bind_eq_ok.mp h
  obtain rfl := Except.ok.inj h
  have hkept : UToken.Kept spared (s.uTokens asset) u := UToken.mintToTreasury_kept.ok hu
  show UToken.Kept spared _ (Function.update s.uTokens asset u r)
  by_cases hr : r = asset
  · subst hr
    rw [Function.update_self]
    exact hkept
  · rw [Function.update_of_ne hr]
    exact .refl _

/-- **What a call keeps.** Only a withdrawal takes uTokens away, and only from who calls it. -/
theorem SupplyTurned.kept {c : Call D} (h : SupplyTurned s sender c s') (r : Address) :
    UToken.Kept (fun a => ¬ c.burnsOf sender r a) (s.uTokens r) (s'.uTokens r) := by
  cases h with
  | priced asset still uTokens =>
    rw [uTokens]
    exact .refl _
  | accrued asset priced still h =>
    obtain ⟨s₁, h₁, hU, -⟩ := h
    rw [hU]
    exact State.updateState_kept h₁ r
  | deposited asset onBehalfOf amount s₁ u hc updated minted uTokens =>
    rw [uTokens]
    refine (State.updateState_kept updated r).trans ?_
    by_cases hr : r = asset
    · subst hr
      rw [Function.update_self]
      exact UToken.mint_kept.ok minted
    · rw [Function.update_of_ne hr]
      exact .refl _
  | withdrawn asset receiver amount m s₁ u hc updated scaled burnt uTokens =>
    rw [uTokens]
    refine (State.updateState_kept updated r).trans ?_
    by_cases hr : r = asset
    · subst hr
      rw [Function.update_self]
      have hk := UToken._burn_kept.ok burnt
      refine ⟨hk.adds, fun a ha => hk.spares a fun heq => ha ⟨heq, _, _, hc⟩⟩
    · rw [Function.update_of_ne hr]
      exact .refl _

/-- The account whose uTokens of reserve `r` an action may burn. -/
def Action.burnsOf (r a : Address) : Action D → Prop
  | .call sender _ c => c.burnsOf sender r a
  | _ => False

/-- **What every step keeps.** -/
theorem execute_kept {action : Action D} (h : s.execute D action = .ok s') (r : Address) :
    UToken.Kept (fun a => ¬ action.burnsOf r a) (s.uTokens r) (s'.uTokens r) := by
  cases action with
  | call sender outside c => exact ((perform_supplies c).ok h).kept r
  | configure setting =>
    obtain ⟨hb, ht⟩ := ((configure_framed setting).ok h).uTokens r
    exact .ofEq hb ht
  | event e =>
    obtain rfl := Except.ok.inj h
    rw [happen_uTokens]
    exact .refl _

end Kept

end Unlockd

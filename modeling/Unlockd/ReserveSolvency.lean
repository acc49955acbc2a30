/-
The WETH reserve is solvent, over every history of the chain.

What the suppliers are to get is covered by what the reserve can pay out and what the borrowers owe
it, but for a little in every step and in every second. This holds as long as nobody does what is
known to break it: the price of a share of the vault stays, no loan in WETH is sold through the
adapter, and the reserve factor is not raised while interest runs. The amounts have to be of a size
that the code was made for.
-/
import Unlockd.ReserveTurns
import Unlockd.Holders

set_option autoImplicit false

namespace Unlockd

open Outcome Machine FixedPoint

/-! ## What is done beside the protocol -/

/-- A step leaves reserves, debts and the totals of the uTokens, and takes nothing out of the
vault. -/
structure Aside (s s' : State) : Prop where
  lendPool : s'.lendPool = s.lendPool
  debtTokens : s'.debtTokens = s.debtTokens
  blockTimestamp : s'.blockTimestamp = s.blockTimestamp
  supplies : ∀ r, (s'.uTokens r).scaledTotalSupply = (s.uTokens r).scaledTotalSupply
  price : s'.yVault.pricePerShare = s.yVault.pricePerShare
  shares : ∀ u, s.yVault.shares u ≤ s'.yVault.shares u

section Aside

variable {D : Deployment} {c c' : Chain} {sender : Address}

theorem Chain.UTokenStep.aside (h : c.UTokenStep sender c') : Aside c.protocol c'.protocol := by
  have sent {asset src dst : Address} {amount : ℕ}
      (h : Chain.Sent c.protocol c'.protocol asset src dst amount) :
      Aside c.protocol c'.protocol := by
    obtain ⟨_, n, u, -, -, hu, hs⟩ := h
    obtain ⟨-, hu⟩ := require_bind_eq_ok.mp hu
    obtain ⟨-, hu⟩ := require_bind_eq_ok.mp hu
    have htotal : u.scaledTotalSupply = (c.protocol.uTokens asset).scaledTotalSupply := by
      rw [← Except.ok.inj hu]
    rw [hs]
    refine ⟨rfl, rfl, rfl, fun r => ?_, rfl, fun _ => le_rfl⟩
    show (Function.update c.protocol.uTokens asset u r).scaledTotalSupply = _
    by_cases hr : r = asset
    · subst hr
      rw [Function.update_self, htotal]
    · rw [Function.update_of_ne hr]
  cases h with
  | sent asset dst amount h => exact sent h
  | spent asset src dst amount h => exact sent h
  | approved asset spender amount h =>
    rw [h]
    exact ⟨rfl, rfl, rfl, fun _ => rfl, rfl, fun _ => le_rfl⟩

/-- A sweep adds shares. -/
theorem State.sweepUToken_aside {s : State} {asset : Address} :
    Returns (s.sweepUToken D asset) (Aside s) := by
  unfold State.sweepUToken State.executeDepositYearn
  refine Sat.applyIf (fun _ => ?_) fun _ => ⟨rfl, rfl, rfl, fun _ => rfl, rfl, fun _ => le_rfl⟩
  refine Returns.step fun e _ => Sat.bind State.safeTransferFrom_posted fun s₁ h₁ => ?_
  obtain ⟨E, rfl, -⟩ := h₁
  exact ⟨rfl, rfl, rfl, fun _ => rfl, rfl, fun u => Tally.le_credit s.yVault.shares _ _ u⟩

/-- **Every step beside the protocol.** -/
theorem Chain.execute_aside {action : ChainAction D} (ha : ∀ a, action ≠ .protocol a) :
    Returns (c.execute D action) (fun c' => Aside c.protocol c'.protocol) := by
  cases action with
  | protocol action => exact absurd rfl (ha action)
  | uToken sender outside call => exact (Chain.performUToken_step call).imp fun _ h => h.aside
  | rescueUToken asset dst amount => exact (Chain.performUToken_step _).imp fun _ h => h.aside
  | sweepUToken asset =>
    exact Returns.check fun _ => Chain.ofProtocol_returns State.sweepUToken_aside
  | rescue token dst amount =>
    refine Chain.ofProtocol_returns (State.safeTransfer_posted.imp fun s' hs' => ?_)
    obtain ⟨E, rfl, -⟩ := hs'
    exact ⟨rfl, rfl, rfl, fun _ => rfl, rfl, fun _ => le_rfl⟩
  | rescueNFT nftAsset tokenId dst =>
    refine Chain.ofProtocol_returns ((State.safeTransferNft_spec D).returns.imp fun s' hs' => ?_)
    obtain ⟨C, rfl⟩ := hs'
    exact ⟨rfl, rfl, rfl, fun _ => rfl, rfl, fun _ => le_rfl⟩
  | burnNft sender outside nftAsset tokenId =>
    refine Returns.step fun s' hs' => ?_
    obtain ⟨-, hs'⟩ := require_bind_eq_ok.mp hs'
    obtain ⟨-, hs'⟩ := require_bind_eq_ok.mp hs'
    obtain rfl := Except.ok.inj hs'
    exact ⟨rfl, rfl, rfl, fun _ => rfl, rfl, fun _ => le_rfl⟩

/-- **The chain refines its reserves**, as the protocol does. -/
theorem ReachableChain.clocked (hr : ReachableChain D sparing c) {asset : Address}
    (hinit : (c.protocol.lendPool.reserves asset).uTokenAddress ≠ 0) :
    (c.protocol.clocked asset).Reachable := by
  induction hr with
  | start g =>
    rw [g.genesis.reserves] at hinit
    exact absurd rfl hinit
  | @next c c' hr hst ih =>
    have hsound := ReachableChain.sound hr
    obtain ⟨action, -, hc'⟩ := hst
    by_cases ha : ∃ a, action = .protocol a
    · obtain ⟨a, rfl⟩ := ha
      obtain ⟨s', hs', rfl⟩ := Chain.ofProtocol_eq_ok.mp hc'
      obtain ⟨_, _, _, _, hstepped⟩ := execute_stepped hsound.books hs'
      have hstamp := hsound.books.stamps asset
      by_cases h0 : (c.protocol.lendPool.reserves asset).uTokenAddress = 0
      · obtain ⟨u, ir, R, hR, hop⟩ := hstepped.opened asset h0 hinit
        have hfresh : Clocked.Fresh ⟨s'.blockTimestamp, R⟩ :=
          ⟨_, u, ir, hR, hstamp.1.trans hstepped.clock, hstamp.2⟩
        exact .next (.start hfresh) (.op (hop _))
      · have hrun := Clocked.run_of_ops (hstepped.reserves asset h0)
        exact .next ((ih h0).run hrun) (.tick hstepped.clock)
    · have haside := (Chain.execute_aside (not_exists.mp ha)).ok hc'
      have hsame : c'.protocol.clocked asset = c.protocol.clocked asset := by
        unfold State.clocked
        rw [haside.lendPool, haside.blockTimestamp]
      rw [haside.lendPool] at hinit
      rw [hsame]
      exact ih hinit

end Aside

/-! ## The reserve as a pool -/

namespace State

variable (D : Deployment) (s : State)

/-- The scaled uTokens of WETH. -/
def wethSupply : ℕ := (s.uTokens D.weth).scaledTotalSupply

/-- The WETH that can be lent or paid out. -/
def wethAvailable : ℕ := s.availableLiquidity (s.wethReserve D).uTokenAddress

/-- The reserve as a pool, of which `a` can be paid out. -/
def wethPool (a : ℕ) : LentPool.Pool ℚ :=
  (s.wethReserve D).lent (s.wethSupply D) (s.wethDebt D) a

end State

/-- Supply, liquidity and debt are below a billion tokens of eighteen decimals, the borrow rate is
no more than a million to one a year, and the time fits its type. -/
structure Moderate (D : Deployment) (s : State) : Prop where
  supply : s.wethSupply D ≤ RAY
  available : s.wethAvailable D ≤ RAY
  owed : s.wethDebt D * (s.wethReserve D).variableBorrowIndex ≤ RAY * RAY
  rate : (s.wethReserve D).currentVariableBorrowRate ≤ 10 ^ 6 * RAY
  clock : s.blockTimestamp < 2 ^ 40

/-- **The reserve is backed**: of the shares of its suppliers, no more are uncovered than `n` steps
cost, and the seconds since `t₀` up to its last update. The rates that are in force were computed
for what it could pay out when they were set, and it can pay out no less by now. -/
structure Backed (D : Deployment) (t₀ n : ℕ) (s : State) : Prop where
  initialised : (s.wethReserve D).uTokenAddress ≠ 0
  price : s.yVault.pricePerShare = WAD
  started : t₀ ≤ s.blockTimestamp
  since : s.wethDebt D ≠ 0 → t₀ ≤ (s.wethReserve D).lastUpdateTimestamp
  covered : ∃ (a : ℕ) (k : ℚ), a ≤ s.wethAvailable D ∧ 0 ≤ k ∧
    k ≤ n * (4 + inRay (s.wethReserve D).variableBorrowIndex)
      + 2 * ((s.wethReserve D).lastUpdateTimestamp - t₀ : ℕ) ∧
    (s.wethPool D a).Covered k ∧
    (s.wethAvailable D ≤ RAY → (s.wethReserve D).RatesFrom (s.wethDebt D) a)

section Steps

variable {D : Deployment} {s s' : State} {sender : Address} {c : Call D} {t₀ n : ℕ}

/-- Rates stay what they were computed for as long as the index does not fall and the reserve factor
does not rise. -/
theorem ReserveData.RatesFrom.mono {R R' : ReserveData} {N a : ℕ} (h : R.RatesFrom N a)
    (hl : R'.currentLiquidityRate = R.currentLiquidityRate)
    (hb : R'.currentVariableBorrowRate = R.currentVariableBorrowRate)
    (hj : R.variableBorrowIndex ≤ R'.variableBorrowIndex)
    (hfactor : R.currentLiquidityRate = 0 ∨
      ReserveConfiguration.getReserveFactor R'.configuration
        ≤ ReserveConfiguration.getReserveFactor R.configuration) : R'.RatesFrom N a := by
  rcases h with hzero | ⟨ir, u, o, debt, jp, f, hc, hd, hjp, hle, hf⟩
  · exact .inl (hl.trans hzero)
  · rcases hfactor with hzero | hfactor
    · exact .inl (hl.trans hzero)
    · rw [← hl, ← hb] at hc
      exact .inr ⟨ir, u, o, debt, jp, f, hc, hd, hjp, hle.trans hj, hfactor.trans hf⟩

/-- Interest runs only on debt. -/
theorem ReserveData.RatesFrom.debt_ne_zero {R : ReserveData} {N a : ℕ} (h : R.RatesFrom N a)
    (hrate : R.currentLiquidityRate ≠ 0) : N ≠ 0 := by
  obtain ⟨ir, u, o, debt, jp, f, hc, hd, -⟩ := h.resolve_left hrate
  rintro rfl
  rw [rayMul, unitMul_zero_left] at hd
  obtain rfl := Except.ok.inj hd
  refine hrate ?_
  have ho : o = 0 := by
    have hoverall := hc.overallRate
    rw [InterestRate._getOverallBorrowRate, if_pos rfl] at hoverall
    exact (Except.ok.inj hoverall).symm
  have hl := hc.liquidityRate
  rw [ho, Nat.zero_mul, divHalfUp_zero, Nat.zero_mul, divHalfUp_zero] at hl
  exact hl

/-- **Around the calls.** A step that at most changes settings, lets time pass, and pays in. -/
theorem Backed.configured (h : Backed D t₀ n s)
    (hR : (s.wethReserve D).Configured (s'.wethReserve D))
    (hfactor : (s.wethReserve D).currentLiquidityRate = 0 ∨
      ReserveConfiguration.getReserveFactor (s'.wethReserve D).configuration
        ≤ ReserveConfiguration.getReserveFactor (s.wethReserve D).configuration)
    (hS : s'.wethSupply D = s.wethSupply D) (hN : s'.wethDebt D = s.wethDebt D)
    (hclock : s.blockTimestamp ≤ s'.blockTimestamp)
    (hprice : s'.yVault.pricePerShare = s.yVault.pricePerShare)
    (hshares : ∀ u, s.yVault.shares u ≤ s'.yVault.shares u) : Backed D t₀ (n + 1) s' := by
  obtain ⟨a, k, ha, hk, hbound, hcovered, hrates⟩ := h.covered
  have hpar' := hprice.trans h.price
  obtain ⟨configuration, interestRateAddress, hR'⟩ : ∃ x y, s'.wethReserve D
      = { s.wethReserve D with configuration := x, interestRateAddress := y } := by
    generalize s'.wethReserve D = R' at hR
    cases hR with
    | settings x y => exact ⟨x, y, rfl⟩
    | opened u ir x hinit => exact absurd (ReserveData.init_eq hinit).1 h.initialised
  have havailable : s.wethAvailable D ≤ s'.wethAvailable D := by
    unfold State.wethAvailable
    rw [State.availableLiquidity_of_par h.price, State.availableLiquidity_of_par hpar', hR']
    exact hshares _
  refine ⟨?_, hpar', h.started.trans hclock, ?_, a, k, ha.trans havailable, hk, ?_, ?_, ?_⟩
  · rw [hR']
    exact h.initialised
  · rw [hN, hR']
    exact h.since
  · rw [hR']
    refine hbound.trans ?_
    have hindex := inRay_nonneg (s.wethReserve D).variableBorrowIndex
    push_cast
    linarith
  · unfold State.wethPool at hcovered ⊢
    rw [hS, hN, hR']
    exact hcovered
  · intro hle
    rw [hN]
    exact (hrates (havailable.trans hle)).mono (by rw [hR']) (by rw [hR']) (by rw [hR']) hfactor

/-- **Interest.** Whether the reserve is brought up to date or not, it stays backed. -/
theorem Backed.renewed (h : Backed D t₀ n s) (hm : Moderate D s) (hs : (s.clocked D.weth).Sound)
    {R : ReserveData} {supply : ℕ} (hr : Renewed s D.weth R supply) :
    ∃ (a : ℕ) (k : ℚ), a ≤ s.wethAvailable D ∧ 0 ≤ k ∧
      k ≤ n * (4 + inRay R.variableBorrowIndex) + 3 + 2 * (R.lastUpdateTimestamp - t₀ : ℕ) ∧
      (R.lent supply (s.wethDebt D) a).Covered k ∧
      (s.wethReserve D).RatesFrom (s.wethDebt D) a := by
  obtain ⟨a, k, ha, hk, hbound, hcovered, hrates⟩ := h.covered
  have hrates := hrates hm.available
  cases hr with
  | left =>
    refine ⟨a, k, ha, hk, ?_, hcovered, hrates⟩
    change k ≤ n * (4 + inRay (s.wethReserve D).variableBorrowIndex) + 3
      + 2 * ((s.wethReserve D).lastUpdateTimestamp - t₀ : ℕ)
    linarith
  | @updated i j m supply hi hj hminted hpaid =>
    have howed : s.wethDebt D * inRay (s.wethReserve D).variableBorrowIndex ≤ RAY := by
      have hcast : (s.wethDebt D * (s.wethReserve D).variableBorrowIndex : ℚ) ≤ RAY * RAY := by
        exact_mod_cast hm.owed
      rw [← inRay_mul_RAY (s.wethReserve D).variableBorrowIndex, ← mul_assoc] at hcast
      exact le_of_mul_le_mul_right hcast RAY_cast_pos
    have hrate : inRay (s.wethReserve D).currentVariableBorrowRate ≤ 10 ^ 6 := by
      rw [inRay, div_le_iff₀ RAY_cast_pos]
      exact_mod_cast hm.rate
    have hnow : uint40 s.blockTimestamp = s.blockTimestamp := uint40_of_lt hm.clock
    refine ⟨a, _, ha, ?_, ?_, ReserveData.covered_accrued hcovered hk rfl hrates hi hj hminted hpaid
      hs.liquidityIndex hs.variableBorrowIndex hs.fits.2 hm.supply (ha.trans hm.available) howed
      hrate, hrates⟩
    · unfold ReserveData.accrualLoss
      split <;> positivity
    · have hindex : inRay (s.wethReserve D).variableBorrowIndex ≤ inRay j := inRay_mono hj.le
      have hsteps : (n : ℚ) * (4 + inRay (s.wethReserve D).variableBorrowIndex)
          ≤ n * (4 + inRay j) :=
        mul_le_mul_of_nonneg_left (add_le_add_right hindex 4) (Nat.cast_nonneg n)
      change k + (s.wethReserve D).accrualLoss s.blockTimestamp ≤ n * (4 + inRay j) + 3
        + 2 * (uint40 s.blockTimestamp - t₀ : ℕ)
      have hle : (s.wethReserve D).lastUpdateTimestamp ≤ s.blockTimestamp := hs.stamp_le
      rw [hnow]
      unfold ReserveData.accrualLoss
      by_cases hzero : (s.wethReserve D).currentLiquidityRate = 0
      · have htime : (((s.wethReserve D).lastUpdateTimestamp - t₀ : ℕ) : ℚ)
            ≤ (s.blockTimestamp - t₀ : ℕ) := by exact_mod_cast Nat.sub_le_sub_right hle t₀
        rw [if_pos hzero]
        linarith
      · -- interest runs on debt, and so since `t₀` at the earliest
        have hsince := h.since (hrates.debt_ne_zero hzero)
        have htime : ((s.wethReserve D).lastUpdateTimestamp - t₀ : ℕ)
            + (s.blockTimestamp - (s.wethReserve D).lastUpdateTimestamp : ℕ)
            = (s.blockTimestamp - t₀ : ℕ) := by omega
        have htime' : (((s.wethReserve D).lastUpdateTimestamp - t₀ : ℕ) : ℚ)
            + (s.blockTimestamp - (s.wethReserve D).lastUpdateTimestamp : ℕ)
            = (s.blockTimestamp - t₀ : ℕ) := by exact_mod_cast htime
        rw [if_neg hzero]
        linarith

/-- A reserve that is brought up to date has the time stamp of the block, or the one it had. -/
theorem Renewed.frame {r : Address} {R : ReserveData} {supply : ℕ} (h : Renewed s r R supply) :
    R.uTokenAddress = (s.lendPool.reserves r).uTokenAddress ∧
      R.configuration = (s.lendPool.reserves r).configuration ∧
      (s.lendPool.reserves r).liquidityIndex ≤ R.liquidityIndex ∧
      (s.lendPool.reserves r).variableBorrowIndex ≤ R.variableBorrowIndex ∧
      (R.lastUpdateTimestamp = (s.lendPool.reserves r).lastUpdateTimestamp ∨
        R.lastUpdateTimestamp = uint40 s.blockTimestamp) := by
  cases h with
  | left => exact ⟨rfl, rfl, le_rfl, le_rfl, .inl rfl⟩
  | updated hi hj => exact ⟨rfl, rfl, hi.le, hj.le, .inr rfl⟩

/-- Rates that describe the reserve were computed for what it can pay out. -/
theorem RatesDescribe.ratesFrom (h : RatesDescribe s D.weth)
    (hpar : s.yVault.pricePerShare = WAD) (hindex : RAY ≤ (s.wethReserve D).variableBorrowIndex)
    (hle : s.wethAvailable D ≤ RAY) :
    (s.wethReserve D).RatesFrom (s.wethDebt D) (s.wethAvailable D) := by
  have hshares : s.wethAvailable D = s.yVault.shares (s.wethReserve D).uTokenAddress :=
    State.availableLiquidity_of_par hpar _
  have havailable : s.getAvailableLiquidity (s.wethReserve D).uTokenAddress
      = .ok (s.wethAvailable D) := by
    unfold State.getAvailableLiquidity wadMul
    rw [hpar, hshares]
    rw [hshares] at hle
    have hfits : s.yVault.shares (s.wethReserve D).uTokenAddress * WAD ≤ maxUint256 - WAD / 2 :=
      (Nat.mul_le_mul_right WAD hle).trans (by decide)
    rw [unitMul_ok hfits, divHalfUp_mul_self _ (by decide)]
  obtain ⟨debt, hd, hrates⟩ := bind_eq_ok.mp (h _ havailable)
  obtain ⟨available, havailable', hrates⟩ := bind_eq_ok.mp hrates
  obtain rfl := Except.ok.inj (havailable.symm.trans havailable')
  obtain ⟨rest, hrest, hrates⟩ := bind_eq_ok.mp hrates
  obtain ⟨-, rfl⟩ := checkedSub_eq_ok.mp hrest
  rw [Nat.add_zero, Nat.sub_zero] at hrates
  obtain ⟨u, o, hc⟩ := InterestRate.calculateInterestRates_computed hrates
  exact .inr ⟨_, u, o, debt, _, _, hc, hd, hindex, le_rfl, le_rfl⟩

/-- Of the reserve itself a call then changes nothing but the rates. -/
theorem SupplyMoved.reserve {R : ReserveData} {supply : ℕ}
    (h : SupplyMoved s sender c s' D.weth R supply) :
    (s'.wethReserve D).uTokenAddress = R.uTokenAddress ∧
      (s'.wethReserve D).liquidityIndex = R.liquidityIndex ∧
      (s'.wethReserve D).variableBorrowIndex = R.variableBorrowIndex ∧
      (s'.wethReserve D).lastUpdateTimestamp = R.lastUpdateTimestamp ∧
      (s'.wethReserve D).configuration = R.configuration := by
  obtain ⟨x, y, hR⟩ := h.rates
  have hR' : s'.wethReserve D
      = { R with currentLiquidityRate := x, currentVariableBorrowRate := y } := hR
  rw [hR']
  exact ⟨rfl, rfl, rfl, rfl, rfl⟩

/-- **Amounts.** They move on all sides, and what they are turned into is rounded. -/
theorem covered_moved {R : ReserveData} {supply a a' : ℕ} {k : ℚ}
    (h : (R.lent supply (s.wethDebt D) a).Covered k) (hmoved : SupplyMoved s sender c s' D.weth R
      supply) (hdebts : DebtsTurned D s c s') (hone : 1 ≤ inRay R.liquidityIndex)
    (ha' : a' + (c.withdraws s sender D.weth + c.mints D.weth)
      = a + (c.deposits D.weth + c.burns s D.weth)) :
    (s'.wethPool D a').Covered (k + (1 + inRay R.variableBorrowIndex)) := by
  obtain ⟨-, hi, hj, -⟩ := hmoved.reserve
  have howed := hdebts.owed_le
  have hworth := hmoved.worth
  have hcast : (a' + (c.withdraws s sender D.weth + c.mints D.weth) : ℚ)
      = a + (c.deposits D.weth + c.burns s D.weth) := by exact_mod_cast ha'
  have hone' : inRay R.variableBorrowIndex
      ≤ inRay R.variableBorrowIndex * inRay R.liquidityIndex :=
    le_mul_of_one_le_right (inRay_nonneg _) hone
  rw [hj] at howed
  refine h.moved (congrArg inRay hi) ?_
  unfold LentPool.Pool.funds LentPool.Pool.owed LentPool.Pool.claims State.wethPool
    ReserveData.lent
  unfold State.wethSupply
  dsimp only
  rw [hi, hj, add_mul, one_mul]
  linarith

/-- New debt is as of the block. -/
theorem Backed.since_call (h : Backed D t₀ n s) (hb : Books D s) (hsender : D.isUser sender)
    (hdone : s.perform D sender c = .ok s') (hdebts : DebtsTurned D s c s')
    (hclock : s.blockTimestamp < 2 ^ 40) (hne : s'.wethDebt D ≠ 0) :
    t₀ ≤ (s'.wethReserve D).lastUpdateTimestamp := by
  obtain ⟨_, _, _, _, hstepped⟩ := execute_stepped (a := .call sender hsender c) hb hdone
  have hnow : t₀ ≤ uint40 s.blockTimestamp := h.started.trans (uint40_of_lt hclock).ge
  have hlater (hle : t₀ ≤ (s.wethReserve D).lastUpdateTimestamp) :
      t₀ ≤ (s'.wethReserve D).lastUpdateTimestamp := by
    rcases hstepped.stamp D.weth with hsame | hnew
    · exact hle.trans hsame.ge
    · exact hnow.trans hnew.ge
  cases hdebts with
  | priced sets owed stamp =>
    rcases stamp with hsame | hnew
    · exact hlater (h.since (hsame ▸ hne))
    · exact hnow.trans hnew.ge
  | kept debt => exact hlater (h.since (debt ▸ hne))

/-- **Every call.** -/
theorem Backed.call (h : Backed D t₀ n s) (hb : Books D s) (hs : (s.clocked D.weth).Sound)
    (hadds : Tally.AddsUp (s.wethSupply D) (s.uTokens D.weth).scaledBalanceOf) (hexact : D.Exact)
    (hm : Moderate D s) (hsender : D.isUser sender) (hsells : ¬ c.SellsWeth s)
    (hdone : s.perform D sender c = .ok s') : Backed D t₀ (n + 1) s' := by
  obtain ⟨R, supply, hmoved⟩ := ((perform_supplies c).ok hdone).moved hadds
  have hdebts := (perform_debtsTurned hb hsender c hsells).ok hdone
  obtain ⟨hpar', hrelends⟩ := relends_iff hb hexact h.price hdone
  have hrelends := hrelends.mpr hsells
  obtain ⟨_, _, _, _, hstepped⟩ := execute_stepped (a := .call sender hsender c) hb hdone
  obtain ⟨huToken, hconfiguration, hiR, hjR, -⟩ := hmoved.renewed.frame
  obtain ⟨huToken', -, hj, hstamp, hconfiguration'⟩ := hmoved.reserve
  obtain ⟨a, k, ha, hk, hbound, hcovered, hrates⟩ := h.renewed hm hs hmoved.renewed
  have hone : 1 ≤ inRay R.liquidityIndex := one_le_inRay (hs.liquidityIndex.trans hiR)
  have hsame : (s'.wethReserve D).uTokenAddress = (s.wethReserve D).uTokenAddress :=
    huToken'.trans huToken
  have hA : s'.wethAvailable D + (c.withdraws s sender D.weth + c.mints D.weth)
      = s.wethAvailable D + (c.deposits D.weth + c.burns s D.weth) := by
    unfold State.wethAvailable
    rw [hsame]
    exact hrelends
  have hk' : 0 ≤ k + (1 + inRay R.variableBorrowIndex) := by
    linarith [inRay_nonneg R.variableBorrowIndex]
  have hbound' : k + (1 + inRay R.variableBorrowIndex)
      ≤ (n + 1 : ℕ) * (4 + inRay (s'.wethReserve D).variableBorrowIndex)
        + 2 * ((s'.wethReserve D).lastUpdateTimestamp - t₀ : ℕ) := by
    rw [hj, hstamp]
    push_cast
    linarith
  refine ⟨hsame.trans_ne h.initialised, hpar', h.started.trans hstepped.clock,
    h.since_call hb hsender hdone hdebts hm.clock, ?_⟩
  -- with new rates everything there is counts; with the old ones, what they were computed for
  have hpriced (hsets : SetsRates D s s' D.weth) : ∃ (a : ℕ) (k : ℚ),
      a ≤ s'.wethAvailable D ∧ 0 ≤ k ∧
      k ≤ (n + 1 : ℕ) * (4 + inRay (s'.wethReserve D).variableBorrowIndex)
        + 2 * ((s'.wethReserve D).lastUpdateTimestamp - t₀ : ℕ) ∧
      (s'.wethPool D a).Covered k ∧
      (s'.wethAvailable D ≤ RAY → (s'.wethReserve D).RatesFrom (s'.wethDebt D) a) := by
    have hcovered' : (R.lent supply (s.wethDebt D) (s.wethAvailable D)).Covered k :=
      ReserveData.covered_of_le hcovered (Nat.cast_le.mpr ha)
    have hindex' : RAY ≤ (s'.wethReserve D).variableBorrowIndex :=
      (hs.variableBorrowIndex.trans hjR).trans hj.ge
    exact ⟨s'.wethAvailable D, _, le_rfl, hk', hbound',
      covered_moved hcovered' hmoved hdebts hone hA,
      (hsets hexact h.price rfl).ratesFrom hpar' hindex'⟩
  by_cases hc : c.pricedReserve s = some D.weth
  · exact hpriced (perform_setsRates hb hsender hc hdone)
  cases hdebts with
  | priced sets owed stamp => exact hpriced sets
  | kept debt liquidityRate borrowRate mints burns =>
    obtain ⟨hdeposits, hwithdraws⟩ :
        c.deposits D.weth = 0 ∧ c.withdraws s sender D.weth = 0 := Call.still_of_not_priced hc
    have hstill : a + (c.withdraws s sender D.weth + c.mints D.weth)
        = a + (c.deposits D.weth + c.burns s D.weth) := by
      rw [hdeposits, hwithdraws, mints, burns]
    have ha' : a ≤ s'.wethAvailable D := by omega
    refine ⟨a, _, ha', hk', hbound',
      covered_moved hcovered hmoved (.kept debt liquidityRate borrowRate mints burns) hone hstill,
      fun _ => ?_⟩
    rw [debt]
    exact hrates.mono liquidityRate borrowRate (hjR.trans hj.ge)
      (.inr (congrArg _ (hconfiguration'.trans hconfiguration)).le)

end Steps

/-! ## Histories -/

section Histories

variable {D : Deployment} {c c' : Chain} {t₀ n : ℕ}

/-- The reserve has been set up, and nobody has supplied or borrowed; a share of the vault is worth
one token. -/
structure Opened (D : Deployment) (c : Chain) : Prop where
  reachable : ReachableChain D sparing c
  initialised : (c.protocol.wethReserve D).uTokenAddress ≠ 0
  supply : c.protocol.wethSupply D = 0
  debt : c.protocol.wethDebt D = 0
  rate : (c.protocol.wethReserve D).currentLiquidityRate = 0
  price : c.protocol.yVault.pricePerShare = WAD

/-- A step is taken in a state of moderate size. It keeps the price of a share, sells no loan in
WETH through the adapter, and does not raise the reserve factor while interest runs. -/
structure Prudent (D : Deployment) (e : Entry Chain (ChainAction D)) : Prop where
  moderate : Moderate D e.before.protocol
  relending : ∀ a, e.action = .protocol a → Unlockd.relending e.before.protocol a
  factor : (e.before.protocol.wethReserve D).currentLiquidityRate = 0 ∨
    ReserveConfiguration.getReserveFactor (e.after.protocol.wethReserve D).configuration
      ≤ ReserveConfiguration.getReserveFactor (e.before.protocol.wethReserve D).configuration

/-- A reserve without suppliers is backed. -/
theorem Opened.backed (h : Opened D c) : Backed D c.protocol.blockTimestamp 0 c.protocol := by
  refine ⟨h.initialised, h.price, le_rfl, fun hne => absurd h.debt hne,
    c.protocol.wethAvailable D, 0, le_rfl, le_rfl, ?_, ?_, fun _ => .inl h.rate⟩
  · rw [Nat.cast_zero, zero_mul, zero_add]
    positivity
  unfold LentPool.Pool.Covered State.wethPool
  rw [ReserveData.lent_funds, h.debt, h.supply]
  simp only [ReserveData.lent, Nat.cast_zero, sub_zero, zero_mul, add_zero]
  exact Nat.cast_nonneg _

/-- **Step lemma.** -/
theorem Backed.step (h : Backed D t₀ n c.protocol) (hr : ReachableChain D sparing c)
    (hexact : D.Exact) {action : ChainAction D} (hp : Prudent D ⟨c, action, c'⟩)
    (hok : c.execute D action = .ok c') : Backed D t₀ (n + 1) c'.protocol := by
  have hb := hr.sound.books
  by_cases ha : ∃ a, action = .protocol a
  · obtain ⟨a, rfl⟩ := ha
    obtain ⟨s', hs', rfl⟩ := Chain.ofProtocol_eq_ok.mp hok
    have hrelending := hp.relending a rfl
    cases a with
    | call sender outside call =>
      exact h.call hb (Clocked.Reachable.sound (hr.clocked h.initialised)) (hr.any.addsUp D.weth)
        hexact hp.moderate outside hrelending hs'
    | configure setting =>
      have hadministered := (configure_spec hb setting).ok hs'
      have hframed := (configure_framed setting).ok hs'
      exact h.configured (hadministered.reserves D.weth) hp.factor (hframed.uTokens D.weth).2
        (hframed.debtTokens D.weth).2.1 hadministered.clock (by rw [hframed.yVault])
        fun _ => (by rw [hframed.yVault])
    | event e =>
      obtain rfl := Except.ok.inj hs'
      have hadministered := happen_administered hb e
      have hvault : (c.protocol.happen e).yVault = c.protocol.yVault := by
        refine happen_yVault fun price he => ?_
        subst he
        exact hrelending
      refine h.configured (hadministered.reserves D.weth) hp.factor ?_ ?_ hadministered.clock
        (by rw [hvault]) fun _ => (by rw [hvault])
      · unfold State.wethSupply
        rw [happen_uTokens]
      · unfold State.wethDebt
        rw [happen_debtTokens]
  · have haside := (Chain.execute_aside (not_exists.mp ha)).ok hok
    have hR : c'.protocol.wethReserve D = c.protocol.wethReserve D :=
      congrArg (fun p => p.reserves D.weth) haside.lendPool
    refine h.configured ?_ hp.factor (haside.supplies D.weth) ?_ haside.blockTimestamp.ge
      haside.price haside.shares
    · rw [hR]
      exact .settings _ _
    · exact congrArg (fun T => (T D.weth).scaledTotalSupply) haside.debtTokens

/-- **Run lemma.** -/
theorem Opened.backed_along {c₀ : Chain} {log : List (Entry Chain (ChainAction D))}
    (ho : Opened D c₀) (hexact : D.Exact) (h : History (ChainTaken D sparing) c₀ log c)
    (hp : ∀ e ∈ log, Prudent D e) :
    ReachableChain D sparing c ∧ Backed D c₀.protocol.blockTimestamp log.length c.protocol := by
  induction h with
  | start => exact ⟨ho.reachable, ho.backed⟩
  | next hlog hst ih =>
    obtain ⟨hprudent, hrest⟩ := List.forall_mem_cons.mp hp
    obtain ⟨hr, hbacked⟩ := ih hrest
    exact ⟨hr.next hst.1 hst.2, hbacked.step hr hexact hprudent hst.2⟩

/-- What a backed reserve has, in numbers. -/
theorem Backed.claims_le {s : State} (h : Backed D t₀ n s) (hs : (s.clocked D.weth).Sound) :
    (s.wethSupply D - (n * (5 + (s.wethReserve D).variableBorrowIndex / RAY)
        + 2 * (s.blockTimestamp - t₀))) * (s.wethReserve D).liquidityIndex
      ≤ s.wethAvailable D * RAY + s.wethDebt D * (s.wethReserve D).variableBorrowIndex := by
  obtain ⟨a, k, ha, hk, hbound, hcovered, -⟩ := h.covered
  generalize hK : n * (5 + (s.wethReserve D).variableBorrowIndex / RAY)
    + 2 * (s.blockTimestamp - t₀) = K
  have hray := RAY_cast_pos
  have hkK : k ≤ (K : ℚ) := by
    have hindex : inRay (s.wethReserve D).variableBorrowIndex
        ≤ ((s.wethReserve D).variableBorrowIndex / RAY : ℕ) + 1 := by
      rw [inRay, div_le_iff₀ hray]
      have hlt := Nat.lt_div_mul_add (b := RAY) RAY_pos
        (a := (s.wethReserve D).variableBorrowIndex)
      rw [add_mul, one_mul]
      exact_mod_cast hlt.le
    have hsteps : (n : ℚ) * (4 + inRay (s.wethReserve D).variableBorrowIndex)
        ≤ n * (5 + ((s.wethReserve D).variableBorrowIndex / RAY : ℕ)) :=
      mul_le_mul_of_nonneg_left (by linarith) (Nat.cast_nonneg n)
    have htime : (((s.wethReserve D).lastUpdateTimestamp - t₀ : ℕ) : ℚ)
        ≤ (s.blockTimestamp - t₀ : ℕ) := by
      have hle : (s.wethReserve D).lastUpdateTimestamp ≤ s.blockTimestamp := hs.stamp_le
      exact_mod_cast Nat.sub_le_sub_right hle t₀
    rw [← hK]
    push_cast
    linarith
  rcases Nat.le_total (s.wethSupply D) K with hle | hle
  · rw [Nat.sub_eq_zero_of_le hle, Nat.zero_mul]
    exact Nat.zero_le _
  · have hcovered' : (s.wethSupply D - (K : ℚ)) * inRay (s.wethReserve D).liquidityIndex
        ≤ s.wethAvailable D
          + s.wethDebt D * inRay (s.wethReserve D).variableBorrowIndex := by
      have hless := ReserveData.covered_of_le
        (hcovered.weaken (inRay_nonneg _) hkK) (Nat.cast_le.mpr ha)
      unfold LentPool.Pool.Covered at hless
      rw [ReserveData.lent_funds] at hless
      exact hless
    have htokens := mul_le_mul_of_nonneg_right hcovered' hray.le
    rw [add_mul, mul_assoc, mul_assoc, inRay_mul_RAY, inRay_mul_RAY, ← Nat.cast_sub hle] at htokens
    exact_mod_cast htokens

/-- **The WETH reserve stays solvent.** Let the vault be exact. Take any history of the chain from a
state in which the reserve has no suppliers and no borrowers yet, in which rescues spare the escrow
and all steps are prudent. Then what any suppliers have together, at the index of the reserve, is
covered by the WETH that the reserve can pay out and the debt that it is owed, but for two scaled
units for every second that has passed and, for every step, five and as many as the borrow index has
rays. -/
theorem weth_reserve_stays_solvent {c₀ : Chain} {log : List (Entry Chain (ChainAction D))}
    (ho : Opened D c₀) (hexact : D.Exact) (h : History (ChainTaken D sparing) c₀ log c)
    (hp : ∀ e ∈ log, Prudent D e) (suppliers : Finset Address) :
    (∑ u ∈ suppliers, (c.protocol.uTokens D.weth).scaledBalanceOf u
        - (log.length * (5 + (c.protocol.wethReserve D).variableBorrowIndex / RAY)
          + 2 * (c.protocol.blockTimestamp - c₀.protocol.blockTimestamp)))
        * (c.protocol.wethReserve D).liquidityIndex
      ≤ c.protocol.wethAvailable D * RAY
        + c.protocol.wethDebt D * (c.protocol.wethReserve D).variableBorrowIndex := by
  obtain ⟨hr, hbacked⟩ := ho.backed_along hexact h hp
  have hsound := Clocked.Reachable.sound (hr.clocked hbacked.initialised)
  have hsum := (hr.any.addsUp D.weth).covers suppliers
  exact (Nat.mul_le_mul_right _ (Nat.sub_le_sub_right hsum _)).trans (hbacked.claims_le hsound)

end Histories

/-! ## A small reserve -/

instance (D : Deployment) (s : State) : Decidable (Moderate D s) :=
  decidable_of_iff (s.wethSupply D ≤ RAY ∧ s.wethAvailable D ≤ RAY ∧
      s.wethDebt D * (s.wethReserve D).variableBorrowIndex ≤ RAY * RAY ∧
      (s.wethReserve D).currentVariableBorrowRate ≤ 10 ^ 6 * RAY ∧ s.blockTimestamp < 2 ^ 40)
    ⟨fun ⟨hS, ha, hN, hr, ht⟩ => ⟨hS, ha, hN, hr, ht⟩,
      fun h => ⟨h.supply, h.available, h.owed, h.rate, h.clock⟩⟩

/-- The small deployment before the first deposit. -/
def Chain.sampleOpened : Chain :=
  ⟨(State.sample .weth9).after .sample (sampleSetup 1000).dropLast, fun _ _ _ => 0⟩

/-- One more action of the protocol. -/
def Chain.andThen (D : Deployment) (c : Chain) (a : Action D) : Chain :=
  ⟨c.protocol.after D [a], c.uTokenAllowance⟩

theorem Chain.andThen_taken {D : Deployment} {c : Chain} {a : Action D}
    (hok : raised (c.protocol.execute D a) = none) :
    ChainTaken D sparing c (.protocol a) (c.andThen D a) :=
  ⟨trivial, Chain.ofProtocol_eq_ok.mpr ⟨_, State.execute_after hok, rfl⟩⟩

theorem Chain.sample_genesis_small (kind : Erc20Kind) :
    ChainGenesis .sample ⟨State.sample kind, fun _ _ _ => 0⟩ where
  genesis := State.sample_genesis kind
  untouched := ⟨fun _ => rfl, fun a x y hx hxy => by
    have heq : x = 100 ∧ y = 1 := of_decide_eq_true hxy
    exact absurd (heq.1 ▸ hx) Deployment.sample_borrower.2⟩
  supplies _ := ⟨rfl, fun _ => rfl⟩
  allowances _ _ _ := rfl

theorem Chain.sampleOpened_reachable : ReachableChain .sample sparing .sampleOpened := by
  have hrun : Relation.ReflTransGen (Step .sample (anyAction .sample)) (.sample .weth9)
      ((State.sample .weth9).after .sample (sampleSetup 1000).dropLast) :=
    State.after_run fun _ _ _ => trivial
  refine Machine.Reachable.run (.start (Chain.sample_genesis_small .weth9)) ?_
  exact hrun.lift (fun s => (⟨s, fun _ _ _ => 0⟩ : Chain)) fun _ _ hst => .ofProtocol hst

theorem Chain.sampleOpened_opened : Opened .sample .sampleOpened where
  reachable := Chain.sampleOpened_reachable
  initialised := by decide +kernel
  supply := by decide +kernel
  debt := by decide +kernel
  rate := by decide +kernel
  price := by decide +kernel

/-- User 101 supplies a thousand tokens, and user 100 borrows thirty of them. -/
def sampleSupply : Action .sample :=
  .call 101 Deployment.sample_supplier (.deposit 10 (1000 * WAD) 101)

@[inherit_doc sampleSupply]
def sampleBorrow : Action .sample :=
  .call 100 Deployment.sample_borrower (.borrow 10 (30 * WAD) 40 7 100)

def Chain.sampleLent : Chain :=
  (Chain.sampleOpened.andThen .sample sampleSupply).andThen .sample sampleBorrow

/-- Time passes, and the reserve is brought up to date when user 101 supplies a token more. -/
def Chain.sampleLater : Chain := Chain.sampleLent.andThen .sample (.event (.tick 1000000))

@[inherit_doc Chain.sampleLater]
def Chain.sampleRenewed : Chain :=
  Chain.sampleLater.andThen .sample (.call 101 Deployment.sample_supplier (.deposit 10 WAD 101))

/-- The log of these steps. -/
def Chain.sampleLog : List (Entry Chain (ChainAction .sample)) :=
  [⟨.sampleLater, .protocol (.call 101 Deployment.sample_supplier (.deposit 10 WAD 101)),
      .sampleRenewed⟩,
    ⟨.sampleLent, .protocol (.event (.tick 1000000)), .sampleLater⟩,
    ⟨Chain.sampleOpened.andThen .sample sampleSupply, .protocol sampleBorrow, .sampleLent⟩,
    ⟨.sampleOpened, .protocol sampleSupply, Chain.sampleOpened.andThen .sample sampleSupply⟩]

/-- Interest has run, and user 101 is covered. -/
theorem weth_reserve_stays_solvent_sample :
    RAY < (Chain.sampleRenewed.protocol.wethReserve .sample).liquidityIndex ∧
    (∑ u ∈ {101}, (Chain.sampleRenewed.protocol.uTokens Deployment.sample.weth).scaledBalanceOf u
        - (Chain.sampleLog.length
            * (5 + (Chain.sampleRenewed.protocol.wethReserve .sample).variableBorrowIndex / RAY)
          + 2 * (Chain.sampleRenewed.protocol.blockTimestamp
            - Chain.sampleOpened.protocol.blockTimestamp)))
        * (Chain.sampleRenewed.protocol.wethReserve .sample).liquidityIndex
      ≤ Chain.sampleRenewed.protocol.wethAvailable .sample * RAY
        + Chain.sampleRenewed.protocol.wethDebt .sample
          * (Chain.sampleRenewed.protocol.wethReserve .sample).variableBorrowIndex := by
  have hlog : History (ChainTaken .sample sparing) .sampleOpened Chain.sampleLog .sampleRenewed :=
    (((History.start.next (Chain.andThen_taken (by decide +kernel))).next
      (Chain.andThen_taken (by decide +kernel))).next
        (Chain.andThen_taken (by decide +kernel))).next (Chain.andThen_taken (by decide +kernel))
  have hprudent : ∀ e ∈ Chain.sampleLog, Prudent .sample e := by
    unfold Chain.sampleLog
    simp only [List.forall_mem_cons]
    refine ⟨⟨by decide +kernel, ?_, by decide +kernel⟩, ⟨by decide +kernel, ?_, by decide +kernel⟩,
      ⟨by decide +kernel, ?_, by decide +kernel⟩, ⟨by decide +kernel, ?_, by decide +kernel⟩,
      List.forall_mem_nil _⟩
    · rintro a ⟨⟩
      exact id
    · rintro a ⟨⟩
      trivial
    · rintro a ⟨⟩
      exact id
    · rintro a ⟨⟩
      exact id
  exact ⟨by decide +kernel, weth_reserve_stays_solvent Chain.sampleOpened_opened
    Deployment.sample_exact hlog hprudent {101}⟩

end Unlockd

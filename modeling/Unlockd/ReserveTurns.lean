/-
What a call does to a reserve as a pool: to what its suppliers hold, to what it is owed, to what it
can pay out, and to its rates.

The four sides were walked through one at a time. Here they are put together for the WETH reserve,
with a vault that pays one to one: a call that works on the reserve brings it up to date, moves an
amount on one side, and leaves rates that describe it; any other call leaves it as it was.
-/
import Unlockd.Supplies
import Unlockd.ReserveInterest

set_option autoImplicit false

namespace Unlockd

open Outcome FixedPoint LendPoolLoan Tally

/-! ## What the reserve is owed -/

section Owed

variable {T T' : Address → DebtToken} {caller reserve initiator onBehalfOf user r : Address}
  {amount index : ℕ}

/-- An amount that is minted is owed, but for its rounding. -/
theorem Minted.owed (h : Minted caller reserve initiator onBehalfOf amount index T T') :
    (T reserve).scaledTotalSupply * index + amount * RAY
      ≤ (T' reserve).scaledTotalSupply * index + index := by
  obtain ⟨d, hd, rfl⟩ := h
  obtain ⟨-, hd⟩ := require_bind_eq_ok.mp hd
  obtain ⟨d₁, hd₁, hd⟩ := bind_eq_ok.mp hd
  obtain ⟨n, hn, hd⟩ := bind_eq_ok.mp hd
  obtain ⟨-, hd⟩ := require_bind_eq_ok.mp hd
  obtain ⟨-, hd⟩ := require_bind_eq_ok.mp hd
  obtain rfl := Except.ok.inj hd
  have htotal : d₁.scaledTotalSupply = (T reserve).scaledTotalSupply := by
    unfold applyIf at hd₁
    split at hd₁
    · obtain ⟨-, hd₁⟩ := require_bind_eq_ok.mp hd₁
      rw [← Except.ok.inj hd₁]
    · rw [← Except.ok.inj hd₁]
  obtain ⟨hpos, rfl⟩ := rayDiv_spec hn
  have hlt := lt_divHalfUp_mul (amount * RAY) hpos
  simp only [Function.update_self, htotal, Nat.add_mul]
  omega

/-- What is burnt is no more than the amount, but for its rounding. -/
theorem Burnt.owed_le (h : Burnt caller reserve user amount index T T') :
    (T reserve).scaledTotalSupply * index
      ≤ (T' reserve).scaledTotalSupply * index + amount * RAY + index := by
  obtain ⟨d, hd, rfl⟩ := h
  obtain ⟨-, hd⟩ := require_bind_eq_ok.mp hd
  obtain ⟨n, hn, hd⟩ := bind_eq_ok.mp hd
  obtain ⟨-, hd⟩ := require_bind_eq_ok.mp hd
  obtain ⟨-, hd⟩ := require_bind_eq_ok.mp hd
  obtain ⟨-, hd⟩ := require_bind_eq_ok.mp hd
  obtain rfl := Except.ok.inj hd
  obtain ⟨-, rfl⟩ := rayDiv_spec hn
  have hle := divHalfUp_mul_le (amount * RAY) index
  have hback : (T reserve).scaledTotalSupply * index
      ≤ ((T reserve).scaledTotalSupply - divHalfUp (amount * RAY) index) * index
        + divHalfUp (amount * RAY) index * index := by
    rw [← Nat.add_mul]
    exact Nat.mul_le_mul_right _ le_tsub_add
  simp only [Function.update_self]
  omega

/-- Other reserves are owed what they were. -/
theorem Minted.other (h : Minted caller reserve initiator onBehalfOf amount index T T')
    (hr : r ≠ reserve) : T' r = T r := by
  obtain ⟨d, -, rfl⟩ := h
  exact Function.update_of_ne hr _ _

@[inherit_doc Minted.other]
theorem Burnt.other (h : Burnt caller reserve user amount index T T') (hr : r ≠ reserve) :
    T' r = T r := by
  obtain ⟨d, -, rfl⟩ := h
  exact Function.update_of_ne hr _ _

/-- A position that is handed over is owed as before. -/
theorem HandedOver.owed_le {D : Deployment} {s : State} {loan : LoanData} {L : LendPoolLoan}
    (h : HandedOver D s loan onBehalfOf index L T) :
    (s.debtTokens r).scaledTotalSupply ≤ (T r).scaledTotalSupply ∧
      (r ≠ loan.reserveAsset → T r = s.debtTokens r) := by
  obtain ⟨T₁, hburnt, hminted⟩ := h.debts
  refine ⟨?_, fun hr => (hminted.other hr).trans (hburnt.other hr)⟩
  by_cases hr : r = loan.reserveAsset
  · subst hr
    obtain ⟨d, hd, rfl⟩ := hburnt
    obtain ⟨d', hd', rfl⟩ := hminted
    obtain ⟨-, hd⟩ := require_bind_eq_ok.mp hd
    obtain ⟨n, hn, hd⟩ := bind_eq_ok.mp hd
    obtain ⟨-, hd⟩ := require_bind_eq_ok.mp hd
    obtain ⟨-, hd⟩ := require_bind_eq_ok.mp hd
    obtain ⟨-, hd⟩ := require_bind_eq_ok.mp hd
    obtain rfl := Except.ok.inj hd
    -- the same amount at the same index is the same scaled amount
    obtain ⟨-, hd'⟩ := require_bind_eq_ok.mp hd'
    obtain ⟨d₁, hd₁, hd'⟩ := bind_eq_ok.mp hd'
    obtain ⟨n', hn', hd'⟩ := bind_eq_ok.mp hd'
    obtain ⟨-, hd'⟩ := require_bind_eq_ok.mp hd'
    obtain ⟨-, hd'⟩ := require_bind_eq_ok.mp hd'
    obtain rfl := Except.ok.inj hd'
    obtain rfl := Except.ok.inj (hn.symm.trans hn')
    rw [applyIf, if_neg (fun hne => hne rfl)] at hd₁
    obtain rfl := Except.ok.inj hd₁
    simp only [Function.update_self]
    omega
  · rw [(hminted.other hr).trans (hburnt.other hr)]

end Owed

/-! ## Rates after a sale on the market -/

section MarketRates

variable {D : Deployment} {s s' : State} {nftAsset caller onBehalfOf : Address}
  {tokenId amount : ℕ}

/-- What describes a reserve looks at nothing that a payment or a listing changes. -/
theorem SetsRates.ofEq {s'' : State} {asset : Address} (h : SetsRates D s s' asset)
    (hR : s''.lendPool.reserves = s'.lendPool.reserves) (hT : s''.debtTokens = s'.debtTokens)
    (hv : s''.yVault = s'.yVault) (hir : s''.interestRates = s'.interestRates) :
    SetsRates D s s'' asset := by
  intro hexact hpar hweth available havailable
  have hd := h hexact hpar hweth available
  unfold State.getAvailableLiquidity State.ratesFor at *
  rw [hR, hv] at havailable
  rw [hR, hT, hir]
  unfold State.getAvailableLiquidity at *
  rw [hv]
  exact hd havailable

namespace State

theorem _transferDebt_setsRates : Returns (s._transferDebt D nftAsset tokenId onBehalfOf)
    (fun s' => SetsRates D s s' (s.loanOn nftAsset tokenId).reserveAsset) := by
  refine Sat.bind updateReserveState_spec.returns fun s₁ h₁ => ?_
  obtain ⟨-, Rs, U, rfl, hupd⟩ := h₁
  refine Returns.step fun b _ => Returns.check fun _ => ?_
  refine Sat.bind burnDebt_posted fun s₂ h₂ => ?_
  obtain ⟨T₁, rfl, -⟩ := h₂
  refine Sat.bind mintDebt_posted fun s₃ h₃ => ?_
  obtain ⟨T, rfl, -⟩ := h₃
  refine Sat.bind reMintUNFT_stored fun s₄ h₄ => ?_
  obtain ⟨L, C, N, rfl, -⟩ := h₄
  refine Sat.bind updateReserveInterestRates_spec.returns fun s₅ h₅ => ?_
  obtain ⟨Rs', rfl, hpriced⟩ := h₅
  refine Returns.step fun M _ => fun _ hpar _ => ?_
  exact hpriced.describe rfl rfl rfl rfl hpar hpar rfl

theorem buy_setsRates : Returns (s.buy D caller nftAsset tokenId onBehalfOf amount)
    (fun s' => SetsRates D s s' (s.loanOn nftAsset tokenId).reserveAsset) := by
  refine Returns.check fun _ => Returns.step fun _ _ => Returns.check fun _ => ?_
  refine Returns.check fun _ => Sat.bind _transferDebt_setsRates fun s₁ h₁ => ?_
  refine Returns.step fun price _ => Returns.check fun _ => ?_
  refine Sat.bind safeTransferFrom_posted fun s₂ h₂ => ?_
  obtain ⟨E, rfl, -⟩ := h₂
  refine Sat.imp (applyIf_posted safeTransferFrom_posted) fun s₃ h₃ => ?_
  obtain ⟨E', rfl, -⟩ := h₃
  exact h₁.ofEq rfl rfl rfl rfl

theorem claim_setsRates : Returns (s.claim D nftAsset tokenId onBehalfOf)
    (fun s' => SetsRates D s s' (s.loanOn nftAsset tokenId).reserveAsset) := by
  refine Returns.check fun _ => Returns.step fun _ _ => Returns.check fun _ => ?_
  refine Returns.check fun _ => Returns.check fun _ => ?_
  refine Sat.bind _transferDebt_setsRates fun s₁ h₁ => ?_
  refine Sat.imp safeTransfer_posted fun s₂ h₂ => ?_
  obtain ⟨E, rfl, -⟩ := h₂
  exact h₁.ofEq rfl rfl rfl rfl

theorem bid_setsRates {bidPrice : ℕ} :
    Returns (s.bid D caller nftAsset tokenId bidPrice onBehalfOf) (fun s' =>
      (s'.lendPool = s.lendPool ∧ s'.debtTokens = s.debtTokens) ∨
        SetsRates D s s' (s.loanOn nftAsset tokenId).reserveAsset) := by
  refine Returns.check fun _ => Returns.step fun _ _ => Returns.step fun sellPrice _ => ?_
  refine Returns.check fun _ => Returns.check fun _ => Returns.check fun _ => ?_
  refine Returns.check fun _ => ?_
  refine Sat.bind (P := fun s₁ => (s₁.lendPool = s.lendPool ∧ s₁.debtTokens = s.debtTokens) ∨
    SetsRates D s s₁ (s.loanOn nftAsset tokenId).reserveAsset) ?_ fun s₁ h₁ => ?_
  · refine Sat.ite (fun _ => _transferDebt_setsRates.imp fun _ => .inr) fun _ => ?_
    exact Returns.step fun _ _ => Returns.check fun _ => .inl ⟨rfl, rfl⟩
  refine Sat.bind safeTransferFrom_posted fun s₂ h₂ => ?_
  obtain ⟨E, rfl, -⟩ := h₂
  refine Sat.imp (applyIf_posted safeTransferFrom_posted) fun s₃ h₃ => ?_
  obtain ⟨E', rfl, -⟩ := h₃
  exact h₁.imp id fun h => h.ofEq rfl rfl rfl rfl

end State

end MarketRates

/-! ## What the suppliers hold -/

section Supply

variable {D : Deployment} {s s₁ s' : State} {sender asset : Address} {c : Call D}

/-- A reserve and its scaled supply, left as they are or brought up to date. -/
inductive Renewed (s : State) (r : Address) : ReserveData → ℕ → Prop
  | left : Renewed s r (s.lendPool.reserves r) (s.uTokens r).scaledTotalSupply
  | updated {i j m supply : ℕ}
      (liquidityIndex : (s.lendPool.reserves r).NextLiquidityIndex s.blockTimestamp i)
      (borrowIndex : (s.lendPool.reserves r).NextBorrowIndex (s.debtTokens r).scaledTotalSupply
        s.blockTimestamp j)
      (minted : ((s.lendPool.reserves r).withIndices i j s.blockTimestamp).amountToMint
        (s.debtTokens r).scaledTotalSupply (s.lendPool.reserves r).variableBorrowIndex j = .ok m)
      (paid : ReserveData.TreasuryPaid (s.uTokens r).scaledTotalSupply supply i m) :
      Renewed s r ((s.lendPool.reserves r).withIndices i j s.blockTimestamp) supply

theorem State.updateState_renewed (h : s.updateState asset = .ok s₁) (r : Address) :
    Renewed s r (s₁.lendPool.reserves r) (s₁.uTokens r).scaledTotalSupply := by
  obtain ⟨R, hR, h⟩ := bind_eq_ok.mp h
  obtain ⟨m, hm, h⟩ := bind_eq_ok.mp h
  obtain ⟨u, hu, h⟩ := bind_eq_ok.mp h
  obtain rfl := Except.ok.inj h
  show Renewed s r (Function.update s.lendPool.reserves asset R r)
    (Function.update s.uTokens asset u r).scaledTotalSupply
  by_cases hr : r = asset
  · subst hr
    obtain ⟨i, j, rfl, hi, hj⟩ := ReserveData._updateIndexes_spec.ok hR
    simp only [State.setReserve, Function.update_self] at hm hu
    rw [Function.update_self, Function.update_self]
    refine .updated hi hj hm ?_
    unfold UToken.mintToTreasury at hu
    split at hu
    · rename_i hzero
      exact .inl ⟨hzero, by rw [← Except.ok.inj hu]⟩
    · obtain ⟨n, hn, hu⟩ := bind_eq_ok.mp hu
      obtain ⟨-, hu⟩ := require_bind_eq_ok.mp hu
      exact .inr ⟨n, hn, by rw [← Except.ok.inj hu]⟩
  · rw [Function.update_of_ne hr, Function.update_of_ne hr]
    exact .left

/-- What a call does to a reserve and to its uTokens: it may bring it up to date, and set its rates;
then what the uTokens are worth goes with what is deposited and withdrawn. -/
structure SupplyMoved (s : State) (sender : Address) (c : Call D) (s' : State) (r : Address)
    (R : ReserveData) (supply : ℕ) : Prop where
  renewed : Renewed s r R supply
  rates : ∃ x y, s'.lendPool.reserves r
    = { R with currentLiquidityRate := x, currentVariableBorrowRate := y }
  worth : (s'.uTokens r).scaledTotalSupply * inRay R.liquidityIndex + c.withdraws s sender r
    ≤ supply * inRay R.liquidityIndex + c.deposits r + inRay R.liquidityIndex

theorem RatesApart.rates {Rs Rs' : Address → ReserveData} (h : RatesApart asset Rs Rs')
    (r : Address) : ∃ x y, Rs' r
      = { Rs r with currentLiquidityRate := x, currentVariableBorrowRate := y } := by
  by_cases hr : r = asset
  · subst hr
    exact h.2
  · exact ⟨_, _, h.1 r hr⟩

/-- What deposits or withdraws sets the rates of the reserve. -/
theorem Call.still_of_not_priced (hc : c.pricedReserve s ≠ some asset) :
    c.deposits asset = 0 ∧ c.withdraws s sender asset = 0 := by
  cases c with
  | deposit a => exact ⟨if_neg fun ha => hc (congrArg some ha), rfl⟩
  | withdraw a => exact ⟨rfl, if_neg fun ha => hc (congrArg some ha)⟩
  | _ => exact ⟨rfl, rfl⟩

/-- **Every call, on supply.** -/
theorem SupplyTurned.moved (h : SupplyTurned s sender c s') {r : Address}
    (hadds : AddsUp (s.uTokens r).scaledTotalSupply (s.uTokens r).scaledBalanceOf) :
    ∃ R supply, SupplyMoved s sender c s' r R supply := by
  have still {R : ReserveData} {supply : ℕ} (hc : c.Still s sender)
      (hS : (s'.uTokens r).scaledTotalSupply = supply) :
      (s'.uTokens r).scaledTotalSupply * inRay R.liquidityIndex + c.withdraws s sender r
        ≤ supply * inRay R.liquidityIndex + c.deposits r + inRay R.liquidityIndex := by
    rw [(hc r).1, (hc r).2, hS, Nat.cast_zero, add_zero]
    exact le_add_of_nonneg_right (inRay_nonneg _)
  cases h with
  | priced asset hc uTokens reserves =>
    exact ⟨_, _, .left, reserves.rates r, still hc (by rw [uTokens])⟩
  | accrued asset priced hc h =>
    obtain ⟨s₁, h₁, hU, hR⟩ := h
    exact ⟨_, _, State.updateState_renewed h₁ r, hR.rates r, still hc (by rw [hU])⟩
  | deposited asset onBehalfOf amount s₁ u hc updated minted uTokens reserves =>
    refine ⟨_, _, State.updateState_renewed updated r, reserves.rates r, ?_⟩
    obtain ⟨n, hn, minted⟩ := bind_eq_ok.mp minted
    obtain ⟨-, minted⟩ := require_bind_eq_ok.mp minted
    obtain ⟨-, minted⟩ := require_bind_eq_ok.mp minted
    have hu : u.scaledTotalSupply = (s₁.uTokens asset).scaledTotalSupply + n := by
      rw [← Except.ok.inj minted]
    rw [uTokens, hc]
    simp only [Call.deposits, Call.withdraws, Nat.cast_zero, add_zero]
    by_cases hr : r = asset
    · subst hr
      rw [Function.update_self, hu, if_pos rfl, Nat.cast_add, add_mul]
      linarith [rayDiv_mul_le hn, inRay_nonneg (s₁.lendPool.reserves r).liquidityIndex]
    · rw [Function.update_of_ne hr, if_neg (Ne.symm hr), Nat.cast_zero, add_zero]
      exact le_add_of_nonneg_right (inRay_nonneg _)
  | withdrawn asset receiver amount m s₁ u hc updated scaled burnt uTokens reserves =>
    refine ⟨_, _, State.updateState_renewed updated r, reserves.rates r, ?_⟩
    obtain ⟨-, burnt⟩ := require_bind_eq_ok.mp burnt
    obtain ⟨hle, burnt⟩ := require_bind_eq_ok.mp burnt
    have hu : u.scaledTotalSupply = (s₁.uTokens asset).scaledTotalSupply - m := by
      rw [← Except.ok.inj burnt]
    rw [uTokens]
    by_cases hr : r = asset
    · subst hr
      -- what is burnt was there
      have hkept : UToken.Kept (fun _ => True) (s.uTokens r) (s₁.uTokens r) :=
        State.updateState_kept updated r
      have hcovered : m ≤ (s₁.uTokens r).scaledTotalSupply :=
        hle.trans ((hkept.adds hadds).covers.le sender)
      have hworth := le_rayDiv_mul_add scaled
      have hdeposits : c.deposits r = 0 := by
        rw [hc]
        rfl
      rw [Function.update_self, hu, hdeposits, Nat.cast_sub hcovered, sub_mul, Nat.cast_zero]
      linarith [inRay_nonneg (s₁.lendPool.reserves r).liquidityIndex]
    · have hnone : c.deposits r = 0 ∧ c.withdraws s sender r = 0 := by
        rw [hc]
        exact ⟨rfl, if_neg (Ne.symm hr)⟩
      rw [Function.update_of_ne hr, hnone.1, hnone.2, Nat.cast_zero, add_zero]
      exact le_add_of_nonneg_right (inRay_nonneg _)

end Supply

/-! ## Debt and rates -/

/-- The scaled debt to the WETH reserve. -/
def State.wethDebt (D : Deployment) (s : State) : ℕ := (s.debtTokens D.weth).scaledTotalSupply

/-- The WETH reserve. -/
def State.wethReserve (D : Deployment) (s : State) : ReserveData := s.lendPool.reserves D.weth

/-- What a call does to the debt and the rates of the WETH reserve: it sets the rates, and what is
owed goes with what is minted and burnt; or both are as they were. -/
inductive DebtsTurned (D : Deployment) (s : State) (c : Call D) (s' : State) : Prop
  | priced (sets : SetsRates D s s' D.weth)
      (owed : s.wethDebt D * (s'.wethReserve D).variableBorrowIndex + c.mints D.weth * RAY
        ≤ s'.wethDebt D * (s'.wethReserve D).variableBorrowIndex + c.burns s D.weth * RAY
          + (s'.wethReserve D).variableBorrowIndex)
      (stamp : s'.wethDebt D = s.wethDebt D ∨
        (s'.wethReserve D).lastUpdateTimestamp = uint40 s.blockTimestamp)
  | kept (debt : s'.wethDebt D = s.wethDebt D)
      (liquidityRate :
        (s'.wethReserve D).currentLiquidityRate = (s.wethReserve D).currentLiquidityRate)
      (borrowRate :
        (s'.wethReserve D).currentVariableBorrowRate = (s.wethReserve D).currentVariableBorrowRate)
      (mints : c.mints D.weth = 0) (burns : c.burns s D.weth = 0)

/-- Either way what is owed goes with what is minted and burnt. -/
theorem DebtsTurned.owed_le {D : Deployment} {s s' : State} {c : Call D}
    (h : DebtsTurned D s c s') :
    s.wethDebt D * inRay (s'.wethReserve D).variableBorrowIndex + c.mints D.weth
      ≤ s'.wethDebt D * inRay (s'.wethReserve D).variableBorrowIndex + c.burns s D.weth
        + inRay (s'.wethReserve D).variableBorrowIndex := by
  cases h with
  | priced sets owed =>
    have hcast : (s.wethDebt D * (s'.wethReserve D).variableBorrowIndex + c.mints D.weth * RAY : ℚ)
        ≤ s'.wethDebt D * (s'.wethReserve D).variableBorrowIndex + c.burns s D.weth * RAY
          + (s'.wethReserve D).variableBorrowIndex := by exact_mod_cast owed
    rw [← inRay_mul_RAY (s'.wethReserve D).variableBorrowIndex] at hcast
    refine le_of_mul_le_mul_right ?_ RAY_cast_pos
    linarith
  | kept debt liquidityRate borrowRate mints burns =>
    rw [debt, mints, burns, Nat.cast_zero, add_zero]
    exact le_add_of_nonneg_right (inRay_nonneg _)

section Debts

variable {D : Deployment} {s s' : State} {sender asset : Address} {c : Call D}
  {Rs : Address → ReserveData} {L : LendPoolLoan} {T : Address → DebtToken} {v : YVault}
  {ts : List (Transfers.Transfer Address Address)}

/-- An operation of the pool, on whichever reserve. -/
theorem Account.debtsTurned (ha : Account s s' asset Rs L T v ts)
    (sets : asset = D.weth → SetsRates D s s' D.weth)
    (howed : (s.debtTokens asset).scaledTotalSupply * (Rs asset).variableBorrowIndex
        + c.mints asset * RAY
      ≤ (T asset).scaledTotalSupply * (Rs asset).variableBorrowIndex + c.burns s asset * RAY
        + (Rs asset).variableBorrowIndex)
    (hother : ∀ r, r ≠ asset → T r = s.debtTokens r ∧ c.mints r = 0 ∧ c.burns s r = 0) :
    DebtsTurned D s c s' := by
  by_cases hw : asset = D.weth
  · have hstamp := ha.refreshed.lastUpdateTimestamp
    rw [← ha.index, ← ha.debts, hw] at howed
    rw [hw] at hstamp
    exact .priced (sets hw) howed (.inr hstamp)
  · obtain ⟨hT, hmints, hburns⟩ := hother D.weth (Ne.symm hw)
    have hR : s'.wethReserve D = s.wethReserve D := ha.refreshed.1 D.weth (Ne.symm hw)
    refine .kept ?_ (by rw [hR]) (by rw [hR]) hmints hburns
    unfold State.wethDebt
    rw [ha.debts, hT]

/-- An operation that pays off the loan on a token. -/
theorem Account.debtsTurned_paid {k : Address × ℕ} {caller : Address}
    (ha : Account s s' (s.loanOn k.1 k.2).reserveAsset Rs L T v ts)
    (sets : (s.loanOn k.1 k.2).reserveAsset = D.weth → SetsRates D s s' D.weth)
    (hc : c.paysOff = some k) (hmints : ∀ r, c.mints r = 0)
    (hburnt : Burnt caller (s.loanOn k.1 k.2).reserveAsset (s.loanOn k.1 k.2).borrower (c.payoff s)
      (Rs (s.loanOn k.1 k.2).reserveAsset).variableBorrowIndex s.debtTokens T) :
    DebtsTurned D s c s' := by
  have hburns (r : Address) :
      c.burns s r = if (s.loanOn k.1 k.2).reserveAsset = r then c.payoff s else 0 := by
    rw [Call.burns, hc]
  refine ha.debtsTurned sets ?_ fun r hr => ⟨hburnt.other hr, hmints r, ?_⟩
  · rw [hmints, hburns, if_pos rfl, Nat.zero_mul, Nat.add_zero]
    exact hburnt.owed_le
  · rw [hburns, if_neg (Ne.symm hr)]

/-- A sale on the market of debt to the reserve. -/
theorem Account.debtsTurned_handed {loan : LoanData} {onBehalfOf : Address}
    (ha : Account s s' loan.reserveAsset Rs L T v ts)
    (sets : loan.reserveAsset = D.weth → SetsRates D s s' D.weth)
    (hmints : ∀ r, c.mints r = 0) (hburns : ∀ r, c.burns s r = 0)
    (hover : HandedOver D s loan onBehalfOf (Rs loan.reserveAsset).variableBorrowIndex L T) :
    DebtsTurned D s c s' := by
  refine ha.debtsTurned sets ?_ fun r hr => ⟨hover.owed_le.2 hr, hmints r, hburns r⟩
  rw [hmints, hburns, Nat.zero_mul]
  have hle := Nat.mul_le_mul_right (Rs loan.reserveAsset).variableBorrowIndex
    (hover.owed_le (r := loan.reserveAsset)).1
  omega

/-- Bringing a reserve up to date leaves its rates. -/
theorem State.Updated.rates (h : s.Updated asset Rs) (r : Address) :
    (Rs r).currentLiquidityRate = (s.lendPool.reserves r).currentLiquidityRate ∧
      (Rs r).currentVariableBorrowRate = (s.lendPool.reserves r).currentVariableBorrowRate := by
  by_cases hr : r = asset
  · subst hr
    obtain ⟨i, j, hR, -⟩ := h.indices
    rw [hR]
    exact ⟨rfl, rfl⟩
  · rw [h.1 r hr]
    exact ⟨rfl, rfl⟩

/-- **Every call, on debt and rates.** -/
theorem perform_debtsTurned (h : Books D s) (hs : D.isUser sender) (c : Call D)
    (hsells : ¬ c.SellsWeth s) : Returns (s.perform D sender c) (DebtsTurned D s c) := by
  have same {s' : State} {c : Call D} (hP : s'.lendPool = s.lendPool)
      (hT : s'.debtTokens = s.debtTokens) (hmints : c.mints D.weth = 0)
      (hburns : c.burns s D.weth = 0) : DebtsTurned D s c s' := by
    have hR : s'.wethReserve D = s.wethReserve D := congrArg (fun p => p.reserves D.weth) hP
    exact .kept (congrArg (fun T => (T D.weth).scaledTotalSupply) hT) (by rw [hR]) (by rw [hR])
      hmints hburns
  -- the eight operations of the pool set the rates of their reserve
  have sets {s' : State} {c : Call D} (hdone : s.perform D sender c = .ok s') {asset : Address}
      (hc : c.pricedReserve s = some asset) (hw : asset = D.weth) : SetsRates D s s' D.weth :=
    perform_setsRates h hs (hc.trans (congrArg some hw)) hdone
  suffices hboth : Returns (s.perform D sender c) (fun s' =>
      s.perform D sender c = .ok s' → DebtsTurned D s c s') from
    ((Sat.returned _).and hboth).returns.imp fun s' hs' => hs'.2 hs'.1
  cases c with
  | deposit asset amount onBehalfOf =>
    refine Returns.check fun _ => State.executeDeposit_account.imp fun s' hs' hdone => ?_
    obtain ⟨Rs, ha⟩ := hs'
    exact ha.debtsTurned (sets hdone rfl) (Nat.le_add_right _ _) fun r _ => ⟨rfl, rfl, rfl⟩
  | withdraw asset amount receiver =>
    refine Returns.check fun _ => State.fst_spec ?_
    refine State.executeWithdraw_account.imp fun p hp hdone => ?_
    obtain ⟨Rs, _, _, ha, -⟩ := hp
    exact ha.debtsTurned (sets hdone rfl) (Nat.le_add_right _ _) fun r _ => ⟨rfl, rfl, rfl⟩
  | borrow asset amount nftAsset nftTokenId onBehalfOf =>
    refine Returns.check fun _ => State._borrow_account.imp fun s' hs' hdone => ?_
    obtain ⟨Rs, L, T, _, _, ha, -, -, hminted, -⟩ := hs'
    refine ha.debtsTurned (sets hdone rfl) ?_ fun r hr =>
      ⟨hminted.other hr, if_neg (Ne.symm hr), rfl⟩
    have hburns (c : Call D) (hc : c.paysOff = none) : c.burns s asset = 0 := by
      rw [Call.burns, hc]
    rw [Call.mints, if_pos rfl, hburns _ rfl, Nat.zero_mul, Nat.add_zero]
    exact hminted.owed
  | repay nftAsset nftTokenId amount =>
    refine Returns.check fun _ => State.fst_spec (State._repay_account.imp fun p hp hdone => ?_)
    obtain ⟨loan, Rs, L, T, b, n, -, rfl, hb, hn, -, ha, -, -, hburnt, -⟩ := hp
    rw [ha.updated.nextIndex] at hb
    subst hb hn
    exact ha.debtsTurned_paid (k := (nftAsset, nftTokenId)) (sets hdone rfl) rfl (fun _ => rfl)
      hburnt
  | auction nftAsset nftTokenId bidPrice onBehalfOf =>
    refine Returns.check fun _ => State.executeAuction_account.imp fun s' hs' hdone => ?_
    obtain ⟨loan, Rs, L, b, -, rfl, -, ha, -⟩ := hs'
    exact ha.debtsTurned (sets hdone rfl) (Nat.le_add_right _ _) fun r _ => ⟨rfl, rfl, rfl⟩
  | redeem nftAsset nftTokenId amount bidFine =>
    refine Returns.check fun _ => State.fst_spec ?_
    refine State.executeRedeem_account.imp fun p hp hdone => ?_
    obtain ⟨loan, Rs, L, T, fine, -, rfl, ha, -, -, hburnt⟩ := hp
    exact ha.debtsTurned_paid (k := (nftAsset, nftTokenId)) (sets hdone rfl) rfl (fun _ => rfl)
      hburnt
  | liquidate nftAsset nftTokenId amount =>
    refine Returns.check fun _ => State.fst_spec ?_
    refine State.executeLiquidate_account.imp fun p hp hdone => ?_
    obtain ⟨loan, Rs, L, T, b, -, rfl, hb, ha, -, -, hburnt⟩ := hp
    rw [ha.updated.nextIndex] at hb
    subst hb
    exact ha.debtsTurned_paid (k := (nftAsset, nftTokenId)) (sets hdone rfl) rfl (fun _ => rfl)
      hburnt
  | buyout nftAsset nftTokenId onBehalfOf =>
    refine Returns.check fun _ => State.executeBuyout_account.imp fun s' hs' hdone => ?_
    obtain ⟨loan, Rs, L, T, b, _, _, _, -, rfl, hb, -, ha, -, -, hburnt⟩ := hs'
    rw [ha.updated.nextIndex] at hb
    subst hb
    exact ha.debtsTurned_paid (k := (nftAsset, nftTokenId)) (sets hdone rfl) rfl (fun _ => rfl)
      hburnt
  | buy nftAsset tokenId onBehalfOf amount =>
    refine (State.buy_account.and State.buy_setsRates).returns.imp fun s' hs' _ => ?_
    obtain ⟨⟨-, -, -, Rs, L, T, ha, hover⟩, hsets⟩ := hs'
    exact ha.debtsTurned_handed (fun hw => hw ▸ hsets) (fun _ => rfl) (fun _ => rfl) hover
  | claim nftAsset tokenId onBehalfOf =>
    refine (State.claim_account.and State.claim_setsRates).returns.imp fun s' hs' _ => ?_
    obtain ⟨⟨-, -, -, Rs, L, T, ha, hover⟩, hsets⟩ := hs'
    exact ha.debtsTurned_handed (fun hw => hw ▸ hsets) (fun _ => rfl) (fun _ => rfl) hover
  | bid nftAsset tokenId bidPrice onBehalfOf =>
    refine (State.bid_account.and State.bid_setsRates).returns.imp fun s' hs' _ => ?_
    obtain ⟨⟨-, -, hbid⟩, ⟨hP, hT⟩ | hsets⟩ := hs'
    · exact same hP hT rfl rfl
    · rcases hbid with ⟨-, -, Rs, L, T, ha, hover⟩ | ⟨-, honly, -⟩
      · exact ha.debtsTurned_handed (fun hw => hw ▸ hsets) (fun _ => rfl) (fun _ => rfl) hover
      · exact same honly.lendPool honly.debtTokens rfl rfl
  | updateReserveState asset =>
    refine State.updateReserveState_spec.returns.imp fun s' hs' _ => ?_
    obtain ⟨-, Rs, U, rfl, hupd⟩ := hs'
    obtain ⟨hliquidity, hborrow⟩ := hupd.rates D.weth
    exact .kept rfl hliquidity hborrow rfl rfl
  | updateReserveInterestRates asset =>
    refine State.updateReserveInterestRates_spec.returns.imp fun s' hs' _ => ?_
    obtain ⟨Rs, rfl, hpriced⟩ := hs'
    by_cases hw : asset = D.weth
    · subst hw
      refine .priced (fun _ hpar _ => hpriced.describe rfl rfl rfl rfl hpar hpar rfl) ?_ (.inl rfl)
      exact Nat.le_add_right _ _
    · have hR : Rs D.weth = s.lendPool.reserves D.weth := hpriced.1 D.weth (Ne.symm hw)
      exact .kept rfl (congrArg ReserveData.currentLiquidityRate hR)
        (congrArg ReserveData.currentVariableBorrowRate hR) rfl rfl
  | liquidateReservoir nftAsset reserveAsset tokenId module sale expectedLiquidateAmount =>
    have hne : (s.loanOn nftAsset tokenId).reserveAsset ≠ D.weth := hsells
    refine (State.liquidateReservoir_account.and
      State.liquidateReservoir_supplies).returns.imp fun s' hs' _ => ?_
    obtain ⟨⟨Rs, L, T, b, _, _, ha⟩, s₁, h₁, -, hR⟩ := hs'
    obtain ⟨Rs₁, U, rfl, hupd⟩ := State.updateState_spec.ok h₁
    have hsame : s'.lendPool.reserves D.weth = Rs₁ D.weth := hR.1 D.weth hne.symm
    have hrates := hupd.rates D.weth
    refine .kept ?_ ?_ ?_ rfl (if_neg hne)
    · unfold State.wethDebt
      rw [ha.debts, ha.burnt.other hne.symm]
    · exact (congrArg ReserveData.currentLiquidityRate hsame).trans hrates.1
    · exact (congrArg ReserveData.currentVariableBorrowRate hsame).trans hrates.2
  | transferBidAmount reserveAsset bidder bidAmount =>
    refine Returns.check fun _ => Sat.imp State.safeTransfer_posted fun s' hs' _ => ?_
    obtain ⟨E, rfl, -⟩ := hs'
    exact same rfl rfl rfl rfl
  | createDebtListing =>
    refine Returns.check fun _ => Returns.check fun _ => Returns.check fun _ => ?_
    exact Returns.check fun _ => Returns.step fun M _ _ => same rfl rfl rfl rfl
  | cancelDebtListing =>
    refine Sat.imp State.cancelDebtListing_posted fun s' hs' _ => ?_
    obtain ⟨M, E, rfl, -⟩ := hs'
    exact same rfl rfl rfl rfl
  | transfer asset dst amount =>
    refine Sat.imp State.safeTransfer_posted fun s' hs' _ => ?_
    obtain ⟨E, rfl, -⟩ := hs'
    exact same rfl rfl rfl rfl
  | transferFrom asset src dst amount =>
    refine Sat.imp State.safeTransferFrom_posted fun s' hs' _ => ?_
    obtain ⟨E, rfl, -⟩ := hs'
    exact same rfl rfl rfl rfl
  | approveDelegation asset delegatee amount =>
    intro _
    refine .kept ?_ rfl rfl rfl rfl
    show ((Function.update s.debtTokens asset _) D.weth).scaledTotalSupply = _
    by_cases hw : D.weth = asset
    · subst hw
      rw [Function.update_self]
      rfl
    · rw [Function.update_of_ne hw]
      rfl
  | burn => exact Returns.check fun _ _ => same rfl rfl rfl rfl
  | transferNft => exact Returns.step fun _ _ _ => same rfl rfl rfl rfl
  | approveNft => exact Returns.check fun _ _ => same rfl rfl rfl rfl
  | approve | setApprovalForAll => exact fun _ => same rfl rfl rfl rfl

end Debts

end Unlockd
